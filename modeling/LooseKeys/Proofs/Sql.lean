/-
Module: LooseKeys.Proofs.Sql
Purpose: What a database reads in the statements, whatever the names are that they are made of.
Main exports: Sql.Token, Sql.lex, Sql.nameTokens, Sql.Reads, Sql.lex_quoteIdentifier,
  Sql.quoteIdentifier_injective, Sql.statements_name_only_their_relation
-/
import LooseKeys.Proofs.Registry
import LooseKeys.Sql
import Mathlib.Data.List.Basic

/-!
The reader goes through a statement character by character.  Inside double quotes only a double
quote means anything: it ends the name unless another one follows.  So a part of a name, whatever
its characters, is read up to the quote that was put at its end, and what follows it in a statement
is never a quote.  Statements are then read piece by piece: `Reads` says of a piece that it leaves
no token open, and passes through `++`.
-/

namespace LooseKeys.Sql

/-- A token of a statement. -/
inductive Token where
  /-- A name that stood in double quotes. -/
  | quoted (name : List Char)
  | word (text : List Char)
  /-- The place of a bound value. -/
  | parameter (digits : List Char)
  | mark (c : Char)
deriving DecidableEq, Repr

/-- What a dollar sign with some digits after it is. -/
def Token.ofDigits (digits : List Char) : Token :=
  if digits = [] then .mark '$' else .parameter digits

/-- A character of a word. -/
def isWordPart (c : Char) : Bool := c.isAlpha || c.isDigit || c = '_'

/-- What has been read of the token that is open. -/
inductive Reading where
  | between
  | word (text : List Char)
  | parameter (digits : List Char)
  | quoted (name : List Char)
  /-- A quoted name up to a quote that ends it, unless another quote follows. -/
  | closing (name : List Char)
deriving DecidableEq, Repr

namespace Reading

/-- What a character begins that belongs to no open token. -/
def start (c : Char) : List Token × Reading :=
  if c = ' ' ∨ c = '\t' ∨ c = '\n' ∨ c = '\r' then ([], between)
  else if c = '"' then ([], quoted [])
  else if c = '$' then ([], parameter [])
  else if isWordPart c then ([], word [c])
  else ([.mark c], between)

/-- The tokens that a character completes, and what is open after it. -/
def step (c : Char) : Reading → List Token × Reading
  | between => start c
  | word text =>
      if isWordPart c then ([], word (text ++ [c]))
      else (.word text :: (start c).1, (start c).2)
  | parameter digits =>
      if c.isDigit then ([], parameter (digits ++ [c]))
      else (Token.ofDigits digits :: (start c).1, (start c).2)
  | quoted name => if c = '"' then ([], closing name) else ([], quoted (name ++ [c]))
  | closing name =>
      if c = '"' then ([], quoted (name ++ ['"']))
      else (.quoted name :: (start c).1, (start c).2)

/-- The token that the end of the text completes; a quoted name must have been closed. -/
def finish : Reading → Option (List Token)
  | between => some []
  | word text => some [.word text]
  | parameter digits => some [Token.ofDigits digits]
  | quoted _ => none
  | closing name => some [.quoted name]

end Reading

/-- The tokens that a text completes, and what is open after it. -/
def scan (reading : Reading) : List Char → List Token × Reading
  | [] => ([], reading)
  | c :: rest =>
      let (completed, next) := reading.step c
      let (others, last) := scan next rest
      (completed ++ others, last)

/-- The tokens of a whole text, unless it ends inside a quoted name. -/
def lex (text : String) : Option (List Token) :=
  let (completed, last) := scan .between text.toList
  last.finish.map (completed ++ ·)

/-- The tokens of a name: its parts between dots, each as a quoted name. -/
def nameTokens (name : String) : List Token :=
  ((Text.parts '.' name.toList).map .quoted).intersperse (.mark '.')

/-- A word of the language of statements. -/
def keyword (text : String) : Token := .word text.toList

def lockTokens : LockMode → List Token
  | .blocking => [keyword "FOR", keyword "UPDATE"]
  | .skipLocked => [keyword "FOR", keyword "UPDATE", keyword "SKIP", keyword "LOCKED"]

def selectionTokens (relation : Relation) (mode : LockMode) : List Token :=
  [keyword "SELECT"] ++ nameTokens relation.primaryKey ++ [keyword "FROM"]
    ++ nameTokens relation.childTable ++ [keyword "WHERE"] ++ nameTokens relation.column
    ++ [.mark '=', keyword "ANY", .mark '(', .parameter ['1'], .mark ')', keyword "LIMIT",
      .parameter ['2']] ++ lockTokens mode

def deleteTokens (relation : Relation) (mode : LockMode) : List Token :=
  [keyword "DELETE", keyword "FROM"] ++ nameTokens relation.childTable ++ [keyword "WHERE"]
    ++ nameTokens relation.primaryKey ++ [keyword "IN", .mark '(']
    ++ selectionTokens relation mode ++ [.mark ')']

def nullifyTokens (relation : Relation) (mode : LockMode) : List Token :=
  [keyword "UPDATE"] ++ nameTokens relation.childTable ++ [keyword "SET"]
    ++ nameTokens relation.column ++ [.mark '=', keyword "NULL", keyword "WHERE"]
    ++ nameTokens relation.primaryKey ++ [keyword "IN", .mark '(']
    ++ selectionTokens relation mode ++ [.mark ')']

theorem scan_append (reading : Reading) (first second : List Char) :
    scan reading (first ++ second)
      = ((scan reading first).1 ++ (scan (scan reading first).2 second).1,
          (scan (scan reading first).2 second).2) := by
  induction first generalizing reading with
  | nil => rfl
  | cons c rest ih => simp [scan, ih]

/-- A quote that no other quote follows ends a name. -/
theorem scan_closing (name : List Char) {c : Char} (noQuote : c ≠ '"') (rest : List Char) :
    scan (.closing name) (c :: rest)
      = (.quoted name :: (scan .between (c :: rest)).1, (scan .between (c :: rest)).2) := by
  simp [scan, Reading.step, noQuote]

/-- Inside quotes every character stands for itself, once its quotes are doubled. -/
theorem scan_quoted (sofar part : List Char) :
    scan (.quoted sofar) (part.flatMap (fun c => if c = '"' then ['"', '"'] else [c]))
      = ([], .quoted (sofar ++ part)) := by
  induction part generalizing sofar with
  | nil => simp [scan]
  | cons c rest ih =>
      by_cases quote : c = '"'
      · simp [quote, scan, Reading.step, ih]
      · simp [quote, scan, Reading.step, ih]

theorem scan_quotePart (part : List Char) :
    scan .between (quotePart part) = ([], .closing part) := by
  have opened : quotePart part
      = ['"'] ++ part.flatMap (fun c => if c = '"' then ['"', '"'] else [c]) ++ ['"'] := rfl
  have quote : scan .between ['"'] = ([], .quoted []) := rfl
  rw [opened, scan_append, scan_append, quote, scan_quoted]
  rfl

/-- Of quoted parts between dots all is complete but the last name, which ends where the text
does. -/
theorem scan_quoteParts {parts : List (List Char)} (nonempty : parts ≠ []) :
    ∃ completed last, scan .between (List.intercalate ['.'] (parts.map quotePart))
        = (completed, .closing last) ∧
      completed ++ [.quoted last] = (parts.map Token.quoted).intersperse (.mark '.') := by
  induction parts with
  | nil => exact absurd rfl nonempty
  | cons part rest ih =>
      cases rest with
      | nil => exact ⟨[], part, by simp [scan_quotePart], rfl⟩
      | cons next others =>
          obtain ⟨completed, last, scanned, tokens⟩ := ih (by simp)
          have dot : scan (.closing part) ['.'] = ([.quoted part, .mark '.'], .between) := rfl
          refine ⟨[.quoted part, .mark '.'] ++ completed, last, ?_, ?_⟩
          · simp only [List.map_cons] at scanned ⊢
            rw [List.intercalate_cons_cons, scan_append, scan_append, scan_quotePart, dot, scanned]
            rfl
          · simp only [List.map_cons] at tokens ⊢
            rw [List.intersperse_cons_cons, ← tokens]
            rfl

theorem scan_quoteIdentifier (name : String) :
    ∃ completed last, scan .between (quoteIdentifier name).toList = (completed, .closing last) ∧
      completed ++ [.quoted last] = nameTokens name := by
  unfold quoteIdentifier
  rw [String.toList_ofList]
  exact scan_quoteParts (Text.parts_ne_nil '.' name.toList)

/-- A quoted name is read as its parts, and nothing is left over. -/
theorem lex_quoteIdentifier (name : String) :
    lex (quoteIdentifier name) = some (nameTokens name) := by
  obtain ⟨completed, last, scanned, tokens⟩ := scan_quoteIdentifier name
  unfold lex
  rw [scanned, ← tokens]
  rfl

example : lex (quoteIdentifier "a\".\"; --") =
    some [.quoted ['a', '"'], .mark '.', .quoted ['"', ';', ' ', '-', '-']] := by decide

/-- The names that stand in quotes among some tokens. -/
def quotedNames (tokens : List Token) : List (List Char) :=
  tokens.filterMap (fun token => match token with
    | .quoted name => some name
    | _ => none)

theorem quotedNames_intersperse (parts : List (List Char)) :
    quotedNames ((parts.map Token.quoted).intersperse (.mark '.')) = parts := by
  induction parts with
  | nil => rfl
  | cons part rest ih =>
      cases rest with
      | nil => rfl
      | cons next others =>
          simp only [List.map_cons] at ih ⊢
          rw [List.intersperse_cons_cons]
          exact congrArg (part :: ·) ih

/-- The tokens of a name tell the name. -/
theorem nameTokens_injective : Function.Injective nameTokens := by
  intro first second same
  have parts : Text.parts '.' first.toList = Text.parts '.' second.toList := by
    rw [← quotedNames_intersperse (Text.parts '.' first.toList),
      ← quotedNames_intersperse (Text.parts '.' second.toList)]
    exact congrArg quotedNames same
  have characters : first.toList = second.toList := by
    rw [← Text.intercalate_parts '.' first.toList, ← Text.intercalate_parts '.' second.toList,
      parts]
  exact String.toList_injective characters

theorem quoteIdentifier_injective : Function.Injective quoteIdentifier := by
  intro first second same
  apply nameTokens_injective
  apply Option.some.inj
  rw [← lex_quoteIdentifier, ← lex_quoteIdentifier, same]

/-- The text is read as the tokens from where no token is open to where none is. -/
def Reads (text : String) (tokens : List Token) : Prop :=
  scan .between text.toList = (tokens, .between)

namespace Reads

variable {first second : String} {tokens others : List Token}

theorem append (one : Reads first tokens) (two : Reads second others) :
    Reads (first ++ second) (tokens ++ others) := by
  unfold Reads at one two ⊢
  rw [String.toList_append, scan_append, one, two]

/-- A name in front of a text that goes on with a blank. -/
theorem name_append (name : String) (blank : second.toList.head? = some ' ')
    (reads : Reads second others) :
    Reads (quoteIdentifier name ++ second) (nameTokens name ++ others) := by
  obtain ⟨completed, last, scanned, names⟩ := scan_quoteIdentifier name
  obtain ⟨rest, begins⟩ := List.head?_eq_some_iff.mp blank
  have noQuote : ' ' ≠ '"' := by decide
  unfold Reads at reads ⊢
  rw [begins] at reads
  rw [String.toList_append, begins, scan_append, scanned, scan_closing last noQuote, reads, ← names,
    List.append_assoc]
  rfl

theorem lex_eq (reads : Reads first tokens) : lex first = some tokens := by
  unfold Reads at reads
  unfold lex
  rw [reads]
  simp [Reading.finish]

end Reads

/-- The selection is read with the bracket that closes it, for the lock clause ends in a word. -/
theorem reads_boundedSelection (relation : Relation) (mode : LockMode) :
    Reads (boundedSelection relation mode ++ ")")
      (selectionTokens relation mode ++ [.mark ')']) := by
  have select : Reads "SELECT " [keyword "SELECT"] := by rfl
  have fromTable : Reads " FROM " [keyword "FROM"] := by rfl
  have whereColumn : Reads " WHERE " [keyword "WHERE"] := by rfl
  have bounds : Reads " = ANY($1) LIMIT $2 " [.mark '=', keyword "ANY", .mark '(',
      .parameter ['1'], .mark ')', keyword "LIMIT", .parameter ['2']] := by rfl
  have lock : Reads (lockClause mode ++ ")") (lockTokens mode ++ [.mark ')']) := by
    cases mode <;> rfl
  have whole := select.append ((fromTable.name_append relation.primaryKey rfl).append
    ((whereColumn.name_append relation.childTable rfl).append
      ((bounds.name_append relation.column rfl).append lock)))
  unfold boundedSelection selectionTokens
  simpa only [String.append_assoc, List.append_assoc] using whole

theorem reads_deleteStatement (relation : Relation) (mode : LockMode) :
    Reads (deleteStatement relation mode) (deleteTokens relation mode) := by
  have delete : Reads "DELETE FROM " [keyword "DELETE", keyword "FROM"] := by rfl
  have whereKey : Reads " WHERE " [keyword "WHERE"] := by rfl
  have isIn : Reads " IN (" [keyword "IN", .mark '('] := by rfl
  have whole := delete.append ((whereKey.name_append relation.childTable rfl).append
    ((isIn.name_append relation.primaryKey rfl).append (reads_boundedSelection relation mode)))
  unfold deleteStatement deleteTokens
  simpa only [String.append_assoc, List.append_assoc] using whole

theorem reads_nullifyStatement (relation : Relation) (mode : LockMode) :
    Reads (nullifyStatement relation mode) (nullifyTokens relation mode) := by
  have update : Reads "UPDATE " [keyword "UPDATE"] := by rfl
  have set : Reads " SET " [keyword "SET"] := by rfl
  have isNull : Reads " = NULL WHERE " [.mark '=', keyword "NULL", keyword "WHERE"] := by rfl
  have isIn : Reads " IN (" [keyword "IN", .mark '('] := by rfl
  have whole := update.append ((set.name_append relation.childTable rfl).append
    ((isNull.name_append relation.column rfl).append
      ((isIn.name_append relation.primaryKey rfl).append (reads_boundedSelection relation mode))))
  unfold nullifyStatement nullifyTokens
  simpa only [String.append_assoc, List.append_assoc] using whole

/-- The tokens of a name are quoted names and dots, so no name brings in a word. -/
theorem word_not_mem_nameTokens (text : List Char) (name : String) :
    Token.word text ∉ nameTokens name := by
  unfold nameTokens
  induction Text.parts '.' name.toList with
  | nil => simp
  | cons part rest ih =>
      cases rest with
      | nil => simp
      | cons next others =>
          simp only [List.map_cons] at ih ⊢
          rw [List.intersperse_cons_cons]
          simpa using ih

/-- Locked rows are passed over just in the statements that are to do so. -/
theorem keyword_mem_tokens_iff {word : String} (member : word ∈ ["SKIP", "LOCKED"])
    (relation : Relation) (mode : LockMode) :
    (keyword word ∈ deleteTokens relation mode ↔ mode = .skipLocked) ∧
      (keyword word ∈ nullifyTokens relation mode ↔ mode = .skipLocked) := by
  have lock : keyword word ∈ lockTokens mode ↔ mode = .skipLocked := by
    rcases List.mem_pair.mp member with rfl | rfl <;> cases mode <;> decide
  have fixed : ∀ other ∈ ["SELECT", "FROM", "WHERE", "ANY", "LIMIT", "DELETE", "IN", "UPDATE",
      "SET", "NULL"], keyword word ≠ keyword other := by
    rcases List.mem_pair.mp member with rfl | rfl <;> decide
  simp only [List.forall_mem_cons] at fixed
  have names : ∀ name, keyword word ∉ nameTokens name := word_not_mem_nameTokens word.toList
  have marks : (∀ c, keyword word ≠ .mark c) ∧ ∀ digits, keyword word ≠ .parameter digits :=
    ⟨fun _ => Token.noConfusion, fun _ => Token.noConfusion⟩
  simp [deleteTokens, nullifyTokens, selectionTokens, lock, names, marks, fixed]

/-- A part of a name that would need no quotes. -/
def IsPlain (part : List Char) : Prop :=
  part ≠ [] ∧ ∀ c ∈ part, c.isLower ∨ c.isDigit ∨ c = '_'

theorem isPlain_of_isSimpleName {part : List Char} (simple : isSimpleName part) : IsPlain part := by
  have named : ∀ c, isNamePart c → c.isLower ∨ c.isDigit ∨ c = '_' := by
    intro c part
    simp only [isNamePart, isNameStart, Bool.or_eq_true, decide_eq_true_eq] at part
    rcases part with (lower | underscore) | digit
    · exact Or.inl lower
    · exact Or.inr (Or.inr underscore)
    · exact Or.inr (Or.inl digit)
  cases part with
  | nil => cases simple
  | cons c rest =>
      simp only [isSimpleName, Bool.and_eq_true, List.all_eq_true] at simple
      refine ⟨List.cons_ne_nil c rest, List.forall_mem_cons.mpr ⟨?_, ?_⟩⟩
      · exact named c (by simp [isNamePart, simple.1])
      · exact fun other member => named other (simple.2 other member)

theorem not_mem_of_isPlain {part : List Char} (plain : IsPlain part) : '.' ∉ part := by
  intro member
  rcases plain.2 '.' member with lower | digit | underscore
  · cases lower
  · cases digit
  · cases underscore

/-- A column has one part. -/
theorem nameTokens_of_isColumnName {name : String} (column : isColumnName name) :
    nameTokens name = [.quoted name.toList] ∧ IsPlain name.toList := by
  have plain : IsPlain name.toList := isPlain_of_isSimpleName column
  refine ⟨?_, plain⟩
  unfold nameTokens
  rw [Text.parts_eq_self (not_mem_of_isPlain plain)]
  rfl

/-- A table has one part or two. -/
theorem nameTokens_of_isTableName {name : String} (table : isTableName name) :
    (∃ part, IsPlain part ∧ nameTokens name = [.quoted part]) ∨
      ∃ schema part, IsPlain schema ∧ IsPlain part ∧
        nameTokens name = [.quoted schema, .mark '.', .quoted part] := by
  unfold isTableName at table
  simp only [Bool.and_eq_true, decide_eq_true_eq, List.all_eq_true] at table
  obtain ⟨atMostTwo, simple⟩ := table
  unfold nameTokens
  have nonempty := Text.parts_ne_nil '.' name.toList
  generalize Text.parts '.' name.toList = parts at atMostTwo simple nonempty ⊢
  match parts with
  | [part] => exact Or.inl ⟨part, isPlain_of_isSimpleName (simple part (by simp)), rfl⟩
  | [schema, part] =>
      have first := isPlain_of_isSimpleName (simple schema (by simp))
      have second := isPlain_of_isSimpleName (simple part (by simp))
      exact Or.inr ⟨schema, part, first, second, rfl⟩

/-- Whatever the names of a relation are, each of them is read in its statements as the name that
it is, and everything else as it was meant.  The names of an accepted relation, one that is in a
registry, would need no quotes at all. -/
theorem statements_name_only_their_relation :
    (∀ name, lex (quoteIdentifier name) = some (nameTokens name)) ∧
    Function.Injective quoteIdentifier ∧
    (∀ relation mode,
      lex (deleteStatement relation mode) = some (deleteTokens relation mode) ∧
      lex (nullifyStatement relation mode) = some (nullifyTokens relation mode) ∧
      ∀ word ∈ ["SKIP", "LOCKED"],
        (keyword word ∈ deleteTokens relation mode ↔ mode = .skipLocked) ∧
          (keyword word ∈ nullifyTokens relation mode ↔ mode = .skipLocked)) ∧
    ∀ registry : Registry, ∀ relation ∈ registry.relations,
      ((∃ table, IsPlain table ∧ nameTokens relation.childTable = [.quoted table]) ∨
        ∃ schema table, IsPlain schema ∧ IsPlain table ∧
          nameTokens relation.childTable = [.quoted schema, .mark '.', .quoted table]) ∧
      (nameTokens relation.primaryKey = [.quoted relation.primaryKey.toList] ∧
        IsPlain relation.primaryKey.toList) ∧
      nameTokens relation.column = [.quoted relation.column.toList] ∧
        IsPlain relation.column.toList := by
  refine ⟨lex_quoteIdentifier, quoteIdentifier_injective, ?_, ?_⟩
  · intro relation mode
    exact ⟨(reads_deleteStatement relation mode).lex_eq,
      (reads_nullifyStatement relation mode).lex_eq,
      fun _ member => keyword_mem_tokens_iff member relation mode⟩
  · intro registry relation member
    obtain ⟨_, child, column, key, _⟩ :=
      relation.fault?_eq_none_iff.mp (Registry.fault?_eq_none member)
    exact ⟨nameTokens_of_isTableName child, nameTokens_of_isColumnName key,
      nameTokens_of_isColumnName column⟩

/-- A relation whose child table is named with its schema and has a key of its own. -/
def sampleRelation : Relation :=
  (Relation.declare "ci_runners" "ci.builds" "runner_id" .asyncDelete).withPrimaryKey "build_id"

/-- The registry of this relation. -/
def sampleRegistry : Registry where
  byParent := { entries := [("public.ci_runners", [sampleRelation])] }

theorem statements_name_only_their_relation_in_sample :
    let table := [Token.quoted "ci".toList, .mark '.', .quoted "builds".toList]
    let key := Token.quoted "build_id".toList
    Registry.ofList [sampleRelation] = .ok sampleRegistry ∧
    lex (deleteStatement sampleRelation .skipLocked) = some
      ([keyword "DELETE", keyword "FROM"] ++ table ++ [keyword "WHERE", key, keyword "IN",
          .mark '(', keyword "SELECT", key, keyword "FROM"] ++ table
        ++ [keyword "WHERE", .quoted "runner_id".toList, .mark '=', keyword "ANY", .mark '(',
          .parameter ['1'], .mark ')', keyword "LIMIT", .parameter ['2'], keyword "FOR",
          keyword "UPDATE", keyword "SKIP", keyword "LOCKED", .mark ')']) ∧
    nameTokens sampleRelation.primaryKey = [key] ∧ IsPlain "build_id".toList := by
  intro table key
  have accepted : Registry.ofList [sampleRelation] = .ok sampleRegistry := by rfl
  obtain ⟨_, _, statements, plain⟩ := statements_name_only_their_relation
  obtain ⟨_, primaryKey, _⟩ := plain sampleRegistry sampleRelation (by decide)
  refine ⟨accepted, ?_, primaryKey⟩
  rw [(statements sampleRelation .skipLocked).1]
  rfl

end LooseKeys.Sql
