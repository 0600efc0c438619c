/-
Module: LooseKeys.Proofs.Yaml.Views
Purpose: Readers of YAML documents that differ only in how they keep what they read.
Main exports: Yaml.Reader.map, Yaml.readList_map, Yaml.readMap_map, Yaml.Field.Shows,
  Yaml.Field.of_shows, Yaml.readRecord_map, Yaml.Document.read_map, Yaml.Document.read_eq_ok
-/
import LooseKeys.Yaml.Typed
import Mathlib.Data.List.Forall2

/-!
A record is gathered while it is read, so two records of one shape are read alike when each field
does to the one what it does to the other.  A view from the one to the other is carried through the
entries of a mapping, by induction on how many of them may still be read, and from there through
whole documents: what is read, and every fault, is the same under the view.
-/

namespace LooseKeys.Yaml

variable {α β γ ρ ρ' : Type}

/-- Reads a value and gives a view of it. -/
def Reader.map (view : α → β) (read : Reader α) : Reader β := fun document path position =>
  (read document path position).map (Prod.map view id)

@[simp] theorem Reader.map_apply (view : α → β) (read : Reader α) (document : Document)
    (path : Path) (position : Position) : read.map view document path position =
      (read document path position).map (Prod.map view id) := rfl

theorem Reader.map_map (inner : α → β) (outer : β → γ) (read : Reader α) :
    (read.map inner).map outer = read.map (fun value => outer (inner value)) := by
  funext document path position
  simp only [Reader.map_apply]
  cases read document path position with
  | error trouble => rfl
  | ok reading => rfl

theorem located_map (view : α → β) (read : Reader α) :
    located (read.map view) = (located read).map view := by
  funext document path position
  simp only [located, Reader.map_apply]
  cases read document path position with
  | error trouble => rfl
  | ok reading => rfl

theorem resolving_map (view : α → β)
    (read : Document → Path → Item → Position → Except Trouble (α × Position)) :
    resolving (fun document path item position =>
        (read document path item position).map (Prod.map view id)) =
      (resolving read).map view := by
  funext document path position
  simp only [resolving, Reader.map_apply]
  split
  · rfl
  · split
    · rename_i aliases item items _ _
      cases read document path item { items, aliases } with
      | error trouble => rfl
      | ok reading => rfl
    · rfl
  · rfl

/-! ### Mappings -/

section Mappings

variable {view : β → γ} {step : String → β → Reader β} {step' : String → γ → Reader γ}
  (alike : ∀ key gathered, step' key (view gathered) = (step key gathered).map view)
include alike

/-- Where each entry is gathered alike, so are all entries up to the end of a mapping. -/
theorem readEntries_map (wantedKey : String) (document : Document) (path : Path) (fuel : Nat) :
    ∀ gathered position,
      readEntries wantedKey step' document path fuel (view gathered) position =
        (readEntries wantedKey step document path fuel gathered position).map
          (Prod.map view id) := by
  induction fuel with
  | zero => exact fun _ _ => rfl
  | succ fuel ih =>
      intro gathered position
      unfold readEntries
      split
      · rfl
      · cases readTextAs wantedKey document path position with
        | error trouble => rfl
        | ok reading =>
            obtain ⟨key, rest⟩ := reading
            simp only [bind, Except.bind, alike, Reader.map_apply]
            cases step key gathered document (pathOfKey path position.items) rest with
            | error trouble => rfl
            | ok reading => exact ih reading.1 reading.2

theorem readMapping_map (wanted wantedKey : String) (start : β) :
    readMapping wanted wantedKey (view start) step' =
      (readMapping wanted wantedKey start step).map view := by
  unfold readMapping
  rw [← located_map, ← resolving_map]
  congr 2
  funext document path item rest
  split
  · exact readEntries_map alike wantedKey document path _ start rest
  · split
    · rfl
    · rfl
  · rfl

end Mappings

/-! ### Collections -/

theorem readElements_map (view : α → β) (read : Reader α) (document : Document) (path : Path)
    (fuel : Nat) :
    ∀ index position, readElements (read.map view) document path fuel index position =
      (readElements read document path fuel index position).map (Prod.map (List.map view) id) := by
  induction fuel with
  | zero => exact fun _ _ => rfl
  | succ fuel ih =>
      intro index position
      unfold readElements
      split
      · rfl
      · simp only [bind, Except.bind, Reader.map_apply]
        cases read document (.element path index) position with
        | error trouble => rfl
        | ok reading =>
            simp only [Except.map, Prod.map_fst, Prod.map_snd, id_eq, ih]
            cases readElements read document path fuel (index + 1) reading.2 with
            | error trouble => rfl
            | ok others => rfl

theorem readList_map (view : α → β) (read : Reader α) :
    readList (read.map view) = (readList read).map (List.map view) := by
  unfold readList
  rw [← located_map, ← resolving_map]
  congr 2
  funext document path item rest
  split
  · exact readElements_map view read document path _ 0 rest
  · split
    · rfl
    · rfl
  · rfl

/-- Reads the value of a key and puts the two behind earlier entries. -/
def append (read : Reader α) (key : String) (entries : List (String × α)) :
    Reader (List (String × α)) :=
  read.map (fun value => entries ++ [(key, value)])

theorem append_map (view : α → β) (read : Reader α) (key : String)
    (entries : List (String × α)) :
    append (read.map view) key (entries.map (Prod.map id view)) =
      (append read key entries).map (List.map (Prod.map id view)) := by
  unfold append
  rw [Reader.map_map, Reader.map_map]
  congr 1
  funext value
  rw [List.map_append]
  rfl

theorem readMap_map (view : α → β) (read : Reader α) :
    readMap (read.map view) = (readMap read).map (List.map (Prod.map id view)) :=
  readMapping_map (append_map view read) "a map" "a string" []

/-! ### Records -/

section Records

variable {view : ρ → ρ'}

/-- Two fields of one name take what they read alike into a record and into a view of it. -/
structure Field.Shows (view : ρ → ρ') (first : Field ρ) (second : Field ρ') : Prop where
  name : first.name = second.name
  read : ∀ record, second.read.map (fun set => set (view record)) =
    first.read.map (fun set => view (set record))

theorem Field.of_shows (name : String) (read : Reader α) {set : α → ρ → ρ} {set' : α → ρ' → ρ'}
    (alike : ∀ value record, set' value (view record) = view (set value record)) :
    (Field.of name read set).Shows view (Field.of name read set') where
  name := rfl
  read := by
    intro record
    funext document path position
    simp only [Field.of, Reader.map_apply]
    cases read document path position with
    | error trouble => rfl
    | ok reading =>
        have shown := alike reading.1 record
        exact congrArg (fun next => Except.ok (next, reading.2)) shown

/-- Takes the value of the field with a name into a record whose fields `seen` are given. -/
def gather (fields : List (Field ρ)) (place : Path) (key : String) :
    List String × ρ → Reader (List String × ρ)
  | (seen, record) => fun document path position =>
      match fields.find? (·.name = key) with
      | none => .error (.unfit (some place) (.unknownField key (fields.map (·.name))))
      | some field =>
          if seen.contains key then .error (.unfit (some place) (.duplicateField key))
          else field.read.map (fun set => (key :: seen, set record)) document path position

/-- A record is a mapping whose values are gathered, and then finished. -/
theorem readRecord_eq (wanted : String) (fields : List (Field ρ)) (start : ρ)
    (finish : ρ → Except Reading.Fault α) : readRecord wanted fields start finish =
      located (fun document path position =>
        (readMapping wanted "field identifier" ([], start) (gather fields path)
          document path position).bind (fun reading =>
            ((finish reading.1.2).mapError (.unfit none)).map (·, reading.2))) := by
  rfl

variable {fields : List (Field ρ)} {fields' : List (Field ρ')}
  (alike : List.Forall₂ (Field.Shows view) fields fields')
include alike

theorem Field.Shows.names_eq : fields.map (·.name) = fields'.map (·.name) := by
  induction alike with
  | nil => rfl
  | cons shows _ ih => exact congrArg₂ List.cons shows.name ih

/-- A name leads to fields that are alike, or to none. -/
theorem Field.Shows.find? (key : String) :
    Option.Rel (Field.Shows view) (fields.find? (·.name = key)) (fields'.find? (·.name = key)) := by
  induction alike with
  | nil => exact .none
  | @cons field field' rest rest' shows _ ih =>
      by_cases named : field.name = key
      · rw [List.find?_cons_of_pos (by simpa using named),
          List.find?_cons_of_pos (by simpa [← shows.name] using named)]
        exact .some shows
      · rw [List.find?_cons_of_neg (by simpa using named),
          List.find?_cons_of_neg (by simpa [← shows.name] using named)]
        exact ih

theorem gather_map (place : Path) (key : String) (gathered : List String × ρ) :
    gather fields' place key (gathered.map id view) =
      (gather fields place key gathered).map (Prod.map id view) := by
  obtain ⟨seen, record⟩ := gathered
  funext document path position
  have found := Field.Shows.find? alike key
  have names := Field.Shows.names_eq alike
  simp only [Prod.map_apply, id_eq, gather, Reader.map_apply]
  generalize fields.find? (·.name = key) = first at found ⊢
  generalize fields'.find? (·.name = key) = second at found ⊢
  cases found with
  | none => rw [names]; rfl
  | @some field field' shows =>
      by_cases again : seen.contains key
      · simp only [again]
        rfl
      · simp only [again]
        have same : field'.read.map (fun set => (key :: seen, set (view record))) =
            (field.read.map (fun set => (key :: seen, set record))).map (Prod.map id view) := by
          have after := congrArg (Reader.map (key :: seen, ·)) (shows.read record)
          rw [Reader.map_map, Reader.map_map] at after
          rw [after, Reader.map_map]
          rfl
        exact congrFun (congrFun (congrFun same document) path) position

/-- Records whose fields are alike are read alike. -/
theorem readRecord_map {shown : α → β} {finish : ρ → Except Reading.Fault α}
    {finish' : ρ' → Except Reading.Fault β}
    (finishes : ∀ record, finish' (view record) = (finish record).map shown)
    (wanted : String) (start : ρ) :
    readRecord wanted fields' (view start) finish' =
      (readRecord wanted fields start finish).map shown := by
  rw [readRecord_eq, readRecord_eq, ← located_map]
  congr 1
  funext document path position
  have entries := readMapping_map (gather_map alike path) wanted "field identifier" ([], start)
  simp only [Reader.map_apply]
  change (readMapping wanted "field identifier" (Prod.map id view ([], start))
    (gather fields' path) document path position).bind _ = _
  rw [entries, Reader.map_apply]
  cases readMapping wanted "field identifier" ([], start) (gather fields path) document path
      position with
  | error trouble => rfl
  | ok reading =>
      obtain ⟨⟨seen, record⟩, rest⟩ := reading
      simp only [Except.map, Except.bind, Prod.map_apply, finishes]
      cases finish record with
      | error fault => rfl
      | ok value => rfl

end Records

/-! ### Documents -/

/-- A text is read under a view. -/
theorem Document.read_map (view : α → β) (read : Reader α) (text : String) :
    Document.read (read.map view) text = (Document.read read text).map view := by
  unfold Document.read
  simp only [Reader.map_apply]
  cases read (Document.ofText text) .root (Document.ofText text).start with
  | ok reading =>
      simp only [Except.map]
      split
      · rfl
      · rfl
  | error trouble =>
      cases trouble with
      | malformed => rfl
      | unfit path fault => rfl

/-- What a text is read as can be told by the value alone. -/
theorem Document.read_eq_ok {read : Reader α} {text : String} {value : α}
    (given : (Document.read read text).toOption = some value) :
    Document.read read text = .ok value := by
  generalize Document.read read text = reading at given ⊢
  cases reading with
  | error fault => cases given
  | ok value' => exact congrArg Except.ok (Option.some.inj given)

end LooseKeys.Yaml
