/-
Module: LooseKeys.Observer
Purpose: What can be watched while a batch is cleaned up.
Main exports: RelationSummary, Notice, Observer
-/
import LooseKeys.Pass

/-!
An observer sees the state of the storage but cannot change it: it only keeps notes of its own.
-/

namespace LooseKeys

/-- What the passes of one relation did for one batch. -/
structure RelationSummary where
  childTable : String
  column : String
  strategy : Strategy
  skipLockedRows : Nat := 0
  blockingRows : Nat := 0
  passes : Nat := 0
  /-- No child row of the batch was left. -/
  drained : Bool := false
deriving DecidableEq, Repr, Inhabited

namespace RelationSummary

/-- The summary of a relation before its first pass. -/
def ofRelation (relation : Relation) : RelationSummary :=
  { childTable := relation.childTable, column := relation.column, strategy := relation.strategy }

def affectedRows (summary : RelationSummary) : Nat :=
  summary.skipLockedRows + summary.blockingRows

/-- Counts one more pass. -/
def count (summary : RelationSummary) (result : PassResult) : RelationSummary :=
  match result.lockMode with
  | .skipLocked =>
      { summary with
        passes := summary.passes + 1
        skipLockedRows := summary.skipLockedRows + result.affectedRows }
  | .blocking =>
      { summary with
        passes := summary.passes + 1
        blockingRows := summary.blockingRows + result.affectedRows }

end RelationSummary

/-- A moment of a cleanup that is made known. -/
inductive Notice where
  | beforeRelation (relation : Relation)
  /-- A pass is about to start, with the budget as it stands. -/
  | passStarting (pass : Pass) (budget : Budget)
  | afterRelation (relation : Relation) (summary : RelationSummary)
  /-- The records of a batch have been marked as processed. -/
  | finalized (parentTable : String) (marked : Nat)
deriving DecidableEq, Repr

/-- How notes are taken of each notice, in view of the state of the storage. -/
structure Observer (σ ω : Type) where
  note : Notice → σ → ω → ω

namespace Observer

/-- Takes no notes. -/
def silent {σ : Type} : Observer σ Unit where
  note _ _ notes := notes

/-- Notes down every notice. -/
def recording {σ : Type} : Observer σ (List Notice) where
  note notice _ notes := notes ++ [notice]

end Observer

end LooseKeys
