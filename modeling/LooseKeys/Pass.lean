/-
Module: LooseKeys.Pass
Purpose: One bounded pass over the child table of one relation.
Main exports: Pass, Pass.plan, Pass.run
-/
import LooseKeys.Batch
import LooseKeys.Budget
import LooseKeys.Settings
import LooseKeys.Storage

namespace LooseKeys

/-- A pass over the child rows of one relation, for the parents of one batch. -/
structure Pass where
  relation : Relation
  parentIds : List Int
  lockMode : LockMode
  /-- The greatest number of rows that the pass takes. -/
  limit : Int
deriving DecidableEq, Repr, Inhabited

namespace Pass

/-- The greatest number of rows of a pass, by what it does to them. -/
def limitFor (settings : Settings) : Strategy → Int
  | .asyncDelete => settings.deleteBatchSize
  | .asyncNullify => settings.updateBatchSize

/-- The pass of a relation over the children of a batch. -/
def plan (settings : Settings) (batch : Batch) (relation : Relation) (lockMode : LockMode) :
    Pass :=
  { relation, parentIds := batch.parentIds, lockMode,
    limit := limitFor settings relation.strategy }

/-- The result of a pass that took a number of rows. -/
def result (pass : Pass) (affectedRows : Nat) : PassResult :=
  { table := pass.relation.childTable, affectedRows, kind := pass.relation.strategy.kind,
    lockMode := pass.lockMode }

/-- The call by which a pass modifies rows. -/
def call {σ : Type} (storage : Storage σ) (pass : Pass) : σ → Reply σ Nat :=
  match pass.relation.strategy with
  | .asyncDelete =>
      storage.deleteChildren pass.relation pass.parentIds pass.lockMode pass.limit
  | .asyncNullify =>
      storage.nullifyChildren pass.relation pass.parentIds pass.lockMode pass.limit

/-- Runs a pass.  Without parents there is nothing to look for and no call is made. -/
def run {σ : Type} (storage : Storage σ) (pass : Pass) (state : σ) : Reply σ PassResult :=
  if pass.parentIds.isEmpty then (.ok (pass.result 0), state)
  else
    match pass.call storage state with
    | (.ok affectedRows, after) => (.ok (pass.result affectedRows), after)
    | (.error error, after) => (.error error, after)

end Pass

end LooseKeys
