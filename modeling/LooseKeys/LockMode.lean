/-
Module: LooseKeys.LockMode
Purpose: How a pass treats rows that concurrent writers have locked.
Main exports: LockMode
-/

namespace LooseKeys

/-- How a pass treats rows that concurrent writers have locked. -/
inductive LockMode where
  /-- Wait for the locks to be released. -/
  | blocking
  /-- Leave the locked rows out of the pass. -/
  | skipLocked
deriving DecidableEq, Repr, Inhabited

namespace LockMode

def name : LockMode → String
  | .blocking => "blocking"
  | .skipLocked => "skip_locked"

def skipsLocked : LockMode → Bool
  | .blocking => false
  | .skipLocked => true

end LockMode

end LooseKeys
