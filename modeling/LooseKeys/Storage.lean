/-
Module: LooseKeys.Storage
Purpose: What a cleanup needs of the place where child rows and the log are kept.
Main exports: Reply, Storage
-/
import LooseKeys.Error
import LooseKeys.LockMode
import LooseKeys.Log
import LooseKeys.Relation

/-!
A storage is any state with these four calls.  A call answers or fails, and leaves a state in
either case; nothing is assumed of the answers.
-/

namespace LooseKeys

/-- The answer of a call, or the error in its place, and the state it leaves. -/
abbrev Reply (σ α : Type) := Except CleanupError α × σ

/-- The calls on a storage whose states are of type `σ`. -/
structure Storage (σ : Type) where
  /-- Deletes up to a number of child rows whose column holds one of the parents' keys; the
  answer is the number of rows deleted. -/
  deleteChildren (relation : Relation) (parentIds : List Int) (mode : LockMode) (limit : Int) :
    σ → Reply σ Nat
  /-- Sets the column of up to a number of such child rows to null; the answer is the number of
  rows updated. -/
  nullifyChildren (relation : Relation) (parentIds : List Int) (mode : LockMode) (limit : Int) :
    σ → Reply σ Nat
  /-- Marks the pending records of a parent table within an inclusive range of ids as
  processed; the answer is the number of records marked. -/
  markProcessed (parentTable : String) (firstId lastId : Int) : σ → Reply σ Nat
  /-- Loads up to a number of pending records of a parent table in the order of their ids. -/
  loadPending (parentTable : String) (limit : Int) : σ → Reply σ (List DeletedRecord)

end LooseKeys
