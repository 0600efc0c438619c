/-
Module: LooseKeys.Storage.Journal
Purpose: A storage that keeps a journal of the calls made on it and lets a concurrent writer
  act between them; and a storage as part of a larger state.
Main exports: StoreCall, Journaled, Storage.journaled, Storage.within
-/
import LooseKeys.Storage

namespace LooseKeys

/-- A call that was made, with its answer unless it failed. -/
inductive StoreCall where
  | children (kind : ModificationKind) (childTable column : String) (parentIds : List Int)
      (mode : LockMode) (limit : Int) (affected : Option Nat)
  | mark (parentTable : String) (firstId lastId : Int) (marked : Option Nat)
  | load (parentTable : String) (limit : Int) (ids : Option (List Int))
deriving DecidableEq, Repr

/-- A state with the journal of the calls that led to it, the latest call last. -/
structure Journaled (σ : Type) where
  state : σ
  calls : List StoreCall := []
  /-- The number of calls that were to change something. -/
  writes : Nat := 0

namespace Storage

variable {σ τ : Type}

/-- Makes a call that is to change something, after the concurrent writer, and notes it down. -/
def journalWrite (interfere : Nat → σ → σ) (call : σ → Reply σ Nat)
    (entry : Option Nat → StoreCall) (journal : Journaled σ) : Reply (Journaled σ) Nat :=
  let writes := journal.writes + 1
  let (answer, state) := call (interfere writes journal.state)
  (answer, { state, writes, calls := journal.calls ++ [entry answer.toOption] })

/-- The storage with a journal.  Before the n-th call that is to change something, `interfere n`
tells what a concurrent writer does. -/
def journaled (storage : Storage σ) (interfere : Nat → σ → σ) : Storage (Journaled σ) where
  deleteChildren relation parentIds mode limit :=
    journalWrite interfere (storage.deleteChildren relation parentIds mode limit)
      (.children .deletion relation.childTable relation.column parentIds mode limit)
  nullifyChildren relation parentIds mode limit :=
    journalWrite interfere (storage.nullifyChildren relation parentIds mode limit)
      (.children .update relation.childTable relation.column parentIds mode limit)
  markProcessed parentTable firstId lastId :=
    journalWrite interfere (storage.markProcessed parentTable firstId lastId)
      (.mark parentTable firstId lastId)
  loadPending parentTable limit journal :=
    let (answer, state) := storage.loadPending parentTable limit journal.state
    let ids := answer.toOption.map (fun records => records.map (·.id))
    (answer,
      { journal with state, calls := journal.calls ++ [.load parentTable limit ids] })

/-- Makes a call on a part of a larger state. -/
def callWithin {α : Type} (part : τ → σ) (put : σ → τ → τ) (call : σ → Reply σ α) (whole : τ) :
    Reply τ α :=
  let (answer, after) := call (part whole)
  (answer, put after whole)

/-- The storage as a part of a larger state. -/
def within (storage : Storage σ) (part : τ → σ) (put : σ → τ → τ) : Storage τ where
  deleteChildren relation parentIds mode limit :=
    callWithin part put (storage.deleteChildren relation parentIds mode limit)
  nullifyChildren relation parentIds mode limit :=
    callWithin part put (storage.nullifyChildren relation parentIds mode limit)
  markProcessed parentTable firstId lastId :=
    callWithin part put (storage.markProcessed parentTable firstId lastId)
  loadPending parentTable limit := callWithin part put (storage.loadPending parentTable limit)

end Storage

end LooseKeys
