/-
Module: LooseKeys.Proofs.Invocation
Purpose: Sequences of invocations on the store in memory, and the states that it goes through.
Main exports: Invocation, Invocation.run, Invocation.runAll, Invocation.shown,
  Invocation.history, Sample.store, Sample.invocation, Sample.builds
-/
import LooseKeys.Proofs.Observer
import LooseKeys.Proofs.Store.Evolution

/-!
Each invocation of a sequence has its own settings, its own observer and its own clock, and a
failure may be armed before it.  The observer is shown the store before each pass, around each
relation and after each marking, so the states shown, and the first and the last one, are all
the states that there are.
-/

namespace LooseKeys

/-- One invocation of a sequence. -/
structure Invocation (ω : Type) where
  settings : Settings
  observer : Observer Store ω
  notes : ω
  /-- The seconds that pass before each look at the clock. -/
  delays : List Nat := []
  /-- The reason of a failure that is armed before the invocation. -/
  failure : Option String := none

namespace Invocation

variable {ω : Type}

def sweep (invocation : Invocation ω) (registry : Registry) : Sweep Store ω :=
  { storage := Store.storage, observer := invocation.observer, registry,
    settings := invocation.settings, delays := invocation.delays }

/-- The store with which the invocation starts. -/
def begins (invocation : Invocation ω) (store : Store) : Store :=
  match invocation.failure with
  | some reason => store.failNext reason
  | none => store

def run (invocation : Invocation ω) (registry : Registry) (store : Store) :
    Reply (Run Store ω) SweepReport :=
  (invocation.sweep registry).run (invocation.begins store) invocation.notes

/-- The store after the invocation. -/
def leaves (invocation : Invocation ω) (registry : Registry) (store : Store) : Store :=
  (invocation.run registry store).2.state

/-- The store after invocations in order. -/
def runAll (registry : Registry) : List (Invocation ω) → Store → Store
  | [], store => store
  | invocation :: rest, store => runAll registry rest (invocation.leaves registry store)

/-- The states that the observer of the invocation is shown, in order. -/
def shown (invocation : Invocation ω) (registry : Registry) (store : Store) : List Store :=
  ((invocation.sweep registry).watched.run (invocation.begins store)
    (invocation.notes, [])).2.notes.2

/-- The states that the store goes through during invocations in order. -/
def history (registry : Registry) : List (Invocation ω) → Store → List Store
  | [], store => [store]
  | invocation :: rest, store =>
      store :: invocation.begins store :: invocation.shown registry store
        ++ history registry rest (invocation.leaves registry store)

@[simp] theorem tables_begins (invocation : Invocation ω) (store : Store) :
    (invocation.begins store).tables = store.tables := by
  unfold begins
  split <;> rfl

@[simp] theorem log_begins (invocation : Invocation ω) (store : Store) :
    (invocation.begins store).log = store.log := by
  unfold begins
  split <;> rfl

/-- The last of invocations in order finds the store that the earlier ones leave. -/
theorem runAll_concat (registry : Registry) (earlier : List (Invocation ω))
    (invocation : Invocation ω) (store : Store) :
    runAll registry (earlier ++ [invocation]) store
      = invocation.leaves registry (runAll registry earlier store) := by
  induction earlier generalizing store with
  | nil => rfl
  | cons first rest ih => exact ih (first.leaves registry store)

/-- The store after the invocation, watched or not. -/
theorem leaves_eq_watched (invocation : Invocation ω) (registry : Registry) (store : Store) :
    invocation.leaves registry store
      = ((invocation.sweep registry).watched.run (invocation.begins store)
          (invocation.notes, [])).2.state := by
  unfold leaves run
  rw [← (invocation.sweep registry).run_watched (invocation.begins store) invocation.notes []]
  rfl

end Invocation

/-! A small store with one deleted parent, two child rows of it and one of another parent. -/
namespace Sample

def relation : Relation := .declare "users" "posts" "user_id" .asyncDelete

def registry : Registry where
  byParent := { entries := [("public.users", [relation])] }

def record : DeletedRecord :=
  { id := 1, table := "public.users", primaryKey := 7, status := .pending, createdAt := default }

def store : Store :=
  let deleted := (Store.empty.recordDeletion "users" 7 default).2
  let first := (deleted.insertRow "posts" [("user_id", some 7)]).2
  let second := (first.insertRow "posts" [("user_id", some 7)]).2
  (second.insertRow "posts" [("user_id", some 8)]).2

/-- An invocation whose passes take one row each. -/
def invocation (budget : Nat) : Invocation Unit :=
  { settings := { maxModifications := budget, deleteBatchSize := 1 }, observer := .silent,
    notes := () }

/-- The store after an invocation with a budget of one row and one with a larger budget. -/
def drained : Store where
  tables := {
    entries := [("posts", { lastId := 3, rows := [⟨3, { entries := [("user_id", 8)] }⟩] })] }
  history := { records := [record.processed] }
  passes := [⟨"posts", .skipLocked, 1⟩, ⟨"posts", .skipLocked, 1⟩, ⟨"posts", .skipLocked, 0⟩,
    ⟨"posts", .blocking, 0⟩]

/-! Two parent tables with one child table: the first build is wanted by both, and loses its agent
before it goes with its project. -/

def buildRegistry : Registry where
  byParent := {
    entries := [("public.agents", [.declare "agents" "builds" "agent_id" .asyncNullify]),
      ("public.projects", [.declare "projects" "builds" "project_id" .asyncDelete])] }

def builds : Store :=
  let project := (Store.empty.recordDeletion "projects" 7 default).2
  let deleted := (project.recordDeletion "agents" 3 default).2
  let first := (deleted.insertRow "builds" [("project_id", some 7), ("agent_id", some 3)]).2
  let second := (first.insertRow "builds" [("project_id", some 8), ("agent_id", some 3)]).2
  (second.insertRow "builds" [("project_id", some 8), ("agent_id", some 4)]).2

end Sample

end LooseKeys
