import CatalogSearch.Service.Mutation

/-!
# Changes at the same time

A change takes two steps, and nothing keeps other changes from taking theirs in between. A schedule
lists which change takes its next step, one after the other: `Catalog.interleave` runs it. A change
reads and computes in its first step and writes in its second one; with nothing to write it is
finished after the first.
-/

namespace CatalogSearch

/-- How far a change has come. -/
inductive Stage where
  | pending
  | planned (write : PendingWrite)
  | finished (answer : Except MutationFailure String)

/-- The number of steps that a change may still take. -/
def Stage.remaining : Stage → Nat
  | .pending => 2
  | .planned _ => 1
  | .finished _ => 0

/-- How far every change has come. -/
abbrev Progress := Mutation → Stage

namespace Progress

/-- No change has taken a step. -/
def initial : Progress := fun _ => .pending

/-- One change has come to a stage. -/
def set (progress : Progress) (mutation : Mutation) (stage : Stage) : Progress :=
  fun other => if other = mutation then stage else progress other

/-- The change is at its stage. -/
@[simp] theorem set_self (progress : Progress) (mutation : Mutation) (stage : Stage) :
    progress.set mutation stage mutation = stage := if_pos rfl

/-- The other changes are where they were. -/
theorem set_of_ne (progress : Progress) {mutation other : Mutation} (h : other ≠ mutation)
    (stage : Stage) : progress.set mutation stage other = progress other := if_neg h

/-- Only the last stage that a change has come to counts. -/
@[simp] theorem set_set (progress : Progress) (mutation : Mutation) (stage later : Stage) :
    (progress.set mutation stage).set mutation later = progress.set mutation later := by
  funext other
  by_cases h : other = mutation <;> simp [set, h]

end Progress

namespace Catalog

variable {σ : Type}

/-- Take the next step of a change, to its next stage. -/
def advance (catalog : Catalog σ) (mutation : Mutation) : Stage → StateM σ Stage
  | .pending => do
    match ← catalog.prepare mutation with
    | .ok write => pure (.planned write)
    | .error failure => pure (.finished (.error failure))
  | .planned write => do
    let answer ← catalog.commit write
    pure (.finished answer)
  | .finished answer => pure (.finished answer)

/-- Let changes take their next steps in the order of a schedule. -/
def interleave (catalog : Catalog σ) : List Mutation → Progress → StateM σ Progress
  | [], progress => pure progress
  | mutation :: rest, progress => do
    let stage ← catalog.advance mutation (progress mutation)
    catalog.interleave rest (progress.set mutation stage)

end Catalog

end CatalogSearch
