import CatalogSearch.Proofs.Session.Step
import Mathlib.Data.List.ReduceOption
import Mathlib.Data.List.Induction

/-!
# Which answer a round of a session receives

A `Ledger` keeps the books of a session without an engine: every answer queued so far, and for every
round so far the number of the answer that it received. A round receives the oldest answer that no
round has received yet; the ledger looks for that answer among all of them.

It follows that answers are received in the order in which they were queued, each at most once
(`Ledger.inOrder_ofSteps`), so that what is left of them is a queue: `Ledger.InOrder.left_after` says
what a step takes from it and what it adds.
-/

namespace CatalogSearch.Session

/-- What a session has queued and handed out so far: the answers queued, oldest first; for each
round, the number of the answer that it received, if it received one; and the reason for which
updates fail, if they do. -/
structure Ledger where
  queued : List Answer
  received : List (Option Nat)
  refusal : Option String

namespace Ledger

/-- The number of the oldest answer that no round has received. -/
def oldest? (ledger : Ledger) : Option Nat :=
  (List.range ledger.queued.length).find? fun number => some number ∉ ledger.received

/-- The answer to the next round: the oldest one that no round has received, or else that nothing
matches. -/
def answer (ledger : Ledger) (calls : List SearchCall) : Answer :=
  (ledger.oldest?.bind fun number => ledger.queued[number]?).getD
    (.ok (calls.map fun _ => InMemory.reply 0 []))

/-- The ledger after one more step. -/
def after (ledger : Ledger) (step : Step) : Ledger where
  queued := ledger.queued ++ step.queues
  received := if step.asks then ledger.received ++ [ledger.oldest?] else ledger.received
  refusal := step.refuses.or ledger.refusal

/-- The ledger of some steps from the beginning. -/
def ofSteps (steps : List Step) : Ledger := steps.foldl after ⟨[], [], none⟩

/-- The ledger of one more step. -/
theorem ofSteps_concat (steps : List Step) (step : Step) :
    ofSteps (steps ++ [step]) = (ofSteps steps).after step := by
  rw [ofSteps, List.foldl_append]
  rfl

/-- The answers queued are those that the steps queue. -/
theorem queued_ofSteps (steps : List Step) :
    (ofSteps steps).queued = steps.flatMap Step.queues := by
  induction steps using List.reverseRecOn with
  | nil => rfl
  | append_singleton steps step ih =>
    rw [ofSteps_concat, after, ih, List.flatMap_append, List.flatMap_singleton]

/-- Updates fail once a step has made them fail. -/
theorem refusal_ofSteps_eq_none_iff {steps : List Step} :
    (ofSteps steps).refusal = none ↔ ∀ step ∈ steps, step.refuses = none := by
  induction steps using List.reverseRecOn with
  | nil => simp [ofSteps]
  | append_singleton steps step ih =>
    simp only [ofSteps_concat, after, Option.or_eq_none_iff, ih, List.forall_mem_append,
      List.forall_mem_singleton, and_comm]

/-- What has been received stays received. -/
theorem received_prefix (steps more : List Step) :
    (ofSteps steps).received <+: (ofSteps (steps ++ more)).received := by
  induction more using List.reverseRecOn with
  | nil => simp only [List.append_nil, List.prefix_rfl]
  | append_singleton more step ih =>
    refine ih.trans ?_
    rw [← List.append_assoc, ofSteps_concat, after]
    split
    · exact List.prefix_append _ _
    · exact List.prefix_rfl

/-- A round receives the oldest answer that no round before it has received. -/
theorem concat_oldest?_prefix (steps more : List Step) {step : Step} (h : step.asks = true) :
    (ofSteps steps).received ++ [(ofSteps steps).oldest?] <+:
      (ofSteps (steps ++ step :: more)).received := by
  have hround : (ofSteps (steps ++ [step])).received =
      (ofSteps steps).received ++ [(ofSteps steps).oldest?] := by
    rw [ofSteps_concat, after, if_pos h]
  rw [← hround, List.append_cons steps step more]
  exact received_prefix (steps ++ [step]) more

/-- There is an entry for each round. -/
theorem length_received (steps : List Step) :
    (ofSteps steps).received.length = steps.countP Step.asks := by
  induction steps using List.reverseRecOn with
  | nil => rfl
  | append_singleton steps step ih =>
    rw [ofSteps_concat, after, List.countP_append, List.countP_singleton]
    split
    · rw [List.length_append, ih, List.length_singleton]
    · exact ih

/-- How many answers have been handed out. -/
def taken (ledger : Ledger) : Nat := ledger.received.reduceOption.length

/-- The answers that are left to hand out. -/
def left (ledger : Ledger) : List Answer := ledger.queued.drop ledger.taken

/-- The answers have been handed out in the order in which they were queued, each once. -/
structure InOrder (ledger : Ledger) : Prop where
  received_eq : ledger.received.reduceOption = List.range ledger.taken
  taken_le : ledger.taken ≤ ledger.queued.length

/-- In order, an answer has been received when its number is smaller than that of the next one. -/
theorem InOrder.mem_received_iff {ledger : Ledger} (h : ledger.InOrder) {number : Nat} :
    some number ∈ ledger.received ↔ number < ledger.taken := by
  rw [← List.reduceOption_mem_iff, h.received_eq, List.mem_range]

/-- In order, the next answer is the one whose number is how many have been handed out. -/
theorem InOrder.oldest?_eq {ledger : Ledger} (h : ledger.InOrder) :
    ledger.oldest? = if ledger.taken < ledger.queued.length then some ledger.taken else none := by
  unfold oldest?
  split
  · rename_i hleft
    rw [List.find?_range_eq_some]
    simp only [decide_eq_true_eq, h.mem_received_iff, List.mem_range]
    exact ⟨Nat.lt_irrefl _, hleft, by simp⟩
  · rename_i hnone
    rw [List.find?_range_eq_none]
    simp only [Bool.not_eq_true', decide_eq_false_iff_not, not_not, h.mem_received_iff]
    omega

/-- In order, the next round receives the first answer that has not been handed out. -/
theorem InOrder.answer_eq {ledger : Ledger} (h : ledger.InOrder) (calls : List SearchCall) :
    ledger.answer calls =
      ledger.left.head?.getD (.ok (calls.map fun _ => InMemory.reply 0 [])) := by
  rw [answer, h.oldest?_eq, left, List.head?_drop]
  split
  · rfl
  · rename_i hnone
    rw [List.getElem?_eq_none (by omega)]
    rfl

/-- A round takes the next answer, if there is one left. -/
theorem InOrder.received_after {ledger : Ledger} (h : ledger.InOrder) (step : Step) :
    (ledger.after step).received.reduceOption = ledger.received.reduceOption ++
      if step.asks = true ∧ ledger.taken < ledger.queued.length then [ledger.taken] else [] := by
  unfold after
  cases step.asks with
  | false => simp
  | true =>
    simp only [if_true, List.reduceOption_append, List.reduceOption_singleton, h.oldest?_eq,
      true_and]
    split <;> rfl

/-- A round counts as one answer handed out, if there is one left. -/
theorem InOrder.taken_after {ledger : Ledger} (h : ledger.InOrder) (step : Step) :
    (ledger.after step).taken = ledger.taken +
      if step.asks = true ∧ ledger.taken < ledger.queued.length then 1 else 0 := by
  rw [taken, h.received_after, List.length_append, taken]
  split <;> rfl

/-- The answers stay in order. -/
theorem InOrder.after {ledger : Ledger} (h : ledger.InOrder) (step : Step) :
    (ledger.after step).InOrder := by
  have hle := h.taken_le
  constructor
  · rw [h.received_after, h.taken_after, h.received_eq]
    split
    · rw [List.range_succ]
    · rw [List.append_nil, Nat.add_zero]
  · have hqueued : ledger.queued.length ≤ (ledger.after step).queued.length := by
      simp [Ledger.after]
    rw [h.taken_after]
    split <;> omega

/-- The answers of every session are handed out in order. -/
theorem inOrder_ofSteps (steps : List Step) : (ofSteps steps).InOrder := by
  induction steps using List.reverseRecOn with
  | nil => exact ⟨rfl, Nat.le_refl 0⟩
  | append_singleton steps step ih =>
    rw [ofSteps_concat]
    exact ih.after step

/-- A search with a filter that is not known receives nothing: the lookup behind it does, and the
one behind that finds nothing left. -/
example : (ofSteps [.enqueue [], .search ⟨"ada", 0, 0, [], [⟨"team", "NOT", ["core"]⟩]⟩,
    .get .user "ada", .get .user "ada"]).received = [some 0, none] := by decide

/-- What a step leaves: a round takes the first answer, and the step queues its own. -/
theorem InOrder.left_after {ledger : Ledger} (h : ledger.InOrder) (step : Step) :
    (ledger.after step).left =
      (if step.asks then ledger.left.tail else ledger.left) ++ step.queues := by
  have hle := h.taken_le
  have hqueued : (ledger.after step).queued = ledger.queued ++ step.queues := rfl
  rw [left, h.taken_after, hqueued, left, List.tail_drop]
  cases step.asks with
  | false => simp [List.drop_append_of_le_length hle]
  | true =>
    by_cases hleft : ledger.taken < ledger.queued.length
    · simp [hleft, List.drop_append_of_le_length (Nat.succ_le_of_lt hleft)]
    · -- with nothing left to take, only what the step queues is there
      have hnone : ledger.queued.length ≤ ledger.taken := Nat.le_of_not_lt hleft
      simp [hleft, List.drop_append_of_le_length hle, List.drop_of_length_le hnone,
        List.drop_of_length_le (Nat.le_succ_of_le hnone)]

end Ledger

end CatalogSearch.Session
