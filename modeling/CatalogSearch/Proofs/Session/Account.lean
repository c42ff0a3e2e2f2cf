import CatalogSearch.Proofs.Session.Ledger

/-!
# The account of a session

Along every session the engine in memory keeps the books of its ledger, though it holds no more than
the answers that are left (`tallied`, by induction on the steps from what one step does). Hence each
outcome of a session is accounted for by its step and the ledger of the steps before it
(`Tallies.accounted`).

The main theorem, `run_accounted`, draws up the account of the whole session: how many rounds there
were, which answer each of them received, which changes the recorded updates come from, and that
nothing is recorded once updates fail.
-/

namespace CatalogSearch.Session

variable {config : CatalogConfig}

/-- The engine that some steps from the beginning lead to. -/
def reached (config : CatalogConfig) (steps : List Step) : InMemory := (run config steps .fresh).2

/-- Steps in two parts run one part after the other. -/
theorem run_append (config : CatalogConfig) (steps more : List Step) (state : InMemory) :
    run config (steps ++ more) state =
      let first := run config steps state
      let second := run config more first.2
      (first.1 ++ second.1, second.2) := by
  induction steps generalizing state with
  | nil => rfl
  | cons step rest ih => simp only [List.cons_append, run, ih]

/-- One more step has one more outcome. -/
theorem outcomes_concat (config : CatalogConfig) (steps : List Step) (step : Step) :
    outcomes config (steps ++ [step]) =
      outcomes config steps ++ [(step.observe config (reached config steps)).1] := by
  rw [outcomes, run_append]
  rfl

/-- One more step runs in the engine that the others have led to. -/
theorem reached_concat (config : CatalogConfig) (steps : List Step) (step : Step) :
    reached config (steps ++ [step]) = (step.run config (reached config steps)).2 := by
  rw [reached, run_append]
  rfl

/-- Every step has its outcome. -/
theorem length_outcomes (config : CatalogConfig) (steps : List Step) :
    (outcomes config steps).length = steps.length := by
  induction steps using List.reverseRecOn with
  | nil => rfl
  | append_singleton steps step ih =>
    rw [outcomes_concat, List.length_append, List.length_append, ih]
    rfl

/-- A step stands between the steps before it and those behind it. -/
theorem eq_take_append_drop {steps : List Step} {position : Nat} {step : Step}
    (h : steps[position]? = some step) :
    steps = steps.take position ++ step :: steps.drop (position + 1) := by
  obtain ⟨hposition, rfl⟩ := List.getElem?_eq_some_iff.1 h
  rw [← List.drop_eq_getElem_cons hposition, List.take_append_drop]

/-- The outcome of a step is what is observed of it in the engine that the steps before it have led
to. -/
theorem getElem?_outcomes {steps : List Step} {position : Nat} {step : Step}
    (h : steps[position]? = some step) :
    (outcomes config steps)[position]? =
      some (step.observe config (reached config (steps.take position))).1 := by
  have hlength : (outcomes config (steps.take position)).length = position := by
    have hposition : position < steps.length := (List.getElem?_eq_some_iff.1 h).1
    rw [length_outcomes, List.length_take, Nat.min_eq_left (Nat.le_of_lt hposition)]
  have hsplit : outcomes config steps = outcomes config (steps.take position) ++
      (run config (step :: steps.drop (position + 1)) (reached config (steps.take position))).1 := by
    conv_lhs => rw [eq_take_append_drop h, outcomes, run_append]
    rfl
  rw [hsplit, List.getElem?_append_right (Nat.le_of_eq hlength), hlength, Nat.sub_self]
  rfl

/-- The engine keeps the books of a ledger: it holds the answers that are left, and makes updates
fail for the reason that stands in the ledger. -/
structure Tallies (ledger : Ledger) (state : InMemory) : Prop where
  replies : state.replies = ledger.left
  updateFailure : state.updateFailure = ledger.refusal

/-- A round is answered as the ledger says. -/
theorem Tallies.nextAnswer_eq {ledger : Ledger} {state : InMemory} (h : Tallies ledger state)
    (hinOrder : ledger.InOrder) (calls : List SearchCall) :
    state.nextAnswer calls = ledger.answer calls := by
  rw [hinOrder.answer_eq, InMemory.nextAnswer, h.replies]

/-- A step is entered in the books. -/
theorem Tallies.run {ledger : Ledger} {state : InMemory} (h : Tallies ledger state)
    (hinOrder : ledger.InOrder) (step : Step) :
    Tallies (ledger.after step) (step.run config state).2 := by
  have heffect := step.run_effect config state
  constructor
  · rw [heffect.replies, hinOrder.left_after, h.replies]
  · rw [heffect.updateFailure, h.updateFailure]
    rfl

/-- The engine keeps the books of every session. -/
theorem tallied (config : CatalogConfig) (steps : List Step) :
    Tallies (.ofSteps steps) (reached config steps) := by
  induction steps using List.reverseRecOn with
  | nil => exact ⟨rfl, rfl⟩
  | append_singleton steps step ih =>
    rw [reached_concat, Ledger.ofSteps_concat]
    exact ih.run (Ledger.inOrder_ofSteps steps) step

/-- An outcome is accounted for by its step and the ledger of the steps before it. A step that asks
for a round has that round recorded, and its result is concluded from the answer that the ledger has
for the round. A change either fails and records nothing, or it succeeds and records one update, of
the field that it names, in the document and with the value that it planned from that answer; it
does not succeed when updates fail. No other step records an update. -/
structure Step.Accounted (config : CatalogConfig) (ledger : Ledger) (step : Step)
    (outcome : Outcome) : Prop where
  searches_eq : outcome.searches = if step.asks then [step.calls config] else []
  result_eq : step.asks = true →
    outcome.result = step.concludes config ledger.refusal (ledger.answer (step.calls config))
  change : ∀ mutation, step = .mutate mutation →
    (∃ failure, outcome.result = .mutate (.error failure) ∧ outcome.updates = []) ∨
    (∃ write, outcome.result = .mutate (.ok mutation.message) ∧
      Catalog.plan mutation (Catalog.resolve mutation.kind mutation.key
        (Catalog.paired [mutation.kind] (ledger.answer (step.calls config)))) = .ok write ∧
      outcome.updates = [⟨mutation.kind.name ++ config.indexSuffix, write.id,
        .object [("doc", .object [(mutation.sourceField, write.value.toJson)])]⟩] ∧
      ledger.refusal = none)
  other : (∀ mutation, step ≠ .mutate mutation) → outcome.updates = []

/-- What is observed of a step is accounted for by the ledger that the engine keeps. -/
theorem Tallies.accounted {ledger : Ledger} {state : InMemory} (h : Tallies ledger state)
    (hinOrder : ledger.InOrder) (step : Step) :
    step.Accounted config ledger (step.observe config state).1 := by
  have hresult := (step.run_effect config state).result
  rw [h.nextAnswer_eq hinOrder, h.updateFailure] at hresult
  rw [step.observe_eq, h.nextAnswer_eq hinOrder, h.updateFailure]
  constructor
  case searches_eq => rfl
  case result_eq => exact hresult
  case change =>
    rintro mutation rfl
    specialize hresult rfl
    simp only [Step.concludes, Step.records] at hresult ⊢
    rw [hresult]
    rcases Catalog.settle_cases config mutation ledger.refusal _ with ⟨failure, hsettled, -⟩ |
      ⟨write, hsettled, hplan, haccepted⟩
    · exact Or.inl ⟨failure, by rw [hsettled], by rw [hsettled]⟩
    · have hrecord := Catalog.recordOf_of_plan_eq_ok config hplan
      exact Or.inr ⟨write, by rw [hsettled], hplan, by rw [hsettled, hrecord], haccepted⟩
  case other => exact fun hother => Step.records_of_not_mutate hother _ _

/-- Once updates fail, nothing is recorded and every change fails. -/
theorem Step.Accounted.of_refusal {ledger : Ledger} {step : Step} {outcome : Outcome}
    (h : step.Accounted config ledger outcome) (hrefusal : ledger.refusal ≠ none) :
    outcome.updates = [] ∧
      ∀ mutation, step = .mutate mutation → ∃ failure, outcome.result = .mutate (.error failure) := by
  by_cases hmutate : ∃ mutation, step = .mutate mutation
  · obtain ⟨mutation, hstep⟩ := hmutate
    rcases h.change mutation hstep with ⟨failure, hresult, hupdates⟩ | ⟨_, _, _, _, haccepted⟩
    · exact ⟨hupdates, fun _ _ => ⟨failure, hresult⟩⟩
    · exact absurd haccepted hrefusal
  · exact ⟨h.other fun mutation hstep => hmutate ⟨mutation, hstep⟩,
      fun mutation hstep => absurd ⟨mutation, hstep⟩ hmutate⟩

/-- The rounds recorded in a session are those that its steps ask for. -/
theorem searches_reached (config : CatalogConfig) (steps : List Step) :
    (reached config steps).searches = steps.flatMap (Step.rounds config) := by
  induction steps using List.reverseRecOn with
  | nil => rfl
  | append_singleton steps step ih =>
    rw [reached_concat, (step.run_effect config _).searches, ih, List.flatMap_append,
      List.flatMap_singleton]

/-- A session has a round for each step that asks for one. -/
theorem length_rounds (config : CatalogConfig) (steps : List Step) :
    (steps.flatMap (Step.rounds config)).length = steps.countP Step.asks := by
  induction steps with
  | nil => rfl
  | cons step rest ih =>
    rw [List.flatMap_cons, List.length_append, ih, List.countP_cons, Nat.add_comm, Step.rounds]
    split <;> rfl

/-- The updates recorded in a session are those of its outcomes. -/
theorem updates_reached (config : CatalogConfig) (steps : List Step) :
    (reached config steps).updates = (outcomes config steps).flatMap Outcome.updates := by
  induction steps using List.reverseRecOn with
  | nil => rfl
  | append_singleton steps step ih =>
    rw [reached_concat, (step.run_effect config _).updates, ih, outcomes_concat, List.flatMap_append,
      List.flatMap_singleton, Step.observe_eq]

/-- A step that makes updates fail is in the ledger of the steps behind it. -/
theorem refusal_of_failUpdates {steps : List Step} {earlier later : Nat} {reason : String}
    (hlt : earlier < later) (h : steps[earlier]? = some (.failUpdates reason)) :
    (Ledger.ofSteps (steps.take later)).refusal ≠ none := by
  have hmem : Step.failUpdates reason ∈ steps.take later := by
    refine List.mem_of_getElem? (i := earlier) ?_
    rw [List.getElem?_take, if_pos hlt, h]
  intro hnone
  exact nomatch Ledger.refusal_ofSteps_eq_none_iff.1 hnone _ hmem

/-- The account of a session from the beginning, whatever its steps are.

Every step has an outcome. The rounds recorded are those of the lookups, the changes, and the
searches with known filters, one each. The updates recorded are those of the outcomes, and each
outcome is accounted for by its step and the ledger of the steps before it: a round receives the
oldest of the answers queued that no round before it has received, and one update is recorded for
each change that succeeds, none for any other step. Answers are received in the order in which they
were queued, each at most once; the engine is left with those that were not. Once a step has made
updates fail, no later step records one, and every later change fails. -/
theorem run_accounted (config : CatalogConfig) (steps : List Step) :
    let outcomes := outcomes config steps
    let final := reached config steps
    let ledger := Ledger.ofSteps steps
    outcomes.length = steps.length ∧
    final.searches = steps.flatMap (Step.rounds config) ∧
    final.searches.length = steps.countP Step.asks ∧
    final.updates = outcomes.flatMap Outcome.updates ∧
    (∀ (position : Nat) (step : Step) (outcome : Outcome),
      steps[position]? = some step → outcomes[position]? = some outcome →
      let before := Ledger.ofSteps (steps.take position)
      step.Accounted config before outcome ∧
      before.queued = (steps.take position).flatMap Step.queues ∧
      (step.asks = true → before.received ++ [before.oldest?] <+: ledger.received)) ∧
    ledger.received.length = final.searches.length ∧
    (∃ taken, ledger.received.reduceOption = List.range taken ∧
      final.replies = (steps.flatMap Step.queues).drop taken) ∧
    (∀ (earlier later : Nat) (reason : String) (step : Step) (outcome : Outcome),
      earlier < later → steps[earlier]? = some (.failUpdates reason) →
      steps[later]? = some step → outcomes[later]? = some outcome →
      outcome.updates = [] ∧ ∀ mutation, step = .mutate mutation →
        ∃ failure, outcome.result = .mutate (.error failure)) := by
  intro outcomes final ledger
  have hat : ∀ (position : Nat) (step : Step) (outcome : Outcome),
      steps[position]? = some step → outcomes[position]? = some outcome →
      step.Accounted config (Ledger.ofSteps (steps.take position)) outcome := by
    intro position step outcome hstep houtcome
    rw [getElem?_outcomes hstep] at houtcome
    obtain rfl := Option.some.inj houtcome
    exact (tallied config _).accounted (Ledger.inOrder_ofSteps _) step
  have hcount : final.searches.length = steps.countP Step.asks := by
    rw [searches_reached, length_rounds]
  refine ⟨length_outcomes config steps, searches_reached config steps, hcount,
    updates_reached config steps, ?step, ?entries, ?order, ?refused⟩
  case step =>
    intro position step outcome hstep houtcome before
    refine ⟨hat position step outcome hstep houtcome, Ledger.queued_ofSteps _, fun hasks => ?_⟩
    have hprefix :=
      Ledger.concat_oldest?_prefix (steps.take position) (steps.drop (position + 1)) hasks
    rwa [← eq_take_append_drop hstep] at hprefix
  case entries => rw [hcount, Ledger.length_received]
  case order =>
    refine ⟨ledger.taken, (Ledger.inOrder_ofSteps steps).received_eq, ?_⟩
    rw [(tallied config steps).replies, Ledger.left, Ledger.queued_ofSteps]
  case refused =>
    intro earlier later reason step outcome hlt hfail hstep houtcome
    exact (hat later step outcome hstep houtcome).of_refusal (refusal_of_failUpdates hlt hfail)

end CatalogSearch.Session
