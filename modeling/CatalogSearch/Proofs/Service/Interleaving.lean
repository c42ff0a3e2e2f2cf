import CatalogSearch.Proofs.Service.HeldDocument
import CatalogSearch.Service.Interleaving

/-!
# Changes of different fields at the same time

Changes of one document have no guard against each other, but each of them reads and writes one
field only. The main theorem, `Catalog.interleave_serializable`, says that changes of different
fields therefore lose nothing: however their steps are interleaved, every change has the answer, and
the document has the fields, that it has when the changes run one after the other.

The step lemma is `Catalog.HoldsDocument.advance`: the stage of a change and the stored value of
its field belong together (`Stage.Reached`), whatever the other changes do. The run lemma,
`Progress.Consistent.interleave`, carries this through a schedule, and a change that has taken both
steps has come to an end that is settled by the document at the start (`Stage.Reached.unique`).
Changes that run one after the other follow one of the schedules (`Catalog.interleave_serial`).
-/

namespace CatalogSearch

variable {σ : Type}

/-! ## One change after the other -/

namespace Catalog

/-- A schedule runs its first step and then the others. -/
theorem interleave_cons (catalog : Catalog σ) (mutation : Mutation) (rest : List Mutation)
    (progress : Progress) (state : σ) :
    catalog.interleave (mutation :: rest) progress state =
      let step := catalog.advance mutation (progress mutation) state
      catalog.interleave rest (progress.set mutation step.1) step.2 := rfl

/-- The two steps of a change make up the change. -/
theorem advance_twice (catalog : Catalog σ) (mutation : Mutation) (state : σ) :
    let first := catalog.advance mutation .pending state
    let answer := catalog.mutate mutation state
    catalog.advance mutation first.1 first.2 = (.finished answer.1, answer.2) := by
  simp only [advance, mutate, bind_apply]
  generalize catalog.prepare mutation state = prepared
  obtain ⟨outcome, after⟩ := prepared
  cases outcome <;> rfl

/-- A change that takes both of its steps at once is carried out as a whole. -/
theorem interleave_twice (catalog : Catalog σ) {mutation : Mutation} {progress : Progress}
    (hpending : progress mutation = .pending) (rest : List Mutation) (state : σ) :
    let answer := catalog.mutate mutation state
    catalog.interleave (mutation :: mutation :: rest) progress state =
      catalog.interleave rest (progress.set mutation (.finished answer.1)) answer.2 := by
  intro answer
  have htwice := catalog.advance_twice mutation state
  simp only [interleave_cons, hpending, Progress.set_self, Progress.set_set, htwice, answer]

/-- Changes that run one after the other take their steps in one of the possible orders. -/
theorem interleave_serial (catalog : Catalog σ) {order : List Mutation} (hnodup : order.Nodup)
    {progress : Progress} (hpending : ∀ mutation ∈ order, progress mutation = .pending)
    (state : σ) :
    let serial := order.mapM catalog.mutate state
    let final := catalog.interleave (order.flatMap fun mutation => [mutation, mutation]) progress
      state
    order.map final.1 = serial.1.map .finished ∧ final.2 = serial.2 ∧
      ∀ other, other ∉ order → final.1 other = progress other := by
  induction order generalizing progress state with
  | nil => exact ⟨rfl, rfl, fun _ _ => rfl⟩
  | cons mutation rest ih =>
    intro serial final
    obtain ⟨hnew, hrest⟩ := List.nodup_cons.1 hnodup
    obtain ⟨hmutation, hothers⟩ := List.forall_mem_cons.1 hpending
    generalize hanswer : catalog.mutate mutation state = answer
    have hserial : serial = (answer.1 :: (rest.mapM catalog.mutate answer.2).1,
        (rest.mapM catalog.mutate answer.2).2) := by
      simp only [serial, List.mapM_cons, bind_apply, hanswer]
      rfl
    have hfinal : final = catalog.interleave (rest.flatMap fun mutation => [mutation, mutation])
        (progress.set mutation (.finished answer.1)) answer.2 := by
      rw [← hanswer]
      exact catalog.interleave_twice hmutation _ state
    -- the others have not taken a step yet
    have hwaiting : ∀ other ∈ rest,
        progress.set mutation (.finished answer.1) other = .pending := by
      intro other hother
      have hne : other ≠ mutation := fun heq => hnew (heq ▸ hother)
      rw [Progress.set_of_ne _ hne, hothers other hother]
    obtain ⟨hanswers, hstate, hframe⟩ := ih hrest hwaiting answer.2
    rw [← hfinal] at hanswers hstate hframe
    rw [hserial]
    refine ⟨?_, hstate, fun other hother => ?_⟩
    · rw [List.map_cons, List.map_cons, hanswers, hframe mutation hnew, Progress.set_self]
    · obtain ⟨hne, hnot⟩ := not_or.1 (mt List.mem_cons.2 hother)
      rw [hframe other hnot, Progress.set_of_ne _ hne]

end Catalog

/-! ## One step of a change -/

/-- The stage of a change and the stored value of its field, given what the change comes to and the
value before it: the field has the new value when the write has been carried out, and not before. -/
inductive Stage.Reached (outcome : Except MutationFailure PendingWrite) (before : Option Json) :
    Stage → Option Json → Prop where
  | pending : Reached outcome before .pending before
  | planned {write : PendingWrite} :
      outcome = .ok write → Reached outcome before (.planned write) before
  | failed {failure : MutationFailure} :
      outcome = .error failure → Reached outcome before (.finished (.error failure)) before
  | written {write : PendingWrite} :
      outcome = .ok write →
      Reached outcome before (.finished (.ok write.mutation.message)) (some write.value.toJson)

/-- A change has planned the write that it comes to. -/
theorem Stage.Reached.outcome_eq {outcome : Except MutationFailure PendingWrite}
    {before now : Option Json} {write : PendingWrite}
    (h : Reached outcome before (.planned write) now) : outcome = .ok write := by
  cases h with
  | planned hwrite => exact hwrite

/-- The end of a change is settled by what it comes to and the value before it. -/
theorem Stage.Reached.unique {outcome : Except MutationFailure PendingWrite}
    {before now other : Option Json} {stage last : Stage}
    (h : Reached outcome before stage now) (h' : Reached outcome before last other)
    (hstage : stage.remaining = 0) (hlast : last.remaining = 0) : stage = last ∧ now = other := by
  cases h with
  | pending => cases hstage
  | planned _ => cases hstage
  | failed hfailure =>
    cases h' with
    | pending => cases hlast
    | planned _ => cases hlast
    | failed hfailure' =>
      cases hfailure.symm.trans hfailure'
      exact ⟨rfl, rfl⟩
    | written hwrite => cases hfailure.symm.trans hwrite
  | written hwrite =>
    cases h' with
    | pending => cases hlast
    | planned _ => cases hlast
    | failed hfailure => cases hwrite.symm.trans hfailure
    | written hwrite' =>
      cases hwrite.symm.trans hwrite'
      exact ⟨rfl, rfl⟩

/-- A change that has not succeeded has not changed its field. -/
theorem Stage.Reached.eq_before {outcome : Except MutationFailure PendingWrite}
    {before now : Option Json} {stage : Stage} (h : Reached outcome before stage now)
    (hfailed : ∀ message, stage ≠ .finished (.ok message)) : now = before := by
  cases h with
  | written _ => exact absurd rfl (hfailed _)
  | _ => rfl

/-- A step of a change that is at its stage takes it to its next stage, and moves no field but its
own. -/
theorem Catalog.HoldsDocument.advance {catalog : Catalog σ} {kind : ResourceKind}
    {key id : String} {document : σ → OrderedMap String Json}
    (h : catalog.HoldsDocument kind key id document) {mutation : Mutation}
    (hkind : mutation.kind = kind) (hkey : mutation.key = key) {state : σ}
    (hfound : (document state).find? FieldTable.keyField = some (.text key))
    {start : OrderedMap String Json} {stage : Stage}
    (hreached : stage.Reached (mutation.outcome id start) (start.find? mutation.sourceField)
      ((document state).find? mutation.sourceField)) :
    ∃ next after, catalog.advance mutation stage state = (next, after) ∧
      next.remaining ≤ stage.remaining - 1 ∧
      next.Reached (mutation.outcome id start) (start.find? mutation.sourceField)
        ((document after).find? mutation.sourceField) ∧
      ∀ field, field ≠ mutation.sourceField →
        (document after).find? field = (document state).find? field := by
  cases stage with
  | pending =>
    have hbefore := hreached.eq_before fun _ hstage => nomatch hstage
    obtain ⟨after, hprepare, hafter⟩ := h.prepare hkind hkey hfound
    rw [Mutation.outcome_congr hbefore] at hprepare
    rw [← hbefore]
    cases houtcome : mutation.outcome id start with
    | error failure =>
      rw [houtcome] at hprepare
      refine ⟨.finished (.error failure), after, ?_, Nat.zero_le _, ?_, fun _ _ => by rw [hafter]⟩
      · rw [Catalog.advance, bind_apply, hprepare]
        rfl
      · rw [hafter]
        exact .failed rfl
    | ok write =>
      rw [houtcome] at hprepare
      refine ⟨.planned write, after, ?_, Nat.le_refl _, ?_, fun _ _ => by rw [hafter]⟩
      · rw [Catalog.advance, bind_apply, hprepare]
        rfl
      · rw [hafter]
        exact .planned rfl
  | planned write =>
    have houtcome := hreached.outcome_eq
    obtain ⟨hmutation, hid⟩ := Mutation.of_outcome_eq_ok houtcome
    obtain ⟨after, hcommit, hafter⟩ := h.commit (hmutation ▸ hkind) hid state
    refine ⟨.finished (.ok write.mutation.message), after, ?_, Nat.le_refl _, ?_, ?_⟩
    · rw [Catalog.advance, bind_apply, hcommit]
      rfl
    · rw [hafter, if_pos (by rw [hmutation])]
      exact .written houtcome
    · intro field hne
      rw [hafter, if_neg (by rwa [hmutation])]
  | finished answer =>
    exact ⟨.finished answer, state, rfl, Nat.le_refl _, hreached, fun _ _ => rfl⟩

/-! ## All steps of some changes -/

/-- Changes of different fields of one document, none of which is its key. -/
structure SeparateChanges (kind : ResourceKind) (key : String) (mutations : List Mutation) :
    Prop where
  kind_eq : ∀ mutation ∈ mutations, mutation.kind = kind
  key_eq : ∀ mutation ∈ mutations, mutation.key = key
  distinct : mutations.Pairwise fun a b => a.sourceField ≠ b.sourceField
  ne_keyField : ∀ mutation ∈ mutations, mutation.sourceField ≠ FieldTable.keyField

namespace SeparateChanges

variable {kind : ResourceKind} {key : String} {mutations : List Mutation}

/-- No change stands in the list twice. -/
theorem nodup (h : SeparateChanges kind key mutations) : mutations.Nodup :=
  h.distinct.imp fun hne heq => hne (congrArg Mutation.sourceField heq)

/-- Different changes have different fields. -/
theorem sourceField_ne (h : SeparateChanges kind key mutations) {mutation other : Mutation}
    (hmutation : mutation ∈ mutations) (hother : other ∈ mutations) (hne : mutation ≠ other) :
    mutation.sourceField ≠ other.sourceField := by
  obtain ⟨-, -, hdistinct, -⟩ := h
  induction mutations with
  | nil => cases hmutation
  | cons first rest ih =>
    obtain ⟨hfirst, hrest⟩ := List.pairwise_cons.1 hdistinct
    rcases List.mem_cons.1 hmutation with rfl | hmem
    · rcases List.mem_cons.1 hother with rfl | hmem'
      · exact absurd rfl hne
      · exact hfirst other hmem'
    · rcases List.mem_cons.1 hother with rfl | hmem'
      · exact (hfirst mutation hmem).symm
      · exact ih hmem hmem' hrest

end SeparateChanges

/-- How far some changes of a document have come, and its fields meanwhile, when they have started
from given fields: every change is at a stage on its way, and no other field has moved. -/
structure Progress.Consistent (progress : Progress) (mutations : List Mutation) (id : String)
    (start now : OrderedMap String Json) : Prop where
  reached : ∀ mutation ∈ mutations, (progress mutation).Reached (mutation.outcome id start)
    (start.find? mutation.sourceField) (now.find? mutation.sourceField)
  others : ∀ field, (∀ mutation ∈ mutations, mutation.sourceField ≠ field) →
    now.find? field = start.find? field

namespace Progress.Consistent

variable {mutations : List Mutation} {id : String} {start now : OrderedMap String Json}
  {progress : Progress}

/-- Before the first step, nothing has moved. -/
theorem initial (mutations : List Mutation) (id : String) (start : OrderedMap String Json) :
    Progress.initial.Consistent mutations id start start where
  reached _ _ := .pending
  others _ _ := rfl

/-- A field that no successful change names is as it was at the start. -/
theorem find?_eq (h : progress.Consistent mutations id start now) {field : String}
    (hfailed : ∀ mutation ∈ mutations, mutation.sourceField = field →
      ∀ message, progress mutation ≠ .finished (.ok message)) :
    now.find? field = start.find? field := by
  by_cases hnamed : ∃ mutation ∈ mutations, mutation.sourceField = field
  · obtain ⟨mutation, hmem, rfl⟩ := hnamed
    exact (h.reached mutation hmem).eq_before (hfailed mutation hmem rfl)
  · exact h.others field fun mutation hmem heq => hnamed ⟨mutation, hmem, heq⟩

/-- Changes that are all finished have come to the same end, by whichever way. -/
theorem unique (h : progress.Consistent mutations id start now) {other : Progress}
    {later : OrderedMap String Json} (h' : other.Consistent mutations id start later)
    (hfinished : ∀ mutation ∈ mutations, (progress mutation).remaining = 0)
    (hfinished' : ∀ mutation ∈ mutations, (other mutation).remaining = 0) :
    (∀ mutation ∈ mutations, progress mutation = other mutation) ∧ now = later := by
  have hunique : ∀ mutation ∈ mutations, progress mutation = other mutation ∧
      now.find? mutation.sourceField = later.find? mutation.sourceField := fun mutation hmem =>
    (h.reached mutation hmem).unique (h'.reached mutation hmem) (hfinished mutation hmem)
      (hfinished' mutation hmem)
  refine ⟨fun mutation hmem => (hunique mutation hmem).1, OrderedMap.ext_find? fun field => ?_⟩
  by_cases hnamed : ∃ mutation ∈ mutations, mutation.sourceField = field
  · obtain ⟨mutation, hmem, rfl⟩ := hnamed
    exact (hunique mutation hmem).2
  · have hothers : ∀ mutation ∈ mutations, mutation.sourceField ≠ field :=
      fun mutation hmem heq => hnamed ⟨mutation, hmem, heq⟩
    rw [h.others field hothers, h'.others field hothers]

variable {catalog : Catalog σ} {kind : ResourceKind} {key : String}
  {document : σ → OrderedMap String Json}

/-- A step of one change keeps all of them on their way. -/
theorem advance (hholds : catalog.HoldsDocument kind key id document)
    (hseparate : SeparateChanges kind key mutations)
    (hkey : start.find? FieldTable.keyField = some (.text key)) {state : σ}
    (h : progress.Consistent mutations id start (document state)) {mutation : Mutation}
    (hmem : mutation ∈ mutations) :
    let step := catalog.advance mutation (progress mutation) state
    (progress.set mutation step.1).Consistent mutations id start (document step.2) ∧
      step.1.remaining ≤ (progress mutation).remaining - 1 := by
  have hfound : (document state).find? FieldTable.keyField = some (.text key) := by
    rw [h.others FieldTable.keyField hseparate.ne_keyField, hkey]
  obtain ⟨next, after, hstep, hremaining, hreached, hframe⟩ :=
    hholds.advance (hseparate.kind_eq mutation hmem) (hseparate.key_eq mutation hmem) hfound
      (h.reached mutation hmem)
  intro step
  rw [show step = (next, after) from hstep]
  refine ⟨⟨fun other hother => ?_, fun field hothers => ?_⟩, hremaining⟩
  · by_cases hsame : other = mutation
    · subst hsame
      rwa [Progress.set_self]
    · rw [Progress.set_of_ne _ hsame,
        hframe other.sourceField (hseparate.sourceField_ne hother hmem hsame)]
      exact h.reached other hother
  · rw [hframe field (hothers mutation hmem).symm, h.others field hothers]

/-- A schedule keeps all changes on their way, and each takes as many steps as it has turns. -/
theorem interleave (hholds : catalog.HoldsDocument kind key id document)
    (hseparate : SeparateChanges kind key mutations)
    (hkey : start.find? FieldTable.keyField = some (.text key)) {schedule : List Mutation}
    (hschedule : ∀ mutation ∈ schedule, mutation ∈ mutations) {state : σ}
    (h : progress.Consistent mutations id start (document state)) :
    let final := catalog.interleave schedule progress state
    final.1.Consistent mutations id start (document final.2) ∧
      ∀ mutation, (final.1 mutation).remaining ≤
        (progress mutation).remaining - schedule.count mutation := by
  induction schedule generalizing progress state with
  | nil => exact ⟨h, fun _ => Nat.le_refl _⟩
  | cons first rest ih =>
    obtain ⟨hfirst, hrest⟩ := List.forall_mem_cons.1 hschedule
    obtain ⟨hnext, hremaining⟩ := h.advance hholds hseparate hkey hfirst
    obtain ⟨hfinal, hsteps⟩ := ih hrest hnext
    intro final
    rw [show final = _ from catalog.interleave_cons first rest progress state]
    refine ⟨hfinal, fun mutation => Nat.le_trans (hsteps mutation) ?_⟩
    by_cases hsame : mutation = first
    · subst hsame
      rw [Progress.set_self, List.count_cons_self]
      omega
    · exact Nat.le_of_eq (by
        rw [Progress.set_of_ne _ hsame, List.count_cons_of_ne (Ne.symm hsame)])

/-- Changes that have all had their two turns are finished. -/
theorem finished (hholds : catalog.HoldsDocument kind key id document)
    (hseparate : SeparateChanges kind key mutations) {state : σ}
    (hkey : (document state).find? FieldTable.keyField = some (.text key))
    {schedule : List Mutation} (hschedule : ∀ mutation ∈ schedule, mutation ∈ mutations)
    (hturns : ∀ mutation ∈ mutations, 2 ≤ schedule.count mutation) :
    let final := catalog.interleave schedule .initial state
    final.1.Consistent mutations id (document state) (document final.2) ∧
      ∀ mutation ∈ mutations, (final.1 mutation).remaining = 0 := by
  intro final
  obtain ⟨hfinal, hremaining⟩ :=
    (initial mutations id (document state)).interleave hholds hseparate hkey hschedule
  refine ⟨hfinal, fun mutation hmem => ?_⟩
  have hsteps : (final.1 mutation).remaining ≤ 2 - schedule.count mutation := hremaining mutation
  have htwo := hturns mutation hmem
  omega

end Progress.Consistent

namespace Catalog

/-- Every change has two turns in a schedule of two turns for each. -/
theorem two_le_count {mutations schedule : List Mutation}
    (h : schedule.Perm (mutations ++ mutations)) {mutation : Mutation}
    (hmem : mutation ∈ mutations) : 2 ≤ schedule.count mutation := by
  have hpos : 0 < mutations.count mutation := List.count_pos_iff.2 hmem
  rw [h.count_eq, List.count_append]
  omega

/-- When changes run one after the other, each of them has its two turns. -/
theorem perm_serial (order : List Mutation) :
    (order.flatMap fun mutation => [mutation, mutation]).Perm (order ++ order) := by
  induction order with
  | nil => exact .nil
  | cons mutation rest ih =>
    show (mutation :: mutation :: rest.flatMap fun mutation => [mutation, mutation]).Perm
      (mutation :: (rest ++ mutation :: rest))
    exact ((ih.cons mutation).trans List.perm_middle.symm).cons mutation

/-- Changes of different fields of one document, none of which is its key, can be interleaved in
every way: each of them has the same answer, and the document the same fields in the end, as when
they run one after the other in any order. A field that no successful change names is as before. -/
theorem interleave_serializable {catalog : Catalog σ} {kind : ResourceKind} {key id : String}
    {document : σ → OrderedMap String Json}
    (hholds : catalog.HoldsDocument kind key id document) {mutations : List Mutation}
    (hseparate : SeparateChanges kind key mutations) {state : σ}
    (hkey : (document state).find? FieldTable.keyField = some (.text key))
    {schedule order : List Mutation} (hschedule : schedule.Perm (mutations ++ mutations))
    (horder : order.Perm mutations) :
    let interleaved := catalog.interleave schedule .initial state
    let serial := order.mapM catalog.mutate state
    order.map interleaved.1 = serial.1.map .finished ∧
      document interleaved.2 = document serial.2 ∧
      ∀ field, (∀ mutation ∈ mutations, mutation.sourceField = field →
          ∀ message, interleaved.1 mutation ≠ .finished (.ok message)) →
        (document interleaved.2).find? field = (document state).find? field := by
  intro interleaved serial
  -- the serial run is another interleaving of the same changes
  have hperm : (order.flatMap fun mutation => [mutation, mutation]).Perm
      (mutations ++ mutations) := (perm_serial order).trans (horder.append horder)
  have hmem : ∀ {steps : List Mutation}, steps.Perm (mutations ++ mutations) →
      ∀ mutation ∈ steps, mutation ∈ mutations := by
    intro steps hsteps mutation hmutation
    rcases List.mem_append.1 (hsteps.mem_iff.1 hmutation) with hmutation | hmutation
    · exact hmutation
    · exact hmutation
  obtain ⟨hconsistent, hfinished⟩ := Progress.Consistent.finished hholds hseparate hkey
    (hmem hschedule) fun _ => two_le_count hschedule
  obtain ⟨hconsistent', hfinished'⟩ := Progress.Consistent.finished hholds hseparate hkey
    (hmem hperm) fun _ => two_le_count hperm
  obtain ⟨hanswers, hdocument⟩ := hconsistent.unique hconsistent' hfinished hfinished'
  have hpending : ∀ mutation ∈ order, Progress.initial mutation = .pending := fun _ _ => rfl
  obtain ⟨hserial, hstate, -⟩ :=
    catalog.interleave_serial (horder.symm.nodup hseparate.nodup) hpending state
  refine ⟨?_, ?_, fun field hfailed => hconsistent.find?_eq hfailed⟩
  · rw [← hserial]
    exact List.map_congr_left fun mutation hmutation =>
      hanswers mutation (horder.mem_iff.1 hmutation)
  · rw [hdocument, hstate]

/-- A table with one tag, one badge and an empty description. -/
def orders : OrderedMap String Json :=
  .ofList [("key", .text "orders"), ("tags", .array [.text "pii"]),
    ("badges", .array [.text "alpha"]), ("description", .text "")]

/-- Put another tag on the table. -/
def tagOrders : Mutation := .update ⟨.table, "orders", "tag", "gold", .add⟩

/-- Describe the table. -/
def describeOrders : Mutation := .update ⟨.table, "orders", "description", "All", .overwrite⟩

/-- Remove a badge that the table does not have. -/
def unbadgeOrders : Mutation := .delete ⟨.table, "orders", "badges", some "beta"⟩

/-- Two changes of the table interleave with the third one, which finds nothing to remove. -/
theorem interleave_serializable_orders :
    let catalog : Catalog (OrderedMap String Json) := ⟨singleDocument "orders" "t1", .standard⟩
    let schedule := [tagOrders, unbadgeOrders, describeOrders, describeOrders, unbadgeOrders,
      tagOrders]
    let final := catalog.interleave schedule .initial orders
    [unbadgeOrders, describeOrders, tagOrders].map final.1 =
      [.finished (.error (unbadgeOrders.failure (.removal ⟨"beta"⟩))),
        .finished (.ok describeOrders.message), .finished (.ok tagOrders.message)] ∧
    final.2.entries = [("badges", .array [.text "alpha"]), ("description", .text "All"),
      ("key", .text "orders"), ("tags", .array [.text "pii", .text "gold"])] := by
  have hseparate : SeparateChanges .table "orders" [tagOrders, unbadgeOrders, describeOrders] :=
    ⟨by decide, by decide, by decide, by decide⟩
  have hschedule : [tagOrders, unbadgeOrders, describeOrders, describeOrders, unbadgeOrders,
      tagOrders].Perm ([tagOrders, unbadgeOrders, describeOrders] ++
        [tagOrders, unbadgeOrders, describeOrders]) := by decide
  have horder : [unbadgeOrders, describeOrders, tagOrders].Perm
      [tagOrders, unbadgeOrders, describeOrders] := by decide
  have hkey : orders.find? FieldTable.keyField = some (.text "orders") := rfl
  obtain ⟨hanswers, hdocument, -⟩ := interleave_serializable
    (holdsDocument_singleDocument .standard .table "orders" "t1") hseparate hkey hschedule horder
  exact ⟨hanswers.trans rfl, (congrArg OrderedMap.entries hdocument).trans rfl⟩

end Catalog

end CatalogSearch
