import CatalogSearch.Proofs.Value.Edit

/-!
# A list as the texts that show its items

Whoever edits a field sees its items as texts, whatever kinds of value they are. `TextEdit.onTexts`
are the edits of a list of texts, as that user expects them, and `Value.edited` those of a field
value. `Value.Follows` says that every run of edits has the same outcomes on both, one after the
other.

The main theorem, `edited_follows_texts`, says that a list follows its texts, that adding turns any
single value into a list that does, and what the other edits make of a single value.
-/

namespace CatalogSearch

/-- An edit of a value: a text is put into it, next to what it holds or in its place; a text that is
not empty is removed from it; or everything is. -/
inductive TextEdit where
  | add (text : String)
  | overwrite (text : String)
  | remove (text : String) (nonempty : text ≠ "")
  | clear

namespace TextEdit

/-- What an edit makes of a list of texts. A removal takes the first text that is the one to remove,
and fails when there is none. -/
def onTexts (texts : List String) : TextEdit → Except ValueAbsent (List String)
  | .add text => .ok (texts ++ [text])
  | .overwrite text => .ok [text]
  | .remove text _ => if text ∈ texts then .ok (texts.erase text) else .error ⟨text⟩
  | .clear => .ok []

variable {σ : Type}

/-- The state after an edit, which a failed one leaves as it was. -/
def settled (state : σ) : Except ValueAbsent σ → σ
  | .ok next => next
  | .error _ => state

/-- The outcomes of a run of edits, each of which starts where the one before has left the state. -/
def outcomes (step : σ → TextEdit → Except ValueAbsent σ) :
    σ → List TextEdit → List (Except ValueAbsent σ)
  | _, [] => []
  | state, edit :: rest =>
    step state edit :: outcomes step (settled state (step state edit)) rest

end TextEdit

namespace Value

/-- What an edit makes of a value. -/
def edited (current : Value) : TextEdit → Except ValueAbsent Value
  | .add new => .ok (current.updated new .add)
  | .overwrite new => .ok (current.updated new .overwrite)
  | .remove old _ => current.removed (some old)
  | .clear => current.removed none

/-- The texts that show the items of a list. -/
def texts? : Value → Option (List String)
  | .list items => some (items.map display)
  | _ => none

/-- A list follows some texts: every run of edits has the same outcomes on both, which are failures
at the same places, and lists that show the same texts at all others. -/
def Follows (items : List Value) (texts : List String) : Prop :=
  ∀ edits, (TextEdit.outcomes edited (.list items) edits).map (Except.map texts?) =
    (TextEdit.outcomes TextEdit.onTexts texts edits).map (Except.map some)

/-- A removal takes the first item that shows the text, as one from the texts does. -/
theorem map_display_removeFirst? (text : String) (items : List Value) :
    (removeFirst? text items).map (List.map display) =
      if text ∈ items.map display then some ((items.map display).erase text) else none := by
  induction items with
  | nil => rfl
  | cons item rest ih =>
    rw [removeFirst?, List.map_cons]
    by_cases h : item.display = text
    · rw [if_pos h, if_pos (h ▸ List.mem_cons_self), h, List.erase_cons_head]
      rfl
    · have hmem : text ∈ item.display :: rest.map display ↔ text ∈ rest.map display := by
        rw [List.mem_cons]
        exact or_iff_right fun heq => h heq.symm
      rw [if_neg h, List.erase_cons_tail (by simpa using h), Option.map_map]
      show ((removeFirst? text rest).map fun others => item.display :: others.map display) = _
      rw [← Function.comp_def (List.cons item.display) (List.map display), ← Option.map_map, ih]
      simp only [hmem]
      split <;> rfl

/-- An edit has the same outcome on a list as on its texts. -/
theorem texts?_edited_list (items : List Value) (edit : TextEdit) :
    ((list items).edited edit).map texts? = (edit.onTexts (items.map display)).map some := by
  cases edit with
  | add new =>
    show Except.ok (some ((items ++ [text new]).map display)) = _
    rw [List.map_append]
    rfl
  | overwrite new => rfl
  | remove old hold =>
    have hremoved := map_display_removeFirst? old items
    have hempty : old.isEmpty = false := by simpa using hold
    show ((list items).removed (some old)).map texts? = _
    simp only [removed, hempty, TextEdit.onTexts]
    cases hrest : removeFirst? old items with
    | none =>
      rw [hrest] at hremoved
      split at hremoved
      · cases hremoved
      · rename_i hmem
        rw [if_neg hmem]
        rfl
    | some rest =>
      rw [hrest] at hremoved
      split at hremoved
      · rename_i hmem
        rw [if_pos hmem, ← Option.some.inj hremoved]
        rfl
      · cases hremoved
  | clear => rfl

/-- The state after an edit of a list is a list again, and shows the texts after the edit. -/
theorem settled_edited_list (items : List Value) (edit : TextEdit) :
    ∃ rest, TextEdit.settled (list items) ((list items).edited edit) = list rest ∧
      TextEdit.settled (items.map display) (edit.onTexts (items.map display)) =
        rest.map display := by
  have hstep := texts?_edited_list items edit
  cases hvalue : (list items).edited edit with
  | error absent =>
    cases htexts : edit.onTexts (items.map display) with
    | error _ => exact ⟨items, rfl, rfl⟩
    | ok texts =>
      rw [hvalue, htexts] at hstep
      cases hstep
  | ok value =>
    cases htexts : edit.onTexts (items.map display) with
    | error _ =>
      rw [hvalue, htexts] at hstep
      cases hstep
    | ok texts =>
      rw [hvalue, htexts] at hstep
      have hshown : value.texts? = some texts := Except.ok.inj hstep
      cases value with
      | list rest => exact ⟨rest, rfl, (Option.some.inj hshown).symm⟩
      | _ => cases hshown

/-- A list follows the texts that show its items. -/
theorem follows_texts (items : List Value) : Follows items (items.map display) := by
  intro edits
  induction edits generalizing items with
  | nil => rfl
  | cons edit rest ih =>
    obtain ⟨left, hvalue, htexts⟩ := settled_edited_list items edit
    rw [TextEdit.outcomes, TextEdit.outcomes, List.map_cons, List.map_cons, hvalue, htexts,
      texts?_edited_list, ih left]

/-- A list follows the texts that show its items through every run of edits. Adding a text to any
other value makes a list of it, which follows its texts from there on: the text alone if there was
nothing, and else the text behind what there was. Overwriting any other value makes it the text, and
removing from it empties it, whatever is to be removed. -/
theorem edited_follows_texts (current : Value) :
    (∀ items, current = .list items → Follows items (items.map display)) ∧
    ((∀ items, current ≠ .list items) →
      (∀ new, ∃ items, current.edited (.add new) = .ok (.list items) ∧
        (current = .null → items = [.text new]) ∧
        (current ≠ .null → items = [current, .text new]) ∧
        Follows items (items.map display)) ∧
      (∀ new, current.edited (.overwrite new) = .ok (.text new)) ∧
      ∀ old : Option String, current.removed old = .ok (.text "")) := by
  refine ⟨fun items _ => follows_texts items, fun hsingle => ⟨fun new => ?_, fun new => ?_,
    fun old => removed_of_single hsingle⟩⟩
  · by_cases hnull : current = .null
    · subst hnull
      exact ⟨[.text new], rfl, fun _ => rfl, fun h => absurd rfl h, follows_texts _⟩
    · have hadded : current.edited (.add new) = .ok (.list [current, .text new]) :=
        congrArg Except.ok (updated_add_of_single hsingle hnull)
      exact ⟨_, hadded, fun h => absurd h hnull, fun _ => rfl, follows_texts _⟩
  · exact congrArg Except.ok (updated_overwrite_of_single hsingle)

/-- A number and a text that look the same are one and the same to a removal: the first of them
goes. -/
example : TextEdit.outcomes edited (.list [.integer 7, .text "7"])
    [.remove "7" (by decide), .add "8", .remove "9" (by decide)] =
      [.ok (.list [.text "7"]), .ok (.list [.text "7", .text "8"]), .error ⟨"9"⟩] := rfl

end Value

end CatalogSearch
