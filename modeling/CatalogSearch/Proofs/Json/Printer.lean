import CatalogSearch.Json.Printer

/-!
# What compact text is made of

Compact text is never empty and stays on its line, whatever strings stand in the value, as keys or
as values: `Json.chars_ne_nil` and `Json.unbroken_chars`. Numbers are written with digits and a few
marks, a string with its control characters escaped, and between values there are marks only.
-/

namespace CatalogSearch

/-- A text without control characters, and so without line breaks. -/
def Unbroken (text : List Char) : Prop := ∀ c ∈ text, 0x20 ≤ c.toNat

/-- No text at all is unbroken. -/
@[simp] theorem unbroken_nil : Unbroken [] := fun _ h => nomatch h

/-- A text is unbroken when its first character is no control character and the rest is unbroken. -/
@[simp] theorem unbroken_cons_iff {c : Char} {rest : List Char} :
    Unbroken (c :: rest) ↔ 0x20 ≤ c.toNat ∧ Unbroken rest := List.forall_mem_cons

/-- A text is unbroken when both of its parts are. -/
@[simp] theorem unbroken_append_iff {first second : List Char} :
    Unbroken (first ++ second) ↔ Unbroken first ∧ Unbroken second := List.forall_mem_append

/-- Characters that stand in an unbroken text make one. -/
theorem Unbroken.of_subset {part text : List Char} (h : Unbroken text) (hpart : part ⊆ text) :
    Unbroken part := fun c hc => h c (hpart hc)

/-- There is no line break in an unbroken text. -/
theorem Unbroken.newline_not_mem {text : List Char} (h : Unbroken text) : '\n' ∉ text := fun hmem =>
  absurd (h _ hmem) (by decide)

/-! ## Numbers -/

/-- A digit is no control character. -/
theorem le_toNat_of_isDigit {c : Char} (h : c.isDigit = true) : 0x20 ≤ c.toNat := by
  have hdigit := (Char.isDigit_iff_toNat.1 h).1
  exact Nat.le_trans (by decide) hdigit

/-- A natural number is written with digits. -/
theorem unbroken_decimalDigits (n : Nat) : Unbroken (decimalDigits n) := fun _ hc =>
  le_toNat_of_isDigit (Nat.isDigit_of_mem_toDigits (by decide) (by decide) hc)

/-- A natural number has a digit. -/
theorem decimalDigits_ne_nil (n : Nat) : decimalDigits n ≠ [] := Nat.toDigits_ne_nil

/-- An integer is written with digits and a sign. -/
theorem unbroken_integerText (n : Int) : Unbroken (integerText n) := by
  have hdigits := unbroken_decimalDigits n.natAbs
  unfold integerText
  split
  · exact unbroken_cons_iff.2 ⟨by decide, hdigits⟩
  · exact hdigits

/-- An integer has a digit. -/
theorem integerText_ne_nil (n : Int) : integerText n ≠ [] := by
  unfold integerText
  split
  · exact List.cons_ne_nil _ _
  · exact decimalDigits_ne_nil _

namespace Decimal

/-- A decimal in positional form is written with digits and a point. -/
theorem unbroken_positional (decimal : Decimal) : Unbroken decimal.positional := by
  have hdigits := unbroken_decimalDigits decimal.digits
  have hzeros (n : Nat) : Unbroken (List.replicate n '0') := fun c hc => by
    rw [List.eq_of_mem_replicate hc]
    decide
  unfold positional
  split
  · simp [hdigits, hzeros]
  · split
    · simp [hdigits.of_subset (List.take_subset _ _), hdigits.of_subset (List.drop_subset _ _)]
    · simp [hdigits, hzeros]

/-- A decimal in scientific form is written with digits, a point, the exponent mark and a sign. -/
theorem unbroken_scientific (decimal : Decimal) : Unbroken decimal.scientific := by
  have hdigits := unbroken_decimalDigits decimal.digits
  have hexponent := unbroken_decimalDigits decimal.leading.natAbs
  have hfirst := hdigits.of_subset (List.take_subset 1 _)
  have hothers := hdigits.of_subset (List.drop_subset 1 _)
  unfold scientific
  simp only [unbroken_append_iff, unbroken_cons_iff]
  refine ⟨⟨hfirst, ?_⟩, by decide, ?_, hexponent⟩
  · split
    · exact unbroken_nil
    · exact unbroken_cons_iff.2 ⟨by decide, hothers⟩
  · split <;> decide

/-- A decimal is written without control characters. -/
theorem unbroken_text (decimal : Decimal) : Unbroken decimal.text := by
  unfold text
  split
  · exact decimal.unbroken_positional
  · exact decimal.unbroken_scientific

/-- A decimal has a point or an exponent. -/
theorem text_ne_nil (decimal : Decimal) : decimal.text ≠ [] := by
  unfold text positional scientific
  split
  · split
    · simp
    · split <;> simp
  · simp

end Decimal

/-- A double is written without control characters. -/
theorem Finite.unbroken_text (value : Finite) : Unbroken value.text := by
  unfold text
  rw [unbroken_append_iff]
  refine ⟨?_, value.shortest.unbroken_text⟩
  split
  · exact unbroken_cons_iff.2 ⟨by decide, unbroken_nil⟩
  · exact unbroken_nil

/-- A double has a point or an exponent. -/
theorem Finite.text_ne_nil (value : Finite) : value.text ≠ [] :=
  List.append_ne_nil_of_right_ne_nil _ value.shortest.text_ne_nil

/-! ## Strings -/

namespace Json

/-- A hexadecimal digit is no control character. -/
theorem le_toNat_hexDigit : ∀ n < 16, 0x20 ≤ (Text.hexDigit n).toNat := by decide

/-- A character is written without control characters, whatever it is. -/
theorem unbroken_escape (c : Char) : Unbroken (escape c) := by
  unfold escape
  split
  · simp
  · split
    · simp
    · split
      · rename_i hcontrol
        have hhigh := le_toNat_hexDigit (c.toNat / 16) (by omega)
        have hlow := le_toNat_hexDigit (c.toNat % 16) (by omega)
        repeat' split
        all_goals simp [hhigh, hlow]
      · rename_i hgraphic
        exact unbroken_cons_iff.2 ⟨Nat.le_of_not_lt hgraphic, unbroken_nil⟩

/-- A string is written without control characters, whatever it holds. -/
theorem unbroken_quoted (value : String) : Unbroken (quoted value) := by
  have hchars : Unbroken (value.toList.flatMap escape) := fun c hc => by
    obtain ⟨original, -, hc⟩ := List.mem_flatMap.1 hc
    exact unbroken_escape original c hc
  simp [quoted, hchars]

/-- A character is written with one character at least. -/
theorem escape_ne_nil (c : Char) : escape c ≠ [] := by
  unfold escape
  repeat' split
  all_goals exact List.cons_ne_nil _ _

/-- A string is longer when it is written, by its quotes at least. -/
theorem length_lt_length_quoted (value : String) :
    value.toList.length < (quoted value).length := by
  have hescaped (chars : List Char) : chars.length ≤ (chars.flatMap escape).length := by
    induction chars with
    | nil => exact Nat.le_refl 0
    | cons c rest ih =>
      have hpos := List.length_pos_iff.2 (escape_ne_nil c)
      rw [List.flatMap_cons, List.length_append, List.length_cons]
      omega
  have hchars := hescaped value.toList
  simp only [quoted, List.length_append, List.length_cons]
  omega

/-! ## Values -/

mutual

/-- Compact text has no control characters. -/
theorem unbroken_chars : (value : Json) → Unbroken value.chars
  | .null => by simp [chars]
  | .bool true => by simp [chars]
  | .bool false => by simp [chars]
  | .integer value => unbroken_integerText value.val
  | .decimal value => value.unbroken_text
  | .text value => unbroken_quoted value
  | .array items => by simp [chars, unbroken_itemChars items]
  | .object members => by simp [chars, unbroken_memberChars members]

/-- The text of the items of an array has no control characters. -/
theorem unbroken_itemChars : (items : List Json) → Unbroken (itemChars items)
  | [] => unbroken_nil
  | [item] => unbroken_chars item
  | item :: next :: rest => by
    simp [itemChars, unbroken_chars item, unbroken_itemChars (next :: rest)]

/-- The text of the members of an object has no control characters. -/
theorem unbroken_memberChars : (members : List (String × Json)) → Unbroken (memberChars members)
  | [] => unbroken_nil
  | [(key, value)] => by simp [memberChars, unbroken_quoted key, unbroken_chars value]
  | (key, value) :: next :: rest => by
    simp [memberChars, unbroken_quoted key, unbroken_chars value,
      unbroken_memberChars (next :: rest)]

end

/-- Compact text is never empty. -/
theorem chars_ne_nil (value : Json) : value.chars ≠ [] := by
  cases value with
  | bool value => cases value <;> simp [chars]
  | integer value => exact integerText_ne_nil value.val
  | decimal value => exact value.text_ne_nil
  | _ => simp [chars, quoted]

end Json

end CatalogSearch
