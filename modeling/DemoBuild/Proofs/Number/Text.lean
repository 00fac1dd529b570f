import DemoBuild.Number.Text

/-!
# Decimal digits

* `Number.isDigit_of_mem_natText`: a natural number is written with digits only;
* `Number.natText_ne_empty` and `Number.FloatStyle.render_ne_empty`: every number has a text;
* `Number.natText_injective`: different natural numbers are written differently.
-/

namespace DemoBuild.Number

/-- A natural number is written with digits only. -/
theorem isDigit_of_mem_natText {n : Nat} {c : Char} (hc : c ∈ (natText n).toList) :
    c.isDigit = true := by
  rw [natText, String.toList_ofList] at hc
  exact Nat.isDigit_of_mem_toDigits (by decide) (by decide) hc

/-- A natural number is written on one line. -/
theorem newline_not_mem_natText (n : Nat) : '\n' ∉ (natText n).toList :=
  fun h => absurd (isDigit_of_mem_natText h) (by decide)

/-- A natural number has digits. -/
theorem natText_ne_empty (n : Nat) : natText n ≠ "" := by
  simp [natText, Nat.toDigits_ne_nil]

theorem intText_ne_empty (n : Int) : intText n ≠ "" := by
  simp [intText, natText_ne_empty]

/-- The digits of a floating-point number stand somewhere, wherever the point is. -/
theorem FloatStyle.renderDigits_ne_empty (style : FloatStyle) (d : Double.Digits) :
    style.renderDigits d ≠ "" := by
  unfold renderDigits
  dsimp only
  split
  · unfold positional
    split
    · simp [Nat.toDigits_ne_nil]
    · split <;> simp
  · simp [scientific]

/-- A floating-point number has a text, unless that of what is no number is empty. -/
theorem FloatStyle.render_ne_empty {style : FloatStyle} (hnan : style.nan ≠ "")
    (hinfinity : style.infinity ≠ "") (x : Float) : style.render x ≠ "" := by
  unfold render
  dsimp only
  split
  · exact hnan
  · simp [hinfinity]
  · -- zero and the digits stand behind the sign
    rw [Ne, String.append_eq_empty_iff, not_and]
    intro _
    split
    · simp
    · exact style.renderDigits_ne_empty _

/-- The digits of a natural number say which number it is. -/
theorem natText_injective {m n : Nat} (h : natText m = natText n) : m = n := by
  have hdigits : Nat.toDigits 10 m = Nat.toDigits 10 n := by
    simpa [natText] using congrArg String.toList h
  rw [← Nat.ofDigitChars_ten_toDigits (n := m), hdigits, Nat.ofDigitChars_ten_toDigits]

end DemoBuild.Number
