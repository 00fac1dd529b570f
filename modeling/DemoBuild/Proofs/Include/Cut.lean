import DemoBuild.Proofs.Include.Directive
import Mathlib.Algebra.BigOperators.Group.List.Basic
import Mathlib.Algebra.Ring.Nat

/-!
# Texts cut at their directives

A text is cut at its first directive, then at the first one behind it, and so on: the directives are
the leftmost ones that do not overlap, and what stands between them is kept. No piece that is kept
holds a directive, but pieces that are joined can: a directive then starts at the end of a piece and
goes on in the pieces behind it.

## Main definitions

* `Directive.cut`: a text cut at its directives;
* `Text.weight`: the size of a text, in characters or in bytes;
* `Directive.Straddles`: a directive starts at the end of a piece and goes on behind it.

## Main results

* `Directive.text_cut`: the cut loses nothing;
* `Directive.cut_of_first`: the cut goes on behind the first directive;
* `Directive.free_of_mem_kept`: what is kept holds no directive;
* `Directive.straddles_of_flatten_eq`: where a directive stands in joined pieces.
-/

namespace DemoBuild

/-- A text that is cut at directives. -/
structure Cut where
  /-- The directives, each with what stands in front of it. -/
  parts : List (List Char × Directive)
  /-- What stands behind the last directive. -/
  rest : List Char

namespace Cut

/-- The whole text. -/
def text (c : Cut) : List Char :=
  c.parts.flatMap (fun (before, d) => before ++ d.text) ++ c.rest

/-- The directives. -/
def directives (c : Cut) : List Directive :=
  c.parts.map Prod.snd

/-- What stands between the directives, in front of them and behind them. -/
def kept (c : Cut) : List (List Char) :=
  c.parts.map Prod.fst ++ [c.rest]

end Cut

namespace Directive

/-- The text cut at its directives, from left to right. -/
def cut (text : List Char) : Cut :=
  match found : splitFirst [] text with
  | (_, none) => ⟨[], text⟩
  | (before, some (d, after)) =>
    have : after.length < text.length := by
      have heq := splitFirst_eq [] text
      rw [found] at heq
      have hlength := congrArg List.length heq.1
      have hpos := List.length_pos_iff.mpr heq.2
      simp only [List.length_append, List.reverse_nil, List.nil_append] at hlength
      omega
    let c := cut after
    ⟨(before, d) :: c.parts, c.rest⟩
  termination_by text.length

theorem Written.ne_nil {d : Directive} (hd : Written d) : d.text ≠ [] := by
  obtain ⟨blanks, delimited, -, hdelimited, htext⟩ := hd
  obtain ⟨opening, closing, -, -, rfl⟩ := delimited_iff.mp hdelimited
  simp [htext]

/-- In front of the first directive stands none. -/
theorem First.free {text before after : List Char} {d : Directive}
    (h : First text before d after) : Free before := by
  rintro front d' rest hd' rfl
  -- a directive in front of the first one would start further to the left
  have hsplit : text = front ++ d'.text ++ (rest ++ d.text ++ after) := by simp [h.split]
  have hleft := h.leftmost hd' hsplit
  have hpos := List.length_pos_iff.mpr hd'.ne_nil
  simp only [List.length_append] at hleft
  omega

/-- A text without directives is not cut. -/
theorem cut_of_free {text : List Char} (h : Free text) : cut text = ⟨[], text⟩ := by
  rw [cut]
  split
  · rfl
  · next hfound => exact absurd h (first_of_splitFirst hfound).not_free

/-- A text with a directive is cut at the first one. -/
theorem cut_of_first {text before after : List Char} {d : Directive}
    (h : First text before d after) :
    cut text = ⟨(before, d) :: (cut after).parts, (cut after).rest⟩ := by
  rw [cut]
  split
  · next hfound => exact absurd (free_of_splitFirst hfound) h.not_free
  · next hfound =>
    obtain ⟨rfl, rfl, rfl⟩ := (first_of_splitFirst hfound).unique h
    rfl

theorem directives_cut_of_first {text before after : List Char} {d : Directive}
    (h : First text before d after) :
    (cut text).directives = d :: (cut after).directives := by
  rw [cut_of_first h]
  rfl

theorem kept_cut_of_first {text before after : List Char} {d : Directive}
    (h : First text before d after) : (cut text).kept = before :: (cut after).kept := by
  rw [cut_of_first h]
  rfl

/-- A text has no directive, or a first one behind which it goes on. -/
theorem free_or_first (text : List Char) :
    Free text ∨ ∃ before d after, First text before d after := by
  cases hfound : splitFirst [] text with
  | mk before found =>
    cases found with
    | none => exact .inl (free_of_splitFirst hfound)
    | some found => exact .inr ⟨before, found.1, found.2, first_of_splitFirst hfound⟩

/-- What holds of texts without directives, and of a text if it holds of what follows its first
directive, holds of all texts. -/
theorem cut_induction {motive : List Char → Prop} (free : ∀ text, Free text → motive text)
    (first : ∀ text before d after, First text before d after → motive after → motive text)
    (text : List Char) : motive text := by
  induction hlength : text.length using Nat.strong_induction_on generalizing text with
  | _ n ih =>
    rcases free_or_first text with hfree | ⟨before, d, after, hfirst⟩
    · exact free text hfree
    · -- what follows the directive is shorter, because the directive is not empty
      have hpos := List.length_pos_iff.mpr hfirst.written.ne_nil
      have hsplit := congrArg List.length hfirst.split
      simp only [List.length_append] at hsplit
      exact first text before d after hfirst (ih after.length (by omega) after rfl)

/-- The cut loses nothing. -/
theorem text_cut (text : List Char) : (cut text).text = text := by
  induction text using cut_induction with
  | free text hfree =>
    rw [cut_of_free hfree]
    rfl
  | first text before d after hfirst ih =>
    rw [cut_of_first hfirst, hfirst.split]
    simpa [Cut.text] using ih

/-- A text without directives is the one that is not cut. -/
theorem directives_cut_eq_nil_iff {text : List Char} : (cut text).directives = [] ↔ Free text := by
  constructor
  · intro h
    rcases free_or_first text with hfree | ⟨before, d, after, hfirst⟩
    · exact hfree
    · rw [directives_cut_of_first hfirst] at h
      simp at h
  · intro h
    rw [cut_of_free h]
    rfl

theorem written_of_mem_directives {text : List Char} {d : Directive}
    (h : d ∈ (cut text).directives) : Written d := by
  induction text using cut_induction with
  | free text hfree =>
    rw [directives_cut_eq_nil_iff.mpr hfree] at h
    simp at h
  | first text before d' after hfirst ih =>
    rw [directives_cut_of_first hfirst] at h
    rcases List.mem_cons.mp h with rfl | hlater
    · exact hfirst.written
    · exact ih hlater

/-- No directive stands in a piece that is kept. -/
theorem free_of_mem_kept {text piece : List Char} (h : piece ∈ (cut text).kept) : Free piece := by
  induction text using cut_induction with
  | free text hfree =>
    rw [cut_of_free hfree] at h
    obtain rfl : piece = text := by simpa [Cut.kept] using h
    exact hfree
  | first text before d after hfirst ih =>
    rw [kept_cut_of_first hfirst] at h
    rcases List.mem_cons.mp h with rfl | hlater
    · exact hfirst.free
    · exact ih hlater

/-! ## Sizes -/

end Directive

namespace Text

/-- The size of a text by the sizes of its characters: the number of characters if each counts as
one, and the number of bytes if each counts as its encoding is long. -/
def weight (size : Char → Nat) (text : List Char) : Nat :=
  (text.map size).sum

variable (size : Char → Nat)

theorem weight_one (text : List Char) : weight (fun _ => 1) text = text.length := by
  rw [weight, List.map_const', List.sum_replicate_nat, Nat.mul_one]

theorem weight_append (a b : List Char) : weight size (a ++ b) = weight size a + weight size b := by
  rw [weight, List.map_append, List.sum_append, weight, weight]

theorem weight_flatten (pieces : List (List Char)) :
    weight size pieces.flatten = (pieces.map (weight size)).sum := by
  induction pieces with
  | nil => rfl
  | cons piece pieces ih => rw [List.flatten_cons, weight_append, ih, List.map_cons, List.sum_cons]

end Text

namespace Directive

/-- What is kept and the directives together have the size of the text. -/
theorem weight_cut (size : Char → Nat) (text : List Char) :
    ((cut text).kept.map (Text.weight size)).sum +
        ((cut text).directives.map fun d => Text.weight size d.text).sum =
      Text.weight size text := by
  induction text using cut_induction with
  | free text hfree =>
    rw [cut_of_free hfree]
    simp [Cut.kept, Cut.directives]
  | first text before d after hfirst ih =>
    rw [kept_cut_of_first hfirst, directives_cut_of_first hfirst, hfirst.split, Text.weight_append,
      Text.weight_append, List.map_cons, List.map_cons, List.sum_cons, List.sum_cons, ← ih]
    omega

/-! ## Joined pieces -/

/-- Among the pieces the directive behind `before` starts at the end of one and goes on behind
it. -/
def Straddles (pieces : List (List Char)) (before : List Char) (d : Directive) : Prop :=
  ∃ front start begun others, pieces = front ++ (start ++ begun) :: others ∧
    before = front.flatten ++ start ∧ begun ≠ [] ∧ begun <+: d.text ∧ begun ≠ d.text

/-- Joined pieces without directives hold no directive but those that go on behind a piece. -/
theorem straddles_of_flatten_eq {pieces : List (List Char)} (hfree : ∀ piece ∈ pieces, Free piece)
    {before after : List Char} {d : Directive} (hd : Written d)
    (h : pieces.flatten = before ++ d.text ++ after) : Straddles pieces before d := by
  induction pieces generalizing before with
  | nil => simp [hd.ne_nil] at h
  | cons piece pieces ih =>
    obtain ⟨hpiece, hrest⟩ := List.forall_mem_cons.mp hfree
    rw [List.flatten_cons, List.append_assoc] at h
    have hbefore : before <+: piece ++ pieces.flatten := ⟨d.text ++ after, h.symm⟩
    have hpieces : piece <+: piece ++ pieces.flatten := List.prefix_append _ _
    by_cases hlength : piece.length ≤ before.length
    · -- the directive starts behind the piece
      obtain ⟨before', rfl⟩ := List.prefix_of_prefix_length_le hpieces hbefore hlength
      have hlater : pieces.flatten = before' ++ d.text ++ after := by simpa using h
      obtain ⟨front, start, begun, others, rfl, rfl, hbegun⟩ := ih hrest hlater
      exact ⟨piece :: front, start, begun, others, rfl, by simp, hbegun⟩
    · -- it starts in the piece, which does not hold all of it
      obtain ⟨begun, rfl⟩ :=
        List.prefix_of_prefix_length_le hbefore hpieces (Nat.le_of_not_le hlength)
      have hne : begun ≠ [] := by
        rintro rfl
        simp at hlength
      have hgoes : begun ++ pieces.flatten = d.text ++ after := by simpa using h
      refine ⟨[], before, begun, pieces, rfl, rfl, hne, ?_, ?_⟩
      · rcases List.append_eq_append_iff.mp hgoes with ⟨more, htext, -⟩ | ⟨more, rfl, -⟩
        · exact ⟨more, htext.symm⟩
        · exact absurd (List.append_assoc _ _ _).symm (hpiece before d more hd)
      · rintro rfl
        exact hpiece before d [] hd (List.append_nil _).symm

end Directive

end DemoBuild
