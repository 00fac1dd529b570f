import DemoBuild.Header.Template
import DemoBuild.Proofs.Dictionary
import DemoBuild.Proofs.Session
import DemoBuild.Proofs.Text.Lines
import Mathlib.Data.List.Basic

/-!
# Hooks and their placeholders

The code of a hook is put where a placeholder with its name is found. Placeholders are found from
left to right, and what belongs to one of them belongs to no other. A warning is given for a hook
whose placeholder stands nowhere in the template, found or not. So there is no warning for a hook
without effect whose name is none that a placeholder can have, nor for one whose only placeholders
share their first slash with other placeholders.

## Main definitions

* `Placeholder.IsName`: a name that a placeholder can have;
* `Placeholder.Found`: a placeholder that is found;
* `Placeholder.Shares`: the slash at a place belongs to a placeholder that is found;
* `MainProgram.Injects`: the code of a hook has a place in the template.

## Main results

* `Placeholder.mem_names_split_iff`: the placeholders that are replaced are those that are found;
* `Placeholder.found_iff`: which placeholders are found;
* `MainProgram.injects_iff`: which hooks have an effect;
* `MainProgram.render_warns_iff`: for which hooks there is a warning.
-/

namespace DemoBuild

namespace Placeholder

variable {text before name after rest : List Char}

/-! ## Placeholders -/

/-- A name that a placeholder can have: it is not empty and consists of word characters. -/
def IsName (name : List Char) : Prop :=
  name ≠ [] ∧ ∀ c ∈ name, Text.isWord c = true

instance (name : List Char) : Decidable (IsName name) :=
  decidable_of_iff ((!name.isEmpty && name.all Text.isWord) = true) (by simp [IsName])

/-- What stands between the two slashes of a placeholder. -/
def inner (name : List Char) : List Char :=
  ['*', 'h', 'o', 'o', 'k', ':'] ++ name ++ ['*']

theorem closing_eq : closing = ['*', '/'] := by
  decide +kernel

theorem written_eq (name : List Char) : written name = '/' :: (inner name ++ ['/']) := by
  have hopening : opening = ['/', '*', 'h', 'o', 'o', 'k', ':'] := by decide +kernel
  rw [written, hopening, closing_eq]
  simp [inner]

theorem one_lt_length_written (name : List Char) : 1 < (written name).length := by
  simp only [written_eq, inner, List.length_cons, List.length_append]
  omega

/-- There is no slash between those of a placeholder. -/
theorem IsName.slash_not_mem (h : IsName name) : '/' ∉ inner name := by
  have hslash : Text.isWord '/' = false := by decide
  have hname : '/' ∉ name := fun hmem => by simp [h.2 _ hmem] at hslash
  simp [inner, hname]

/-- The placeholder that a text starts with. -/
theorem atStart?_eq_some_iff :
    atStart? text = some (name, after) ↔ IsName name ∧ text = written name ++ after := by
  constructor
  · intro h
    -- what is read is the opening mark, the longest word behind it, and the closing mark
    unfold atStart? at h
    split at h
    · next hopening =>
      obtain ⟨inner, rfl⟩ := List.isPrefixOf_iff_prefix.mp hopening
      obtain ⟨word, rest, rfl, htake, hword, -⟩ := Text.exists_takeWhile_append Text.isWord inner
      simp only [List.drop_left, htake] at h
      split at h
      · next hname =>
        simp only [Bool.and_eq_true, decide_eq_true_eq] at hname
        obtain ⟨hne, hclosing⟩ := hname
        obtain ⟨after', rfl⟩ := List.isPrefixOf_iff_prefix.mp hclosing
        simp only [List.drop_left, Option.some.injEq, Prod.mk.injEq] at h
        obtain ⟨rfl, rfl⟩ := h
        exact ⟨⟨hne, hword⟩, by simp [written]⟩
      · cases h
    · cases h
  · rintro ⟨⟨hne, hword⟩, rfl⟩
    -- the name ends at the star of the closing mark
    have htake : (name ++ (closing ++ after)).takeWhile Text.isWord = name :=
      Text.takeWhile_append hword (by simp [closing_eq])
    have hsplit : written name ++ after = opening ++ (name ++ (closing ++ after)) := by
      simp [written]
    rw [hsplit, atStart?, if_pos (by simp)]
    simp only [List.drop_left, htake]
    rw [if_pos (by simp [hne])]

/-- A text starts with at most one placeholder. -/
theorem IsName.append_inj {name' after' : List Char} (h : IsName name) (h' : IsName name')
    (heq : written name ++ after = written name' ++ after') : name = name' ∧ after = after' := by
  have hstart : atStart? (written name ++ after) = some (name, after) :=
    atStart?_eq_some_iff.mpr ⟨h, rfl⟩
  rw [heq, atStart?_eq_some_iff.mpr ⟨h', rfl⟩] at hstart
  simpa [eq_comm] using hstart

/-! ## Placeholders that are found -/

/-- No placeholder stands at the start of the text. -/
def NotAtStart (text : List Char) : Prop :=
  ∀ name after, IsName name → text ≠ written name ++ after

/-- A placeholder is found in a text, behind `before` and in front of `after`. The text is read from
left to right, and reading goes on behind a placeholder that has been found. -/
inductive Found : List Char → List Char → List Char → List Char → Prop
  | here {name : List Char} (after : List Char) : IsName name →
    Found (written name ++ after) [] name after
  | behind {first rest before name after : List Char} : IsName first →
    Found rest before name after →
    Found (written first ++ rest) (written first ++ before) name after
  | skip {c : Char} {rest before name after : List Char} : NotAtStart (c :: rest) →
    Found rest before name after → Found (c :: rest) (c :: before) name after

/-- The first slash of a placeholder that would stand behind `before` is the last one of a
placeholder that is found. -/
def Shares (text before : List Char) : Prop :=
  ∃ before' name after, Found text before' name after ∧ before' ++ written name = before ++ ['/']

/-- What is found is a placeholder in the text. -/
theorem Found.eq_append (h : Found text before name after) :
    IsName name ∧ text = before ++ written name ++ after := by
  induction h with
  | here after hname => exact ⟨hname, by simp⟩
  | behind hfirst _ ih => exact ⟨ih.1, by simp [ih.2]⟩
  | skip hskip _ ih => exact ⟨ih.1, by simp [ih.2]⟩

/-- Where a text starts with a placeholder, it is the one that is found first. -/
theorem found_written_iff {first : List Char} (hfirst : IsName first) :
    Found (written first ++ rest) before name after ↔
      before = [] ∧ name = first ∧ after = rest ∨
        ∃ behind, before = written first ++ behind ∧ Found rest behind name after := by
  constructor
  · intro h
    generalize htext : written first ++ rest = text at h
    cases h with
    | here after hname =>
      obtain ⟨rfl, rfl⟩ := hname.append_inj hfirst htext.symm
      exact .inl ⟨rfl, rfl, rfl⟩
    | behind hname hrest =>
      obtain ⟨rfl, rfl⟩ := hname.append_inj hfirst htext.symm
      exact .inr ⟨_, rfl, hrest⟩
    | skip hskip _ => exact absurd htext.symm (hskip _ _ hfirst)
  · rintro (⟨rfl, rfl, rfl⟩ | ⟨behind, rfl, hrest⟩)
    · exact .here _ hfirst
    · exact .behind hfirst hrest

/-- Where a text does not start with a placeholder, all of them are found behind its start. -/
theorem found_cons_iff {c : Char} (hskip : NotAtStart (c :: rest)) :
    Found (c :: rest) before name after ↔
      ∃ behind, before = c :: behind ∧ Found rest behind name after := by
  constructor
  · intro h
    generalize htext : c :: rest = text at h
    cases h with
    | here after hname => exact absurd htext (hskip _ _ hname)
    | behind hname _ => exact absurd htext (hskip _ _ hname)
    | skip _ hrest =>
      obtain ⟨rfl, rfl⟩ := List.cons_eq_cons.mp htext
      exact ⟨_, rfl, hrest⟩
  · rintro ⟨behind, rfl, hrest⟩
    exact .skip hskip hrest

theorem not_found_nil : ¬ Found [] before name after := by
  intro h
  -- a placeholder would be a part of the text, and no placeholder is empty
  have hlength := congrArg List.length h.eq_append.2
  have hwritten := one_lt_length_written name
  simp only [List.length_nil, List.length_append] at hlength
  omega

/-- A text that is not read as a placeholder does not start with one. -/
theorem notAtStart_of_atStart? (h : atStart? text = none) : NotAtStart text := by
  rintro name after hname rfl
  rw [atStart?_eq_some_iff.mpr ⟨hname, rfl⟩] at h
  cases h

theorem split_of_some {c : Char} (h : atStart? (c :: text) = some (name, after))
    (passed : List Char) : split passed (c :: text) =
      (passed.reverse, (name, (split [] after).1) :: (split [] after).2) := by
  rw [split]
  split
  · next h' =>
    rw [h] at h'
    cases h'
    rfl
  · next h' =>
    rw [h] at h'
    cases h'

theorem split_of_none {c : Char} (h : atStart? (c :: text) = none) (passed : List Char) :
    split passed (c :: text) = split (c :: passed) text := by
  rw [split]
  split
  · next h' =>
    rw [h] at h'
    cases h'
  · rfl

/-- The names at which a text is cut are those of the placeholders that are found in it. -/
theorem mem_names_split_iff (passed : List Char) :
    name ∈ (split passed text).2.map Prod.fst ↔ ∃ before after, Found text before name after := by
  -- `split` goes on behind a placeholder, so the induction is on the length of what is left
  induction hlength : text.length using Nat.strong_induction_on generalizing text passed with
  | _ n ih =>
    subst hlength
    cases text with
    | nil => simp [split, not_found_nil]
    | cons c text =>
      cases hstart : atStart? (c :: text) with
      | some found =>
        -- the placeholder at the start is found, and so are those behind it
        obtain ⟨first, behind⟩ := found
        have hlt := length_lt_of_atStart? hstart
        obtain ⟨hfirst, heq⟩ := atStart?_eq_some_iff.mp hstart
        rw [split_of_some hstart, List.map_cons, List.mem_cons, ih _ hlt [] rfl, heq]
        simp only [found_written_iff hfirst]
        constructor
        · rintro (rfl | ⟨before, after, hfound⟩)
          · exact ⟨[], behind, .inl ⟨rfl, rfl, rfl⟩⟩
          · exact ⟨_, after, .inr ⟨before, rfl, hfound⟩⟩
        · rintro ⟨_, after, ⟨-, rfl, -⟩ | ⟨before, -, hfound⟩⟩
          · exact .inl rfl
          · exact .inr ⟨before, after, hfound⟩
      | none =>
        rw [split_of_none hstart, ih text.length (by simp) (c :: passed) rfl]
        simp only [found_cons_iff (notAtStart_of_atStart? hstart)]
        constructor
        · rintro ⟨before, after, hfound⟩
          exact ⟨_, after, before, rfl, hfound⟩
        · rintro ⟨_, after, before, -, hfound⟩
          exact ⟨before, after, hfound⟩

/-! ## Placeholders that share a slash -/

/-- Where a text starts with a placeholder, another one starts at the last slash of that one or
behind it. -/
theorem IsName.append_eq_append {first : List Char} (h : IsName first) (hne : before ≠ [])
    (heq : written first ++ rest = before ++ written name ++ after) :
    before ++ ['/'] = written first ∨
      ∃ behind, before = written first ++ behind ∧ rest = behind ++ written name ++ after := by
  obtain ⟨c, tail, rfl⟩ := List.exists_cons_of_ne_nil hne
  simp only [written_eq, List.cons_append, List.cons.injEq, List.append_assoc,
    List.nil_append] at heq
  obtain ⟨rfl, heq⟩ := heq
  -- the first slash of the second placeholder lies behind the inner part of the first one, or in it
  rcases List.append_eq_append_iff.mp heq with ⟨between, rfl, hrest⟩ | ⟨between, hinner, hrest⟩
  · cases between with
    | nil => exact .inl (by simp [written_eq])
    | cons d between =>
      obtain ⟨rfl, rfl⟩ := List.cons_eq_cons.mp hrest
      exact .inr ⟨between, by simp [written_eq], by simp [written_eq]⟩
  · cases between with
    | nil => exact .inl (by simp [written_eq, hinner])
    | cons d between =>
      obtain ⟨rfl, -⟩ := List.cons_eq_cons.mp hrest
      exact absurd (by simp [hinner]) h.slash_not_mem

theorem Shares.behind {first : List Char} (hfirst : IsName first) (h : Shares rest before) :
    Shares (written first ++ rest) (written first ++ before) := by
  obtain ⟨before', name, after, hfound, heq⟩ := h
  exact ⟨_, name, after, .behind hfirst hfound, by rw [List.append_assoc, heq, List.append_assoc]⟩

theorem Shares.skip {c : Char} (hskip : NotAtStart (c :: rest)) (h : Shares rest before) :
    Shares (c :: rest) (c :: before) := by
  obtain ⟨before', name, after, hfound, heq⟩ := h
  exact ⟨_, name, after, .skip hskip hfound, by rw [List.cons_append, heq, List.cons_append]⟩

/-- A placeholder in a text is found, or shares its first slash with one that is found. -/
theorem found_or_shares (hname : IsName name) (h : text = before ++ written name ++ after) :
    Found text before name after ∨ Shares text before := by
  -- reading goes on behind a placeholder or a character, where less text is left
  induction hlength : text.length using Nat.strong_induction_on generalizing text before with
  | _ n ih =>
    subst hlength
    by_cases hbefore : before = []
    · subst hbefore
      left
      rw [h]
      exact .here after hname
    by_cases hstart : ∃ first rest, IsName first ∧ text = written first ++ rest
    · obtain ⟨first, rest, hfirst, rfl⟩ := hstart
      rcases hfirst.append_eq_append hbefore h with hshares | ⟨behind, rfl, hrest⟩
      · exact .inr ⟨[], first, rest, .here rest hfirst, hshares.symm⟩
      · have hlt : rest.length < (written first ++ rest).length := by
          have hwritten := one_lt_length_written first
          rw [List.length_append]
          omega
        rcases ih _ hlt hrest rfl with hfound | hshares
        · exact .inl (.behind hfirst hfound)
        · exact .inr (hshares.behind hfirst)
    · have hskip : NotAtStart text := fun first rest hfirst heq =>
        hstart ⟨first, rest, hfirst, heq⟩
      obtain ⟨c, tail, rfl⟩ := List.exists_cons_of_ne_nil hbefore
      rw [List.cons_append, List.cons_append] at h
      subst h
      rcases ih _ (Nat.lt_succ_self _) rfl rfl with hfound | hshares
      · exact .inl (.skip hskip hfound)
      · exact .inr (hshares.skip hskip)

/-- Placeholders that are found do not overlap. -/
theorem Found.disjoint (h : Found text before name after) {before' name' after' : List Char}
    (h' : Found text before' name' after') :
    before = before' ∨ before.length + (written name).length ≤ before'.length ∨
      before'.length + (written name').length ≤ before.length := by
  induction h generalizing before' with
  | here after hname =>
    -- the first one stands at the start, and the second one there or behind it
    rcases (found_written_iff hname).mp h' with ⟨rfl, -, -⟩ | ⟨behind, rfl, -⟩
    · exact .inl rfl
    · refine .inr (.inl ?_)
      simp
  | behind hfirst _ ih =>
    rcases (found_written_iff hfirst).mp h' with ⟨rfl, rfl, -⟩ | ⟨behind, rfl, hrest⟩
    · refine .inr (.inr ?_)
      simp
    · rcases ih hrest with rfl | hlt | hlt
      · exact .inl rfl
      · refine .inr (.inl ?_)
        simp only [List.length_append]
        omega
      · refine .inr (.inr ?_)
        simp only [List.length_append]
        omega
  | skip hskip _ ih =>
    obtain ⟨behind, rfl, hrest⟩ := (found_cons_iff hskip).mp h'
    rcases ih hrest with rfl | hlt | hlt
    · exact .inl rfl
    · refine .inr (.inl ?_)
      simp only [List.length_cons]
      omega
    · refine .inr (.inr ?_)
      simp only [List.length_cons]
      omega

/-- A placeholder that is found shares its first slash with no other one. -/
theorem Found.not_shares (h : Found text before name after) : ¬ Shares text before := by
  rintro ⟨before', name', after', hfound, heq⟩
  -- the two placeholders would overlap in one character, the slash
  have hlength := congrArg List.length heq
  have hwritten := one_lt_length_written name
  have hwritten' := one_lt_length_written name'
  simp only [List.length_append, List.length_singleton] at hlength
  rcases h.disjoint hfound with rfl | hlt | hlt <;> omega

/-- The placeholders that are found are those with a proper name that do not share their first
slash. -/
theorem found_iff :
    Found text before name after ↔
      IsName name ∧ text = before ++ written name ++ after ∧ ¬ Shares text before := by
  constructor
  · intro h
    exact ⟨h.eq_append.1, h.eq_append.2, h.not_shares⟩
  · rintro ⟨hname, htext, hshares⟩
    exact (found_or_shares hname htext).resolve_right hshares

/-- A part of a text stands somewhere in it. -/
theorem occurs_eq_true_iff {part : List Char} :
    occurs part text = true ↔ ∃ before after, text = before ++ part ++ after := by
  induction text with
  | nil =>
    cases part <;> simp [occurs]
  | cons c text ih =>
    rw [occurs, Bool.or_eq_true, List.isPrefixOf_iff_prefix, ih]
    constructor
    · rintro (⟨after, hafter⟩ | ⟨before, after, rfl⟩)
      · exact ⟨[], after, hafter.symm⟩
      · exact ⟨c :: before, after, rfl⟩
    · rintro ⟨_ | ⟨d, before⟩, after, htext⟩
      · exact .inl ⟨after, htext.symm⟩
      · obtain ⟨rfl, rfl⟩ := List.cons_eq_cons.mp htext
        exact .inr ⟨before, after, rfl⟩

end Placeholder

/-! ## Hooks -/

namespace MainProgram

open Placeholder (IsName Found Shares written)

/-- The placeholder of a name stands somewhere in a template. -/
def Holds (template name : String) : Prop :=
  ∃ before after, template.toList = before ++ written name.toList ++ after

/-- The code of a hook is put somewhere into a template: the result depends on the code. -/
def Injects (template : String) (hooks : Hooks) (name : String) : Prop :=
  ∃ code, (injectHooks template (hooks.insert name code)).1 ≠ (injectHooks template hooks).1

/-- What takes the place of a placeholder: the code of its hook, or nothing. -/
def codeFor (hooks : Hooks) (name : List Char) : List Char :=
  ((hooks.get? (String.ofList name)).getD "").toList

/-- The template with the placeholders replaced. -/
theorem toList_injectHooks (template : String) (hooks : Hooks) :
    (injectHooks template hooks).1.toList = (Placeholder.split [] template.toList).1 ++
      (Placeholder.split [] template.toList).2.flatMap fun part =>
        codeFor hooks part.1 ++ part.2 := by
  simp [injectHooks, codeFor]

/-- Another code for a hook takes its places only. -/
theorem codeFor_insert (hooks : Hooks) (name code : String) (name' : List Char) :
    codeFor (hooks.insert name code) name' =
      if String.ofList name' = name then code.toList else codeFor hooks name' := by
  rw [codeFor, Dictionary.get?_insert]
  split <;> rfl

/-- The code of a hook is put into a template exactly if a placeholder of its name is found. -/
theorem injects_iff_found {template : String} {hooks : Hooks} {name : String} :
    Injects template hooks name ↔
      ∃ before after, Found template.toList before name.toList after := by
  rw [← Placeholder.mem_names_split_iff [], Injects]
  simp only [ne_eq, ← String.toList_inj, toList_injectHooks, List.append_cancel_left_eq]
  generalize (Placeholder.split [] template.toList).2 = parts
  constructor
  · rintro ⟨code, hne⟩
    -- a code that no placeholder asks for changes nothing
    by_contra hname
    refine hne (List.flatMap_congr fun part hpart => ?_)
    have hpartName : String.ofList part.1 ≠ name := by
      rintro rfl
      exact hname (List.mem_map.mpr ⟨part, hpart, by simp⟩)
    rw [codeFor_insert, if_neg hpartName]
  · intro hname
    obtain ⟨⟨_, between⟩, hpart, rfl⟩ := List.mem_map.mp hname
    obtain ⟨front, back, rfl⟩ := List.append_of_mem hpart
    -- a code that is longer than all of the old text makes the text longer
    refine ⟨String.ofList (' ' :: (front ++ (name.toList, between) :: back).flatMap
      fun part => codeFor hooks part.1 ++ part.2), fun heq => ?_⟩
    have hlength := congrArg List.length heq
    simp only [List.flatMap_append, List.flatMap_cons, List.length_append, codeFor_insert,
      String.ofList_toList, if_true, String.toList_ofList, List.length_cons] at hlength
    omega

/-- A placeholder of a name stands in a template, the name is one that placeholders can have, and
the first slash of the placeholder is its own. -/
def HoldsOwn (template name : String) : Prop :=
  IsName name.toList ∧ ∃ before after,
    template.toList = before ++ written name.toList ++ after ∧ ¬ Shares template.toList before

/-- The hooks with an effect are those that have a placeholder of their own. -/
theorem injects_iff {template : String} {hooks : Hooks} {name : String} :
    Injects template hooks name ↔ HoldsOwn template name := by
  simp only [injects_iff_found, Placeholder.found_iff, HoldsOwn, exists_and_left]

/-! ## Warnings -/

/-- The warning about a hook without a placeholder. -/
def noPlaceholder (path : Path) (name : String) : LogEntry :=
  ⟨.warning, "hook '" ++ name ++ "' has no placeholder in " ++ path.text⟩

/-- The warning tells which hook it is about. -/
theorem noPlaceholder_injective (path : Path) : Function.Injective (noPlaceholder path) := by
  intro name name' h
  have htext := congrArg (fun entry => entry.text.toList) h
  simp only [noPlaceholder, String.toList_append, List.append_cancel_left_eq,
    List.append_cancel_right_eq, List.append_assoc] at htext
  exact String.toList_inj.mp htext

/-- The check of a template looks for the placeholder anywhere. -/
theorem hasPlaceholder_eq_true_iff {template name : String} :
    hasPlaceholder template name = true ↔ Holds template name :=
  Placeholder.occurs_eq_true_iff

section

variable {m : MainProgram} {context : Context} {s : Session} {path : Path} {template : String}

/-- Rendering logs a warning for each hook whose placeholder stands nowhere, and no other one. -/
theorem exists_start_render (hpath : templatePath context = .ok path)
    (hread : s.files.read path = .ok template) :
    ∃ entries, (m.render context).start s =
        (.ok (injectHooks template m.hooks).1, s.logged entries) ∧
      ∀ name ∈ m.hooks.keys, noPlaceholder path name ∈ entries ↔ ¬ Holds template name := by
  have hstart : (Action.read path).start s = (.ok template, s) := by
    rw [Action.start_read, hread]
    rfl
  -- first the warnings are logged, then what is removed while the hooks are injected
  have hrender : (m.render context).start s = (.ok (injectHooks template m.hooks).1, s.logged
      ((m.hooks.keys.filter fun name => !hasPlaceholder template name).map (noPlaceholder path) ++
        (injectHooks template m.hooks).2.map fun name =>
          ⟨.debug, "no hook '" ++ name ++ "', placeholder removed"⟩)) := by
    unfold render
    rw [Action.start_bind_liftM_of_eq_ok hpath, Action.start_bind_of_ok hstart,
      Action.start_bind_of_ok (Action.start_logAll _ s)]
    unfold inject
    rw [Action.start_bind_of_ok (Action.start_logAll _ _), Action.start_pure,
      Session.logged_logged]
    rfl
  refine ⟨_, hrender, fun name hname => ?_⟩
  rw [← hasPlaceholder_eq_true_iff, List.mem_append, List.mem_map, List.mem_map]
  constructor
  · rintro (⟨name', hname', heq⟩ | ⟨name', -, heq⟩)
    · obtain rfl := noPlaceholder_injective path heq
      simpa using (List.mem_filter.mp hname').2
    · -- placeholders without a hook are noted with less importance
      cases congrArg LogEntry.level heq
  · intro hnone
    exact .inl ⟨name, List.mem_filter.mpr ⟨hname, by simpa using hnone⟩, rfl⟩

/-- A hook without effect gets a warning, unless its placeholder stands in the template although
none of its own does: then it is passed over in silence. -/
theorem render_warns_iff (hpath : templatePath context = .ok path)
    (hread : s.files.read path = .ok template) :
    ∃ entries, (m.render context).start s =
        (.ok (injectHooks template m.hooks).1, s.logged entries) ∧
      ∀ name ∈ m.hooks.keys,
        (noPlaceholder path name ∈ entries ↔ ¬ Holds template name) ∧
        (Injects template m.hooks name ↔ HoldsOwn template name) ∧
        ((noPlaceholder path name ∈ entries ↔ ¬ Injects template m.hooks name) ↔
          (Holds template name → HoldsOwn template name)) := by
  obtain ⟨entries, hrender, hwarnings⟩ := exists_start_render (m := m) hpath hread
  refine ⟨entries, hrender, fun name hname => ⟨hwarnings name hname, injects_iff, ?_⟩⟩
  have hholds : HoldsOwn template name → Holds template name := by
    rintro ⟨-, before, after, htext, -⟩
    exact ⟨before, after, htext⟩
  rw [hwarnings name hname, injects_iff, not_iff_not]
  exact ⟨fun h => h.mp, fun h => ⟨h, hholds⟩⟩

end

/-- A context with an engine. -/
def engineContext : Context :=
  ⟨Config.empty.set "paths:engine" (.text "engine"), .release⟩

/-- A session in which the engine has this template. -/
def withTemplate (template : String) : Session :=
  ⟨FileSystem.empty.place (⟨"engine/main-template.cpp"⟩ : Path).location (.file template.toUTF8),
    [], []⟩

/-- Of two hooks the one with a placeholder has an effect, and there is a warning for the other. -/
theorem render_warns_iff_loop :
    ∃ entries, ((⟨Dictionary.ofList [("loop", "draw();"), ("start", "")]⟩ : MainProgram).render
        engineContext).start (withTemplate "/*hook:loop*/") =
          (.ok (injectHooks "/*hook:loop*/" (.ofList [("loop", "draw();"), ("start", "")])).1,
            (withTemplate "/*hook:loop*/").logged entries) ∧
      (noPlaceholder ⟨"engine/main-template.cpp"⟩ "loop" ∉ entries ∧
        Injects "/*hook:loop*/" (.ofList [("loop", "draw();"), ("start", "")]) "loop") ∧
      noPlaceholder ⟨"engine/main-template.cpp"⟩ "start" ∈ entries ∧
        ¬ Injects "/*hook:loop*/" (.ofList [("loop", "draw();"), ("start", "")]) "start" := by
  have hpath : templatePath engineContext = .ok ⟨"engine/main-template.cpp"⟩ := rfl
  have hread : (withTemplate "/*hook:loop*/").files.read ⟨"engine/main-template.cpp"⟩ =
      .ok "/*hook:loop*/" := rfl
  obtain ⟨entries, hrender, hhooks⟩ := render_warns_iff
    (m := ⟨Dictionary.ofList [("loop", "draw();"), ("start", "")]⟩) hpath hread
  have hname : IsName "loop".toList := by decide
  have hloop : HoldsOwn "/*hook:loop*/" "loop" :=
    ⟨hname, [], [], by decide, (Placeholder.Found.here [] hname).not_shares⟩
  have hstart : ¬ Holds "/*hook:loop*/" "start" := by
    rw [← hasPlaceholder_eq_true_iff]
    decide
  obtain ⟨-, hinjects, hwarning⟩ := hhooks "loop" (by decide)
  obtain ⟨hwarned, -, hwarning'⟩ := hhooks "start" (by decide)
  refine ⟨entries, hrender, ⟨?_, hinjects.mpr hloop⟩, hwarned.mpr hstart, ?_⟩
  · rw [hwarning.mpr fun _ => hloop, not_not]
    exact hinjects.mpr hloop
  · rw [← hwarning'.mpr fun h => absurd h hstart]
    exact hwarned.mpr hstart

/-- A name with a hyphen is none that placeholders can have. So the hook `post-process` has no
effect on a template with the text `/*hook:post-process*/`, and yet there is no warning. -/
theorem post_process_not_reported :
    templatePath engineContext = .ok ⟨"engine/main-template.cpp"⟩ ∧
    (withTemplate "/*hook:post-process*/").files.read ⟨"engine/main-template.cpp"⟩ =
      .ok "/*hook:post-process*/" ∧
    ¬ (noPlaceholder ⟨"engine/main-template.cpp"⟩ "post-process" ∈
        (((⟨Dictionary.ofList [("post-process", "blur();")]⟩ : MainProgram).render
          engineContext).start (withTemplate "/*hook:post-process*/")).2.log ↔
      ¬ Injects "/*hook:post-process*/" (.ofList [("post-process", "blur();")])
        "post-process") := by
  have hpath : templatePath engineContext = .ok ⟨"engine/main-template.cpp"⟩ := rfl
  have hread : (withTemplate "/*hook:post-process*/").files.read ⟨"engine/main-template.cpp"⟩ =
      .ok "/*hook:post-process*/" := rfl
  refine ⟨hpath, hread, fun hreported => ?_⟩
  obtain ⟨entries, hrender, hwarnings⟩ := exists_start_render
    (m := ⟨Dictionary.ofList [("post-process", "blur();")]⟩) hpath hread
  have hholds : Holds "/*hook:post-process*/" "post-process" := ⟨[], [], by decide⟩
  have hinjects : ¬ Injects "/*hook:post-process*/" (.ofList [("post-process", "blur();")])
      "post-process" := by
    rw [injects_iff]
    rintro ⟨hname, -⟩
    exact absurd hname (by decide)
  have hlogged := hreported.mpr hinjects
  rw [hrender, Session.log_logged] at hlogged
  exact (hwarnings "post-process" (by decide)).mp hlogged hholds

end MainProgram

end DemoBuild
