import DemoBuild.Proofs.Header.Template

/-!
# Injection by parts

A template can be cut at any of its placeholders whose first slash is not the last one of another:
the hooks are injected in front of it and behind it as if the other part were not there, and the
code of the hook stands between the two results as it is. So nothing is replaced that was inserted,
and nothing that a part of the template forms with what was inserted. Together with what happens to
a template without placeholders, this leaves no choice for the result.

## Main definitions

* `Placeholder.Free`: no placeholder stands in a text;
* `Placeholder.EndsOpen`: a text ends with a placeholder that lacks its last slash;
* `Hooks.ReplacesBy`: a function replaces placeholders by the two rules.

## Main results

* `Placeholder.split_append_written`: how a text is cut in front of a placeholder and behind it;
* `injectHooks_append`: injection at a placeholder, with the names that are noted;
* `Hooks.ReplacesBy.unique`: the two rules leave one result;
* `injectHooks_replacesBy`: injection follows the two rules, and is the only function that does.
-/

namespace DemoBuild

namespace Placeholder

variable {text before name after rest : List Char}

/-- No placeholder stands in a text. -/
def Free (text : List Char) : Prop :=
  ∀ name, IsName name → ¬ written name <:+: text

/-- A text ends with a placeholder that lacks its last slash. -/
def EndsOpen (text : List Char) : Prop :=
  ∃ name, IsName name ∧ opening ++ name ++ ['*'] <:+ text

theorem written_eq_append (name : List Char) :
    written name = opening ++ name ++ ['*'] ++ ['/'] := by
  simp [written, closing_eq]

/-- A slash completes the placeholder at the end of a text. -/
theorem EndsOpen.not_free (h : EndsOpen before) : ¬ Free (before ++ ['/']) := by
  obtain ⟨name, hname, front, rfl⟩ := h
  refine fun hfree => hfree name hname ⟨front, [], ?_⟩
  simp [written_eq_append]

theorem EndsOpen.of_suffix {last : List Char} (h : EndsOpen last) (hlast : last <:+ text) :
    EndsOpen text := by
  obtain ⟨name, hname, hopen⟩ := h
  exact ⟨name, hname, hopen.trans hlast⟩

theorem Free.of_infix {part : List Char} (h : Free text) (hpart : part <:+: text) : Free part :=
  fun name hname hwritten => h name hname (hwritten.trans hpart)

/-- Nothing is read where no placeholder stands. -/
theorem Free.atStart?_eq_none (h : Free text) : atStart? text = none := by
  rw [Option.eq_none_iff_forall_ne_some]
  rintro ⟨name, after⟩ hstart
  obtain ⟨hname, rfl⟩ := atStart?_eq_some_iff.mp hstart
  exact h name hname (List.prefix_append _ _).isInfix

/-! ## Cutting a text at a placeholder -/

/-- A text without placeholders is not cut. -/
theorem split_of_free (h : Free text) (passed : List Char) :
    split passed text = (passed.reverse ++ text, []) := by
  induction text generalizing passed with
  | nil => simp [split]
  | cons c text ih =>
    rw [split_of_none h.atStart?_eq_none, ih (h.of_infix (List.suffix_cons c text).isInfix)]
    simp

/-- A text is cut at the placeholder it starts with. -/
theorem split_written (hname : IsName name) (rest passed : List Char) :
    split passed (written name ++ rest) =
      (passed.reverse, (name, (split [] rest).1) :: (split [] rest).2) := by
  have hstart : atStart? (written name ++ rest) = some (name, rest) :=
    atStart?_eq_some_iff.mpr ⟨hname, rfl⟩
  rw [written_eq, List.cons_append] at hstart ⊢
  exact split_of_some hstart passed

/-- In front of a placeholder a text starts with another one exactly if it does so without what
follows, unless the other one shares its slash. -/
theorem atStart?_append_written {c : Char} (h : ¬ EndsOpen (c :: before)) (name rest : List Char) :
    atStart? (c :: before ++ (written name ++ rest)) =
      (atStart? (c :: before)).map fun found => (found.1, found.2 ++ (written name ++ rest)) := by
  ext ⟨first, behind⟩
  rw [Option.map_eq_some_iff, atStart?_eq_some_iff]
  constructor
  · rintro ⟨hfirst, heq⟩
    rw [← List.append_assoc] at heq
    rcases hfirst.append_eq_append (List.cons_ne_nil c before) heq.symm with hopen | ⟨after, ha, hb⟩
    · -- the slash of the placeholder would be the one that `c :: before` lacks
      rw [written_eq_append, List.append_cancel_right_eq] at hopen
      exact absurd ⟨first, hfirst, hopen ▸ List.suffix_rfl⟩ h
    · exact ⟨(first, after), atStart?_eq_some_iff.mpr ⟨hfirst, ha⟩, by simp [hb]⟩
  · rintro ⟨⟨first', after⟩, hfound, heq⟩
    obtain ⟨rfl, rfl⟩ : first' = first ∧ after ++ (written name ++ rest) = behind := by
      simpa using heq
    obtain ⟨hfirst, hbefore⟩ := atStart?_eq_some_iff.mp hfound
    exact ⟨hfirst, by rw [hbefore, List.append_assoc]⟩

/-- What stands in front of a placeholder is cut as if nothing followed, unless it ends with a
placeholder that lacks its slash. Behind the placeholder the cutting starts anew. -/
theorem split_append_written (hname : IsName name) (rest passed before : List Char)
    (h : ¬ EndsOpen before) :
    split passed (before ++ (written name ++ rest)) =
      ((split passed before).1,
        (split passed before).2 ++ (name, (split [] rest).1) :: (split [] rest).2) := by
  induction hlength : before.length using Nat.strong_induction_on generalizing before passed with
  | _ n ih =>
    subst hlength
    cases before with
    | nil => simpa [split] using split_written hname rest passed
    | cons c before =>
      have hwhole := atStart?_append_written h name rest
      cases hstart : atStart? (c :: before) with
      | some found =>
        -- the placeholder at the start is passed over, and what follows it is shorter
        obtain ⟨first, behind⟩ := found
        rw [hstart, Option.map_some] at hwhole
        obtain ⟨-, heq⟩ := atStart?_eq_some_iff.mp hstart
        have hbehind : ¬ EndsOpen behind := fun hopen =>
          h (hopen.of_suffix (heq ▸ List.suffix_append _ _))
        rw [List.cons_append] at hwhole ⊢
        rw [split_of_some hwhole, split_of_some hstart,
          ih _ (length_lt_of_atStart? hstart) [] behind hbehind rfl]
        rfl
      | none =>
        rw [hstart, Option.map_none] at hwhole
        have hbefore : ¬ EndsOpen before := fun hopen => h (hopen.of_suffix (List.suffix_cons c _))
        rw [List.cons_append] at hwhole ⊢
        rw [split_of_none hwhole, split_of_none hstart, ih _ (Nat.lt_succ_self _) _ _ hbefore rfl]

/-- A text with placeholders has a first one: none stands in front of it, also not with its first
slash. -/
theorem exists_first (h : ¬ Free text) :
    ∃ before name after, IsName name ∧ text = before ++ (written name ++ after) ∧
      Free (before ++ ['/']) := by
  induction text with
  | nil =>
    refine absurd (fun name _ hwritten => ?_) h
    have hlength := hwritten.length_le
    have hwritten := one_lt_length_written name
    simp only [List.length_nil] at hlength
    omega
  | cons c text ih =>
    cases hstart : atStart? (c :: text) with
    | some found =>
      obtain ⟨name, after⟩ := found
      obtain ⟨hname, heq⟩ := atStart?_eq_some_iff.mp hstart
      refine ⟨[], name, after, hname, heq, fun other _ hother => ?_⟩
      have hlength := hother.length_le
      have hwritten := one_lt_length_written other
      simp only [List.nil_append, List.length_singleton] at hlength
      omega
    | none =>
      have hskip := notAtStart_of_atStart? hstart
      have hrest : ¬ Free text := by
        refine fun hfree => h fun name hname hwritten => ?_
        rcases List.infix_cons_iff.mp hwritten with ⟨after, hafter⟩ | hinside
        · exact hskip name after hname hafter.symm
        · exact hfree name hname hinside
      obtain ⟨before, name, after, hname, rfl, hfree⟩ := ih hrest
      refine ⟨c :: before, name, after, hname, rfl, fun other hother hwritten => ?_⟩
      rcases List.infix_cons_iff.mp hwritten with ⟨behind, hbehind⟩ | hinside
      · -- a placeholder that starts with `c` would be read at the start of the text
        have hcut : c :: (before ++ (written name ++ after)) =
            c :: before ++ ['/'] ++ (inner name ++ ['/'] ++ after) := by simp [written_eq]
        refine hskip other (behind ++ (inner name ++ ['/'] ++ after)) hother ?_
        rw [hcut, ← List.append_assoc (written other), hbehind]
        rfl
      · exact hfree other hother hinside

end Placeholder

/-! ## Injection -/

open Placeholder (IsName EndsOpen Free written)

theorem toList_placeholder (name : String) :
    ("/*hook:" ++ name ++ "*/").toList = written name.toList := by
  rw [String.toList_append, String.toList_append]
  rfl

/-- Nothing is replaced, and nothing noted, in a template without placeholders. -/
theorem injectHooks_of_free {template : String} (h : Free template.toList) (hooks : Hooks) :
    injectHooks template hooks = (template, []) := by
  rw [injectHooks, Placeholder.split_of_free h]
  simp

/-- At a placeholder the code of its hook is inserted, or its name is noted if there is none. In
front of it and behind it the hooks are injected as if the rest were not there. -/
theorem injectHooks_append (hooks : Hooks) {name a : String} (hname : IsName name.toList)
    (ha : ¬ EndsOpen a.toList) (b : String) :
    injectHooks (a ++ ("/*hook:" ++ name ++ "*/") ++ b) hooks =
      ((injectHooks a hooks).1 ++ (hooks.get? name).getD "" ++ (injectHooks b hooks).1,
        (injectHooks a hooks).2 ++ (if (hooks.get? name).isNone then [name] else []) ++
          (injectHooks b hooks).2) := by
  have hsplit := Placeholder.split_append_written hname b.toList [] a.toList ha
  rw [← toList_placeholder, ← String.toList_append, ← String.toList_append,
    ← String.append_assoc] at hsplit
  refine Prod.ext ?_ ?_
  · rw [← String.toList_inj, MainProgram.toList_injectHooks, hsplit]
    simp only [String.toList_append, MainProgram.toList_injectHooks, List.flatMap_append,
      List.flatMap_cons, MainProgram.codeFor, String.ofList_toList, List.append_assoc]
  · simp only [injectHooks, hsplit, List.map_append, List.map_cons, List.filter_append,
      List.filter_cons, String.ofList_toList]
    split <;> simp

theorem endsOpen_toList_iff {a : String} :
    EndsOpen a.toList ↔
      ∃ w : String, IsName w.toList ∧ ("/*hook:" ++ w ++ "*").toList <:+ a.toList := by
  have htext (w : String) :
      ("/*hook:" ++ w ++ "*").toList = Placeholder.opening ++ w.toList ++ ['*'] := by
    rw [String.toList_append, String.toList_append]
    rfl
  constructor
  · rintro ⟨w, hw, hopen⟩
    exact ⟨String.ofList w, by simpa using hw, by simpa [htext] using hopen⟩
  · rintro ⟨w, hw, hopen⟩
    exact ⟨w.toList, hw, by rwa [htext] at hopen⟩

theorem free_toList_iff {t : String} :
    Free t.toList ↔
      ∀ w : String, IsName w.toList → ¬ ("/*hook:" ++ w ++ "*/").toList <:+: t.toList := by
  constructor
  · intro h w hw
    rw [toList_placeholder]
    exact h w.toList hw
  · intro h w hw
    have := h (String.ofList w) (by simpa using hw)
    rwa [toList_placeholder, String.toList_ofList] at this

/-- The function replaces the placeholders of a template by the code of the hooks: at a placeholder
it can be applied to both parts, and elsewhere it changes nothing. -/
structure Hooks.ReplacesBy (hooks : Hooks) (f : String → String) : Prop where
  /-- A placeholder for a name becomes the code of the hook, or nothing if there is none, unless the
  text in front of it ends with a placeholder that lacks its slash. -/
  placeholder : ∀ name a b : String, IsName name.toList →
    (¬ ∃ w : String, IsName w.toList ∧ ("/*hook:" ++ w ++ "*").toList <:+ a.toList) →
    f (a ++ ("/*hook:" ++ name ++ "*/") ++ b) = f a ++ (hooks.get? name).getD "" ++ f b
  /-- A template without placeholders stays as it is. -/
  plain : ∀ template : String,
    (∀ w : String, IsName w.toList → ¬ ("/*hook:" ++ w ++ "*/").toList <:+: template.toList) →
    f template = template

namespace Hooks.ReplacesBy

variable {hooks : Hooks} {f g : String → String}

/-- The two rules leave one result for every template: the first placeholder of a template has a
slash of its own, and there is none in front of it. -/
theorem unique (hf : hooks.ReplacesBy f) (hg : hooks.ReplacesBy g) (template : String) :
    f template = g template := by
  induction hlength : template.toList.length using Nat.strong_induction_on
    generalizing template with
  | _ n ih =>
    subst hlength
    by_cases hfree : Free template.toList
    · rw [hf.plain _ (free_toList_iff.mp hfree), hg.plain _ (free_toList_iff.mp hfree)]
    · obtain ⟨a, name, b, hname, heq, ha⟩ := Placeholder.exists_first hfree
      have htemplate : template =
          String.ofList a ++ ("/*hook:" ++ String.ofList name ++ "*/") ++ String.ofList b := by
        rw [← String.toList_inj, String.toList_append, String.toList_append, toList_placeholder]
        simpa using heq
      have hname' : IsName (String.ofList name).toList := by simpa using hname
      have hopen : ¬ EndsOpen (String.ofList a).toList := fun h =>
        h.not_free (by simpa using ha)
      have hfront : Free (String.ofList a).toList :=
        ha.of_infix (by simpa using (List.prefix_append a ['/']).isInfix)
      have hlt : (String.ofList b).toList.length < template.toList.length := by
        have hwritten := Placeholder.one_lt_length_written name
        rw [heq, String.toList_ofList, List.length_append, List.length_append]
        omega
      rw [endsOpen_toList_iff] at hopen
      rw [free_toList_iff] at hfront
      rw [htemplate, hf.placeholder _ _ _ hname' hopen, hg.placeholder _ _ _ hname' hopen,
        hf.plain _ hfront, hg.plain _ hfront, ih _ hlt _ rfl]

end Hooks.ReplacesBy

/-- Hooks are injected by two rules. A template can be cut at a placeholder, unless the text in
front of it ends with a placeholder that lacks its slash: the code of the hook stands between the
results for the two parts, as it is. A template without placeholders stays as it is. No other
function follows the rules. -/
theorem injectHooks_replacesBy (hooks : Hooks) :
    hooks.ReplacesBy (fun template => (injectHooks template hooks).1) ∧
      ∀ f, hooks.ReplacesBy f → ∀ template, f template = (injectHooks template hooks).1 := by
  have hinject : hooks.ReplacesBy (fun template => (injectHooks template hooks).1) := by
    refine ⟨fun name a b hname ha => ?_, fun template h => ?_⟩
    · rw [injectHooks_append hooks hname (endsOpen_toList_iff.not.mpr ha)]
    · rw [injectHooks_of_free (free_toList_iff.mpr h)]
  exact ⟨hinject, fun f hf => hf.unique hinject⟩

/-- The code of a hook is not searched for placeholders, and neither is what it forms with the text
around it. -/
theorem injectHooks_replacesBy_codeWithPlaceholder :
    IsName "a".toList ∧
    (¬ ∃ w : String, IsName w.toList ∧ ("/*hook:" ++ w ++ "*").toList <:+ "/*hook:a".toList) ∧
    (injectHooks "/*hook:a/*hook:a*/$1" (.ofList [("a", "*//*hook:a*/$1")])).1 =
      "/*hook:a*//*hook:a*/$1$1" := by
  have hname : IsName "a".toList := by decide
  have hclosed : ¬ ∃ w : String, IsName w.toList ∧
      ("/*hook:" ++ w ++ "*").toList <:+ "/*hook:a".toList := by
    rintro ⟨w, -, front, hfront⟩
    -- the one ends with a star, the other does not
    have hlast := congrArg List.getLast? hfront
    rw [String.toList_append, ← List.append_assoc, show "*".toList = ['*'] from rfl,
      List.getLast?_concat] at hlast
    exact absurd hlast (by decide)
  have hfront : (injectHooks "/*hook:a" (.ofList [("a", "*//*hook:a*/$1")])).1 = "/*hook:a" := by
    decide +kernel
  have hback : (injectHooks "$1" (.ofList [("a", "*//*hook:a*/$1")])).1 = "$1" := by
    decide +kernel
  refine ⟨hname, hclosed, ?_⟩
  have hrule := (injectHooks_replacesBy (.ofList [("a", "*//*hook:a*/$1")])).1.placeholder
    "a" "/*hook:a" "$1" hname hclosed
  rw [hfront, hback] at hrule
  exact hrule

end DemoBuild
