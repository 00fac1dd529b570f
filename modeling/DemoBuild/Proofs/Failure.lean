import Mathlib.Tactic.Basic

/-!
# Computations that may fail

A computation succeeds exactly if all of its parts do.

## Main definitions

* `failure?`: how the computation fails;
* `FailsOnly`: the computation fails in certain ways only;
* `Alike`: two computations fail alike, or give related results.
-/

namespace DemoBuild

variable {ε δ α β : Type}

/-- One computation after another succeeds if both succeed. -/
theorem bind_eq_ok_iff {x : Except ε α} {f : α → Except ε β} {b : β} :
    (x >>= f) = .ok b ↔ ∃ a, x = .ok a ∧ f a = .ok b := by
  cases x with
  | error e =>
    constructor
    · intro h
      cases h
    · rintro ⟨a, h, -⟩
      cases h
  | ok a =>
    constructor
    · intro h
      exact ⟨a, rfl, h⟩
    · rintro ⟨a', h, hb⟩
      cases h
      exact hb

/-- The results of a computation in another form. -/
theorem map_eq_ok_iff {x : Except ε α} {f : α → β} {b : β} :
    f <$> x = .ok b ↔ ∃ a, x = .ok a ∧ f a = b := by
  cases x with
  | error e =>
    constructor
    · intro h
      cases h
    · rintro ⟨a, h, -⟩
      cases h
  | ok a =>
    constructor
    · intro h
      exact ⟨a, rfl, Except.ok.inj h⟩
    · rintro ⟨a', h, rfl⟩
      cases h
      rfl

/-- Another wording of the failures leaves the successes as they are. -/
theorem mapError_eq_ok_iff {x : Except ε α} {f : ε → δ} {a : α} :
    x.mapError f = .ok a ↔ x = .ok a := by
  cases x with
  | error e =>
    constructor
    · intro h
      cases h
    · intro h
      cases h
  | ok a' =>
    constructor
    · intro h
      cases h
      rfl
    · intro h
      cases h
      rfl

/-! ## Ways to fail -/

/-- How a computation fails, if it does. -/
def failure? : Except ε α → Option ε
  | .ok _ => none
  | .error e => some e

/-- A computation fails in a way exactly if that is its failure. -/
theorem failure?_eq_some_iff {x : Except ε α} {e : ε} : failure? x = some e ↔ x = .error e := by
  cases x <;> simp [failure?]

/-- A computation without failure succeeds. -/
theorem failure?_eq_none_iff {x : Except ε α} : failure? x = none ↔ ∃ a, x = .ok a := by
  cases x <;> simp [failure?]

/-- Another form of the result leaves the failure as it is. -/
@[simp]
theorem failure?_map (f : α → β) (x : Except ε α) : failure? (f <$> x) = failure? x := by
  cases x <;> rfl

/-- Of two computations one after the other the first failure counts. -/
theorem failure?_bind {γ : Type} {x : Except ε α} {f : α → Except ε β} {y : Except ε γ}
    (h : ∀ a, failure? (f a) = failure? y) : failure? (x >>= f) = (failure? x).or (failure? y) := by
  cases x with
  | error e => rfl
  | ok a => exact h a

/-- The computation fails only in ways that are allowed. -/
def FailsOnly (allowed : ε → Prop) (x : Except ε α) : Prop :=
  ∀ e, x = .error e → allowed e

namespace FailsOnly

variable {allowed : ε → Prop}

theorem pure (a : α) : FailsOnly allowed (Pure.pure a : Except ε α) :=
  fun _ h => nomatch h

theorem ok (a : α) : FailsOnly allowed (.ok a : Except ε α) :=
  pure a

theorem error {e : ε} (h : allowed e) : FailsOnly allowed (.error e : Except ε α) := by
  intro e' he
  cases he
  exact h

/-- Two computations one after the other fail in the ways of either. -/
theorem bind {x : Except ε α} {f : α → Except ε β} (hx : FailsOnly allowed x)
    (hf : ∀ a, FailsOnly allowed (f a)) : FailsOnly allowed (x >>= f) := by
  cases x with
  | error e => exact error (hx e rfl)
  | ok a => exact hf a

end FailsOnly

/-! ## Computations that fail alike -/

/-- The computations fail in the same way, or what they give is related. -/
inductive Alike (R : α → β → Prop) : Except ε α → Except ε β → Prop
  | error (e : ε) : Alike R (.error e) (.error e)
  | ok {a : α} {b : β} : R a b → Alike R (.ok a) (.ok b)

/-- Computations that fail alike or give the same are equal. -/
theorem alike_eq_iff {x y : Except ε α} : Alike Eq x y ↔ x = y := by
  constructor
  · rintro (e | rfl)
    · rfl
    · rfl
  · rintro rfl
    cases x with
    | error e => exact .error e
    | ok a => exact .ok rfl

/-- What follows on related results fails alike as well. -/
theorem Alike.bind {γ η : Type} {R : α → β → Prop} {S : γ → η → Prop} {x : Except ε α}
    {y : Except ε β} {f : α → Except ε γ} {g : β → Except ε η} (h : Alike R x y)
    (hnext : ∀ {a b}, R a b → Alike S (f a) (g b)) : Alike S (x >>= f) (y >>= g) := by
  cases h with
  | error e => exact .error e
  | ok h => exact hnext h

/-- Runs whose steps keep the results related fail alike. -/
theorem Alike.foldlM {ι : Type} {R : α → β → Prop} {f : α → ι → Except ε α} {g : β → ι → Except ε β}
    {items : List ι} (hstep : ∀ item ∈ items, ∀ {a b}, R a b → Alike R (f a item) (g b item))
    {a : α} {b : β} (h : R a b) : Alike R (items.foldlM f a) (items.foldlM g b) := by
  induction items generalizing a b with
  | nil => exact .ok h
  | cons item items ih =>
    obtain ⟨hfirst, hrest⟩ := List.forall_mem_cons.mp hstep
    rw [List.foldlM_cons, List.foldlM_cons]
    exact (hfirst h).bind fun h => ih hrest h

end DemoBuild
