import DemoBuild.Proofs.Failure
import DemoBuild.Shader.Definition
import Mathlib.Data.List.Nodup
import Mathlib.Order.Nat

/-!
# One uniform array for each type

That each type has at most one uniform array is established in two ways: a shader as a whole can be
checked, and an array is appended only if its type is new. The check asks of each array whether it
is the first one of its type, and appending looks at the arrays so far, but both complain about the
same array: the first one whose type has occurred.

## Main definitions

* `Shader.Repeats`: an array has the type of an earlier one;
* `Shader.append`: a call that appends an array;
* `Shader.appendEach`: such calls one after the other, failed ones included.

## Main results

* `Shader.checkUniformArrays_eq_error_iff`: the check fails with the first repeated type;
* `Shader.checkUniformArrays_eq_ok_iff`: the check succeeds if types are distinct;
* `Shader.append_eq`: what a call does;
* `Shader.findSome?_appendEach`: the first failure of a sequence of calls is that of the check;
* `Shader.check_agrees_appendEach`: both ways agree.
-/

namespace DemoBuild.Shader

/-! ## Checking a shader -/

/-- The array at an index has the type of an earlier one. -/
def Repeats (arrays : List UniformArray) (i : Nat) : Prop :=
  ∃ a, arrays[i]? = some a ∧ ∃ j < i, ∃ b, arrays[j]? = some b ∧ b.typeName = a.typeName

/-- An array is not the first one of its type if there is an earlier one. -/
theorem findIdx_ne_iff {arrays : List UniformArray} {i : Nat} {a : UniformArray}
    (h : arrays[i]? = some a) :
    arrays.findIdx (·.typeName = a.typeName) ≠ i ↔ Repeats arrays i := by
  obtain ⟨hi, rfl⟩ := List.getElem?_eq_some_iff.mp h
  rw [Ne, List.findIdx_eq hi]
  constructor
  · intro hfirst
    by_contra hrepeats
    refine hfirst ⟨by simp, fun j hj => decide_eq_false fun htype => hrepeats ?_⟩
    exact ⟨_, h, j, hj, _, List.getElem?_eq_getElem (Nat.lt_trans hj hi), htype⟩
  · rintro ⟨a, ha, j, hj, b, hb, htype⟩ ⟨-, hfirst⟩
    rw [h] at ha
    obtain ⟨hj', rfl⟩ := List.getElem?_eq_some_iff.mp hb
    exact of_decide_eq_false (hfirst j hj) (htype.trans (congrArg _ (Option.some.inj ha).symm))

/-- Types are distinct if no array has the type of an earlier one. -/
theorem nodup_iff_forall_not_repeats {arrays : List UniformArray} :
    (arrays.map (·.typeName)).Nodup ↔ ∀ i, ¬ Repeats arrays i := by
  rw [List.nodup_iff_pairwise_ne, List.pairwise_map, List.pairwise_iff_getElem]
  constructor
  · rintro hdistinct i ⟨a, ha, j, hj, b, hb, htype⟩
    obtain ⟨hi, rfl⟩ := List.getElem?_eq_some_iff.mp ha
    obtain ⟨hj', rfl⟩ := List.getElem?_eq_some_iff.mp hb
    exact hdistinct j i hj' hi hj htype
  · intro hnone i j hi hj hij htype
    exact hnone j ⟨_, List.getElem?_eq_getElem hj, i, hij, _, List.getElem?_eq_getElem hi, htype⟩

/-- The check finds the first array that has the type of an earlier one. -/
theorem find?_zipIdx_eq_some_iff {arrays : List UniformArray} {a : UniformArray} {i : Nat} :
    (arrays.zipIdx.find? fun (a, i) => arrays.findIdx (·.typeName = a.typeName) ≠ i) = some (a, i) ↔
      IsLeast {i | Repeats arrays i} i ∧ arrays[i]? = some a := by
  -- what is found among the arrays with their indices stands at its own index
  have hat (k : Nat) (hk : k < arrays.zipIdx.length) :
      arrays[k]? = some arrays.zipIdx[k].1 ∧ arrays.zipIdx[k].2 = k := by
    have hk' : k < arrays.length := by simpa using hk
    simp [hk']
  rw [List.find?_eq_some_iff_getElem]
  constructor
  · rintro ⟨hrepeats, k, hk, hget, hearlier⟩
    obtain ⟨ha, hi⟩ := hat k hk
    rw [hget] at ha hi
    obtain rfl : i = k := hi
    refine ⟨⟨(findIdx_ne_iff ha).mp (of_decide_eq_true hrepeats), fun j hj => ?_⟩, ha⟩
    by_contra hlt
    have hjk : j < i := Nat.lt_of_not_le hlt
    obtain ⟨hb, hj'⟩ := hat j (Nat.lt_trans hjk hk)
    have hfirst := hearlier j hjk
    rw [Bool.not_eq_true', decide_eq_false_iff_not, hj'] at hfirst
    exact hfirst ((findIdx_ne_iff hb).mpr hj)
  · rintro ⟨⟨hrepeats, hleast⟩, ha⟩
    have hi : i < arrays.length := (List.getElem?_eq_some_iff.mp ha).1
    refine ⟨decide_eq_true ((findIdx_ne_iff ha).mpr hrepeats), i, by simpa using hi, ?_, ?_⟩
    · obtain ⟨ha', hi'⟩ := hat i (by simpa using hi)
      rw [ha] at ha'
      exact Prod.ext (Option.some.inj ha').symm hi'
    · intro j hj
      obtain ⟨hb, hj'⟩ := hat j (by simpa using Nat.lt_trans hj hi)
      rw [Bool.not_eq_true', decide_eq_false_iff_not, hj', findIdx_ne_iff hb]
      exact fun hrepeats => absurd (hleast hrepeats) (Nat.not_le_of_lt hj)

variable (s : Shader)

/-- The check fails with the type of the first array that has the type of an earlier one. -/
theorem checkUniformArrays_eq_error_iff {e : Error} :
    s.checkUniformArrays = .error e ↔ ∃ i a, IsLeast {i | Repeats s.uniformArrays i} i ∧
      s.uniformArrays[i]? = some a ∧ e = .duplicateUniformArray a.typeName := by
  rw [checkUniformArrays]
  constructor
  · intro h
    split at h
    · next a i hfound =>
      obtain ⟨hleast, ha⟩ := find?_zipIdx_eq_some_iff.mp hfound
      cases h
      exact ⟨i, a, hleast, ha, rfl⟩
    · cases h
  · rintro ⟨i, a, hleast, ha, rfl⟩
    rw [find?_zipIdx_eq_some_iff.mpr ⟨hleast, ha⟩]

/-- The check succeeds if the types are distinct. -/
theorem checkUniformArrays_eq_ok_iff :
    s.checkUniformArrays = .ok () ↔ (s.uniformArrays.map (·.typeName)).Nodup := by
  rw [nodup_iff_forall_not_repeats]
  constructor
  · intro h i hrepeats
    classical
    -- with any such array there is a first one, with which the check would fail
    have hleast : IsLeast {i | Repeats s.uniformArrays i} (Nat.find ⟨i, hrepeats⟩) :=
      Nat.isLeast_find _
    obtain ⟨a, ha, -⟩ := hleast.1
    have herror := s.checkUniformArrays_eq_error_iff.mpr ⟨_, a, hleast, ha, rfl⟩
    rw [h] at herror
    cases herror
  · intro hnone
    cases h : s.checkUniformArrays with
    | ok _ => rfl
    | error e =>
      obtain ⟨i, -, ⟨hrepeats, -⟩, -⟩ := s.checkUniformArrays_eq_error_iff.mp h
      exact absurd hrepeats (hnone i)

/-- The check of the uniform arrays fails because of a type that is repeated. -/
theorem exists_of_checkUniformArrays_eq_error {s : Shader} {e : Error}
    (h : s.checkUniformArrays = .error e) : ∃ typeName, e = .duplicateUniformArray typeName := by
  obtain ⟨_, a, -, -, he⟩ := s.checkUniformArrays_eq_error_iff.mp h
  exact ⟨a.typeName, he⟩

/-! ## Appending arrays -/

/-- Types stay distinct exactly if the one of the last array is new. -/
theorem nodup_append_singleton {arrays : List UniformArray} {a : UniformArray}
    (h : (arrays.map (·.typeName)).Nodup) :
    ((arrays ++ [a]).map (·.typeName)).Nodup ↔ a.typeName ∉ arrays.map (·.typeName) := by
  rw [List.map_append, List.map_singleton, ← List.concat_eq_append, List.nodup_concat]
  exact and_iff_left h

/-- The first array that repeats a type stands behind arrays of distinct types. -/
theorem isLeast_repeats_append {arrays more : List UniformArray} {a : UniformArray}
    (h : (arrays.map (·.typeName)).Nodup) (ha : a.typeName ∈ arrays.map (·.typeName)) :
    IsLeast {i | Repeats (arrays ++ a :: more) i} arrays.length := by
  constructor
  · obtain ⟨b, hb, htype⟩ := List.mem_map.mp ha
    obtain ⟨j, hj, rfl⟩ := List.getElem_of_mem hb
    refine ⟨a, by simp, j, hj, _, ?_, htype⟩
    rw [List.getElem?_append_left hj, List.getElem?_eq_getElem hj]
  · intro i hi
    by_contra hlt
    have hi' : i < arrays.length := Nat.lt_of_not_le hlt
    -- in front of the array the indices are those of the arrays with distinct types
    obtain ⟨b, hb, j, hj, c, hc, htype⟩ := hi
    rw [List.getElem?_append_left hi'] at hb
    rw [List.getElem?_append_left (Nat.lt_trans hj hi')] at hc
    exact nodup_iff_forall_not_repeats.mp h i ⟨b, hb, j, hj, c, hc, htype⟩

/-- A call that appends an array: what it answers, and the shader behind it. -/
def append (a : UniformArray) : Except Error Unit × Shader :=
  (appendUniformArray a).run.run s

/-- A call whose type is taken fails and leaves the shader as it is; any other call appends its
array. -/
theorem append_eq (a : UniformArray) :
    s.append a = if a.typeName ∈ s.uniformArrays.map (·.typeName) then
      (.error (.duplicateUniformArray a.typeName), s)
    else (.ok (), { s with uniformArrays := s.uniformArrays ++ [a] }) := by
  have htaken : (s.uniformArray? a.typeName).isSome = true ↔
      a.typeName ∈ s.uniformArrays.map (·.typeName) := by
    simp [uniformArray?, List.find?_isSome]
  -- the call looks at the shader first
  show ((if (s.uniformArray? a.typeName).isSome = true then
      throw (.duplicateUniformArray a.typeName)
    else modify fun s => { s with uniformArrays := s.uniformArrays ++ [a] } :
      ExceptT Error (StateM Shader) Unit).run.run s) = _
  by_cases h : a.typeName ∈ s.uniformArrays.map (·.typeName)
  · rw [if_pos (htaken.mpr h), if_pos h]
    rfl
  · rw [if_neg (htaken.not.mpr h), if_neg h]
    rfl

/-- Calls that append arrays, one after the other and whatever the earlier ones have answered: what
they answer, and the shader behind them. -/
def appendEach (s : Shader) : List UniformArray → List (Except Error Unit) × Shader
  | [] => ([], s)
  | a :: arrays =>
    let rest := (s.append a).2.appendEach arrays
    ((s.append a).1 :: rest.1, rest.2)

variable {s}

/-- A call keeps types distinct. -/
theorem checkUniformArrays_append (h : s.checkUniformArrays = .ok ()) (a : UniformArray) :
    (s.append a).2.checkUniformArrays = .ok () := by
  rw [append_eq]
  split
  · exact h
  · next hnew =>
    rw [checkUniformArrays_eq_ok_iff] at h ⊢
    exact (nodup_append_singleton h).mpr hnew

/-- Calls keep types distinct. -/
theorem checkUniformArrays_appendEach (h : s.checkUniformArrays = .ok ())
    (arrays : List UniformArray) : (s.appendEach arrays).2.checkUniformArrays = .ok () := by
  induction arrays generalizing s with
  | nil => exact h
  | cons a arrays ih => exact ih (checkUniformArrays_append h a)

/-- The first failure of a sequence of calls is the one of the check of all arrays. -/
theorem findSome?_appendEach (h : s.checkUniformArrays = .ok ()) (arrays : List UniformArray) :
    (s.appendEach arrays).1.findSome? failure? =
      failure? { s with uniformArrays := s.uniformArrays ++ arrays }.checkUniformArrays := by
  -- the shader grows until the first failure, and its types are distinct up to there
  induction arrays generalizing s with
  | nil =>
    rw [List.append_nil, h]
    rfl
  | cons a arrays ih =>
    have hkept := checkUniformArrays_append h a
    rw [appendEach, List.findSome?_cons]
    rw [append_eq] at hkept ⊢
    by_cases htaken : a.typeName ∈ s.uniformArrays.map (·.typeName)
    · -- the array fails at once, and it is the first one that the check complains about
      rw [if_pos htaken]
      have hdistinct := s.checkUniformArrays_eq_ok_iff.mp h
      refine (failure?_eq_some_iff.mpr ((checkUniformArrays_eq_error_iff _).mpr ?_)).symm
      exact ⟨_, a, isLeast_repeats_append hdistinct htaken, by simp, rfl⟩
    · rw [if_neg htaken] at hkept ⊢
      show List.findSome? failure? _ = _
      rw [ih hkept, List.append_assoc, List.singleton_append]

/-- If no call fails, all arrays have been appended in their order. -/
theorem snd_appendEach {arrays : List UniformArray}
    (h : ∀ answer ∈ (s.appendEach arrays).1, answer = .ok ()) :
    (s.appendEach arrays).2 = { s with uniformArrays := s.uniformArrays ++ arrays } := by
  induction arrays generalizing s with
  | nil => rw [List.append_nil]; rfl
  | cons a arrays ih =>
    rw [appendEach, append_eq] at h ⊢
    by_cases htaken : a.typeName ∈ s.uniformArrays.map (·.typeName)
    · rw [if_pos htaken] at h
      cases h _ List.mem_cons_self
    · rw [if_neg htaken] at h ⊢
      show (appendEach _ arrays).2 = _
      rw [ih fun answer hanswer => h answer (List.mem_cons_of_mem _ hanswer), List.append_assoc,
        List.singleton_append]

/-- The check looks at nothing but the arrays. -/
theorem checkUniformArrays_congr {s s' : Shader} (h : s.uniformArrays = s'.uniformArrays) :
    s.checkUniformArrays = s'.checkUniformArrays := by
  rw [checkUniformArrays, checkUniformArrays, h]

/-- Appending arrays to a shader without any fails first as their check does. -/
theorem findSome?_appendEach_bare (s : Shader) {bare : Shader} (h : bare.uniformArrays = []) :
    (bare.appendEach s.uniformArrays).1.findSome? failure? = failure? s.checkUniformArrays := by
  have hbare : bare.checkUniformArrays = .ok () := by
    rw [checkUniformArrays_eq_ok_iff, h]
    exact List.nodup_nil
  rw [findSome?_appendEach hbare]
  refine congrArg failure? (checkUniformArrays_congr ?_)
  rw [h, List.nil_append]

/-- The check passes if types are distinct, and else complains about the first array whose type has
occurred. Appending the same arrays to a shader without any, one after the other, fails first in the
same way; no call fails if the check passes, and then the shader has the arrays in their order. A
call that fails leaves the shader as it is, and no calls, failed ones included, spoil a shader that
passes the check. -/
theorem check_agrees_appendEach (s : Shader) :
    (s.checkUniformArrays = .ok () ↔ (s.uniformArrays.map (·.typeName)).Nodup) ∧
    (∀ e, s.checkUniformArrays = .error e ↔ ∃ i a, IsLeast {i | Repeats s.uniformArrays i} i ∧
      s.uniformArrays[i]? = some a ∧ e = .duplicateUniformArray a.typeName) ∧
    (∀ bare : Shader, bare.uniformArrays = [] →
      (∀ e, (bare.appendEach s.uniformArrays).1.findSome? failure? = some e ↔
        s.checkUniformArrays = .error e) ∧
      ((∀ answer ∈ (bare.appendEach s.uniformArrays).1, answer = .ok ()) ↔
        s.checkUniformArrays = .ok ()) ∧
      (s.checkUniformArrays = .ok () →
        (bare.appendEach s.uniformArrays).2 = { bare with uniformArrays := s.uniformArrays })) ∧
    (∀ a e after, s.append a = (.error e, after) → after = s) ∧
    (s.checkUniformArrays = .ok () → ∀ arrays,
      (s.appendEach arrays).2.checkUniformArrays = .ok ()) := by
  refine ⟨s.checkUniformArrays_eq_ok_iff, fun e => s.checkUniformArrays_eq_error_iff,
    fun bare hbare => ?_, fun a e after h => ?_, checkUniformArrays_appendEach⟩
  · have hfirst := s.findSome?_appendEach_bare hbare
    have hall : (∀ answer ∈ (bare.appendEach s.uniformArrays).1, answer = .ok ()) ↔
        s.checkUniformArrays = .ok () := by
      have hok (answer : Except Error Unit) : failure? answer = none ↔ answer = .ok () := by
        cases answer <;> simp [failure?]
      rw [← hok, ← hfirst, List.findSome?_eq_none_iff]
      exact forall₂_congr fun answer _ => (hok answer).symm
    refine ⟨fun e => ?_, hall, fun hcheck => ?_⟩
    · rw [hfirst, failure?_eq_some_iff]
    · rw [snd_appendEach (hall.mpr hcheck), hbare, List.nil_append]
  · rw [append_eq] at h
    split at h
    · exact (congrArg Prod.snd h).symm
    · cases congrArg Prod.fst h

/-- A shader with arrays of these types. -/
def ofTypes (types : List String) : Shader where
  uniformArrays := types.map fun typeName => { typeName, name := typeName ++ "Uniforms" }

/-- Of two types that are repeated, the one that is repeated first is complained about, whether the
arrays are checked or appended, and what has been appended stays distinct. -/
theorem check_agrees_appendEach_nested :
    (ofTypes ["a", "b", "b", "a"]).checkUniformArrays = .error (.duplicateUniformArray "b") ∧
      ((ofTypes []).appendEach (ofTypes ["a", "b", "b", "a"]).uniformArrays).1.findSome? failure? =
        some (.duplicateUniformArray "b") ∧
      ((ofTypes []).appendEach (ofTypes ["a", "b"]).uniformArrays).2 = ofTypes ["a", "b"] ∧
      ((ofTypes ["a"]).append ⟨"a", "again", none, []⟩).2 = ofTypes ["a"] ∧
      ((ofTypes ["a"]).appendEach (ofTypes ["b", "a", "c"]).uniformArrays).2.checkUniformArrays =
        .ok () := by
  obtain ⟨-, herror, hbare, -, -⟩ := check_agrees_appendEach (ofTypes ["a", "b", "b", "a"])
  obtain ⟨hok, -, hbare', -, -⟩ := check_agrees_appendEach (ofTypes ["a", "b"])
  obtain ⟨hok₁, -, -, hfailed, hkept⟩ := check_agrees_appendEach (ofTypes ["a"])
  have hrepeated : (ofTypes ["a", "b", "b", "a"]).checkUniformArrays =
      .error (.duplicateUniformArray "b") := by
    refine (herror _).mpr ⟨2, ⟨"b", "bUniforms", none, []⟩, ⟨?_, ?_⟩, rfl, rfl⟩
    · exact ⟨_, rfl, 1, by decide, _, rfl, rfl⟩
    · rintro i ⟨a, ha, j, hj, b, hb, htype⟩
      -- in front of the second `b` there are only two arrays, of different types
      match i, j, hj, ha, hb with
      | 1, 0, _, ha, hb =>
        cases ha
        cases hb
        exact absurd htype (by decide)
      | i + 2, _, _, _, _ => exact Nat.le_add_left 2 i
  refine ⟨hrepeated, ((hbare (ofTypes []) rfl).1 _).mpr hrepeated, ?_, ?_, ?_⟩
  · exact (hbare' (ofTypes []) rfl).2.2 (hok.mpr (by decide))
  · exact hfailed ⟨"a", "again", none, []⟩ (.duplicateUniformArray "a") _ rfl
  · exact hkept (hok₁.mpr (by decide)) _

end DemoBuild.Shader
