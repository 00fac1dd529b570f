import DemoBuild.Yaml.Tree
import Mathlib.Data.List.Lex

/-!
# Document order

What stands in a document tree is found by its position: the numbers of the items and entries on
the way to it. The lexicographic order of positions is the order of the document. A traversal of a
tree that collects something passes the positions in this order, so that the first and the last
thing that it finds are those at the first and the last position.

## Main definitions

* `Yaml.Before`: one position comes before another one;
* `Yaml.Lists`: a list is what stands at certain positions, in the order of the document.

## Main results

* `Yaml.Tree.induction`: induction over trees, with an hypothesis for each item and each entry;
* `Yaml.Lists.unique`: there is one list for certain positions;
* `Yaml.Lists.below`: what stands below a node is what stands below its children;
* `Yaml.Lists.split_iff`: a place in the list is a position.
-/

namespace DemoBuild.Yaml

/-- Induction over document trees. The keys of a mapping are no parts of the document that a
traversal goes through, so there is an hypothesis for the values only. -/
@[elab_as_elim]
theorem Tree.induction {motive : Tree → Prop} (null : motive .null)
    (bool : ∀ value, motive (.bool value)) (integer : ∀ value, motive (.integer value))
    (float : ∀ value, motive (.float value)) (text : ∀ value, motive (.text value))
    (sequence : ∀ items, (∀ item ∈ items, motive item) → motive (.sequence items))
    (mapping : ∀ entries, (∀ entry ∈ entries, motive entry.2) → motive (.mapping entries))
    (tagged : ∀ tag node, motive node → motive (.tagged tag node)) (t : Tree) : motive t :=
  @Tree.rec motive (fun items => ∀ item ∈ items, motive item)
    (fun entries => ∀ entry ∈ entries, motive entry.2) (fun entry => motive entry.2)
    null bool integer float text sequence mapping tagged
    (List.forall_mem_nil _) (fun _ _ hfirst hrest => List.forall_mem_cons.mpr ⟨hfirst, hrest⟩)
    (List.forall_mem_nil _) (fun _ _ hfirst hrest => List.forall_mem_cons.mpr ⟨hfirst, hrest⟩)
    (fun _ _ _ hvalue => hvalue) t

/-- One position comes before another one in the document. -/
def Before (a b : List Nat) : Prop :=
  List.Lex (· < ·) a b

/-- Positions below one node are in the order of its children, and in that of a child below it. -/
theorem before_cons_iff {i j : Nat} {a b : List Nat} :
    Before (i :: a) (j :: b) ↔ i < j ∨ i = j ∧ Before a b :=
  List.cons_lex_cons_iff

/-- Of two positions at most one comes before the other. -/
theorem Before.asymm {a b : List Nat} (h : Before a b) : ¬ Before b a :=
  Std.Asymm.asymm (r := List.Lex (· < ·)) a b h

theorem Before.irrefl (a : List Nat) : ¬ Before a a :=
  fun h => h.asymm h

/-- The list is what stands at the positions that `P` gives, in the order of the document. -/
def Lists {α : Type} (P : List Nat → α → Prop) (l : List α) : Prop :=
  ∃ located : List (List Nat × α), (∀ pos a, (pos, a) ∈ located ↔ P pos a) ∧
    (located.Pairwise fun x y => Before x.1 y.1) ∧ located.map Prod.snd = l

namespace Lists

variable {α β ι : Type} {P : List Nat → α → Prop} {l : List α}

/-- What stands at the same positions is listed in the same way. -/
theorem congr {Q : List Nat → α → Prop} (h : Lists P l) (hiff : ∀ pos a, P pos a ↔ Q pos a) :
    Lists Q l := by
  obtain ⟨located, hmem, hascending, hmap⟩ := h
  exact ⟨located, fun pos a => (hmem pos a).trans (hiff pos a), hascending, hmap⟩

theorem nil (h : ∀ pos a, ¬ P pos a) : Lists P [] :=
  ⟨[], fun pos a => by simp [h pos a], .nil, rfl⟩

/-- What stands at the top is listed on its own. -/
theorem singleton {a : α} (h : ∀ pos b, P pos b ↔ pos = [] ∧ b = a) : Lists P [a] :=
  ⟨[([], a)], fun pos b => by simp [h pos b], List.pairwise_singleton _ _, rfl⟩

/-- What is made from the things listed is listed. -/
theorem map (h : Lists P l) (f : α → β) :
    Lists (fun pos b => ∃ a, P pos a ∧ f a = b) (l.map f) := by
  obtain ⟨located, hmem, hascending, rfl⟩ := h
  refine ⟨located.map fun x => (x.1, f x.2), fun pos b => ?_, ?_, ?_⟩
  · simp [hmem]
  · exact List.pairwise_map.mpr hascending
  · simp [Function.comp_def]

/-- Something is listed exactly if it stands somewhere. -/
theorem mem_iff (h : Lists P l) {a : α} : a ∈ l ↔ ∃ pos, P pos a := by
  obtain ⟨located, hmem, -, rfl⟩ := h
  simp [hmem]

/-- What stands at certain positions is listed in one way only. -/
theorem unique {l' : List α} (h : Lists P l) (h' : Lists P l') : l = l' := by
  obtain ⟨located, hmem, hascending, rfl⟩ := h
  obtain ⟨located', hmem', hascending', rfl⟩ := h'
  have hnodup {l : List (List Nat × α)} (hl : l.Pairwise fun x y => Before x.1 y.1) : l.Nodup := by
    rw [List.nodup_iff_pairwise_ne]
    refine hl.imp fun hbefore heq => ?_
    rw [heq] at hbefore
    exact Before.irrefl _ hbefore
  -- both lists of positions ascend, and they have the same elements
  have hperm : located.Perm located' :=
    (List.perm_ext_iff_of_nodup (hnodup hascending) (hnodup hascending')).mpr fun x =>
      (hmem x.1 x.2).trans (hmem' x.1 x.2).symm
  rw [hperm.eq_of_pairwise (fun x y _ _ hxy hyx => absurd hxy hyx.asymm) hascending hascending']

/-- What stands below a node is what stands below its children, child by child. -/
theorem below {children : List ι} {P : ι → List Nat → α → Prop} {f : ι → List α}
    (h : ∀ c ∈ children, Lists (P c) (f c)) :
    Lists (fun pos a => ∃ i c rest, children[i]? = some c ∧ pos = i :: rest ∧ P c rest a)
      (children.flatMap f) := by
  choose! located hmem hascending hmap using h
  -- the position below a child starts with the number of the child
  refine ⟨children.zipIdx.flatMap fun c => (located c.1).map fun x => (c.2 :: x.1, x.2),
    fun pos a => ?_, ?_, ?_⟩
  · simp only [List.mem_flatMap, List.mem_map, Prod.exists, Prod.mk.injEq]
    constructor
    · rintro ⟨c, i, hc, rest, a, hx, rfl, rfl⟩
      have hget := List.mem_zipIdx_iff_getElem?.mp hc
      exact ⟨i, c, rest, hget, rfl, (hmem c (List.mem_of_getElem? hget) rest a).mp hx⟩
    · rintro ⟨i, c, rest, hget, rfl, hP⟩
      exact ⟨c, i, List.mem_zipIdx_iff_getElem?.mpr hget, rest, a,
        (hmem c (List.mem_of_getElem? hget) rest a).mpr hP, rfl, rfl⟩
  · rw [List.pairwise_flatMap]
    constructor
    · -- below one child
      rintro ⟨c, i⟩ hc
      have hmemc := List.mem_of_getElem? (List.mem_zipIdx_iff_getElem?.mp hc)
      exact List.pairwise_map.mpr
        ((hascending c hmemc).imp fun hbefore => before_cons_iff.mpr (.inr ⟨rfl, hbefore⟩))
    · -- below two children
      have hindex : children.zipIdx.Pairwise fun c d => c.2 < d.2 := by
        rw [← List.pairwise_map, List.zipIdx_map_snd]
        exact List.pairwise_lt_range'
      refine hindex.imp fun hlt x hx y hy => ?_
      obtain ⟨x', -, rfl⟩ := List.mem_map.mp hx
      obtain ⟨y', -, rfl⟩ := List.mem_map.mp hy
      exact before_cons_iff.mpr (.inl hlt)
  · -- without the positions it is what stands below one child after the other
    have hchildren : children = children.zipIdx.map Prod.fst := by simp
    rw [List.map_flatMap]
    conv_rhs => rw [hchildren, List.flatMap_map]
    refine List.flatMap_congr fun c hc => ?_
    have hmemc := List.mem_of_getElem? (List.mem_zipIdx_iff_getElem?.mp hc)
    rw [List.map_map, ← hmap c.1 hmemc]
    rfl

/-- In an ascending list, what stands before an element is in front of it in the list, and what
stands after it is behind it. -/
theorem before_iff_mem {front behind : List (List Nat × α)} {x y : List Nat × α}
    (h : (front ++ x :: behind).Pairwise fun x y => Before x.1 y.1)
    (hy : y ∈ front ++ x :: behind) :
    (Before y.1 x.1 ↔ y ∈ front) ∧ (Before x.1 y.1 ↔ y ∈ behind) := by
  obtain ⟨-, hrest, hfront⟩ := List.pairwise_append.mp h
  have hfirst (hin : y ∈ front) : Before y.1 x.1 := hfront y hin x List.mem_cons_self
  have hlast (hin : y ∈ behind) : Before x.1 y.1 := (List.pairwise_cons.mp hrest).1 y hin
  rw [List.mem_append, List.mem_cons] at hy
  refine ⟨⟨fun hlt => ?_, hfirst⟩, ⟨fun hlt => ?_, hlast⟩⟩
  · rcases hy with hin | rfl | hin
    · exact hin
    · exact absurd hlt (Before.irrefl _)
    · exact absurd hlt (hlast hin).asymm
  · rcases hy with hin | rfl | hin
    · exact absurd hlt (hfirst hin).asymm
    · exact absurd hlt (Before.irrefl _)
    · exact hin

/-- A place in the list is a position: what is listed before it stands before it in the document,
and what is listed behind it stands behind it. -/
theorem split_iff (h : Lists P l) {a : α} {q r : α → Prop} :
    (∃ before after, l = before ++ a :: after ∧ (∀ b ∈ before, q b) ∧ ∀ b ∈ after, r b) ↔
      ∃ pos, P pos a ∧ (∀ pos' b, P pos' b → Before pos' pos → q b) ∧
        ∀ pos' b, P pos' b → Before pos pos' → r b := by
  obtain ⟨located, hmem, hascending, rfl⟩ := h
  constructor
  · rintro ⟨before, after, heq, hbefore, hafter⟩
    -- the place in the list is one in the list with the positions
    obtain ⟨front, back, rfl, rfl, hback⟩ := List.map_eq_append_iff.mp heq
    obtain ⟨⟨pos, a⟩, behind, rfl, rfl, rfl⟩ := List.map_eq_cons_iff.mp hback
    refine ⟨pos, (hmem pos a).mp (by simp), fun pos' b hP hlt => ?_, fun pos' b hP hlt => ?_⟩
    · have hin := (before_iff_mem hascending ((hmem pos' b).mpr hP)).1.mp hlt
      exact hbefore b (List.mem_map.mpr ⟨_, hin, rfl⟩)
    · have hin := (before_iff_mem hascending ((hmem pos' b).mpr hP)).2.mp hlt
      exact hafter b (List.mem_map.mpr ⟨_, hin, rfl⟩)
  · rintro ⟨pos, hP, hbefore, hafter⟩
    obtain ⟨front, behind, rfl⟩ := List.append_of_mem ((hmem pos a).mpr hP)
    refine ⟨front.map Prod.snd, behind.map Prod.snd, by simp, fun b hb => ?_, fun b hb => ?_⟩
    · obtain ⟨⟨pos', b⟩, hin, rfl⟩ := List.mem_map.mp hb
      have hwhere : (pos', b) ∈ front ++ (pos, a) :: behind := by simp [hin]
      exact hbefore pos' b ((hmem pos' b).mp hwhere) ((before_iff_mem hascending hwhere).1.mpr hin)
    · obtain ⟨⟨pos', b⟩, hin, rfl⟩ := List.mem_map.mp hb
      have hwhere : (pos', b) ∈ front ++ (pos, a) :: behind := by simp [hin]
      exact hafter pos' b ((hmem pos' b).mp hwhere) ((before_iff_mem hascending hwhere).2.mpr hin)

/-- The things in front of a place in the list are those that stand before it in the document. -/
theorem front_iff (h : Lists P l) {a : α} {q : α → Prop} :
    (∃ before after, l = before ++ a :: after ∧ ∀ b ∈ before, q b) ↔
      ∃ pos, P pos a ∧ ∀ pos' b, P pos' b → Before pos' pos → q b := by
  simpa using h.split_iff (a := a) (q := q) (r := fun _ => True)

/-- The things behind a place in the list are those that stand behind it in the document. -/
theorem behind_iff (h : Lists P l) {a : α} {r : α → Prop} :
    (∃ before after, l = before ++ a :: after ∧ ∀ b ∈ after, r b) ↔
      ∃ pos, P pos a ∧ ∀ pos' b, P pos' b → Before pos pos' → r b := by
  simpa using h.split_iff (a := a) (q := fun _ => True) (r := r)

end Lists

end DemoBuild.Yaml
