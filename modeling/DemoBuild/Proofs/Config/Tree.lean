import DemoBuild.Config.Load
import DemoBuild.Proofs.Dictionary
import DemoBuild.Proofs.Session
import DemoBuild.Proofs.Yaml.Tree
import Mathlib.Data.List.Induction

/-!
# What a configuration takes from a document

The configuration of a document has an entry for each key that a leaf of the document has, and the
last leaf with the key gives its value. How a document nests its keys does not matter: a nested and
a dotted spelling have the same leaves.

## Main definitions

* `ConfigItem.Converts` and `ConfigItem.Valueless`: what is the value of a tree, and what has none;
* `ConfigItem.LeafAt`: a leaf of a tree, with the names of the keys on the way to it;
* `Config.flatKey`: the key of a leaf;
* `ConfigItem.Respelled`: two trees that differ in how they spell keys.

## Main results

* `ConfigItem.leafValue?_eq_some_iff`: how values are converted;
* `ConfigItem.exists_collects`: what a tree contributes are its leaves, in their order;
* `Config.get?_setAll`: of several entries for one key the last one counts;
* `Config.ofTree_eq_setAll`: storing the entries of a tree is setting them;
* `ConfigItem.entries_eq_of_respelled`: a respelled tree has the same entries;
* `Config.ofTree_flattens`: the configuration of a document.
-/

namespace DemoBuild

open Yaml (Tree Before Lists)

/-! ## Keys -/

namespace Config

@[simp]
theorem normalizeKey_normalizeKey (key : String) :
    normalizeKey (normalizeKey key) = normalizeKey key := by
  simp only [normalizeKey, String.toList_ofList, List.map_map]
  congr 1
  refine List.map_congr_left fun c _ => ?_
  by_cases h : c = '.' <;> simp [h]

theorem normalizeKey_append (key rest : String) :
    normalizeKey (key ++ rest) = normalizeKey key ++ normalizeKey rest := by
  simp [normalizeKey]

/-- The key of a leaf: the names on the way to it are brought into their form and joined, where an
empty beginning is left out. -/
def flatKey (names : List String) : String :=
  ":".intercalate ((names.map normalizeKey).dropWhile (· = ""))

end Config

namespace ConfigItem

open Config (normalizeKey flatKey)

/-- Below a key that is not empty all names are joined. -/
theorem foldl_childKey_of_ne_empty {key : String} (h : key ≠ "") (names : List String) :
    names.foldl childKey key = ":".intercalate (key :: names.map normalizeKey) := by
  induction names generalizing key with
  | nil => simp
  | cons name names ih =>
    have hchild : childKey key name = key ++ ":" ++ normalizeKey name := by simp [childKey, h]
    -- the key of the child ends with a joined name, so it is not empty either
    have hne : childKey key name ≠ "" := by simp [hchild]
    rw [List.foldl_cons, ih hne, hchild, List.map_cons, String.intercalate_cons_cons]
    cases names with
    | nil => simp
    | cons next names => simp [String.intercalate_cons_cons, String.append_assoc]

/-- From the top of a document the names are joined to the key of the leaf. -/
theorem foldl_childKey (names : List String) : names.foldl childKey "" = flatKey names := by
  induction names with
  | nil => rfl
  | cons name names ih =>
    have hchild : childKey "" name = normalizeKey name := by simp [childKey]
    rw [List.foldl_cons, hchild, flatKey, List.map_cons]
    -- as long as the names are empty, nothing is joined
    by_cases h : normalizeKey name = ""
    · rw [h, ih, List.dropWhile_cons_of_pos (by simp)]
      rfl
    · rw [foldl_childKey_of_ne_empty h, List.dropWhile_cons_of_neg (by simpa using h)]

/-- The key of a leaf, name by name. -/
theorem childKey_flatKey (names : List String) (name : String) :
    childKey (flatKey names) name = flatKey (names ++ [name]) := by
  rw [← foldl_childKey, ← foldl_childKey, List.foldl_append]
  rfl

/-- A key below one in its form is in its form. -/
theorem normalizeKey_childKey {key : String} (h : normalizeKey key = key) (name : String) :
    normalizeKey (childKey key name) = childKey key name := by
  have hcolon : normalizeKey ":" = ":" := by decide
  by_cases hkey : key = ""
  · simp [childKey, hkey]
  · simp [childKey, hkey, Config.normalizeKey_append, h, hcolon]

/-- The key of a leaf is in its form. -/
@[simp]
theorem normalizeKey_flatKey (names : List String) :
    normalizeKey (flatKey names) = flatKey names := by
  induction names using List.reverseRecOn with
  | nil => decide
  | append_singleton names name ih =>
    rw [← childKey_flatKey]
    exact normalizeKey_childKey ih name

/-! ## Values -/

/-- The tree has no value: tags aside it is nothing, or a mapping. -/
inductive Valueless : Tree → Prop
  | null : Valueless .null
  | mapping (entries : List (Tree × Tree)) : Valueless (.mapping entries)
  | tagged (tag : String) {node : Tree} : Valueless node → Valueless (.tagged tag node)

mutual

/-- The value of a tree. Tags do not count, and integers beyond sixty-four bits become
floating-point numbers. -/
inductive Converts : Tree → Value → Prop
  | bool (b : Bool) : Converts (.bool b) (.bool b)
  | integer {n : Int} : Number.minInt64 ≤ n → n ≤ Number.maxInt64 →
    Converts (.integer n) (.integer n)
  | large {n : Int} : n < Number.minInt64 ∨ Number.maxInt64 < n →
    Converts (.integer n) (.float (Double.nearestInt n))
  | float (x : Float) : Converts (.float x) (.float x)
  | text (s : String) : Converts (.text s) (.text s)
  | sequence {items : List Tree} {values : List Value} : ConvertsItems items values →
    Converts (.sequence items) (.list values)
  | tagged (tag : String) {node : Tree} {v : Value} : Converts node v →
    Converts (.tagged tag node) v

/-- The values of those items of a list that have one. -/
inductive ConvertsItems : List Tree → List Value → Prop
  | nil : ConvertsItems [] []
  | keep {item : Tree} {v : Value} {items : List Tree} {values : List Value} :
    Converts item v → ConvertsItems items values → ConvertsItems (item :: items) (v :: values)
  | drop {item : Tree} {items : List Tree} {values : List Value} :
    Valueless item → ConvertsItems items values → ConvertsItems (item :: items) values

end

/-- What has no value is not converted. -/
theorem leafValue?_eq_none_iff {t : Tree} : leafValue? t = none ↔ Valueless t := by
  induction t using Tree.induction with
  | null => simp [leafValue?, Valueless.null]
  | bool b => exact ⟨nofun, nofun⟩
  | integer n =>
    refine ⟨fun h => ?_, nofun⟩
    rw [leafValue?] at h
    split at h <;> cases h
  | float x => exact ⟨nofun, nofun⟩
  | text s => exact ⟨nofun, nofun⟩
  | sequence items ih => exact ⟨nofun, nofun⟩
  | mapping entries ih => simp [leafValue?, Valueless.mapping]
  | tagged tag node ih =>
    rw [leafValue?, ih]
    constructor
    · exact .tagged tag
    · rintro ⟨⟩
      assumption

/-- The values of a list are those of its items, if these are converted as they should be. -/
theorem leafValues_eq_iff {items : List Tree}
    (h : ∀ item ∈ items, ∀ v, leafValue? item = some v ↔ Converts item v) {values : List Value} :
    leafValues items = values ↔ ConvertsItems items values := by
  induction items generalizing values with
  | nil =>
    constructor
    · rintro rfl
      exact .nil
    · rintro ⟨⟩
      rfl
  | cons item items ih =>
    obtain ⟨hitem, hitems⟩ := List.forall_mem_cons.mp h
    rw [leafValues]
    constructor
    · intro hvalues
      -- whether the item is kept is decided by its own conversion
      cases hvalue : leafValue? item with
      | none =>
        rw [hvalue] at hvalues
        exact .drop (leafValue?_eq_none_iff.mp hvalue) ((ih hitems).mp hvalues)
      | some v =>
        rw [hvalue] at hvalues
        subst hvalues
        exact .keep ((hitem v).mp hvalue) ((ih hitems).mp rfl)
    · intro hvalues
      cases hvalues with
      | keep hv hrest => rw [(hitem _).mpr hv, (ih hitems).mpr hrest]
      | drop hnone hrest => rw [leafValue?_eq_none_iff.mpr hnone, (ih hitems).mpr hrest]

/-- A leaf is converted to its value. -/
theorem leafValue?_eq_some_iff {t : Tree} {v : Value} : leafValue? t = some v ↔ Converts t v := by
  induction t using Tree.induction generalizing v with
  | null => exact ⟨nofun, nofun⟩
  | bool b =>
    constructor
    · rintro ⟨⟩
      exact .bool b
    · rintro ⟨⟩
      rfl
  | integer n =>
    have hfits : Number.fitsInt64 n = true ↔ Number.minInt64 ≤ n ∧ n ≤ Number.maxInt64 := by
      simp [Number.fitsInt64]
    rw [leafValue?]
    -- the two rules for integers exclude each other
    by_cases h : Number.fitsInt64 n = true
    · obtain ⟨hmin, hmax⟩ := hfits.mp h
      rw [if_pos h]
      constructor
      · rintro ⟨⟩
        exact .integer hmin hmax
      · intro hv
        cases hv with
        | integer _ _ => rfl
        | large hlarge => omega
    · rw [if_neg h]
      rw [hfits] at h
      constructor
      · rintro ⟨⟩
        exact .large (by omega)
      · intro hv
        cases hv with
        | integer hmin hmax => exact absurd ⟨hmin, hmax⟩ h
        | large _ => rfl
  | float x =>
    constructor
    · rintro ⟨⟩
      exact .float x
    · rintro ⟨⟩
      rfl
  | text s =>
    constructor
    · rintro ⟨⟩
      exact .text s
    · rintro ⟨⟩
      rfl
  | sequence items ih =>
    have hvalues {values : List Value} : leafValues items = values ↔ ConvertsItems items values :=
      leafValues_eq_iff fun item hitem v => ih item hitem
    constructor
    · rintro ⟨⟩
      exact .sequence (hvalues.mp rfl)
    · intro hv
      cases hv with
      | sequence hitems => rw [leafValue?, hvalues.mpr hitems]
  | mapping entries ih => exact ⟨nofun, nofun⟩
  | tagged tag node ih =>
    rw [leafValue?, ih]
    constructor
    · exact .tagged tag
    · rintro ⟨⟩
      assumption

/-! ## Leaves -/

/-- A leaf of a tree: what is reached through mappings without a tag, is no such mapping itself and
has a value. It stands at a position and below keys with these names; a key that is no scalar has no
name, and nothing below it is reached. -/
inductive LeafAt : Tree → List Nat → List String → Value → Prop
  | leaf {t : Tree} {v : Value} : Converts t v → LeafAt t [] [] v
  | entry {entries : List (Tree × Tree)} {i : Nat} {key child : Tree} {name : String}
    {pos : List Nat} {names : List String} {v : Value} :
    entries[i]? = some (key, child) → keyText? key = some name → LeafAt child pos names v →
    LeafAt (.mapping entries) (i :: pos) (name :: names) v

/-- The leaves of a mapping are those of its entries. -/
theorem leafAt_mapping_iff {entries : List (Tree × Tree)} {pos : List Nat} {names : List String}
    {v : Value} : LeafAt (.mapping entries) pos names v ↔
      ∃ i entry rest, entries[i]? = some entry ∧ pos = i :: rest ∧
        ∃ name below, keyText? entry.1 = some name ∧ names = name :: below ∧
          LeafAt entry.2 rest below v := by
  constructor
  · intro h
    cases h with
    | leaf hv => cases hv
    | entry hentry hname hbelow => exact ⟨_, _, _, hentry, rfl, _, _, hname, rfl, hbelow⟩
  · rintro ⟨i, ⟨key, child⟩, rest, hentry, rfl, name, below, hname, rfl, hbelow⟩
    exact .entry hentry hname hbelow

/-- A leaf that is no mapping is the only leaf of its tree. -/
theorem leafAt_iff_of_ne_mapping {t : Tree} (h : ∀ entries, t ≠ .mapping entries) {pos : List Nat}
    {names : List String} {v : Value} :
    LeafAt t pos names v ↔ pos = [] ∧ names = [] ∧ leafValue? t = some v := by
  rw [leafValue?_eq_some_iff]
  constructor
  · intro hleaf
    cases hleaf with
    | leaf hv => exact ⟨rfl, rfl, hv⟩
    | entry _ _ _ => exact absurd rfl (h _)
  · rintro ⟨rfl, rfl, hv⟩
    exact .leaf hv

/-- What a tree contributes that is no mapping. -/
theorem entries_of_ne_mapping {t : Tree} (h : ∀ entries, t ≠ .mapping entries) (key : String) :
    (ofTree key t).filterMap entry? = ((leafValue? t).map (key, ·)).toList := by
  have hofTree : ofTree key t = ((leafValue? t).map (ConfigItem.entry key)).toList := by
    cases t with
    | mapping entries => exact absurd rfl (h entries)
    | _ => rfl
  rw [hofTree]
  cases leafValue? t <;> rfl

/-- What the entries of a mapping contribute, entry by entry. -/
theorem entries_mapping (key : String) (entries : List (Tree × Tree)) :
    (ofTree key (.mapping entries)).filterMap entry? = entries.flatMap fun entry =>
      match keyText? entry.1 with
      | some name => (ofTree (childKey key name) entry.2).filterMap entry?
      | none => [] := by
  rw [ofTree]
  induction entries with
  | nil => rfl
  | cons entry entries ih =>
    obtain ⟨name, child⟩ := entry
    rw [ofEntries, List.flatMap_cons, ← ih]
    cases keyText? name with
    | none => rfl
    | some name => exact List.filterMap_append

/-- The leaves of a tree, in the order of the document. They are what the tree contributes, at any
key. -/
structure Collects (t : Tree) (leaves : List (List String × Value)) : Prop where
  /-- The list holds the leaves in their order. -/
  lists : Lists (fun pos leaf => LeafAt t pos leaf.1 leaf.2) leaves
  /-- The entries are the leaves, below the key of the tree. -/
  entries_eq : ∀ key, (ofTree key t).filterMap entry? =
    leaves.map fun leaf => (leaf.1.foldl childKey key, leaf.2)

/-- A tree that is no mapping has one leaf or none. -/
theorem collects_of_ne_mapping {t : Tree} (h : ∀ entries, t ≠ .mapping entries) :
    Collects t ((leafValue? t).map ([], ·)).toList := by
  refine ⟨?_, fun key => ?_⟩
  · cases hvalue : leafValue? t with
    | none =>
      exact .nil fun pos leaf hleaf => by simp [leafAt_iff_of_ne_mapping h, hvalue] at hleaf
    | some v =>
      refine .singleton fun pos leaf => ?_
      simp [leafAt_iff_of_ne_mapping h, hvalue, Prod.ext_iff, eq_comm]
  · rw [entries_of_ne_mapping h]
    cases leafValue? t <;> rfl

/-- The leaves of an entry, given those of its value: they stand below the name of its key, if the
key has one. -/
def leavesBelow (leaves : Tree × Tree → List (List String × Value)) (entry : Tree × Tree) :
    List (List String × Value) :=
  match keyText? entry.1 with
  | some name => (leaves entry).map fun leaf => (name :: leaf.1, leaf.2)
  | none => []

/-- The leaves of a mapping are those of its entries, one entry after the other. -/
theorem collects_mapping {entries : List (Tree × Tree)}
    {leaves : Tree × Tree → List (List String × Value)}
    (h : ∀ entry ∈ entries, Collects entry.2 (leaves entry)) :
    Collects (.mapping entries) (entries.flatMap (leavesBelow leaves)) := by
  refine ⟨?_, fun key => ?_⟩
  · refine (Lists.below (f := leavesBelow leaves) fun entry hentry => ?_).congr fun pos leaf =>
      leafAt_mapping_iff.symm
    cases hname : keyText? entry.1 with
    | none =>
      simp only [leavesBelow, hname]
      exact .nil fun pos leaf => by simp
    | some name =>
      simp only [leavesBelow, hname]
      refine ((h entry hentry).lists.map _).congr fun pos leaf => ?_
      constructor
      · rintro ⟨⟨names, v⟩, hleaf, rfl⟩
        exact ⟨name, names, rfl, rfl, hleaf⟩
      · obtain ⟨names, v⟩ := leaf
        rintro ⟨_, belowNames, ⟨⟩, rfl, hleaf⟩
        exact ⟨(belowNames, v), hleaf, rfl⟩
  · rw [entries_mapping, List.map_flatMap]
    refine List.flatMap_congr fun entry hentry => ?_
    cases hname : keyText? entry.1 with
    | none => simp [leavesBelow, hname]
    | some name => simp [leavesBelow, hname, (h entry hentry).entries_eq]

/-- The leaves of a tree can be listed. -/
theorem exists_collects (t : Tree) : ∃ leaves, Collects t leaves := by
  induction t using Tree.induction with
  | mapping entries ih =>
    choose! leaves hleaves using ih
    exact ⟨_, collects_mapping hleaves⟩
  | _ => exact ⟨_, collects_of_ne_mapping nofun⟩

/-! ## Spellings -/

/-- Two trees that stand below keys with these names and differ in how they spell keys only: a key
may have any name with the same form, and the entries of a mapping may stand in its place, each with
the name of the mapping in front of its own. Where that name and all above it are empty, they join
nothing, and the entries keep their names. -/
inductive Respelled : List String → Tree → Tree → Prop
  | refl (above : List String) (t : Tree) : Respelled above t t
  | symm {above : List String} {t t' : Tree} : Respelled above t t' → Respelled above t' t
  | trans {above : List String} {t t' t'' : Tree} :
    Respelled above t t' → Respelled above t' t'' → Respelled above t t''
  | inside {above : List String} {key child child' : Tree} {name : String}
    (before after : List (Tree × Tree)) :
    keyText? key = some name → Respelled (above ++ [name]) child child' →
    Respelled above (.mapping (before ++ (key, child) :: after))
      (.mapping (before ++ (key, child') :: after))
  | rename {above : List String} {key key' : Tree} {name name' : String} (child : Tree)
    (before after : List (Tree × Tree)) :
    keyText? key = some name → keyText? key' = some name' →
    normalizeKey name = normalizeKey name' →
    Respelled above (.mapping (before ++ (key, child) :: after))
      (.mapping (before ++ (key', child) :: after))
  | dotted {above : List String} {key : Tree} {name : String} (inner : List (String × Tree))
    (before after : List (Tree × Tree)) :
    keyText? key = some name → flatKey (above ++ [name]) ≠ "" →
    Respelled above
      (.mapping (before ++ (key, .mapping (inner.map fun e => (.text e.1, e.2))) :: after))
      (.mapping (before ++ inner.map (fun e => (.text (name ++ "." ++ e.1), e.2)) ++ after))
  | opened {above : List String} {key : Tree} {name : String} (inner : List (String × Tree))
    (before after : List (Tree × Tree)) :
    keyText? key = some name → flatKey (above ++ [name]) = "" →
    Respelled above
      (.mapping (before ++ (key, .mapping (inner.map fun e => (.text e.1, e.2))) :: after))
      (.mapping (before ++ inner.map (fun e => (.text e.1, e.2)) ++ after))

/-- A key below a dotted name is one below two names, unless the first of them joins nothing. -/
theorem childKey_dotted {key name : String} (h : childKey key name ≠ "") (next : String) :
    childKey key (name ++ "." ++ next) = childKey (childKey key name) next := by
  have hdot : normalizeKey "." = ":" := by decide
  by_cases hkey : key = ""
  · have hname : childKey key name = normalizeKey name := by simp [childKey, hkey]
    rw [hname] at h ⊢
    simp [childKey, hkey, h, Config.normalizeKey_append, hdot]
  · simp [childKey, hkey, Config.normalizeKey_append, hdot, String.append_assoc]

theorem entries_mapping_append (key : String) (entries entries' : List (Tree × Tree)) :
    (ofTree key (.mapping (entries ++ entries'))).filterMap entry? =
      (ofTree key (.mapping entries)).filterMap entry? ++
        (ofTree key (.mapping entries')).filterMap entry? := by
  simp only [entries_mapping, List.flatMap_append]

theorem entries_mapping_cons {key : String} {name : Tree} {text : String}
    (h : keyText? name = some text) (child : Tree) (entries : List (Tree × Tree)) :
    (ofTree key (.mapping ((name, child) :: entries))).filterMap entry? =
      (ofTree (childKey key text) child).filterMap entry? ++
        (ofTree key (.mapping entries)).filterMap entry? := by
  simp only [entries_mapping, List.flatMap_cons, h]

/-- Entries with dotted names contribute what they contribute inside a mapping. -/
theorem entries_dotted {key name : String} (h : childKey key name ≠ "")
    (inner : List (String × Tree)) :
    (ofTree key (.mapping (inner.map fun e => (.text (name ++ "." ++ e.1), e.2)))).filterMap
        entry? =
      (ofTree (childKey key name) (.mapping (inner.map fun e => (.text e.1, e.2)))).filterMap
        entry? := by
  simp only [entries_mapping, List.flatMap_map, keyText?, childKey_dotted h]

/-- A respelled tree contributes the same entries. -/
theorem entries_eq_of_respelled {above : List String} {t t' : Tree} (h : Respelled above t t') :
    (ofTree (flatKey above) t).filterMap entry? = (ofTree (flatKey above) t').filterMap entry? := by
  induction h with
  | refl above t => rfl
  | symm _ ih => exact ih.symm
  | trans _ _ ih ih' => exact ih.trans ih'
  | inside before after hname _ ih =>
    -- the child stands one name deeper on both sides
    rw [← childKey_flatKey] at ih
    rw [entries_mapping_append, entries_mapping_append, entries_mapping_cons hname,
      entries_mapping_cons hname, ih]
  | @rename above _ _ name name' child before after hname hname' hform =>
    have hchild : childKey (flatKey above) name = childKey (flatKey above) name' := by
      simp only [childKey, hform]
    rw [entries_mapping_append, entries_mapping_append, entries_mapping_cons hname,
      entries_mapping_cons hname', hchild]
  | dotted inner before after hname hne =>
    rw [← childKey_flatKey] at hne
    rw [entries_mapping_append, entries_mapping_cons hname, ← entries_dotted hne,
      List.append_assoc, entries_mapping_append, entries_mapping_append]
  | @opened above _ name inner before after hname hempty =>
    -- an empty name adds nothing to a key only if the key above it is empty as well
    have habove : flatKey above = "" := by
      by_contra hne
      rw [← childKey_flatKey] at hempty
      simp [childKey, hne] at hempty
    rw [entries_mapping_append, entries_mapping_cons hname, childKey_flatKey, hempty, habove,
      List.append_assoc, entries_mapping_append, entries_mapping_append]

end ConfigItem

/-! ## Configurations -/

namespace Config

open ConfigItem (LeafAt Respelled)

theorem get?_set (c : Config) (key : String) (value : Value) (key' : String) :
    (c.set key value).get? key' =
      if normalizeKey key' = normalizeKey key then some value else c.get? key' := by
  rw [get?, set, Dictionary.get?_insert]
  rfl

/-- Of several entries for one key the last one counts. -/
theorem get?_setAll (entries : List (String × Value)) (key : String) :
    (empty.setAll entries).get? key =
      (entries.reverse.find? fun e => normalizeKey key = normalizeKey e.1).map Prod.snd := by
  induction entries using List.reverseRecOn with
  | nil => rfl
  | append_singleton entries e ih =>
    -- the entry at the end is set last, and it is the first one in the reverse list
    have hset : empty.setAll (entries ++ [e]) = (empty.setAll entries).set e.1 e.2 := by
      rw [setAll, List.foldl_append]
      rfl
    rw [hset, get?_set, ih, List.reverse_append, List.reverse_singleton, List.singleton_append,
      List.find?_cons]
    by_cases h : normalizeKey key = normalizeKey e.1 <;> simp [h]

/-- The last entry for a key, as a place in the list of all entries. -/
theorem get?_setAll_eq_some_iff {entries : List (String × Value)} {key : String} {v : Value} :
    (empty.setAll entries).get? key = some v ↔
      ∃ name, normalizeKey key = normalizeKey name ∧ ∃ before after,
        entries = before ++ (name, v) :: after ∧
          ∀ e ∈ after, normalizeKey key ≠ normalizeKey e.1 := by
  rw [get?_setAll, Option.map_eq_some_iff]
  constructor
  · rintro ⟨⟨name, v⟩, hfound, rfl⟩
    obtain ⟨hname, after, before, heq, hafter⟩ := List.find?_eq_some_iff_append.mp hfound
    refine ⟨name, by simpa using hname, before.reverse, after.reverse, ?_, ?_⟩
    · rw [← List.reverse_inj, heq]
      simp
    · simpa using hafter
  · rintro ⟨name, hname, before, after, rfl, hafter⟩
    refine ⟨(name, v), List.find?_eq_some_iff_append.mpr ⟨by simpa using hname, ?_⟩, rfl⟩
    exact ⟨after.reverse, before.reverse, by simp, by simpa using hafter⟩

/-- The entries of a tree at the top, as leaves in the order of the document. -/
theorem lists_entries (t : Tree) :
    Lists (fun pos e => ∃ names, LeafAt t pos names e.2 ∧ flatKey names = e.1)
      ((ConfigItem.ofTree "" t).filterMap ConfigItem.entry?) := by
  obtain ⟨leaves, hleaves⟩ := ConfigItem.exists_collects t
  rw [hleaves.entries_eq]
  refine (hleaves.lists.map _).congr fun pos e => ?_
  constructor
  · rintro ⟨⟨names, v⟩, hleaf, rfl⟩
    exact ⟨names, hleaf, (ConfigItem.foldl_childKey names).symm⟩
  · obtain ⟨key, v⟩ := e
    rintro ⟨names, hleaf, rfl⟩
    exact ⟨(names, v), hleaf, by rw [ConfigItem.foldl_childKey]⟩

/-- Storing entries is setting them if their keys have the form in which keys are stored. -/
theorem storeAll_eq_setAll {entries : List (String × Value)}
    (h : ∀ e ∈ entries, normalizeKey e.1 = e.1) (c : Config) :
    c.storeAll entries = c.setAll entries := by
  induction entries generalizing c with
  | nil => rfl
  | cons e entries ih =>
    obtain ⟨hfirst, hrest⟩ := List.forall_mem_cons.mp h
    have hset : (⟨c.values.insert e.1 e.2⟩ : Config) = c.set e.1 e.2 := by
      rw [set, hfirst]
    show (⟨c.values.insert e.1 e.2⟩ : Config).storeAll entries = (c.set e.1 e.2).setAll entries
    rw [hset, ih hrest]

/-- The entries of a document tree could be set as well: their keys stay as they are. -/
theorem ofTree_eq_setAll (t : Tree) :
    ofTree t = empty.setAll ((ConfigItem.ofTree "" t).filterMap ConfigItem.entry?) := by
  refine storeAll_eq_setAll (fun e he => ?_) empty
  obtain ⟨pos, names, -, hname⟩ := (lists_entries t).mem_iff.mp he
  rw [← hname, ConfigItem.normalizeKey_flatKey]

/-- A key gives the value of the last leaf that has it. -/
theorem get?_ofTree_eq_some_iff {t : Tree} {key : String} {v : Value} :
    (ofTree t).get? key = some v ↔ ∃ pos names, LeafAt t pos names v ∧
      flatKey names = normalizeKey key ∧ ∀ pos' names' v', LeafAt t pos' names' v' →
        Before pos pos' → flatKey names' ≠ normalizeKey key := by
  rw [ofTree_eq_setAll, get?_setAll_eq_some_iff]
  simp only [(lists_entries t).behind_iff]
  constructor
  · -- keys are compared in the form in which they are stored, which that of a leaf is in already
    rintro ⟨_, hname, pos, ⟨names, hleaf, rfl⟩, hlater⟩
    rw [ConfigItem.normalizeKey_flatKey] at hname
    refine ⟨pos, names, hleaf, hname.symm, fun pos' names' v' hleaf' hbefore heq => ?_⟩
    refine hlater pos' (flatKey names', v') ⟨names', hleaf', rfl⟩ hbefore ?_
    rw [ConfigItem.normalizeKey_flatKey, heq]
  · rintro ⟨pos, names, hleaf, hname, hlater⟩
    refine ⟨flatKey names, by rw [ConfigItem.normalizeKey_flatKey, hname], pos,
      ⟨names, hleaf, rfl⟩, ?_⟩
    rintro pos' ⟨_, v'⟩ ⟨names', hleaf', rfl⟩ hbefore heq
    rw [ConfigItem.normalizeKey_flatKey] at heq
    exact hlater pos' names' v' hleaf' hbefore heq.symm

/-- A key has a value exactly if a leaf has it. -/
theorem contains_ofTree_iff {t : Tree} {key : String} :
    (ofTree t).contains key = true ↔
      ∃ pos names v, LeafAt t pos names v ∧ flatKey names = normalizeKey key := by
  rw [contains, ofTree_eq_setAll, get?_setAll, Option.isSome_map, List.find?_isSome]
  constructor
  · rintro ⟨e, he, hkey⟩
    obtain ⟨pos, names, hleaf, hname⟩ := (lists_entries t).mem_iff.mp (List.mem_reverse.mp he)
    refine ⟨pos, names, e.2, hleaf, ?_⟩
    rw [of_decide_eq_true hkey, ← hname, ConfigItem.normalizeKey_flatKey]
  · rintro ⟨pos, names, v, hleaf, hname⟩
    refine ⟨(flatKey names, v), List.mem_reverse.mpr ?_, ?_⟩
    · exact (lists_entries t).mem_iff.mpr ⟨pos, names, hleaf, rfl⟩
    · rw [decide_eq_true_eq, ConfigItem.normalizeKey_flatKey, hname]

/-- What is read from a text is the configuration of the tree in the text. -/
theorem start_parse {text : String} {t : Tree} (h : Yaml.Tree.parse text = .ok t) (s : Session) :
    (parse text).start s = (.ok (ofTree t), s.logged (warnings t)) := by
  unfold parse
  split
  · next problem hproblem =>
    rw [h] at hproblem
    cases hproblem
  · next t' ht' =>
    rw [h] at ht'
    cases ht'
    rw [Action.start_bind_of_ok (Action.start_logAll (warnings t) s), Action.start_pure]

/-- A configuration read from a text is that of the tree in the text. A key has a value in it
exactly if a leaf of the tree has that key, and then it is the value of the last such leaf. Trees
that differ in how they spell keys only have one configuration. -/
theorem ofTree_flattens (t : Tree) :
    (∀ text s, Yaml.Tree.parse text = .ok t → ((parse text).start s).1 = .ok (ofTree t)) ∧
    (∀ key, (ofTree t).contains key = true ↔
      ∃ pos names v, LeafAt t pos names v ∧ flatKey names = normalizeKey key) ∧
    (∀ key v, (ofTree t).get? key = some v ↔ ∃ pos names, LeafAt t pos names v ∧
      flatKey names = normalizeKey key ∧ ∀ pos' names' v', LeafAt t pos' names' v' →
        Before pos pos' → flatKey names' ≠ normalizeKey key) ∧
    ∀ t', Respelled [] t t' → ofTree t' = ofTree t := by
  refine ⟨fun text s htext => ?_, fun key => contains_ofTree_iff,
    fun key v => get?_ofTree_eq_some_iff, fun t' h => ?_⟩
  · rw [start_parse htext]
  · have hentries := ConfigItem.entries_eq_of_respelled h
    rw [ofTree, ofTree]
    exact congrArg _ hentries.symm

/-- A document that gives a key in three spellings, the last time without a value. -/
def threeSpellings : Tree :=
  .mapping [(.text "demo", .mapping [(.text "width", .integer 640)]),
    (.text "demo.width", .integer 1280), (.text "demo:width", .null)]

/-- The last value counts, and so it does where the first spelling is dotted, too. -/
theorem ofTree_flattens_threeSpellings :
    (ofTree threeSpellings).get? "demo.width" = some (.integer 1280) ∧
      ofTree (.mapping [(.text "demo.width", .integer 640), (.text "demo.width", .integer 1280),
        (.text "demo:width", .null)]) = ofTree threeSpellings := by
  obtain ⟨-, -, hget, hspelling⟩ := ofTree_flattens threeSpellings
  constructor
  · refine (hget "demo.width" (.integer 1280)).mpr ⟨[1], ["demo.width"],
      .entry rfl rfl (.leaf (.integer (by decide) (by decide))), by decide, ?_⟩
    intro pos' names' v' hleaf hbefore
    cases hleaf with
    | leaf h => cases h
    | @entry _ i _ _ _ _ _ _ hentry _ hbelow =>
      -- the only entry behind the second one has no value
      match i, hentry with
      | 0, _ => simp [Yaml.before_cons_iff] at hbefore
      | 1, hentry =>
        cases hentry
        cases hbelow
        exact absurd hbefore (Before.irrefl _)
      | 2, hentry =>
        cases hentry
        cases hbelow with
        | leaf h => cases h
  · have hne : flatKey ([] ++ ["demo"]) ≠ "" := by decide
    exact hspelling _ (.dotted [("width", .integer 640)] [] _ rfl hne)

end Config

end DemoBuild
