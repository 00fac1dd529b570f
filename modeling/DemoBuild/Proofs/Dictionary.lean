import DemoBuild.Dictionary
import Mathlib.Data.List.Basic

/-!
# Looking things up in dictionaries

A dictionary gives for each key what has been inserted last under it, and it is made from its
entries. All keys that start with one text stand together, so a single entry tells whether there are
any.

## Main results

* `Dictionary.get?_insert`: a lookup after an insertion;
* `Dictionary.get?_eq_some_iff`: a key gives the value of its entry;
* `Dictionary.exists_firstFrom?_iff`: whether keys start with a text;
* `Dictionary.ofList_entries`: a dictionary is made from its entries.
-/

namespace DemoBuild.Dictionary

variable {α : Type}

/-! ## Insertions and lookups -/

/-- The first entry for a key after an insertion is the inserted one, if it is for that key. The
entries need not ascend: an insertion goes in front of every entry with the same key. -/
theorem find?_insertEntry (key : String) (value : α) (entries : List (String × α)) (key' : String) :
    (insertEntry key value entries).find? (·.1 = key') =
      if key' = key then some (key, value) else entries.find? (·.1 = key') := by
  have hinserted (rest : List (String × α)) : ((key, value) :: rest).find? (·.1 = key') =
      if key' = key then some (key, value) else rest.find? (·.1 = key') := by
    rw [List.find?_cons, eq_comm]
    by_cases h : key' = key
    · simp [h]
    · simp [h, Ne.symm h]
  induction entries with
  | nil => exact hinserted []
  | cons entry entries ih =>
    by_cases hlt : key < entry.1
    · rw [insertEntry, if_pos hlt]
      exact hinserted (entry :: entries)
    by_cases heq : key = entry.1
    · -- the entry that is replaced would be found under the same key
      rw [insertEntry, if_neg hlt, if_pos heq, hinserted]
      by_cases h : key' = key
      · rw [if_pos h, if_pos h]
      · have hne : entry.1 ≠ key' := fun hentry => h (hentry.symm.trans heq.symm)
        rw [if_neg h, if_neg h, List.find?_cons_of_neg (by simpa using hne)]
    · rw [insertEntry, if_neg hlt, if_neg heq]
      by_cases hentry : entry.1 = key'
      · have hne : key' ≠ key := fun h => heq (h.symm.trans hentry.symm)
        rw [if_neg hne, List.find?_cons_of_pos (by simpa using hentry),
          List.find?_cons_of_pos (by simpa using hentry)]
      · rw [List.find?_cons_of_neg (by simpa using hentry), ih,
          List.find?_cons_of_neg (by simpa using hentry)]

/-- An insertion changes what its key gives, and nothing else. -/
theorem get?_insert (d : Dictionary α) (key : String) (value : α) (key' : String) :
    (d.insert key value).get? key' = if key' = key then some value else d.get? key' := by
  rw [get?, insert, find?_insertEntry, apply_ite (Option.map Prod.snd)]
  rfl

/-- A key gives the value of its entry, for no other entry has the same key. -/
theorem get?_eq_some_iff {d : Dictionary α} {key : String} {value : α} :
    d.get? key = some value ↔ (key, value) ∈ d.entries := by
  obtain ⟨entries, ascending⟩ := d
  rw [get?, Option.map_eq_some_iff]
  constructor
  · rintro ⟨⟨found, _⟩, hfound, rfl⟩
    have hkey : found = key := by simpa using List.find?_some hfound
    rw [← hkey]
    exact List.mem_of_find?_eq_some hfound
  · intro hmem
    refine ⟨(key, value), ?_, rfl⟩
    induction entries with
    | nil => cases hmem
    | cons entry entries ih =>
      obtain ⟨hbefore, hascending⟩ := List.pairwise_cons.mp ascending
      rcases List.mem_cons.mp hmem with rfl | hlater
      · rw [List.find?_cons_of_pos (by simp)]
      · -- the keys ascend, so an entry in front of this one has another key
        have hne : entry.1 ≠ key := fun heq => String.lt_irrefl _ (heq ▸ hbefore _ hlater)
        rw [List.find?_cons_of_neg (by simpa using hne), ih hascending hlater]

/-- A key is one of a dictionary if it has a value. -/
theorem mem_keys_iff {d : Dictionary α} {key : String} :
    key ∈ d.keys ↔ ∃ value, d.get? key = some value := by
  rw [← Option.isSome_iff_exists, get?, Option.isSome_map, List.find?_isSome, keys, List.mem_map]
  simp only [decide_eq_true_eq]

/-- An insertion adds its key. -/
theorem mem_keys_insert_iff {d : Dictionary α} {key : String} {value : α} {key' : String} :
    key' ∈ (d.insert key value).keys ↔ key' = key ∨ key' ∈ d.keys := by
  rw [mem_keys_iff, mem_keys_iff, get?_insert]
  by_cases h : key' = key <;> simp [h]

/-! ## The order of the keys -/

/-- A text does not come before its starts. -/
theorem not_append_lt (start rest : List Char) : ¬ start ++ rest < start := by
  induction start with
  | nil => exact List.not_lt_nil _
  | cons c start ih =>
    rw [List.cons_append, List.cons_lt_cons_iff]
    rintro (hlt | ⟨-, hlt⟩)
    · exact Char.lt_irrefl c hlt
    · exact ih hlt

/-- What is not before a text, and not behind an extension of it, starts with the text. -/
theorem isPrefix_of_not_lt {start rest key : List Char} (h : ¬ key < start)
    (h' : ¬ start ++ rest < key) : start <+: key := by
  induction start generalizing key with
  | nil => exact List.nil_prefix
  | cons c start ih =>
    cases key with
    | nil => exact absurd (List.nil_lt_cons c start) h
    | cons d key =>
      rw [List.cons_lt_cons_iff, not_or] at h
      rw [List.cons_append, List.cons_lt_cons_iff, not_or] at h'
      -- the first characters are equal, for neither of them is less
      have hchar : c = d := Char.le_antisymm (Char.not_lt.mp h.1) (Char.not_lt.mp h'.1)
      subst hchar
      rw [List.cons_prefix_cons]
      exact ⟨rfl, ih (fun hlt => h.2 ⟨rfl, hlt⟩) fun hlt => h'.2 ⟨rfl, hlt⟩⟩

/-- The first entry from a text on starts with the text if any entry does: those that do stand
together, in front of all others that are not before the text. -/
theorem exists_firstFrom?_iff (d : Dictionary α) (start : String) :
    (∃ entry, d.firstFrom? start = some entry ∧ start.toList <+: entry.1.toList) ↔
      ∃ key ∈ d.keys, start.toList <+: key.toList := by
  obtain ⟨entries, ascending⟩ := d
  rw [firstFrom?, keys]
  constructor
  · rintro ⟨entry, hfirst, hstart⟩
    have hmem : entry ∈ entries.dropWhile (·.1 < start) := List.mem_of_mem_head? hfirst
    exact ⟨entry.1, List.mem_map_of_mem ((List.dropWhile_sublist _).subset hmem), hstart⟩
  · rintro ⟨_, hkey, hstart⟩
    obtain ⟨found, hfound, rfl⟩ := List.mem_map.mp hkey
    clear hkey
    obtain ⟨rest, hrest⟩ := hstart
    induction entries with
    | nil => cases hfound
    | cons entry entries ih =>
      obtain ⟨hbefore, hascending⟩ := List.pairwise_cons.mp ascending
      by_cases hlt : entry.1 < start
      · -- an entry before the text is passed over, and it is not the one that starts with it
        rw [List.dropWhile_cons_of_pos (by simpa using hlt)]
        have hne : found ≠ entry := by
          rintro rfl
          rw [String.lt_iff, ← hrest] at hlt
          exact not_append_lt _ _ hlt
        exact ih hascending (List.mem_of_ne_of_mem hne hfound)
      · rw [List.dropWhile_cons_of_neg (by simpa using hlt)]
        refine ⟨entry, rfl, ?_⟩
        rcases List.mem_cons.mp hfound with rfl | hlater
        · exact ⟨rest, hrest⟩
        · have hbehind : ¬ found.1 < entry.1 := String.lt_asymm (hbefore found hlater)
          rw [String.lt_iff] at hlt hbehind
          rw [← hrest] at hbehind
          exact isPrefix_of_not_lt hlt hbehind

/-! ## Dictionaries from entries -/

/-- A key behind all others is put at the end. -/
theorem insertEntry_of_forall_lt {key : String} {value : α} {entries : List (String × α)}
    (h : ∀ entry ∈ entries, entry.1 < key) :
    insertEntry key value entries = entries ++ [(key, value)] := by
  induction entries with
  | nil => rfl
  | cons entry entries ih =>
    obtain ⟨hfirst, hrest⟩ := List.forall_mem_cons.mp h
    have hne : key ≠ entry.1 := fun heq => String.lt_irrefl _ (heq ▸ hfirst)
    rw [insertEntry, if_neg (String.lt_asymm hfirst), if_neg hne, ih hrest, List.cons_append]

/-- Entries that ascend behind those of a dictionary are put behind them. -/
theorem entries_foldl_insert {entries : List (String × α)} {d : Dictionary α}
    (h : (d.entries ++ entries).Pairwise fun a b => a.1 < b.1) :
    (entries.foldl (fun d entry => d.insert entry.1 entry.2) d).entries = d.entries ++ entries := by
  induction entries generalizing d with
  | nil => simp
  | cons entry entries ih =>
    have hlast : ∀ earlier ∈ d.entries, earlier.1 < entry.1 := fun earlier hearlier =>
      (List.pairwise_append.mp h).2.2 earlier hearlier entry List.mem_cons_self
    have hinsert : (d.insert entry.1 entry.2).entries = d.entries ++ [entry] :=
      insertEntry_of_forall_lt hlast
    rw [List.foldl_cons, ih (by simpa [hinsert] using h), hinsert]
    simp

/-- A dictionary is made from its entries. -/
theorem ofList_entries (d : Dictionary α) : ofList d.entries = d := by
  have hentries : (ofList d.entries).entries = d.entries := by
    rw [ofList, entries_foldl_insert (by simpa [empty] using d.ascending)]
    rfl
  -- Besides its entries a dictionary holds a proof only, so the entries decide.
  obtain ⟨entries, ascending⟩ := d
  cases h : ofList entries with
  | mk entries' ascending' =>
    rw [h] at hentries
    subst hentries
    rfl

end DemoBuild.Dictionary
