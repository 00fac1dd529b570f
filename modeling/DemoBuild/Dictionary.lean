/-!
# Dictionaries

A dictionary maps texts to values. Its entries are kept in the ascending order of their keys, so
that equal dictionaries have equal entries, and all keys that start with one text stand together.
-/

namespace DemoBuild

/-- Texts with their values, in ascending order. -/
structure Dictionary (α : Type) where
  /-- The entries. -/
  entries : List (String × α)
  /-- The keys ascend, so that none occurs twice. -/
  ascending : entries.Pairwise fun a b => a.1 < b.1
  deriving DecidableEq

namespace Dictionary

variable {α : Type}

/-- Puts an entry where it belongs, in place of one with the same key. -/
def insertEntry (key : String) (value : α) : List (String × α) → List (String × α)
  | [] => [(key, value)]
  | entry :: entries =>
    if key < entry.1 then (key, value) :: entry :: entries
    else if key = entry.1 then (key, value) :: entries
    else entry :: insertEntry key value entries

/-- The entries after an insertion are the inserted one and old ones. -/
theorem mem_of_mem_insertEntry {key : String} {value : α} {entries : List (String × α)}
    {x : String × α} (h : x ∈ insertEntry key value entries) :
    x = (key, value) ∨ x ∈ entries := by
  induction entries with
  | nil => simpa [insertEntry] using h
  | cons entry entries ih =>
    simp only [insertEntry] at h
    split at h
    · simpa using h
    · split at h
      · rcases List.mem_cons.1 h with h | h
        · exact .inl h
        · exact .inr (List.mem_cons_of_mem _ h)
      · rcases List.mem_cons.1 h with h | h
        · exact .inr (h ▸ List.mem_cons_self)
        · exact (ih h).imp_right (List.mem_cons_of_mem _)

/-- Insertion keeps the keys in ascending order. -/
theorem insertEntry_ascending (key : String) (value : α) {entries : List (String × α)}
    (h : entries.Pairwise fun a b => a.1 < b.1) :
    (insertEntry key value entries).Pairwise fun a b => a.1 < b.1 := by
  induction entries with
  | nil => simp [insertEntry]
  | cons entry entries ih =>
    obtain ⟨first, rest⟩ := List.pairwise_cons.1 h
    simp only [insertEntry]
    split
    · rename_i lt
      refine List.pairwise_cons.2 ⟨fun x hx => ?_, h⟩
      rcases List.mem_cons.1 hx with rfl | hx
      · exact lt
      · exact String.lt_trans lt (first x hx)
    · split
      · rename_i eq
        exact List.pairwise_cons.2 ⟨fun x hx => eq ▸ first x hx, rest⟩
      · rename_i ge ne
        refine List.pairwise_cons.2 ⟨fun x hx => ?_, ih rest⟩
        rcases mem_of_mem_insertEntry hx with rfl | hx
        · exact Std.lt_of_le_of_ne (String.not_lt.1 ge) (Ne.symm ne)
        · exact first x hx

/-- The dictionary without entries. -/
def empty : Dictionary α :=
  ⟨[], .nil⟩

/-- The default dictionary is empty. -/
instance : Inhabited (Dictionary α) :=
  ⟨empty⟩

/-- Gives a key its value. -/
def insert (d : Dictionary α) (key : String) (value : α) : Dictionary α :=
  ⟨insertEntry key value d.entries, insertEntry_ascending _ _ d.ascending⟩

/-- The dictionary with the given entries, of which the last one for a key counts. -/
def ofList (entries : List (String × α)) : Dictionary α :=
  entries.foldl (fun d entry => d.insert entry.1 entry.2) empty

/-- The value of a key. -/
def get? (d : Dictionary α) (key : String) : Option α :=
  (d.entries.find? (·.1 = key)).map Prod.snd

/-- The keys, in ascending order. -/
def keys (d : Dictionary α) : List String :=
  d.entries.map Prod.fst

/-- The first entry whose key is not before `key`. -/
def firstFrom? (d : Dictionary α) (key : String) : Option (String × α) :=
  (d.entries.dropWhile (·.1 < key)).head?

end Dictionary

end DemoBuild
