import DemoBuild.Manifest.Reader
import DemoBuild.Manifest.Writing
import DemoBuild.Proofs.Failure

/-!
# Reading records and lists

A record is read entry by entry. What every field keeps of a record holds of the record that is
read, and a record whose entries are written under names of its fields is read field by field.

## Main definitions

* `Reader.Keeps`: reading the field keeps a property of the record;
* `Reader.Reads`: named values are stored one after the other;
* `Reader.SameBut`: two readings know the same but for one field.

## Main results

* `Reader.record_keeps`: a property that all fields keep holds of what is read;
* `Reader.record_recordTree`: a record is read back from its fields;
* `Reader.record_given`: a field can stand anywhere in a record or be known beforehand;
* `Reader.list_listTree`: a list is read back from its items.
-/

namespace DemoBuild.Yaml.Reader

open Manifest (recordTree listTree optionalTree)

variable {σ α : Type} {fields : List (Field σ)}

/-! ## Entry by entry -/

/-- What is known of a record and which fields have been seen, after one more entry. -/
def readEntry (fields : List (Field σ)) (known : σ × List String) (entry : Tree × Tree) :
    Except Mismatch (σ × List String) := do
  let name ← textAs .fieldName entry.1
  match fields.find? (·.name = name) with
  | none => return known
  | some f =>
    if name ∈ known.2 then throw (.duplicateField name)
    else return (← f.read known.1 entry.2, name :: known.2)

/-- A record is read entry by entry. -/
theorem readFields_eq_foldlM (r : σ) (seen : List String) (entries : List (Tree × Tree)) :
    readFields fields r seen entries = entries.foldlM (readEntry fields) (r, seen) := by
  induction entries generalizing r seen with
  | nil => rfl
  | cons entry entries ih =>
    obtain ⟨key, value⟩ := entry
    rw [readFields, List.foldlM_cons, readEntry, bind_assoc]
    congr 1
    funext name
    cases fields.find? (·.name = name) with
    | none => exact ih r seen
    | some f =>
      by_cases hseen : name ∈ seen
      · simp only [if_pos hseen]
        rfl
      · simp only [if_neg hseen, bind_assoc, pure_bind, ih]

/-- An entry names a field if its key is a text. -/
theorem textAs_eq_ok_iff {expected : Expected} {key : Tree} {name : String} :
    textAs expected key = .ok name ↔ key.text? = some name := by
  unfold textAs Tree.text?
  cases key.untagged <;> simp [Tree.refuse]

/-- What one more entry can do: it is left out, or it is the first one for a field. -/
theorem readEntry_eq_ok_iff {known after : σ × List String} {entry : Tree × Tree} :
    readEntry fields known entry = .ok after ↔
      ∃ name, entry.1.text? = some name ∧
        (fields.find? (·.name = name) = none ∧ known = after ∨
          ∃ f r, fields.find? (·.name = name) = some f ∧ name ∉ known.2 ∧
            f.read known.1 entry.2 = .ok r ∧ (r, name :: known.2) = after) := by
  rw [readEntry, bind_eq_ok_iff]
  simp only [textAs_eq_ok_iff]
  refine exists_congr fun name => and_congr_right fun _ => ?_
  cases hfind : fields.find? (·.name = name) with
  | none => simp [pure, Except.pure]
  | some f =>
    by_cases hseen : name ∈ known.2
    · simp [hseen, throw, throwThe, MonadExceptOf.throw]
    · simp [hseen, bind_eq_ok_iff, pure, Except.pure]

/-! ## What holds of a record -/

/-- The value of a field is read and stored. -/
theorem read_field_eq_ok_iff {name : String} {reader : Reader α} {store : σ → α → σ} {r r' : σ}
    {t : Tree} :
    (field name reader store).read r t = .ok r' ↔ ∃ a, reader t = .ok a ∧ store r a = r' := by
  change store r <$> reader t = .ok r' ↔ _
  cases reader t <;> simp [Functor.map, Except.map]

/-- Reading the field keeps the property. -/
def Keeps (P : σ → Prop) (f : Field σ) : Prop :=
  ∀ r t r', f.read r t = .ok r' → P r → P r'

/-- A field keeps a property if storing its value does. -/
theorem keeps_field {P : σ → Prop} {name : String} {reader : Reader α} {store : σ → α → σ}
    (h : ∀ r t a, reader t = .ok a → P r → P (store r a)) : Keeps P (field name reader store) := by
  intro r t r' hread hr
  obtain ⟨a, hvalue, rfl⟩ := read_field_eq_ok_iff.mp hread
  exact h r t a hvalue hr

/-- What every field keeps, an entry keeps. -/
theorem readEntry_keeps {P : σ → Prop} (hfields : ∀ f ∈ fields, Keeps P f)
    {known after : σ × List String} {entry : Tree × Tree}
    (h : readEntry fields known entry = .ok after) (hknown : P known.1) : P after.1 := by
  obtain ⟨name, -, ⟨-, rfl⟩ | ⟨f, r, hf, -, hread, rfl⟩⟩ := readEntry_eq_ok_iff.mp h
  · exact hknown
  · exact hfields f (List.mem_of_find?_eq_some hf) _ _ _ hread hknown

/-- What every entry keeps, a run over entries keeps. -/
theorem foldlM_readEntry_keeps {P : σ → Prop} (hfields : ∀ f ∈ fields, Keeps P f)
    {entries : List (Tree × Tree)} {known after : σ × List String}
    (h : entries.foldlM (readEntry fields) known = .ok after) (hknown : P known.1) : P after.1 := by
  induction entries generalizing known with
  | nil =>
    cases h
    exact hknown
  | cons entry entries ih =>
    rw [List.foldlM_cons] at h
    obtain ⟨next, hnext, hrest⟩ := bind_eq_ok_iff.mp h
    exact ih hrest (readEntry_keeps hfields hnext hknown)

/-- What holds at the start and is kept by every field holds of the record that is read. -/
theorem record_keeps {P : σ → Prop} {name : String} {required : List String} {start r : σ}
    {t : Tree} (hfields : ∀ f ∈ fields, Keeps P f) (hstart : P start)
    (h : record name fields required start t = .ok r) : P r := by
  obtain ⟨entries, -, h⟩ := bind_eq_ok_iff.mp h
  obtain ⟨⟨r', seen⟩, hread, h⟩ := bind_eq_ok_iff.mp h
  rw [readFields_eq_foldlM] at hread
  dsimp only at h
  split at h
  · cases h
  · cases h
    exact foldlM_readEntry_keeps hfields hread hstart

/-! ## What a record is read back from -/

/-- Named values are stored in a record one after the other. -/
inductive Reads (fields : List (Field σ)) : σ → List (String × Tree) → σ → Prop
  | nil {r : σ} : Reads fields r [] r
  | cons {α : Type} {name : String} {reader : Reader α} {store : σ → α → σ} {r r' : σ} {t : Tree}
      {a : α} {rest : List (String × Tree)} :
      fields.find? (·.name = name) = some (field name reader store) → reader t = .ok a →
      Reads fields (store r a) rest r' → Reads fields r ((name, t) :: rest) r'

/-- A run over named values stores them one after the other, if none has been seen before. -/
theorem foldlM_readEntry_of_reads {r r' : σ} {pairs : List (String × Tree)}
    (h : Reads fields r pairs r') (hnodup : (pairs.map Prod.fst).Nodup) {seen : List String}
    (hnew : ∀ name ∈ pairs.map Prod.fst, name ∉ seen) :
    (pairs.map fun (name, t) => (Tree.text name, t)).foldlM (readEntry fields) (r, seen) =
      .ok (r', (pairs.map Prod.fst).reverse ++ seen) := by
  induction h generalizing seen with
  | nil => rfl
  | @cons α name reader store r r' t a rest hfind hread hrest ih =>
    obtain ⟨hfirst, hnodup⟩ := List.nodup_cons.mp hnodup
    have hstep : readEntry fields (r, seen) (.text name, t) = .ok (store r a, name :: seen) :=
      readEntry_eq_ok_iff.mpr ⟨name, rfl, .inr ⟨_, _, hfind, hnew name List.mem_cons_self,
        read_field_eq_ok_iff.mpr ⟨a, hread, rfl⟩, rfl⟩⟩
    -- What has been seen grows by a name that does not come again.
    have hlater : ∀ later ∈ rest.map Prod.fst, later ∉ name :: seen := by
      intro later hlater hmem
      rcases List.mem_cons.mp hmem with rfl | hmem
      · exact hfirst hlater
      · exact hnew later (List.mem_cons_of_mem _ hlater) hmem
    have hrun := ih hnodup hlater
    rw [List.map_cons, List.foldlM_cons, hstep]
    simpa [bind, Except.bind] using hrun

/-- A record is read back from its fields. -/
theorem record_recordTree {name : String} {required : List String} {start r : σ}
    {pairs : List (String × Tree)} (h : Reads fields start pairs r)
    (hnodup : (pairs.map Prod.fst).Nodup) (hrequired : required ⊆ pairs.map Prod.fst) :
    record name fields required start (recordTree pairs) = .ok r := by
  have hrun := foldlM_readEntry_of_reads h hnodup fun _ _ => List.not_mem_nil
  have hseen : required.find? (· ∉ (pairs.map Prod.fst).reverse ++ []) = none := by
    rw [List.find?_eq_none]
    intro x hx
    simpa using hrequired hx
  rw [record]
  change (readFields fields start [] _ >>= _) = _
  rw [readFields_eq_foldlM, hrun]
  simp only [bind, Except.bind, hseen]
  rfl

/-! ## A field that is known beforehand -/

/-- The field does not notice the change of the record. -/
def Commutes (g : σ → σ) (f : Field σ) : Prop :=
  ∀ r t, f.read (g r) t = g <$> f.read r t

/-- A field does not notice a change that storing its value does not notice. -/
theorem commutes_field {g : σ → σ} {name : String} {reader : Reader α} {store : σ → α → σ}
    (h : ∀ r a, store (g r) a = g (store r a)) : Commutes g (field name reader store) := by
  intro r t
  change store (g r) <$> reader t = g <$> store r <$> reader t
  rw [← comp_map]
  congr 1
  funext a
  exact h r a

/-- Two readings of a record know the same, except for a field that only the first one can meet: the
records differ by the change, and `given` says whether the first one has met the field. -/
structure SameBut (name : String) (g : σ → σ) (given : Prop) (p q : σ × List String) : Prop where
  /-- The records differ by the change. -/
  record : q.1 = g p.1
  /-- The other fields have been seen in both or in none. -/
  seen : ∀ other ≠ name, other ∈ p.2 ↔ other ∈ q.2
  /-- The field has been met or not. -/
  given_iff : name ∈ p.2 ↔ given

section

variable {name : String} {reader : Reader α} {store : σ → α → σ}

/-- An entry for another field does the same with and without the field. -/
theorem readEntry_sameBut {g : σ → σ} {given : Prop} (hfields : ∀ f ∈ fields, Commutes g f)
    {entry : Tree × Tree} (hentry : entry.1.text? ≠ some name) {p q : σ × List String}
    (h : SameBut name g given p q) :
    Alike (SameBut name g given) (readEntry (field name reader store :: fields) p entry)
      (readEntry fields q entry) := by
  rw [readEntry, readEntry]
  cases hkey : textAs .fieldName entry.1 with
  | error e => exact .error e
  | ok other =>
    have hne : name ≠ other := by
      rintro rfl
      exact hentry (textAs_eq_ok_iff.mp hkey)
    have hskip : (field name reader store :: fields).find? (·.name = other) =
        fields.find? (·.name = other) := List.find?_cons_of_neg (by simp [field, hne])
    simp only [bind, Except.bind, hskip]
    cases hfind : fields.find? (·.name = other) with
    | none => exact .ok h
    | some f =>
      dsimp only
      by_cases hseen : other ∈ p.2
      · rw [if_pos hseen, if_pos ((h.seen other hne.symm).mp hseen)]
        exact .error _
      · rw [if_neg hseen, if_neg (mt (h.seen other hne.symm).mpr hseen), h.record,
          hfields f (List.mem_of_find?_eq_some hfind)]
        cases f.read p.1 entry.2 with
        | error e => exact .error e
        | ok r =>
          refine .ok ⟨rfl, fun another hanother => ?_, ?_⟩
          · simp [h.seen another hanother]
          · simp [hne, h.given_iff]

/-- A record is read alike whether a field stands among its entries, wherever it does, or is known
beforehand. -/
theorem record_given {fields : List (Field σ)} {first second : String} {required : List String}
    {start : σ} {value : Tree} {a : α} {before after : List (Tree × Tree)}
    (hfields : ∀ f ∈ fields, Commutes (store · a) f) (hread : reader value = .ok a)
    (hrequired : name ∉ required) (hbefore : ∀ entry ∈ before, entry.1.text? ≠ some name)
    (hafter : ∀ entry ∈ after, entry.1.text? ≠ some name) :
    record first (field name reader store :: fields) (name :: required) start
        (.mapping (before ++ (.text name, value) :: after)) =
      record second fields required (store start a) (.mapping (before ++ after)) := by
  simp only [record]
  change (readFields _ start [] (before ++ (.text name, value) :: after) >>= _) =
    (readFields fields (store start a) [] (before ++ after) >>= _)
  simp only [readFields_eq_foldlM, List.foldlM_append, List.foldlM_cons, bind_assoc]
  -- In front of the field, the records differ by its value; behind it they are the same.
  refine alike_eq_iff.mp (Alike.bind (R := SameBut name (store · a) False) ?_ fun {p q} hpq => ?_)
  · exact .foldlM (fun entry hentry _ _ h => readEntry_sameBut hfields (hbefore entry hentry) h)
      ⟨rfl, by simp, by simp⟩
  · have hstep : readEntry (field name reader store :: fields) p (.text name, value) =
        .ok (store p.1 a, name :: p.2) := by
      refine readEntry_eq_ok_iff.mpr ⟨name, rfl, .inr ⟨field name reader store, store p.1 a, ?_,
        hpq.given_iff.mp, read_field_eq_ok_iff.mpr ⟨a, hread, rfl⟩, rfl⟩⟩
      exact List.find?_cons_of_pos (by simp [field])
    -- The field itself puts the value where the second reading has had it from the start.
    rw [hstep]
    change Alike Eq (after.foldlM _ (store p.1 a, name :: p.2) >>= _) _
    have hsame : SameBut name id True (store p.1 a, name :: p.2) q :=
      ⟨hpq.record, fun other hother => by simp [hother, hpq.seen other hother], by simp⟩
    refine Alike.bind (.foldlM (fun entry hentry _ _ h =>
      readEntry_sameBut (fun f _ r t => (id_map _).symm) (hafter entry hentry) h) hsame)
      fun {p q} hpq => ?_
    -- The field has been met, so the first reading misses what the second one misses.
    have hmissing : (name :: required).find? (· ∉ p.2) = required.find? (· ∉ q.2) := by
      rw [List.find?_cons_of_neg (by simpa using hpq.given_iff)]
      rw [← List.head?_filter, ← List.head?_filter, List.filter_congr fun other hother => ?_]
      have hseen := hpq.seen other fun h => hrequired (h ▸ hother)
      exact decide_eq_decide.mpr (not_congr hseen)
    rw [hmissing, hpq.record]
    exact alike_eq_iff.mpr rfl

end

/-! ## Texts and lists -/

/-- A text is read back. -/
theorem text_text (s : String) : text (.text s) = .ok s := rfl

/-- A truth value is read back. -/
theorem bool_bool (b : Bool) : bool (.bool b) = .ok b := rfl

/-- A text that may be absent is read back. -/
theorem optional_optionalTree (s : Option String) : optional text (optionalTree s) = .ok s := by
  cases s <;> rfl

/-- Items are read back one after the other. -/
theorem mapM_map_of_forall {ι : Type} {reader : ι → Except Mismatch α} {write : α → ι}
    {items : List α} (h : ∀ a ∈ items, reader (write a) = .ok a) :
    (items.map write).mapM reader = .ok items := by
  induction items with
  | nil => rfl
  | cons a items ih =>
    rw [List.map_cons, List.mapM_cons, h a List.mem_cons_self,
      ih fun b hb => h b (List.mem_cons_of_mem _ hb)]
    rfl

/-- A list is read back from its items. -/
theorem list_listTree {reader : Reader α} {write : α → Tree}
    (h : ∀ a, reader (write a) = .ok a) (items : List α) :
    list reader (listTree write items) = .ok items :=
  mapM_map_of_forall fun a _ => h a

end DemoBuild.Yaml.Reader
