import DemoBuild.Config.Store
import DemoBuild.Proofs.Dictionary

/-!
# Sections, and what is read of a configuration

A key without a value switches something on if it is a section: if a stored key continues it behind
a colon. A reading of a configuration depends on the value of the key that is read, and this
question on the section as well; all other entries may differ.

## Main definitions

* `Config.InSection`: a key belongs to a section;
* `Config.Unrelated`: a stored key has nothing to do with a name;
* `Config.AgreeOutside`: two configurations have the same values, apart from certain keys.

## Main results

* `Config.isEnabled_eq_true_iff`: when a key switches something on;
* `Config.AgreeOutside.isEnabled_eq`: which entries decide that;
* `Config.isEnabled_by_value_or_section`: how a key is judged, and what does not matter for it;
* `Config.text?_congr` and the like: a reading depends on the value of its key.
-/

namespace DemoBuild.Config

/-! ## Sections -/

/-- The key belongs to a section: it continues the name of the section behind a colon. -/
def InSection (name key : String) : Prop :=
  (name ++ ":").toList <+: key.toList

instance (name key : String) : Decidable (InSection name key) :=
  inferInstanceAs (Decidable ((name ++ ":").toList <+: key.toList))

/-- A key belongs to one section only, unless one of two sections is within the other. -/
theorem InSection.not_inSection {name name' key : String} (h : InSection name key)
    (hapart : ¬ (name ++ ":").toList <+: (name' ++ ":").toList ∧
      ¬ (name' ++ ":").toList <+: (name ++ ":").toList) : ¬ InSection name' key := by
  intro h'
  rcases List.prefix_or_prefix_of_prefix h h' with hwithin | hwithin
  · exact hapart.1 hwithin
  · exact hapart.2 hwithin

/-- A key with a value switches something on if its value does. -/
theorem isEnabled_of_get?_eq_some {c : Config} {key : String} {value : Value}
    (h : c.get? key = some value) : c.isEnabled key = value.truthy := by
  rw [isEnabled, h]

/-- A key switches something on if its value does, or if it has none but stored keys belong to
it. -/
theorem isEnabled_eq_true_iff (c : Config) (key : String) :
    c.isEnabled key = true ↔
      (∃ value, c.get? key = some value ∧ value.truthy = true) ∨
        c.get? key = none ∧ ∃ stored ∈ c.values.keys, InSection (normalizeKey key) stored := by
  rw [isEnabled]
  cases hvalue : c.get? key with
  | some value => simp
  | none =>
    -- one entry is looked at, and it belongs to the section if any does
    have hsection := c.values.exists_firstFrom?_iff (normalizeKey key ++ ":")
    simp only [InSection, reduceCtorEq, false_and, exists_false, false_or, true_and, ← hsection]
    cases c.values.firstFrom? (normalizeKey key ++ ":") with
    | none => simp
    | some first => simp [List.isPrefixOf_iff_prefix]

/-! ## Configurations that differ in certain keys -/

/-- The configurations have the same values, apart from certain stored keys. Those may be there or
not, and have any values. -/
def AgreeOutside (hidden : String → Prop) (c c' : Config) : Prop :=
  ∀ key, ¬ hidden key → c'.values.get? key = c.values.get? key

namespace AgreeOutside

variable {hidden : String → Prop} {c c' : Config}

theorem refl (hidden : String → Prop) (c : Config) : AgreeOutside hidden c c :=
  fun _ _ => rfl

/-- Setting a key that may differ. -/
theorem set (h : AgreeOutside hidden c c') {key : String} (hkey : hidden (normalizeKey key))
    (value : Value) : AgreeOutside hidden c (c'.set key value) := by
  intro other hother
  have hne : other ≠ normalizeKey key := by
    rintro rfl
    exact hother hkey
  rw [Config.set, Dictionary.get?_insert, if_neg hne, h other hother]

/-- A key that may not differ has the same value. -/
theorem get?_eq (h : AgreeOutside hidden c c') {key : String} (hkey : ¬ hidden (normalizeKey key)) :
    c'.get? key = c.get? key :=
  h _ hkey

/-- Whether a key switches something on is decided by its value, and without one by the keys that
belong to it. -/
theorem isEnabled_eq (h : AgreeOutside hidden c c') {key : String}
    (hkey : ¬ hidden (normalizeKey key))
    (hsection : c.get? key = none → ∀ stored, InSection (normalizeKey key) stored →
      ¬ hidden stored) : c'.isEnabled key = c.isEnabled key := by
  rw [Bool.eq_iff_iff, isEnabled_eq_true_iff, isEnabled_eq_true_iff, h.get?_eq hkey]
  refine or_congr_right (and_congr_right fun hnone => exists_congr fun stored => ?_)
  rw [and_congr_left_iff]
  intro hstored
  rw [Dictionary.mem_keys_iff, Dictionary.mem_keys_iff, h stored (hsection hnone stored hstored)]

end AgreeOutside

/-! ## What decides whether a key switches something on -/

/-- A stored key has nothing to do with a name: it is another key, outside of the section. -/
def Unrelated (name stored : String) : Prop :=
  stored ≠ name ∧ ¬ InSection name stored

instance (name stored : String) : Decidable (Unrelated name stored) :=
  inferInstanceAs (Decidable (_ ∧ _))

/-- A key that goes on with anything but a colon is unrelated to what it starts with. -/
theorem unrelated_append {c : Char} (hc : c ≠ ':') (name : String) (rest : List Char) :
    Unrelated name (name ++ String.ofList (c :: rest)) := by
  constructor
  · intro heq
    have hlength := congrArg (fun text => text.toList.length) heq
    simp at hlength
  · intro hsection
    rw [InSection, String.toList_append, String.toList_append,
      List.prefix_append_right_inj] at hsection
    have hcolon : [':'] <+: c :: rest := by simpa using hsection
    exact hc (List.cons_prefix_cons.mp hcolon).1.symm

/-- A key between a name and its section is unrelated to the name. -/
theorem unrelated_of_lt {name stored : String} (hname : name < stored)
    (hsection : stored < name ++ ":") : Unrelated name stored := by
  constructor
  · rintro rfl
    exact String.lt_irrefl _ hname
  · -- what belongs to the section does not come before it
    rintro ⟨rest, hrest⟩
    rw [String.lt_iff, ← hrest] at hsection
    exact Dictionary.not_append_lt _ _ hsection

/-- A key that is stored switches something on if its value does, and one that is not does so if a
stored key belongs to its section. Entries for unrelated keys may come and go: among them are those
that have only their beginning in common with the key, and those between the key and its
section. -/
theorem isEnabled_by_value_or_section (c : Config) (key : String) :
    (∀ value, (normalizeKey key, value) ∈ c.values.entries → c.isEnabled key = value.truthy) ∧
    (normalizeKey key ∉ c.values.keys →
      (c.isEnabled key = true ↔ ∃ stored ∈ c.values.keys, InSection (normalizeKey key) stored)) ∧
    (∀ c', AgreeOutside (Unrelated (normalizeKey key)) c c' →
      c'.isEnabled key = c.isEnabled key) ∧
    (∀ char rest, char ≠ ':' → Unrelated (normalizeKey key)
      (normalizeKey key ++ String.ofList (char :: rest))) ∧
    ∀ stored, normalizeKey key < stored → stored < normalizeKey key ++ ":" →
      Unrelated (normalizeKey key) stored := by
  refine ⟨fun value hvalue => ?_, fun hnone => ?_, fun c' h => ?_,
    fun char rest hchar => unrelated_append hchar _ rest, fun stored => unrelated_of_lt⟩
  · exact isEnabled_of_get?_eq_some (Dictionary.get?_eq_some_iff.mpr hvalue)
  · have hget : c.get? key = none := by
      rw [Dictionary.mem_keys_iff, not_exists] at hnone
      exact Option.eq_none_iff_forall_ne_some.mpr hnone
    rw [isEnabled_eq_true_iff, hget]
    simp
  · -- neither the key nor a key of its section is unrelated
    refine h.isEnabled_eq (fun hself => hself.1 rfl) fun _ stored hstored hunrelated => ?_
    exact hunrelated.2 hstored

/-- A configuration with a section, a switch that is off, and a key that comes before the
section. -/
def aroundServer : Config :=
  ((empty.set "server.port" (.integer 3000)).set "capture" (.bool false)).set "server-x"
    (.bool false)

/-- A section switches its key on, whatever a key in front of it says; without the section, such
a key switches nothing on, and a stored value decides for itself. -/
theorem isEnabled_by_value_or_section_server :
    aroundServer.isEnabled "server" = true ∧
      (aroundServer.set "server0" (.text "on")).isEnabled "server" = true ∧
      aroundServer.isEnabled "serve" = false ∧ aroundServer.isEnabled "capture" = false := by
  obtain ⟨-, hsection, hagree, happend, -⟩ := isEnabled_by_value_or_section aroundServer "server"
  obtain ⟨-, hnone, -⟩ := isEnabled_by_value_or_section aroundServer "serve"
  obtain ⟨hvalue, -⟩ := isEnabled_by_value_or_section aroundServer "capture"
  have hserver : aroundServer.isEnabled "server" = true :=
    (hsection (by decide +kernel)).mpr ⟨"server:port", by decide +kernel, by decide⟩
  refine ⟨hserver, ?_, ?_, hvalue (.bool false) (List.mem_of_getElem? (i := 0) rfl)⟩
  · rw [← hserver]
    exact hagree _ ((AgreeOutside.refl _ _).set (happend '0' [] (by decide)) _)
  · rw [← Bool.not_eq_true, hnone (by decide +kernel)]
    decide +kernel

/-! ## Readings -/

section

variable {c c' : Config} {key : String}

theorem contains_congr (h : c'.get? key = c.get? key) : c'.contains key = c.contains key := by
  rw [contains, contains, h]

theorem text?_congr (h : c'.get? key = c.get? key) : c'.text? key = c.text? key := by
  rw [text?, text?, h]

theorem flag_congr (h : c'.get? key = c.get? key) : c'.flag key = c.flag key := by
  rw [flag, flag, h]

theorem texts_congr (h : c'.get? key = c.get? key) : c'.texts key = c.texts key := by
  rw [texts, texts, h]

theorem integer?_congr (h : c'.get? key = c.get? key) : c'.integer? key = c.integer? key := by
  rw [integer?, integer?, h]

theorem number?_congr (h : c'.get? key = c.get? key) : c'.number? key = c.number? key := by
  rw [number?, number?, h]

theorem needText_congr (h : c'.get? key = c.get? key) : c'.needText key = c.needText key := by
  rw [needText, needText, text?_congr h]

theorem path_congr (h : c'.get? key = c.get? key) : c'.path key = c.path key := by
  rw [path, path, needText_congr h]

/-- Which keys are missing depends on the keys that are needed. -/
theorem require_congr {keys : List String} (h : ∀ key ∈ keys, c'.get? key = c.get? key) :
    c'.require keys = c.require keys := by
  have hmissing : (keys.filter fun key => !c'.contains key) =
      keys.filter fun key => !c.contains key :=
    List.filter_congr fun key hkey => by rw [contains_congr (h key hkey)]
  rw [require, require, hmissing]

end

end DemoBuild.Config
