import DemoBuild.Proofs.Config.Load
import DemoBuild.Proofs.Config.Section

/-!
# What has been written to a configuration

A configuration holds, for each key, the value that has been written last under one of its
spellings. A write is a call that sets a value, or an entry of a layer that the configuration starts
with: a leaf of its document, a setting of the environment, or a default, which is written only
where nothing else has been. So a configuration is what a single run of its writes would give, and
as each of them brings its key into the form with `:`, a reading that does so too does not miss any.

## Main definitions

* `Config.ReadAlike`: two keys are read alike, up to how a failure spells them;
* `Config.Reachable`: the configurations that there can be;
* `Config.Written`: a configuration with its writes, oldest first.

## Main results

* `Config.readAlike_of_normalizeKey_eq`: spellings of one key are read alike;
* `Config.mem_keys_setAll_iff`: the keys that are stored;
* `Config.fillAll_setAll`: defaults are writes;
* `Config.Written.eq_setAll`: a configuration is made of its writes;
* `Config.lastWrite_of_reachable`: what a configuration gives, and which spellings it keeps apart.
-/

namespace DemoBuild.Config

open Yaml (Tree Lists)
open ConfigItem (LeafAt)

/-! ## Spellings of a key -/

/-- A key in its form has no dot. -/
theorem dot_not_mem_normalizeKey (key : String) : '.' ∉ (normalizeKey key).toList := by
  rw [normalizeKey, String.toList_ofList, List.mem_map]
  rintro ⟨c, -, hc⟩
  by_cases h : c = '.'
  · simp [h] at hc
  · rw [if_neg h] at hc
    exact h hc

/-- Readings of one value under two spellings of its key: they give the same, or fail in the same
way, where each names the key as it was spelled. -/
inductive SameUpToKey (key key' : String) {α : Type} : Except Error α → Except Error α → Prop
  | ok (a : α) : SameUpToKey key key' (.ok a) (.ok a)
  | invalid (expected : ValueShape) :
    SameUpToKey key key' (.error (.invalidConfig key expected))
      (.error (.invalidConfig key' expected))
  | missing :
    SameUpToKey key key' (.error (.missingConfig [key])) (.error (.missingConfig [key']))

/-- Two keys are read alike in a configuration. -/
structure ReadAlike (c : Config) (key key' : String) : Prop where
  /-- They give the same value. -/
  get? : c.get? key = c.get? key'
  /-- Both have a value, or none has. -/
  contains : c.contains key = c.contains key'
  /-- They switch on the same. -/
  isEnabled : c.isEnabled key = c.isEnabled key'
  /-- Their values switch on the same. -/
  flag : c.flag key = c.flag key'
  /-- They give the same texts. -/
  texts : c.texts key = c.texts key'
  /-- They give the same text. -/
  text? : SameUpToKey key key' (c.text? key) (c.text? key')
  /-- They give the same integer. -/
  integer? : SameUpToKey key key' (c.integer? key) (c.integer? key')
  /-- They give the same number. -/
  number? : SameUpToKey key key' (c.number? key) (c.number? key')
  /-- They give the same path. -/
  path : SameUpToKey key key' (c.path key) (c.path key')

section

variable (c : Config) {key key' : String}

theorem sameUpToKey_text? (h : c.get? key = c.get? key') :
    SameUpToKey key key' (c.text? key) (c.text? key') := by
  rw [text?, text?, h]
  cases c.get? key' with
  | none => exact .ok _
  | some value =>
    cases value with
    | list values => exact .invalid .text
    | _ => exact .ok _

theorem sameUpToKey_integer? (h : c.get? key = c.get? key') :
    SameUpToKey key key' (c.integer? key) (c.integer? key') := by
  rw [integer?, integer?, h]
  cases c.get? key' with
  | none => exact .ok _
  | some value =>
    simp only
    cases value.integer? with
    | none => exact .invalid .integer
    | some n => exact .ok _

theorem sameUpToKey_number? (h : c.get? key = c.get? key') :
    SameUpToKey key key' (c.number? key) (c.number? key') := by
  rw [number?, number?, h]
  cases c.get? key' with
  | none => exact .ok _
  | some value =>
    simp only
    cases value.number? with
    | none => exact .invalid .number
    | some x => exact .ok _

/-- A path is missing where there is no text. -/
theorem sameUpToKey_path (h : c.get? key = c.get? key') :
    SameUpToKey key key' (c.path key) (c.path key') := by
  have htext := sameUpToKey_text? c h
  rw [path, path, needText, needText]
  generalize c.text? key = text, c.text? key' = text' at htext
  cases htext with
  | ok text? =>
    cases text? with
    | none => exact .missing
    | some text => exact .ok _
  | invalid expected => exact .invalid expected
  | missing => exact .missing

/-- Spellings of one key are read alike: all readings bring the key into its form first. -/
theorem readAlike_of_normalizeKey_eq (h : normalizeKey key = normalizeKey key') :
    ReadAlike c key key' := by
  have hget : c.get? key = c.get? key' := by
    rw [Config.get?, Config.get?, h]
  refine ⟨hget, ?_, ?_, ?_, ?_, sameUpToKey_text? c hget, sameUpToKey_integer? c hget,
    sameUpToKey_number? c hget, sameUpToKey_path c hget⟩
  · rw [Config.contains, Config.contains, hget]
  · -- the section has the same name, too
    rw [Config.isEnabled, Config.isEnabled, hget, h]
  · rw [Config.flag, Config.flag, hget]
  · rw [Config.texts, Config.texts, hget]

end

/-! ## Writes one after the other -/

theorem setAll_setAll (c : Config) (entries more : List (String × Value)) :
    (c.setAll entries).setAll more = c.setAll (entries ++ more) :=
  List.foldl_append.symm

/-- Writing puts a key into its form among those that are stored. -/
theorem mem_keys_set_iff {c : Config} {key : String} {value : Value} {stored : String} :
    stored ∈ (c.set key value).values.keys ↔ stored = normalizeKey key ∨ stored ∈ c.values.keys :=
  Dictionary.mem_keys_insert_iff

/-- The stored keys are those that have been written, in their form. -/
theorem mem_keys_setAll_iff {writes : List (String × Value)} {stored : String} :
    stored ∈ (empty.setAll writes).values.keys ↔ ∃ w ∈ writes, normalizeKey w.1 = stored := by
  -- the last write is the one that meets all keys that have been stored
  induction writes using List.reverseRecOn with
  | nil => exact ⟨nofun, fun ⟨_, hw, _⟩ => nomatch hw⟩
  | append_singleton writes w ih =>
    have hset : empty.setAll (writes ++ [w]) = (empty.setAll writes).set w.1 w.2 :=
      (setAll_setAll empty writes [w]).symm
    rw [hset, mem_keys_set_iff, ih]
    constructor
    · rintro (rfl | ⟨w', hw', hstored⟩)
      · exact ⟨w, by simp, rfl⟩
      · exact ⟨w', by simp [hw'], hstored⟩
    · rintro ⟨w', hw', rfl⟩
      rcases List.mem_append.mp hw' with hearlier | hlast
      · exact .inr ⟨w', hearlier, rfl⟩
      · rw [List.mem_singleton.mp hlast]
        exact .inl rfl

/-- A key has a value if it has been written. -/
theorem contains_setAll_iff {writes : List (String × Value)} {key : String} :
    (empty.setAll writes).contains key = true ↔
      ∃ w ∈ writes, normalizeKey w.1 = normalizeKey key := by
  rw [← mem_keys_setAll_iff, Dictionary.mem_keys_iff, contains, Option.isSome_iff_exists]
  rfl

/-- The entries for keys that have not been written. -/
def unwritten (writes entries : List (String × Value)) : List (String × Value) :=
  entries.filter fun e => ∀ w ∈ writes, normalizeKey w.1 ≠ normalizeKey e.1

/-- Filling in entries for different keys is writing those that have not been written. -/
theorem fillAll_setAll {entries : List (String × Value)}
    (h : entries.Pairwise fun e e' => normalizeKey e.1 ≠ normalizeKey e'.1)
    (writes : List (String × Value)) :
    (empty.setAll writes).fillAll entries =
      empty.setAll (writes ++ unwritten writes entries) := by
  induction entries generalizing writes with
  | nil => simp [fillAll, unwritten]
  | cons e entries ih =>
    obtain ⟨hfirst, hrest⟩ := List.pairwise_cons.mp h
    show ((empty.setAll writes).setDefault e.1 e.2).fillAll entries = _
    by_cases hopen : ∀ w ∈ writes, normalizeKey w.1 ≠ normalizeKey e.1
    · have hset : (empty.setAll writes).setDefault e.1 e.2 = empty.setAll (writes ++ [e]) := by
        have hcontains : ¬ (empty.setAll writes).contains e.1 = true := by
          rw [contains_setAll_iff]
          rintro ⟨w, hw, heq⟩
          exact hopen w hw heq
        rw [setDefault, if_neg hcontains, ← setAll_setAll]
        rfl
      -- the entry that is written is for none of the keys that follow
      have hlater : unwritten (writes ++ [e]) entries = unwritten writes entries := by
        refine List.filter_congr fun e' he' => ?_
        rw [decide_eq_decide, List.forall_mem_append, List.forall_mem_singleton]
        exact and_iff_left (hfirst e' he')
      have hhere : unwritten writes (e :: entries) = e :: unwritten writes entries :=
        List.filter_cons_of_pos (by simpa using hopen)
      rw [hset, ih hrest, hlater, hhere, List.append_assoc, List.singleton_append]
    · have hcontains : (empty.setAll writes).contains e.1 = true := by
        rw [contains_setAll_iff]
        simpa using hopen
      have hhere : unwritten writes (e :: entries) = unwritten writes entries :=
        List.filter_cons_of_neg (by simpa using hopen)
      rw [setDefault, if_pos hcontains, ih hrest, hhere]

/-- The defaults are for different keys. -/
theorem pairwise_defaults (root : Path) :
    (defaults root).Pairwise fun e e' => normalizeKey e.1 ≠ normalizeKey e'.1 := by
  have hkeys : ((defaults root).map Prod.fst).Pairwise
      fun key key' => normalizeKey key ≠ normalizeKey key' := by
    rw [map_fst_defaults]
    decide
  rw [List.pairwise_map] at hkeys
  exact hkeys

/-! ## Histories -/

/-- The entries are the leaves of a document with their keys, in the order of the document. Without
a document there are none. -/
def LeafEntries (t? : Option Tree) (entries : List (String × Value)) : Prop :=
  match t? with
  | some t => Lists (fun pos e => ∃ names, LeafAt t pos names e.2 ∧ flatKey names = e.1) entries
  | none => entries = []

theorem exists_leafEntries (t? : Option Tree) : ∃ entries, LeafEntries t? entries := by
  cases t? with
  | some t => exact ⟨_, lists_entries t⟩
  | none => exact ⟨[], rfl⟩

/-- The configuration of a document is made of its leaves. -/
theorem ofDocument_eq_setAll {t? : Option Tree} {entries : List (String × Value)}
    (h : LeafEntries t? entries) : ofDocument t? = empty.setAll entries := by
  cases t? with
  | some t =>
    rw [Lists.unique h (lists_entries t)]
    exact ofTree_eq_setAll t
  | none =>
    rw [show entries = [] from h]
    rfl

/-- The configurations that there can be: one without entries, what is read from a text, that of a
demo, and what values are set in. -/
inductive Reachable : Config → Prop
  | empty : Reachable empty
  | parse {text : String} {s : Session} {c : Config} :
    ((parse text).start s).1 = .ok c → Reachable c
  | init {env : Environment} {root : Path} {s : Session} {c : Config} :
    ((init env root).start s).1 = .ok c → Reachable c
  | set {c : Config} (key : String) (value : Value) : Reachable c → Reachable (c.set key value)

/-- A configuration with all that has been written to it, oldest first. -/
inductive Written : Config → List (String × Value) → Prop
  | empty : Written empty []
  | parse {text : String} {s : Session} {t : Tree} {c : Config} {leaves : List (String × Value)} :
    Tree.parse text = .ok t → ((parse text).start s).1 = .ok c → LeafEntries (some t) leaves →
    Written c leaves
  | init {env : Environment} {root : Path} {s : Session} {t? : Option Tree} {c : Config}
    {leaves : List (String × Value)} :
    DocumentAt s.files root t? → ((init env root).start s).1 = .ok c → LeafEntries t? leaves →
    Written c (leaves ++ env.entries ++ unwritten (leaves ++ env.entries) (defaults root))
  | set {c : Config} {writes : List (String × Value)} (key : String) (value : Value) :
    Written c writes → Written (c.set key value) (writes ++ [(key, value)])

/-- A text from which a configuration is read is a document. -/
theorem exists_tree_of_parse {text : String} {s : Session} {c : Config}
    (h : ((parse text).start s).1 = .ok c) : ∃ t, Tree.parse text = .ok t := by
  unfold parse at h
  split at h
  · cases h
  · next t ht => exact ⟨t, ht⟩

/-- The configuration of a demo is there only if its document can be read, unless it has none. -/
theorem exists_documentAt_of_init {env : Environment} {root : Path} {s : Session} {c : Config}
    (h : ((init env root).start s).1 = .ok c) : ∃ t?, DocumentAt s.files root t? := by
  obtain ⟨document?, hload, -⟩ := Action.exists_of_fst_start_bind_eq_ok h
  obtain ⟨files, hfiles, hload⟩ := Action.exists_of_fst_start_bind_eq_ok hload
  obtain rfl := Except.ok.inj hfiles
  cases hfile : s.files.isFile (root.join fileName) with
  | false => exact ⟨none, .absent hfile⟩
  | true =>
    -- there is no configuration unless the file has been read and parsed
    rw [if_pos hfile] at hload
    obtain ⟨text, hread, hload⟩ := Action.exists_of_fst_start_bind_eq_ok hload
    obtain ⟨c', hparse, -⟩ := Action.exists_of_fst_start_bind_eq_ok hload
    obtain ⟨t, ht⟩ := exists_tree_of_parse hparse
    rw [Action.start_files, Action.start_read, mapError_eq_ok_iff] at hread
    exact ⟨some t, .present hread ht⟩

/-- Each configuration has a history. -/
theorem Reachable.exists_written {c : Config} (h : Reachable c) : ∃ writes, Written c writes := by
  induction h with
  | empty => exact ⟨_, .empty⟩
  | @parse text s c h =>
    obtain ⟨t, ht⟩ := exists_tree_of_parse h
    obtain ⟨leaves, hleaves⟩ := exists_leafEntries (some t)
    exact ⟨_, .parse ht h hleaves⟩
  | @init env root s c h =>
    obtain ⟨t?, ht⟩ := exists_documentAt_of_init h
    obtain ⟨leaves, hleaves⟩ := exists_leafEntries t?
    exact ⟨_, .init ht h hleaves⟩
  | set key value _ ih =>
    obtain ⟨writes, hwrites⟩ := ih
    exact ⟨_, .set key value hwrites⟩

/-- A configuration is made of its writes. -/
theorem Written.eq_setAll {c : Config} {writes : List (String × Value)} (h : Written c writes) :
    c = Config.empty.setAll writes := by
  induction h with
  | empty => rfl
  | @parse text s t c leaves ht h hleaves =>
    rw [start_parse ht] at h
    rw [← ofDocument_eq_setAll hleaves, ← Except.ok.inj h]
    rfl
  | @init env root s t? c leaves ht h hleaves =>
    rw [start_init env ht] at h
    -- the environment is written behind the document, and defaults where nothing has been written
    rw [← Except.ok.inj h, ofDocument_eq_setAll hleaves, setAll_setAll]
    exact fillAll_setAll (pairwise_defaults root) _
  | @set c writes key value _ ih =>
    rw [← setAll_setAll, ← ih]
    rfl

/-- The value is the one of the last write under a spelling of the key. -/
def LastWrite (writes : List (String × Value)) (key : String) (value : Value) : Prop :=
  ∃ before name after, writes = before ++ (name, value) :: after ∧
    normalizeKey name = normalizeKey key ∧ ∀ later ∈ after, normalizeKey later.1 ≠ normalizeKey key

/-- A key gives its last write. -/
theorem get?_setAll_eq_some_iff_lastWrite {writes : List (String × Value)} {key : String}
    {value : Value} :
    (Config.empty.setAll writes).get? key = some value ↔ LastWrite writes key value := by
  rw [get?_setAll_eq_some_iff]
  constructor
  · rintro ⟨name, hname, before, after, hwrites, hafter⟩
    exact ⟨before, name, after, hwrites, hname.symm, fun later hlater => (hafter later hlater).symm⟩
  · rintro ⟨before, name, after, hwrites, hname, hafter⟩
    exact ⟨name, hname.symm, before, after, hwrites, fun later hlater => (hafter later hlater).symm⟩

/-- A key that has not been written gives nothing. -/
theorem get?_setAll_eq_none_iff {writes : List (String × Value)} {key : String} :
    (Config.empty.setAll writes).get? key = none ↔
      ∀ w ∈ writes, normalizeKey w.1 ≠ normalizeKey key := by
  rw [← Option.not_isSome_iff_eq_none]
  show ¬ (Config.empty.setAll writes).contains key = true ↔ _
  rw [contains_setAll_iff, not_exists]
  exact forall_congr' fun w => not_and

/-- Every configuration has a history of writes, and whatever has been written to it, a key gives
the value of its last write, under whichever spelling that was, and nothing if there was none. No
stored key has a dot, so spellings of one key are read alike, up to how a failure names the key.
Setting a value changes what other keys give in no way. -/
theorem lastWrite_of_reachable {c : Config} (h : Reachable c) :
    (∃ writes, Written c writes) ∧
    (∀ writes, Written c writes → ∀ key,
      (∀ value, c.get? key = some value ↔ LastWrite writes key value) ∧
      (c.get? key = none ↔ ∀ w ∈ writes, normalizeKey w.1 ≠ normalizeKey key)) ∧
    (∀ stored ∈ c.values.keys, '.' ∉ stored.toList) ∧
    (∀ key key', normalizeKey key = normalizeKey key' → ReadAlike c key key') ∧
    ∀ key value key', normalizeKey key' ≠ normalizeKey key →
      (c.set key value).get? key' = c.get? key' := by
  obtain ⟨writes, hwrites⟩ := h.exists_written
  refine ⟨⟨writes, hwrites⟩, fun writes hwrites key => ?_, fun stored hstored => ?_,
    fun key key' => readAlike_of_normalizeKey_eq c, fun key value key' hne => ?_⟩
  · rw [hwrites.eq_setAll]
    exact ⟨fun value => get?_setAll_eq_some_iff_lastWrite, get?_setAll_eq_none_iff⟩
  · -- a stored key is the form of one that has been written
    rw [hwrites.eq_setAll, mem_keys_setAll_iff] at hstored
    obtain ⟨w, -, rfl⟩ := hstored
    exact dot_not_mem_normalizeKey w.1
  · rw [get?_set, if_neg hne]

/-- In the configuration of a demo a directory is set again, in another spelling than that of the
document. -/
theorem lastWrite_of_reachable_nestedBuild :
    ∃ c, ((init { executable := some "" } ⟨"demo"⟩).start
        (withDocument "paths:\n  build: out\n")).1 = .ok c ∧
      ((c.set "paths.build" (.text "bin")).set "title" (.bool true)).get? "paths:build" =
        some (.text "bin") ∧
      (c.set "paths.build" (.text "bin")).get? "paths:exe" = c.get? "paths:exe" ∧
      SameUpToKey "tools.cl" "tools:cl" (c.path "tools.cl") (c.path "tools:cl") := by
  have hstart := start_init { executable := some "" } documentAt_nestedBuild
  obtain ⟨leaves, hleaves⟩ := exists_leafEntries (some nestedBuild)
  have hinit := congrArg Prod.fst hstart
  have hwritten := Written.init documentAt_nestedBuild hinit hleaves
  refine ⟨_, hinit, ?_, ?_, ?_⟩
  · obtain ⟨-, hget, -⟩ :=
      lastWrite_of_reachable (((Reachable.init hinit).set "paths.build" (.text "bin")).set "title"
        (.bool true))
    refine ((hget _ ((hwritten.set _ _).set _ _) "paths:build").1 _).mpr ?_
    exact ⟨_, "paths.build", [("title", .bool true)], List.append_assoc _ _ _, by decide, by decide⟩
  · obtain ⟨-, -, -, -, hother⟩ := lastWrite_of_reachable (.init hinit)
    exact hother _ _ _ (by decide)
  · obtain ⟨-, -, -, halike, -⟩ := lastWrite_of_reachable (.init hinit)
    exact (halike _ _ (by decide)).path

end DemoBuild.Config
