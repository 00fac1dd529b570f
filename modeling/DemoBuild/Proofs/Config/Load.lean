import DemoBuild.Proofs.Config.Tree
import DemoBuild.Proofs.Files.System

/-!
# The layers of a configuration

A configuration has three layers. What the environment gives counts, else what the document in the
directory of the demo says, else a default. Whether a layer says anything is a matter of presence:
an empty text from the environment counts, and so does any value in the document.

## Main definitions

* `Environment.value?` and `Config.default?`: what the outer layers give a key;
* `Config.DocumentAt` and `Config.ofDocument`: the document of a demo, if there is one, and its
  configuration.

## Main results

* `Config.get?_setGiven` and `Config.get?_setDefault`: one entry of the outer layers;
* `Config.get?_setAll_entries` and `Config.get?_fillDefaults`: a whole layer;
* `Config.fillDefaults_fillDefaults`: defaults are filled in once;
* `Config.start_init`: the layers are put together;
* `Config.init_precedence`: which layer gives a key its value in the configuration of a demo.
-/

namespace DemoBuild

open Yaml (Tree)
open ConfigItem (Respelled)

/-- The value that the environment gives a key. -/
def Environment.value? (env : Environment) (key : String) : Option Value :=
  ([("directory", env.demoDirectory), ("paths:build", env.buildDirectory),
    ("paths:dist", env.distDirectory), ("paths:exe", env.executable)].lookup key).join.map .text

namespace Config

/-- The default of a key. -/
def default? (root : Path) (key : String) : Option Value :=
  [("directory", .text root.text), ("paths:build", .text (root.join ⟨"build"⟩).text),
    ("paths:dist", .text (root.join ⟨"dist"⟩).text),
    ("paths:exe", .text ((root.join ⟨"dist"⟩).join ⟨"demo.exe"⟩).text),
    ("paths:engine", .text "engine"), ("tools:cl", .text "cl"),
    ("tools:link", .text "link")].lookup key

/-! ## Single entries -/

/-- Sets the value of a key if there is one. -/
def setGiven (c : Config) (key : String) (text? : Option String) : Config :=
  match text? with
  | some text => c.set key (.text text)
  | none => c

/-- A given value counts more than the one before. -/
theorem get?_setGiven (c : Config) (key : String) (text? : Option String) (key' : String) :
    (c.setGiven key text?).get? key' =
      if normalizeKey key' = normalizeKey key then (text?.map .text).or (c.get? key')
      else c.get? key' := by
  cases text? with
  | none => simp [setGiven]
  | some text => simp [setGiven, get?_set]

/-- A default counts less than the value before. -/
theorem get?_setDefault (c : Config) (key : String) (value : Value) (key' : String) :
    (c.setDefault key value).get? key' =
      if normalizeKey key' = normalizeKey key then (c.get? key').or (some value)
      else c.get? key' := by
  rw [setDefault, contains]
  by_cases hkey : normalizeKey key' = normalizeKey key
  · -- both keys give the same value
    have hsame : c.get? key' = c.get? key := by rw [get?, get?, hkey]
    cases hvalue : c.get? key with
    | none => simp [get?_set, hkey, hsame, hvalue]
    | some old => simp [hkey, hsame, hvalue]
  · rw [if_neg hkey]
    split
    · rfl
    · rw [get?_set, if_neg hkey]

/-! ## Whole layers -/

/-- The environment sets what it gives, one key after the other. -/
theorem setAll_entries (c : Config) (env : Environment) :
    c.setAll env.entries =
      (((c.setGiven "paths:build" env.buildDirectory).setGiven "paths:dist"
        env.distDirectory).setGiven "paths:exe" env.executable).setGiven "directory"
        env.demoDirectory := by
  obtain ⟨build, dist, exe, directory⟩ := env
  -- each of the four is given or not
  cases build <;> cases dist <;> cases exe <;> cases directory <;> rfl

/-- The environment wins. -/
theorem get?_setAll_entries (c : Config) (env : Environment) (key : String) :
    (c.setAll env.entries).get? key = (env.value? (normalizeKey key)).or (c.get? key) := by
  have hbuild : normalizeKey "paths:build" = "paths:build" := by decide
  have hdist : normalizeKey "paths:dist" = "paths:dist" := by decide
  have hexe : normalizeKey "paths:exe" = "paths:exe" := by decide
  have hdirectory : normalizeKey "directory" = "directory" := by decide
  rw [setAll_entries]
  simp only [get?_setGiven, hbuild, hdist, hexe, hdirectory, Environment.value?, List.lookup_cons,
    List.lookup_nil, beq_eq_decide]
  -- the key is one of the four that the environment can give, or another one
  by_cases isDirectory : normalizeKey key = "directory"
  · simp [isDirectory]
  by_cases isBuild : normalizeKey key = "paths:build"
  · simp [isBuild]
  by_cases isDist : normalizeKey key = "paths:dist"
  · simp [isDist]
  by_cases isExe : normalizeKey key = "paths:exe"
  · simp [isExe]
  simp [isDirectory, isBuild, isDist, isExe]

/-- Sets entries where their keys have no value yet, one entry after the other. -/
def fillAll (c : Config) (entries : List (String × Value)) : Config :=
  entries.foldl (fun c entry => c.setDefault entry.1 entry.2) c

/-- What is there stays, and of several entries for one key the first one counts. -/
theorem get?_fillAll (entries : List (String × Value)) (c : Config) (key : String) :
    (c.fillAll entries).get? key = (c.get? key).or
      ((entries.find? fun e => normalizeKey key = normalizeKey e.1).map Prod.snd) := by
  induction entries generalizing c with
  | nil => simp [fillAll]
  | cons e entries ih =>
    -- the first entry is there when the others are filled in
    show ((c.setDefault e.1 e.2).fillAll entries).get? key = _
    rw [ih, get?_setDefault, List.find?_cons]
    by_cases h : normalizeKey key = normalizeKey e.1
    · -- from here on the key has a value
      simp only [h, if_true, decide_true, Option.map_some]
      cases c.get? key <;> rfl
    · simp only [h, if_false, decide_false]

/-- Nothing is filled in where all keys have a value. -/
theorem fillAll_of_contains {c : Config} {entries : List (String × Value)}
    (h : ∀ e ∈ entries, c.contains e.1 = true) : c.fillAll entries = c := by
  induction entries with
  | nil => rfl
  | cons e entries ih =>
    obtain ⟨hfirst, hrest⟩ := List.forall_mem_cons.mp h
    show (c.setDefault e.1 e.2).fillAll entries = c
    rw [setDefault, if_pos hfirst, ih hrest]

theorem contains_fillAll (c : Config) {entries : List (String × Value)} {key : String}
    {value : Value} (h : (key, value) ∈ entries) : (c.fillAll entries).contains key = true := by
  rw [contains, get?_fillAll, Option.isSome_or, Option.isSome_map, Bool.or_eq_true_iff]
  exact .inr (List.find?_isSome.mpr ⟨(key, value), h, by simp⟩)

/-- Entries are found by their keys, if these are in the form in which keys are stored. -/
theorem find?_eq_lookup {entries : List (String × Value)}
    (h : ∀ e ∈ entries, normalizeKey e.1 = e.1) (stored : String) :
    (entries.find? fun e => stored = normalizeKey e.1).map Prod.snd = entries.lookup stored := by
  induction entries with
  | nil => rfl
  | cons e entries ih =>
    obtain ⟨hfirst, hrest⟩ := List.forall_mem_cons.mp h
    rw [List.find?_cons, List.lookup_cons, hfirst, beq_eq_decide, ← ih hrest]
    cases decide (stored = e.1) <;> rfl

/-- The keys with a default, which are the same for each directory. -/
def defaultKeys : List String :=
  ["directory", "paths:build", "paths:dist", "paths:exe", "paths:engine", "tools:cl", "tools:link"]

theorem map_fst_defaults (root : Path) : (defaults root).map Prod.fst = defaultKeys := rfl

theorem normalizeKey_of_mem_defaultKeys {key : String} (h : key ∈ defaultKeys) :
    normalizeKey key = key := by
  have hall : ∀ key ∈ defaultKeys, normalizeKey key = key := by decide
  exact hall key h

/-- Defaults lose. -/
theorem get?_fillDefaults (c : Config) (root : Path) (key : String) :
    (c.fillDefaults root).get? key = (c.get? key).or (default? root (normalizeKey key)) := by
  have hkeys : ∀ e ∈ defaults root, normalizeKey e.1 = e.1 := by
    intro e he
    apply normalizeKey_of_mem_defaultKeys
    rw [← map_fst_defaults root]
    exact List.mem_map_of_mem he
  show (c.fillAll (defaults root)).get? key = _
  rw [get?_fillAll, find?_eq_lookup hkeys]
  rfl

/-- Defaults are filled in once. -/
theorem fillDefaults_fillDefaults (c : Config) (root root' : Path) :
    (c.fillDefaults root).fillDefaults root' = c.fillDefaults root := by
  apply fillAll_of_contains
  intro e he
  -- the key has a default in the first directory as well
  have hkey : e.1 ∈ (defaults root).map Prod.fst := by
    rw [map_fst_defaults, ← map_fst_defaults root']
    exact List.mem_map_of_mem he
  obtain ⟨⟨key, value⟩, hmem, hname⟩ := List.mem_map.mp hkey
  rw [← hname]
  exact contains_fillAll c hmem

theorem default?_eq_none (root : Path) {key : String} (h : key ∉ defaultKeys) :
    default? root key = none := by
  show (defaults root).lookup key = none
  rw [List.lookup_eq_none_iff]
  intro e he
  have hne : key ≠ e.1 := by
    rintro rfl
    exact h (map_fst_defaults root ▸ List.mem_map_of_mem he)
  simpa using hne

/-- What the environment can give has a default. -/
theorem value?_eq_none (env : Environment) {key : String} (h : key ∉ defaultKeys) :
    env.value? key = none := by
  simp only [defaultKeys, List.mem_cons, not_or] at h
  obtain ⟨hdirectory, hbuild, hdist, hexe, -⟩ := h
  simp [Environment.value?, List.lookup_cons, beq_eq_decide, hdirectory, hbuild, hdist, hexe]

/-- The environment counts most and a default least. -/
theorem get?_layered (document : Config) (env : Environment) (root : Path) (key : String) :
    ((document.setAll env.entries).fillDefaults root).get? key =
      ((env.value? (normalizeKey key)).or (document.get? key)).or
        (default? root (normalizeKey key)) := by
  rw [get?_fillDefaults, get?_setAll_entries]

/-! ## Documents -/

/-- The demo in the directory has this document, or none: there is no file with its name. -/
inductive DocumentAt (fs : FileSystem) (root : Path) : Option Tree → Prop
  | absent : fs.isFile (root.join fileName) = false → DocumentAt fs root none
  | present {text : String} {t : Tree} : fs.read (root.join fileName) = .ok text →
    Tree.parse text = .ok t → DocumentAt fs root (some t)

/-- The configuration of a document, which is empty without one. -/
def ofDocument (t? : Option Tree) : Config :=
  t?.elim empty ofTree

/-- The warnings about a document. -/
def documentWarnings (t? : Option Tree) : List LogEntry :=
  t?.elim [] warnings

/-- A document is loaded from the file with its name. -/
theorem start_load? {s : Session} {root : Path} {t? : Option Tree}
    (h : DocumentAt s.files root t?) : (load? (root.join fileName)).start s =
      (.ok (t?.map ofTree), s.logged (documentWarnings t?)) := by
  rw [load?, Action.start_bind_of_ok (Action.start_files s)]
  cases h with
  | absent hfile =>
    rw [hfile]
    simp [documentWarnings]
  | @present text t hread ht =>
    have hstart : (Action.read (root.join fileName)).start s = (.ok text, s) := by
      rw [Action.start_read, hread]
      rfl
    -- the file is there, for it can be read
    rw [if_pos (FileSystem.isFile_of_read hread), Action.start_bind_of_ok hstart,
      Action.start_bind_of_ok (start_parse ht s)]
    rfl

/-- The layers are put together: first the document, then the environment, then the defaults. -/
theorem start_init (env : Environment) {s : Session} {root : Path} {t? : Option Tree}
    (h : DocumentAt s.files root t?) : (init env root).start s =
      (.ok (((ofDocument t?).setAll env.entries).fillDefaults root),
        s.logged (documentWarnings t?)) := by
  rw [init, Action.start_bind_of_ok (start_load? h)]
  cases t? <;> rfl

/-- The configuration of a demo exists, whatever its document says, and only the log changes. A key
has the value that the environment gives it, else that of the document, else its default; so one
without a default has exactly the value of the document. Defaults are not filled in again, in
whatever directory, and a document that spells its keys otherwise gives the same configuration. -/
theorem init_precedence (env : Environment) {root : Path} {s : Session} {t? : Option Tree}
    (h : DocumentAt s.files root t?) :
    ∃ c, (init env root).start s = (.ok c, s.logged (documentWarnings t?)) ∧
      (∀ key, c.get? key = ((env.value? (normalizeKey key)).or ((ofDocument t?).get? key)).or
        (default? root (normalizeKey key))) ∧
      (∀ key, normalizeKey key ∉ defaultKeys → c.get? key = (ofDocument t?).get? key) ∧
      (∀ root', c.fillDefaults root' = c) ∧
      ∀ t t' s', t? = some t → Respelled [] t t' → DocumentAt s'.files root (some t') →
        ((init env root).start s').1 = .ok c := by
  refine ⟨_, start_init env h, get?_layered _ env root, ?_, ?_, ?_⟩
  · -- the outer layers say nothing about other keys
    intro key hkey
    rw [get?_layered, value?_eq_none env hkey, default?_eq_none root hkey, Option.none_or,
      Option.or_none]
  · exact fillDefaults_fillDefaults _ root
  · rintro t t' s' rfl hspelling h'
    -- the entries are the same, so the first layer is, and the others are put on top of it
    have hentries := ConfigItem.entries_eq_of_respelled hspelling
    have hsame : ofDocument (some t') = ofDocument (some t) :=
      congrArg empty.storeAll hentries.symm
    rw [start_init env h', hsame]

/-- A session with a document for the demo in the directory `demo`. -/
def withDocument (text : String) : Session :=
  ⟨FileSystem.empty.place (⟨"demo/demo.yml"⟩ : Path).location (.file text.toUTF8), [], []⟩

/-- A document that nests a key, and one that gives it at once. -/
def nestedBuild : Tree :=
  .mapping [(.text "paths", .mapping [(.text "build", .text "out")])]

@[inherit_doc nestedBuild]
def dottedBuild : Tree :=
  .mapping [(.text "paths.build", .text "out")]

/-- The text in a document with a single entry, and the keys on the way to it. -/
def onlyText? : Tree → Option (List String × String)
  | .mapping [(.text key, .text value)] => some ([key], value)
  | .mapping [(.text outer, .mapping [(.text inner, .text value)])] => some ([outer, inner], value)
  | _ => none

/-- A document with a single entry is known by it. -/
theorem eq_of_onlyText? {t t' : Tree} {found : List String × String}
    (h : onlyText? t = some found) (h' : onlyText? t' = some found) : t = t' := by
  unfold onlyText? at h h'
  split at h <;> cases h <;> split at h' <;> cases h'
  · rfl
  · rfl

theorem parse_eq_ok_of_onlyText? {text : String} {t : Tree}
    (h : (Tree.parse text).toOption.bind onlyText? = onlyText? t) (ht : (onlyText? t).isSome) :
    Tree.parse text = .ok t := by
  obtain ⟨found, hfound⟩ := Option.isSome_iff_exists.mp ht
  rw [hfound] at h
  cases hparse : Tree.parse text with
  | error problem => simp [hparse, Except.toOption] at h
  | ok t' =>
    rw [hparse] at h
    rw [eq_of_onlyText? h hfound]

theorem documentAt_nestedBuild :
    DocumentAt (withDocument "paths:\n  build: out\n").files ⟨"demo"⟩ (some nestedBuild) :=
  @DocumentAt.present _ _ "paths:\n  build: out\n" _ rfl
    (parse_eq_ok_of_onlyText? (by decide +kernel) rfl)

theorem documentAt_dottedBuild :
    DocumentAt (withDocument "paths.build: out").files ⟨"demo"⟩ (some dottedBuild) :=
  @DocumentAt.present _ _ "paths.build: out" _ rfl
    (parse_eq_ok_of_onlyText? (by decide +kernel) rfl)

/-- The document gives one directory in either spelling, the environment an empty text for the
executable, and the other directory has its default. -/
theorem init_precedence_nestedBuild :
    ∃ c, ((init { executable := some "" } ⟨"demo"⟩).start
        (withDocument "paths:\n  build: out\n")).1 = .ok c ∧
      c.get? "paths.build" = some (.text "out") ∧ c.get? "paths:exe" = some (.text "") ∧
      c.get? "paths:dist" = some (.text "demo/dist") ∧ c.get? "title" = none ∧
      c.fillDefaults ⟨"elsewhere"⟩ = c ∧
      ((init { executable := some "" } ⟨"demo"⟩).start (withDocument "paths.build: out")).1 =
        .ok c := by
  obtain ⟨c, hstart, hget, hother, hfilled, hspelling⟩ :=
    init_precedence { executable := some "" } documentAt_nestedBuild
  have hne : flatKey ([] ++ ["paths"]) ≠ "" := by decide
  have hrespelled : Respelled [] nestedBuild dottedBuild :=
    .dotted [("build", .text "out")] [] _ rfl hne
  refine ⟨c, by rw [hstart], ?_, ?_, ?_, ?_, hfilled _, ?_⟩
  · -- the value of the document is no default
    rw [hget]
    rfl
  · rw [hget]
    rfl
  · rw [hget]
    rfl
  · rw [hother "title" (by decide)]
    rfl
  · exact hspelling _ _ _ rfl hrespelled documentAt_dottedBuild

end Config

end DemoBuild
