import DemoBuild.Proofs.Files.System
import DemoBuild.Proofs.Generate
import DemoBuild.Proofs.Shader.Assembly

/-!
# The files of the generated sources

The sources are rendered and written one after the other, and each is rendered in full before its
file is touched. So a failure leaves complete files of the sources before it and nothing of the
others. No source is rendered from the file of another one.

## Main definitions

* `SourceText` and `sourceTexts`: the sources with their texts, as they are rendered from files;
* `WriteEnds`: how the writing of one source ends;
* `Generates`: how sources are written one after the other;
* `Generation`: what the generation of all sources leaves.

## Main results

* `GeneratedSource.writeEnds_write` and `writeEnds_writeShaderDump`: the single sources;
* `generates_mapM`: sources one after the other;
* `Generates.preserves` and `Generates.complete_of_independent`: what the files hold at the end;
* `text_eq_ok_iff`: no source is rendered from the file of another one;
* `generateSources_leaves_complete_files`: the generation of all sources.
-/

namespace DemoBuild

open DemoBuild.Action

/-- Makes a directory where nothing exists at its path. -/
def FileSystem.ensureDirectory (fs : FileSystem) (p : Path) : FileSystem × Option FileError :=
  if fs.pathExists p then (fs, none) else fs.makeDirectories p

/-- A source with its text. -/
structure SourceText where
  /-- The name of its file. -/
  name : Path
  /-- Its text, as it is rendered from files. -/
  text : FileSystem → Except Error String

/-- The file of the source. -/
def SourceText.path (build : Path) (source : SourceText) : Path :=
  build.join source.name

/-- The sources of a build, in the order in which they are generated. -/
def sourceTexts (context : Context) (s : Shader) (c : Compilation) : List SourceText :=
  [⟨⟨"demo-gl.hpp"⟩, ((Requests.ofConfig context.config).render context).resultIn⟩,
    ⟨⟨"demo-data.hpp"⟩, (DemoData.render ⟨s, c.cpp.hooks.keys⟩ context).resultIn⟩,
    ⟨⟨"main.cpp"⟩, (MainProgram.render ⟨c.cpp.hooks⟩ context).resultIn⟩,
    ⟨⟨"demo-shader.glsl"⟩, fun _ => s.assemble .program⟩]

/-- How the writing of a source ends, and the files that it leaves. -/
inductive WriteEnds (build : Path) (source : SourceText) (before : FileSystem) :
    Except Error Path → FileSystem → Prop
  /-- The build directory cannot be made. -/
  | unmade {made : FileSystem} {reason : FileError}
    (refused : before.ensureDirectory build = (made, some reason)) :
    WriteEnds build source before (.error (.file build reason)) made
  /-- The source cannot be rendered. -/
  | unrendered {made : FileSystem} {e : Error}
    (directory : before.ensureDirectory build = (made, none))
    (rendered : source.text made = .error e) :
    WriteEnds build source before (.error e) made
  /-- The text cannot be written. -/
  | unwritten {made : FileSystem} {text : String} {reason : FileError}
    (directory : before.ensureDirectory build = (made, none))
    (rendered : source.text made = .ok text)
    (refused : made.write (source.path build) text = .error reason) :
    WriteEnds build source before (.error (.file (source.path build) reason)) made
  /-- The text is written. -/
  | written {made after : FileSystem} {text : String}
    (directory : before.ensureDirectory build = (made, none))
    (rendered : source.text made = .ok text)
    (written : made.write (source.path build) text = .ok after) :
    WriteEnds build source before (.ok (source.path build)) after

/-- How sources are written one after the other, from the files at first to the files at last: some
have been written, and the first one of the rest, if there is any, has failed. -/
inductive Generates (build : Path) :
    FileSystem → List SourceText → List SourceText → Except Error (List Path) → FileSystem → Prop
  /-- No sources are left. -/
  | complete {fs : FileSystem} (directory : fs.ensureDirectory build = (fs, none)) :
    Generates build fs [] [] (.ok []) fs
  /-- A source fails, and those behind it are not tried. -/
  | stopped {failing : SourceText} {later : List SourceText} {e : Error}
    {before after : FileSystem} (stop : WriteEnds build failing before (.error e) after) :
    Generates build before [] (failing :: later) (.error e) after
  /-- A source is written, and the others follow. -/
  | next {source : SourceText} {done rest : List SourceText} {path : Path}
    {result : Except Error (List Path)} {before between after : FileSystem}
    (first : WriteEnds build source before (.ok path) between)
    (others : Generates build between done rest result after) :
    Generates build before (source :: done) rest ((path :: ·) <$> result) after

variable {context : Context} {s : Shader} {c : Compilation} {build : Path}

/-! ## Single sources -/

/-- A text that is rendered and written, and what is given then. -/
theorem writeEnds_of_render {render : Action String} {conclude : Action Path} {name : Path}
    (hrender : OnlyReads render) (hconclude : ∀ begun : Session,
      (conclude.start begun).1 = .ok (build.join name) ∧
        (conclude.start begun).2.files = begun.files)
    {before : FileSystem} {begun : Session}
    (hdirectory : before.ensureDirectory build = (begun.files, none)) :
    let ended := (do
      let text ← render
      Action.write (build.join name) text
      conclude).start begun
    WriteEnds build ⟨name, render.resultIn⟩ before ended.1 ended.2.files := by
  obtain ⟨entries, hstart⟩ := hrender begun
  intro ended
  cases htext : render.resultIn begun.files with
  | error e =>
    rw [htext] at hstart
    have hended : ended = _ := start_bind_of_error hstart
    rw [hended]
    exact .unrendered hdirectory htext
  | ok text =>
    rw [htext] at hstart
    have hended : ended = _ := start_bind_of_ok hstart
    cases hwrite : (begun.logged entries).files.write (build.join name) text with
    | error reason =>
      rw [hended, start_bind_of_error (start_write_of_error hwrite)]
      exact .unwritten hdirectory htext hwrite
    | ok after =>
      rw [hended, start_bind_of_ok (start_write_of_ok hwrite), (hconclude _).1, (hconclude _).2]
      exact .written hdirectory htext hwrite

/-- Making the build directory where it is missing, and going on behind that. -/
theorem start_ensureDirectory {α : Type} (next : Action α) (begun : Session) :
    (do
      if !(← Action.files).pathExists build then Action.makeDirectories build
      next).start begun =
      match begun.files.ensureDirectory build with
      | (made, none) => next.start { begun with files := made }
      | (made, some reason) => (.error (.file build reason), { begun with files := made }) := by
  rw [start_bind_of_ok (start_files begun), FileSystem.ensureDirectory]
  cases begun.files.pathExists build with
  | true => rfl
  | false =>
    simp only [Bool.not_false, if_true, Bool.false_eq_true, if_false]
    rw [start_bind, start_makeDirectories]
    cases begun.files.makeDirectories build with
    | mk made failure? => cases failure? <;> rfl

/-- A source is rendered and written in the build directory. -/
theorem GeneratedSource.writeEnds_write {source : GeneratedSource}
    (hrender : OnlyReads (source.render context)) (hbuild : context.buildDirectory = .ok build)
    (begun : Session) :
    let ended := (source.write context).start begun
    WriteEnds build ⟨source.fileName, (source.render context).resultIn⟩ begun.files ended.1
      ended.2.files := by
  rw [write, start_bind_liftM_of_eq_ok hbuild, start_ensureDirectory]
  cases hdirectory : begun.files.ensureDirectory build with
  | mk made failure? =>
    cases failure? with
    | some reason => exact .unmade hdirectory
    | none =>
      let ready : Session := { begun with files := made }
      have hready : begun.files.ensureDirectory build = (ready.files, none) := hdirectory
      exact writeEnds_of_render hrender (fun _ => ⟨rfl, rfl⟩) hready

/-- The source of the whole shader program is written in the same way, once the build directory is
there. -/
theorem writeEnds_writeShaderDump (hbuild : context.buildDirectory = .ok build) {begun : Session}
    (hready : begun.files.ensureDirectory build = (begun.files, none)) :
    let ended := (writeShaderDump context s).start begun
    WriteEnds build ⟨⟨"demo-shader.glsl"⟩, fun _ => s.assemble .program⟩ begun.files ended.1
      ended.2.files := by
  rw [writeShaderDump, start_bind_liftM_of_eq_ok hbuild]
  exact writeEnds_of_render (.liftM _) (fun _ => ⟨rfl, rfl⟩) hready

/-! ## One after the other -/

/-- The build directory is there once something has been written into it. -/
theorem ensureDirectory_of_write {fs after : FileSystem} {name : Path} {text : String}
    (hname : Path.IsSegment name.text) (h : fs.write (build.join name) text = .ok after) :
    after.ensureDirectory build = (after, none) := by
  have hlocate := (FileSystem.preserves_write h).locate (FileSystem.insert_of_write h).1
  rw [FileSystem.ensureDirectory]
  rcases FileSystem.status_of_locate_join hname hlocate with hempty | hdirectory
  · -- the empty path means the working directory, for which nothing is made
    obtain rfl : build = ⟨""⟩ := by
      cases build
      exact congrArg Path.mk hempty
    split <;> rfl
  · have hexists : after.pathExists build = true := by
      rw [FileSystem.pathExists, hdirectory]
    rw [if_pos hexists]

/-- The build directory is there once a source has been written. -/
theorem WriteEnds.ensureDirectory {source : SourceText} {before after : FileSystem} {path : Path}
    (hname : Path.IsSegment source.name.text)
    (h : WriteEnds build source before (.ok path) after) :
    after.ensureDirectory build = (after, none) := by
  cases h with
  | written directory rendered written => exact ensureDirectory_of_write hname written

/-- A first source and those behind it. -/
theorem generates_cons {source : SourceText} {sources : List SourceText} {first : Action Path}
    {others : Action (List Path)} {begun : Session}
    (hfirst : WriteEnds build source begun.files (first.start begun).1 (first.start begun).2.files)
    (hothers : ∀ path, (first.start begun).1 = .ok path →
      let ended := others.start (first.start begun).2
      ∃ done rest, done ++ rest = sources ∧
        Generates build (first.start begun).2.files done rest ended.1 ended.2.files) :
    let ended := (do return (← first) :: (← others)).start begun
    ∃ done rest, done ++ rest = source :: sources ∧
      Generates build begun.files done rest ended.1 ended.2.files := by
  cases hresult : (first.start begun).1 with
  | error e =>
    rw [hresult] at hfirst
    rw [start_bind_of_fst_eq_error hresult]
    exact ⟨[], _, rfl, .stopped hfirst⟩
  | ok path =>
    obtain ⟨done, rest, rfl, hgenerates⟩ := hothers path hresult
    rw [hresult] at hfirst
    rw [start_bind_of_fst_eq_ok hresult, start_bind_pure]
    exact ⟨source :: done, rest, rfl, .next hfirst hgenerates⟩

/-- Sources are written one after the other, once the build directory is there. -/
theorem generates_mapM {steps : List (SourceText × Action Path)}
    (hsteps : ∀ step ∈ steps, Path.IsSegment step.1.name.text ∧ ∀ begun : Session,
      begun.files.ensureDirectory build = (begun.files, none) →
        WriteEnds build step.1 begun.files (step.2.start begun).1 (step.2.start begun).2.files)
    {begun : Session} (hready : begun.files.ensureDirectory build = (begun.files, none)) :
    let ended := (steps.mapM Prod.snd : Action (List Path)).start begun
    ∃ done rest, done ++ rest = steps.map (·.1) ∧
      Generates build begun.files done rest ended.1 ended.2.files := by
  induction steps generalizing begun with
  | nil => exact ⟨[], [], rfl, .complete hready⟩
  | cons step steps ih =>
    obtain ⟨⟨hname, hwrite⟩, hothers⟩ := List.forall_mem_cons.mp hsteps
    rw [List.mapM_cons]
    refine generates_cons (hwrite begun hready) fun path hpath => ih hothers ?_
    have hfirst := hwrite begun hready
    rw [hpath] at hfirst
    exact hfirst.ensureDirectory hname

/-! ## What the files hold -/

/-- The locations of the files of sources. -/
def locations (build : Path) (sources : List SourceText) : List Location :=
  sources.map fun source => (source.path build).location

/-- Making a directory changes nothing that exists. -/
theorem FileSystem.preserves_ensureDirectory (fs : FileSystem) (p : Path) :
    Preserves [] fs (fs.ensureDirectory p).1 := by
  rw [ensureDirectory]
  split
  · exact .refl _ _
  · exact preserves_makeDirectories fs p

/-- What fails to be written changes nothing once the build directory is there. -/
theorem WriteEnds.eq_of_error {source : SourceText} {before after : FileSystem} {e : Error}
    (h : WriteEnds build source before (.error e) after) :
    after = (before.ensureDirectory build).1 := by
  cases h with
  | unmade refused => rw [refused]
  | unrendered directory => rw [directory]
  | unwritten directory => rw [directory]

/-- What is written is the text of the source. -/
theorem WriteEnds.exists_of_ok {source : SourceText} {before after : FileSystem} {path : Path}
    (h : WriteEnds build source before (.ok path) after) :
    path = source.path build ∧ ∃ text, source.text (before.ensureDirectory build).1 = .ok text ∧
      (before.ensureDirectory build).1.write (source.path build) text = .ok after := by
  cases h with
  | written directory rendered written =>
    rw [directory]
    exact ⟨rfl, _, rendered, written⟩

namespace Generates

variable {before after : FileSystem} {done rest : List SourceText}
  {result : Except Error (List Path)}

/-- Once the build directory is there, only the files of the sources that are written change. -/
theorem agrees (h : Generates build before done rest result after)
    (hnames : ∀ source ∈ done, Path.IsSegment source.name.text) :
    FileSystem.Agrees (locations build done) (before.ensureDirectory build).1 after := by
  induction h with
  | complete directory =>
    rw [directory]
    exact .refl _ _
  | stopped stop =>
    rw [stop.eq_of_error]
    exact .refl _ _
  | next first others ih =>
    obtain ⟨hname, hnames⟩ := List.forall_mem_cons.mp hnames
    obtain ⟨-, text, -, hwrite⟩ := first.exists_of_ok
    have hothers := ih hnames
    rw [first.ensureDirectory hname] at hothers
    -- both changes are among those of all sources
    exact ((FileSystem.agrees_write hwrite).mono (by simp [locations])).trans
      (hothers.mono (by simp [locations]))

/-- Only the files of the sources that are written change. -/
theorem preserves (h : Generates build before done rest result after)
    (hnames : ∀ source ∈ done, Path.IsSegment source.name.text) :
    FileSystem.Preserves (locations build done) before after :=
  ((FileSystem.preserves_ensureDirectory before build).mono (List.nil_subset _)).trans
    (h.agrees hnames).forth

/-- The files of the sources that are written hold their texts: no source has the file of another
one or is rendered from it. -/
theorem complete_of_independent {sources : List SourceText}
    (h : Generates build before done rest result after)
    (hnames : ∀ source ∈ done, Path.IsSegment source.name.text)
    (hdistinct : (locations build done).Nodup) (hsources : done ⊆ sources)
    (hindependent : ∀ source ∈ sources, ∀ fs fs',
      FileSystem.Agrees (locations build sources) fs fs' → ∀ text,
        source.text fs = .ok text ↔ source.text fs' = .ok text) :
    ∀ source ∈ done, ∃ text, source.text (before.ensureDirectory build).1 = .ok text ∧
      after.read (source.path build) = .ok text := by
  induction h with
  | complete => simp
  | stopped => simp
  | @next first done rest path result before between after hfirst others ih =>
    obtain ⟨hname, hnames⟩ := List.forall_mem_cons.mp hnames
    obtain ⟨hnew, hdistinct⟩ := List.nodup_cons.mp hdistinct
    obtain ⟨hmem, hsources⟩ := List.cons_subset.mp hsources
    obtain ⟨-, text, htext, hwrite⟩ := hfirst.exists_of_ok
    refine List.forall_mem_cons.mpr ⟨⟨text, htext, ?_⟩, fun source hsource => ?_⟩
    · -- what is written first stays
      exact (others.preserves hnames).read hnew (FileSystem.read_of_write hwrite)
    · obtain ⟨text', htext', hread⟩ := ih hnames hdistinct hsources source hsource
      rw [hfirst.ensureDirectory hname] at htext'
      -- what is written later is rendered from files that differ in that of the first source only
      have hfile : [(first.path build).location] ⊆ locations build sources := by
        simpa [locations] using ⟨_, hmem, rfl⟩
      have hagrees := (FileSystem.agrees_write hwrite).mono hfile
      exact ⟨text', (hindependent source (hsources hsource) _ _ hagrees text').mpr htext', hread⟩

/-- All paths are given if all sources have been written. -/
theorem eq_of_ok (h : Generates build before done rest result after) {paths : List Path}
    (hresult : result = .ok paths) : rest = [] ∧ paths = done.map (·.path build) := by
  induction h generalizing paths with
  | complete => exact ⟨rfl, (Except.ok.inj hresult).symm⟩
  | stopped => cases hresult
  | @next source done rest path result before between after first others ih =>
    cases result with
    | error e => cases hresult
    | ok others =>
      obtain ⟨hrest, rfl⟩ := ih rfl
      obtain rfl := Except.ok.inj hresult
      exact ⟨hrest, by rw [first.exists_of_ok.1, List.map_cons]⟩

/-- The failure is that of the first source that is not written: it begins with the files at first,
or with those that the sources before it have left. -/
theorem stop_of_error (h : Generates build before done rest result after)
    (hnames : ∀ source ∈ done, Path.IsSegment source.name.text) {e : Error}
    (hresult : result = .error e) :
    ∃ failing later, rest = failing :: later ∧
      WriteEnds build failing (if done = [] then before else after) (.error e) after := by
  induction h with
  | complete => cases hresult
  | stopped stop =>
    obtain rfl := Except.error.inj hresult
    exact ⟨_, _, rfl, stop⟩
  | @next source done rest path result before between after first others ih =>
    obtain ⟨hname, hnames⟩ := List.forall_mem_cons.mp hnames
    cases result with
    | ok others => cases hresult
    | error e' =>
      obtain rfl := Except.error.inj hresult
      obtain ⟨failing, later, hrest, hstop⟩ := ih hnames rfl
      refine ⟨failing, later, hrest, ?_⟩
      rw [if_neg (List.cons_ne_nil _ _)]
      split at hstop
      · -- it fails right behind this source, where the build directory is there
        have hafter := hstop.eq_of_error
        rw [first.ensureDirectory hname] at hafter
        exact hafter ▸ hstop
      · exact hstop

end Generates

/-! ## The sources of a build -/

/-- The names of the generated files. -/
theorem names_sourceTexts :
    (sourceTexts context s c).map (·.name.text) =
      ["demo-gl.hpp", "demo-data.hpp", "main.cpp", "demo-shader.glsl"] := rfl

/-- The generated files have names, which are those of no file that is read. -/
theorem isName_of_mem_sourceTexts {source : SourceText} (h : source ∈ sourceTexts context s c) :
    Path.IsName source.name.text ∧ source.name.text ≠ "glew.h" ∧
      source.name.text ≠ "main-template.cpp" := by
  have hname := List.mem_map_of_mem (f := (·.name.text)) h
  rw [names_sourceTexts] at hname
  simp only [List.mem_cons, List.not_mem_nil, or_false] at hname
  rcases hname with h | h | h | h <;> rw [h] <;>
    exact ⟨⟨⟨by decide, by decide⟩, by decide, by decide⟩, by decide, by decide⟩

/-- Files with different names are different files. -/
theorem location_join_ne {p q : Path} {a b : Path} (ha : Path.IsName a.text)
    (hb : Path.IsName b.text) (hne : a.text ≠ b.text) :
    (p.join a).location ≠ (q.join b).location := by
  rw [Path.location_join_name p ha, Path.location_join_name q hb]
  intro heq
  simp only [Location.mk.injEq, List.cons.injEq] at heq
  exact hne heq.2.1

/-- No two sources have one file. -/
theorem nodup_locations : (locations build (sourceTexts context s c)).Nodup := by
  have hnames : ((sourceTexts context s c).map (·.name.text)).Nodup := by
    rw [names_sourceTexts]
    decide
  rw [locations, List.nodup_iff_pairwise_ne, List.pairwise_map]
  rw [List.nodup_iff_pairwise_ne, List.pairwise_map] at hnames
  refine hnames.imp_of_mem fun ha hb hne => ?_
  exact location_join_ne (isName_of_mem_sourceTexts ha).1 (isName_of_mem_sourceTexts hb).1 hne

/-- A file with another name is no generated file. -/
theorem not_mem_locations {p name : Path} (hname : Path.IsName name.text)
    (hother : ∀ source ∈ sourceTexts context s c, source.name.text ≠ name.text) :
    (p.join name).location ∉ locations build (sourceTexts context s c) := by
  intro hmem
  obtain ⟨source, hsource, heq⟩ := List.mem_map.mp hmem
  exact location_join_ne (isName_of_mem_sourceTexts hsource).1 hname (hother source hsource) heq

/-- No source is rendered from the file of another one. -/
theorem text_eq_ok_iff {source : SourceText} (hsource : source ∈ sourceTexts context s c)
    {fs fs' : FileSystem}
    (h : FileSystem.Agrees (locations build (sourceTexts context s c)) fs fs') (text : String) :
    source.text fs = .ok text ↔ source.text fs' = .ok text := by
  simp only [sourceTexts, List.mem_cons, List.not_mem_nil, or_false] at hsource
  rcases hsource with rfl | rfl | rfl | rfl
  · -- the bindings are rendered from the vendored header
    simp only [Requests.resultIn_render_eq_ok_iff]
    refine exists_congr fun path => exists_congr fun header => and_congr_right fun hpath => ?_
    obtain ⟨glew, -, hpath⟩ := bind_eq_ok_iff.mp hpath
    obtain rfl := Except.ok.inj hpath
    rw [h.read_eq_ok_iff (not_mem_locations ⟨⟨by decide, by decide⟩, by decide, by decide⟩
      fun source hsource => (isName_of_mem_sourceTexts hsource).2.1)]
  · -- the data header is rendered from no file
    dsimp only
    rw [DemoData.resultIn_render _ _ fs fs']
  · -- the main program is rendered from the template of the engine
    simp only [MainProgram.resultIn_render_eq_ok_iff]
    refine exists_congr fun path => exists_congr fun template => and_congr_right fun hpath => ?_
    obtain ⟨engine, -, hpath⟩ := bind_eq_ok_iff.mp hpath
    obtain rfl := Except.ok.inj hpath
    have hname : Path.IsName MainProgram.templateName.text :=
      ⟨⟨by decide, by decide⟩, by decide, by decide⟩
    rw [h.read_eq_ok_iff (not_mem_locations hname
      fun source hsource => (isName_of_mem_sourceTexts hsource).2.2)]
  · rfl

/-- The sources of a build are written one after the other. -/
theorem generates_generateSources (hbuild : context.buildDirectory = .ok build)
    (begun : Session) :
    let ended := (generateSources context s c).start begun
    ∃ done rest, done ++ rest = sourceTexts context s c ∧
      Generates build begun.files done rest ended.1 ended.2.files := by
  let bindings := GeneratedSource.bindings (.ofConfig context.config)
  let data := GeneratedSource.data ⟨s, c.cpp.hooks.keys⟩
  let main := GeneratedSource.mainProgram ⟨c.cpp.hooks⟩
  let others : List (SourceText × Action Path) :=
    [(⟨data.fileName, (data.render context).resultIn⟩, data.write context),
      (⟨main.fileName, (main.render context).resultIn⟩, main.write context),
      (⟨shaderDumpName, fun _ => s.assemble .program⟩, writeShaderDump context s)]
  have hgenerate : generateSources context s c =
      (do return (← bindings.write context) :: (← others.mapM Prod.snd)) := by
    simp [generateSources, others, bindings, data, main]
  have hbindings : OnlyReads (bindings.render context) := Requests.onlyReads_render _ context
  have hfirst := GeneratedSource.writeEnds_write hbindings hbuild begun
  rw [hgenerate]
  refine generates_cons hfirst fun path hpath => @generates_mapM _ others ?_ _ ?_
  · simp only [others, List.forall_mem_cons, List.not_mem_nil, false_imp_iff, implies_true,
      and_true]
    refine ⟨⟨?_, fun begun _ => ?_⟩, ⟨?_, fun begun _ => ?_⟩, ?_, fun begun hready => ?_⟩
    · exact show Path.IsSegment "demo-data.hpp" from ⟨by decide, by decide⟩
    · exact GeneratedSource.writeEnds_write (DemoData.onlyReads_render _ context) hbuild begun
    · exact show Path.IsSegment "main.cpp" from ⟨by decide, by decide⟩
    · exact GeneratedSource.writeEnds_write (MainProgram.onlyReads_render _ context) hbuild begun
    · exact show Path.IsSegment "demo-shader.glsl" from ⟨by decide, by decide⟩
    · exact writeEnds_writeShaderDump hbuild hready
  · dsimp only at hfirst
    rw [hpath] at hfirst
    exact hfirst.ensureDirectory (show Path.IsSegment "demo-gl.hpp" from ⟨by decide, by decide⟩)

/-- What the generation of sources does that has written some of them and not the rest. -/
structure Generation (build : Path) (before after : FileSystem) (done rest : List SourceText)
    (result : Except Error (List Path)) : Prop where
  /-- It succeeds with the paths of all files. -/
  eq_of_ok : ∀ paths, result = .ok paths → rest = [] ∧ paths = done.map (·.path build)
  /-- It fails with the first source that cannot be rendered or written. -/
  stop_of_error : ∀ e, result = .error e → ∃ failing later, rest = failing :: later ∧
    WriteEnds build failing (if done = [] then before else after) (.error e) after
  /-- The files of the sources that have been written hold their texts, rendered from the files as
  they are once the build directory has been made. -/
  complete : ∀ source ∈ done, ∃ text, source.text (before.ensureDirectory build).1 = .ok text ∧
    after.read (source.path build) = .ok text
  /-- Nothing else has changed, except that there may be new directories. -/
  preserves : FileSystem.Preserves (locations build done) before after
  /-- The files of the other sources are as they were. -/
  untouched : ∀ source ∈ rest, ∀ contents,
    after.lookup (source.path build).location = some (.file contents) ↔
      before.lookup (source.path build).location = some (.file contents)
  /-- No source is rendered from the file of another one. -/
  independent : ∀ source ∈ done ++ rest, ∀ text,
    source.text after = .ok text ↔ source.text (before.ensureDirectory build).1 = .ok text

/-- The sources of a build are generated one after the other: the bindings, the data header, the
main program and the whole shader program. However far it comes, the files of the sources so far
hold their texts, and all other files are as they were; what fails is the source behind them. If
there is a data header the whole shader program can be assembled. -/
theorem generateSources_leaves_complete_files (context : Context) (s : Shader) (c : Compilation)
    (begun : Session) :
    let ended := (generateSources context s c).start begun
    (∀ e, context.buildDirectory = .error e → ended = (.error e, begun)) ∧
      ∀ build, context.buildDirectory = .ok build →
        ∃ done rest, done ++ rest = sourceTexts context s c ∧
          Generation build begun.files ended.2.files done rest ended.1 ∧
          (3 ≤ done.length → ∃ text, s.assemble .program = .ok text) := by
  intro ended
  refine ⟨fun e hbuild => ?_, fun build hbuild => ?_⟩
  · have hwrite : ((GeneratedSource.bindings (.ofConfig context.config)).write context).start
        begun = (.error e, begun) :=
      start_bind_of_error (by rw [start_liftM, hbuild])
    exact start_bind_of_error hwrite
  obtain ⟨done, rest, hsources, hgenerates⟩ :=
    @generates_generateSources context s c build hbuild begun
  have hmem {source : SourceText} (hsource : source ∈ done ++ rest) :
      source ∈ sourceTexts context s c := hsources ▸ hsource
  have hdone {source : SourceText} (hsource : source ∈ done) : source ∈ sourceTexts context s c :=
    hmem (List.mem_append_left _ hsource)
  have hnames : ∀ source ∈ done, Path.IsSegment source.name.text :=
    fun source hsource => (isName_of_mem_sourceTexts (hdone hsource)).1.1
  -- the files of the sources so far are different from each other and from those of the rest
  have hdistinct : (locations build done ++ locations build rest).Nodup := by
    have := @nodup_locations context s c build
    rwa [← hsources, locations, List.map_append] at this
  have hcomplete := hgenerates.complete_of_independent hnames (List.nodup_append.mp hdistinct).1
    (fun source hsource => hdone hsource)
    fun source hsource fs fs' h text => text_eq_ok_iff hsource h text
  refine ⟨done, rest, hsources, ⟨fun _ => hgenerates.eq_of_ok, fun _ => hgenerates.stop_of_error
    hnames, hcomplete, hgenerates.preserves hnames, ?untouched, ?independent⟩, ?assembled⟩
  case untouched =>
    intro source hsource contents
    refine (hgenerates.preserves hnames).file fun hchanged => ?_
    exact (List.nodup_append.mp hdistinct).2.2 _ hchanged _ (List.mem_map_of_mem hsource) rfl
  case independent =>
    intro source hsource text
    have hagrees : FileSystem.Agrees (locations build (sourceTexts context s c)) ended.2.files
        (begun.files.ensureDirectory build).1 := by
      refine (hgenerates.agrees hnames).symm.mono ?_
      rw [← hsources, locations, locations, List.map_append]
      exact List.subset_append_left _ _
    exact text_eq_ok_iff (hmem hsource) hagrees text
  case assembled =>
    -- the data header is among them, and it has needed the check that the assembly needs
    intro hlength
    have hdata : done[1]? = (sourceTexts context s c)[1]? := by
      rw [← hsources, List.getElem?_append_left (by omega)]
    obtain ⟨text, htext, -⟩ := hcomplete _ (List.mem_of_getElem? hdata)
    have hcheck : s.checkUniformArrays = .ok () := DemoData.check_of_resultIn_render htext
    exact ⟨s.programSource.render, by rw [Shader.assemble, hcheck]; rfl⟩

end DemoBuild
