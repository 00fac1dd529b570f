import DemoBuild.Generate
import DemoBuild.Proofs.Failure
import DemoBuild.Proofs.Header.Settings
import DemoBuild.Proofs.Session

/-!
# Rendering and generating sources

Rendering a source reads files and logs, and does nothing else. So generating the sources runs no
tools.

## Main results

* `Requests.resultIn_render_eq_ok_iff`, `DemoData.resultIn_render` and
  `MainProgram.resultIn_render_eq_ok_iff`: from which files the sources are rendered;
* `runsNothing_generateSources`: generating the sources runs no tools.
-/

namespace DemoBuild

open DemoBuild.Action

/-! ## Rendering -/

/-- A text that is made from that of a file. -/
theorem resultIn_read_eq_ok_iff {path? : Except Error Path} {next : Path → String → Action String}
    {make : String → String} (hreads : ∀ path input, OnlyReads (next path input))
    (hmake : ∀ path input fs, (next path input).resultIn fs = .ok (make input)) {fs : FileSystem}
    {text : String} :
    (liftM path? >>= fun path => Action.read path >>= next path).resultIn fs = .ok text ↔
      ∃ path input, path? = .ok path ∧ fs.read path = .ok input ∧ make input = text := by
  rw [resultIn_bind (.liftM _) fun path => .bind (.read _) (hreads path)]
  simp only [resultIn_bind (.read _) (hreads _), bind_eq_ok_iff, resultIn_liftM, resultIn_read,
    mapError_eq_ok_iff, hmake, Except.ok.injEq, exists_and_left]

/-- Taking symbols from a text only logs. -/
theorem Requests.onlyReads_bind (r : Requests) (header : String) : OnlyReads (r.bind header) :=
  .bind (.logAll _) fun _ => .bind (.logAll _) fun _ => .pure _

/-- Taking symbols from a header reads the header. -/
theorem Requests.onlyReads_render (r : Requests) (context : Context) :
    OnlyReads (r.render context) :=
  .bind (.liftM _) fun _ => .bind (.read _) fun _ => .bind (r.onlyReads_bind _) fun _ => .pure _

/-- The bindings are those for the header. -/
theorem Requests.resultIn_render_eq_ok_iff {r : Requests} {context : Context} {fs : FileSystem}
    {text : String} :
    (r.render context).resultIn fs = .ok text ↔
      ∃ path header, headerPath context = .ok path ∧ fs.read path = .ok header ∧
        (Bindings.ofHeader header r.constants r.functions).text = text :=
  resultIn_read_eq_ok_iff
    (fun _ _ => .bind (r.onlyReads_bind _) fun _ => .pure _) fun _ _ _ => rfl

/-- Rendering the data header only logs. -/
theorem DemoData.onlyReads_render (d : DemoData) (context : Context) :
    OnlyReads (d.render context) :=
  .bind (.liftM _) fun _ => .bind (.liftM _) fun _ => .bind (.liftM _) fun _ =>
    .bind (.logAll _) fun _ => .bind (.liftM _) fun _ => .pure _

/-- Injecting hooks reads the template. -/
theorem MainProgram.onlyReads_render (m : MainProgram) (context : Context) :
    OnlyReads (m.render context) :=
  .bind (.liftM _) fun _ => .bind (.read _) fun _ => .bind (.logAll _) fun _ =>
    .bind (.logAll _) fun _ => .pure _

/-- The main program is the template with the hooks injected. -/
theorem MainProgram.resultIn_render_eq_ok_iff {m : MainProgram} {context : Context}
    {fs : FileSystem} {text : String} :
    (m.render context).resultIn fs = .ok text ↔
      ∃ path template, templatePath context = .ok path ∧ fs.read path = .ok template ∧
        (injectHooks template m.hooks).1 = text :=
  resultIn_read_eq_ok_iff
    (fun _ _ => .bind (.logAll _) fun _ => .bind (.logAll _) fun _ => .pure _) fun _ _ _ => rfl

/-- The data header does not depend on files. -/
theorem DemoData.resultIn_render (d : DemoData) (context : Context) (fs fs' : FileSystem) :
    (d.render context).resultIn fs = (d.render context).resultIn fs' := by
  rw [resultIn, resultIn, fst_start_render, fst_start_render]

/-- There is a data header only if no two uniform arrays have one type. -/
theorem DemoData.check_of_resultIn_render {d : DemoData} {context : Context} {fs : FileSystem}
    {text : String} (h : (d.render context).resultIn fs = .ok text) :
    d.shader.checkUniformArrays = .ok () :=
  (start_render_eq_ok_iff.mp h).1

/-! ## Tools -/

/-- Writing a source runs no tools if rendering it does not. -/
theorem GeneratedSource.runsNothing_write {source : GeneratedSource} {context : Context}
    (h : RunsNothing (source.render context)) : RunsNothing (source.write context) := by
  refine .bind (.liftM _) fun build => .bind .files fun found => ?_
  have hrest : RunsNothing do
      let path := build.join source.fileName
      let text ← source.render context
      Action.write path text
      Action.log .info ("Generated " ++ path.text)
      return path :=
    .bind h fun _ => .bind (.write _ _) fun _ => .bind (.log _ _) fun _ => .pure _
  split
  · exact .bind (.makeDirectories _) fun _ => hrest
  · exact hrest

/-- Writing the whole shader program runs no tools. -/
theorem runsNothing_writeShaderDump (context : Context) (s : Shader) :
    RunsNothing (writeShaderDump context s) :=
  .bind (.liftM _) fun _ => .bind (.liftM _) fun _ => .bind (.write _ _) fun _ => .pure _

/-- Generating the sources runs no tools, whether it succeeds or fails. -/
theorem runsNothing_generateSources (context : Context) (s : Shader) (c : Compilation) :
    RunsNothing (generateSources context s c) :=
  .bind (GeneratedSource.runsNothing_write (Requests.onlyReads_render _ _).runsNothing) fun _ =>
    .bind (GeneratedSource.runsNothing_write (DemoData.onlyReads_render _ _).runsNothing) fun _ =>
      .bind (GeneratedSource.runsNothing_write (MainProgram.onlyReads_render _ _).runsNothing)
        fun _ => .bind (runsNothing_writeShaderDump _ _) fun _ => .pure _

end DemoBuild
