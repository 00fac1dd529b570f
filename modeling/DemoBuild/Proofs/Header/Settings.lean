import DemoBuild.Header.Data
import DemoBuild.Proofs.Config.Section
import DemoBuild.Proofs.Failure
import DemoBuild.Proofs.Session

/-!
# Settings of the data header

Once the uniform arrays have passed their check, the data header can only be missing because of
settings: one that is needed is not there, or one has another shape.

Which settings are read depends on the mode and on whether frames are captured. A section that is
not asked for has no influence on the header, nor on why it is missing, whatever its keys hold.

## Main definitions

* `Error.IsSetting`: a setting is missing or has another shape;
* `DemoData.SameSettings`: two contexts have the same settings where these are read;
* `DemoData.Unread`: a key that is not asked for in a context.

## Main results

* `DemoData.start_render_eq_ok_iff`: when there is a data header, and what its lines are;
* `DemoData.isSetting_of_start_render`: why a data header is missing;
* `DemoData.render_congr`: what a data header depends on;
* `DemoData.render_isolated`: keys that are not asked for have no influence.
-/

namespace DemoBuild

/-- A setting is missing or has another shape. -/
def Error.IsSetting : Error → Prop
  | .missingConfig _ => True
  | .invalidConfig _ _ => True
  | _ => False

namespace Config

variable (c : Config) (key : String)

theorem failsOnly_text? : FailsOnly Error.IsSetting (c.text? key) := by
  unfold text?
  split
  · exact .ok _
  · exact .error trivial
  · exact .ok _

theorem failsOnly_integer? : FailsOnly Error.IsSetting (c.integer? key) := by
  unfold integer?
  split
  · exact .ok _
  · split
    · exact .ok _
    · exact .error trivial

theorem failsOnly_number? : FailsOnly Error.IsSetting (c.number? key) := by
  unfold number?
  split
  · exact .ok _
  · split
    · exact .ok _
    · exact .error trivial

theorem failsOnly_needText : FailsOnly Error.IsSetting (c.needText key) := by
  refine .bind (c.failsOnly_text? key) fun text? => ?_
  cases text? with
  | none => exact .error trivial
  | some text => exact .ok _

theorem failsOnly_require (keys : List String) : FailsOnly Error.IsSetting (c.require keys) := by
  unfold require
  dsimp only
  split
  · exact .ok _
  · exact .error trivial

end Config

namespace DemoData

open DemoBuild.Action

/-- Capturing frames needs settings. -/
theorem failsOnly_captureLines (c : Config) : FailsOnly Error.IsSetting (captureLines c) :=
  .bind (c.failsOnly_require _) fun _ => .bind (c.failsOnly_needText _) fun _ =>
    .bind (c.failsOnly_needText _) fun _ => .bind (c.failsOnly_needText _) fun _ => .pure _

/-- The resolution is a matter of settings. -/
theorem failsOnly_displayLines (c : Config) : FailsOnly Error.IsSetting (displayLines c) :=
  .bind (c.failsOnly_integer? _) fun _ => .bind (c.failsOnly_integer? _) fun _ =>
    .bind (c.failsOnly_number? _) fun _ => .pure _

/-- The settings of the demo. -/
theorem failsOnly_settingLines (c : Config) : FailsOnly Error.IsSetting (settingLines c) := by
  unfold settingLines
  dsimp only
  split
  · exact .bind (failsOnly_captureLines c) fun _ => .pure _
  · exact .bind (failsOnly_displayLines c) fun _ => .pure _

/-- The settings of the sound. -/
theorem failsOnly_audioLines (c : Config) : FailsOnly Error.IsSetting (audioLines c) := by
  refine .bind (c.failsOnly_text? _) fun tool? => ?_
  split
  · exact .pure _
  · exact .pure _

/-- The settings for looking for faults. -/
theorem failsOnly_debugLines (context : Context) :
    FailsOnly Error.IsSetting (debugLines context) := by
  unfold debugLines
  split
  · exact .pure _
  · dsimp only
    split
    · exact .bind (context.config.failsOnly_needText _) fun _ => .pure _
    · exact .pure _

/-- The lines of a header, given those that are made from settings. -/
def headerLines (d : DemoData) (context : Context) (audio debug settings : List String) :
    List String :=
  ["#pragma once", ""] ++ audio ++ debug ++ uniformLines d.shader context.mode.isDebug ++
    shaderLines d.shader ++ settings ++ d.hooks.map fun hook => "#define " ++ hookMacro hook

/-- Wherever rendering starts, the uniform arrays are checked, and then the settings are read. -/
theorem fst_start_render (d : DemoData) (context : Context) (s : Session) :
    ((d.render context).start s).1 =
      (d.shader.checkUniformArrays >>= fun _ => audioLines context.config >>= fun audio =>
        debugLines context >>= fun debug => settingLines context.config >>= fun settings =>
          .ok ("\n".intercalate (headerLines d context audio debug settings))) := by
  simp only [render, start_bind, start_liftM, start_logAll]
  cases d.shader.checkUniformArrays <;> cases audioLines context.config <;>
    cases debugLines context <;> cases settingLines context.config <;> rfl

/-- There is a header if the uniform arrays are distinct and all settings can be read. -/
theorem start_render_eq_ok_iff {d : DemoData} {context : Context} {s : Session} {text : String} :
    ((d.render context).start s).1 = .ok text ↔
      d.shader.checkUniformArrays = .ok () ∧ ∃ audio debug settings,
        audioLines context.config = .ok audio ∧ debugLines context = .ok debug ∧
          settingLines context.config = .ok settings ∧
            "\n".intercalate (headerLines d context audio debug settings) = text := by
  simp only [fst_start_render, bind_eq_ok_iff, Except.ok.injEq, exists_and_left]
  -- the check gives nothing, so that the header does not depend on what it gives
  exact ⟨fun ⟨(), hcheck, hsettings⟩ => ⟨hcheck, hsettings⟩,
    fun ⟨hcheck, hsettings⟩ => ⟨(), hcheck, hsettings⟩⟩

/-- With distinct uniform arrays, a data header is missing because of settings only. -/
theorem isSetting_of_start_render {d : DemoData} {context : Context} {s : Session} {e : Error}
    (hcheck : d.shader.checkUniformArrays = .ok ())
    (h : ((d.render context).start s).1 = .error e) : e.IsSetting := by
  rw [fst_start_render, hcheck] at h
  have honly : FailsOnly Error.IsSetting (audioLines context.config >>= fun audio =>
      debugLines context >>= fun debug => settingLines context.config >>= fun settings =>
        .ok ("\n".intercalate (headerLines d context audio debug settings))) :=
    .bind (failsOnly_audioLines _) fun _ => .bind (failsOnly_debugLines _) fun _ =>
      .bind (failsOnly_settingLines _) fun _ => .ok _
  exact honly e h

/-! ## What the header depends on -/

/-- The settings that are read in every context. -/
def alwaysRead : List String :=
  ["demo:audio-synthesizer:tool", "demo:duration", "demo:closeWhenFinished",
    "demo:loadingBlackScreen"]

/-- The settings that are read where frames are captured. -/
def captureRead : List String :=
  ["capture:fps", "capture:width", "capture:height"]

/-- The settings that are read where frames are not captured. -/
def displayRead : List String :=
  ["demo:resolution:width", "demo:resolution:height", "demo:resolution:scale"]

/-- The contexts have the same settings, as far as they are read. -/
structure SameSettings (context context' : Context) : Prop where
  /-- The mode is the same. -/
  mode : context'.mode = context.mode
  /-- Either both capture frames or none does. -/
  capture : context'.config.isEnabled "capture" = context.config.isEnabled "capture"
  /-- The settings that are always read. -/
  always : ∀ key ∈ alwaysRead, context'.config.get? key = context.config.get? key
  /-- The settings for capturing frames, if they are captured. -/
  captured : context.config.isEnabled "capture" = true →
    ∀ key ∈ captureRead, context'.config.get? key = context.config.get? key
  /-- The settings for the resolution, if frames are not captured. -/
  displayed : context.config.isEnabled "capture" = false →
    ∀ key ∈ displayRead, context'.config.get? key = context.config.get? key
  /-- The server and its port, if faults are looked for. -/
  server : context.mode = .debug →
    context'.config.isEnabled "server" = context.config.isEnabled "server" ∧
      context'.config.get? "server:port" = context.config.get? "server:port"

section

variable {c c' : Config}

theorem captureLines_congr (h : ∀ key ∈ captureRead, c'.get? key = c.get? key) :
    captureLines c' = captureLines c := by
  have hrequired : c'.require ["capture:fps", "capture:width", "capture:height"] =
      c.require ["capture:fps", "capture:width", "capture:height"] := Config.require_congr h
  rw [captureLines, captureLines, hrequired,
    Config.needText_congr (h "capture:fps" (by simp [captureRead])),
    Config.needText_congr (h "capture:width" (by simp [captureRead])),
    Config.needText_congr (h "capture:height" (by simp [captureRead]))]

theorem displayLines_congr (h : ∀ key ∈ displayRead, c'.get? key = c.get? key) :
    displayLines c' = displayLines c := by
  rw [displayLines, displayLines,
    Config.integer?_congr (h "demo:resolution:width" (by simp [displayRead])),
    Config.integer?_congr (h "demo:resolution:height" (by simp [displayRead])),
    Config.number?_congr (h "demo:resolution:scale" (by simp [displayRead]))]

end

namespace SameSettings

variable {context context' : Context}

theorem audioLines_eq (h : SameSettings context context') :
    audioLines context'.config = audioLines context.config := by
  rw [audioLines, audioLines,
    Config.text?_congr (h.always "demo:audio-synthesizer:tool" (by simp [alwaysRead]))]

theorem debugLines_eq (h : SameSettings context context') :
    debugLines context' = debugLines context := by
  rw [debugLines, debugLines, h.mode]
  cases hmode : context.mode with
  | debug =>
    obtain ⟨henabled, hport⟩ := h.server hmode
    rw [henabled, Config.needText_congr hport]
  | release => rfl

theorem settingLines_eq (h : SameSettings context context') :
    settingLines context'.config = settingLines context.config := by
  have hduration : duration? context'.config = duration? context.config := by
    rw [duration?, duration?, h.always "demo:duration" (by simp [alwaysRead])]
  have hcloses := Config.flag_congr (h.always "demo:closeWhenFinished" (by simp [alwaysRead]))
  have hloading := Config.flag_congr (h.always "demo:loadingBlackScreen" (by simp [alwaysRead]))
  rw [settingLines, settingLines, h.capture, hduration, hcloses, hloading]
  -- the other two groups of settings exclude each other
  cases hcapture : context.config.isEnabled "capture" with
  | true => simp only [if_true, captureLines_congr (h.captured hcapture)]
  | false => simp only [Bool.false_eq_true, if_false, displayLines_congr (h.displayed hcapture)]

end SameSettings

/-- The header, or why it is missing, and what is logged depend on the settings that are read. -/
theorem render_congr {context context' : Context} (h : SameSettings context context')
    (d : DemoData) : d.render context' = d.render context := by
  rw [render, render, h.audioLines_eq, h.debugLines_eq, h.settingLines_eq, h.mode]

/-! ## Keys that are not asked for -/

/-- The key is not asked for: the resolution of the demo where frames are captured, how to capture
them where that is switched off, or the server where faults are not looked for. -/
def Unread (context : Context) (key : String) : Prop :=
  context.config.isEnabled "capture" = true ∧ Config.InSection "demo:resolution" key ∨
    (∃ value, context.config.get? "capture" = some value ∧ value.truthy = false) ∧
      Config.InSection "capture" key ∨
    context.mode = .release ∧ (key = "server" ∨ Config.InSection "server" key)

/-- A key is asked for if it is in none of the sections, as far as these are passed over. -/
theorem not_unread {context : Context} {key : String}
    (hresolution : context.config.isEnabled "capture" = true →
      ¬ Config.InSection "demo:resolution" key)
    (hcapture : ∀ value, context.config.get? "capture" = some value → value.truthy = false →
      ¬ Config.InSection "capture" key)
    (hserver : context.mode = .release → key ≠ "server" ∧ ¬ Config.InSection "server" key) :
    ¬ Unread context key := by
  rintro (⟨henabled, h⟩ | ⟨⟨value, hvalue, hfalsy⟩, h⟩ | ⟨hrelease, h | h⟩)
  · exact hresolution henabled h
  · exact hcapture value hvalue hfalsy h
  · exact (hserver hrelease).1 h
  · exact (hserver hrelease).2 h

/-- The settings that are always read are in none of the sections. -/
theorem not_unread_of_mem_alwaysRead {context : Context} {key : String} (hkey : key ∈ alwaysRead) :
    ¬ Unread context (Config.normalizeKey key) := by
  have hnone : ∀ key ∈ alwaysRead,
      ¬ Config.InSection "demo:resolution" (Config.normalizeKey key) ∧
        ¬ Config.InSection "capture" (Config.normalizeKey key) ∧
        Config.normalizeKey key ≠ "server" ∧
        ¬ Config.InSection "server" (Config.normalizeKey key) := by decide +kernel
  obtain ⟨hresolution, hcapture, hserver⟩ := hnone key hkey
  exact not_unread (fun _ => hresolution) (fun _ _ _ => hcapture) fun _ => hserver

/-- What is read where frames are captured is asked for there. -/
theorem not_unread_of_mem_captureRead {context : Context} {key : String}
    (henabled : context.config.isEnabled "capture" = true) (hkey : key ∈ captureRead) :
    ¬ Unread context (Config.normalizeKey key) := by
  have hnone : ∀ key ∈ captureRead,
      ¬ Config.InSection "demo:resolution" (Config.normalizeKey key) ∧
        Config.normalizeKey key ≠ "server" ∧
        ¬ Config.InSection "server" (Config.normalizeKey key) := by decide +kernel
  obtain ⟨hresolution, hserver⟩ := hnone key hkey
  refine not_unread (fun _ => hresolution) (fun value hvalue hfalsy => ?_) fun _ => hserver
  -- frames are not captured where that is switched off
  rw [Config.isEnabled_of_get?_eq_some hvalue, hfalsy] at henabled
  cases henabled

/-- What is read where frames are not captured is asked for there. -/
theorem not_unread_of_mem_displayRead {context : Context} {key : String}
    (hdisabled : context.config.isEnabled "capture" = false) (hkey : key ∈ displayRead) :
    ¬ Unread context (Config.normalizeKey key) := by
  have hnone : ∀ key ∈ displayRead,
      ¬ Config.InSection "capture" (Config.normalizeKey key) ∧
        Config.normalizeKey key ≠ "server" ∧
        ¬ Config.InSection "server" (Config.normalizeKey key) := by decide +kernel
  obtain ⟨hcapture, hserver⟩ := hnone key hkey
  refine not_unread (fun henabled => ?_) (fun _ _ _ => hcapture) fun _ => hserver
  rw [hdisabled] at henabled
  cases henabled

/-- Whether frames are captured is not decided by keys that are not asked for. -/
theorem isEnabled_capture_eq {context : Context} {c : Config}
    (h : Config.AgreeOutside (Unread context) context.config c) :
    c.isEnabled "capture" = context.config.isEnabled "capture" := by
  refine h.isEnabled_eq ?_ fun hnone stored hstored => ?_
  · exact not_unread (fun _ => by decide) (fun _ _ _ => by decide) fun _ => by decide
  · -- the keys of the section are passed over only if the key itself has a value
    refine not_unread (fun _ => ?_) (fun value hvalue => ?_) fun _ => ⟨?_, ?_⟩
    · exact hstored.not_inSection (by decide)
    · rw [hnone] at hvalue
      cases hvalue
    · rintro rfl
      exact absurd hstored (by decide)
    · exact hstored.not_inSection (by decide)

/-- Where faults are looked for, the server is asked for. -/
theorem server_eq {context : Context} {c : Config} (hdebug : context.mode = .debug)
    (h : Config.AgreeOutside (Unread context) context.config c) :
    c.isEnabled "server" = context.config.isEnabled "server" ∧
      c.get? "server:port" = context.config.get? "server:port" := by
  have hasked {key : String} (hresolution : ¬ Config.InSection "demo:resolution" key)
      (hcapture : ¬ Config.InSection "capture" key) : ¬ Unread context key := by
    refine not_unread (fun _ => hresolution) (fun _ _ _ => hcapture) fun hrelease => ?_
    rw [hdebug] at hrelease
    cases hrelease
  refine ⟨h.isEnabled_eq (hasked (by decide) (by decide)) fun _ stored hstored => ?_,
    h.get?_eq (hasked (by decide) (by decide))⟩
  exact hasked (hstored.not_inSection (by decide))
    (hstored.not_inSection (by decide))

/-- Contexts that differ in keys that are not asked for have the same settings. -/
theorem sameSettings_of_agreeOutside {context context' : Context}
    (hmode : context'.mode = context.mode)
    (h : Config.AgreeOutside (Unread context) context.config context'.config) :
    SameSettings context context' where
  mode := hmode
  capture := isEnabled_capture_eq h
  always := fun _ hkey => h.get?_eq (not_unread_of_mem_alwaysRead hkey)
  captured := fun henabled _ hkey => h.get?_eq (not_unread_of_mem_captureRead henabled hkey)
  displayed := fun hdisabled _ hkey => h.get?_eq (not_unread_of_mem_displayRead hdisabled hkey)
  server := fun hdebug => server_eq hdebug h

/-- Two contexts of one mode give the same header, or the same failure, with the same log, if their
configurations differ in keys only that are not asked for: in the resolution of the demo where
frames are captured, in how to capture them where that is switched off, and in the server where
faults are not looked for. Such keys may be added, removed, or changed to any value. -/
theorem render_isolated (d : DemoData) {context context' : Context}
    (hmode : context'.mode = context.mode)
    (h : Config.AgreeOutside (Unread context) context.config context'.config) (s : Session) :
    (d.render context').start s = (d.render context).start s := by
  rw [render_congr (sameSettings_of_agreeOutside hmode h) d]

/-- A configuration of a demo that captures frames. -/
def capturing : Config :=
  ((Config.empty.set "capture:fps" (.integer 60)).set "capture:width" (.integer 1920)).set
    "capture:height" (.integer 1080)

/-- A published demo that captures frames has the same header with an invalid resolution and a
server, and one in which faults are looked for has the same header with an invalid way of capturing
frames, if that is switched off. -/
theorem render_isolated_capture :
    let d : DemoData := ⟨{ passes := [{ vertexCode := some "gl_Position = vec4(0.);" }] }, ["loop"]⟩
    let s : Session := { files := FileSystem.empty }
    let other := (capturing.set "demo.resolution.width" (.text "wide")).set "server.port" (.list [])
    let off := Config.empty.set "capture" (.bool false)
    ((d.render ⟨capturing, .release⟩).start s).1.isOk = true ∧
      (d.render ⟨other, .release⟩).start s = (d.render ⟨capturing, .release⟩).start s ∧
      ((d.render ⟨off, .debug⟩).start s).1.isOk = true ∧
      (d.render ⟨off.set "capture:fps" (.list []), .debug⟩).start s =
        (d.render ⟨off, .debug⟩).start s := by
  intro d s other off
  have hother : Config.AgreeOutside (Unread ⟨capturing, .release⟩) capturing other :=
    ((Config.AgreeOutside.refl _ _).set (.inl ⟨by decide, by decide⟩) _).set
      (.inr (.inr ⟨rfl, by decide⟩)) _
  have hoff : Config.AgreeOutside (Unread ⟨off, .debug⟩) off
      (off.set "capture:fps" (.list [])) :=
    (Config.AgreeOutside.refl _ _).set (.inr (.inl ⟨⟨.bool false, rfl, rfl⟩, by decide⟩)) _
  exact ⟨by decide +kernel, @render_isolated d ⟨capturing, .release⟩ ⟨other, .release⟩ rfl hother s,
    by decide +kernel,
    @render_isolated d ⟨off, .debug⟩ ⟨off.set "capture:fps" (.list []), .debug⟩ rfl hoff s⟩

end DemoData

end DemoBuild
