import DemoBuild.Include.Expansion

/-!
# Steps of the flattener

What each function of the flattener does in each case. Everything that is proved about runs of the
flattener rests on these equations, and on the induction on its calls.

## Main results

* `Flattener.enter_of_error`, `Flattener.enter_of_ok`: reading a file;
* `Flattener.resolve_of_mem_stack`, `Flattener.resolve_of_mem_met`, `Flattener.resolve_of_not_mem`:
  what a directive is replaced by;
* `Flattener.expandIncludes_of_none`, `Flattener.expandIncludes_of_error`,
  `Flattener.expandIncludes_of_ok`: going on behind a position;
* `replaceRange_append`: editing a text in place.
-/

namespace DemoBuild

/-- Replacing what stands between two positions leaves what is in front and behind. -/
theorem replaceRange_append (done before cut after replacement : List Char) :
    replaceRange (done ++ (before ++ cut ++ after)) (done.length + before.length)
      (done.length + before.length + cut.length) replacement =
        done ++ before ++ replacement ++ after := by
  have hstart : (done ++ (before ++ cut ++ after)).take (done.length + before.length) =
      done ++ before := by
    rw [← List.length_append, List.append_assoc before, ← List.append_assoc done, List.take_left]
  have hstop : (done ++ (before ++ cut ++ after)).drop
      (done.length + before.length + cut.length) = after := by
    rw [← List.length_append, ← List.length_append, ← List.append_assoc, ← List.append_assoc,
      List.drop_left]
  rw [replaceRange, hstart, hstop]

/-- The replacement lies in the edited text. -/
theorem le_length_replaceRange {text : List Char} {start : Nat} (hstart : start ≤ text.length)
    (stop : Nat) (replacement : List Char) :
    start + replacement.length ≤ (replaceRange text start stop replacement).length := by
  simp only [replaceRange, List.length_append, List.length_take_of_le hstart]
  omega

namespace Flattener
variable {sources : Sources} {f : Flattener}

/-- A file that cannot be read ends the expansion. -/
theorem enter_of_error {l : Location} (new : l ∉ f.met) {reason : FileError}
    (hread : sources.read l = .error reason) :
    (enter sources f l new).1 = ⟨f.meet l, [], .error (.file l.path reason)⟩ := by
  rw [enter]
  split
  · next hread' =>
    rw [hread] at hread'
    cases hread'
    rfl
  · next hread' => simp [hread] at hread'

/-- The text of a file that can be read is expanded. -/
theorem enter_of_ok {l : Location} (new : l ∉ f.met) {text : String}
    (hread : sources.read l = .ok text) :
    (enter sources f l new).1 =
      let e := (expandIncludes sources l.directory ((f.meet l).push l) text.toList 0).1
      { e with flattener := e.flattener.pop } := by
  rw [enter]
  split
  · next hread' => simp [hread] at hread'
  · next hread' =>
    rw [hread] at hread'
    cases hread'
    rfl

/-- A directive that names a file being expanded is left out. -/
theorem resolve_of_mem_stack {target : Location} (hstack : target ∈ f.stack) :
    (resolve sources f target).1 =
      ⟨f, [Expansion.note "skipping cyclic include: " target], .ok []⟩ := by
  rw [resolve, if_pos hstack]

/-- A directive that names a file met before is left out. -/
theorem resolve_of_mem_met {target : Location} (hstack : target ∉ f.stack) (hmet : target ∈ f.met) :
    (resolve sources f target).1 =
      ⟨f, [Expansion.note "skipping repeated include: " target], .ok []⟩ := by
  rw [resolve, if_neg hstack, dif_pos hmet]

/-- A directive that names a file for the first time is replaced by the expanded file. -/
theorem resolve_of_not_mem {target : Location} (hstack : target ∉ f.stack) (hnew : target ∉ f.met) :
    (resolve sources f target).1 =
      let e := (enter sources f target hnew).1
      { e with log := Expansion.note "found include path: " target :: e.log } := by
  rw [resolve, if_neg hstack, dif_neg hnew]

/-- A text without a directive behind the position is finished. -/
theorem expandIncludes_of_none {directory : Location} {buffer before : List Char} {offset : Nat}
    (hfound : Directive.splitFirst [] (buffer.drop offset) = (before, none)) :
    (expandIncludes sources directory f buffer offset).1 = ⟨f, [], .ok buffer⟩ := by
  rw [expandIncludes]
  split
  · rfl
  · next h => simp [hfound] at h

/-- A failure inside an included file is the failure of the text. -/
theorem expandIncludes_of_error {directory : Location} {buffer before after : List Char}
    {offset : Nat} {d : Directive} {e : Error}
    (hfound : Directive.splitFirst [] (buffer.drop offset) = (before, some (d, after)))
    (hinner :
      (resolve sources f (directory.follow ⟨String.ofList d.target⟩)).1.outcome = .error e) :
    (expandIncludes sources directory f buffer offset).1 =
      (resolve sources f (directory.follow ⟨String.ofList d.target⟩)).1 := by
  rw [expandIncludes]
  split
  · next h => simp [hfound] at h
  · next h =>
    rw [hfound] at h
    cases h
    simp only
    split
    · next h' =>
      rw [hinner] at h'
      cases h'
      rw [← hinner]
    · next h' => simp [hinner] at h'

/-- Behind the replacement of a directive the expansion goes on. -/
theorem expandIncludes_of_ok {directory : Location} {buffer before after replacement : List Char}
    {offset : Nat} {d : Directive}
    (hfound : Directive.splitFirst [] (buffer.drop offset) = (before, some (d, after)))
    (hinner : (resolve sources f (directory.follow ⟨String.ofList d.target⟩)).1.outcome =
      .ok replacement) :
    (expandIncludes sources directory f buffer offset).1 =
      let inner := (resolve sources f (directory.follow ⟨String.ofList d.target⟩)).1
      let e := (expandIncludes sources directory inner.flattener
        (replaceRange buffer (offset + before.length) (offset + before.length + d.text.length)
          replacement) (offset + before.length + replacement.length)).1
      { e with log := inner.log ++ e.log } := by
  rw [expandIncludes]
  split
  · next h => simp [hfound] at h
  · next h =>
    rw [hfound] at h
    cases h
    simp only
    split
    · next h' => simp [hinner] at h'
    · next h' =>
      rw [hinner] at h'
      cases h'
      rfl

end Flattener

end DemoBuild
