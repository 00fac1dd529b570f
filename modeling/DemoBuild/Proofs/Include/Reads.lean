import DemoBuild.Proofs.Include.DepthFirst

/-!
# Reading files

Which files are read while another one is flattened. The functions here follow the calls of the
flattener and list the locations at which it reads, in order. A file is read when it is met, and at
no other time, so the files that are met say all about what is read.

## Main definitions

* `Flattener.enterReads`, `Flattener.resolveReads` and `Flattener.expandReads`: what the functions
  of the flattener read;
* `Flattener.reads`: what is read when a file is flattened.

## Main results

* `Flattener.met_eq_all`: the files that are read are met, and no others;
* `Flattener.map_path_reads`: so they are the visited ones.
-/

namespace DemoBuild

namespace Flattener

mutual

/-- The locations that are read, in order, when a file is entered. -/
def enterReads (sources : Sources) (f : Flattener) (l : Location) (new : l ∉ f.met) :
    List Location :=
  match readable : sources.read l with
  | .error _ => [l]
  | .ok text =>
    have := Sources.unmet_lt (sources.mem_readable readable) new (List.Subset.refl _)
    l :: expandReads sources l.directory ((f.meet l).push l) text.toList 0
  termination_by (sources.unmet f.met, 0, 0)

/-- The locations that are read for a directive that names `target`. -/
def resolveReads (sources : Sources) (f : Flattener) (target : Location) : List Location :=
  if target ∈ f.stack then []
  else if new : target ∈ f.met then []
  else enterReads sources f target new
  termination_by (sources.unmet f.met, 1, 0)

/-- The locations that are read for the directives of a text that stand behind `offset`. -/
def expandReads (sources : Sources) (directory : Location) (f : Flattener) (buffer : List Char)
    (offset : Nat) : List Location :=
  match found : Directive.splitFirst [] (buffer.drop offset) with
  | (_, none) => []
  | (before, some (d, _)) =>
    let start := offset + before.length
    let stop := start + d.text.length
    let target := directory.follow ⟨String.ofList d.target⟩
    let ⟨inner, sub⟩ := resolve sources f target
    match inner.outcome with
    | .error _ => resolveReads sources f target
    | .ok replacement =>
      have _fewer := Sources.unmet_le sources sub
      have _less := remaining_lt_of_splitFirst found replacement
      resolveReads sources f target ++ expandReads sources directory inner.flattener
        (replaceRange buffer start stop replacement) (start + replacement.length)
  termination_by (sources.unmet f.met, 2, buffer.length - offset)
  decreasing_by
    · decreasing_tactic
    · decreasing_tactic
    · exact Prod.Lex.right' _ _fewer (Prod.Lex.right _ _less)

end

/-- The locations that are read, in order, when a file is flattened. -/
def reads (sources : Sources) (f : Flattener) (path : Path) : List Location :=
  enterReads sources f.clear path.location List.not_mem_nil

variable {sources : Sources} {f : Flattener}

theorem enterReads_of_error {l : Location} (new : l ∉ f.met) {reason : FileError}
    (hread : sources.read l = .error reason) : enterReads sources f l new = [l] := by
  rw [enterReads]
  split
  · rfl
  · next hread' => simp [hread] at hread'

theorem enterReads_of_ok {l : Location} (new : l ∉ f.met) {text : String}
    (hread : sources.read l = .ok text) :
    enterReads sources f l new =
      l :: expandReads sources l.directory ((f.meet l).push l) text.toList 0 := by
  rw [enterReads]
  split
  · next hread' => simp [hread] at hread'
  · next hread' =>
    rw [hread] at hread'
    cases hread'
    rfl

theorem expandReads_of_none {directory : Location} {buffer before : List Char} {offset : Nat}
    (hfound : Directive.splitFirst [] (buffer.drop offset) = (before, none)) :
    expandReads sources directory f buffer offset = [] := by
  rw [expandReads]
  split
  · rfl
  · next h => simp [hfound] at h

theorem expandReads_of_error {directory : Location} {buffer before after : List Char}
    {offset : Nat} {d : Directive} {e : Error}
    (hfound : Directive.splitFirst [] (buffer.drop offset) = (before, some (d, after)))
    (hinner :
      (resolve sources f (directory.follow ⟨String.ofList d.target⟩)).1.outcome = .error e) :
    expandReads sources directory f buffer offset =
      resolveReads sources f (directory.follow ⟨String.ofList d.target⟩) := by
  rw [expandReads]
  split
  · next h => simp [hfound] at h
  · next h =>
    rw [hfound] at h
    cases h
    simp only
    split
    · rfl
    · next h' => simp [hinner] at h'

theorem expandReads_of_ok {directory : Location} {buffer before after replacement : List Char}
    {offset : Nat} {d : Directive}
    (hfound : Directive.splitFirst [] (buffer.drop offset) = (before, some (d, after)))
    (hinner : (resolve sources f (directory.follow ⟨String.ofList d.target⟩)).1.outcome =
      .ok replacement) :
    expandReads sources directory f buffer offset =
      resolveReads sources f (directory.follow ⟨String.ofList d.target⟩) ++
        expandReads sources directory
          (resolve sources f (directory.follow ⟨String.ofList d.target⟩)).1.flattener
          (replaceRange buffer (offset + before.length) (offset + before.length + d.text.length)
            replacement) (offset + before.length + replacement.length) := by
  rw [expandReads]
  split
  · next h => simp [hfound] at h
  · next h =>
    rw [hfound] at h
    cases h
    simp only
    split
    · next h' => simp [hinner] at h'
    · next h' =>
      rw [hinner] at h'
      cases h'
      rfl

/-- Every file that is met is read when it is met, and no other one is read. The induction is on the
calls of the flattener. -/
theorem met_eq_all (sources : Sources) :
    (∀ (f : Flattener) (l : Location) (new : l ∉ f.met),
      (enter sources f l new).1.flattener.met =
        (enterReads sources f l new).reverse ++ f.met) ∧
    (∀ (directory : Location) (f : Flattener) (buffer : List Char) (offset : Nat),
      (expandIncludes sources directory f buffer offset).1.flattener.met =
        (expandReads sources directory f buffer offset).reverse ++ f.met) ∧
    (∀ (f : Flattener) (target : Location),
      (resolve sources f target).1.flattener.met =
        (resolveReads sources f target).reverse ++ f.met) := by
  apply enter.mutual_induct sources
  -- entering a file that cannot be read
  case case1 =>
    intro f l new reason hread
    rw [enter_of_error new hread, enterReads_of_error new hread]
    rfl
  -- entering a file that can be read
  case case2 =>
    intro f l new text hread _ e _ _ ih
    rw [enter_of_ok new hread, enterReads_of_ok new hread, List.reverse_cons, List.append_assoc]
    exact ih
  -- no directive is left
  case case3 =>
    intro directory f buffer offset before hfound
    rw [expandIncludes_of_none hfound, expandReads_of_none hfound]
    rfl
  -- the file that the first directive names fails
  case case4 =>
    intro directory f buffer offset before d after hfound inner _ hinner e he ih
    have hinner' : (resolve sources f (directory.follow ⟨String.ofList d.target⟩)).1 = inner := by
      rw [hinner]
    rw [expandIncludes_of_error hfound (hinner' ▸ he), expandReads_of_error hfound (hinner' ▸ he)]
    exact ih
  -- the first directive is replaced
  case case5 =>
    intro directory f buffer offset before d after hfound start stop inner _ hinner replacement he
      _ _ e _ _ ih ihrest
    have hinner' : (resolve sources f (directory.follow ⟨String.ofList d.target⟩)).1 = inner := by
      rw [hinner]
    rw [expandIncludes_of_ok hfound (hinner' ▸ he), expandReads_of_ok hfound (hinner' ▸ he),
      List.reverse_append, List.append_assoc, ← ih, hinner']
    exact ihrest
  -- a file that is being expanded, or has been met
  case case6 =>
    intro f target hstack
    rw [resolve_of_mem_stack hstack, resolveReads, if_pos hstack]
    rfl
  case case7 =>
    intro f target hstack hmet
    rw [resolve_of_mem_met hstack hmet, resolveReads, if_neg hstack, dif_pos hmet]
    rfl
  -- a file that has not been met
  case case8 =>
    intro f target hstack hnew e _ _ ih
    rw [resolve_of_not_mem hstack hnew, resolveReads, if_neg hstack, dif_neg hnew]
    exact ih

/-- The files that are read are those that are met, in the same order. -/
theorem map_path_reads (sources : Sources) (f : Flattener) (root : Path) :
    (f.reads sources root).map Location.path = (f.flatten sources root).flattener.visited := by
  have hmet := (met_eq_all sources).1 f.clear root.location List.not_mem_nil
  rw [visited, flatten, hmet]
  simp [clear, reads]

end Flattener

end DemoBuild
