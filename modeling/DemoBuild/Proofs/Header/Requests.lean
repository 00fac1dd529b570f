import DemoBuild.Header.Requests
import DemoBuild.Proofs.Header.Bindings
import DemoBuild.Proofs.Session

/-!
# Requests one after the other

A request appends a name that is new and changes nothing otherwise. So whatever is requested, what
the engine needs stays in front, no name occurs twice, and a name keeps its position. That is what
makes the table of bindings invertible: in a table for names that may repeat, a slot can hold a
function whose first slot is another one.

## Main definitions

* `Requests.names` and `Requests.add`: the names of one kind, and a request of that kind;
* `Requests.after`: what is requested after a history of requests;
* `Requests.Extends` and `Requests.Distinct`: names have been appended only, and none is repeated;
* `Requests.Reachable`: what can be requested;
* `Requests.Declares` and `Requests.bindingsExcept`: what a header has, and the bindings if some
  symbols are refused.

## Main results

* `Requests.names_add`: what a request does;
* `Requests.extends_after` and `Requests.Distinct.after`: what a history keeps;
* `Bindings.indexOf?_ofHeader_eq_some_iff`: the position of a function whose name occurs once;
* `Requests.bindExcept_refused_missing`: what becomes of symbols that cannot be searched for;
* `Requests.reachable_invariant`: what can be requested, and its bindings.
-/

namespace DemoBuild

namespace Bindings

variable {header : String} {constants functions : List String}

/-- If no function is requested twice, the first slot of a function is the only one that holds
it. -/
theorem indexOf?_ofHeader_eq_some_iff (hfunctions : functions.Nodup) {i : Nat} {name : String} :
    (ofHeader header constants functions).table.indexOf? name = some i ↔
      (ofHeader header constants functions).table.slot? i = some name := by
  have hslot (j : Nat) : (ofHeader header constants functions).table.slot? j = some name ↔
      (ofHeader header constants functions).table.slots[j]? = some (some name) := by
    rw [BindingTable.slot?, Option.join_eq_some_iff]
  rw [BindingTable.indexOf?, List.findIdx?_eq_some_iff_getElem, hslot, List.getElem?_eq_some_iff]
  constructor
  · rintro ⟨hi, hname, -⟩
    exact ⟨hi, beq_iff_eq.mp hname⟩
  · rintro ⟨hi, hname⟩
    refine ⟨hi, beq_iff_eq.mpr hname, fun j hji hj => ?_⟩
    -- an earlier slot with the same name would belong to an earlier request of it
    have hrequest (k : Nat) (hk : k < (ofHeader header constants functions).table.slots.length)
        (hheld : (ofHeader header constants functions).table.slots[k] = some name) :
        functions[k]? = some name :=
      (slot?_ofHeader_eq_some_iff.mp
        ((hslot k).mpr (List.getElem?_eq_some_iff.mpr ⟨hk, hheld⟩))).1
    have hearlier := hrequest j (hji.trans hi) (beq_iff_eq.mp hj)
    have hj' : j < functions.length := (List.getElem?_eq_some_iff.mp hearlier).1
    have hsame : j = i :=
      (List.getElem?_inj hj' hfunctions).mp (hearlier.trans (hrequest i hi hname).symm)
    omega

/-- A function that is requested twice has two slots, and is found at the first one only. -/
example :
    let t := (ofHeader "typedef void (GLAPIENTRY * PFNAPROC) (void);" [] ["a", "a"]).table
    t.slot? 1 = some "a" ∧ t.indexOf? "a" = some 0 := by
  decide +kernel

end Bindings

namespace Requests

variable (r : Requests)

/-! ## One request -/

/-- The names of a kind that are requested. -/
def names : SymbolKind → List String
  | .constant => r.constants
  | .function => r.functions

/-- Requests a symbol of a kind, and says whether the request is new. -/
def add : SymbolKind → String → Bool × Requests
  | .constant, name => r.addConstant name
  | .function, name => r.addFunction name

/-- Requests with the same names are the same. -/
theorem ext_names {r r' : Requests} (h : ∀ kind, r.names kind = r'.names kind) : r = r' := by
  obtain ⟨constants, functions⟩ := r
  obtain ⟨constants', functions'⟩ := r'
  have hconstants : constants = constants' := h .constant
  have hfunctions : functions = functions' := h .function
  rw [hconstants, hfunctions]

/-- A request is new if the name has not been requested. -/
theorem add_fst_eq_true_iff (kind : SymbolKind) (name : String) :
    (r.add kind name).1 = true ↔ name ∉ r.names kind := by
  cases kind with
  | constant =>
    by_cases h : name ∈ r.constants <;> simp [add, names, addConstant, appendNew, h]
  | function =>
    by_cases h : name ∈ r.functions <;> simp [add, names, addFunction, appendNew, h]

/-- A request appends a name that is new to the names of its kind; otherwise it leaves them as they
are, and those of the other kind in any case. -/
theorem names_add (kind : SymbolKind) (name : String) (kind' : SymbolKind) :
    (r.add kind name).2.names kind' =
      if kind' = kind ∧ name ∉ r.names kind then r.names kind ++ [name] else r.names kind' := by
  cases kind with
  | constant =>
    by_cases h : name ∈ r.constants <;> cases kind' <;>
      simp [add, names, addConstant, appendNew, h]
  | function =>
    by_cases h : name ∈ r.functions <;> cases kind' <;>
      simp [add, names, addFunction, appendNew, h]

/-- A name that is requested again changes nothing. -/
theorem add_of_mem {kind : SymbolKind} {name : String} (h : name ∈ r.names kind) :
    (r.add kind name).2 = r := by
  refine ext_names fun kind' => ?_
  rw [names_add, if_neg fun hnew => hnew.2 h]

/-! ## Histories -/

/-- What is requested after a history of requests, oldest first. -/
def after (history : List (SymbolKind × String)) : Requests :=
  history.foldl (fun r request => (r.add request.1 request.2).2) r

/-- Names have been appended only. -/
def Extends (r r' : Requests) : Prop :=
  ∀ kind, r.names kind <+: r'.names kind

/-- No name is requested twice. -/
def Distinct : Prop :=
  ∀ kind, (r.names kind).Nodup

theorem after_append (history more : List (SymbolKind × String)) :
    r.after (history ++ more) = (r.after history).after more :=
  List.foldl_append

/-- A request appends at most one name. -/
theorem extends_add (kind : SymbolKind) (name : String) : Extends r (r.add kind name).2 := by
  intro kind'
  rw [names_add]
  split
  · next h =>
    obtain ⟨rfl, -⟩ := h
    exact List.prefix_append _ _
  · exact List.prefix_refl _

variable {r}

/-- A request keeps the names distinct. -/
theorem Distinct.add (h : r.Distinct) (kind : SymbolKind) (name : String) :
    (r.add kind name).2.Distinct := by
  intro kind'
  rw [names_add]
  split
  · next hnew => exact List.nodup_append.mpr ⟨h kind, by simp, by grind⟩
  · exact h kind'

/-- What has been requested stays where it is. -/
theorem extends_after (r : Requests) (history : List (SymbolKind × String)) :
    Extends r (r.after history) := by
  induction history generalizing r with
  | nil => exact fun kind => List.prefix_refl _
  | cons request history ih =>
    intro kind
    exact (r.extends_add request.1 request.2 kind).trans (ih _ kind)

/-- Requests keep the names distinct. -/
theorem Distinct.after (h : r.Distinct) (history : List (SymbolKind × String)) :
    (r.after history).Distinct := by
  induction history generalizing r with
  | nil => exact h
  | cons request history ih => exact ih (h.add request.1 request.2)

/-- The engine needs no symbol twice. -/
theorem distinct_initial : initial.Distinct := by
  intro kind
  cases kind <;> decide

/-- What can be requested: what the engine needs, or that and what the configuration names, with
any further requests. -/
inductive Reachable : Requests → Prop
  | initial : Reachable initial
  | ofConfig (config : Config) : Reachable (.ofConfig config)
  | add {r : Requests} (kind : SymbolKind) (name : String) :
    Reachable r → Reachable (r.add kind name).2

/-- The configured symbols are requested after those that the engine needs, constants first. -/
theorem ofConfig_eq_after (config : Config) :
    ofConfig config = Requests.initial.after
      ((config.texts "demo:gl:constants").map (.constant, ·) ++
        (config.texts "demo:gl:functions").map (.function, ·)) := by
  -- each list is requested by a loop of its own
  rw [after_append, after, after, List.foldl_map, List.foldl_map]
  rfl

/-- What the engine needs stays in front, and no name occurs twice. -/
theorem Reachable.extends_distinct (h : Reachable r) :
    Extends Requests.initial r ∧ r.Distinct := by
  induction h with
  | initial => exact ⟨fun kind => List.prefix_refl _, distinct_initial⟩
  | ofConfig config =>
    rw [ofConfig_eq_after]
    exact ⟨extends_after _ _, distinct_initial.after _⟩
  | add kind name _ ih =>
    obtain ⟨hextends, hdistinct⟩ := ih
    exact ⟨fun kind' => (hextends kind').trans (extends_add _ kind name kind'),
      hdistinct.add kind name⟩

/-- A name keeps its position while names are appended. -/
theorem Extends.idxOf_eq {r' : Requests} (h : Extends r r') {kind : SymbolKind} {name : String}
    (hname : name ∈ r.names kind) : (r'.names kind).idxOf name = (r.names kind).idxOf name := by
  obtain ⟨more, hmore⟩ := h kind
  rw [← hmore, List.idxOf_append_of_mem hname]

/-! ## Bindings -/

/-- The bindings are taken from the header for the names that are requested. -/
theorem start_bind_fst (header : String) (s : Session) :
    ((r.bind header).start s).1 = .ok (Bindings.ofHeader header r.constants r.functions) :=
  rfl

/-- Whatever has been requested, what the engine needs stands in front and no name occurs twice. A
request is new exactly if its name has not been requested, and then it appends the name; otherwise
it changes nothing. Names keep their positions through all further requests. In the table of
bindings, a slot that is not empty holds the function that was requested at its position, and it is
the slot at which the function is found. -/
theorem reachable_invariant (h : Reachable r) :
    (∀ kind, Requests.initial.names kind <+: r.names kind ∧ (r.names kind).Nodup) ∧
    (∀ kind name, ((r.add kind name).1 = true ↔ name ∉ r.names kind) ∧
      (name ∉ r.names kind → ∀ kind', (r.add kind name).2.names kind' =
        if kind' = kind then r.names kind ++ [name] else r.names kind') ∧
      (name ∈ r.names kind → (r.add kind name).2 = r)) ∧
    (∀ history kind name, name ∈ r.names kind →
      ((r.after history).names kind).idxOf name = (r.names kind).idxOf name) ∧
    ∀ header s, ∃ bindings, ((r.bind header).start s).1 = .ok bindings ∧ ∀ i name,
      (bindings.table.slot? i = some name → r.functions[i]? = some name) ∧
      (bindings.table.slot? i = some name ↔ bindings.table.indexOf? name = some i) := by
  obtain ⟨hextends, hdistinct⟩ := h.extends_distinct
  refine ⟨fun kind => ⟨hextends kind, hdistinct kind⟩, fun kind name => ?_,
    fun history kind name hname => ?_, fun header s => ?_⟩
  · refine ⟨r.add_fst_eq_true_iff kind name, fun hnew kind' => ?_, r.add_of_mem⟩
    rw [names_add]
    simp only [hnew, not_false_eq_true, and_true]
  · exact (extends_after r history).idxOf_eq hname
  · -- the functions are distinct, so that the table can be inverted
    refine ⟨_, start_bind_fst header s, fun i name => ⟨fun hslot => ?_, ?_⟩⟩
    · exact (Bindings.slot?_ofHeader_eq_some_iff.mp hslot).1
    · exact (Bindings.indexOf?_ofHeader_eq_some_iff (hdistinct .function)).symm

/-- A configuration that names a function of the engine again, and another function twice. -/
def repeating : Config :=
  Config.empty.set "demo.gl.functions"
    (.list [.text "glUseProgram", .text "glMapBuffer", .text "glMapBuffer"])

/-- The other function gets the position behind those of the engine, and keeps it. -/
theorem reachable_invariant_glMapBuffer :
    let r := ((ofConfig repeating).add .function "glClear").2
    Reachable r ∧ (r.names .function).idxOf "glMapBuffer" = 8 ∧
      (r.add .function "glMapBuffer").2 = r ∧
      ((r.after [(.constant, "GL_NICEST"), (.function, "glFlush")]).names .function).idxOf
        "glMapBuffer" = 8 ∧
      ∃ bindings, ((r.bind "typedef void* (GLAPIENTRY * PFNGLMAPBUFFERPROC) (GLenum target);").start
          { files := FileSystem.empty }).1 = .ok bindings ∧
        bindings.table.slot? 8 = some "glMapBuffer" ∧
        bindings.table.indexOf? "glMapBuffer" = some 8 := by
  intro r
  have hreachable : Reachable r := .add _ _ (.ofConfig repeating)
  have hmem : "glMapBuffer" ∈ r.names .function := by decide +kernel
  have hposition : (r.names .function).idxOf "glMapBuffer" = 8 := by decide +kernel
  obtain ⟨-, hadd, hkept, htable⟩ := reachable_invariant hreachable
  obtain ⟨bindings, hbindings, hslots⟩ :=
    htable "typedef void* (GLAPIENTRY * PFNGLMAPBUFFERPROC) (GLenum target);"
      { files := FileSystem.empty }
  have hslot : bindings.table.slot? 8 = some "glMapBuffer" := by
    rw [← Except.ok.inj hbindings]
    decide +kernel
  exact ⟨hreachable, hposition, (hadd .function "glMapBuffer").2.2 hmem,
    (hkept _ .function "glMapBuffer" hmem).trans hposition, bindings, hbindings, hslot,
    (hslots 8 "glMapBuffer").2.mp hslot⟩

/-! ## Refused symbols -/

/-- The header has what is asked for a symbol. -/
def Declares (header : String) : SymbolKind → String → Prop
  | .constant, name => Bindings.DefinesConstant header name
  | .function, name => Bindings.DeclaresFunction header name

/-- A line is found for the symbols that the header has and that are not refused. -/
theorem isSome_except_searchOf_iff {header : String} {refusals : Refusals} {kind : SymbolKind}
    {name : String} :
    ((Bindings.searchOf header).except refusals kind name).isSome = true ↔
      refusals kind name = none ∧ Declares header kind name := by
  rw [SymbolSearch.except]
  cases hrefused : refusals kind name with
  | some problem => simp
  | none =>
    rw [if_neg (by simp)]
    cases kind with
    | constant => simp [Declares, Bindings.isSome_constantLine?_iff]
    | function => simp [Declares, Bindings.isSome_typeLine?_iff]

/-- The bindings that there are if some symbols are refused. -/
def bindingsExcept (r : Requests) (refusals : Refusals) (header : String) : Bindings :=
  .ofSearch ((Bindings.searchOf header).except refusals) r.constants r.functions

/-- The reasons are logged first, then what is missing. -/
theorem start_bindExcept (refusals : Refusals) (header : String) (s : Session) :
    (bindExcept refusals r header).start s = (.ok (r.bindingsExcept refusals header),
      s.logged ((r.problems refusals).map searchWarning ++
        (r.bindingsExcept refusals header).missing.map fun m => ⟨.warning, m.message⟩)) := by
  rw [← Session.logged_logged]
  rfl

/-- The bindings depend on the refusals of the requested symbols only. -/
theorem bindingsExcept_congr {refusals refusals' : Refusals}
    (h : ∀ kind, ∀ name ∈ r.names kind, refusals kind name = refusals' kind name)
    (header : String) : r.bindingsExcept refusals header = r.bindingsExcept refusals' header := by
  have hsearch (kind : SymbolKind) (name : String) (hname : name ∈ r.names kind) :
      (Bindings.searchOf header).except refusals kind name =
        (Bindings.searchOf header).except refusals' kind name := by
    rw [SymbolSearch.except, SymbolSearch.except, h kind name hname]
  -- the constants are those of one kind, the functions those of the other
  exact Bindings.ofSearch_congr (hsearch .constant) (hsearch .function)

/-- The problems depend on the refusals of the requested symbols only. -/
theorem problems_congr {refusals refusals' : Refusals}
    (h : ∀ kind, ∀ name ∈ r.names kind, refusals kind name = refusals' kind name) :
    r.problems refusals = r.problems refusals' :=
  congrArg₂ (· ++ ·) (List.filterMap_congr (h .constant)) (List.filterMap_congr (h .function))

/-- Symbols that cannot be searched for stop nothing: whatever is refused, there are bindings. A
symbol that is refused is missing, as one that the header does not have, and a function that is
refused keeps its slot, which stays empty. The reasons are logged first, then what is missing. If
nothing that is requested is refused, all is as if nothing were refused. -/
theorem bindExcept_refused_missing (refusals : Refusals) (header : String) (s : Session) :
    (∃ bindings, ((bindExcept refusals r header).start s).1 = .ok bindings ∧
      bindings.table.size = r.functions.length ∧
      (∀ i name, bindings.table.slot? i = some name ↔ r.functions[i]? = some name ∧
        refusals .function name = none ∧ Declares header .function name) ∧
      (∀ kind name, ⟨kind, name⟩ ∈ bindings.missing ↔ name ∈ r.names kind ∧
        (refusals kind name = none → ¬ Declares header kind name)) ∧
      ((bindExcept refusals r header).start s).2 =
        s.logged ((r.problems refusals).map searchWarning ++
          bindings.missing.map fun m => ⟨.warning, m.message⟩)) ∧
    ((∀ kind, ∀ name ∈ r.names kind, refusals kind name = none) →
      (bindExcept refusals r header).start s = (r.bind header).start s) := by
  rw [start_bindExcept]
  refine ⟨⟨_, rfl, List.length_map .., fun i name => ?_, fun kind name => ?_, rfl⟩, fun h => ?_⟩
  · rw [bindingsExcept, Bindings.slot?_ofSearch_eq_some_iff, isSome_except_searchOf_iff]
  · rw [bindingsExcept, Bindings.mem_missing_ofSearch_iff, ← Option.not_isSome_iff_eq_none,
      isSome_except_searchOf_iff, not_and, and_comm]
    cases kind <;> rfl
  · rw [bind, start_bindExcept, problems_congr h, bindingsExcept_congr h]

/-- A name that is too long for the search is missing, though the header has it. -/
example :
    let refusals : Refusals := fun _ name => if name.length > 4 then some "too long" else none
    let r : Requests := { constants := ["GL_A", "GL_LONG"], functions := [] }
    ((bindExcept refusals r "#define GL_A 1\n#define GL_LONG 2").start
      { files := FileSystem.empty }).2.log.map (·.text) =
        ["unable to search vendored header: too long",
          "OpenGL constant GL_LONG does not seem to exist."] := by
  decide +kernel

end Requests

end DemoBuild
