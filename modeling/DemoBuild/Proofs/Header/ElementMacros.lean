import DemoBuild.Proofs.Header.Uniforms
import Mathlib.Logic.Relation

/-!
# Macros for the elements of uniform arrays

The data header has a macro for each element of a uniform array. It is called by the name of the
element in Pascal case, and all macros share one namespace, whatever arrays the elements belong to.
Pascal case has no underscores, and it does not tell letters that follow one from capitals, so names
that are distinct can give one macro: `time_offset` and `timeOffset` do. What follows describes by
rules which names those are. Names in snake case are not among them.

## Main definitions

* `DemoData.Respelling`: a change of a name that its macro does not show;
* `DemoData.Respelled`: names that are brought to each other by such changes;
* `DemoData.snakeCase`: names of words in lower case with one underscore between them.

## Main results

* `DemoData.pascalCaseFrom_true_eq_iff`: names are the same in Pascal case if they are respelled;
* `DemoData.pascalCaseFrom_inj`: names in snake case are told apart;
* `DemoData.elementMacros_distinct_iff`: when the macros in a header are distinct.
-/

namespace DemoBuild.DemoData

open Text (HasLines upperChar)

/-! ## Names in Pascal case -/

/-- An underscore asks for a capital. -/
@[simp] theorem pascalCaseFrom_underscore (upperNext : Bool) (name : List Char) :
    pascalCaseFrom upperNext ('_' :: name) = pascalCaseFrom true name := by
  simp [pascalCaseFrom]

/-- A character becomes a capital where one is asked for. -/
theorem pascalCaseFrom_true_cons {c : Char} (hc : c ≠ '_') (name : List Char) :
    pascalCaseFrom true (c :: name) = upperChar c ++ pascalCaseFrom false name := by
  simp [pascalCaseFrom, hc]

/-- Other characters are kept. -/
theorem pascalCaseFrom_false_cons {c : Char} (hc : c ≠ '_') (name : List Char) :
    pascalCaseFrom false (c :: name) = c :: pascalCaseFrom false name := by
  simp [pascalCaseFrom, hc]

/-- Inside of a word everything is kept up to the next underscore. -/
theorem pascalCaseFrom_false_append {part : List Char} (hpart : '_' ∉ part) (name : List Char) :
    pascalCaseFrom false (part ++ name) = part ++ pascalCaseFrom false name := by
  induction part with
  | nil => rfl
  | cons c part ih =>
    obtain ⟨hc, hrest⟩ : '_' ≠ c ∧ '_' ∉ part := by simpa using hpart
    rw [List.cons_append, pascalCaseFrom_false_cons hc.symm, ih hrest, List.cons_append]

/-- What is alike on its own is alike behind the same characters. -/
theorem pascalCaseFrom_append_congr (before : List Char) {a b : List Char}
    (h : ∀ upperNext, pascalCaseFrom upperNext a = pascalCaseFrom upperNext b) (upperNext : Bool) :
    pascalCaseFrom upperNext (before ++ a) = pascalCaseFrom upperNext (before ++ b) := by
  induction before generalizing upperNext with
  | nil => exact h upperNext
  | cons c before ih => simp only [List.cons_append, pascalCaseFrom, ih]

/-! ## Respelled names -/

/-- A change of a name that is lost in Pascal case. -/
inductive Respelling : List Char → List Char → Prop
  /-- An underscore in front of the name is left out. -/
  | leading (name : List Char) : Respelling ('_' :: name) name
  /-- An underscore at its end is left out. -/
  | trailing (name : List Char) : Respelling (name ++ ['_']) name
  /-- One underscore is left of two that follow each other. -/
  | repeated (before name : List Char) :
      Respelling (before ++ '_' :: '_' :: name) (before ++ '_' :: name)
  /-- An underscore between two words is left out, and the second word gets a capital. -/
  | joined {b c : Char} (before name : List Char) (hb : b ≠ '_') (hc : c ≠ '_') :
      Respelling (before ++ b :: '_' :: c :: name) (before ++ b :: (upperChar c ++ name))
  /-- The name begins differently, but not so in capitals. -/
  | initial {c c' : Char} {name name' : List Char} (hc : c ≠ '_') (hc' : c' ≠ '_')
      (h : upperChar c ++ name = upperChar c' ++ name') : Respelling (c :: name) (c' :: name')

/-- The names are brought to each other by changes that are lost in Pascal case. -/
def Respelled : List Char → List Char → Prop :=
  Relation.EqvGen Respelling

/-- No such change shows in Pascal case. -/
theorem Respelling.pascalCaseFrom_eq {a b : List Char} (h : Respelling a b) :
    pascalCaseFrom true a = pascalCaseFrom true b := by
  cases h with
  | leading => exact pascalCaseFrom_underscore true b
  | trailing =>
    -- the capital that is asked for at the end is not there
    have hend := pascalCaseFrom_append_congr b (a := ['_']) (b := [])
      (fun upperNext => pascalCaseFrom_underscore upperNext []) true
    rwa [List.append_nil] at hend
  | repeated before name =>
    exact pascalCaseFrom_append_congr before (fun upperNext => by simp) true
  | @joined b c before name hb hc =>
    -- the capital is asked for by the underscore, or else it is there already
    have hword : pascalCaseFrom false ('_' :: c :: name) =
        pascalCaseFrom false (upperChar c ++ name) := by
      rw [pascalCaseFrom_underscore, pascalCaseFrom_true_cons hc,
        pascalCaseFrom_false_append (Text.underscore_not_mem_upperChar hc)]
    refine pascalCaseFrom_append_congr before (fun upperNext => ?_) true
    cases upperNext with
    | true => rw [pascalCaseFrom_true_cons hb, pascalCaseFrom_true_cons hb, hword]
    | false => rw [pascalCaseFrom_false_cons hb, pascalCaseFrom_false_cons hb, hword]
  | initial hc hc' h =>
    rw [pascalCaseFrom_true_cons hc, pascalCaseFrom_true_cons hc',
      ← pascalCaseFrom_false_append (Text.underscore_not_mem_upperChar hc), h,
      pascalCaseFrom_false_append (Text.underscore_not_mem_upperChar hc')]

/-- Respelled names are the same in Pascal case. -/
theorem Respelled.pascalCaseFrom_eq {a b : List Char} (h : Respelled a b) :
    pascalCaseFrom true a = pascalCaseFrom true b := by
  induction h with
  | rel _ _ hchange => exact hchange.pascalCaseFrom_eq
  | refl => rfl
  | symm _ _ _ ih => exact ih.symm
  | trans _ _ _ _ _ ih ih' => exact ih.trans ih'

/-- Behind a character of a word, a name may be written in Pascal case. -/
theorem respelled_behind {b : Char} (hb : b ≠ '_') (before name : List Char) :
    Respelled (before ++ b :: name) (before ++ b :: pascalCaseFrom false name) ∧
      Respelled (before ++ b :: '_' :: name) (before ++ b :: pascalCaseFrom true name) := by
  -- both at once: an underscore takes the first to the second, a character the second to the first
  induction name generalizing b before with
  | nil =>
    -- only an underscore at the end is left to go
    have hend := Respelling.trailing (before ++ [b])
    rw [List.append_assoc] at hend
    exact ⟨.refl _, .rel _ _ hend⟩
  | cons c name ih =>
    by_cases hc : c = '_'
    · subst hc
      obtain ⟨-, hjoined⟩ := ih hb before
      have hrepeated := Respelling.repeated (before ++ [b]) name
      simp only [List.append_assoc, List.singleton_append] at hrepeated
      rw [pascalCaseFrom_underscore, pascalCaseFrom_underscore]
      exact ⟨hjoined, .trans _ _ _ (.rel _ _ hrepeated) hjoined⟩
    · constructor
      · -- the word goes on behind the character
        have hkept := (ih hc (before ++ [b])).1
        rw [pascalCaseFrom_false_cons hc]
        simpa only [List.append_assoc, List.singleton_append] using hkept
      · -- the capital may have several characters, and the word goes on behind the last of them
        obtain ⟨front, last, hcapital⟩ : ∃ front last, upperChar c = front ++ [last] :=
          ⟨_, _, (List.dropLast_append_getLast (Text.upperChar_ne_nil c)).symm⟩
        have hlast : last ≠ '_' := by
          rintro rfl
          exact Text.underscore_not_mem_upperChar hc (by simp [hcapital])
        have hkept := (ih hlast (before ++ b :: front)).1
        have hjoined := Respelling.joined before name hb hc
        rw [pascalCaseFrom_true_cons hc]
        simp only [hcapital, List.append_assoc, List.cons_append, List.nil_append]
          at hkept hjoined ⊢
        exact .trans _ _ _ (.rel _ _ hjoined) hkept

/-- A name has no more than underscores, or it is a respelling of one that is written in Pascal case
but for its first character. -/
theorem respelled_cases (name : List Char) :
    (pascalCaseFrom true name = [] ∧ Respelled name []) ∨
      ∃ c rest, c ≠ '_' ∧ pascalCaseFrom true name = upperChar c ++ rest ∧
        Respelled name (c :: rest) := by
  induction name with
  | nil => exact .inl ⟨rfl, .refl _⟩
  | cons c name ih =>
    by_cases hc : c = '_'
    · subst hc
      have hleading : Respelled ('_' :: name) name := .rel _ _ (.leading name)
      rw [pascalCaseFrom_underscore]
      rcases ih with ⟨hnil, h⟩ | ⟨d, rest, hd, hname, h⟩
      · exact .inl ⟨hnil, .trans _ _ _ hleading h⟩
      · exact .inr ⟨d, rest, hd, hname, .trans _ _ _ hleading h⟩
    · exact .inr ⟨c, pascalCaseFrom false name, hc, pascalCaseFrom_true_cons hc name,
        (respelled_behind hc [] name).1⟩

/-- Names are the same in Pascal case exactly if they are respelled. -/
theorem pascalCaseFrom_true_eq_iff {a b : List Char} :
    pascalCaseFrom true a = pascalCaseFrom true b ↔ Respelled a b := by
  refine ⟨fun h => ?_, Respelled.pascalCaseFrom_eq⟩
  -- both names are respellings of what their form in Pascal case shows, up to the first character
  rcases respelled_cases a with ⟨ha, hrespelled⟩ | ⟨c, rest, hc, ha, hrespelled⟩ <;>
    rcases respelled_cases b with ⟨hb, hrespelled'⟩ | ⟨c', rest', hc', hb, hrespelled'⟩
  · exact .trans _ _ _ hrespelled (.symm _ _ hrespelled')
  · exact absurd (hb.symm.trans (h.symm.trans ha)) (by simp [Text.upperChar_ne_nil])
  · exact absurd (ha.symm.trans (h.trans hb)) (by simp [Text.upperChar_ne_nil])
  · have hinitial : Respelling (c :: rest) (c' :: rest') :=
      .initial hc hc' (ha.symm.trans (h.trans hb))
    exact .trans _ _ _ hrespelled (.trans _ _ _ (.rel _ _ hinitial) (.symm _ _ hrespelled'))

/-! ## Names in snake case -/

/-- What may follow the first letter of a name in snake case: lower-case letters and digits, and
further words, each of them behind an underscore and with a letter in front. -/
def snakeRest : List Char → Bool
  | [] => true
  | '_' :: c :: rest => c.isLower && snakeRest rest
  | c :: rest => (c.isLower || c.isDigit) && snakeRest rest

/-- Whether a name is in snake case: it begins with a lower-case letter. -/
def snakeCase : List Char → Bool
  | [] => false
  | c :: rest => c.isLower && snakeRest rest

/-- Lower-case letters and digits are no underscores. -/
theorem ne_underscore {c : Char} (hc : c.isLower ∨ c.isDigit) : c ≠ '_' := by
  rintro rfl
  revert hc
  decide

/-- A name with an underscore in front of each word, from its form in Pascal case. -/
def snakeWords (name : List Char) : List Char :=
  name.flatMap fun c => if c.isUpper then ['_', c.toLower] else [c]

/-- The code of a character in a range is between those at its ends. -/
theorem toNat_between {c : Char} {first last : UInt32}
    (h : (decide (first ≤ c.val) && decide (c.val ≤ last)) = true) :
    first.toNat ≤ c.toNat ∧ c.toNat ≤ last.toNat := by
  simpa [UInt32.le_iff_toNat_le] using h

/-- A lower-case letter comes back from its capital. -/
theorem snakeWords_upperChar {c : Char} (hc : c.isLower) (name : List Char) :
    snakeWords (upperChar c ++ name) = '_' :: c :: snakeWords name := by
  -- the alphabet, letter by letter
  have hletters : ∀ i < 26, upperChar (.ofNat (97 + i)) = [(Char.ofNat (97 + i)).toUpper] ∧
      (Char.ofNat (97 + i)).toUpper.isUpper ∧
      (Char.ofNat (97 + i)).toUpper.toLower = Char.ofNat (97 + i) := by
    decide +kernel
  obtain ⟨hlow, hhigh⟩ : 97 ≤ c.toNat ∧ c.toNat ≤ 122 := toNat_between hc
  have hcode : Char.ofNat (97 + (c.toNat - 97)) = c := by
    rw [Nat.add_sub_cancel' hlow, Char.ofNat_toNat]
  obtain ⟨hform, hupper, hlower⟩ := hletters (c.toNat - 97) (by omega)
  rw [hcode] at hform hupper hlower
  simp [snakeWords, hform, hupper, hlower]

/-- Lower-case letters and digits are kept. -/
theorem snakeWords_cons {c : Char} (hc : c.isLower ∨ c.isDigit) (name : List Char) :
    snakeWords (c :: name) = c :: snakeWords name := by
  have hupper : c.isUpper = false := by
    refine Bool.eq_false_iff.mpr fun hupper => ?_
    have hcapital : 65 ≤ c.toNat ∧ c.toNat ≤ 90 := of_decide_eq_true hupper
    rcases hc with hlower | hdigit
    · have hletter : 97 ≤ c.toNat ∧ c.toNat ≤ 122 := toNat_between hlower
      omega
    · have hdigit : 48 ≤ c.toNat ∧ c.toNat ≤ 57 := toNat_between hdigit
      omega
  simp [snakeWords, hupper]

/-- Nothing is lost of what may follow in snake case. -/
theorem snakeWords_pascalCaseFrom_false {rest : List Char} (h : snakeRest rest) :
    snakeWords (pascalCaseFrom false rest) = rest := by
  fun_induction snakeRest rest with
  | case1 => rfl
  | case2 c rest ih =>
    obtain ⟨hc, hrest⟩ := Bool.and_eq_true_iff.mp h
    rw [pascalCaseFrom_underscore, pascalCaseFrom_true_cons (ne_underscore (.inl hc)),
      snakeWords_upperChar hc, ih hrest]
  | case3 c rest _ ih =>
    obtain ⟨hc, hrest⟩ := Bool.and_eq_true_iff.mp h
    have hkept : c.isLower ∨ c.isDigit := Bool.or_eq_true_iff.mp hc
    rw [pascalCaseFrom_false_cons (ne_underscore hkept), snakeWords_cons hkept, ih hrest]

/-- A name in snake case comes back with one more underscore. -/
theorem snakeWords_pascalCaseFrom {name : List Char} (h : snakeCase name) :
    snakeWords (pascalCaseFrom true name) = '_' :: name := by
  cases name with
  | nil => cases h
  | cons c rest =>
    obtain ⟨hc, hrest⟩ := Bool.and_eq_true_iff.mp h
    rw [pascalCaseFrom_true_cons (ne_underscore (.inl hc)), snakeWords_upperChar hc,
      snakeWords_pascalCaseFrom_false hrest]

/-- Names in snake case are told apart in Pascal case. -/
theorem pascalCaseFrom_inj {a b : List Char} (ha : snakeCase a) (hb : snakeCase b)
    (h : pascalCaseFrom true a = pascalCaseFrom true b) : a = b := by
  have hwords := congrArg snakeWords h
  rw [snakeWords_pascalCaseFrom ha, snakeWords_pascalCaseFrom hb] at hwords
  exact List.tail_eq_of_cons_eq hwords

/-! ## The macros of a header -/

/-- The macro for an element of a uniform array. -/
def elementMacro (name : String) : String :=
  "uniform" ++ pascalCase name

/-- The names of the elements of all uniform arrays, in their order. -/
def elementNames (s : Shader) : List String :=
  s.uniformArrays.flatMap fun a => a.elements.map (·.name)

/-- Two elements have one macro exactly if their names are respelled. -/
theorem elementMacro_eq_iff {a b : String} :
    elementMacro a = elementMacro b ↔ Respelled a.toList b.toList := by
  rw [← pascalCaseFrom_true_eq_iff, ← String.toList_inj]
  simp [elementMacro, pascalCase]

/-- The line for an element defines its macro. -/
theorem elementLine_eq (typeName : String) (v : ShaderVariable × Nat) :
    elementLine typeName v = "#define " ++ elementMacro v.1.name ++ " " ++ typeName ++
      "Uniforms[" ++ Number.natText v.2 ++ "]" := by
  have hdefine : "#define uniform" = "#define " ++ "uniform" := by decide
  have hindex : "Uniforms[" = "Uniforms" ++ "[" := by decide
  unfold elementLine elementMacro storage bracketed
  -- what the name and the index look like does not matter
  generalize pascalCase v.1.name = name
  generalize Number.natText v.2 = index
  rw [hdefine, hindex]
  simp only [String.append_assoc]

/-- The macros for the elements of an array stand in the header, with the indices of the
elements. -/
theorem hasLines_elementLines {d : DemoData} {context : Context} {s : Session} {text : String}
    (h : ((d.render context).start s).1 = .ok text) {a : UniformArray}
    (ha : a ∈ d.shader.uniformArrays) :
    HasLines text (a.elements.zipIdx.map fun v => "#define " ++ elementMacro v.1.name ++ " " ++
      a.typeName ++ "Uniforms[" ++ Number.natText v.2 ++ "]") := by
  have hlines := hasLines_of_start_render h
  have helements : a.elements.zipIdx.map (elementLine a.typeName) <:+: arrayLines a :=
    List.infix_append _ _ _
  have harray : arrayLines a <:+: d.shader.uniformArrays.flatMap arrayLines := by
    rw [List.flatMap_def]
    exact List.infix_of_mem_flatten (List.mem_map_of_mem ha)
  rw [← funext (elementLine_eq a.typeName)]
  exact hlines.of_infix (helements.trans harray)

/-- The macros for the elements stand in the header, those of an array one after the other and with
the indices of their elements. All macros are distinct exactly if no two elements, of the same array
or not, have names that are respelled. So they are where names are distinct and in snake case. -/
theorem elementMacros_distinct_iff {d : DemoData} {context : Context} {s : Session} {text : String}
    (h : ((d.render context).start s).1 = .ok text) :
    (∀ a ∈ d.shader.uniformArrays, HasLines text (a.elements.zipIdx.map fun v =>
        "#define " ++ elementMacro v.1.name ++ " " ++ a.typeName ++ "Uniforms[" ++
          Number.natText v.2 ++ "]")) ∧
      (((elementNames d.shader).map elementMacro).Nodup ↔
        (elementNames d.shader).Pairwise fun a b => ¬ Respelled a.toList b.toList) ∧
      ((∀ name ∈ elementNames d.shader, snakeCase name.toList) → (elementNames d.shader).Nodup →
        ((elementNames d.shader).map elementMacro).Nodup) := by
  refine ⟨fun a ha => hasLines_elementLines h ha, ?_, fun hsnake hnames => ?_⟩
  · rw [List.Nodup, List.pairwise_map]
    simp only [ne_eq, elementMacro_eq_iff]
  · -- names in snake case are no respellings of each other
    refine hnames.map_on fun a ha b hb hsame => ?_
    rw [elementMacro_eq_iff, ← pascalCaseFrom_true_eq_iff] at hsame
    exact String.toList_inj.mp (pascalCaseFrom_inj (hsnake a ha) (hsnake b hb) hsame)

/-- A shader with a uniform array of the type for each list of names. -/
def uniformsNamed (arrays : List (String × List String)) : Shader where
  uniformArrays := arrays.map fun (typeName, names) =>
    ⟨typeName, typeName ++ "Uniforms", none, names.map fun name => ⟨name, typeName, .uniform, true⟩⟩

/-- Macros for names in snake case are distinct, here for two arrays. -/
theorem elementMacros_distinct_iff_snakeCase :
    ∃ text, ((render ⟨uniformsNamed [("float", ["time", "time_offset"]), ("vec2", ["offset_x"])],
        []⟩ ⟨.empty, .release⟩).start ⟨.empty, [], []⟩).1 = .ok text ∧
      HasLines text ["#define uniformTime floatUniforms[0]",
        "#define uniformTimeOffset floatUniforms[1]"] ∧
      HasLines text ["#define uniformOffsetX vec2Uniforms[0]"] ∧
      ["uniformTime", "uniformTimeOffset", "uniformOffsetX"].Nodup := by
  obtain ⟨text, htext⟩ : ∃ text, ((render ⟨uniformsNamed [("float", ["time", "time_offset"]),
      ("vec2", ["offset_x"])], []⟩ ⟨.empty, .release⟩).start ⟨.empty, [], []⟩).1 = .ok text :=
    ⟨_, rfl⟩
  obtain ⟨hlines, -, hsnake⟩ := elementMacros_distinct_iff htext
  exact ⟨text, htext, hlines _ (.head _), hlines _ (.tail _ (.head _)),
    hsnake (by decide) (by decide)⟩

/-- Distinct names that are respelled have one macro, so what it stands for at first is lost. -/
theorem elementMacros_meet :
    let s := uniformsNamed [("float", ["time_offset", "timeOffset"])]
    s.checkUniformArrays = .ok () ∧ (elementNames s).Nodup ∧
      ∃ text, ((render ⟨s, []⟩ ⟨.empty, .release⟩).start ⟨.empty, [], []⟩).1 = .ok text ∧
        HasLines text ["#define uniformTimeOffset floatUniforms[0]",
          "#define uniformTimeOffset floatUniforms[1]"] ∧
        (elementNames s).map elementMacro = ["uniformTimeOffset", "uniformTimeOffset"] ∧
        ¬ ((elementNames s).map elementMacro).Nodup := by
  intro s
  obtain ⟨text, htext⟩ : ∃ text, ((render ⟨s, []⟩ ⟨.empty, .release⟩).start
      ⟨.empty, [], []⟩).1 = .ok text := ⟨_, rfl⟩
  exact ⟨rfl, by decide, text, htext, hasLines_elementLines htext (.head _), by decide, by decide⟩

end DemoBuild.DemoData
