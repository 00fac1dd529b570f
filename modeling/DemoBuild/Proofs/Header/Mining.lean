import DemoBuild.Proofs.Header.Bindings
import Mathlib.Order.Bounds.Basic

/-!
# Header lines by position

What is copied from a vendored header for a name is said here by positions. A name is offered at a
position where a line starts if the text from there begins as the definition of the name does, and a
character that is no line break follows. What is copied begins at the first position at which the
name is offered, and ends with the line. A name that is offered nowhere is missing. As the beginning
holds all of the name and what has to follow it, no line is copied for a part of a name.

## Main definitions

* `HeaderLine.OffersAt`: a position at which a line of a shape starts;
* `HeaderLine.TakenAt`: what is copied from a position;
* `Bindings.Mines`: what is copied from a header.

## Main results

* `HeaderLine.find?_eq_some_iff_isLeast` and `HeaderLine.find?_eq_none_iff_forall`: the search and
  the positions;
* `Bindings.constant_eq_of_offersAt` and `Bindings.typeName_eq_of_offersAt`: one name at most is
  offered at a position;
* `Bindings.ofHeader_mines`: what is copied and what is missing.
-/

namespace DemoBuild

namespace HeaderLine

/-- A line starts at a position of a text: at the beginning, or behind a line break. -/
def IsLineStart (text : List Char) (p : Nat) : Prop :=
  p = 0 ∨ text[p - 1]? = some '\n'

/-- At a position of a text a line starts that begins as asked and goes on for a character that is
no line break. -/
def OffersAt (shape : Shape) (text : List Char) (p : Nat) : Prop :=
  IsLineStart text p ∧ ∃ head c rest, text.drop p = head ++ c :: rest ∧ shape head ∧ c ≠ '\n'

/-- What is copied from a position of a text: it begins as asked, goes on for a character that is no
line break and ends at the next line break or with the text; carriage returns at its end are left
out. -/
def TakenAt (shape : Shape) (text : List Char) (p : Nat) (line : List Char) : Prop :=
  ∃ head c rest, text.drop p = head ++ c :: rest ∧ shape head ∧ c ≠ '\n' ∧
    line = trimmed (head ++ c :: rest.takeWhile (· ≠ '\n'))

variable {shape : Shape} {start : Start} {text : List Char} {p : Nat}

/-- A line starts behind a start of a text that ends where lines start. -/
theorem startsLine_take_iff (hp : p < text.length) :
    StartsLine true (text.take p) ↔ IsLineStart text p := by
  rw [StartsLine, IsLineStart, List.getLast?_take]
  rcases Nat.eq_zero_or_pos p with rfl | hpos
  · simp
  · -- The start is not empty, and its last character stands in front of the position.
    have hget : text[p - 1]? = some text[p - 1] := List.getElem?_eq_getElem (by omega)
    have hne : text ≠ [] := List.length_pos_iff.mp (by omega)
    simp [hget, hpos.ne', hne]

/-- A position at which a line of the shape starts cuts the text in front of the line and behind
it. -/
theorem stands_of_drop {head rest : List Char} {c : Char} (hp : IsLineStart text p)
    (hdrop : text.drop p = head ++ c :: rest) (hhead : shape head) (hc : c ≠ '\n') :
    Stands shape true text (text.take p) (head ++ c :: rest.takeWhile (· ≠ '\n'))
      (rest.dropWhile (· ≠ '\n')) := by
  have hlt : p < text.length := by
    have hlength := congrArg List.length hdrop
    simp only [List.length_drop, List.length_append, List.length_cons] at hlength
    omega
  -- The rest is cut where its first line break is, so the line has none and one may follow it.
  refine ⟨?_, (startsLine_take_iff hlt).mpr hp,
    ⟨head, _, hhead, List.cons_ne_nil _ _, ?_, rfl⟩, ?_⟩
  · rw [List.append_assoc, List.append_assoc, List.cons_append, List.takeWhile_append_dropWhile,
      ← hdrop, List.take_append_drop]
  · rw [List.mem_cons, not_or]
    exact ⟨hc.symm, fun hmem => by simpa using List.mem_takeWhile_imp hmem⟩
  · cases hrest : rest.dropWhile (· ≠ '\n') with
    | nil => exact .inl rfl
    | cons b after =>
      have hhead := List.head?_dropWhile_not (· ≠ '\n') rest
      rw [hrest] at hhead
      exact .inr (by simpa using hhead)

/-- Where a line of the shape stands in a text, one is offered, and it is what is copied from
there. -/
theorem Stands.offersAt {before line after : List Char}
    (h : Stands shape true text before line after) :
    OffersAt shape text before.length ∧ TakenAt shape text before.length (trimmed line) := by
  obtain ⟨rfl, hstarts, hshaped, hends⟩ := h
  obtain ⟨head, rest, hhead, hne, hfree, rfl⟩ := hshaped
  obtain ⟨c, rest, rfl⟩ := List.exists_cons_of_ne_nil hne
  rw [List.mem_cons, not_or] at hfree
  have hdrop : (before ++ (head ++ c :: rest) ++ after).drop before.length =
      head ++ c :: (rest ++ after) := by simp
  have hlt : before.length < (before ++ (head ++ c :: rest) ++ after).length := by
    simp only [List.length_append, List.length_cons]
    omega
  have htake : (before ++ (head ++ c :: rest) ++ after).take before.length = before := by simp
  refine ⟨⟨(startsLine_take_iff hlt).mp (htake.symm ▸ hstarts), head, c, _, hdrop, hhead,
    hfree.1 ∘ Eq.symm⟩, head, c, _, hdrop, hhead, hfree.1 ∘ Eq.symm, ?_⟩
  rw [takeWhile_append_of_endsLine hfree.2 hends]

/-- A line of the shape stands in a text where one is offered. -/
theorem offersAt_iff_exists_stands :
    OffersAt shape text p ↔
      ∃ before line after, Stands shape true text before line after ∧ before.length = p := by
  constructor
  · rintro ⟨hp, head, c, rest, hdrop, hhead, hc⟩
    refine ⟨_, _, _, stands_of_drop hp hdrop hhead hc, ?_⟩
    have hlength := congrArg List.length hdrop
    simp only [List.length_drop, List.length_append, List.length_cons] at hlength
    rw [List.length_take]
    omega
  · rintro ⟨before, line, after, hstands, rfl⟩
    exact hstands.offersAt.1

/-- The search gives back what is copied from the first position at which a line of the shape is
offered. -/
theorem find?_eq_some_iff_isLeast (h : Recognizes start shape) {found : List Char} :
    find? start true text = some found ↔
      ∃ p, IsLeast {p | OffersAt shape text p} p ∧ TakenAt shape text p found := by
  rw [find?_eq_some_iff h]
  constructor
  · -- A smaller position would be that of a line further to the left.
    rintro ⟨before, line, after, hfirst, rfl⟩
    refine ⟨before.length, ⟨hfirst.offersAt.1, fun p hp => ?_⟩, hfirst.offersAt.2⟩
    obtain ⟨before', line', after', hstands, rfl⟩ := offersAt_iff_exists_stands.mp hp
    exact hfirst.leftmost hstands
  · rintro ⟨p, ⟨⟨hp, -⟩, hleast⟩, head, c, rest, hdrop, hhead, hc, rfl⟩
    refine ⟨_, _, _, ⟨stands_of_drop hp hdrop hhead hc, fun hstands => ?_⟩, rfl⟩
    exact le_trans (List.length_take_le p text) (hleast hstands.offersAt.1)

/-- The search finds nothing if no line of the shape is offered. -/
theorem find?_eq_none_iff_forall (h : Recognizes start shape) :
    find? start true text = none ↔ ∀ p, ¬ OffersAt shape text p := by
  rw [find?_eq_none_iff h]
  constructor
  · intro hnone p hp
    obtain ⟨before, line, after, hstands, -⟩ := offersAt_iff_exists_stands.mp hp
    exact hnone ⟨before, line, after, hstands⟩
  · rintro hnone ⟨before, line, after, hstands⟩
    exact hnone _ hstands.offersAt.1

end HeaderLine

namespace Bindings

open HeaderLine

variable {header : String}

/-- What is copied from a header: the line at the first position at which one of the shape is
offered. -/
def Mines (header : String) (shape : Shape) (line : String) : Prop :=
  ∃ p, IsLeast {p | OffersAt shape header.toList p} p ∧
    TakenAt shape header.toList p line.toList

theorem headerLine?_eq_some_iff_mines {start : Start} {shape : Shape} (h : Recognizes start shape)
    {line : String} : headerLine? header start = some line ↔ Mines header shape line := by
  rw [headerLine?, Mines, Option.map_eq_some_iff, ← find?_eq_some_iff_isLeast h]
  constructor
  · rintro ⟨found, hfound, rfl⟩
    rwa [String.toList_ofList]
  · intro hfound
    exact ⟨_, hfound, String.ofList_toList⟩

theorem headerLine?_eq_none_iff_forall {start : Start} {shape : Shape}
    (h : Recognizes start shape) :
    headerLine? header start = none ↔ ∀ p, ¬ OffersAt shape header.toList p := by
  rw [headerLine?, Option.map_eq_none_iff, find?_eq_none_iff_forall h]

/-- What is missing is what no line is copied for. -/
theorem mem_missing_ofHeader_iff {constants functions : List String} {m : MissingSymbol} :
    m ∈ (ofHeader header constants functions).missing ↔
      match m.kind with
      | .constant => m.name ∈ constants ∧ constantLine? header m.name = none
      | .function => m.name ∈ functions ∧ typeLine? header m.name = none := by
  obtain ⟨kind, name⟩ := m
  rw [ofHeader, mem_missing_ofSearch_iff]
  cases kind <;> exact and_comm

/-! ## Names that are offered at one position -/

/-- A text is cut in one way at the first place of a character. -/
theorem append_cons_inj {c : Char} {name name' rest rest' : List Char} (h : c ∉ name)
    (h' : c ∉ name') (heq : name ++ c :: rest = name' ++ c :: rest') :
    name = name' ∧ rest = rest' := by
  have htake {front : List Char} (hfront : c ∉ front) (back : List Char) :
      (front ++ c :: back).takeWhile (· ≠ c) = front :=
    Text.takeWhile_append (fun a ha => by simpa using ne_of_mem_of_not_mem ha hfront) (by simp)
  obtain rfl : name = name' := by rw [← htake h rest, heq, htake h' rest']
  exact ⟨rfl, by simpa using heq⟩

/-- Of the names without a space, one at most is offered as a constant at a position: a longer or a
shorter name is not. -/
theorem constant_eq_of_offersAt {p : Nat} {name name' : String} (h : ' ' ∉ name.toList)
    (h' : ' ' ∉ name'.toList) (hp : OffersAt (ConstantHead name) header.toList p)
    (hp' : OffersAt (ConstantHead name') header.toList p) : name = name' := by
  obtain ⟨-, _, c, rest, hdrop, rfl, -⟩ := hp
  obtain ⟨-, _, c', rest', hdrop', rfl, -⟩ := hp'
  rw [hdrop] at hdrop'
  simp only [String.toList_append, List.append_assoc, List.append_cancel_left_eq] at hdrop'
  exact String.toList_inj.mp (append_cons_inj h h' hdrop').1

/-- Of the type names without a bracket, one at most is offered at a position. -/
theorem typeName_eq_of_offersAt {p : Nat} {name name' : String} (h : ')' ∉ name.toList)
    (h' : ')' ∉ name'.toList) (hp : OffersAt (FunctionTypeHead name) header.toList p)
    (hp' : OffersAt (FunctionTypeHead name') header.toList p) : name = name' := by
  obtain ⟨-, _, c, rest, hdrop, ⟨result, -, hresult, rfl⟩, -⟩ := hp
  obtain ⟨-, _, c', rest', hdrop', ⟨result', -, hresult', rfl⟩, -⟩ := hp'
  have hbracket (r : List Char) (hr : ∀ c ∈ r, isTypeChar c = true) : '(' ∉ r := fun hmem =>
    absurd (hr _ hmem) (by decide)
  rw [hdrop] at hdrop'
  simp only [String.toList_append, List.append_assoc, List.append_cancel_left_eq] at hdrop'
  -- the type that is given back ends at the first bracket, which is none of its characters
  obtain ⟨-, hrest⟩ := append_cons_inj (hbracket _ hresult) (hbracket _ hresult') hdrop'
  exact String.toList_inj.mp (append_cons_inj h h' (List.append_cancel_left hrest)).1

/-- For every header and all requests, the line that is copied for a constant or for a function is
the one at the first position at which the header has its definition, up to the end of the line and
without carriage returns there. Behind the preamble, the text has these lines in the order of the
requests, and a line for the slot behind each line that is copied for a function. A request is
missing if the header has its definition nowhere. A position that has the definition of a name has
none of a longer or a shorter name. -/
theorem ofHeader_mines (header : String) (constants functions : List String) :
    (∀ name line, constantLine? header name = some line ↔
      Mines header (ConstantHead name) line) ∧
    (∀ name line, typeLine? header name = some line ↔
      Mines header (FunctionTypeHead (pointerType name)) line) ∧
    (ofHeader header constants functions).text = "\n".intercalate (preamble ++
      constants.filterMap (constantLine? header) ++
      (functions.zipIdx.flatMap fun (name, index) =>
        (typeLine? header name).toList.flatMap fun line => [line, slotLine name index]) ++
      tableLines (ofHeader header constants functions).table) ∧
    (∀ name, ⟨.constant, name⟩ ∈ (ofHeader header constants functions).missing ↔
      name ∈ constants ∧ ∀ p, ¬ OffersAt (ConstantHead name) header.toList p) ∧
    (∀ name, ⟨.function, name⟩ ∈ (ofHeader header constants functions).missing ↔
      name ∈ functions ∧
        ∀ p, ¬ OffersAt (FunctionTypeHead (pointerType name)) header.toList p) ∧
    ∀ p name name', (' ' ∉ name.toList → ' ' ∉ name'.toList →
        OffersAt (ConstantHead name) header.toList p →
        OffersAt (ConstantHead name') header.toList p → name = name') ∧
      (')' ∉ (pointerType name).toList → ')' ∉ (pointerType name').toList →
        OffersAt (FunctionTypeHead (pointerType name)) header.toList p →
        OffersAt (FunctionTypeHead (pointerType name')) header.toList p →
          pointerType name = pointerType name') := by
  refine ⟨fun name line => headerLine?_eq_some_iff_mines (recognizes_constant name),
    fun name line => headerLine?_eq_some_iff_mines (recognizes_functionType _), ?_,
    fun name => ?_, fun name => ?_, fun p name name' => ⟨constant_eq_of_offersAt,
      typeName_eq_of_offersAt⟩⟩
  · have hlines (function : String × Nat) : functionLines (searchOf header) function =
        (typeLine? header function.1).toList.flatMap fun line =>
          [line, slotLine function.1 function.2] := by
      rw [functionLines, searchOf_function]
      cases typeLine? header function.1 <;> rfl
    rw [text_ofHeader, ← List.flatMap_def, List.flatMap_congr fun function _ => hlines function]
  · rw [mem_missing_ofHeader_iff]
    exact and_congr_right fun _ => headerLine?_eq_none_iff_forall (recognizes_constant name)
  · rw [mem_missing_ofHeader_iff]
    exact and_congr_right fun _ => headerLine?_eq_none_iff_forall (recognizes_functionType _)

/-- A constant that is the start of another one, and the type of a function, behind lines that end
with carriage returns. -/
def twoDefinitions : String :=
  "#define GL_AB 1\r\n#define GL_A 2\r\ntypedef void (GLAPIENTRY * PFNAPROC) (void);\r\n"

/-- Both are copied from where their own lines start, at which no shorter or longer name is
offered. -/
theorem ofHeader_mines_twoDefinitions :
    Mines twoDefinitions (ConstantHead "GL_A") "#define GL_A 2" ∧
    Mines twoDefinitions (FunctionTypeHead (pointerType "a"))
      "typedef void (GLAPIENTRY * PFNAPROC) (void);" ∧
    ⟨.constant, "GL"⟩ ∈ (ofHeader twoDefinitions ["GL_A", "GL"] ["a"]).missing ∧
    (OffersAt (ConstantHead "GL_A") twoDefinitions.toList 17 ∧
      ¬ OffersAt (ConstantHead "GL_AB") twoDefinitions.toList 17) ∧
    OffersAt (FunctionTypeHead (pointerType "a")) twoDefinitions.toList 33 ∧
      ¬ OffersAt (FunctionTypeHead (pointerType "ab")) twoDefinitions.toList 33 := by
  obtain ⟨hconstant, hfunction, -, -, -, hone⟩ := ofHeader_mines twoDefinitions ["GL_A", "GL"] ["a"]
  have htype : (pointerType "a").toList = "PFNAPROC".toList := by decide
  have hoffers : OffersAt (ConstantHead "GL_A") twoDefinitions.toList 17 :=
    ⟨.inr (by simp [twoDefinitions]), _, '2',
      "\r\ntypedef void (GLAPIENTRY * PFNAPROC) (void);\r\n".toList, by simp [twoDefinitions], rfl,
      by decide⟩
  have hoffers' : OffersAt (FunctionTypeHead (pointerType "a")) twoDefinitions.toList 33 :=
    ⟨.inr (by simp [twoDefinitions]), _, ' ', "(void);\r\n".toList,
      by simp [twoDefinitions, htype],
      ⟨"void ".toList, by decide, List.all_eq_true.mp (by decide), rfl⟩, by decide⟩
  have hcopied : constantLine? twoDefinitions "GL_A" = some "#define GL_A 2" := by
    decide +kernel
  have hcopied' : typeLine? twoDefinitions "a" =
      some "typedef void (GLAPIENTRY * PFNAPROC) (void);" := by decide +kernel
  refine ⟨(hconstant _ _).mp hcopied, (hfunction _ _).mp hcopied', by decide +kernel,
    ⟨hoffers, fun h => ?_⟩, hoffers', fun h => ?_⟩
  · exact absurd ((hone 17 "GL_A" "GL_AB").1 (by decide) (by decide) hoffers h) (by decide)
  · exact absurd ((hone 33 "a" "ab").2 (by decide) (by decide) hoffers' h) (by decide)

end Bindings

end DemoBuild
