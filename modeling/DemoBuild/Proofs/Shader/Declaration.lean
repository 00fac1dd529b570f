import DemoBuild.Proofs.Text.Lines
import DemoBuild.Shader.Declaration

/-!
# Where declarations are found

A declaration is a word, a space, word characters and commas, and a semicolon. It holds one
semicolon, its last character, so no declaration reaches across a semicolon: a text can be cut
behind each of its semicolons, and every piece can be searched on its own.

A piece has at most one declaration, and that one ends the piece. Its names are all the word
characters and commas in front of the semicolon, and its type is all the word characters in front of
the space: the search goes from left to right and finds the longest type first.

## Main definitions

* `Declaration.Written`: a declaration is spelled as declarations are;
* `Declaration.endingAt?`: the declaration that a semicolon behind a text ends.

## Main results

* `Declaration.atStart?_eq_some_iff`: the declaration that a text starts with;
* `Declaration.findAll_append`: behind a semicolon the search starts anew;
* `Declaration.findAll_eq_nil_iff`: when nothing is found;
* `Declaration.findAll_statement`: what is found in front of the first semicolon;
* `qualify_statements`: what is left of a text when its declarations are qualified.
-/

namespace DemoBuild

namespace Declaration

/-- The declaration is spelled as declarations are: its type is a word, and its names are word
characters and commas. -/
structure Written (d : Declaration) : Prop where
  /-- There is a type. -/
  typeName_ne_nil : d.typeName ≠ []
  /-- The type is a word. -/
  isWord : ∀ c ∈ d.typeName, Text.isWord c = true
  /-- There are names. -/
  names_ne_nil : d.names ≠ []
  /-- The names hold nothing but word characters and commas. -/
  isNameListChar : ∀ c ∈ d.names, isNameListChar c = true

theorem isNameListChar_semicolon : isNameListChar ';' = false := by
  simp [isNameListChar]

theorem isNameListChar_space : isNameListChar ' ' = false := by
  simp [isNameListChar]

namespace Written

variable {d : Declaration}

/-- A declaration has no semicolon but the one that ends it. -/
theorem semicolon_not_mem (hd : d.Written) : ';' ∉ d.typeName ++ ' ' :: d.names := by
  intro hmem
  rcases List.mem_append.mp hmem with htype | hnames
  · simpa using hd.isWord _ htype
  · rcases List.mem_cons.mp hnames with hspace | hname
    · exact absurd hspace (by decide)
    · simpa [isNameListChar_semicolon] using hd.isNameListChar _ hname

theorem space_not_mem_names (hd : d.Written) : ' ' ∉ d.names := by
  intro hmem
  simpa [isNameListChar_space] using hd.isNameListChar _ hmem

end Written

theorem semicolon_mem_text (d : Declaration) : ';' ∈ d.text := by
  simp [text]

/-! ## At the start of a text -/

/-- The declaration that a text starts with. -/
theorem atStart?_eq_some_iff {text after : List Char} {d : Declaration} :
    atStart? text = some (d, after) ↔ d.Written ∧ text = d.text ++ after := by
  constructor
  · intro h
    rw [atStart?] at h
    split at h
    case h_2 => simp at h
    next rest hrest =>
    split at h
    case h_2 => simp at h
    next after' hafter =>
    dsimp only at h
    split at h
    case isTrue => simp at h
    next hne =>
    obtain ⟨rfl, rfl⟩ : _ = d ∧ after' = after := by simpa using h
    rw [not_or] at hne
    refine ⟨⟨hne.1, fun c hc => List.mem_takeWhile_imp hc, hne.2,
      fun c hc => List.mem_takeWhile_imp hc⟩, ?_⟩
    calc text = text.takeWhile Text.isWord ++ ' ' :: rest := by
          rw [← hrest, List.takeWhile_append_dropWhile]
      _ = text.takeWhile Text.isWord ++
          ' ' :: (rest.takeWhile isNameListChar ++ ';' :: after') := by
          rw [← hafter, List.takeWhile_append_dropWhile]
      _ = _ := by simp [Declaration.text]
  · rintro ⟨hd, rfl⟩
    -- the type ends at the space, and the names end at the semicolon
    have hwhole : d.text ++ after = d.typeName ++ ' ' :: (d.names ++ ';' :: after) := by
      simp [text]
    have hspace : ∀ c ∈ (' ' :: (d.names ++ ';' :: after)).head?, Text.isWord c = false := by simp
    have hsemicolon : ∀ c ∈ (';' :: after).head?, isNameListChar c = false := by
      simp [isNameListChar_semicolon]
    have hne : ¬ (d.typeName = [] ∨ d.names = []) :=
      not_or.mpr ⟨hd.typeName_ne_nil, hd.names_ne_nil⟩
    rw [atStart?, hwhole, Text.dropWhile_append hd.isWord hspace,
      Text.takeWhile_append hd.isWord hspace]
    simp only [Text.dropWhile_append hd.isNameListChar hsemicolon,
      Text.takeWhile_append hd.isNameListChar hsemicolon, if_neg hne]

/-- A text that ends with a semicolon holds all of a declaration that starts in it. -/
theorem Written.isPrefix_of_append {d : Declaration} (hd : d.Written) {text rest : List Char}
    (htext : text.getLast? = some ';') (h : d.text <+: text ++ rest) : d.text <+: text := by
  rcases List.prefix_or_prefix_of_prefix h (List.prefix_append text rest) with hshort | hlong
  · exact hshort
  -- otherwise the semicolon that ends the text is the one of the declaration
  obtain ⟨front, rfl⟩ := List.getLast?_eq_some_iff.mp htext
  rw [Declaration.text, List.prefix_concat_iff] at hlong
  rcases hlong with hsame | hinside
  · rw [hsame]
    exact List.prefix_rfl
  · have hmem : ';' ∈ d.typeName ++ ' ' :: d.names := hinside.subset (by simp)
    exact absurd hmem hd.semicolon_not_mem

/-- What a text that ends with a semicolon starts with does not depend on what follows it. -/
theorem atStart?_append {text : List Char} (htext : text.getLast? = some ';')
    (rest : List Char) :
    atStart? (text ++ rest) = (atStart? text).map fun found => (found.1, found.2 ++ rest) := by
  ext ⟨d, after⟩
  rw [atStart?_eq_some_iff, Option.map_eq_some_iff]
  constructor
  · rintro ⟨hd, hwhole⟩
    obtain ⟨after', rfl⟩ := hd.isPrefix_of_append htext ⟨after, hwhole.symm⟩
    refine ⟨(d, after'), atStart?_eq_some_iff.mpr ⟨hd, rfl⟩, ?_⟩
    rw [List.append_assoc] at hwhole
    rw [List.append_cancel_left hwhole]
  · rintro ⟨⟨d', after'⟩, hfound, heq⟩
    obtain ⟨rfl, rfl⟩ : d' = d ∧ after' ++ rest = after := by simpa using heq
    obtain ⟨hd, rfl⟩ := atStart?_eq_some_iff.mp hfound
    exact ⟨hd, by rw [List.append_assoc]⟩

/-! ## Anywhere in a text -/

theorem findAll_nil : findAll [] = [] := by
  rw [findAll]

theorem findAll_of_some {text rest : List Char} {d : Declaration}
    (h : atStart? text = some (d, rest)) : findAll text = d :: findAll rest := by
  cases text with
  | nil => simp [atStart?] at h
  | cons c text =>
    rw [findAll]
    split
    · next h' =>
      obtain ⟨rfl, rfl⟩ : d = _ ∧ rest = _ := by simpa [h] using h'
      rfl
    · next h' => simp [h] at h'

theorem findAll_of_none {c : Char} {text : List Char} (h : atStart? (c :: text) = none) :
    findAll (c :: text) = findAll text := by
  rw [findAll]
  split
  · next h' => simp [h] at h'
  · rfl

theorem forall_mem_getLast?_tail {p : Char → Prop} {c : Char} {text : List Char}
    (h : ∀ a ∈ (c :: text).getLast?, p a) : ∀ a ∈ text.getLast?, p a := by
  intro a ha
  refine h a ?_
  rw [List.getLast?_cons, Option.mem_def.mp ha]
  rfl

theorem getLast?_eq_some {c : Char} {text : List Char} (hne : text ≠ [])
    (h : ∀ a ∈ text.getLast?, a = c) : text.getLast? = some c := by
  rw [List.getLast?_eq_some_getLast hne] at h ⊢
  exact congrArg some (h _ rfl)

/-- Behind a semicolon the search starts anew. -/
theorem findAll_append {text : List Char} (htext : ∀ c ∈ text.getLast?, c = ';')
    (rest : List Char) : findAll (text ++ rest) = findAll text ++ findAll rest := by
  induction text using findAll.induct with
  | case1 => simp [findAll_nil]
  | case2 c text d after hfound _ ih =>
    have hwhole := atStart?_append (getLast?_eq_some (List.cons_ne_nil c text) htext) rest
    rw [hfound, Option.map_some] at hwhole
    -- what follows the declaration is empty or ends as the whole text does
    obtain ⟨-, heq⟩ := atStart?_eq_some_iff.mp hfound
    have hafter : ∀ c ∈ after.getLast?, c = ';' := fun c hc =>
      htext c (by rw [heq, List.getLast?_append, Option.mem_def.mp hc, Option.some_or]; rfl)
    rw [findAll_of_some hwhole, findAll_of_some hfound, ih hafter, List.cons_append]
  | case3 c text hfound ih =>
    have hwhole := atStart?_append (getLast?_eq_some (List.cons_ne_nil c text) htext) rest
    rw [hfound, Option.map_none, List.cons_append] at hwhole
    rw [List.cons_append, findAll_of_none hwhole, findAll_of_none hfound,
      ih (forall_mem_getLast?_tail htext)]

/-- Nothing is found in a text in which no declaration stands. -/
theorem findAll_eq_nil_iff {text : List Char} :
    findAll text = [] ↔ ∀ d : Declaration, d.Written → ¬ d.text <:+: text := by
  induction text using findAll.induct with
  | case1 => simp [findAll_nil, Declaration.text]
  | case2 c text d after hfound _ _ =>
    obtain ⟨hd, heq⟩ := atStart?_eq_some_iff.mp hfound
    rw [findAll_of_some hfound]
    constructor
    · intro h
      simp at h
    · intro h
      exact absurd (heq ▸ (List.prefix_append d.text after).isInfix) (h d hd)
  | case3 c text hfound ih =>
    rw [findAll_of_none hfound, ih]
    refine forall₂_congr fun d hd => not_congr ?_
    rw [List.infix_cons_iff]
    constructor
    · exact Or.inr
    · rintro (⟨after, hafter⟩ | hinside)
      · -- a declaration that starts with `c` would have been found
        rw [atStart?_eq_some_iff.mpr ⟨hd, hafter.symm⟩] at hfound
        simp at hfound
      · exact hinside

/-- Without a semicolon nothing is found. -/
theorem findAll_of_not_mem {text : List Char} (h : ';' ∉ text) : findAll text = [] := by
  rw [findAll_eq_nil_iff]
  intro d _ hinside
  exact h (hinside.subset d.semicolon_mem_text)

/-! ## In front of the first semicolon -/

/-- The only semicolon of a text ends the declaration that stands in the text. -/
theorem eq_of_append_semicolon {statement front after : List Char} {d : Declaration}
    (h : ';' ∉ statement) (heq : statement ++ [';'] = front ++ d.text ++ after) :
    statement = front ++ (d.typeName ++ ' ' :: d.names) ∧ after = [] := by
  have heq' : statement ++ ';' :: [] =
      (front ++ (d.typeName ++ ' ' :: d.names)) ++ ';' :: after := by
    simpa [Declaration.text] using heq
  obtain ⟨hstatement, -, hafter⟩ :=
    (List.append_cons_inj_of_notMem h List.not_mem_nil).mp heq'
  exact ⟨hstatement, hafter.symm⟩

/-- A declaration that is found with its whole type in front of its only semicolon is the only one
that is found. -/
theorem findAll_append_text {front : List Char} {d : Declaration} (hd : d.Written)
    (hfront : ';' ∉ front) (hlast : ∀ c ∈ front.getLast?, Text.isWord c = false) :
    findAll (front ++ d.text) = [d] := by
  induction front with
  | nil =>
    have hstart : atStart? d.text = some (d, []) :=
      atStart?_eq_some_iff.mpr ⟨hd, (List.append_nil _).symm⟩
    rw [List.nil_append, findAll_of_some hstart, findAll_nil]
  | cons c front ih =>
    have hnone : atStart? (c :: (front ++ d.text)) = none := by
      rw [Option.eq_none_iff_forall_ne_some]
      rintro ⟨d', after⟩ hstart
      obtain ⟨hd', heq⟩ := atStart?_eq_some_iff.mp hstart
      have hsemicolon : ';' ∉ c :: front ++ (d.typeName ++ ' ' :: d.names) := by
        rw [List.mem_append]
        exact not_or.mpr ⟨hfront, hd.semicolon_not_mem⟩
      have hwhole : c :: front ++ (d.typeName ++ ' ' :: d.names) ++ [';'] =
          [] ++ d'.text ++ after := by
        simpa [Declaration.text] using heq
      obtain ⟨hbody, -⟩ := eq_of_append_semicolon hsemicolon hwhole
      -- both have one space, so all of `c :: front` would be part of the type of the other
      have hspace : ' ' ∉ d'.typeName := fun hmem => by simpa using hd'.isWord _ hmem
      have htype : d'.typeName ++ ' ' :: d'.names =
          (c :: front ++ d.typeName) ++ ' ' :: d.names := by
        rw [List.append_assoc, hbody, List.nil_append]
      obtain ⟨htype, -, -⟩ :=
        (List.append_cons_inj_of_notMem hspace hd'.space_not_mem_names).mp htype
      have hmem : (c :: front).getLast (List.cons_ne_nil c front) ∈ d'.typeName := by
        rw [htype]
        exact List.mem_append_left _ (List.getLast_mem _)
      have hword := hd'.isWord _ hmem
      rw [hlast _ (List.getLast?_eq_some_getLast _)] at hword
      simp at hword
    rw [List.cons_append, findAll_of_none hnone]
    exact ih (fun hmem => hfront (List.mem_cons_of_mem _ hmem)) (forall_mem_getLast?_tail hlast)

/-- The declaration that a semicolon behind the text ends: the names are all the word characters and
commas at the end of the text, and the type is all the word characters in front of the space that
stands in front of them. -/
def endingAt? (statement : List Char) : Option Declaration :=
  let names := statement.rtakeWhile isNameListChar
  let front := statement.rdropWhile isNameListChar
  let typeName := front.dropLast.rtakeWhile Text.isWord
  if names ≠ [] ∧ front.getLast? = some ' ' ∧ typeName ≠ [] then some ⟨typeName, names⟩ else none

/-- The semicolon ends a declaration that stands in front of it, unless a longer word is its
type. -/
theorem endingAt?_eq_some_iff {statement : List Char} {d : Declaration} :
    endingAt? statement = some d ↔
      d.Written ∧ ∃ front, statement = front ++ (d.typeName ++ ' ' :: d.names) ∧
        ∀ c ∈ front.getLast?, Text.isWord c = false := by
  constructor
  · intro h
    unfold endingAt? at h
    dsimp only at h
    split at h
    case isFalse => simp at h
    next hfound =>
    obtain ⟨hnames, hspace, htype⟩ := hfound
    obtain rfl := Option.some.inj h
    refine ⟨⟨htype, fun c hc => List.mem_rtakeWhile_imp hc, hnames,
      fun c hc => List.mem_rtakeWhile_imp hc⟩,
      (statement.rdropWhile isNameListChar).dropLast.rdropWhile Text.isWord, ?_,
      Text.getLast?_rdropWhile _ _⟩
    obtain ⟨front, hfront⟩ := List.getLast?_eq_some_iff.mp hspace
    calc statement
        = statement.rdropWhile isNameListChar ++ statement.rtakeWhile isNameListChar :=
          List.rdropWhile_append_rtakeWhile.symm
      _ = front ++ ' ' :: statement.rtakeWhile isNameListChar := by rw [hfront]; simp
      _ = _ := by
        rw [hfront, List.dropLast_concat]
        dsimp only
        rw [← List.append_assoc, List.rdropWhile_append_rtakeWhile]
  · rintro ⟨hd, front, rfl, hlast⟩
    have hwhole : front ++ (d.typeName ++ ' ' :: d.names) =
        (front ++ d.typeName ++ [' ']) ++ d.names := by simp
    have hspace : ∀ c ∈ (front ++ d.typeName ++ [' ']).getLast?, isNameListChar c = false := by
      simp [isNameListChar_space]
    rw [endingAt?, hwhole, Text.rtakeWhile_append hd.isNameListChar hspace,
      Text.rdropWhile_append hd.isNameListChar hspace]
    simp only [List.dropLast_concat, Text.rtakeWhile_append hd.isWord hlast]
    rw [if_pos ⟨hd.names_ne_nil, by simp, hd.typeName_ne_nil⟩]

/-- No declaration stands in front of a semicolon that ends none. -/
theorem endingAt?_append_ne_none (front : List Char) {d : Declaration} (hd : d.Written) :
    endingAt? (front ++ (d.typeName ++ ' ' :: d.names)) ≠ none := by
  -- the type grows by the word characters in front of it
  have hlonger : (⟨front.rtakeWhile Text.isWord ++ d.typeName, d.names⟩ : Declaration).Written := by
    refine ⟨by simp [hd.typeName_ne_nil], fun c hc => ?_, hd.names_ne_nil, hd.isNameListChar⟩
    rcases List.mem_append.mp hc with hfront | htype
    · exact List.mem_rtakeWhile_imp hfront
    · exact hd.isWord c htype
  have hfound := endingAt?_eq_some_iff.mpr ⟨hlonger, front.rdropWhile Text.isWord, rfl,
    Text.getLast?_rdropWhile _ _⟩
  rw [List.append_assoc, ← List.append_assoc, List.rdropWhile_append_rtakeWhile] at hfound
  rw [hfound]
  simp

/-- What is found in front of the first semicolon of a text is the declaration that it ends. -/
theorem findAll_statement {statement : List Char} (h : ';' ∉ statement) :
    findAll (statement ++ [';']) = (endingAt? statement).toList := by
  cases hfound : endingAt? statement with
  | some d =>
    obtain ⟨hd, front, rfl, hlast⟩ := endingAt?_eq_some_iff.mp hfound
    have hfront : ';' ∉ front := fun hmem => h (List.mem_append_left _ hmem)
    have hwhole : front ++ (d.typeName ++ ' ' :: d.names) ++ [';'] = front ++ d.text := by
      simp [text]
    rw [hwhole, findAll_append_text hd hfront hlast]
    rfl
  | none =>
    rw [Option.toList_none, findAll_eq_nil_iff]
    rintro d hd ⟨front, after, hinside⟩
    obtain ⟨rfl, -⟩ := eq_of_append_semicolon h hinside.symm
    exact endingAt?_append_ne_none front hd hfound

end Declaration

/-! ## Qualified declarations -/

/-- Qualified declarations of a text that is cut behind a semicolon. -/
theorem qualify_append_semicolon (a b qualifier : String) :
    qualify (a ++ ";" ++ b) qualifier = qualify (a ++ ";") qualifier ++ qualify b qualifier := by
  have htext : ∀ c ∈ (a ++ ";").toList.getLast?, c = ';' := by simp
  rw [qualify, qualify, qualify, ← String.ofList_append, ← List.flatMap_append,
    ← Declaration.findAll_append htext, ← String.toList_append]

/-- What is left of a text when its declarations are qualified is said by three rules. Behind a
semicolon the search starts anew. Without a semicolon nothing is left. What is left of the text up
to its first semicolon is one line or nothing: the names `r` are all the word characters and commas
in front of the semicolon, the type `w` is all the word characters in front of the space in front of
the names, and nothing is left if one of the three is missing. -/
theorem qualify_statements (q : String) :
    (∀ a b : String, qualify (a ++ ";" ++ b) q = qualify (a ++ ";") q ++ qualify b q) ∧
    (∀ a : String, ';' ∉ a.toList → qualify a q = "") ∧
    ∀ a : String, ';' ∉ a.toList →
      let r := a.toList.rtakeWhile fun c => Text.isWord c || c == ','
      let front := a.toList.rdropWhile fun c => Text.isWord c || c == ','
      let w := front.dropLast.rtakeWhile Text.isWord
      qualify (a ++ ";") q =
        if r ≠ [] ∧ front.getLast? = some ' ' ∧ w ≠ [] then
          q ++ " " ++ String.ofList w ++ " " ++ String.ofList r ++ ";\n"
        else "" := by
  refine ⟨fun a b => qualify_append_semicolon a b q, fun a h => ?_, fun a h => ?_⟩
  · rw [qualify, Declaration.findAll_of_not_mem h]
    rfl
  · intro r front w
    have hfound := Declaration.findAll_statement h
    have hending : Declaration.endingAt? a.toList =
        if r ≠ [] ∧ front.getLast? = some ' ' ∧ w ≠ [] then some ⟨w, r⟩ else none := rfl
    rw [qualify, String.toList_append, ← String.toList_inj]
    change (String.ofList ((Declaration.findAll (a.toList ++ [';'])).flatMap _)).toList = _
    rw [hfound, hending]
    split
    · simp [Declaration.qualified, Declaration.text]
    · simp

/-- The qualifiers of a declaration are lost, and so is what no semicolon follows. -/
theorem qualify_statements_layout :
    qualify ("layout(location = 0) flat in vec3 größe,b" ++ ";" ++ " float c") "out" =
      "out vec3 größe,b;\n" := by
  obtain ⟨happend, hnone, hstatement⟩ := qualify_statements "out"
  rw [happend, hnone " float c" (by decide),
    hstatement "layout(location = 0) flat in vec3 größe,b" (by decide)]
  decide +kernel

end DemoBuild
