import DemoBuild.Proofs.Shader.Declaration
import DemoBuild.Proofs.Shader.Sections
import Mathlib.Data.List.Forall2

/-!
# Blocks of declarations

An interface block is written as declarations of the form `type name[, name...];` with any white
space between them. A space may follow a comma, and a declaration in which one does is lost: the
characters in front of its semicolon that can be names are those behind the last space, and what
stands in front of that space is a comma and not a type. Every other declaration of a block is kept
as it is written, whatever stands around it.

## Main definitions

* `Listing`: a declaration as it is written in a block;
* `Listing.IsTight`: no comma is followed by a space;
* `Block`: declarations with white space between them.

## Main results

* `Block.findAll_text`: the declarations that are found in a block;
* `Block.qualify_text`: the lines for the declarations of a block;
* `Block.qualify_text_keeps_iff`: when all of them are kept;
* `qualify_listings`: so are they in the interface and the sources of a stage.
-/

namespace DemoBuild

/-- One or more word characters. -/
structure Word where
  /-- The characters. -/
  chars : List Char
  /-- There is a character. -/
  ne_nil : chars ≠ []
  /-- All are word characters. -/
  all_isWord : chars.all Text.isWord = true
  deriving DecidableEq

/-- Any amount of white space. -/
structure Blanks where
  /-- The characters. -/
  chars : List Char
  /-- All are white space. -/
  all_isBlank : chars.all Text.isBlank = true

/-- A further name of a declaration. -/
structure FurtherName where
  /-- A space follows the comma in front of the name. -/
  spaced : Bool
  /-- The name. -/
  name : Word
  deriving DecidableEq

/-- The comma, a space if one follows it, and the name. -/
def FurtherName.text (n : FurtherName) : List Char :=
  ',' :: (if n.spaced then [' '] else []) ++ n.name.chars

/-- A declaration as it is written in a block: a type, and at least one name. -/
structure Listing where
  /-- The type. -/
  typeName : Word
  /-- The first name. -/
  first : Word
  /-- The names behind commas. -/
  further : List FurtherName
  deriving DecidableEq

namespace Listing

/-- The names with their commas. -/
def namesText (l : Listing) : List Char :=
  l.first.chars ++ l.further.flatMap FurtherName.text

/-- The text of the declaration. -/
def text (l : Listing) : List Char :=
  l.typeName.chars ++ ' ' :: l.namesText ++ [';']

/-- The names. -/
def names (l : Listing) : List Word :=
  l.first :: l.further.map FurtherName.name

/-- The declarations have the same type and the same names. -/
def Agrees (l l' : Listing) : Prop :=
  l.typeName = l'.typeName ∧ l.names = l'.names

/-- No comma is followed by a space. -/
def IsTight (l : Listing) : Prop :=
  ∀ n ∈ l.further, n.spaced = false

instance : DecidablePred IsTight := fun l =>
  inferInstanceAs (Decidable (∀ n ∈ l.further, n.spaced = false))

/-- The declaration behind a qualifier. -/
def line (qualifier : String) (l : Listing) : String :=
  qualifier ++ " " ++ String.ofList l.text

/-- The declaration as it is found if it is. -/
def declaration (l : Listing) : Declaration :=
  ⟨l.typeName.chars, l.namesText⟩

end Listing

/-- Declarations with white space in front of each of them and behind the last one. -/
structure Block where
  /-- The declarations, each with what stands in front of it. -/
  entries : List (Blanks × Listing)
  /-- What stands behind the last one. -/
  rest : Blanks

namespace Block

/-- The text of the block. -/
def text (b : Block) : String :=
  String.ofList (b.entries.flatMap (fun (blanks, l) => blanks.chars ++ l.text) ++ b.rest.chars)

/-- The declarations. -/
def listings (b : Block) : List Listing :=
  b.entries.map Prod.snd

end Block

/-! ## Characters -/

/-- White space is no part of a word. -/
theorem Text.isWord_of_isBlank {c : Char} (h : Text.isBlank c = true) : Text.isWord c = false := by
  -- the blank characters are finitely many
  have hmem : c.toNat ∈ [0x20, 0x09, 0x0a, 0x0b, 0x0c, 0x0d, 0x85, 0xa0, 0x1680, 0x2000, 0x2001,
      0x2002, 0x2003, 0x2004, 0x2005, 0x2006, 0x2007, 0x2008, 0x2009, 0x200a, 0x2028, 0x2029,
      0x202f, 0x205f, 0x3000] := by
    simp only [List.mem_cons, List.not_mem_nil, or_false]
    by_cases hspace : c = ' '
    · exact .inl (congrArg Char.toNat hspace)
    · simp only [Text.isBlank, Bool.or_eq_true, Bool.and_eq_true, beq_iff_eq, decide_eq_true_eq,
        hspace, false_or] at h
      omega
  rw [← Char.ofNat_toNat c]
  -- lists are searched faster than arrays
  simp only [Text.isWord, Text.inRanges, ← Array.any_toList]
  revert hmem
  generalize c.toNat = n
  revert n
  decide +kernel

namespace Word

variable (w : Word)

theorem isWord : ∀ c ∈ w.chars, Text.isWord c = true :=
  List.all_eq_true.mp w.all_isWord

theorem semicolon_not_mem : ';' ∉ w.chars := fun h => by simpa using w.isWord _ h

theorem isNameListChar {c : Char} (h : c ∈ w.chars) : Declaration.isNameListChar c = true := by
  rw [Declaration.isNameListChar, w.isWord c h, Bool.true_or]

end Word

namespace Blanks

variable (b : Blanks)

theorem isBlank : ∀ c ∈ b.chars, Text.isBlank c = true :=
  List.all_eq_true.mp b.all_isBlank

theorem semicolon_not_mem : ';' ∉ b.chars := fun h => absurd (b.isBlank _ h) (by decide)

/-- No word ends at the end of white space. -/
theorem isWord_getLast? : ∀ c ∈ b.chars.getLast?, Text.isWord c = false :=
  fun c hc => Text.isWord_of_isBlank (b.isBlank c (List.mem_of_mem_getLast? hc))

end Blanks

theorem FurtherName.semicolon_not_mem (n : FurtherName) : ';' ∉ n.text := by
  cases hspaced : n.spaced <;> simp [text, hspaced, n.name.semicolon_not_mem]

/-- Behind a comma without a space everything may be part of a list of names. -/
theorem FurtherName.isNameListChar {n : FurtherName} (hn : n.spaced = false) {c : Char}
    (h : c ∈ n.text) : Declaration.isNameListChar c = true := by
  rw [text, hn] at h
  rcases List.mem_cons.mp h with rfl | hname
  · decide
  · exact n.name.isNameListChar (by simpa using hname)

/-! ## One declaration -/

namespace Listing

variable (l : Listing)

theorem text_eq : l.text = l.declaration.text := rfl

theorem semicolon_not_mem_namesText : ';' ∉ l.namesText := by
  rw [namesText, List.mem_append, List.mem_flatMap]
  rintro (h | ⟨n, -, h⟩)
  · exact l.first.semicolon_not_mem h
  · exact n.semicolon_not_mem h

/-- The only semicolon of a declaration is its last character. -/
theorem semicolon_not_mem : ';' ∉ l.typeName.chars ++ ' ' :: l.namesText := by
  simp [l.typeName.semicolon_not_mem, l.semicolon_not_mem_namesText]

theorem count_semicolon_text : l.text.count ';' = 1 := by
  rw [text, List.count_append, List.count_eq_zero_of_not_mem l.semicolon_not_mem]
  rfl

variable {l}

/-- Names without spaces are spelled as the names of declarations are. -/
theorem written_declaration (hl : l.IsTight) : l.declaration.Written := by
  refine ⟨l.typeName.ne_nil, l.typeName.isWord, ?_, ?_⟩
  · simp [declaration, namesText, l.first.ne_nil]
  · intro c hc
    rcases List.mem_append.mp hc with hfirst | hfurther
    · exact l.first.isNameListChar hfirst
    · obtain ⟨n, hn, hc⟩ := List.mem_flatMap.mp hfurther
      exact FurtherName.isNameListChar (hl n hn) hc

/-- The last comma that is followed by a space. -/
theorem exists_last_spaced {further : List FurtherName} (h : ∃ n ∈ further, n.spaced = true) :
    ∃ front n rest, further = front ++ n :: rest ∧ n.spaced = true ∧
      ∀ m ∈ rest, m.spaced = false := by
  induction further with
  | nil => simp at h
  | cons n further ih =>
    by_cases hlater : ∃ m ∈ further, m.spaced = true
    · obtain ⟨front, m, rest, rfl, hm, hrest⟩ := ih hlater
      exact ⟨n :: front, m, rest, rfl, hm, hrest⟩
    · obtain ⟨m, hm, hspaced⟩ := h
      rcases List.mem_cons.mp hm with rfl | hm
      · exact ⟨[], m, further, rfl, hspaced, by simpa using hlater⟩
      · exact absurd ⟨m, hm, hspaced⟩ hlater

/-- With a space behind a comma the names end behind a space that no type stands in front of. -/
theorem exists_comma_space (hl : ¬ l.IsTight) :
    ∃ front last, l.namesText = front ++ ',' :: ' ' :: last ∧
      ∀ c ∈ last, Declaration.isNameListChar c = true := by
  have hspaced : ∃ n ∈ l.further, n.spaced = true := by simpa [IsTight] using hl
  obtain ⟨front, n, rest, hfurther, hn, hrest⟩ := exists_last_spaced hspaced
  refine ⟨l.first.chars ++ front.flatMap FurtherName.text,
    n.name.chars ++ rest.flatMap FurtherName.text, ?_, fun c hc => ?_⟩
  · simp [namesText, hfurther, FurtherName.text, hn]
  · rcases List.mem_append.mp hc with hname | hlater
    · exact n.name.isNameListChar hname
    · obtain ⟨m, hm, hc⟩ := List.mem_flatMap.mp hlater
      exact FurtherName.isNameListChar (hrest m hm) hc

/-- No declaration ends behind names in which a space follows a comma. -/
theorem endingAt?_of_not_isTight (front : List Char) (hl : ¬ l.IsTight) :
    Declaration.endingAt? (front ++ (l.typeName.chars ++ ' ' :: l.namesText)) = none := by
  obtain ⟨start, last, hnames, hlast⟩ := exists_comma_space hl
  -- the names are read back to the last space, in front of which a comma stands
  have hwhole : front ++ (l.typeName.chars ++ ' ' :: l.namesText) =
      (front ++ l.typeName.chars ++ ' ' :: start ++ [',']) ++ [' '] ++ last := by simp [hnames]
  have hspace : ∀ c ∈ ((front ++ l.typeName.chars ++ ' ' :: start ++ [',']) ++ [' ']).getLast?,
      Declaration.isNameListChar c = false := by
    rw [List.getLast?_concat]
    simp [Declaration.isNameListChar_space]
  have htype : (front ++ l.typeName.chars ++ ' ' :: start ++ [',']).rtakeWhile Text.isWord = [] :=
    List.rtakeWhile_concat_neg _ _ _ (by simp)
  rw [Declaration.endingAt?, hwhole, Text.rdropWhile_append hlast hspace]
  simp only [List.dropLast_concat, htype]
  simp

/-- Behind white space a declaration is found as it is written, or not at all. -/
theorem findAll_append_text (blanks : Blanks) (l : Listing) :
    Declaration.findAll (blanks.chars ++ l.text) = if l.IsTight then [l.declaration] else [] := by
  split
  · next hl =>
    exact Declaration.findAll_append_text (written_declaration hl) blanks.semicolon_not_mem
      blanks.isWord_getLast?
  · next hl =>
    have hstatement : ';' ∉ blanks.chars ++ (l.typeName.chars ++ ' ' :: l.namesText) := by
      rw [List.mem_append]
      exact not_or.mpr ⟨blanks.semicolon_not_mem, l.semicolon_not_mem⟩
    rw [text, ← List.append_assoc, Declaration.findAll_statement hstatement,
      endingAt?_of_not_isTight _ hl]
    rfl

/-- The number of semicolons in the lines for declarations tells how many there are. -/
theorem count_semicolon_ended (q : String) (listings : List Listing) :
    (Text.ended (listings.map (line q))).toList.count ';' =
      listings.length * (q.toList.count ';' + 1) := by
  induction listings with
  | nil => simp [Text.ended]
  | cons l listings ih =>
    have hline : (line q l).toList.count ';' = q.toList.count ';' + 1 := by
      simp [line, l.count_semicolon_text]
    rw [Text.ended, List.map_cons, List.map_cons, String.join_cons, String.toList_append,
      String.toList_append, List.count_append, List.count_append, hline, ← Text.ended, ih,
      List.length_cons, Nat.succ_mul]
    simp [Nat.add_comm]

end Listing

/-! ## All declarations of a block -/

namespace Block

/-- The declarations that are found are those in which no space follows a comma. -/
theorem findAll_text (b : Block) :
    Declaration.findAll b.text.toList =
      (b.listings.filter (·.IsTight)).map Listing.declaration := by
  obtain ⟨entries, rest⟩ := b
  rw [text, String.toList_ofList, listings]
  dsimp only
  induction entries with
  | nil => exact Declaration.findAll_of_not_mem rest.semicolon_not_mem
  | cons entry entries ih =>
    obtain ⟨blanks, l⟩ := entry
    -- each declaration ends with a semicolon, so what follows it does not matter
    have hlast : ∀ c ∈ (blanks.chars ++ l.text).getLast?, c = ';' := by
      rw [Listing.text, ← List.append_assoc, List.getLast?_concat]
      simp
    rw [List.flatMap_cons, List.append_assoc, Declaration.findAll_append hlast,
      Listing.findAll_append_text, ih, List.map_cons, List.filter_cons]
    by_cases hl : l.IsTight <;> simp [hl]

/-- The lines for the declarations of a block. -/
theorem qualify_text (b : Block) (q : String) :
    qualify b.text q = Text.ended ((b.listings.filter (·.IsTight)).map (Listing.line q)) := by
  rw [qualify, findAll_text]
  generalize b.listings.filter (·.IsTight) = listings
  rw [← String.toList_inj, String.toList_ofList, Text.ended, String.toList_join]
  simp only [List.flatMap_map]
  refine List.flatMap_congr fun l _ => ?_
  simp [Declaration.qualified, Listing.line, Listing.text_eq]

/-- All declarations are kept exactly if there is no space behind a comma. -/
theorem qualify_text_keeps_iff (b : Block) (q : String) :
    (∃ kept, List.Forall₂ Listing.Agrees kept b.listings ∧
      qualify b.text q = Text.ended (kept.map (Listing.line q))) ↔
        ∀ l ∈ b.listings, l.IsTight := by
  constructor
  · rintro ⟨kept, hkept, heq⟩
    -- a lost declaration would be missed when the semicolons are counted
    have hcount := congrArg (fun t => t.toList.count ';') ((qualify_text b q).symm.trans heq)
    simp only [Listing.count_semicolon_ended] at hcount
    have hlength := Nat.eq_of_mul_eq_mul_right (Nat.succ_pos _) hcount
    rw [hkept.length_eq, List.length_filter_eq_length_iff] at hlength
    exact fun l hl => by simpa using hlength l hl
  · intro h
    have hfilter : b.listings.filter (·.IsTight) = b.listings :=
      List.filter_eq_self.mpr fun l hl => by simpa using h l hl
    refine ⟨b.listings, List.forall₂_same.mpr fun l _ => ⟨rfl, rfl⟩, ?_⟩
    rw [qualify_text, hfilter]

end Block

/-! ## What a stage sees -/

namespace Source

/-- The lines of a section stand in the text of several. -/
theorem hasLines_joined {sections : List String} {part : String} {lines : List String}
    (hmem : part ∈ sections) (h : Text.HasLines part lines) :
    Text.HasLines (joined sections) lines := by
  have hdivider : divider = "\n" ++ "\n#pragma separator" ++ "\n" := rfl
  induction sections with
  | nil => simp at hmem
  | cons first sections ih =>
    -- what stands between two sections begins and ends with a line break
    by_cases hnil : sections = []
    · rw [hnil, List.mem_singleton] at hmem
      rw [hnil, joined, String.intercalate_singleton]
      exact hmem ▸ h
    · rw [joined, String.intercalate_cons_of_ne_nil hnil, ← joined, hdivider]
      rcases List.mem_cons.mp hmem with rfl | hmem
      · simpa only [String.append_assoc] using
          h.append_newline ("\n#pragma separator" ++ "\n" ++ joined sections)
      · simpa only [String.append_assoc] using
          (ih hmem).newline_append (first ++ "\n" ++ "\n#pragma separator")

/-- The lines of the body of a section stand in its text. -/
theorem hasLines_titled (title : String) {body : String} {lines : List String}
    (h : Text.HasLines body lines) : Text.HasLines (titled (some title) body) lines := by
  have htitled : titled (some title) body = "// " ++ title ++ "\n" ++ "\n" ++ body := by
    rw [← String.toList_inj]
    simp [titled]
  rw [htitled]
  exact h.newline_append _

end Source

/-- Behind whole lines the lines of a text stand as they stand in the text. -/
theorem EndsLine.hasLines_append {a text : String} {lines : List String} (ha : EndsLine a)
    (h : Text.HasLines text lines) : Text.HasLines (a ++ text) lines := by
  obtain rfl | ⟨start, rfl⟩ := ha
  · simpa using h
  · exact h.newline_append start

/-- The lines of each of several texts of whole lines stand in the joined text. -/
theorem hasLines_join {texts : List String} (htexts : ∀ t ∈ texts, EndsLine t)
    {lines : List String} (hmem : Text.ended lines ∈ texts) :
    Text.HasLines (String.join texts) lines := by
  induction texts with
  | nil => simp at hmem
  | cons text texts ih =>
    obtain ⟨htext, hrest⟩ := List.forall_mem_cons.mp htexts
    rw [String.join_cons]
    rcases List.mem_cons.mp hmem with rfl | hmem
    · exact Text.hasLines_ended_append lines _
    · exact htext.hasLines_append (ih hrest hmem)

namespace Shader

variable {s : Shader}

/-- The interface blocks of a stage as they are written, with the qualifiers of their
declarations. -/
def writtenBlocks (s : Shader) : Stage → List (Option String × String)
  | .vertex => [(s.attributesCode, "in"), (s.varyingsCode, "out")]
  | .fragment => [(s.varyingsCode, "in"), (s.outputsCode, "out")]

/-- A block that is not blank is one that its stages see. -/
theorem exists_mem_interfaceBlocks {stage : Stage} {code q : String}
    (h : (some code, q) ∈ s.writtenBlocks stage) (hcode : Text.isBlankText code = false) :
    ∃ block ∈ s.interfaceBlocks stage, block.qualified? = some (qualify code q) := by
  have hblock : blockOf (some code) = some code := by simp [blockOf, hcode]
  cases stage <;>
    simp only [writtenBlocks, List.mem_cons, Prod.mk.injEq, List.not_mem_nil, or_false] at h <;>
    rcases h with ⟨hsame, rfl⟩ | ⟨hsame, rfl⟩
  · exact ⟨_, List.mem_cons_self, by
      simp [InterfaceBlock.qualified?, attributes?, ← hsame, hblock]⟩
  · exact ⟨_, List.mem_cons_of_mem _ List.mem_cons_self, by
      simp [InterfaceBlock.qualified?, varyings?, ← hsame, hblock]⟩
  · exact ⟨_, List.mem_cons_self, by
      simp [InterfaceBlock.qualified?, varyings?, ← hsame, hblock]⟩
  · exact ⟨_, List.mem_cons_of_mem _ List.mem_cons_self, by
      simp [InterfaceBlock.qualified?, outputs?, ← hsame, hblock]⟩

/-- The lines of a block stand in the interface of its stage. -/
theorem hasLines_interfaces {stage : Stage} {block : InterfaceBlock} {lines : List String}
    (hblock : block ∈ s.interfaceBlocks stage)
    (hlines : block.qualified? = some (Text.ended lines)) :
    Text.HasLines (s.interfaces.get stage) lines := by
  rw [interfaces_get_eq_join]
  refine hasLines_join (fun text htext => ?_) (List.mem_filterMap.mpr ⟨block, hblock, hlines⟩)
  obtain ⟨other, -, hother⟩ := List.mem_filterMap.mp htext
  obtain ⟨code, -, rfl⟩ := Option.map_eq_some_iff.mp hother
  exact endsLine_qualify code other.qualifier

/-- The lines of a block stand in every source of its stage. -/
theorem hasLines_assemble {stage : Stage} {block : InterfaceBlock} {lines : List String}
    (hblock : block ∈ s.interfaceBlocks stage)
    (hlines : block.qualified? = some (Text.ended lines)) {pass : Nat} {text : String}
    (htext : s.assemble (.stage stage pass) = .ok text) : Text.HasLines text lines := by
  obtain ⟨-, code, -, rfl⟩ := s.assemble_stage_eq_ok_iff.mp htext
  rw [(s.holds_stageSource stage pass code).render_eq]
  have hbody : Text.HasLines (Text.ended lines) lines := by
    simpa using Text.hasLines_ended_append lines ""
  refine Source.hasLines_joined ?_ (Source.hasLines_titled block.title hbody)
  have hshown : (block.title, some (Text.ended lines)) ∈ s.shownBlocks (some stage) := by
    rw [← hlines, ← map_interfaceBlocks]
    exact List.mem_map_of_mem hblock
  have hsection : Source.titled (some block.title) (Text.ended lines) ∈
      (s.shownBlocks (some stage)).filterMap (fun b => b.2.map (Source.titled (some b.1))) :=
    List.mem_filterMap.mpr ⟨_, hshown, rfl⟩
  simp only [leadingSections, List.mem_append]
  exact .inl (.inl (.inr hsection))

end Shader

/-- A block without anything but white space has no declarations. -/
theorem Block.listings_of_isBlankText {b : Block} (h : Text.isBlankText b.text = true) :
    b.listings = [] := by
  rw [List.eq_nil_iff_forall_not_mem]
  intro l hl
  obtain ⟨⟨blanks, l⟩, hentry, rfl⟩ := List.mem_map.mp hl
  have hsemicolon : ';' ∈ b.text.toList := by
    rw [text, String.toList_ofList, List.mem_append, List.mem_flatMap]
    exact .inl ⟨_, hentry, by simp [Listing.text]⟩
  exact absurd (List.all_eq_true.mp h _ hsemicolon) (by decide)

/-- A block of declarations gives one line for each declaration in which no comma is followed by a
space, in order, with the declaration as it is written. So all declarations of a block are kept with
their types and names exactly if it has no such comma. Then their lines stand in the interface of
every stage that has the block, and in every source of the stage. -/
theorem qualify_listings (b : Block) :
    (∀ q, qualify b.text q =
      Text.ended ((b.listings.filter (·.IsTight)).map (Listing.line q))) ∧
    (∀ q, (∃ kept, List.Forall₂ Listing.Agrees kept b.listings ∧
        qualify b.text q = Text.ended (kept.map (Listing.line q))) ↔
      ∀ l ∈ b.listings, l.IsTight) ∧
    ((∀ l ∈ b.listings, l.IsTight) → ∀ (s : Shader) (stage : Stage) (q : String),
      (some b.text, q) ∈ s.writtenBlocks stage →
        Text.HasLines (s.interfaces.get stage) (b.listings.map (Listing.line q)) ∧
        ∀ pass text, s.assemble (.stage stage pass) = .ok text →
          Text.HasLines text (b.listings.map (Listing.line q))) := by
  refine ⟨b.qualify_text, b.qualify_text_keeps_iff, fun htight s stage q hblock => ?_⟩
  have hfilter : b.listings.filter (·.IsTight) = b.listings :=
    List.filter_eq_self.mpr fun l hl => by simpa using htight l hl
  cases hblank : Text.isBlankText b.text with
  | true =>
    -- a blank block is no block, and it holds no declarations
    rw [Block.listings_of_isBlankText hblank]
    exact ⟨Text.hasLines_nil _, fun _ _ _ => Text.hasLines_nil _⟩
  | false =>
    obtain ⟨block, hshown, hqualified⟩ := Shader.exists_mem_interfaceBlocks hblock hblank
    rw [b.qualify_text, hfilter] at hqualified
    exact ⟨Shader.hasLines_interfaces hshown hqualified,
      fun _ _ htext => Shader.hasLines_assemble hshown hqualified htext⟩

/-- Two declarations, each on a line of its own. -/
def twoDeclarations : Block where
  entries :=
    [(⟨[], by decide⟩,
      ⟨⟨"vec2".toList, by decide, by decide⟩, ⟨"uv".toList, by decide, by decide⟩,
        [⟨false, ⟨"st".toList, by decide, by decide⟩⟩]⟩),
    (⟨['\n'], by decide⟩,
      ⟨⟨"float".toList, by decide, by decide⟩, ⟨"fog".toList, by decide, by decide⟩, []⟩)]
  rest := ⟨['\n'], by decide⟩

/-- A shader with varyings and vertex code. -/
def withVaryings (varyings : String) : Shader where
  varyingsCode := some varyings
  passes := [⟨some "void main() { }", none⟩]

/-- Both declarations are in the interface of the vertex stage and in its source. -/
theorem qualify_listings_twoDeclarations :
    twoDeclarations.text = "vec2 uv,st;\nfloat fog;\n" ∧
    qualify "vec2 uv,st;\nfloat fog;\n" "in" = "in vec2 uv,st;\nin float fog;\n" ∧
    Text.HasLines ((withVaryings twoDeclarations.text).interfaces.get .vertex)
      ["out vec2 uv,st;", "out float fog;"] ∧
    ∃ text, (withVaryings twoDeclarations.text).assemble (.stage .vertex 0) = .ok text ∧
      Text.HasLines text ["out vec2 uv,st;", "out float fog;"] := by
  have htext : twoDeclarations.text = "vec2 uv,st;\nfloat fog;\n" := by decide
  obtain ⟨hqualify, -, hstage⟩ := qualify_listings twoDeclarations
  -- the varyings are what the vertex stage hands on
  obtain ⟨hinterface, hassemble⟩ := hstage (by decide) (withVaryings twoDeclarations.text) .vertex
    "out" (List.mem_cons_of_mem _ List.mem_cons_self)
  have hlines : twoDeclarations.listings.map (Listing.line "out") =
      ["out vec2 uv,st;", "out float fog;"] := by decide
  have hcode : (withVaryings twoDeclarations.text).Provides .vertex 0 "void main() { }" :=
    ⟨_, rfl, rfl, by decide⟩
  have hsource := Shader.assemble_stage_of_provides rfl hcode
  refine ⟨htext, ?_, hlines ▸ hinterface, _, hsource, hlines ▸ hassemble 0 _ hsource⟩
  rw [← htext, hqualify]
  decide

/-- One declaration of two names, with a space behind the comma. -/
def spacedNames : Block where
  entries :=
    [(⟨[], by decide⟩,
      ⟨⟨"vec3".toList, by decide, by decide⟩, ⟨"a".toList, by decide, by decide⟩,
        [⟨true, ⟨"b".toList, by decide, by decide⟩⟩]⟩)]
  rest := ⟨[], by decide⟩

/-- The declaration is lost: the stage that hands both variables on declares neither. -/
theorem qualify_spacedNames :
    spacedNames.text = "vec3 a, b;" ∧ spacedNames.listings.length = 1 ∧
    qualify "vec3 a, b;" "out" = "" ∧
    (¬ ∃ kept, List.Forall₂ Listing.Agrees kept spacedNames.listings ∧
      qualify spacedNames.text "out" = Text.ended (kept.map (Listing.line "out"))) ∧
    (withVaryings "vec3 a, b;").interfaces.get .vertex = "" := by
  have htext : spacedNames.text = "vec3 a, b;" := by decide
  have hnone : spacedNames.listings.filter (·.IsTight) = [] := by decide
  have hlost (q : String) : qualify "vec3 a, b;" q = "" := by
    rw [← htext, spacedNames.qualify_text, hnone]
    rfl
  refine ⟨htext, rfl, hlost "out", ?_, ?_⟩
  · rw [spacedNames.qualify_text_keeps_iff]
    decide
  · change "" ++ qualify "vec3 a, b;" "out" = ""
    rw [hlost]
    rfl

end DemoBuild
