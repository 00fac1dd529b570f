import DemoBuild.Yaml.Node
import DemoBuild.Yaml.Token

/-!
# Nodes from tokens

`parseDocument` reads the first document of a token list. Each reader gives what it has read and, as
long as it has met no fault, the tokens that are left together with the fact that they are fewer.
Tokens that end before the document does are a fault like any other.
-/

namespace DemoBuild.Yaml

/-- The tokens that are left after some of `ts`. -/
abbrev Fewer (ts : List Token) :=
  { rest : List Token // rest.length < ts.length }

/-- The tokens that are left after some or none of `ts`. -/
abbrev NoMore (ts : List Token) :=
  { rest : List Token // rest.length ≤ ts.length }

/-- What remains of fewer tokens remains of more. -/
def Fewer.widen {ts us : List Token} (rest : Fewer us) (h : us.length ≤ ts.length) : Fewer ts :=
  ⟨rest.1, Nat.lt_of_lt_of_le rest.2 h⟩

/-- What remains of fewer tokens is less than all of more. -/
def NoMore.shrink {ts us : List Token} (rest : NoMore us) (h : us.length < ts.length) : Fewer ts :=
  ⟨rest.1, Nat.lt_of_le_of_lt rest.2 h⟩

/-- What remains of fewer tokens remains of more. -/
def NoMore.widen {ts us : List Token} (rest : NoMore us) (h : us.length ≤ ts.length) : NoMore ts :=
  ⟨rest.1, Nat.le_trans rest.2 h⟩

/-- Something read from the front of `ts`; after a fault, nothing is left. -/
abbrev Parsed (α : Type) (ts : List Token) :=
  α × Option (Fewer ts)

/-- Something read from the front of `ts`, or made of nothing. -/
abbrev ParsedAny (α : Type) (ts : List Token) :=
  α × Option (NoMore ts)

/-- The handles for tags that a document declares, with what they stand for. -/
abbrev Handles :=
  List (String × Tag)

/-- The handles that every document has unless it declares them itself. -/
def Handles.standard : Handles :=
  [("!", .bang), ("!!", .language "")]

/-- The tag that a handle and a suffix stand for. -/
def Handles.expand? (handles : Handles) (handle : Option String) (suffix : Tag) : Option Tag :=
  match handle with
  | none => some suffix
  | some handle => (handles.lookup handle).map (· ++ suffix)

/-- Reads an anchor and a tag, in either order. -/
def parseProperties (handles : Handles) (ts : List Token) :
    Option (Properties String × NoMore ts) :=
  match ts with
  | .anchor name :: .tag handle suffix :: rest =>
    (handles.expand? handle suffix).map fun tag =>
      ({ anchor := some name, tag := some tag }, ⟨rest, by simp only [List.length_cons]; omega⟩)
  | .tag handle suffix :: .anchor name :: rest =>
    (handles.expand? handle suffix).map fun tag =>
      ({ anchor := some name, tag := some tag }, ⟨rest, by simp only [List.length_cons]; omega⟩)
  | .anchor name :: rest => some ({ anchor := some name }, ⟨rest, by simp⟩)
  | .tag handle suffix :: rest =>
    (handles.expand? handle suffix).map fun tag => ({ tag := some tag }, ⟨rest, by simp⟩)
  | ts => some ({}, ⟨ts, Nat.le_refl _⟩)

/-- Nothing is written for an item of a block list. -/
def endsItem : List Token → Bool
  | .blockEntry :: _ | .blockEnd :: _ => true
  | _ => false

/-- Nothing is written for an item of a list whose dashes are not indented. -/
def endsUnindentedItem : List Token → Bool
  | .blockEntry :: _ | .key :: _ | .value :: _ | .blockEnd :: _ => true
  | _ => false

/-- Nothing is written for a key or a value of a block mapping. -/
def endsEntryPart : List Token → Bool
  | .key :: _ | .value :: _ | .blockEnd :: _ => true
  | _ => false

/-- Nothing is written for a key inside braces. -/
def endsFlowKey : List Token → Bool
  | .value :: _ | .flowEntry :: _ | .flowMappingEnd :: _ => true
  | _ => false

/-- Nothing is written for a value inside braces. -/
def endsFlowValue : List Token → Bool
  | .flowEntry :: _ | .flowMappingEnd :: _ => true
  | _ => false

/-- Nothing is written for the value of a pair inside brackets. -/
def endsPairValue : List Token → Bool
  | .flowEntry :: _ | .flowSequenceEnd :: _ => true
  | _ => false

/-- Where a node stands. -/
structure Place where
  /-- It may be a block collection. -/
  block : Bool
  /-- It may be a list whose dashes are not indented. -/
  unindented : Bool

namespace Place

/-- An item of a block list, or the whole document. -/
def item : Place :=
  ⟨true, false⟩

/-- A key or a value of a block mapping. -/
def entry : Place :=
  ⟨true, true⟩

/-- Inside brackets or braces. -/
def flow : Place :=
  ⟨false, false⟩

/-- The next token starts a node here, properties aside. -/
def startsContent (place : Place) : List Token → Bool
  | .scalar .. :: _ | .flowSequenceStart :: _ | .flowMappingStart :: _ => true
  | .blockSequenceStart :: _ | .blockMappingStart :: _ => place.block
  | .blockEntry :: _ => place.unindented
  | _ => false

end Place

/-- What stands at the end of a pair inside brackets: the next token is needed to know of it. -/
def pairEnd {ts : List Token} : Option (NoMore ts) → List (Node String × Node String)
  | some ⟨[], _⟩ => [(.broken, .broken)]
  | _ => []

mutual

/-- Reads a node. Where only properties are written, they belong to a blank scalar. -/
def parseNode (handles : Handles) (place : Place) (ts : List Token) : Parsed (Node String) ts :=
  match ts with
  | .alias name :: rest => (.alias name, some ⟨rest, by simp⟩)
  | ts =>
    match parseProperties handles ts with
    | none => (.broken, none)
    | some (properties, ⟨rest, le⟩) =>
      if place.startsContent rest then
        let (node, rest) := parseContent handles properties rest
        (node, rest.map (·.widen le))
      else if h : rest.length < ts.length ∧ rest ≠ [] then
        (.scalar properties "" true, some ⟨rest, h.1⟩)
      else (.broken, none)
  termination_by 6 * ts.length + 2

/-- Reads what follows the properties of a node. -/
def parseContent (handles : Handles) (properties : Properties String) (ts : List Token) :
    Parsed (Node String) ts :=
  match ts with
  | .scalar text plain :: rest => (.scalar properties text plain, some ⟨rest, by simp⟩)
  | .flowSequenceStart :: rest =>
    let (items, rest) := parseFlowItems handles true rest
    (.sequence properties items, rest.map (·.widen (by simp)))
  | .flowMappingStart :: rest =>
    let (entries, rest) := parseFlowEntries handles true rest
    (.mapping properties entries, rest.map (·.widen (by simp)))
  | .blockSequenceStart :: rest =>
    let (items, rest) := parseItems handles rest
    (.sequence properties items, rest.map (·.widen (by simp)))
  | .blockMappingStart :: rest =>
    let (entries, rest) := parseEntries handles rest
    (.mapping properties entries, rest.map (·.widen (by simp)))
  | .blockEntry :: rest =>
    match parsePart handles .item endsUnindentedItem rest with
    | (item, none) => (.sequence properties [item], none)
    | (item, some ⟨rest, _⟩) =>
      let (items, rest) := parseUnindentedItems handles rest
      (.sequence properties (item :: items),
        rest.map (·.shrink (by simp only [List.length_cons]; omega)))
  | _ => (.broken, none)
  termination_by 6 * ts.length + 1

/-- Reads a node, or nothing where `ends` says so. -/
def parsePart (handles : Handles) (place : Place) (ends : List Token → Bool) (ts : List Token) :
    ParsedAny (Node String) ts :=
  if ends ts then (.blank, some ⟨ts, Nat.le_refl _⟩)
  else
    let (node, rest) := parseNode handles place ts
    (node, rest.map fun rest => ⟨rest.1, Nat.le_of_lt rest.2⟩)
  termination_by 6 * ts.length + 3

/-- Reads a value after its mark, or nothing where there is no mark. -/
def parseValue (handles : Handles) (place : Place) (ends : List Token → Bool) (ts : List Token) :
    ParsedAny (Node String) ts :=
  match ts with
  | .value :: rest =>
    let (node, rest) := parsePart handles place ends rest
    (node, rest.map (·.widen (by simp)))
  | [] => (.broken, none)
  | ts => (.blank, some ⟨ts, Nat.le_refl _⟩)
  termination_by 6 * ts.length + 3

/-- Reads the items of a block list up to its end. -/
def parseItems (handles : Handles) (ts : List Token) : Parsed (List (Node String)) ts :=
  match ts with
  | .blockEnd :: rest => ([], some ⟨rest, by simp⟩)
  | .blockEntry :: rest =>
    match parsePart handles .item endsItem rest with
    | (item, none) => ([item], none)
    | (item, some ⟨rest, _⟩) =>
      let (items, rest) := parseItems handles rest
      (item :: items, rest.map (·.widen (by simp only [List.length_cons]; omega)))
  | _ => ([.broken], none)
  termination_by 6 * ts.length + 0

/-- Reads the further items of a list whose dashes are not indented. -/
def parseUnindentedItems (handles : Handles) (ts : List Token) :
    ParsedAny (List (Node String)) ts :=
  match ts with
  | .blockEntry :: rest =>
    match parsePart handles .item endsUnindentedItem rest with
    | (item, none) => ([item], none)
    | (item, some ⟨rest, _⟩) =>
      let (items, rest) := parseUnindentedItems handles rest
      (item :: items, rest.map (·.widen (by simp only [List.length_cons]; omega)))
  | [] => ([.broken], none)
  | ts => ([], some ⟨ts, Nat.le_refl _⟩)
  termination_by 6 * ts.length + 0

/-- Reads the entries of a block mapping up to its end. -/
def parseEntries (handles : Handles) (ts : List Token) :
    Parsed (List (Node String × Node String)) ts :=
  match ts with
  | .blockEnd :: rest => ([], some ⟨rest, by simp⟩)
  | .key :: rest =>
    match parsePart handles .entry endsEntryPart rest with
    | (key, none) => ([(key, .broken)], none)
    | (key, some ⟨rest, _⟩) =>
      match parseValue handles .entry endsEntryPart rest with
      | (value, none) => ([(key, value)], none)
      | (value, some ⟨rest, _⟩) =>
        let (entries, rest) := parseEntries handles rest
        ((key, value) :: entries, rest.map (·.widen (by simp only [List.length_cons]; omega)))
  | _ => ([(.broken, .broken)], none)
  termination_by 6 * ts.length + 0

/-- Reads the items of a bracketed list up to its end; all but the first follow a comma. -/
def parseFlowItems (handles : Handles) (first : Bool) (ts : List Token) :
    Parsed (List (Node String)) ts :=
  match ts with
  | .flowSequenceEnd :: rest => ([], some ⟨rest, by simp⟩)
  | .flowEntry :: .flowSequenceEnd :: rest =>
    if first then ([.broken], none)
    else ([], some ⟨rest, by simp only [List.length_cons]; omega⟩)
  | .flowEntry :: rest =>
    if first then ([.broken], none)
    else
      match parseFlowItem handles rest with
      | (item, none) => ([item], none)
      | (item, some ⟨rest, _⟩) =>
        let (items, rest) := parseFlowItems handles false rest
        (item :: items, rest.map (·.widen (by simp only [List.length_cons]; omega)))
  | ts =>
    if first then
      match parseFlowItem handles ts with
      | (item, none) => ([item], none)
      | (item, some ⟨rest, _⟩) =>
        let (items, rest) := parseFlowItems handles false rest
        (item :: items, rest.map (·.widen (by omega)))
    else ([.broken], none)
  termination_by 6 * ts.length + 5

/-- Reads an item of a bracketed list: a node, or a pair that becomes a mapping of its own. A pair
without a key uses up the mark that follows. -/
def parseFlowItem (handles : Handles) (ts : List Token) : Parsed (Node String) ts :=
  match ts with
  | .key :: .value :: rest | .key :: .flowEntry :: rest | .key :: .flowSequenceEnd :: rest =>
    let (value, rest) := parsePairValue handles rest
    (.mapping {} ((.blank, value) :: pairEnd rest),
      rest.map (·.shrink (by simp only [List.length_cons]; omega)))
  | .key :: rest =>
    match parseNode handles .flow rest with
    | (key, none) => (.mapping {} [(key, .broken)], none)
    | (key, some ⟨rest, _⟩) =>
      let (value, rest) := parsePairValue handles rest
      (.mapping {} ((key, value) :: pairEnd rest),
        rest.map (·.shrink (by simp only [List.length_cons]; omega)))
  | ts => parseNode handles .flow ts
  termination_by 6 * ts.length + 4

/-- Reads the value of a pair inside brackets. -/
def parsePairValue (handles : Handles) (ts : List Token) : ParsedAny (Node String) ts :=
  parseValue handles .flow endsPairValue ts
  termination_by 6 * ts.length + 4

/-- Reads the entries inside braces up to their end; all but the first follow a comma. -/
def parseFlowEntries (handles : Handles) (first : Bool) (ts : List Token) :
    Parsed (List (Node String × Node String)) ts :=
  match ts with
  | .flowMappingEnd :: rest => ([], some ⟨rest, by simp⟩)
  | .flowEntry :: .flowMappingEnd :: rest =>
    if first then ([(.broken, .broken)], none)
    else ([], some ⟨rest, by simp only [List.length_cons]; omega⟩)
  | .flowEntry :: rest =>
    if first then ([(.broken, .broken)], none)
    else
      match parseFlowEntry handles rest with
      | (entry, none) => ([entry], none)
      | (entry, some ⟨rest, _⟩) =>
        let (entries, rest) := parseFlowEntries handles false rest
        (entry :: entries, rest.map (·.widen (by simp only [List.length_cons]; omega)))
  | ts =>
    if first then
      match parseFlowEntry handles ts with
      | (entry, none) => ([entry], none)
      | (entry, some ⟨rest, _⟩) =>
        let (entries, rest) := parseFlowEntries handles false rest
        (entry :: entries, rest.map (·.widen (by omega)))
    else ([(.broken, .broken)], none)
  termination_by 6 * ts.length + 5

/-- Reads an entry inside braces. A node that is not marked as a key has no value. -/
def parseFlowEntry (handles : Handles) (ts : List Token) :
    Parsed (Node String × Node String) ts :=
  match ts with
  | .key :: rest =>
    match parsePart handles .flow endsFlowKey rest with
    | (key, none) => ((key, .broken), none)
    | (key, some ⟨rest, _⟩) =>
      let (value, rest) := parseValue handles .flow endsFlowValue rest
      ((key, value), rest.map (·.shrink (by simp only [List.length_cons]; omega)))
  | ts =>
    match parseNode handles .flow ts with
    | (key, none) | (key, some ⟨[], _⟩) => ((key, .broken), none)
    | (key, some rest) => ((key, .blank), some rest)
  termination_by 6 * ts.length + 4

end

/-- Reads the directives in front of a document and the mark that follows them. -/
def parseDirectives (versioned : Bool) (handles : Handles) :
    List Token → Option (Handles × List Token)
  | .version major minor :: rest =>
    if versioned || major ≠ 1 || (minor ≠ 1 && minor ≠ 2) then none
    else parseDirectives true handles rest
  | .handle name lead :: rest =>
    if (handles.lookup name).isSome then none
    else parseDirectives versioned (handles ++ [(name, lead)]) rest
  | .documentStart :: rest => some (handles ++ Handles.standard, rest)
  | _ => none

/-- The token starts a document explicitly. -/
def startsDocument : Token → Bool
  | .version .. | .handle .. | .documentStart => true
  | _ => false

/-- Reads the node of a document; after an explicit start it may be missing. After a fault no tokens
are left, and without one there are some. -/
def parseRoot (ts : List Token) : Node String × List Token :=
  let explicit := ts.head?.any startsDocument
  let start? := if explicit then parseDirectives false [] ts else some (Handles.standard, ts)
  match start? with
  | none => (.broken, [])
  | some (handles, ts) =>
    let bare := ts.head?.any fun t => startsDocument t || t == .documentEnd || t == .textEnd
    if explicit && bare then (.blank, ts)
    else
      let (node, rest) := parseNode handles .item ts
      (node, (rest.map Subtype.val).getD [])

/-- What follows the first document of a text. -/
inductive Remainder where
  /-- Nothing. -/
  | nothing
  /-- Another document, or what is none. -/
  | more
  /-- The end of the first document is malformed. -/
  | fault
  deriving DecidableEq, Repr

/-- The first document of a token list. -/
structure FirstDocument where
  /-- Its node. -/
  node : Node String
  /-- What follows it. -/
  remainder : Remainder

/-- Reads the first document; a text without documents counts as a blank one. -/
def parseDocument (ts : List Token) : FirstDocument :=
  if ts.head? == some .textEnd then ⟨.blank, .nothing⟩
  else
    let (node, rest) := parseRoot ts
    let others := rest.dropWhile (· == .documentEnd)
    ⟨node, if rest.isEmpty then .fault else if others == [.textEnd] then .nothing else .more⟩

end DemoBuild.Yaml
