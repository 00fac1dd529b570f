import DemoBuild.Yaml.Cursor
import DemoBuild.Yaml.Token

/-!
# Anchors, tags and directives

The tokens that consist of a mark and a name. A tag is written in full between angle brackets, or
as a handle and a suffix; escapes give single octets of it.
-/

namespace DemoBuild.Yaml

/-- `c` may follow an anchor directly. -/
def endsAnchor (c : Char) : Bool :=
  ['?', ':', ',', ']', '\x7d', '%', '@', '\x60'].contains c

/-- Reads the name of an anchor or alias after its mark. -/
def readAnchor (c : Cursor) : Option (String × Cursor) :=
  let (name, c) := c.takeWhile isNameChar
  if name ≠ [] && (atGap c.rest || c.rest.head?.any endsAnchor) then
    some (String.ofList name, c)
  else none

/-- `c` may be part of the suffix of a tag. -/
def isTagChar (c : Char) : Bool :=
  isNameChar c || [';', '/', '?', ':', '@', '&', '=', '+', '$', '.', '%', '!', '~', '*', '\'', '(',
    ')'].contains c

/-- `c` may be part of a tag that is written in full. -/
def isFullTagChar (c : Char) : Bool :=
  isTagChar c || [',', '[', ']'].contains c

/-- The value of a hexadecimal digit of an octet. -/
def octetDigit? (c : Char) : Option Nat :=
  if c.isDigit then some (c.toNat - '0'.toNat)
  else if 'a' ≤ c && c ≤ 'f' then some (c.toNat - 'a'.toNat + 10)
  else if 'A' ≤ c && c ≤ 'F' then some (c.toNat - 'A'.toNat + 10)
  else none

/-- Reads an octet after its percent sign. -/
def readOctet (high low : Char) : Option UInt8 := do
  return UInt8.ofNat (16 * (← octetDigit? high) + (← octetDigit? low))

/-- The number of octets of a character, by the first of them; zero if none starts so. -/
def encodedLength (octet : UInt8) : Nat :=
  if octet < 0x80 then 1
  else if 0xc0 ≤ octet && octet < 0xe0 then 2
  else if 0xe0 ≤ octet && octet < 0xf0 then 3
  else if 0xf0 ≤ octet && octet < 0xf8 then 4
  else 0

/-- The octet continues a character. -/
def isContinuation (octet : UInt8) : Bool :=
  0x80 ≤ octet && octet < 0xc0

/-- The octets of a tag. Escaped ones come in groups with the shape of a character, whose octets
need not encode one; `left` says how many are to come. -/
def tagOctets : List Char → (left : Nat) → Option (List UInt8)
  | '%' :: high :: low :: rest, left => do
    let octet ← readOctet high low
    let left ←
      if left = 0 then if encodedLength octet = 0 then none else some (encodedLength octet - 1)
      else if isContinuation octet then some (left - 1)
      else none
    return octet :: (← tagOctets rest left)
  | c :: rest, left =>
    if left = 0 && c != '%' then (tagOctets rest 0).map (UInt8.ofNat c.toNat :: ·) else none
  | [], left => if left = 0 then some [] else none

/-- Reads the handle of a tag: exclamation marks around a name, or one in front of it. -/
def readHandle (c : Cursor) : Option (List Char × Cursor) :=
  match c.rest with
  | '!' :: _ =>
    let (name, c) := (c.advance 1).takeWhile isNameChar
    match c.rest with
    | '!' :: _ => some ('!' :: name ++ ['!'], c.advance 1)
    | _ => some ('!' :: name, c)
  | _ => none

/-- Reads some characters as a tag or a part of one. -/
def tagOf? (text : List Char) : Option Tag :=
  (tagOctets text 0).map Tag.ofOctets

/-- Reads a tag that is written in full, after its opening bracket. -/
def readFullTag (c : Cursor) : Option (Token × Cursor) := do
  let (text, c) := c.takeWhile isFullTagChar
  let tag ← tagOf? text
  if text = [] then none
  match c.rest with
  | '>' :: _ => return (.tag none tag, c.advance 1)
  | _ => none

/-- Reads a tag that consists of a handle and a suffix. Without a suffix the handle of the
document's own tags is the tag itself. -/
def readShortTag (c : Cursor) : Option (Token × Cursor) := do
  let (handle, c) ← readHandle c
  let (text, c) := c.takeWhile isTagChar
  if 1 < handle.length && handle.getLast? == some '!' then
    let suffix ← tagOf? text
    if text = [] then none
    return (.tag (some (String.ofList handle)) suffix, c)
  else
    let suffix ← tagOf? (handle.drop 1 ++ text)
    if suffix.isEmpty then return (.tag none .bang, c)
    return (.tag (some "!") suffix, c)

/-- Reads a tag. A space, a line break, or inside brackets a comma must follow. -/
def readTag (inFlow : Bool) (c : Cursor) : Option (Token × Cursor) := do
  let (token, c) ←
    match c.rest with
    | '!' :: '<' :: _ => readFullTag (c.advance 2)
    | _ => readShortTag c
  if atGap c.rest || (inFlow && c.rest.head? == some ',') then return (token, c) else none

/-- Reads a number of at most nine digits. -/
def readVersionNumber (c : Cursor) : Option (Nat × Cursor) :=
  let (digits, c) := c.takeWhile Char.isDigit
  if digits ≠ [] && digits.length ≤ 9 then
    some (digits.foldl (fun n d => n * 10 + (d.toNat - '0'.toNat)) 0, c)
  else none

/-- Reads the two numbers of a version. -/
def readVersion (c : Cursor) : Option (Token × Cursor) := do
  let (major, c) ← readVersionNumber c.skipSpaces
  match c.rest with
  | '.' :: _ =>
    let (minor, c) ← readVersionNumber (c.advance 1)
    return (.version major minor, c)
  | _ => none

/-- Reads a handle for tags and what it stands for. -/
def readHandleDirective (c : Cursor) : Option (Token × Cursor) := do
  let (handle, c) ← readHandle c.skipSpaces
  if 1 < handle.length && handle.getLast? != some '!' then none
  if !(c.rest.head?.any isSpace) then none
  let (text, c) := c.skipSpaces.takeWhile isFullTagChar
  let lead ← tagOf? text
  if text = [] || !atGap c.rest then none
  return (.handle (String.ofList handle) lead, c)

/-- Reads a directive after its percent sign, up to the end of the line. -/
def readDirective (c : Cursor) : Option (Token × Cursor) := do
  let (name, c) := c.takeWhile isNameChar
  if !atGap c.rest then none
  let (token, c) ←
    if name = "YAML".toList then readVersion c
    else if name = "TAG".toList then readHandleDirective c
    else none
  return (token, ← c.finishLine?)

end DemoBuild.Yaml
