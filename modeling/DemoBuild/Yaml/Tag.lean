/-!
# Tags

A tag is a name given by octets, because a document may spell out any of them by an escape; a zero
octet ends it. Tags of the document's own start with an exclamation mark.
-/

namespace DemoBuild.Yaml

/-- A tag or a part of one. -/
structure Tag where
  /-- The octets of its name, none of them zero. -/
  octets : List UInt8
  deriving DecidableEq, Repr

namespace Tag

/-- The tag that the octets spell out: those in front of the first zero. -/
def ofOctets (octets : List UInt8) : Tag :=
  ⟨octets.takeWhile (· != 0)⟩

/-- The tag with a text as its name. -/
def ofText (text : String) : Tag :=
  ofOctets text.toUTF8.toList

/-- The tag that consists of two parts. -/
def append (first second : Tag) : Tag :=
  ⟨first.octets ++ second.octets⟩

/-- Parts of tags are put together by `++`. -/
instance : Append Tag :=
  ⟨append⟩

/-- No octet is left of the tag. -/
def isEmpty (t : Tag) : Bool :=
  t.octets.isEmpty

/-- The exclamation mark, as a tag. -/
def bang : Tag :=
  ofText "!"

/-- A tag of the language. -/
def language (name : String) : Tag :=
  ofText ("tag:yaml.org,2002:" ++ name)

/-- The tag is one of the document's own. -/
def isOwn (t : Tag) : Bool :=
  bang.octets.isPrefixOf t.octets

/-- A name without the exclamation mark in front of it, unless it is nothing else. -/
def dropBang (name : String) : String :=
  match name.toList with
  | ['!'] => name
  | '!' :: rest => String.ofList rest
  | _ => name

/-- The name of a tag of the document's own. One exclamation mark belongs to the tag and a second
one does not count; octets that encode no text give no name. -/
def ownName? (t : Tag) : Option String :=
  if t.isOwn then
    (String.fromUTF8? ⟨t.octets.toArray⟩).map fun name => dropBang (dropBang name)
  else none

end Tag

end DemoBuild.Yaml
