import DemoBuild.Number.Text
import DemoBuild.Text.Quoted

/-!
# Failures of documents

A document is refused because its text is not well-formed, or because its contents do not fit what
is read from it.
-/

namespace DemoBuild.Yaml

/-- What was found in place of something else. -/
inductive Found where
  /-- Nothing. -/
  | null
  /-- A truth value. -/
  | bool (value : Bool)
  /-- An integer. -/
  | integer (value : Int)
  /-- A floating-point number. -/
  | float (value : Float)
  /-- A text. -/
  | text (value : String)
  /-- A list. -/
  | sequence
  /-- A mapping. -/
  | mapping
  /-- A value with a tag. -/
  | tagged

/-- What a place in a document needs. -/
inductive Expected where
  /-- A text. -/
  | text
  /-- A truth value. -/
  | bool
  /-- A list. -/
  | sequence
  /-- A mapping with keys of its own. -/
  | mapping
  /-- A mapping with the fields of a record. -/
  | record (name : String)
  /-- The name of a field. -/
  | fieldName
  /-- The name of one of several cases. -/
  | choice
  /-- Nothing. -/
  | nothing
  /-- Uniform arrays by type. -/
  | uniformArrays

/-- Why the contents of a document do not fit. -/
inductive Mismatch where
  /-- A field that has no default is missing. -/
  | missingField (name : String)
  /-- A field is given twice. -/
  | duplicateField (name : String)
  /-- Something else was expected. -/
  | unexpected (found : Found) (expected : Expected)
  /-- Two uniform arrays have one type. -/
  | repeatedType (typeName : String)

/-- Why a document is refused. -/
inductive Problem where
  /-- The text is not one well-formed document. -/
  | malformed
  /-- The text holds several documents. -/
  | severalDocuments
  /-- Aliases refer to other nodes out of all proportion. -/
  | tooManyReferences
  /-- The contents do not fit. -/
  | mismatch (reason : Mismatch)

/-- Numbers inside messages are written without an exponent, whole ones end in `.0`, and of two
equally near digits the greater one is written. -/
def messageFloatStyle : Number.FloatStyle :=
  { wholeSuffix := ".0", points := none, tie := .up, nan := "NaN", infinity := "inf" }

/-- What was found, in words. -/
def Found.describe : Found → String
  | .null => "unit value"
  | .bool true => "boolean `true`"
  | .bool false => "boolean `false`"
  | .integer n => "integer `" ++ Number.intText n ++ "`"
  | .float x => "floating point `" ++ messageFloatStyle.render x ++ "`"
  | .text s => "string " ++ Text.quoted s
  | .sequence => "sequence"
  | .mapping => "map"
  | .tagged => "enum"

/-- What was expected, in words. -/
def Expected.describe : Expected → String
  | .text => "a string"
  | .bool => "a boolean"
  | .sequence => "a sequence"
  | .mapping => "a map"
  | .record name => "struct " ++ name
  | .fieldName => "field identifier"
  | .choice => "a Value::Tagged enum"
  | .nothing => "unit"
  | .uniformArrays => "a mapping from GL type to uniform array"

/-- The reason in words. -/
def Mismatch.message : Mismatch → String
  | .missingField name => "missing field `" ++ name ++ "`"
  | .duplicateField name => "duplicate field `" ++ name ++ "`"
  | .unexpected found expected =>
    "invalid type: " ++ found.describe ++ ", expected " ++ expected.describe
  | .repeatedType typeName =>
    "uniform array type " ++ typeName ++ " is declared more than once"

/-- The problem in words. -/
def Problem.message : Problem → String
  | .malformed => "the document is not well-formed"
  | .severalDocuments =>
    "deserializing from YAML containing more than one document is not supported"
  | .tooManyReferences => "repetition limit exceeded"
  | .mismatch reason => reason.message

end DemoBuild.Yaml
