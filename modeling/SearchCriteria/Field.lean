import SearchCriteria.Named
import SearchCriteria.Table
import SearchCriteria.Text.LetterCase

/-!
# Fields and their resolution

Criteria speak of fields as a caller knows them. A resolver says what such a field is in the stored
documents: its name there, its type, and the path of the nested documents it lives in. A resolver is
a function, so it has no say in what order it is asked.
-/

namespace SearchCriteria

inductive FieldType where
  | text
  | keyword
  | long
  | integer
  | double
  | date
  | boolean
  | geoPoint
  | geoShape
  | nested
  | object
deriving DecidableEq, Repr

/-- A field as a caller names it, with what the caller knows of it. -/
structure Field where
  name : String
  type : Option FieldType
  path : Option String
deriving DecidableEq, Repr

/-- A field of the stored documents. -/
structure ResolvedField where
  name : String
  type : Option FieldType
  nestedPath : Option String
deriving DecidableEq, Repr

abbrev Resolver := Field → ResolvedField

/-- Says that a text names no type of fields. -/
structure UnknownFieldType where
  name : String
deriving DecidableEq, Repr

def UnknownFieldType.message (e : UnknownFieldType) : String :=
  s!"unknown field type: {e.name}"

namespace FieldType

def label : FieldType → String
  | .text => "text"
  | .keyword => "keyword"
  | .long => "long"
  | .integer => "integer"
  | .double => "double"
  | .date => "date"
  | .boolean => "boolean"
  | .geoPoint => "geo_point"
  | .geoShape => "geo_shape"
  | .nested => "nested"
  | .object => "object"

instance : Named FieldType where
  all := [.text, .keyword, .long, .integer, .double, .date, .boolean, .geoPoint, .geoShape,
    .nested, .object]
  name := label
  find?_name a := by cases a <;> rfl

/-- Reads the name of a type in any letter case. -/
def read (text : String) : Except UnknownFieldType FieldType :=
  match Named.ofName? (Text.lower text) with
  | some type => .ok type
  | none => .error { name := text }

/-- Whether values are matched as a whole. -/
def isKeyword (type : FieldType) : Bool :=
  type == .keyword

end FieldType

def Field.named (name : String) : Field :=
  { name, type := none, path := none }

def ResolvedField.isKeyword (f : ResolvedField) : Bool :=
  f.type.any FieldType.isKeyword

namespace Resolver

/-- Takes every field for what the caller says it is. -/
def identity : Resolver := fun f =>
  { name := f.name, type := f.type, nestedPath := f.path }

/-- Looks fields up in a table. What the caller says of the type and the path goes before what the
table says, and a field that is not in the table is taken for what the caller says it is. -/
def ofTable (table : List (String × ResolvedField)) : Resolver := fun f =>
  match Table.find? f.name table with
  | some found =>
    { name := found.name, type := f.type <|> found.type, nestedPath := f.path <|> found.nestedPath }
  | none => identity f

/-- The table entry of a keyword field that is stored under its own name. -/
def keyword (name : String) : String × ResolvedField :=
  (name, { name, type := some .keyword, nestedPath := none })

end Resolver

end SearchCriteria
