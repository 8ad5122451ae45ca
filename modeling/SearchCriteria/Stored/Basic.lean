import SearchCriteria.Field
import SearchCriteria.Geo.Distance
import SearchCriteria.Geo.Point
import SearchCriteria.Json.Reading
import SearchCriteria.Related
import SearchCriteria.Stored.Geometry

/-!
# Stored forms

How values are kept as JSON. A record is written with all its fields, of which the absent ones are
null; it is read as `SearchCriteria.Json.Record` says. A member of a closed set of choices is kept
by its name.
-/

namespace SearchCriteria

open Json (Source)

/-- A type whose values can be kept as JSON. -/
class Stored (α : Type) where
  read? : Source → Option α
  write : α → Json

namespace Stored

/-- Reads a value from a text and writes it again. -/
def roundTrip? (α : Type) [Stored α] (text : String) : Option Json :=
  ((Source.read? text).bind (read? (α := α))).map write

instance ofNamed {α : Type} [Named α] : Stored α where
  read? := Source.toNamed?
  write value := .string (Named.name value)

end Stored

namespace GeoPoint

def ofSource? (source : Source) : Option GeoPoint := do
  match ← source.slots? ["lat", "lon"] with
  | [lat, lon] =>
    return {
      lat := ← Source.required? Source.toDouble? lat
      lon := ← Source.required? Source.toDouble? lon }
  | _ => none

instance : Stored GeoPoint where
  read? := ofSource?
  write := toJson

end GeoPoint

instance : Stored PlanePoint where
  read? source := do
    match ← source.slots? ["x", "y"] with
    | [x, y] =>
      return {
        x := ← Source.required? Source.toDouble? x
        y := ← Source.required? Source.toDouble? y }
    | _ => none
  write p := .ofFields [("x", .ofDouble p.x), ("y", .ofDouble p.y)]

instance : Stored GeoBox where
  read? source := do
    match ← source.slots? ["top_left", "bottom_right"] with
    | [topLeft, bottomRight] =>
      return {
        topLeft := ← Source.required? GeoPoint.ofSource? topLeft
        bottomRight := ← Source.required? GeoPoint.ofSource? bottomRight }
    | _ => none
  write b := .ofFields [("top_left", b.topLeft.toJson), ("bottom_right", b.bottomRight.toJson)]

instance : Stored Distance where
  read? source := do
    match ← source.slots? ["value", "unit"] with
    | [value, unit] =>
      return {
        value := ← Source.required? Source.toDouble? value
        unit := ← Source.required? Source.toNamed? unit }
    | _ => none
  write d := .ofFields [("value", .ofDouble d.value), ("unit", .string d.unit.label)]

instance : Stored Geometry where
  read? := Geometry.read?
  write := Geometry.toJson

def FieldType.toJson (type : FieldType) : Json :=
  .string type.label

instance : Stored Field where
  read? source := do
    match ← source.slots? ["name", "field_type", "path"] with
    | [name, type, path] =>
      return {
        name := ← Source.required? Source.toText? name
        type := ← Source.optional? Source.toNamed? type
        path := ← Source.optional? Source.toText? path }
    | _ => none
  write f := .ofFields [("name", .string f.name), ("field_type", .ofOption FieldType.toJson f.type),
    ("path", .ofOption .string f.path)]

namespace ResolvedField

def ofSource? (source : Source) : Option ResolvedField := do
  match ← source.slots? ["name", "field_type", "nested_path"] with
  | [name, type, path] =>
    return {
      name := ← Source.required? Source.toText? name
      type := ← Source.optional? Source.toNamed? type
      nestedPath := ← Source.optional? Source.toText? path }
  | _ => none

def toJson (f : ResolvedField) : Json :=
  .ofFields [("name", .string f.name), ("field_type", .ofOption FieldType.toJson f.type),
    ("nested_path", .ofOption .string f.nestedPath)]

instance : Stored ResolvedField where
  read? := ofSource?
  write := toJson

end ResolvedField

/-- A table of fields, as a resolver uses it. -/
structure FieldTable where
  entries : List (String × ResolvedField)

namespace FieldTable

def entriesOfSource? : Source → Option (List (String × ResolvedField))
  | .object fields =>
    fields.mapM fun field => (ResolvedField.ofSource? field.2).map fun found => (field.1, found)
  | _ => none

instance : Stored FieldTable where
  read? source := do
    match ← source.slots? ["mappings"] with
    | [mappings] => return ⟨Table.ofList (← Source.required? entriesOfSource? mappings)⟩
    | _ => none
  write t := .object [("mappings",
    .object (t.entries.map fun entry => (entry.1, entry.2.toJson)))]

end FieldTable

instance : Stored InnerHits where
  read? source := do
    match ← source.slots? ["name", "from", "size"] with
    | [name, start, size] =>
      return {
        name := ← Source.optional? Source.toText? name
        start := ← Source.optional? (Source.toNatBelow? UInt32.size) start
        size := ← Source.optional? (Source.toNatBelow? UInt32.size) size }
    | _ => none
  write hits := .ofFields [("name", .ofOption .string hits.name),
    ("from", .ofOption .ofNat hits.start), ("size", .ofOption .ofNat hits.size)]

end SearchCriteria
