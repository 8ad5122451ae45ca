import SearchCriteria.Json.Source
import SearchCriteria.Json.Token

/-!
# Reading JSON

The arrays and objects that are still open are kept on a stack, so reading is a fold over the
tokens and no nesting is too deep for it.
-/

namespace SearchCriteria.Json

/-- A container that is still open, with what it holds so far, back to front. -/
inductive Reader.Frame where
  | items (read : List Source)
  /-- An object in which the value of a field is being read. -/
  | field (read : List (Option String × Source)) (name : Option String)

/-- What the reader waits for. -/
inductive Reader where
  /-- A value; right behind an opening bracket its closing may stand instead. -/
  | value (first : Bool) (frames : List Reader.Frame)
  /-- The name of a field; right behind an opening brace its closing may stand instead. -/
  | name (first : Bool) (read : List (Option String × Source)) (frames : List Reader.Frame)
  | colon (read : List (Option String × Source)) (name : Option String)
    (frames : List Reader.Frame)
  /-- A comma or the end of the container around a value. -/
  | after (value : Source) (frames : List Reader.Frame)

namespace Reader

/-- An object is readable if the names of its fields are. -/
def objectOf (read : List (Option String × Source)) : Source :=
  match read.reverse.mapM fun field => field.1.map fun name => (name, field.2) with
  | some fields => .object fields
  | none => .unreadable

def value? : Token → Option Source
  | .null => some .null
  | .bool b => some (.bool b)
  | .integer n => some (.integer n)
  | .number x => some ((x.map .number).getD .unreadable)
  | .string text => some ((text.map .string).getD .unreadable)
  | _ => none

def step? : Reader → Token → Option Reader
  | .value _ frames, .openArray => some (.value true (.items [] :: frames))
  | .value _ frames, .openObject => some (.name true [] frames)
  | .value true (.items [] :: frames), .closeArray => some (.after (.array []) frames)
  | .value _ frames, token => (value? token).map (.after · frames)
  | .name _ read frames, .string label => some (.colon read label frames)
  | .name true [] frames, .closeObject => some (.after (.object []) frames)
  | .name .., _ => none
  | .colon read label frames, .colon => some (.value false (.field read label :: frames))
  | .colon .., _ => none
  | .after item (.items read :: frames), .comma =>
    some (.value false (.items (item :: read) :: frames))
  | .after item (.items read :: frames), .closeArray =>
    some (.after (.array (item :: read).reverse) frames)
  | .after item (.field read label :: frames), .comma =>
    some (.name false ((label, item) :: read) frames)
  | .after item (.field read label :: frames), .closeObject =>
    some (.after (objectOf ((label, item) :: read)) frames)
  | .after .., _ => none

end Reader

/-- Reads a text that holds one value and nothing else. -/
def Source.read? (text : String) : Option Source := do
  let tokens ← tokens? text.toList
  match ← tokens.foldlM Reader.step? (.value false []) with
  | .after value [] => some value
  | _ => none

/-- Reads a value; of two fields of one name the later one wins. -/
def read? (text : String) : Option Json :=
  (Source.read? text).bind Source.toJson?

end SearchCriteria.Json
