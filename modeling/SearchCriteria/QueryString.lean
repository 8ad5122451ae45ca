/-!
# Search texts

The syntax of search texts gives some characters a meaning. Behind a backslash every character
stands for itself.
-/

namespace SearchCriteria.QueryString

/-- The characters with a meaning of their own. -/
def reserved : List Char :=
  ['\\', '+', '-', '!', '(', ')', ':', '^', '[', ']', '\"', '\x7b', '\x7d', '~', '*', '?', '|', '&',
    '/']

def escapeChars (text : List Char) : List Char :=
  text.flatMap fun c => if c ∈ reserved then ['\\', c] else [c]

/-- Puts a backslash before every reserved character. -/
def escape (text : String) : String :=
  String.ofList (escapeChars text.toList)

/-- A text between quotation marks, with its reserved characters escaped. -/
def quote (text : String) : String :=
  "\"" ++ escape text ++ "\""

@[simp] theorem escapeChars_nil : escapeChars [] = [] := rfl

theorem escapeChars_append (s t : List Char) :
    escapeChars (s ++ t) = escapeChars s ++ escapeChars t := by
  simp [escapeChars]

end SearchCriteria.QueryString
