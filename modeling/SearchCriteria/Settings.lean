import SearchCriteria.Fault
import SearchCriteria.Json.Reading
import SearchCriteria.Json.Record
import SearchCriteria.Related
import SearchCriteria.Text.Blank

/-!
# Settings

What a caller can choose about compilation. Settings can be read from a JSON text, in which anything
left out has its default.
-/

namespace SearchCriteria

structure Settings where
  /-- What becomes of the scores of nested documents. -/
  nestedScoreMode : ScoreMode
  /-- Whether the terms of search texts with a wildcard are analysed. -/
  analyzeWildcard : Bool
  /-- How far fuzzy matches may be off; without it the search engine decides. -/
  fuzziness : Option String
  /-- What becomes of the scores of children, if a criterion does not say it. -/
  childScoreMode : ScoreMode
  /-- How deep criteria and embedded queries may be nested. -/
  maxDepth : Nat
deriving DecidableEq, Repr

namespace Settings

def standard : Settings :=
  { nestedScoreMode := .avg, analyzeWildcard := true, fuzziness := none, childScoreMode := .none
    maxDepth := 32 }

/-- The first of the things that are wrong with settings. -/
def problem? (s : Settings) : Option SettingsProblem :=
  if s.maxDepth = 0 then some .zeroDepth
  else if s.fuzziness.any Text.isBlankText then some .blankFuzziness
  else none

def check (s : Settings) : Except Fault Settings :=
  match s.problem? with
  | some problem => .error (.invalidSettings problem)
  | none => .ok s

/-- The settings that a JSON value holds, as they are. -/
def ofSource? (source : Json.Source) : Option Settings := do
  let slots ← source.slots?
    ["nested_score_mode", "analyze_wildcard", "fuzziness", "child_score_mode", "max_depth"]
  match slots with
  | [nested, analyze, fuzziness, child, depth] =>
    return {
      nestedScoreMode :=
        ← Json.Source.withDefault? standard.nestedScoreMode Json.Source.toNamed? nested
      analyzeWildcard :=
        ← Json.Source.withDefault? standard.analyzeWildcard Json.Source.toBool? analyze
      fuzziness := ← Json.Source.optional? Json.Source.toText? fuzziness
      childScoreMode :=
        ← Json.Source.withDefault? standard.childScoreMode Json.Source.toNamed? child
      maxDepth :=
        ← Json.Source.withDefault? standard.maxDepth (Json.Source.toNatBelow? UInt64.size) depth }
  | _ => none

/-- Reads settings from a text and checks them. Nothing more than that is said of a text that holds
no settings. -/
def read (text : String) : Option (Except Fault Settings) :=
  ((Json.Source.read? text).bind ofSource?).map check

def toJson (s : Settings) : Json :=
  .ofFields [("nested_score_mode", .string s.nestedScoreMode.label),
    ("analyze_wildcard", .bool s.analyzeWildcard), ("fuzziness", .ofOption .string s.fuzziness),
    ("child_score_mode", .string s.childScoreMode.label), ("max_depth", .ofNat s.maxDepth)]

theorem check_standard : standard.check = .ok standard := rfl

/-- Settings that pass the check come out of it as they went in. -/
theorem check_eq_ok_iff {s t : Settings} : s.check = .ok t ↔ s = t ∧ s.problem? = none := by
  cases h : s.problem? <;> simp [check, h]

end Settings

end SearchCriteria
