import GoalSearch.Text.Quoted
import GoalSearch.Toml.Reader

/-!
# Settings of an engine

Settings are read from a TOML document. Its one key is `max_rule_depth`; the first key in order that
is unknown or has a value of another type decides the error. The report of an error shows the line
of the document that it is about.
-/

namespace GoalSearch

structure Settings where
  /-- How deeply rule applications may nest while a goal is built. -/
  maxRuleDepth : Nat
deriving DecidableEq, Repr

inductive SettingsError where
  | malformed
  | unknownKey (key : String)
  /-- A number of levels is negative. -/
  | negative (value : Int)
  /-- A number of levels is no integer. -/
  | wrongType (found : String)
deriving DecidableEq, Repr

def SettingsError.message : SettingsError → String
  | .malformed => "malformed TOML document"
  | .unknownKey key => "unknown field `" ++ key ++ "`, expected `max_rule_depth`"
  | .negative value => "invalid value: integer `" ++ toString value ++ "`, expected usize"
  | .wrongType found => "invalid type: " ++ found ++ ", expected usize"

namespace Settings

/-- The settings of an engine about which nothing is set. -/
def standard : Settings := ⟨64⟩

def depthKey : String := "max_rule_depth"

/-- How a value that is no integer is described. -/
def describe : Toml.Value → String
  | .string text => "string " ++ Text.quote text
  | .integer value => "integer `" ++ toString value ++ "`"
  | .float value => "floating point `" ++ value.text ++ "`"
  | .boolean value => "boolean `" ++ (if value then "true" else "false") ++ "`"
  | .array _ | .tables _ => "sequence"
  | .dateTime | .inlineTable _ | .table .. => "map"

def levels : Toml.Value → Except SettingsError Nat
  | .integer value => if value < 0 then .error (.negative value) else .ok value.toNat
  | value => .error (.wrongType (describe value))

/-- The settings of a table, given those of the keys before. -/
def ofEntries (settings : Settings) : Toml.Entries → Except SettingsError Settings
  | [] => .ok settings
  | (key, value) :: later =>
    if key = depthKey then
      match levels value with
      | .ok depth => ofEntries { settings with maxRuleDepth := depth } later
      | .error e => .error e
    else .error (.unknownKey key)

def ofToml (text : String) : Except SettingsError Settings :=
  match Toml.readDocument text with
  | none => .error .malformed
  | some entries => standard.ofEntries entries

end Settings

namespace SettingsError

/-- The part of a TOML text that an error is about: a key, or the value of a key. -/
def part? (text : String) (e : SettingsError) : Option Text.Part := do
  let sections ← Toml.readSections text
  match e with
  | .malformed => none
  | .unknownKey key => return (← Toml.placeOf? key sections).key
  | .negative _ | .wrongType _ => return (← Toml.placeOf? Settings.depthKey sections).value

/-- An error in a TOML text, with the line that it is in. -/
def report (text : String) (e : SettingsError) : String :=
  match e.part? text with
  | none => e.message
  | some part =>
    let cs := text.toList
    s!"TOML parse error at line {part.line cs}, column {part.column cs}\n"
      ++ part.excerpt cs ++ "\n" ++ e.message ++ "\n"

end SettingsError

end GoalSearch
