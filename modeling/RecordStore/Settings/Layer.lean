import RecordStore.Settings.Path
import RecordStore.Yaml.Reader

/-!
Sources of settings.  A source is a list of paths with the values set there; later sources are laid
over earlier ones.  Files hold typed values, and variables of the environment hold texts whose kind
is guessed.
-/
namespace RecordStore

/-- What one source sets. -/
abbrev SettingLayer := List (String × SettingValue)

namespace SettingLayer

/-- The text without a byte order mark in front. -/
def unmarked (text : String) : String :=
  match text.toList with
  | '\ufeff' :: cs => String.ofList cs
  | _ => text

/-- What a file sets, if it can be read. -/
def ofFile? (text : String) : Option SettingLayer :=
  (Yaml.read? (unmarked text)).map (SettingValue.ofMembers [])

/-- What the names of variables that hold settings start with, in small letters. -/
def variableStem : List Char := "kvdex__".toList

/-- A text with each pair of underscores replaced by a dot. -/
def dotted : List Char → List Char
  | '_' :: '_' :: cs => '.' :: dotted cs
  | c :: cs => c :: dotted cs
  | [] => []

/-- The path that a variable sets, if it holds a setting.  The case of letters does not count. -/
def variablePath? (name : String) : Option String :=
  let cs := (Text.lower name).toList
  if variableStem.isPrefixOf cs then some (String.ofList (dotted (cs.drop variableStem.length)))
  else none

/-- The value of a variable: a truth value, an integer or a real number if it reads as one, and
otherwise the text. -/
def variableValue (text : String) : SettingValue :=
  match Text.lower text with
  | "true" => .bool true
  | "false" => .bool false
  | _ =>
    match Number.wordIn? 10 text.toList with
    | some n => .integer n
    | none =>
      match Number.Double.ofText? text with
      | some x => .real x
      | none => .text text

/-- What variables set. -/
def ofVariables (vs : List (String × String)) : SettingLayer :=
  vs.filterMap fun v => (variablePath? v.1).map (·, variableValue v.2)

/-- The tree with a layer laid over it. -/
def cover (t : SettingValue) (layer : SettingLayer) : SettingValue :=
  layer.foldl (fun t m => t.set m.2 (SettingPath.steps m.1)) t

end SettingLayer

end RecordStore
