import RecordStore.Settings.Basic
import RecordStore.Settings.Layer

/-!
Typed settings.  A scalar is turned into the kind that its setting wants where that makes sense, a
setting that is left out has its default, and settings that nobody asked for do not matter.
-/
namespace RecordStore

namespace SettingValue

/-- The text of a scalar. -/
def toText? : SettingValue → Option String
  | .text s => some s
  | .bool b => some (if b then "true" else "false")
  | .integer n => some (Text.decimal n.toInt)
  | .real x => some x.text
  | .null | .list _ | .table _ => none

/-- The text of a scalar, and nothing for null. -/
def toOptionalText? : SettingValue → Option (Option String)
  | .null => some none
  | v => v.toText?.map some

/-- A natural number as a word. -/
def wordOfNat? (n : Nat) : Option UInt64 :=
  if n < 0x10000000000000000 then some (UInt64.ofNat n) else none

/-- The word of a scalar.  Words for true and false count as one and zero. -/
def toWord64? : SettingValue → Option UInt64
  | .integer n => if 0 ≤ n.toInt then some (UInt64.ofNat n.toInt.toNat) else none
  | .bool b => some (if b then 1 else 0)
  | .real x => some x.nearestWord
  | .text s =>
    let word := Text.lower s
    if ["true", "on", "yes"].contains word then some 1
    else if ["false", "off", "no"].contains word then some 0
    else (Text.unsigned? s.toList).bind wordOfNat?
  | .null | .list _ | .table _ => none

/-- The short word of a scalar. -/
def toWord32? (v : SettingValue) : Option UInt32 :=
  v.toWord64?.bind fun n => if n.toNat < 0x100000000 then some (UInt32.ofNat n.toNat) else none

/-- The kind of database that a text names, or the only member of a table. -/
def toStorageKind? : SettingValue → Option StorageKind
  | .text s => StorageKind.all.find? fun k => k.word = Text.lower s
  | .table [(s, _)] => StorageKind.all.find? fun k => k.word = Text.lower s
  | _ => none

/-- A setting of a section, by name in a table and by position in a list.  One that is left out has
its default. -/
def setting? {α : Type} (v : SettingValue) (position : Nat) (name : String) (default : α)
    (read : SettingValue → Option α) : Option α :=
  let known (found : Option SettingValue) : Option α :=
    match found with
    | some v => read v
    | none => some default
  match v with
  | .table ms => known (ms.lookup name)
  | .list vs => known vs[position]?
  | _ => none

/-- The settings of a database.  The path and the address stand in sections of their own. -/
def toStorage? (v : SettingValue) : Option StorageSettings := do
  let base := StorageSettings.default
  return ⟨← v.setting? 0 "type" base.kind toStorageKind?,
    ← v.setting? 1 "sqlite" base.path fun s => s.setting? 0 "path" base.path toOptionalText?,
    ← v.setting? 2 "postgres" base.uri fun s => s.setting? 0 "uri" base.uri toText?,
    ← v.setting? 3 "max_connections" base.maxConnections toWord32?⟩

def toIndex? (v : SettingValue) : Option StoreSettings := do
  let base := StoreSettings.default
  return ⟨← v.setting? 0 "table_prefix" base.stem toText?,
    ← v.setting? 1 "unique_lookup_limit" base.lookupLimit toWord64?⟩

def toCodec? (v : SettingValue) : Option CodecSettings := do
  let base := CodecSettings.default
  return ⟨← v.setting? 0 "password" base.password toText?,
    ← v.setting? 1 "salt" base.salt toText?,
    ← v.setting? 2 "iv" base.iv toText?,
    ← v.setting? 3 "iterations" base.iterations toWord32?⟩

def toSettings? (v : SettingValue) : Option Settings := do
  let base := Settings.default
  return ⟨← v.setting? 0 "storage" base.storage toStorage?,
    ← v.setting? 1 "index" base.index toIndex?,
    ← v.setting? 2 "key_codec" base.codec toCodec?⟩

end SettingValue

/-- A file that was named: its text, or nothing where there is no such file. -/
abbrev NamedFile := Option String

namespace Settings

/-- The settings of files and variables.  Every file that was named has to be there. -/
def load (files : List NamedFile) (named : List (String × String)) : Except Error Settings := do
  let read (f : NamedFile) : Except Error SettingLayer :=
    match f.bind SettingLayer.ofFile? with
    | some layer => .ok layer
    | none => .error (.settings .unreadable)
  -- variables come last and win
  let layers ← files.mapM read
  let tree := (layers ++ [SettingLayer.ofVariables named]).foldl SettingLayer.cover (.table [])
  match tree.toSettings? with
  | none => throw (.settings .unreadable)
  | some s =>
    let _ ← s.index.checked
    return s

end Settings

end RecordStore
