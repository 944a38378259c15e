import TableSelection.Decimal.Layout
import TableSelection.Range.Reader
import TableSelection.Text.Literal

/-!
# Settings

Settings are stored as untyped values. A reader of a setting says what it expects and, where it finds
something else, fails with an error that names both.
-/

namespace TableSelection

/-- A stored value. A map lists its keys in ascending order, each once. -/
inductive Setting
  | null
  | boolean (b : Bool)
  | integer (n : Int)
  | float (x : Float)
  | text (s : String)
  | list (items : List Setting)
  | map (entries : List (String × Setting))

instance : Inhabited Setting := ⟨.null⟩

/-- How an error names a value. -/
def Setting.describe : Setting → String
  | .null => "null"
  | .boolean b => s!"boolean `{b}`"
  | .integer n => s!"integer `{n}`"
  | .float x => s!"floating point `{Decimal.Layout.setting.doubleText x}`"
  | .text s => s!"string {Text.literal s}"
  | .list _ => "sequence"
  | .map _ => "map"

/-- Why a value is no setting of the kind asked for. -/
inductive SettingError
  /-- The text is no range. -/
  | range (source : SyntaxError)
  /-- The value has another type than the one expected. -/
  | invalidType (found : Setting) (expected : String)
  /-- The name is none of those of a choice. -/
  | unknownVariant (name : String) (expected : String)
  /-- A map that stands for a choice has none or several entries. -/
  | notOneEntry
  /-- The list has more items than there are fields. -/
  | surplusItems (length : Nat)

def SettingError.message : SettingError → String
  | .range source => source.message
  | .invalidType found expected => s!"invalid type: {found.describe}, expected {expected}"
  | .unknownVariant name expected => s!"unknown variant `{name}`, expected {expected}"
  | .notOneEntry => "invalid value: map, expected map with a single key"
  | .surplusItems length => s!"invalid length {length}, expected fewer elements in array"

namespace Setting

/-! ## Readers of plain values -/

def asText : Setting → Except SettingError String
  | .text s => .ok s
  | other => .error (.invalidType other "a string")

/-- Reads a number as a double. -/
def asFloat : Setting → Except SettingError Float
  | .integer n => .ok (Decimal.doubleOfInt n)
  | .float x => .ok x
  | other => .error (.invalidType other "f64")

def asBoolean : Setting → Except SettingError Bool
  | .boolean b => .ok b
  | other => .error (.invalidType other "a boolean")

/-- Reads a value that may be null. -/
def asOption {α : Type} (read : Setting → Except SettingError α) :
    Setting → Except SettingError (Option α)
  | .null => .ok none
  | other => (read other).map some

/-! ## Readers of records -/

/-- A field of a record: its key, and how a value is put into the record. -/
structure Field (σ : Type) where
  key : String
  put : σ → Setting → Except SettingError σ

/-- Reads a record, either from a map or from a list of its fields in order. Fields that are not
given keep their value in `start`; keys of no field are passed over. -/
def asRecord {σ : Type} (name : String) (fields : List (Field σ)) (start : σ) :
    Setting → Except SettingError σ
  | .map entries =>
      entries.foldlM (fun record (key, value) =>
        match fields.find? (·.key == key) with
        | some field => field.put record value
        | none => .ok record) start
  | .list items => do
      let record ← (fields.zip items).foldlM (fun record (field, value) => field.put record value) start
      if fields.length < items.length then throw (.surplusItems items.length)
      return record
  | other => .error (.invalidType other s!"struct {name}")

end Setting

end TableSelection
