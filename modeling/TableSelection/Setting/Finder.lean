import TableSelection.Finder.Filters
import TableSelection.Setting.Basic

/-!
# Settings of finders

Each kind of setting can be read from a stored value and written back. A range is stored in its
written form, so reading accepts every spelling of it and writing always gives the same one.
-/

namespace TableSelection

namespace Setting

def asRange (value : Setting) : Except SettingError Range := do
  let text ← value.asText
  (Range.parse text).mapError .range

def ofRange (r : Range) : Setting := .text r.render

def ofOptionFloat : Option Float → Setting
  | none => .null
  | some x => .float x

/-! ## Finders of a range -/

/-- Reads the settings of a finder that is given by a range; by default it chooses everything. -/
def asRangeFinder (name : String) : Setting → Except SettingError Range :=
  asRecord name [⟨"range", fun _ value => value.asRange⟩] Range.all

def ofRangeFinder (r : Range) : Setting := .map [("range", ofRange r)]

/-! ## Filters -/

def numericFields : List (Field NumericFilter) :=
  [⟨"column", fun f value => do return { f with column := ← value.asRange }⟩,
    ⟨"minimum", fun f value => do return { f with minimum := ← asOption asFloat value }⟩,
    ⟨"maximum", fun f value => do return { f with maximum := ← asOption asFloat value }⟩,
    ⟨"minimum_exclusive", fun f value => do return { f with minimumExclusive := ← value.asBoolean }⟩,
    ⟨"maximum_exclusive", fun f value => do return { f with maximumExclusive := ← value.asBoolean }⟩]

def asNumericFilter : Setting → Except SettingError NumericFilter :=
  asRecord "NumericRangeRowFinder" numericFields {}

def ofNumericFilter (f : NumericFilter) : Setting :=
  .map [("column", ofRange f.column), ("maximum", ofOptionFloat f.maximum),
    ("maximum_exclusive", .boolean f.maximumExclusive), ("minimum", ofOptionFloat f.minimum),
    ("minimum_exclusive", .boolean f.minimumExclusive)]

def varianceFields : List (Field VarianceFilter) :=
  [⟨"threshold", fun f value => do return { f with threshold := ← value.asFloat }⟩,
    ⟨"candidates", fun f value => do return { f with candidates := ← value.asRange }⟩]

def asVarianceFilter : Setting → Except SettingError VarianceFilter :=
  asRecord "VarianceColumnFinder" varianceFields {}

def ofVarianceFilter (f : VarianceFilter) : Setting :=
  .map [("candidates", ofRange f.candidates), ("threshold", .float f.threshold)]

/-! ## Choices -/

/-- Reads the settings of the finder that chooses everything: it has none. -/
def asEverything : Setting → Except SettingError Unit
  | .null => .ok ()
  | other => .error (.invalidType other "unit struct NullFinder")

def combinationNamed (name : String) : Except SettingError Combination :=
  if name = "union" then .ok .union
  else if name = "intersection" then .ok .intersection
  else .error (.unknownVariant name "`union` or `intersection`")

/-- Reads a combination, either its name or a map from its name to null. -/
def asCombination : Setting → Except SettingError Combination
  | .text name => combinationNamed name
  | .map [(name, value)] => do
      let how ← combinationNamed name
      match value with
      | .null => return how
      | other => throw (.invalidType other "unit")
  | .map _ => .error .notOneEntry
  | other => .error (.invalidType other "string or map")

def ofCombination : Combination → Setting
  | .union => .text "union"
  | .intersection => .text "intersection"

end Setting

/-! ## Kinds of settings -/

inductive Schema
  | range
  | rowRange
  | columnRange
  | numericFilter
  | varianceFilter
  | everything
  | combination
  deriving DecidableEq, Repr

namespace Schema

open Setting

/-- What the settings of a kind are read into. -/
abbrev Settings : Schema → Type
  | range | rowRange | columnRange => Range
  | numericFilter => NumericFilter
  | varianceFilter => VarianceFilter
  | everything => Unit
  | combination => Combination

def read : (schema : Schema) → Setting → Except SettingError schema.Settings
  | range => asRange
  | rowRange => asRangeFinder "RangeRowFinder"
  | columnRange => asRangeFinder "RangeColumnFinder"
  | numericFilter => asNumericFilter
  | varianceFilter => asVarianceFilter
  | everything => asEverything
  | combination => asCombination

def write : (schema : Schema) → schema.Settings → Setting
  | range => ofRange
  | rowRange => ofRangeFinder
  | columnRange => ofRangeFinder
  | numericFilter => ofNumericFilter
  | varianceFilter => ofVarianceFilter
  | everything => fun () => .null
  | combination => ofCombination

/-- Reads the settings of a kind and stores them again. -/
def normalize (schema : Schema) (value : Setting) : Except SettingError Setting :=
  (schema.read value).map schema.write

end Schema

end TableSelection
