import TableSelection.Proofs.Range.RoundTrip
import TableSelection.Setting.Finder

/-!
# Stored settings are canonical

A setting can be given in many ways: by a map or a list, with fields left out or unknown, with a
range in any spelling. What is written after it was read does not change any more when it is read
and written again. Of all that is read only ranges may come back changed, in their normal form, and
they are written alike:

    schema.read value = .ok s  →  schema.IsReadable s                   (isReadable_of_read)
    schema.IsReadable s  →
      schema.read (schema.write s) = .ok (schema.normal s)              (read_write)
    schema.write (schema.normal s) = schema.write s                     (write_normal)

where the indices in the range of readable settings write positions.
-/

namespace TableSelection

variable {σ β : Type}

namespace Setting

/-! ## Records -/

/-- Putting a value into the field keeps what is known of the record. -/
def Field.Keeps (P : σ → Prop) (field : Field σ) : Prop :=
  ∀ record value record', P record → field.put record value = .ok record' → P record'

/-- A field that reads its value and sets what was read. -/
theorem Field.keeps_of_read {P : σ → Prop} {key : String} {read : Setting → Except SettingError β}
    {set : σ → β → σ} (h : ∀ record value b, P record → read value = .ok b → P (set record b)) :
    Field.Keeps P ⟨key, fun record value => do return set record (← read value)⟩ := by
  intro record value record' hrecord hput
  obtain ⟨b, hb, hset⟩ := bind_eq_ok_iff.1 hput
  cases hset
  exact h record value b hrecord hb

/-- A record has what its start has and every field keeps. -/
theorem asRecord_invariant (P : σ → Prop) {name : String} {fields : List (Field σ)}
    {start record : σ} {value : Setting} (hstart : P start)
    (hfields : ∀ field ∈ fields, field.Keeps P)
    (h : asRecord name fields start value = .ok record) : P record := by
  unfold asRecord at h
  split at h
  · next entries =>
    refine foldlM_invariant (fun entry _ record record' hrecord hput => ?_) hstart h
    dsimp only at hput
    split at hput
    · next field hfind =>
      exact hfields field (List.mem_of_find?_eq_some hfind) record entry.2 record' hrecord hput
    · cases hput
      exact hrecord
  · next items =>
    obtain ⟨last, hfold, hlast⟩ := bind_eq_ok_iff.1 h
    have hkept : P last := by
      refine foldlM_invariant (fun pair hpair record record' => ?_) hstart hfold
      exact hfields pair.1 (List.of_mem_zip hpair).1 record pair.2 record'
    split at hlast
    · cases hlast
    · cases hlast
      exact hkept
  · cases h

/-- An entry of a map is read and set in the field with its key. -/
theorem asRecord_cons {name key key' : String} {fields : List (Field σ)} {record : σ}
    {value : Setting} {entries : List (String × Setting)} {read : Setting → Except SettingError β}
    {set : σ → β → σ} {b : β}
    (hfield : fields.find? (·.key == key) =
      some ⟨key', fun record value => do return set record (← read value)⟩)
    (hread : read value = .ok b) :
    asRecord name fields record (.map ((key, value) :: entries)) =
      asRecord name fields (set record b) (.map entries) := by
  simp only [asRecord, List.foldlM_cons, hfield, hread]
  rfl

/-! ## Ranges -/

variable {r : Range} {value : Setting}

theorem hasPositions_of_asRange (h : value.asRange = .ok r) : r.hasPositions = true := by
  obtain ⟨text, -, hparse⟩ := bind_eq_ok_iff.1 h
  exact Range.hasPositions_of_parse (mapError_eq_ok_iff.1 hparse)

theorem asRange_ofRange (h : r.hasPositions = true) : (ofRange r).asRange = .ok r.normal :=
  bind_eq_ok_iff.2 ⟨r.render, rfl, mapError_eq_ok_iff.2 (Range.read_render h)⟩

theorem ofRange_normal (r : Range) : ofRange r.normal = ofRange r := congrArg text r.render_normal

theorem hasPositions_of_asRangeFinder {name : String} (h : asRangeFinder name value = .ok r) :
    r.hasPositions = true := by
  have hfields : ∀ field ∈ [(⟨"range", fun _ value => value.asRange⟩ : Field Range)],
      field.Keeps (·.hasPositions = true) :=
    List.forall_mem_singleton.2 fun _ _ _ _ hread => hasPositions_of_asRange hread
  exact asRecord_invariant (fun r : Range => r.hasPositions = true) rfl hfields h

theorem ofRangeFinder_normal (r : Range) : ofRangeFinder r.normal = ofRangeFinder r := by
  rw [ofRangeFinder, ofRangeFinder, ofRange_normal]

theorem asRangeFinder_ofRangeFinder (h : r.hasPositions = true) (name : String) :
    asRangeFinder name (ofRangeFinder r) = .ok r.normal := by
  show (ofRange r).asRange >>= pure = _
  rw [asRange_ofRange h]
  rfl

/-! ## Filters -/

theorem hasPositions_of_asNumericFilter {f : NumericFilter} (h : asNumericFilter value = .ok f) :
    f.column.hasPositions = true := by
  have hfields : ∀ field ∈ numericFields, field.Keeps (·.column.hasPositions = true) := by
    simp only [numericFields, List.forall_mem_cons]
    exact ⟨Field.keeps_of_read fun _ _ _ _ hread => hasPositions_of_asRange hread,
      Field.keeps_of_read fun _ _ _ hf _ => hf, Field.keeps_of_read fun _ _ _ hf _ => hf,
      Field.keeps_of_read fun _ _ _ hf _ => hf, Field.keeps_of_read fun _ _ _ hf _ => hf, nofun⟩
  exact asRecord_invariant (fun f : NumericFilter => f.column.hasPositions = true) rfl hfields h

theorem asOption_ofOptionFloat (x : Option Float) : asOption asFloat (ofOptionFloat x) = .ok x := by
  cases x with
  | none => rfl
  | some x => rfl

theorem asNumericFilter_ofNumericFilter {f : NumericFilter} (h : f.column.hasPositions = true) :
    asNumericFilter (ofNumericFilter f) = .ok { f with column := f.column.normal } := by
  -- one fact for each entry, in the order in which they are written
  have hcolumn := asRange_ofRange h
  have hmaximum := asOption_ofOptionFloat f.maximum
  have hmaximumExclusive : asBoolean (.boolean f.maximumExclusive) = .ok f.maximumExclusive := rfl
  have hminimum := asOption_ofOptionFloat f.minimum
  have hminimumExclusive : asBoolean (.boolean f.minimumExclusive) = .ok f.minimumExclusive := rfl
  rw [asNumericFilter, ofNumericFilter, asRecord_cons rfl hcolumn, asRecord_cons rfl hmaximum,
    asRecord_cons rfl hmaximumExclusive, asRecord_cons rfl hminimum,
    asRecord_cons rfl hminimumExclusive]
  rfl

theorem ofNumericFilter_normal (f : NumericFilter) :
    ofNumericFilter { f with column := f.column.normal } = ofNumericFilter f := by
  rw [ofNumericFilter, ofNumericFilter, ofRange_normal]

theorem hasPositions_of_asVarianceFilter {f : VarianceFilter} (h : asVarianceFilter value = .ok f) :
    f.candidates.hasPositions = true := by
  have hfields : ∀ field ∈ varianceFields, field.Keeps (·.candidates.hasPositions = true) := by
    simp only [varianceFields, List.forall_mem_cons]
    exact ⟨Field.keeps_of_read fun _ _ _ hf _ => hf,
      Field.keeps_of_read fun _ _ _ _ hread => hasPositions_of_asRange hread, nofun⟩
  exact asRecord_invariant (fun f : VarianceFilter => f.candidates.hasPositions = true) rfl hfields
    h

theorem asVarianceFilter_ofVarianceFilter {f : VarianceFilter}
    (h : f.candidates.hasPositions = true) :
    asVarianceFilter (ofVarianceFilter f) = .ok { f with candidates := f.candidates.normal } := by
  have hcandidates := asRange_ofRange h
  have hthreshold : asFloat (.float f.threshold) = .ok f.threshold := rfl
  rw [asVarianceFilter, ofVarianceFilter, asRecord_cons rfl hcandidates,
    asRecord_cons rfl hthreshold]
  rfl

theorem ofVarianceFilter_normal (f : VarianceFilter) :
    ofVarianceFilter { f with candidates := f.candidates.normal } = ofVarianceFilter f := by
  rw [ofVarianceFilter, ofVarianceFilter, ofRange_normal]

end Setting

/-! ## All settings -/

namespace Schema

open Setting

/-- The settings as they are read from their written form. -/
def normal : (schema : Schema) → schema.Settings → schema.Settings
  | range | rowRange | columnRange => Range.normal
  | numericFilter => fun f => { f with column := f.column.normal }
  | varianceFilter => fun f => { f with candidates := f.candidates.normal }
  | everything | combination => id

/-- Whether the digits in the range of some settings write positions, if they have a range. -/
def IsReadable : (schema : Schema) → schema.Settings → Prop
  | range | rowRange | columnRange => fun r => r.hasPositions = true
  | numericFilter => fun f => f.column.hasPositions = true
  | varianceFilter => fun f => f.candidates.hasPositions = true
  | everything | combination => fun _ => True

variable {schema : Schema} {s : schema.Settings}

theorem isReadable_of_read {value : Setting} (h : schema.read value = .ok s) :
    schema.IsReadable s := by
  cases schema with
  | range => exact hasPositions_of_asRange h
  | rowRange => exact hasPositions_of_asRangeFinder h
  | columnRange => exact hasPositions_of_asRangeFinder h
  | numericFilter => exact hasPositions_of_asNumericFilter h
  | varianceFilter => exact hasPositions_of_asVarianceFilter h
  | everything => trivial
  | combination => trivial

theorem read_write (h : schema.IsReadable s) :
    schema.read (schema.write s) = .ok (schema.normal s) := by
  cases schema with
  | range => exact asRange_ofRange h
  | rowRange => exact asRangeFinder_ofRangeFinder h _
  | columnRange => exact asRangeFinder_ofRangeFinder h _
  | numericFilter => exact asNumericFilter_ofNumericFilter h
  | varianceFilter => exact asVarianceFilter_ofVarianceFilter h
  | everything => rfl
  | combination => cases s <;> rfl

theorem write_normal (schema : Schema) (s : schema.Settings) :
    schema.write (schema.normal s) = schema.write s := by
  cases schema with
  | range => exact ofRange_normal s
  | rowRange => exact ofRangeFinder_normal s
  | columnRange => exact ofRangeFinder_normal s
  | numericFilter => exact ofNumericFilter_normal s
  | varianceFilter => exact ofVarianceFilter_normal s
  | everything => rfl
  | combination => rfl

/-! ## Top theorem -/

/-- **Stored settings are canonical after one pass.** Whatever was read, its written form is read
without an error and written again as it stands. In particular the written form of a range that was
read from a text does not change any more. -/
theorem write_read_write :
    (∀ (schema : Schema) (value : Setting) (s : schema.Settings), schema.read value = .ok s →
      ∃ s', schema.read (schema.write s) = .ok s' ∧ schema.write s' = schema.write s) ∧
    ∀ (text : String) (r : Range), Range.parse text = .ok r →
      ∃ r', Range.parse r.render = .ok r' ∧ r'.render = r.render := by
  constructor
  · intro schema value s h
    exact ⟨schema.normal s, read_write (isReadable_of_read h), write_normal schema s⟩
  · intro text r h
    exact ⟨r.normal, Range.read_render (Range.hasPositions_of_parse h), r.render_normal⟩

/-- A filter with an unknown field and fields left out, and a span that is written as a keyword. -/
theorem write_read_write_of_span :
    (∃ f, numericFilter.read (.map [("column", .text " last -1"), ("extra", .null),
        ("minimum", .integer 3)]) = .ok f ∧
      ∃ f', numericFilter.read (numericFilter.write f) = .ok f' ∧
        numericFilter.write f' = numericFilter.write f) ∧
    Range.parse "last - 1" =
      .ok ⟨[.span (.placeholder .last) (.index 1 "1" false)], false, none⟩ ∧
    ∃ r', Range.parse "last-1" = .ok r' ∧ r'.render = "last-1" := by
  have hspan : Range.parse "last - 1" =
      .ok ⟨[.span (.placeholder .last) (.index 1 "1" false)], false, none⟩ := by rfl
  obtain ⟨f, hf⟩ : ∃ f, numericFilter.read (.map [("column", .text " last -1"), ("extra", .null),
      ("minimum", .integer 3)]) = .ok f := ⟨_, rfl⟩
  have hwritten : (Range.mk [.span (.placeholder .last) (.index 1 "1" false)] false none).render =
      "last-1" := by decide
  have hrange := write_read_write.2 _ _ hspan
  rw [hwritten] at hrange
  exact ⟨⟨f, hf, write_read_write.1 numericFilter _ f hf⟩, hspan, hrange⟩

end Schema

end TableSelection
