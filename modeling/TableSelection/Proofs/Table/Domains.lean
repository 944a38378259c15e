import TableSelection.Proofs.Range.Meaning

/-!
# The domains of a table

The plainest way to look a name up is to go through the entries from the first to the last and to
compare names (`Domain.scan`). The columns of a table are found in another way, through an index of
names in lower case, which is built once and goes along when rows of the table are selected. Still
every domain answers as the scan of its entries does, also if names repeat or differ only in case:

    e.domain = .scan e.size e.name?                                       (Entries.domain_eq_scan)
    t.columnDomain = .scan t.columnNames.length (t.columnNames[·]?)       (columnDomain_eq_scan)
-/

namespace TableSelection

/-! ## Scans -/

/-- The domain of entries whose names are compared, one after the other, with the name asked for. -/
def Domain.scan (size : Nat) (name? : Nat → Option String) : Domain where
  size
  find? text exact := (List.range size).find? fun i => (name? i).any (hasName text exact)
  find?_lt _ _ _ h := List.mem_range.1 (List.mem_of_find?_eq_some h)

namespace Domain

/-- Domains of one size that find the same entries are equal. -/
theorem eq_of_find?_iff {d d' : Domain} (hsize : d.size = d'.size)
    (hfind : ∀ text exact i, d.find? text exact = some i ↔ d'.find? text exact = some i) :
    d = d' := by
  obtain ⟨size, find?, hlt⟩ := d
  obtain ⟨size', find?', hlt'⟩ := d'
  obtain rfl : size = size' := hsize
  obtain rfl : find? = find?' := by
    funext text exact
    exact Option.ext (hfind text exact)
  rfl

end Domain

namespace Entries

variable {e : Entries} {i : Nat}

/-- Entries with a name are entries of the domain. -/
theorem lt_size_of_name? {name : String} (h : e.name? i = some name) : i < e.size := by
  cases e with
  | unnamed size => cases h
  | named names => exact (List.getElem?_eq_some_iff.1 h).1
  | columns table =>
    obtain ⟨c, hc, -⟩ := Option.map_eq_some_iff.1 h
    exact (List.getElem?_eq_some_iff.1 hc).1
  | rows table =>
    obtain ⟨names, hnames, hname⟩ := Option.bind_eq_some_iff.1 h
    have hlength := table.length_rowNames names hnames
    have hi := (List.getElem?_eq_some_iff.1 hname).1
    show i < table.rowCount
    omega

/-- A scan finds the first entry with the name. -/
theorem find?_scan_iff {text : String} {exact : Bool} :
    (Domain.scan e.size e.name?).find? text exact = some i ↔
      e.IsFirstNamed (Domain.hasName text exact · = true) i := by
  have hnamed : ∀ j, (e.name? j).any (Domain.hasName text exact) = true ↔
      ∃ name, e.name? j = some name ∧ Domain.hasName text exact name = true := by
    intro j
    cases e.name? j <;> simp
  show (List.range e.size).find? _ = some i ↔ _
  rw [List.find?_range_eq_some, List.mem_range, hnamed]
  constructor
  · rintro ⟨hname, -, hbefore⟩
    refine ⟨hname, fun j hj name hjname hhas => ?_⟩
    have hnot := hbefore j hj
    rw [Bool.not_eq_true', Bool.eq_false_iff] at hnot
    exact hnot ((hnamed j).2 ⟨name, hjname, hhas⟩)
  · rintro ⟨⟨name, hi, hhas⟩, hbefore⟩
    refine ⟨⟨name, hi, hhas⟩, lt_size_of_name? hi, fun j hj => ?_⟩
    rw [Bool.not_eq_true', Bool.eq_false_iff, ne_eq, hnamed]
    rintro ⟨name, hjname, hhas⟩
    exact hbefore j hj name hjname hhas

/-- Every domain answers as a scan of its entries. -/
theorem domain_eq_scan (e : Entries) : e.domain = .scan e.size e.name? := by
  apply Domain.eq_of_find?_iff e.size_domain
  intro text exact i
  rw [find?_domain_iff, find?_scan_iff]

end Entries

namespace Table

variable (t : Table)

theorem columnName?_eq : t.columnName? = (t.columnNames[·]?) := by
  funext column
  rw [columnName?, columnNames, List.getElem?_map]

theorem columnDomain_eq_scan :
    t.columnDomain = .scan t.columnNames.length (t.columnNames[·]?) := by
  have hlength : t.columnNames.length = t.columnCount := by rw [columnNames, List.length_map]; rfl
  rw [hlength, ← columnName?_eq]
  exact (Entries.columns t).domain_eq_scan

theorem rowDomain_eq_scan : t.rowDomain = .scan t.rowCount t.rowName? :=
  (Entries.rows t).domain_eq_scan

/-- Rows without names are so many unnamed entries; row names are a list of names. -/
theorem rowDomain_eq_match : t.rowDomain = match t.rowNames with
    | some names => .scan names.length (names[·]?)
    | none => .unnamed t.rowCount := by
  unfold rowDomain
  cases t.rowNames with
  | none => rfl
  | some names => exact (Entries.named names).domain_eq_scan

/-! ## Top theorem -/

/-- **A table's domains are its lists of names.** Every range has the same answer or the same error
on the columns of a table, which are looked up in an index, and on the list of their names, which is
gone through; on the rows it has those of the row names if the table has them, and those of as many
unnamed entries if it has none. -/
theorem evaluate_domains (r : Range) :
    r.evaluate t.columnDomain = r.evaluate (.scan t.columnNames.length (t.columnNames[·]?)) ∧
      r.evaluate t.rowDomain = r.evaluate (.scan t.rowCount t.rowName?) ∧
      r.evaluate t.rowDomain = match t.rowNames with
        | some names => r.evaluate (.scan names.length (names[·]?))
        | none => r.evaluate (.unnamed t.rowCount) := by
  refine ⟨?_, ?_, ?_⟩
  · rw [columnDomain_eq_scan]
  · rw [← rowDomain_eq_scan]
  · rw [rowDomain_eq_match]
    cases t.rowNames <;> rfl

end Table

end TableSelection
