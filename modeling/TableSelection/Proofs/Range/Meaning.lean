import TableSelection.Range.Evaluate
import TableSelection.Table.Basic

/-!
# What a range means

The meaning of a range on some entries, without its evaluation: relations that say which position a
bound resolves to, which positions a segment covers, which positions a range chooses in which order,
and which error it has. The last section says that bounds are resolved by their relation:

    b.resolve e.domain = .ok i      ↔ b.Resolves e i                        (resolve_eq_ok_iff)
    b.resolve e.domain = .error err ↔ b has no position, err = b.failure    (resolve_eq_error_iff)
-/

namespace TableSelection

open Text

/-! ## Entries -/

/-- What a range may choose from. -/
inductive Entries
  | unnamed (size : Nat)
  | named (names : List String)
  | columns (table : Table)
  | rows (table : Table)

namespace Entries

def size : Entries → Nat
  | .unnamed size => size
  | .named names => names.length
  | .columns table => table.columnCount
  | .rows table => table.rowCount

def name? : Entries → (position : Nat) → Option String
  | .unnamed _, _ => none
  | .named names, position => names[position]?
  | .columns table, position => table.columnName? position
  | .rows table, position => table.rowName? position

def domain : Entries → Domain
  | .unnamed size => .unnamed size
  | .named names => .ofNames names
  | .columns table => table.columnDomain
  | .rows table => table.rowDomain

/-- The first position whose name is as asked for. -/
def IsFirstNamed (e : Entries) (asked : String → Prop) (i : Nat) : Prop :=
  (∃ name, e.name? i = some name ∧ asked name) ∧
    ∀ j < i, ∀ name, e.name? j = some name → ¬asked name

end Entries

/-! ## Bounds -/

/-- The position of a placeholder among `size` entries, counted from zero. -/
inductive Placeholder.IsAt (size : Nat) : Placeholder → Nat → Prop
  | first (h : 0 < size) : IsAt size .first 0
  | second (h : 1 < size) : IsAt size .second 1
  | third (h : 2 < size) : IsAt size .third 2
  | last {i : Nat} (h : i + 1 = size) : IsAt size .last i
  | lastButOne {i : Nat} (h : i + 2 = size) : IsAt size .lastButOne i
  | lastButTwo {i : Nat} (h : i + 3 = size) : IsAt size .lastButTwo i

/-- The position that a bound resolves to. Digits that are no position are a name. -/
inductive Bound.Resolves (e : Entries) : Bound → Nat → Prop
  | placeholder {meant : Placeholder} {i : Nat} (h : meant.IsAt e.size i) :
      Resolves e (.placeholder meant) i
  | index {position : Nat} {digits : String} {forced : Bool} (least : 1 ≤ position)
      (most : position ≤ e.size) : Resolves e (.index position digits forced) (position - 1)
  | digits {position i : Nat} {digits : String} (outside : ¬(1 ≤ position ∧ position ≤ e.size))
      (first : e.IsFirstNamed (· = digits) i) : Resolves e (.index position digits false) i
  | exactName {name : String} {i : Nat} (first : e.IsFirstNamed (· = name) i) :
      Resolves e (.name name true) i
  | name {name : String} {i : Nat} (first : e.IsFirstNamed (foldCase · = foldCase name) i) :
      Resolves e (.name name false) i

/-- The error of a bound without a position among `size` entries. -/
def Bound.failure (size : Nat) : Bound → LookupError
  | .placeholder meant => .outOfBounds meant.keyword size
  | .index position digits forced => .outOfBounds (Bound.index position digits forced).render size
  | .name text _ => .unknownName text

/-! ## Segments -/

/-- The positions that a segment covers. A span holds both its ends, in either order. -/
inductive Segment.Covers (e : Entries) : Segment → Nat → Prop
  | single {bound : Bound} {i : Nat} (h : bound.Resolves e i) : Covers e (.single bound) i
  | span {start stop : Bound} {i j k : Nat} (hstart : start.Resolves e i)
      (hstop : stop.Resolves e j) (between : i ≤ k ∧ k ≤ j ∨ j ≤ k ∧ k ≤ i) :
      Covers e (.span start stop) k

/-- The number of the first element of a list that covers the position. -/
inductive FirstCover {α : Type} (covers : α → Nat → Prop) : List α → Nat → Nat → Prop
  | here {a : α} {l : List α} {i : Nat} (h : covers a i) : FirstCover covers (a :: l) 0 i
  | later {a : α} {l : List α} {n i : Nat} (h : ¬covers a i) (rest : FirstCover covers l n i) :
      FirstCover covers (a :: l) (n + 1) i

/-- One position stands before another if it is covered first by an earlier element, or by the same
element and is the smaller one. -/
def Precedes {α : Type} (covers : α → Nat → Prop) (l : List α) (i j : Nat) : Prop :=
  ∃ m n, FirstCover covers l m i ∧ FirstCover covers l n j ∧ (m < n ∨ m = n ∧ i < j)

/-! ## Ranges -/

namespace Range

/-- Whether all bounds of a range resolve. -/
def Resolves (r : Range) (e : Entries) : Prop :=
  ∀ s ∈ r.segments, ∀ b ∈ s.bounds, ∃ i, b.Resolves e i

/-- The positions that a range chooses, in their order. -/
inductive Chooses (e : Entries) : Range → List Nat → Prop
  | plain {segments : List Segment} {limit : Option Nat} {l : List Nat}
      (mem : ∀ i, i ∈ l ↔ ∃ s ∈ segments, s.Covers e i) (bounded : ∀ i ∈ l, i < e.size)
      (nodup : l.Nodup) (sorted : l.Pairwise (Precedes (Segment.Covers e) segments)) :
      Chooses e ⟨segments, false, limit⟩ l
  | inverted {segments : List Segment} {limit : Option Nat} {l : List Nat}
      (mem : ∀ i, i ∈ l ↔ i < e.size ∧ ¬∃ s ∈ segments, s.Covers e i)
      (sorted : l.Pairwise (· < ·)) : Chooses e ⟨segments, true, limit⟩ l

/-- The error of a range is that of its first bound, as they are written, that does not resolve. -/
def FailsWith (r : Range) (e : Entries) (err : LookupError) : Prop :=
  ∃ before b after, r.segments.flatMap Segment.bounds = before ++ b :: after ∧
    (∀ b' ∈ before, ∃ i, b'.Resolves e i) ∧ (¬∃ i, b.Resolves e i) ∧ err = b.failure e.size

end Range

/-! ## Lemmas -/

namespace Entries

variable {e : Entries} {i : Nat}

@[simp] theorem size_domain (e : Entries) : e.domain.size = e.size := by
  cases e with
  | unnamed size => rfl
  | named names => rfl
  | columns table => rfl
  | rows table => exact table.size_rowDomain

theorem findIdx?_eq_some_iff_first {names : List String} {p : String → Bool} :
    names.findIdx? p = some i ↔ (∃ name, names[i]? = some name ∧ p name = true) ∧
      ∀ j < i, ∀ name, names[j]? = some name → ¬p name = true := by
  rw [List.findIdx?_eq_some_iff_getElem]
  constructor
  · rintro ⟨hi, hp, hbefore⟩
    refine ⟨⟨names[i], List.getElem?_eq_getElem hi, hp⟩, fun j hj name hname => ?_⟩
    obtain ⟨_, rfl⟩ := List.getElem?_eq_some_iff.1 hname
    exact hbefore j hj
  · rintro ⟨⟨name, hname, hp⟩, hbefore⟩
    obtain ⟨hi, rfl⟩ := List.getElem?_eq_some_iff.1 hname
    exact ⟨hi, hp, fun j hj => hbefore j hj _ (List.getElem?_eq_getElem (by omega))⟩

theorem find?_columnDomain (t : Table) (text : String) (exact : Bool) :
    t.columnDomain.find? text exact = t.columnNames.findIdx? (Domain.hasName text exact) := by
  cases exact with
  | true => rfl
  | false =>
    have hsame : ∀ entry, Domain.hasName text false entry = (foldCase entry == foldCase text) :=
      fun entry => by
        rw [Bool.eq_iff_iff, beq_iff_eq, ← sameIgnoringCase_iff]
        rfl
    rw [funext hsame, ← t.columnIndex?_eq]
    rfl

/-- A look-up finds the first entry that has the name. -/
theorem find?_domain_iff {text : String} {exact : Bool} : e.domain.find? text exact = some i ↔
    e.IsFirstNamed (Domain.hasName text exact · = true) i := by
  cases e with
  | unnamed size => simp [domain, Domain.unnamed, IsFirstNamed, name?]
  | named names => exact findIdx?_eq_some_iff_first
  | columns table =>
    have hname : ∀ j, table.columnName? j = table.columnNames[j]? := fun j => by
      rw [Table.columnName?, Table.columnNames, List.getElem?_map]
    simp only [IsFirstNamed, name?, hname, domain, find?_columnDomain]
    exact findIdx?_eq_some_iff_first
  | rows table =>
    simp only [IsFirstNamed, name?, domain, Table.rowName?, Table.rowDomain]
    cases table.rowNames with
    | none => simp [Domain.unnamed]
    | some names => exact findIdx?_eq_some_iff_first

theorem find?_exact_iff {text : String} :
    e.domain.find? text true = some i ↔ e.IsFirstNamed (· = text) i := by
  rw [find?_domain_iff]
  simp only [Domain.hasName, if_true, beq_iff_eq]

theorem find?_ignoringCase_iff {text : String} :
    e.domain.find? text false = some i ↔ e.IsFirstNamed (foldCase · = foldCase text) i := by
  rw [find?_domain_iff]
  simp only [Domain.hasName, Bool.false_eq_true, if_false, sameIgnoringCase_iff]

end Entries

theorem Placeholder.position?_eq_some_iff {meant : Placeholder} {size i : Nat} :
    meant.position? size = some i ↔ meant.IsAt size i := by
  constructor
  · intro h
    cases meant
    all_goals
      simp only [position?, Option.ite_none_right_eq_some, Option.some.injEq] at h
      obtain ⟨h, rfl⟩ := h
    case first => exact .first h
    case second => exact .second h
    case third => exact .third h
    case last => exact .last (by omega)
    case lastButOne => exact .lastButOne (by omega)
    case lastButTwo => exact .lastButTwo (by omega)
  · intro h
    cases h with
    | first h => exact if_pos h
    | second h => exact if_pos h
    | third h => exact if_pos h
    | last h => subst h; simp [position?]
    | lastButOne h => subst h; simp [position?]
    | lastButTwo h => subst h; simp [position?]

namespace Bound

variable {d : Domain} {i : Nat}

theorem resolve_placeholder_iff {meant : Placeholder} :
    (placeholder meant).resolve d = .ok i ↔ meant.position? d.size = some i := by
  rw [resolve]
  split
  · next j hj => rw [hj, Except.ok.injEq, Option.some.injEq]
  · next hnone => rw [hnone]; simp

theorem resolve_index_iff {position : Nat} {digits : String} {forced : Bool} :
    (index position digits forced).resolve d = .ok i ↔
      1 ≤ position ∧ position ≤ d.size ∧ position - 1 = i ∨
      ¬(1 ≤ position ∧ position ≤ d.size) ∧ forced = false ∧ d.find? digits true = some i := by
  rw [resolve]
  split
  · next hin => simp [hin]
  · next hout =>
    cases forced with
    | true => simpa using fun h₁ h₂ => absurd ⟨h₁, h₂⟩ hout
    | false =>
      have hleft : ¬(1 ≤ position ∧ position ≤ d.size ∧ position - 1 = i) :=
        fun h => hout ⟨h.1, h.2.1⟩
      rw [or_iff_right hleft, and_iff_right hout, and_iff_right rfl]
      cases hfind : d.find? digits true <;> simp

theorem resolve_name_iff {text : String} {exact : Bool} :
    (name text exact).resolve d = .ok i ↔ d.find? text exact = some i := by
  rw [resolve]
  split
  · next j hj => rw [hj, Except.ok.injEq, Option.some.injEq]
  · next hnone => rw [hnone]; simp

theorem resolve_lt {b : Bound} (h : b.resolve d = .ok i) : i < d.size := by
  cases b with
  | placeholder meant =>
    have hat := Placeholder.position?_eq_some_iff.1 (resolve_placeholder_iff.1 h)
    cases hat <;> omega
  | index position digits forced =>
    rcases resolve_index_iff.1 h with ⟨hleast, hmost, rfl⟩ | ⟨-, -, hfind⟩
    · omega
    · exact d.find?_lt digits true i hfind
  | name text exact => exact d.find?_lt text exact i (resolve_name_iff.1 h)

variable {e : Entries} {b : Bound}

/-- A bound has the position that it resolves to. -/
theorem resolve_eq_ok_iff : b.resolve e.domain = .ok i ↔ b.Resolves e i := by
  cases b with
  | placeholder meant =>
    rw [resolve_placeholder_iff, Entries.size_domain, Placeholder.position?_eq_some_iff]
    exact ⟨.placeholder, fun h => by cases h; assumption⟩
  | index position digits forced =>
    rw [resolve_index_iff, Entries.size_domain, Entries.find?_exact_iff]
    constructor
    · rintro (⟨hleast, hmost, rfl⟩ | ⟨hout, rfl, hfirst⟩)
      · exact .index hleast hmost
      · exact .digits hout hfirst
    · intro h
      cases h with
      | index least most => exact Or.inl ⟨least, most, rfl⟩
      | digits outside first => exact Or.inr ⟨outside, rfl, first⟩
  | name text exact =>
    rw [resolve_name_iff]
    cases exact with
    | true =>
      rw [Entries.find?_exact_iff]
      exact ⟨.exactName, fun h => by cases h; assumption⟩
    | false =>
      rw [Entries.find?_ignoringCase_iff]
      exact ⟨.name, fun h => by cases h; assumption⟩

theorem Resolves.lt_size (h : b.Resolves e i) : i < e.size :=
  e.size_domain ▸ resolve_lt (resolve_eq_ok_iff.2 h)

theorem eq_failure_of_resolve {err : LookupError} (h : b.resolve d = .error err) :
    err = b.failure d.size := by
  cases b with
  | placeholder meant =>
    rw [resolve] at h
    split at h
    · cases h
    · cases h; rfl
  | index position digits forced =>
    rw [resolve] at h
    split at h
    · cases h
    · split at h
      · cases h
      · cases h; rfl
  | name text exact =>
    rw [resolve] at h
    split at h
    · cases h
    · cases h; rfl

/-- A bound fails, with its own error, if it resolves to nothing. -/
theorem resolve_eq_error_iff {err : LookupError} : b.resolve e.domain = .error err ↔
    (¬∃ i, b.Resolves e i) ∧ err = b.failure e.size := by
  simp only [← resolve_eq_ok_iff]
  constructor
  · intro h
    refine ⟨fun ⟨i, hi⟩ => ?_, e.size_domain ▸ eq_failure_of_resolve h⟩
    rw [h] at hi
    cases hi
  · rintro ⟨hnone, rfl⟩
    cases h : b.resolve e.domain with
    | error err => rw [eq_failure_of_resolve h, e.size_domain]
    | ok i => exact absurd ⟨i, h⟩ hnone

end Bound

end TableSelection
