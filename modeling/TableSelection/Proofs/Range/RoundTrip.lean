import TableSelection.Proofs.Range.Reading
import TableSelection.Range.Grammar

/-!
# Writing a range and reading it back

The written form of a range is a text of its normal form. So reading gives the normal form, whatever
the range was built from, if the digits of its indices write positions:

    r.hasPositions → parse r.render = .ok r.normal               (parse_render_eq_normal)

A range that was read from a text is its own normal form, with one exception: a span from `last` to
a plain `1` or `2`, written with blanks around its hyphen, loses the blanks and is a keyword then
(`parse_render_of_parse`).

A name needs quotes just if the text of the name is not read as that name (`bare_iff_reads_back`).
-/

namespace TableSelection

open Text

/-! ## Bounds -/

/-- What stands between the quotes is no shorter than the name that it denotes. -/
theorem QuotedBody.length_le {text name : List Char} (h : QuotedBody text name) :
    name.length ≤ text.length := by
  induction h with
  | nil => exact Nat.le_refl 0
  | plain c _ _ _ ih => exact Nat.succ_le_succ ih
  | escaped c _ ih => exact Nat.le_succ_of_le (Nat.succ_le_succ ih)

namespace Bound

/-- A text is the text of one bound only. -/
theorem Derives.unique {t : List Char} {b b' : Bound} (h : Derives t b) (h' : Derives t b') :
    b = b' := by
  have hnil : ∀ c ∈ ([] : List Char), isBlank c = true := by simp
  obtain ⟨rest, hread, -⟩ := read_of_derives [] h hnil hnil ends_nil (longest_of_end hnil)
  obtain ⟨rest', hread', -⟩ := read_of_derives [] h' hnil hnil ends_nil (longest_of_end hnil)
  rw [hread] at hread'
  cases hread'
  rfl

theorem derives_keyword (meant : Placeholder) :
    Derives meant.keyword.toList (.placeholder meant) := by
  have hspelled : (meant.keyword, meant) ∈ Placeholder.keywords ∧
      meant.keyword.toList.map Char.toLower = meant.keyword.toList := by
    cases meant <;> decide
  exact .keyword hspelled.1 hspelled.2

/-- The written form of a bound is a text of its normal form. -/
theorem derives_written {b : Bound} (h : b.hasPosition = true) : Derives b.written b.normal := by
  cases b with
  | placeholder meant => exact derives_keyword meant
  | index position digits forced =>
    rw [hasPosition, decide_eq_true_eq] at h
    have hdigits : String.ofList digits.toList = digits := String.ofList_toList
    cases forced with
    | false =>
      have hd := Derives.index h
      rwa [hdigits] at hd
    | true =>
      have hd := Derives.forced .nil h
      rwa [hdigits] at hd
  | name text exact =>
    have htext : String.ofList text.toList = text := String.ofList_toList
    rw [written, normal]
    split
    · next hbare =>
      rw [Bool.and_eq_true, Bool.not_eq_true'] at hbare
      have hd := Derives.bare (isBareName_iff.1 hbare.2)
      rw [htext] at hd
      rw [hbare.1, hbare.2]
      exact hd
    · next hquoted =>
      have hd := Derives.quoted (quotedBody_escape text.toList)
      rw [htext] at hd
      have hexact : (exact || !isBareName text.toList) = true := by
        cases exact with
        | true => rfl
        | false => simpa using hquoted
      rw [hexact]
      exact hd

/-- What is read from a text is its own normal form. -/
theorem Derives.normal_eq {t : List Char} {b : Bound} (h : Derives t b) :
    b.hasPosition = true ∧ b.normal = b := by
  cases h with
  | keyword isKeyword spelled => exact ⟨rfl, rfl⟩
  | index writes =>
    rw [hasPosition, normal, String.toList_ofList]
    exact ⟨decide_eq_true writes, rfl⟩
  | forced blanks writes =>
    rw [hasPosition, normal, String.toList_ofList]
    exact ⟨decide_eq_true writes, rfl⟩
  | quoted body => exact ⟨rfl, rfl⟩
  | bare isBare =>
    rw [normal, String.toList_ofList, isBareName_iff.2 isBare]
    exact ⟨rfl, rfl⟩

/-- The texts of a name are the name itself, if it can stand bare, and the name in quotes. -/
theorem derives_name_iff {t : List Char} {text : String} {exact : Bool} :
    Derives t (.name text exact) ↔
      (exact = false ∧ t = text.toList ∧ isBareName text.toList = true) ∨
        (exact = true ∧ ∃ body, QuotedBody body text.toList ∧ t = '"' :: (body ++ ['"'])) := by
  constructor
  · intro h
    cases h with
    | quoted body =>
      rw [String.toList_ofList]
      exact Or.inr ⟨rfl, _, body, rfl⟩
    | bare isBare =>
      rw [String.toList_ofList]
      exact Or.inl ⟨rfl, rfl, isBareName_iff.2 isBare⟩
  · rintro (⟨rfl, rfl, hbare⟩ | ⟨rfl, body, hbody, rfl⟩)
    · simpa using Derives.bare (isBareName_iff.1 hbare)
    · simpa using Derives.quoted hbody

/-- A name is its own written form just if it is a bare name; in quotes it becomes longer. -/
theorem render_name_eq_self_iff {text : String} {exact : Bool} :
    (name text exact).render = text ↔ exact = false ∧ isBareName text.toList = true := by
  rw [← String.toList_inj, render, String.toList_ofList, written]
  split
  · next hbare =>
    rw [Bool.and_eq_true, Bool.not_eq_true'] at hbare
    exact iff_of_true rfl hbare
  · next hquoted =>
    rw [Bool.and_eq_true, Bool.not_eq_true'] at hquoted
    refine iff_of_false (fun he => ?_) hquoted
    have hescape := (quotedBody_escape text.toList).length_le
    have hlength : (escape text.toList).length + 2 = text.toList.length := by
      simpa [quote] using congrArg List.length he
    omega

/-- A bound is written like its normal form. -/
theorem written_normal (b : Bound) : b.normal.written = b.written := by
  cases b with
  | placeholder meant => rfl
  | index position digits forced => cases forced <;> rfl
  | name text exact =>
    rw [normal, written, written]
    cases exact with
    | true => rfl
    | false => cases isBareName text.toList <;> rfl

theorem eq_placeholder_of_normal {b : Bound} {meant : Placeholder}
    (h : b.normal = .placeholder meant) : b = .placeholder meant := by
  cases b with
  | placeholder meant => exact h
  | index position digits forced => cases h
  | name text exact => cases h

theorem eq_index_of_normal {b : Bound} {position : Nat} {digits : String} {forced : Bool}
    (h : b.normal = .index position digits forced) :
    ∃ position, b = .index position digits forced := by
  cases b with
  | placeholder meant => cases h
  | index position digits forced => cases h; exact ⟨position, rfl⟩
  | name text exact => cases h

end Bound

/-! ## Items -/

namespace Segment

/-- The spans whose written form is `last-1` or `last-2`. -/
def IsWrittenAsKeyword (s : Segment) : Prop := ∃ position digits,
  (digits = "1" ∨ digits = "2") ∧ s = .span (.placeholder .last) (.index position digits false)

theorem normal_span {start stop : Bound} (h : ¬(span start stop).IsWrittenAsKeyword) :
    (span start stop).normal = .span start.normal stop.normal := by
  simp only [normal]
  split
  · next position digits =>
    have h₁ : digits ≠ "1" := fun e => h ⟨position, digits, Or.inl e, rfl⟩
    have h₂ : digits ≠ "2" := fun e => h ⟨position, digits, Or.inr e, rfl⟩
    rw [if_neg h₁, if_neg h₂]
    rfl
  · rfl

/-- Only the spans with `last` and a plain digit spell a keyword. -/
theorem isWrittenAsKeyword_of_isSpelled {start stop : Bound} (hstart : start.hasPosition = true)
    (hstop : stop.hasPosition = true) {meant : Placeholder}
    (h : meant.IsSpelled (start.written ++ '-' :: stop.written)) :
    (span start stop).IsWrittenAsKeyword := by
  obtain ⟨hlast, hdigit⟩ := h.hyphen
  obtain rfl := Bound.eq_placeholder_of_normal
    ((Bound.derives_written hstart).unique (Bound.derives_placeholder_iff.2 hlast))
  have hderives : ∀ digits : String, WritesPosition digits.toList → stop.written = digits.toList →
      ∃ position, stop = .index position digits false := fun digits hwrites hwritten => by
    have hindex := Bound.Derives.index hwrites
    rw [← hwritten, hwritten, String.ofList_toList, ← hwritten] at hindex
    exact Bound.eq_index_of_normal ((Bound.derives_written hstop).unique hindex)
  rcases hdigit with hone | htwo
  · obtain ⟨position, rfl⟩ := hderives "1" (by decide) hone
    exact ⟨position, "1", Or.inl rfl, rfl⟩
  · obtain ⟨position, rfl⟩ := hderives "2" (by decide) htwo
    exact ⟨position, "2", Or.inr rfl, rfl⟩

theorem derives_of_bound {t : List Char} {b : Bound} (h : Bound.Derives t b) :
    Derives t (.single b) := by
  simpa using Derives.single .nil .nil h

/-- A name is the text of an item with that very name just if it is a bare name. The text of a name
in quotes is longer than the name. -/
theorem derives_own_name_iff {text : String} {exact : Bool} :
    Derives text.toList (.single (.name text exact)) ↔
      exact = false ∧ Bound.isBareName text.toList = true := by
  constructor
  · intro h
    generalize hitem : text.toList = item at h
    cases h with
    | @single ws₁ t ws₂ _ blanks₁ blanks₂ derives =>
      rcases Bound.derives_name_iff.1 derives with ⟨hexact, -, hbare⟩ | ⟨-, body, hbody, rfl⟩
      · rw [← hitem]
        exact ⟨hexact, hbare⟩
      · have hlength := hbody.length_le
        rw [hitem, List.length_append, List.length_append, List.length_cons,
          List.length_append] at hlength
        omega
  · rintro ⟨rfl, hbare⟩
    exact derives_of_bound (Bound.derives_name_iff.2 (Or.inl ⟨rfl, rfl, hbare⟩))

/-- The written form of an item is a text of its normal form. -/
theorem derives_written {s : Segment} (h : ∀ b ∈ s.bounds, b.hasPosition = true) :
    Derives s.written s.normal := by
  cases s with
  | single bound =>
    exact derives_of_bound (Bound.derives_written (h bound List.mem_cons_self))
  | span start stop =>
    have hstart : start.hasPosition = true := h start List.mem_cons_self
    have hstop : stop.hasPosition = true := h stop (by simp [bounds])
    by_cases hkeyword : (span start stop).IsWrittenAsKeyword
    · obtain ⟨position, digits, rfl | rfl, he⟩ := hkeyword
      · rw [he]
        exact derives_of_bound (Bound.derives_keyword .lastButOne)
      · rw [he]
        exact derives_of_bound (Bound.derives_keyword .lastButTwo)
    · rw [normal_span hkeyword]
      have hspan := Derives.span .nil .nil .nil .nil (Bound.derives_written hstart)
        (Bound.derives_written hstop) fun meant hd => by
          rw [List.append_nil, List.nil_append] at hd
          exact hkeyword (isWrittenAsKeyword_of_isSpelled hstart hstop
            (Bound.derives_placeholder_iff.1 hd))
      simpa [written] using hspan

/-- An item is written like its normal form. -/
theorem written_normal (s : Segment) : s.normal.written = s.written := by
  cases s with
  | single bound => exact bound.written_normal
  | span start stop =>
    by_cases hkeyword : (span start stop).IsWrittenAsKeyword
    · obtain ⟨position, digits, rfl | rfl, he⟩ := hkeyword
      · rw [he]; rfl
      · rw [he]; rfl
    · rw [normal_span hkeyword, written, written, start.written_normal, stop.written_normal]

/-- An item that was read is its own normal form, unless its written form is a keyword. -/
theorem Derives.normal_eq_iff {item : List Char} {s : Segment} (h : Derives item s) :
    (∀ b ∈ s.bounds, b.hasPosition = true) ∧ (s.normal = s ↔ ¬s.IsWrittenAsKeyword) := by
  cases h with
  | @single ws₁ text ws₂ bound blanks₁ blanks₂ derives =>
    obtain ⟨hposition, hnormal⟩ := derives.normal_eq
    refine ⟨by simpa [bounds] using hposition, ?_⟩
    rw [normal, hnormal]
    refine iff_of_true rfl ?_
    rintro ⟨_, _, _, he⟩
    cases he
  | @span ws₁ text₁ ws₂ ws₃ text₂ ws₄ start stop blanks₁ blanks₂ blanks₃ blanks₄ derives₁ derives₂
      noKeyword =>
    obtain ⟨hposition₁, hnormal₁⟩ := derives₁.normal_eq
    obtain ⟨hposition₂, hnormal₂⟩ := derives₂.normal_eq
    refine ⟨by simp [bounds, hposition₁, hposition₂], ?_⟩
    by_cases hkeyword : (Segment.span start stop).IsWrittenAsKeyword
    · refine iff_of_false (fun hn => ?_) fun hn => hn hkeyword
      obtain ⟨position, digits, rfl | rfl, he⟩ := hkeyword
      · rw [he] at hn
        cases hn
      · rw [he] at hn
        cases hn
    · rw [normal_span hkeyword, hnormal₁, hnormal₂]
      exact iff_of_true rfl hkeyword

end Segment

/-! ## Ranges -/

namespace Range

theorem bodyDerives_written {segments : List Segment}
    (h : ∀ s ∈ segments, ∀ b ∈ s.bounds, b.hasPosition = true) :
    BodyDerives (writtenBody segments) (segments.map Segment.normal) := by
  cases segments with
  | nil => exact .blank .nil
  | cons first rest =>
    have hitems := @BodyDerives.items ((first :: rest).map fun s => (s.written, s.normal)) (by simp)
      fun item hi => by
        obtain ⟨s, hs, rfl⟩ := List.mem_map.1 hi
        exact Segment.derives_written (h s hs)
    rw [List.map_map, List.map_map] at hitems
    exact hitems

theorem hasPositions_iff {r : Range} :
    r.hasPositions = true ↔ ∀ s ∈ r.segments, ∀ b ∈ s.bounds, b.hasPosition = true := by
  simp only [hasPositions, List.all_eq_true]

/-- The written form of a range is a text of its normal form. -/
theorem derives_written {r : Range} (h : r.hasPositions = true) : Derives r.written r.normal := by
  have hbody := bodyDerives_written (hasPositions_iff.1 h)
  obtain ⟨segments, inverted, limit⟩ := r
  cases inverted with
  | false => exact derives_plain_iff.2 hbody
  | true => exact derives_inverted hbody

theorem read_render {r : Range} (h : r.hasPositions = true) : parse r.render = .ok r.normal := by
  rw [parse, render, String.toList_ofList]
  exact read_of_derives (derives_written h)

theorem Derives.exists_item {text : List Char} {r : Range} (h : Derives text r) :
    ∀ s ∈ r.segments, ∃ item, Segment.Derives item s := by
  have hbody : ∀ {body : List Char} {segments : List Segment}, BodyDerives body segments →
      ∀ s ∈ segments, ∃ item, Segment.Derives item s := by
    intro body segments hb s hs
    cases hb with
    | blank blanks => cases hs
    | items some derives =>
      obtain ⟨item, hi, rfl⟩ := List.mem_map.1 hs
      exact ⟨item.1, derives item hi⟩
  cases h with
  | plain blanks₁ blanks₂ derives => exact hbody derives
  | inverted blanks₁ blanks₂ opens derives => exact hbody derives

/-- A range is written like its normal form. -/
theorem render_normal (r : Range) : r.normal.render = r.render := by
  have hbody : writtenBody r.normal.segments = writtenBody r.segments := by
    rw [writtenBody, writtenBody, normal, List.map_map]
    exact congrArg _ (List.map_congr_left fun s _ => s.written_normal)
  rw [render, render, written, written, hbody]
  rfl

/-- A body of one segment is the text of that segment. -/
theorem bodyDerives_singleton_iff {text : List Char} {s : Segment} :
    BodyDerives text [s] ↔ Segment.Derives text s := by
  constructor
  · intro h
    generalize hsegments : [s] = segments at h
    cases h with
    | blank blanks => cases hsegments
    | @items items some derives =>
      obtain ⟨item, rfl, rfl⟩ := List.map_eq_singleton_iff.1 hsegments.symm
      simpa using derives item List.mem_cons_self
  · intro h
    simpa using BodyDerives.items (List.cons_ne_nil (text, s) []) (by simpa using h)

/-- When a text is read as one plain segment. -/
theorem parse_singleton_iff {text : String} {s : Segment} :
    (∃ r, parse text = .ok r ∧ r.inverted = false ∧ r.segments = [s]) ↔
      Segment.Derives text.toList s := by
  rw [← bodyDerives_singleton_iff, ← derives_plain_iff]
  constructor
  · rintro ⟨r, hparse, hplain, hsegments⟩
    have hr := eq_plain_of_parse hparse hplain
    rw [hsegments] at hr
    rw [← hr]
    exact derives_of_read hparse
  · exact fun h => ⟨_, read_of_derives h, rfl, rfl⟩

theorem hasPositions_of_parse {text : String} {r : Range} (h : parse text = .ok r) :
    r.hasPositions = true := by
  refine hasPositions_iff.2 fun s hs => ?_
  obtain ⟨item, hitem⟩ := (derives_of_read h).exists_item s hs
  exact hitem.normal_eq_iff.1

/-! ## Top theorems -/

/-- **Reading a written range gives its normal form.** -/
theorem parse_render_eq_normal (r : Range) (h : r.hasPositions = true) :
    parse r.render = .ok r.normal :=
  read_render h

/-- Names that need quotes, a position that is not that of its digits, and both spans that are
written as a keyword. -/
theorem parse_render_eq_normal_of_quoted :
    (Range.mk [.span (.name "" false) (.name "a\"b\\,(c) " true), .single (.index 4 "007" false),
      .span (.placeholder .last) (.index 9 "1" false),
      .span (.placeholder .last) (.index 2 "2" false),
      .span (.placeholder .last) (.index 2 "2" true)] true (some 5)).hasPositions = true ∧
    parse (Range.mk [.span (.name "" false) (.name "a\"b\\,(c) " true),
      .single (.index 4 "007" false), .span (.placeholder .last) (.index 9 "1" false),
      .span (.placeholder .last) (.index 2 "2" false),
      .span (.placeholder .last) (.index 2 "2" true)] true (some 5)).render =
    .ok ⟨[.span (.name "" true) (.name "a\"b\\,(c) " true), .single (.index 7 "007" false),
      .single (.placeholder .lastButOne), .single (.placeholder .lastButTwo),
      .span (.placeholder .last) (.index 2 "2" true)], true, none⟩ :=
  ⟨by decide, (parse_render_eq_normal _ (by decide)).trans (congrArg Except.ok (by decide))⟩

/-- **A range that was read is read again from its written form**, unless one of its items is
written as a keyword; the inversion is always kept. -/
theorem parse_render_of_parse (text : String) (r : Range) (h : parse text = .ok r) :
    ∃ r', parse r.render = .ok r' ∧ r'.inverted = r.inverted ∧
      (r'.segments = r.segments ↔ ∀ s ∈ r.segments, ¬s.IsWrittenAsKeyword) := by
  have hitems := (derives_of_read h).exists_item
  have hnormal : ∀ s ∈ r.segments,
      (∀ b ∈ s.bounds, b.hasPosition = true) ∧ (s.normal = s ↔ ¬s.IsWrittenAsKeyword) := by
    intro s hs
    obtain ⟨item, hd⟩ := hitems s hs
    exact hd.normal_eq_iff
  refine ⟨r.normal, read_render (hasPositions_iff.2 fun s hs => (hnormal s hs).1), rfl, ?_⟩
  have hmap : r.segments.map Segment.normal = r.segments ↔ ∀ s ∈ r.segments, s.normal = s := by
    rw [← List.map_inj_left, List.map_id']
  exact hmap.trans (forall₂_congr fun s hs => (hnormal s hs).2)

/-- A text with blanks in many places. -/
theorem parse_render_of_parse_blanks :
    parse " Inv( 2 - \"x,y\" ,LAST_1, a b )" = .ok ⟨[.span (.index 2 "2" false) (.name "x,y" true),
      .single (.placeholder .lastButOne), .single (.name "a b" false)], true, none⟩ ∧
    ∃ r', parse (Range.mk [.span (.index 2 "2" false) (.name "x,y" true),
        .single (.placeholder .lastButOne),
        .single (.name "a b" false)] true none).render = .ok r' ∧
      r'.inverted = true ∧ (r'.segments = [.span (.index 2 "2" false) (.name "x,y" true),
        .single (.placeholder .lastButOne), .single (.name "a b" false)] ↔
          ∀ s ∈ [Segment.span (.index 2 "2" false) (.name "x,y" true),
            .single (.placeholder .lastButOne), .single (.name "a b" false)],
            ¬s.IsWrittenAsKeyword) :=
  ⟨by rfl, parse_render_of_parse " Inv( 2 - \"x,y\" ,LAST_1, a b )" _ (by rfl)⟩

/-- The span from `last` to `1` is not read again: without blanks it is a keyword. -/
theorem parse_render_last_to_one : ¬∀ text r, parse text = .ok r → ∃ r', parse r.render = .ok r' ∧
    r'.segments = r.segments ∧ r'.inverted = r.inverted := by
  intro h
  have hspan : parse "last - 1" =
      .ok ⟨[.span (.placeholder .last) (.index 1 "1" false)], false, none⟩ := by rfl
  obtain ⟨r', hread, hsegments, -⟩ := h _ _ hspan
  have hkeyword :
      parse (Range.mk [.span (.placeholder .last) (.index 1 "1" false)] false none).render =
        .ok ⟨[.single (.placeholder .lastButOne)], false, none⟩ := by rfl
  rw [hkeyword] at hread
  cases hread
  cases hsegments

/-- **A name is bare just if it is read as that name.** `Bound.isBareName` holds of the names whose
text is read as a plain range with one item, that very name without regard to case. A name is written
as it is or in quotes, and as it is just if its text is read as that name again, exact or not; so no
name is quoted without need. -/
theorem bare_iff_reads_back (name : String) :
    (Bound.isBareName name.toList = true ↔
      ∃ r, parse name = .ok r ∧ r.inverted = false ∧ r.segments = [.single (.name name false)]) ∧
    ∀ exact,
      ((Bound.name name exact).render = name ∨
        (Bound.name name exact).render = String.ofList (quote name.toList)) ∧
      ((Bound.name name exact).render = name ↔
        ∃ r, parse name = .ok r ∧ r.inverted = false ∧
          r.segments = [.single (.name name exact)]) := by
  refine ⟨?_, fun exact => ⟨?_, ?_⟩⟩
  · rw [parse_singleton_iff, Segment.derives_own_name_iff, and_iff_right rfl]
  · rw [Bound.render, Bound.written]
    split
    · exact Or.inl String.ofList_toList
    · exact Or.inr rfl
  · rw [parse_singleton_iff, Segment.derives_own_name_iff, Bound.render_name_eq_self_iff]

end Range

end TableSelection
