import TableSelection.Proofs.Text.Trimming
import TableSelection.Range.Grammar
import TableSelection.Range.Reader

/-!
# Keywords in a text

A keyword counts where nothing but blanks stands between it and the end of its bound, which is the
end of the item or a hyphen. Where two keywords count, as in `last-1`, the longer one is read:

    readPlaceholder? text = some (meant, rest)  ↔
      text is a keyword for meant and then rest, and no longer keyword counts
                                                          (readPlaceholder?_eq_some_iff)

The only keywords that go on behind a bound are `last-1` and `last-2` behind `last`
(`eq_hyphen_of_longer`).
-/

namespace TableSelection

open Text

/-- A text that spells a placeholder. -/
def Placeholder.IsSpelled (meant : Placeholder) (text : List Char) : Prop :=
  ∃ word, (word, meant) ∈ spellings ∧ text.map Char.toLower = word.toList

/-- The reader tries just the keywords of the grammar. -/
theorem Placeholder.mem_keywords_iff {keyword : String × Placeholder} :
    keyword ∈ keywords ↔ keyword ∈ spellings :=
  List.Perm.mem_iff (by decide)

/-- What may stand behind a bound: nothing, or a hyphen. -/
def Bound.Ends (rest : List Char) : Prop := ∀ c ∈ rest.head?, c = '-'

namespace Bound

theorem ends_nil : Ends [] := by simp [Ends]

theorem ends_hyphen (rest : List Char) : Ends ('-' :: rest) := by simp [Ends]

theorem Ends.cases {rest : List Char} (h : Ends rest) : rest = [] ∨ ∃ r, rest = '-' :: r := by
  cases rest with
  | nil => exact Or.inl rfl
  | cons c cs => exact Or.inr ⟨cs, by rw [h c rfl]⟩

theorem Ends.trimStart_eq {rest : List Char} (h : Ends rest) : trimStart rest = rest := by
  rcases h.cases with rfl | ⟨r, rfl⟩
  · rfl
  · exact trimStart_cons_of_not_blank (by decide)

theorem keywordMayEnd_iff {rest : List Char} :
    keywordMayEnd rest = true ↔ Ends (trimStart rest) := by
  unfold keywordMayEnd
  cases h : trimStart rest with
  | nil => simp [Ends]
  | cons c cs => simp [Ends]

/-- A text without hyphens behind which a bound may end is blank. -/
theorem eq_nil_of_ends_trimStart {u rest : List Char} (hu : '-' ∉ u)
    (hlast : ∀ c ∈ u.getLast?, isBlank c = false) (h : Ends (trimStart (u ++ rest))) : u = [] := by
  obtain ⟨ws, hws, he⟩ := exists_blanks_trimStart u
  cases ht : trimStart u with
  | nil =>
    rw [ht, List.append_nil] at he
    subst he
    apply Classical.byContradiction
    intro hne
    have hb := hws _ (List.getLast_mem hne)
    rw [hlast _ (List.getLast?_eq_some_getLast hne)] at hb
    cases hb
  | cons d ds =>
    rw [ht] at he
    have hd : isBlank d = false := (trimStart_eq_cons ht).1
    rw [he, List.append_assoc, trimStart_append hws, List.cons_append,
      trimStart_cons_of_not_blank hd] at h
    have hd' : d = '-' := h d rfl
    exact absurd (he ▸ hd' ▸ List.mem_append_right ws List.mem_cons_self) hu

end Bound

/-! ## The characters of a keyword -/

theorem isUpper_iff {c : Char} : c.isUpper = true ↔ 65 ≤ c.toNat ∧ c.toNat ≤ 90 :=
  decide_eq_true_iff

theorem isLower_iff {c : Char} : c.isLower = true ↔ 97 ≤ c.toNat ∧ c.toNat ≤ 122 := by
  show (decide (c.val ≥ 'a'.val) && decide (c.val ≤ 'z'.val)) = true ↔ _
  rw [Bool.and_eq_true, decide_eq_true_iff, decide_eq_true_iff]
  exact Iff.rfl

theorem isAlpha_iff {c : Char} : c.isAlpha = true ↔ c.isUpper = true ∨ c.isLower = true :=
  Bool.or_eq_true_iff

theorem toLower_of_not_isAlpha {c : Char} (hc : c.isAlpha = false) : c.toLower = c := by
  refine dif_neg fun h => ?_
  have hu : c.isUpper = true := decide_eq_true h
  rw [isAlpha_iff.2 (Or.inl hu)] at hc
  cases hc

theorem isLower_toLower {c : Char} (h : c.isUpper = true) : c.toLower.isLower = true := by
  have hval : c.toLower.val = c.val + 32 := congrArg Char.val (dif_pos (of_decide_eq_true h))
  have hnat : c.toLower.toNat = (c.toNat + 32) % 4294967296 := by
    show c.toLower.val.toNat = _
    rw [hval, UInt32.toNat_add]
    rfl
  have hc := isUpper_iff.1 h
  rw [isLower_iff]
  omega

/-- Only a character itself becomes one that is no letter. -/
theorem eq_of_toLower_eq {c d : Char} (hd : d.isAlpha = false) (h : c.toLower = d) : c = d := by
  have hu : ¬c.isUpper = true := fun hu => by
    have hlow := isLower_toLower hu
    rw [h] at hlow
    rw [isAlpha_iff.2 (Or.inr hlow)] at hd
    cases hd
  have hc : c.toLower = c := dif_neg fun hc => hu (decide_eq_true hc)
  rw [← h, hc]

theorem not_isAlpha_of_isBlank {c : Char} (h : isBlank c = true) : c.isAlpha = false := by
  refine Bool.eq_false_iff.2 fun ha => ?_
  simp only [isBlank, Bool.or_eq_true, Bool.and_eq_true, decide_eq_true_eq, beq_iff_eq] at h
  rw [isAlpha_iff, isUpper_iff, isLower_iff] at ha
  omega

namespace Placeholder

/-- The characters of keywords: letters, and the signs that stand between or behind them. -/
def isKeywordChar (c : Char) : Bool := c.isAlpha || ['-', '_', '1', '2'].contains c

theorem isLower_or_sign : ∀ spelling ∈ spellings, ∀ d ∈ spelling.1.toList,
    d.isLower = true ∨ d.isAlpha = false ∧ isKeywordChar d = true := by
  have hall : (spellings.all fun spelling => spelling.1.toList.all fun d =>
      d.isLower || !d.isAlpha && isKeywordChar d) = true := by decide
  simpa only [List.all_eq_true, Bool.or_eq_true, Bool.and_eq_true, Bool.not_eq_true'] using hall

theorem IsSpelled.isKeywordChar {meant : Placeholder} {kw : List Char} {c : Char}
    (h : meant.IsSpelled kw) (hc : c ∈ kw) : isKeywordChar c = true := by
  obtain ⟨word, hw, hkw⟩ := h
  cases halpha : c.isAlpha with
  | true => rw [Placeholder.isKeywordChar, halpha, Bool.true_or]
  | false =>
    -- such a character has no other case, so the spelling has it too
    have hlow : c.toLower ∈ word.toList := hkw ▸ List.mem_map_of_mem hc
    rw [toLower_of_not_isAlpha halpha] at hlow
    rcases isLower_or_sign _ hw c hlow with hl | hs
    · rw [isAlpha_iff.2 (Or.inr hl)] at halpha
      cases halpha
    · exact hs.2

theorem IsSpelled.not_isBlank {meant : Placeholder} {kw : List Char} {c : Char}
    (h : meant.IsSpelled kw) (hc : c ∈ kw) : isBlank c = false := by
  apply Classical.byContradiction
  intro hb
  rw [Bool.not_eq_false] at hb
  have hsign : c ∉ ['-', '_', '1', '2'] := not_mem_of_class hb (by decide)
  have hchar := h.isKeywordChar hc
  rw [Placeholder.isKeywordChar, not_isAlpha_of_isBlank hb, Bool.false_or] at hchar
  exact hsign (List.contains_iff_mem.1 hchar)

theorem isAlpha_head_spelling : ∀ spelling ∈ spellings, ∃ d, spelling.1.toList.head? = some d ∧
    d.isAlpha = true := by
  simp [spellings]

/-- A keyword starts with a letter. -/
theorem IsSpelled.exists_cons {meant : Placeholder} {kw : List Char} (h : meant.IsSpelled kw) :
    ∃ c cs, kw = c :: cs ∧ c.isAlpha = true := by
  obtain ⟨word, hw, hkw⟩ := h
  obtain ⟨d, hd, ha⟩ := isAlpha_head_spelling _ hw
  cases kw with
  | nil => rw [← hkw] at hd; simp at hd
  | cons c cs =>
    refine ⟨c, cs, rfl, ?_⟩
    rw [← hkw] at hd
    simp only [List.map_cons, List.head?_cons, Option.some.injEq] at hd
    cases hc : c.isAlpha with
    | true => rfl
    | false => rw [← hd, toLower_of_not_isAlpha hc, hc] at ha; cases ha

theorem spelling_hyphen : ∀ spelling ∈ spellings, ∀ n < spelling.1.toList.length,
    spelling.1.toList[n]? = some '-' → spelling.1.toList.take n = "last".toList ∧
      spelling.1.toList.drop (n + 1) ∈ [['1'], ['2']] := by
  decide

/-- What stands on both sides of a hyphen in a keyword. -/
theorem IsSpelled.hyphen {meant : Placeholder} {t u : List Char}
    (h : meant.IsSpelled (t ++ '-' :: u)) :
    Placeholder.last.IsSpelled t ∧ (u = ['1'] ∨ u = ['2']) := by
  obtain ⟨word, hw, ht⟩ := h
  have hword : word.toList = t.map Char.toLower ++ '-' :: u.map Char.toLower := by
    rw [← ht, List.map_append, List.map_cons]
    rfl
  have hn : (t.map Char.toLower).length < word.toList.length := by
    rw [hword, List.length_append, List.length_cons]
    omega
  obtain ⟨hlast, hdigit⟩ := spelling_hyphen _ hw _ hn (by simp [hword])
  have htake : t.map Char.toLower = "last".toList := by
    rw [← hlast, hword, List.take_left]
  have hdrop : word.toList.drop ((t.map Char.toLower).length + 1) = u.map Char.toLower := by
    rw [hword, List.drop_append]
    simp
  rw [hdrop] at hdigit
  have hu : ∀ d, d.isAlpha = false → u.map Char.toLower = [d] → u = [d] := by
    intro d hd hud
    obtain ⟨c, rfl, hc⟩ := List.map_eq_singleton_iff.1 hud
    rw [eq_of_toLower_eq hd hc]
  refine ⟨⟨"last", by decide, htake⟩, ?_⟩
  rcases List.mem_cons.1 hdigit with he | he
  · exact Or.inl (hu '1' (by decide) he)
  · exact Or.inr (hu '2' (by decide) (List.mem_singleton.1 he))

theorem spelling_unique :
    ∀ p ∈ spellings, ∀ q ∈ spellings, p.1.toList = q.1.toList → p.2 = q.2 := by
  decide

theorem IsSpelled.unique {meant meant' : Placeholder} {kw : List Char} (h : meant.IsSpelled kw)
    (h' : meant'.IsSpelled kw) : meant = meant' := by
  obtain ⟨word, hw, hkw⟩ := h
  obtain ⟨word', hw', hkw'⟩ := h'
  exact spelling_unique _ hw _ hw' (hkw.symm.trans hkw')

theorem ofKeyword?_eq_none_iff {text : List Char} :
    ofKeyword? text = none ↔ ∀ meant : Placeholder, ¬meant.IsSpelled text := by
  have hword : ∀ word : String, dropWord? word.toList text = some [] ↔
      text.map Char.toLower = word.toList := fun word => by
    rw [dropWord?_eq_some_iff]
    simp
  simp only [ofKeyword?, List.findSome?_eq_none_iff, ite_eq_right_iff, hword, IsSpelled,
    not_exists, not_and]
  exact ⟨fun h meant word hw ht => absurd (h (word, meant) hw ht) (by simp),
    fun h spelling hw ht => absurd ht (h _ _ hw)⟩

/-! ## The keyword that counts -/

/-- A keyword that counts in front of the text behind it. -/
def Counts (meant : Placeholder) (kw rest : List Char) : Prop :=
  meant.IsSpelled kw ∧ Bound.Ends (trimStart rest)

end Placeholder

namespace Bound

open Placeholder

/-- When trying one spelling finds its placeholder. -/
theorem spelling_found_iff {word : String} {meant meant' : Placeholder} {text rest : List Char} :
    ((dropWord? word.toList text).bind fun rest =>
        if keywordMayEnd rest then some (meant, rest) else none) = some (meant', rest) ↔
      meant = meant' ∧ ∃ kw, kw.map Char.toLower = word.toList ∧ text = kw ++ rest ∧
        Ends (trimStart rest) := by
  simp only [Option.bind_eq_some_iff, dropWord?_eq_some_iff, Option.ite_none_right_eq_some,
    Option.some.injEq, Prod.mk.injEq, keywordMayEnd_iff]
  constructor
  · rintro ⟨r, ⟨kw, hkw, ht⟩, hr, hm, rfl⟩
    exact ⟨hm, kw, hkw, ht, hr⟩
  · rintro ⟨hm, kw, hkw, ht, hr⟩
    exact ⟨rest, ⟨kw, hkw, ht⟩, hr, hm, rfl⟩

/-- No spelling is the beginning of one that is tried later. -/
theorem pairwise_spellings : spellings.Pairwise fun p q => ¬p.1.toList <+: q.1.toList := by
  decide

/-- Of two keywords at the front of a text the one that is tried later is no longer than the
other. -/
theorem length_le_of_tried {word word' : String} {kw kw' rest rest' : List Char}
    (h : ¬word.toList <+: word'.toList) (hkw : kw.map Char.toLower = word.toList)
    (hkw' : kw'.map Char.toLower = word'.toList) (he : kw ++ rest = kw' ++ rest') :
    kw'.length ≤ kw.length := by
  rcases List.append_eq_append_iff.1 he with ⟨a, rfl, -⟩ | ⟨a, rfl, -⟩
  · refine absurd ?_ h
    rw [← hkw, ← hkw', List.map_append]
    exact List.prefix_append _ _
  · rw [List.length_append]
    omega

/-- The reader takes the longest keyword that counts. -/
theorem counts_of_readPlaceholder? {meant : Placeholder} {text rest : List Char}
    (h : readPlaceholder? text = some (meant, rest)) :
    ∃ kw, text = kw ++ rest ∧ Counts meant kw rest ∧ ∀ meant' kw' rest',
      text = kw' ++ rest' → Counts meant' kw' rest' → kw'.length ≤ kw.length := by
  obtain ⟨before, ⟨word, m⟩, after, hl, hread, hbefore⟩ := List.findSome?_eq_some_iff.1 h
  obtain ⟨rfl, kw, hkw, ht, hr⟩ := spelling_found_iff.1 hread
  have hmem : (word, m) ∈ spellings := by rw [hl]; simp
  refine ⟨kw, ht, ⟨⟨word, hmem, hkw⟩, hr⟩, ?_⟩
  rintro meant' kw' rest' ht' ⟨⟨word', hw', hkw'⟩, hr'⟩
  rw [hl] at hw'
  have hpair := pairwise_spellings
  rw [hl, List.pairwise_append] at hpair
  rcases List.mem_append.1 hw' with hw' | hw'
  · have hsome := (@spelling_found_iff word' meant' meant' text rest').2 ⟨rfl, kw', hkw', ht', hr'⟩
    have hnone := hsome.symm.trans (hbefore _ hw')
    cases hnone
  · rcases List.mem_cons.1 hw' with hw' | hw'
    · cases hw'
      have hlen := congrArg List.length (hkw.trans hkw'.symm)
      simp only [List.length_map] at hlen
      omega
    · have hlater := (List.pairwise_cons.1 hpair.2.1).1 _ hw'
      exact length_le_of_tried hlater hkw hkw' (ht.symm.trans ht')

theorem isSome_readPlaceholder? {meant : Placeholder} {kw rest : List Char}
    (h : Counts meant kw rest) : ∃ found, readPlaceholder? (kw ++ rest) = some found := by
  obtain ⟨⟨word, hw, hkw⟩, hr⟩ := h
  apply Option.isSome_iff_exists.1
  refine List.findSome?_isSome_iff.2 ⟨(word, meant), hw, ?_⟩
  exact Option.isSome_iff_exists.2 ⟨_, spelling_found_iff.2 ⟨rfl, kw, hkw, rfl, hr⟩⟩

theorem readPlaceholder?_eq_some_iff {meant : Placeholder} {text rest : List Char} :
    readPlaceholder? text = some (meant, rest) ↔
      ∃ kw, text = kw ++ rest ∧ Counts meant kw rest ∧ ∀ meant' kw' rest',
        text = kw' ++ rest' → Counts meant' kw' rest' → kw'.length ≤ kw.length := by
  refine ⟨counts_of_readPlaceholder?, ?_⟩
  rintro ⟨kw, rfl, hc, hlongest⟩
  obtain ⟨⟨meant', rest'⟩, hfound⟩ := isSome_readPlaceholder? hc
  obtain ⟨kw', ht', hc', hlongest'⟩ := counts_of_readPlaceholder? hfound
  -- both keywords are longest, so they are the same text
  have hlen : kw.length = kw'.length :=
    Nat.le_antisymm (hlongest' _ _ _ rfl hc) (hlongest _ _ _ ht' hc')
  obtain ⟨rfl, rfl⟩ := List.append_inj ht' hlen
  rw [hfound, hc.1.unique hc'.1]

theorem readPlaceholder?_eq_none_iff {text : List Char} :
    readPlaceholder? text = none ↔
      ∀ meant kw rest, text = kw ++ rest → ¬Counts meant kw rest := by
  constructor
  · rintro h meant kw rest rfl hc
    obtain ⟨found, hfound⟩ := isSome_readPlaceholder? hc
    rw [h] at hfound
    cases hfound
  · intro h
    cases hr : readPlaceholder? text with
    | none => rfl
    | some found =>
      obtain ⟨kw, ht, hc, -⟩ := counts_of_readPlaceholder? hr
      exact absurd hc (h _ _ _ ht)

/-- A keyword that goes on behind a bound is `last-1` or `last-2`, and the bound is `last`. -/
theorem eq_hyphen_of_longer {meant : Placeholder} {t ws rest kw r : List Char}
    (hkw : meant.IsSpelled kw) (hws : ∀ c ∈ ws, isBlank c = true) (hrest : Ends rest)
    (he : t ++ ws ++ rest = kw ++ r) (hlen : t.length < kw.length) :
    ws = [] ∧ Placeholder.last.IsSpelled t ∧
      ∃ d, (d = '1' ∨ d = '2') ∧ kw = t ++ ['-', d] ∧ rest = '-' :: d :: r := by
  rw [List.append_assoc] at he
  rcases List.append_eq_append_iff.1 he with ⟨a, rfl, ha⟩ | ⟨a, rfl, -⟩
  · -- the keyword has no blanks, so the hyphen comes next
    have hws' : ws = [] := by
      cases ws with
      | nil => rfl
      | cons w ws =>
        cases a with
        | nil => simp at hlen
        | cons b bs =>
          rw [List.cons_append, List.cons_append, List.cons.injEq] at ha
          have hb := hkw.not_isBlank (c := b) (by simp)
          rw [← ha.1, hws w List.mem_cons_self] at hb
          cases hb
    subst hws'
    rcases hrest.cases with rfl | ⟨rest, rfl⟩
    · have hnil : a = [] := (List.append_eq_nil_iff.1 ha.symm).1
      simp [hnil] at hlen
    · cases a with
      | nil => simp at hlen
      | cons b bs =>
        rw [List.nil_append, List.cons_append, List.cons.injEq] at ha
        obtain ⟨rfl, rfl⟩ := ha
        obtain ⟨hlast, rfl | rfl⟩ := hkw.hyphen
        · exact ⟨rfl, hlast, '1', Or.inl rfl, rfl, rfl⟩
        · exact ⟨rfl, hlast, '2', Or.inr rfl, rfl, rfl⟩
  · rw [List.length_append] at hlen
    omega

end Bound

end TableSelection
