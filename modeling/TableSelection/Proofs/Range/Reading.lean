import TableSelection.Proofs.Range.Items

/-!
# The reader accepts the grammar

A body is cut at its commas outside quotes, an item is read where the grammar derives it, and the
word that opens an inversion cannot start a body, because its parenthesis would stand outside
quotes. So a text is read as a range just if the grammar derives the range from it:

    readBody body = .ok segments  ↔  BodyDerives body segments      (readBody_eq_ok_iff)
    parse text = .ok r            ↔  Derives text.toList r           (parse_eq_ok_iff_derives)
-/

namespace TableSelection.Range

open Text

variable {body : List Char} {segments : List Segment}

/-! ## Bodies -/

theorem BodyDerives.closesQuotes (h : BodyDerives body segments) : ClosesQuotes body := by
  cases h with
  | blank blanks => exact blanks.isPlain.closesQuotes
  | items some derives =>
    refine closesQuotes_intercalate fun text ht => ?_
    obtain ⟨item, hi, rfl⟩ := List.mem_map.1 ht
    exact (derives item hi).isPlain.closesQuotes

/-- A body has no parenthesis outside quotes. -/
theorem BodyDerives.not_mem_unquoted (h : BodyDerives body segments) :
    ∀ c ∈ unquoted body, c ∉ ['(', ')'] := by
  cases h with
  | blank blanks =>
    exact fun c hc hm => blanks.isPlain.not_mem c hc (List.mem_cons_of_mem _ hm)
  | @items items some derives =>
    have hplain : ∀ text ∈ items.map Prod.fst, IsPlain text := fun text ht => by
      obtain ⟨item, hi, rfl⟩ := List.mem_map.1 ht
      exact (derives item hi).isPlain
    intro c hc hm
    rcases mem_unquoted_intercalate (fun text ht => (hplain text ht).closesQuotes) hc with
      rfl | ⟨text, ht, hc⟩
    · revert hm; decide
    · exact (hplain text ht).not_mem c hc (List.mem_cons_of_mem _ hm)

theorem readBody_of_blanks (h : ∀ c ∈ body, isBlank c = true) : readBody body = .ok [] := by
  rw [readBody, if_pos (List.all_eq_true.2 h)]

theorem readBody_of_not_blank (h : ¬∀ c ∈ body, isBlank c = true) :
    readBody body = readItems body >>= (·.mapM Segment.read) :=
  if_neg fun hall => h (List.all_eq_true.1 hall)

theorem readItems_eq_ok_iff {items : List (List Char)} : readItems body = .ok items ↔
    ClosesQuotes body ∧ (∀ item ∈ splitItems body, trim item ≠ []) ∧
      items = (splitItems body).map trim := by
  have hempty : ((splitItems body).map trim).any List.isEmpty = false ↔
      ∀ item ∈ splitItems body, trim item ≠ [] := by
    simp
  by_cases hclosed : ClosesQuotes body
  · simp only [readItems, if_neg (fun hn => hn hclosed : ¬¬ClosesQuotes body)]
    by_cases hany : ((splitItems body).map trim).any List.isEmpty = true
    · rw [if_pos hany]
      refine ⟨nofun, fun ⟨_, hne, _⟩ => ?_⟩
      rw [hempty.2 hne] at hany
      cases hany
    · rw [if_neg hany, Except.ok.injEq]
      refine ⟨fun he => ⟨hclosed, hempty.1 (by simpa using hany), he.symm⟩, fun h => h.2.2.symm⟩
  · rw [readItems, if_pos hclosed]
    exact ⟨nofun, fun h => absurd h.1 hclosed⟩

/-- What it takes for a body that is not blank to be read. -/
theorem readBody_eq_ok_iff_of_not_blank (h : ¬∀ c ∈ body, isBlank c = true) :
    readBody body = .ok segments ↔ ClosesQuotes body ∧
      (∀ item ∈ splitItems body, trim item ≠ []) ∧
        ((splitItems body).map trim).mapM Segment.read = .ok segments := by
  rw [readBody_of_not_blank h, bind_eq_ok_iff]
  constructor
  · rintro ⟨items, hitems, hread⟩
    obtain ⟨hclosed, hne, rfl⟩ := readItems_eq_ok_iff.1 hitems
    exact ⟨hclosed, hne, hread⟩
  · rintro ⟨hclosed, hne, hread⟩
    exact ⟨_, readItems_eq_ok_iff.2 ⟨hclosed, hne, rfl⟩, hread⟩

theorem readBody_of_derives (h : BodyDerives body segments) : readBody body = .ok segments := by
  have hclosed := h.closesQuotes
  cases h with
  | blank blanks => exact readBody_of_blanks (blanks_iff.1 blanks)
  | @items items some derives =>
    have hsplit : splitItems ([','].intercalate (items.map Prod.fst)) = items.map Prod.fst := by
      refine splitItems_intercalate (by simpa using some) fun text ht => ?_
      obtain ⟨item, hi, rfl⟩ := List.mem_map.1 ht
      have hplain := (derives item hi).isPlain
      exact ⟨hplain.closesQuotes, fun hm => hplain.not_mem _ hm (by decide)⟩
    have hne : ∀ text ∈ items.map Prod.fst, trim text ≠ [] := fun text ht => by
      obtain ⟨item, hi, rfl⟩ := List.mem_map.1 ht
      exact (derives item hi).trim_ne_nil
    -- a blank body would be a single blank item
    have hblank : ¬∀ c ∈ [','].intercalate (items.map Prod.fst), isBlank c = true := fun hall => by
      have hmem := List.mem_singleton_self ([','].intercalate (items.map Prod.fst))
      rw [← splitItems_of_blanks hall, hsplit] at hmem
      exact hne _ hmem (trim_eq_nil_iff.2 hall)
    rw [readBody_eq_ok_iff_of_not_blank hblank, hsplit]
    refine ⟨hclosed, hne, mapM_eq_ok_iff.2 ?_⟩
    rw [List.forall₂_map_left_iff, List.forall₂_map_left_iff, List.forall₂_map_right_iff]
    refine List.forall₂_same.2 fun item hi => ?_
    exact Segment.read_of_derives (Segment.derives_trim_iff.2 (derives item hi))

theorem bodyDerives_of_readBody (h : readBody body = .ok segments) : BodyDerives body segments := by
  by_cases hblank : ∀ c ∈ body, isBlank c = true
  · rw [readBody_of_blanks hblank] at h
    cases h
    exact .blank (blanks_iff.2 hblank)
  obtain ⟨hclosed, -, hread⟩ := (readBody_eq_ok_iff_of_not_blank hblank).1 h
  rw [mapM_eq_ok_iff, List.forall₂_map_left_iff] at hread
  have hlen := hread.length_eq
  have hitems : ((splitItems body).zip segments).map Prod.fst = splitItems body :=
    List.map_fst_zip (Nat.le_of_eq hlen)
  have hsegments : ((splitItems body).zip segments).map Prod.snd = segments :=
    List.map_snd_zip (Nat.le_of_eq hlen.symm)
  have hderives : BodyDerives ([','].intercalate (((splitItems body).zip segments).map Prod.fst))
      (((splitItems body).zip segments).map Prod.snd) := by
    refine .items (fun hnil => ?_) fun item hi => ?_
    · rw [hnil] at hitems
      exact splitItemsFrom_ne_nil _ _ hitems.symm
    · have hmem := (List.of_mem_zip hi).1
      have hcomma := (closesQuotes_of_mem_splitItems hclosed hmem).2
      refine Segment.derives_trim_iff.1 (Segment.derives_of_read ?_ ?_)
      · exact fun hm => hcomma (mem_unquoted_of_trim hm)
      · exact (List.forall₂_iff_zip.1 hread).2 hi
  rwa [hitems, hsegments, intercalate_splitItems] at hderives

/-- A body is read just if the grammar derives it. -/
theorem readBody_eq_ok_iff : readBody body = .ok segments ↔ BodyDerives body segments :=
  ⟨bodyDerives_of_readBody, readBody_of_derives⟩

/-- Blanks around a body do not matter. -/
theorem bodyDerives_trim_iff : BodyDerives (trim body) segments ↔ BodyDerives body segments := by
  rw [← readBody_eq_ok_iff, ← readBody_eq_ok_iff]
  by_cases hblank : ∀ c ∈ body, isBlank c = true
  · rw [trim_eq_nil_iff.2 hblank, readBody_of_blanks hblank, readBody_of_blanks (by simp)]
  have hblank' : ¬∀ c ∈ trim body, isBlank c = true := fun hall => by
    have hnil := trim_eq_nil_iff.2 hall
    rw [trim_eq_self_iff.2 (isTrimmed_trim body)] at hnil
    exact hblank (trim_eq_nil_iff.1 hnil)
  obtain ⟨ws, ws', hws, hws', hbody⟩ := exists_blanks_trim body
  have hclosed : ClosesQuotes (trim body) ↔ ClosesQuotes body := by
    refine ⟨fun h => ?_, ClosesQuotes.trim⟩
    rw [hbody]
    exact ((closesQuotes_of_blanks hws).append h).append (closesQuotes_of_blanks hws')
  rw [readBody_eq_ok_iff_of_not_blank hblank, readBody_eq_ok_iff_of_not_blank hblank', hclosed]
  refine and_congr_right fun h => ?_
  have hmap := map_trim_splitItems h.trim hws hws'
  rw [← hbody] at hmap
  have hitems : (∀ item ∈ (splitItems body).map trim, item ≠ []) ↔
      ∀ item ∈ (splitItems (trim body)).map trim, item ≠ [] := by rw [hmap]
  rw [List.forall_mem_map, List.forall_mem_map] at hitems
  rw [hmap, hitems]

/-! ## Inversions -/

theorem inversionWord_eq : inversionWord = "inv(".toList := by decide

/-- The word that opens an inversion starts with a letter and has no quote, but a parenthesis. -/
theorem inversionWord_cases {word : List Char} (h : word.map Char.toLower = inversionWord) :
    (∀ c ∈ word.head?, isBlank c = false) ∧ '"' ∉ word ∧ '(' ∈ word := by
  have hletters : ∀ c ∈ word, c.toLower ∈ inversionWord := fun c hc => h ▸ List.mem_map_of_mem hc
  refine ⟨fun c hc => ?_, fun hq => absurd (hletters _ hq) (by decide), ?_⟩
  · apply Classical.byContradiction
    intro hb
    have halpha := not_isAlpha_of_isBlank (Bool.not_eq_false _ ▸ hb)
    have hi : c.toLower = 'i' := by
      have hhead := congrArg List.head? h
      rw [List.head?_map, Option.mem_def.1 hc] at hhead
      exact Option.some.inj hhead
    rw [toLower_of_not_isAlpha halpha] at hi
    rw [hi] at halpha
    revert halpha
    decide
  · have hp : '(' ∈ word.map Char.toLower := by rw [h]; decide
    obtain ⟨c, hc, he⟩ := List.mem_map.1 hp
    rwa [← eq_of_toLower_eq (by decide) he]

/-- A text that opens an inversion has a parenthesis outside quotes. -/
theorem mem_unquoted_of_dropWord? {text rest : List Char}
    (h : dropWord? inversionWord text = some rest) : '(' ∈ unquoted text := by
  obtain ⟨word, hword, rfl⟩ := dropWord?_eq_some_iff.1 h
  obtain ⟨-, hquote, hparen⟩ := inversionWord_cases hword
  rw [(closesQuotes_of_not_mem hquote).unquoted_append, unquoted_of_not_mem hquote]
  exact List.mem_append_left _ hparen

theorem dropWord?_of_not_mem {text : List Char} (h : '(' ∉ unquoted text) :
    dropWord? inversionWord text = none := by
  cases hd : dropWord? inversionWord text with
  | none => rfl
  | some rest => exact absurd (mem_unquoted_of_dropWord? hd) h

theorem splitInversion_inverted {word : List Char} (hword : word.map Char.toLower = inversionWord)
    (hbody : ∀ c ∈ unquoted body, c ∉ ['(', ')']) :
    splitInversion (word ++ body ++ [')']) = .ok (body, true) := by
  have hdrop : dropWord? inversionWord (word ++ body ++ [')']) = some (body ++ [')']) :=
    dropWord?_eq_some_iff.2 ⟨word, hword, List.append_assoc ..⟩
  have hnested : dropWord? inversionWord (trimStart body) = none :=
    dropWord?_of_not_mem fun hm => hbody _ (mem_unquoted_of_trimStart hm) (by decide)
  have hparens : ¬(unquoted body).any (['(', ')'].contains ·) = true := fun hany => by
    obtain ⟨c, hc, hm⟩ := List.any_eq_true.1 hany
    exact hbody c hc (List.contains_iff_mem.1 hm)
  simp only [splitInversion, hdrop, List.getLast?_append, List.getLast?_singleton, Option.some_or,
    ne_eq, not_true, if_false, List.dropLast_concat, hnested, Option.isSome_none, hparens]
  rfl

/-- What an inversion is taken off from. -/
theorem splitInversion_eq_ok {text : List Char} {inverted : Bool}
    (h : splitInversion text = .ok (body, inverted)) :
    inverted = false ∧ body = text ∨
      inverted = true ∧ ∃ word, word.map Char.toLower = inversionWord ∧
        text = word ++ body ++ [')'] := by
  rw [splitInversion] at h
  cases hd : dropWord? inversionWord text with
  | none =>
    rw [hd] at h
    cases h
    exact Or.inl ⟨rfl, rfl⟩
  | some rest =>
    obtain ⟨word, hword, rfl⟩ := dropWord?_eq_some_iff.1 hd
    simp only [hd] at h
    split at h
    · cases h
    · next hlast =>
      split at h
      · cases h
      · split at h
        · cases h
        · cases h
          refine Or.inr ⟨rfl, word, hword, ?_⟩
          rw [List.append_assoc, List.dropLast_append_getLast? _ (Classical.not_not.1 hlast)]

/-! ## Ranges -/

variable {text : List Char} {r : Range}

/-- The text of a plain range is a body. -/
theorem derives_plain_iff : Derives text ⟨segments, false, none⟩ ↔ BodyDerives text segments := by
  constructor
  · intro h
    cases h with
    | plain blanks₁ blanks₂ derives =>
      rwa [← bodyDerives_trim_iff, trim_append_append (blanks_iff.1 blanks₁) (blanks_iff.1 blanks₂),
        bodyDerives_trim_iff]
  · intro h
    simpa using Derives.plain .nil .nil h

/-- A body in `inv( )` is the text of an inverted range. -/
theorem derives_inverted (h : BodyDerives body segments) :
    Derives (inversionWord ++ body ++ [')']) ⟨segments, true, none⟩ := by
  have hword : inversionWord.map Char.toLower = "inv(".toList := by decide
  simpa using Derives.inverted .nil .nil hword h

theorem read_eq_ok_iff : read text = .ok r ↔ ∃ body,
    splitInversion (trim text) = .ok (body, r.inverted) ∧ readBody body = .ok r.segments ∧
      r.limit = none := by
  rw [read, bind_eq_ok_iff]
  constructor
  · rintro ⟨⟨body, inverted⟩, hsplit, h⟩
    obtain ⟨segments, hbody, hr⟩ := bind_eq_ok_iff.1 h
    cases hr
    exact ⟨body, hsplit, hbody, rfl⟩
  · rintro ⟨body, hsplit, hbody, hlimit⟩
    refine ⟨_, hsplit, bind_eq_ok_iff.2 ⟨_, hbody, ?_⟩⟩
    rw [← hlimit]
    rfl

/-- A plain range has the segments of its text, and nothing else is known of it. -/
theorem eq_plain_of_parse {a : String} {r : Range} (h : parse a = .ok r)
    (hplain : r.inverted = false) : r = ⟨r.segments, false, none⟩ := by
  obtain ⟨body, -, -, hlimit⟩ := read_eq_ok_iff.1 h
  obtain ⟨segments, inverted, limit⟩ := r
  obtain rfl : inverted = false := hplain
  obtain rfl : limit = none := hlimit
  rfl

theorem read_of_derives (h : Derives text r) : read text = .ok r := by
  cases h with
  | @plain ws₁ body ws₂ segments blanks₁ blanks₂ derives =>
    have hread := readBody_of_derives (bodyDerives_trim_iff.2 derives)
    refine read_eq_ok_iff.2 ⟨trim body, ?_, hread, rfl⟩
    rw [trim_append_append (blanks_iff.1 blanks₁) (blanks_iff.1 blanks₂), splitInversion,
      dropWord?_of_not_mem]
    exact fun hm => derives.not_mem_unquoted _ (mem_unquoted_of_trim hm) (by decide)
  | @inverted ws₁ word body ws₂ segments blanks₁ blanks₂ opens derives =>
    refine read_eq_ok_iff.2 ⟨body, ?_, readBody_of_derives derives, rfl⟩
    rw [← inversionWord_eq] at opens
    obtain ⟨hhead, -, hparen⟩ := inversionWord_cases opens
    have htrimmed : isTrimmed (word ++ body ++ [')']) = true := by
      refine isTrimmed_iff.2 ⟨?_, by simp; decide⟩
      rw [List.append_assoc, List.head?_append_of_ne_nil _ (List.ne_nil_of_mem hparen)]
      exact hhead
    have htext : ws₁ ++ word ++ body ++ ')' :: ws₂ = ws₁ ++ (word ++ body ++ [')']) ++ ws₂ := by
      simp
    rw [htext, trim_append_append_of_isTrimmed htrimmed (blanks_iff.1 blanks₁)
      (blanks_iff.1 blanks₂)]
    exact splitInversion_inverted opens derives.not_mem_unquoted

theorem derives_of_read (h : read text = .ok r) : Derives text r := by
  obtain ⟨body, hsplit, hbody, hlimit⟩ := read_eq_ok_iff.1 h
  obtain ⟨segments, inverted, limit⟩ := r
  obtain rfl : limit = none := hlimit
  have hderives := bodyDerives_of_readBody hbody
  obtain ⟨ws, ws', hws, hws', htext⟩ := exists_blanks_trim text
  rcases splitInversion_eq_ok hsplit with ⟨hi, rfl⟩ | ⟨hi, word, hword, he⟩
  · obtain rfl : inverted = false := hi
    rw [htext]
    exact .plain (blanks_iff.2 hws) (blanks_iff.2 hws') hderives
  · obtain rfl : inverted = true := hi
    rw [inversionWord_eq] at hword
    have hinverted := Derives.inverted (blanks_iff.2 hws) (blanks_iff.2 hws') hword hderives
    have hsame : ws ++ word ++ body ++ ')' :: ws' = text := by
      rw [htext, he]
      simp
    rwa [hsame] at hinverted

/-! ## Top theorem -/

/-- **The reader accepts exactly the grammar**, and reads what the grammar says. -/
theorem parse_eq_ok_iff_derives (text : String) (r : Range) :
    parse text = .ok r ↔ Derives text.toList r :=
  ⟨derives_of_read, read_of_derives⟩

end TableSelection.Range
