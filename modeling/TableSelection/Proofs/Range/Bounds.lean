import TableSelection.Proofs.Outcome
import TableSelection.Proofs.Range.BoundTexts

/-!
# Reading a bound

The text of a bound is read as that bound, up to the end of the item or to the next hyphen, unless a
longer keyword counts there; and what is read is the text of a bound:

    Derives t b → read item (ws ++ t ++ ws' ++ rest) = .ok (b, rest')      (read_of_derives)
    read item text = .ok (b, rest') → text = ws ++ t ++ ws' ++ rest         (derives_of_read)
                                         where rest' is rest behind blanks
-/

namespace TableSelection

open Text

/-! ## Reading a quoted name -/

theorem readQuoted_of_quotedBody {text name : List Char} (h : QuotedBody text name)
    (rest : List Char) : readQuoted (text ++ '"' :: rest) = some (name, rest) := by
  induction h with
  | nil => rfl
  | plain c hq hb _ ih =>
    rw [List.cons_append, readQuoted_cons hq hb, ih]
    rfl
  | escaped c _ ih =>
    rw [List.cons_append, List.cons_append, readQuoted, ih]
    rfl

theorem quotedBody_of_readQuoted {s name rest : List Char} (h : readQuoted s = some (name, rest)) :
    ∃ text, QuotedBody text name ∧ s = text ++ '"' :: rest := by
  induction s using readQuoted.induct generalizing name with
  | case1 => simp [readQuoted] at h
  | case2 cs =>
    simp only [readQuoted, Option.some.injEq, Prod.mk.injEq] at h
    obtain ⟨rfl, rfl⟩ := h
    exact ⟨[], .nil, rfl⟩
  | case3 c cs ih =>
    simp only [readQuoted, Option.map_eq_some_iff, Prod.mk.injEq] at h
    obtain ⟨⟨name, rest⟩, hr, rfl, rfl⟩ := h
    obtain ⟨text, hbody, rfl⟩ := ih hr
    exact ⟨'\\' :: c :: text, .escaped c hbody, rfl⟩
  | case4 c cs hq hb ih =>
    by_cases hbackslash : c = '\\'
    · -- a backslash with nothing behind it
      cases cs with
      | nil => rw [hbackslash] at h; simp [readQuoted] at h
      | cons d ds => exact absurd rfl (hb d ds hbackslash)
    · rw [readQuoted_cons hq hbackslash] at h
      simp only [Option.map_eq_some_iff, Prod.mk.injEq] at h
      obtain ⟨⟨name, rest⟩, hr, rfl, rfl⟩ := h
      obtain ⟨text, hbody, rfl⟩ := ih hr
      exact ⟨c :: text, .plain c hq hbackslash hbody, rfl⟩

namespace Bound

/-! ## Reading a token -/

variable {t : List Char} {b : Bound}

theorem endsBare_iff {c : Char} : endsBare c = true ↔ c ∈ ['-', '"', '(', ')'] :=
  List.contains_iff_mem

theorem IsToken.not_endsBare (h : IsToken t) : ∀ c ∈ t, endsBare c = false := by
  intro c hc
  refine Bool.eq_false_iff.2 fun he => ?_
  have hm := endsBare_iff.1 he
  exact h.plain c hc (by simp at hm ⊢; tauto)

theorem not_endsBare_of_blanks {ws : List Char} (hws : ∀ c ∈ ws, isBlank c = true) :
    ∀ c ∈ ws, endsBare c = false := by
  intro c hc
  have hm : c ∉ ['-', '"', '(', ')'] := not_mem_of_class (hws c hc) (by decide)
  exact Bool.eq_false_iff.2 fun he => hm (endsBare_iff.1 he)

/-- A bare token is what stands before the end of the item or the next hyphen. -/
theorem readBare_eq_ok_iff {item text token rest : List Char} :
    readBare item text = .ok (token, rest) ↔
      ∃ u, text = u ++ rest ∧ (∀ c ∈ u, endsBare c = false) ∧ Ends rest ∧ token = trim u := by
  constructor
  · intro h
    have htext := List.takeWhile_append_dropWhile (p := (!endsBare ·)) (l := text)
    have hu : ∀ c ∈ text.takeWhile (!endsBare ·), endsBare c = false := fun c hc => by
      simpa using List.mem_takeWhile_imp hc
    simp only [readBare] at h
    split at h
    · next hrest =>
      cases h
      exact ⟨_, htext.symm, hu, by rw [hrest]; exact ends_nil, rfl⟩
    · next c cs hrest =>
      split at h
      · next hc =>
        cases h
        exact ⟨_, htext.symm, hu, by rw [hrest, hc]; exact ends_hyphen cs, rfl⟩
      · cases h
  · rintro ⟨u, rfl, hu, hrest, rfl⟩
    have hu' : ∀ c ∈ u, (!endsBare c) = true := fun c hc => by rw [hu c hc]; rfl
    have htake : (u ++ rest).takeWhile (!endsBare ·) = u ++ rest.takeWhile (!endsBare ·) :=
      List.takeWhile_append_of_pos hu'
    have hdrop : (u ++ rest).dropWhile (!endsBare ·) = rest.dropWhile (!endsBare ·) :=
      List.dropWhile_append_of_pos hu'
    rw [readBare, htake, hdrop]
    rcases hrest.cases with rfl | ⟨r, rfl⟩
    · rw [List.takeWhile_nil, List.append_nil]
      rfl
    · have hh : (!endsBare '-') = false := rfl
      rw [List.takeWhile_cons_of_neg (by simp [hh]), List.dropWhile_cons_of_neg (by simp [hh]),
        List.append_nil]
      rfl

/-! ## The reader of bounds -/

variable {item ws ws' rest rest' : List Char}

theorem read_append (hws : ∀ c ∈ ws, isBlank c = true) (s : List Char) :
    read item (ws ++ s) = read item s := by
  rw [read, read, trimStart_append hws]

theorem read_quote (cs : List Char) : read item ('"' :: cs) =
    match readQuoted cs with
    | some (quoted, rest) => .ok (.name (String.ofList quoted) true, rest)
    | none => .error (.unterminatedQuote (String.ofList item)) := by
  rw [read, trimStart_cons_of_not_blank (by decide)]
  rfl

theorem read_hash (cs : List Char) : read item ('#' :: cs) = readForced item cs := by
  rw [read, trimStart_cons_of_not_blank (by decide)]
  rfl

theorem read_plain {c : Char} (hc : isBlank c = false) (hmarks : c ∉ ['-', '"', '#'])
    (cs : List Char) : read item (c :: cs) =
      match readPlaceholder? (c :: cs) with
      | some (meant, rest) => .ok (.placeholder meant, rest)
      | none => readToken item (c :: cs) := by
  simp only [List.mem_cons, List.not_mem_nil, or_false, not_or] at hmarks
  obtain ⟨hhyphen, hquote, hhash⟩ := hmarks
  rw [read, trimStart_cons_of_not_blank hc]
  exact (if_neg hhyphen).trans ((if_neg hquote).trans (if_neg hhash))

theorem readForced_eq_ok_iff {text : List Char} : readForced item text = .ok (b, rest) ↔
    ∃ digits, readBare item text = .ok (digits, rest) ∧ ofDigits? digits true = some b := by
  rw [readForced, bind_eq_ok_iff]
  constructor
  · rintro ⟨⟨digits, r⟩, hr, h⟩
    cases hd : ofDigits? digits true with
    | none => simp only [hd] at h; exact absurd h throw_ne_ok
    | some found =>
      simp only [hd, pure_eq_ok_iff, Prod.mk.injEq] at h
      obtain ⟨rfl, rfl⟩ := h
      exact ⟨digits, hr, hd⟩
  · rintro ⟨digits, hr, hd⟩
    exact ⟨(digits, rest), hr, by simp only [hd]; rfl⟩

theorem readToken_eq_ok_iff {text : List Char} : readToken item text = .ok (b, rest) ↔
    ∃ token, readBare item text = .ok (token, rest) ∧
      if token.all Char.isDigit then ofDigits? token false = some b
      else b = .name (String.ofList token) false := by
  rw [readToken, bind_eq_ok_iff]
  constructor
  · rintro ⟨⟨token, r⟩, hr, h⟩
    by_cases hall : token.all Char.isDigit = true
    · simp only [hall, if_true] at h
      cases hd : ofDigits? token false with
      | none => simp only [hd] at h; exact absurd h throw_ne_ok
      | some found =>
        simp only [hd, pure_eq_ok_iff, Prod.mk.injEq] at h
        obtain ⟨rfl, rfl⟩ := h
        exact ⟨token, hr, by rw [if_pos hall, hd]⟩
    · simp only [hall] at h
      obtain ⟨rfl, rfl⟩ := h
      exact ⟨token, hr, by rw [if_neg hall]⟩
  · rintro ⟨token, hr, h⟩
    refine ⟨(token, rest), hr, ?_⟩
    by_cases hall : token.all Char.isDigit = true
    · rw [if_pos hall] at h
      simp only [hall, if_true, h]
      rfl
    · rw [if_neg hall] at h
      simp only [hall, h]
      rfl

/-! ## What is derived is read -/

theorem readBare_of_isToken (ht : IsToken t) (hws : ∀ c ∈ ws, isBlank c = true)
    (hws' : ∀ c ∈ ws', isBlank c = true) (hrest : Ends rest) :
    readBare item (ws ++ t ++ ws' ++ rest) = .ok (t, rest) := by
  refine readBare_eq_ok_iff.2 ⟨ws ++ t ++ ws', rfl, ?_, hrest, ?_⟩
  · intro c hc
    rcases List.mem_append.1 hc with hc | hc
    · rcases List.mem_append.1 hc with hc | hc
      · exact not_endsBare_of_blanks hws c hc
      · exact ht.not_endsBare c hc
    · exact not_endsBare_of_blanks hws' c hc
  · exact (trim_append_append_of_isTrimmed ht.isTrimmed hws hws').symm

/-- No keyword counts in front of a token that is none, unless it goes on behind the token. -/
theorem readPlaceholder?_token (ht : IsToken t) (hkw : ∀ meant : Placeholder, ¬meant.IsSpelled t)
    (hlongest : ∀ (meant : Placeholder) kw r, t ++ rest = kw ++ r → meant.Counts kw r →
      kw.length ≤ t.length) : readPlaceholder? (t ++ rest) = none := by
  refine readPlaceholder?_eq_none_iff.2 fun meant kw r he hc => ?_
  have hlen := hlongest meant kw r he hc
  rcases List.append_eq_append_iff.1 he with ⟨a, rfl, -⟩ | ⟨a, rfl, rfl⟩
  · have ha : a = [] := by
      rw [List.length_append] at hlen
      exact List.length_eq_zero_iff.1 (by omega)
    rw [ha, List.append_nil] at hc
    exact hkw meant hc.1
  · have hhyphen : '-' ∉ a := fun hm => ht.plain _ (List.mem_append_right kw hm) (by decide)
    have hlast : ∀ c ∈ a.getLast?, isBlank c = false := by
      intro c hm
      refine (isTrimmed_iff.1 ht.isTrimmed).2 c ?_
      rw [List.getLast?_append, Option.mem_def.1 hm]
      rfl
    have ha := eq_nil_of_ends_trimStart hhyphen hlast hc.2
    rw [ha, List.append_nil] at hkw
    exact hkw meant hc.1

/-- A bare text is read as an index or a name. -/
theorem read_of_isToken (ht : IsToken t) (hhash : t.head? ≠ some '#')
    (hkw : ∀ meant : Placeholder, ¬meant.IsSpelled t) (hws' : ∀ c ∈ ws', isBlank c = true)
    (hrest : Ends rest)
    (hlongest : ∀ (meant : Placeholder) kw r, t ++ ws' ++ rest = kw ++ r → meant.Counts kw r →
      kw.length ≤ t.length)
    (hb : if t.all Char.isDigit then ofDigits? t false = some b
      else b = .name (String.ofList t) false) :
    read item (t ++ ws' ++ rest) = .ok (b, rest) := by
  have hnone : readPlaceholder? (t ++ ws' ++ rest) = none := by
    rw [List.append_assoc] at hlongest ⊢
    exact readPlaceholder?_token ht hkw hlongest
  have hbare : readBare item (t ++ ws' ++ rest) = .ok (t, rest) :=
    readBare_of_isToken ht (by simp : ∀ c ∈ ([] : List Char), isBlank c = true) hws' hrest
  have htoken := readToken_eq_ok_iff.2 ⟨t, hbare, hb⟩
  obtain ⟨c, cs, rfl⟩ := List.exists_cons_of_ne_nil ht.ne_nil
  have hmarks : c ∉ ['-', '"', '#'] := by
    intro hm
    have hplain := ht.plain c List.mem_cons_self
    rcases List.mem_cons.1 hm with rfl | hm
    · exact hplain (by decide)
    · rcases List.mem_cons.1 hm with rfl | hm
      · exact hplain (by decide)
      · exact hhash (by rw [List.mem_singleton.1 hm]; rfl)
  have hc : isBlank c = false := (isTrimmed_iff.1 ht.isTrimmed).1 c rfl
  rw [List.cons_append, List.cons_append] at hnone htoken ⊢
  rw [read_plain hc hmarks, hnone, htoken]

/-- The text of a bound is read as the bound if no longer keyword counts there. -/
theorem read_of_derives (item : List Char) (h : Derives t b) (hws : ∀ c ∈ ws, isBlank c = true)
    (hws' : ∀ c ∈ ws', isBlank c = true) (hrest : Ends rest)
    (hlongest : ∀ (meant : Placeholder) kw r, t ++ ws' ++ rest = kw ++ r → meant.Counts kw r →
      kw.length ≤ t.length) :
    ∃ rest', read item (ws ++ t ++ ws' ++ rest) = .ok (b, rest') ∧ trimStart rest' = rest := by
  have htrim : trimStart (ws' ++ rest) = rest := by
    rw [trimStart_append hws', hrest.trimStart_eq]
  rw [List.append_assoc, List.append_assoc, read_append hws, ← List.append_assoc]
  cases h with
  | @keyword _ word meant isKeyword spelled =>
    have hkw := derives_placeholder_iff.1 (.keyword isKeyword spelled)
    have hcounts : meant.Counts t (ws' ++ rest) := ⟨hkw, by rw [htrim]; exact hrest⟩
    have hread := readPlaceholder?_eq_some_iff.2
      ⟨t, List.append_assoc .., hcounts, hlongest⟩
    obtain ⟨c, cs, rfl, halpha⟩ := hkw.exists_cons
    have hmarks : c ∉ ['-', '"', '#'] := not_mem_of_class halpha (by decide)
    refine ⟨ws' ++ rest, ?_, htrim⟩
    rw [List.cons_append, List.cons_append] at hread ⊢
    rw [read_plain (hkw.not_isBlank List.mem_cons_self) hmarks, hread]
  | index writes =>
    have ht := isToken_of_writesPosition writes
    have hhash : t.head? ≠ some '#' := by
      intro hh
      have hd := writes.isDigit _ (List.mem_of_head? hh)
      exact absurd hd (by decide)
    refine ⟨rest, ?_, hrest.trimStart_eq⟩
    apply read_of_isToken ht hhash (not_isSpelled_of_writesPosition writes) hws' hrest hlongest
    rw [if_pos (List.all_eq_true.2 writes.isDigit), ofDigits?_eq_some_iff]
    exact ⟨writes, rfl⟩
  | @forced ws₀ text blanks writes =>
    have hbare : readBare item (ws₀ ++ text ++ ws' ++ rest) = .ok (text, rest) :=
      readBare_of_isToken (isToken_of_writesPosition writes) (blanks_iff.1 blanks) hws' hrest
    refine ⟨rest, ?_, hrest.trimStart_eq⟩
    show read item ('#' :: (ws₀ ++ text ++ ws' ++ rest)) = _
    rw [read_hash, readForced_eq_ok_iff]
    exact ⟨text, hbare, ofDigits?_eq_some_iff.2 ⟨writes, rfl⟩⟩
  | @quoted text name body =>
    refine ⟨ws' ++ rest, ?_, htrim⟩
    have htext : '"' :: (text ++ ['"']) ++ ws' ++ rest =
        '"' :: (text ++ '"' :: (ws' ++ rest)) := by
      simp
    rw [htext, read_quote, readQuoted_of_quotedBody body]
  | bare isBare =>
    obtain ⟨ht, hhash, hdigits, hkw⟩ := bareName_iff.1 isBare
    refine ⟨rest, ?_, hrest.trimStart_eq⟩
    apply read_of_isToken ht hhash hkw hws' hrest hlongest
    rw [if_neg (by rw [hdigits]; simp)]

/-! ## What is read is derived -/

theorem derives_of_readForced {text : List Char} (h : readForced item text = .ok (b, rest')) :
    ∃ u ws', (∀ c ∈ ws', isBlank c = true) ∧ Derives ('#' :: u) b ∧
      text = u ++ ws' ++ trimStart rest' := by
  obtain ⟨digits, hbare, hd⟩ := readForced_eq_ok_iff.1 h
  obtain ⟨hwrites, rfl⟩ := ofDigits?_eq_some_iff.1 hd
  obtain ⟨u, rfl, -, hrest, rfl⟩ := readBare_eq_ok_iff.1 hbare
  obtain ⟨ws, ws', hws, hws', hu⟩ := exists_blanks_trim u
  refine ⟨ws ++ trim u, ws', hws', .forced (blanks_iff.2 hws) hwrites, ?_⟩
  rw [hrest.trimStart_eq, ← hu]

theorem derives_of_token {token : List Char} (hne : token ≠ [])
    (ht : isTrimmed token = true) (hplain : ∀ c ∈ token, endsBare c = false) (hcomma : ',' ∉ token)
    (hhash : token.head? ≠ some '#') (hkw : ∀ meant : Placeholder, ¬meant.IsSpelled token)
    (hb : if token.all Char.isDigit then ofDigits? token false = some b
      else b = .name (String.ofList token) false) : Derives token b := by
  split at hb
  · obtain ⟨hwrites, rfl⟩ := ofDigits?_eq_some_iff.1 hb
    exact .index hwrites
  · next hdigits =>
    subst hb
    have hname : token.all Char.isDigit = false := by simpa using hdigits
    refine .bare (bareName_iff.2 ⟨⟨hne, ht, fun c hc hm => ?_⟩, hhash, hname, hkw⟩)
    by_cases he : c = ','
    · exact hcomma (he ▸ hc)
    · have hends : endsBare c = true := endsBare_iff.2 (by simp at hm ⊢; tauto)
      rw [hplain c hc] at hends
      cases hends

theorem derives_of_readToken {c : Char} {cs : List Char} (hc : isBlank c = false)
    (hmarks : c ∉ ['-', '"', '#']) (hcomma : ',' ∉ unquoted (c :: cs))
    (hnone : readPlaceholder? (c :: cs) = none) (h : readToken item (c :: cs) = .ok (b, rest')) :
    ∃ t ws', (∀ c ∈ ws', isBlank c = true) ∧ Derives t b ∧
      c :: cs = t ++ ws' ++ trimStart rest' := by
  obtain ⟨token, hbare, hb⟩ := readToken_eq_ok_iff.1 h
  obtain ⟨u, he, hplain, hrest, rfl⟩ := readBare_eq_ok_iff.1 hbare
  -- the token starts with the first character, which is neither blank nor the hyphen behind it
  obtain ⟨us, rfl⟩ : ∃ us, u = c :: us := by
    cases u with
    | nil =>
      rw [List.nil_append] at he
      have hhyphen : c = '-' := hrest c (by rw [← he]; rfl)
      exact absurd (by rw [hhyphen]; exact List.mem_cons_self) hmarks
    | cons d us =>
      rw [List.cons_append, List.cons.injEq] at he
      exact ⟨us, by rw [he.1]⟩
  obtain ⟨ws', hws', hu⟩ := exists_blanks_trimEnd (c :: us)
  have htrim : trim (c :: us) = trimEnd (c :: us) := by
    rw [trim, trimStart_cons_of_not_blank hc]
  rw [← htrim] at hu
  have hne : trim (c :: us) ≠ [] := fun hnil => by
    have hb := trim_eq_nil_iff.1 hnil c List.mem_cons_self
    rw [hc] at hb
    cases hb
  have hmem : ∀ d ∈ trim (c :: us), d ∈ c :: us := fun d hd => by
    rw [hu]
    exact List.mem_append_left _ hd
  have htext : c :: cs = trim (c :: us) ++ (ws' ++ rest') := by
    rw [he, ← List.append_assoc, ← hu]
  refine ⟨trim (c :: us), ws', hws', ?_, by rw [hrest.trimStart_eq, htext, List.append_assoc]⟩
  refine derives_of_token hne (isTrimmed_trim _) (fun d hd => hplain d (hmem d hd)) ?_ ?_ ?_ hb
  · intro hd
    have hquote : '"' ∉ c :: us := fun hm => by
      have hends := hplain _ hm
      revert hends
      decide
    rw [he, (closesQuotes_of_not_mem hquote).unquoted_append, unquoted_of_not_mem hquote] at hcomma
    exact hcomma (List.mem_append_left _ (hmem _ hd))
  · obtain ⟨d, ds, hd⟩ := List.exists_cons_of_ne_nil hne
    rw [hd, List.cons_append, List.cons.injEq] at htext
    rw [hd, ← htext.1]
    rintro ⟨⟩
    exact hmarks (by decide)
  · intro meant hkw
    refine readPlaceholder?_eq_none_iff.1 hnone meant _ _ htext ⟨hkw, ?_⟩
    rw [trimStart_append hws', hrest.trimStart_eq]
    exact hrest

/-- What is read as a bound is the text of that bound, with blanks around it. -/
theorem derives_of_read {text : List Char} (hcomma : ',' ∉ unquoted text)
    (h : read item text = .ok (b, rest')) : ∃ ws t ws', (∀ c ∈ ws, isBlank c = true) ∧
      (∀ c ∈ ws', isBlank c = true) ∧ Derives t b ∧ text = ws ++ t ++ ws' ++ trimStart rest' := by
  obtain ⟨ws, hws, htext⟩ := exists_blanks_trimStart text
  suffices hmain : ∃ t ws', (∀ c ∈ ws', isBlank c = true) ∧ Derives t b ∧
      trimStart text = t ++ ws' ++ trimStart rest' by
    obtain ⟨t, ws', hws', hd, ht⟩ := hmain
    refine ⟨ws, t, ws', hws, hws', hd, ?_⟩
    rw [List.append_assoc, List.append_assoc, ← List.append_assoc t, ← ht]
    exact htext
  rw [htext, read_append hws] at h
  rw [htext, (closesQuotes_of_blanks hws).unquoted_append] at hcomma
  replace hcomma := fun hm => hcomma (List.mem_append_right _ hm)
  cases ht : trimStart text with
  | nil => rw [ht, read] at h; cases h
  | cons c cs =>
    have hc := (trimStart_eq_cons ht).1
    rw [ht] at h hcomma
    by_cases hhyphen : c = '-'
    · rw [read, trimStart_cons_of_not_blank hc] at h
      simp only [hhyphen, if_true] at h
      cases h
    by_cases hquote : c = '"'
    · subst hquote
      rw [read_quote] at h
      cases hq : readQuoted cs with
      | none => rw [hq] at h; cases h
      | some found =>
        obtain ⟨name, rest⟩ := found
        rw [hq] at h
        cases h
        obtain ⟨body, hbody, rfl⟩ := quotedBody_of_readQuoted hq
        obtain ⟨ws', hws', hrest⟩ := exists_blanks_trimStart rest'
        refine ⟨'"' :: (body ++ ['"']), ws', hws', .quoted hbody, ?_⟩
        rw [List.append_assoc, ← hrest]
        simp
    by_cases hhash : c = '#'
    · subst hhash
      rw [read_hash] at h
      obtain ⟨u, ws', hws', hd, rfl⟩ := derives_of_readForced h
      exact ⟨'#' :: u, ws', hws', hd, rfl⟩
    have hmarks : c ∉ ['-', '"', '#'] := by simp [hhyphen, hquote, hhash]
    rw [read_plain hc hmarks] at h
    cases hp : readPlaceholder? (c :: cs) with
    | none =>
      rw [hp] at h
      exact derives_of_readToken hc hmarks hcomma hp h
    | some found =>
      obtain ⟨meant, rest⟩ := found
      rw [hp] at h
      cases h
      obtain ⟨kw, he, hcounts, -⟩ := readPlaceholder?_eq_some_iff.1 hp
      obtain ⟨ws', hws', hrest⟩ := exists_blanks_trimStart rest'
      refine ⟨kw, ws', hws', derives_placeholder_iff.2 hcounts.1, ?_⟩
      rw [List.append_assoc, ← hrest]
      exact he

end Bound

end TableSelection
