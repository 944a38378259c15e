import TableSelection.Proofs.Range.Reading

/-!
# Three scans for quotes

The quotes of a body are followed three times: to look for parentheses outside them, to cut the body
at the commas outside them, and to read the names inside them. The three agree. The cut is at just
the commas that stand outside quotes, every piece closes its quotes, and in a piece no name is
without its closing quote:

    (i, c) ∈ unquotedAt s ↔ c is at i in s, and the text before it closes its quotes
                                                                            (mem_unquotedAt)
    cuts (splitItems s) = the positions of the commas in unquotedAt s       (cuts_splitItems)
    QuoteState.inside.run s = .outside → readQuoted s reads a name          (exists_readQuoted)

So the reader of items never meets an open quote: only the cut does, and then it reports the body as
a whole (`quote_scans_agree`).
-/

namespace TableSelection

open Text

namespace Text

variable {q : QuoteState} {s : List Char}

/-! ## Where the commas are -/

/-- The characters of a text that stand outside quotes, each with its position, when the text starts
at a position in state `q`; the quotes themselves are left out. -/
def unquotedFromAt (q : QuoteState) (position : Nat) : List Char → List (Nat × Char)
  | [] => []
  | c :: cs =>
      if q = .outside ∧ c ≠ '"' then (position, c) :: unquotedFromAt (q.step c) (position + 1) cs
      else unquotedFromAt (q.step c) (position + 1) cs

def unquotedAt (s : List Char) : List (Nat × Char) := unquotedFromAt .outside 0 s

/-- The positions of the separators between pieces, when the first piece starts at a position. -/
def cutsFrom (position : Nat) : List (List Char) → List Nat
  | [] | [_] => []
  | piece :: next :: rest =>
      (position + piece.length) :: cutsFrom (position + piece.length + 1) (next :: rest)

def cuts (pieces : List (List Char)) : List Nat := cutsFrom 0 pieces

theorem map_unquotedFromAt (q : QuoteState) (position : Nat) (s : List Char) :
    (unquotedFromAt q position s).map Prod.snd = unquotedFrom q s := by
  induction s generalizing q position with
  | nil => rfl
  | cons c cs ih =>
    rw [unquotedFromAt, unquotedFrom]
    split
    · rw [List.map_cons, ih]
    · exact ih _ _

/-- By induction on the text: a character stands outside quotes if the text before it ends there. -/
theorem mem_unquotedFromAt {position i : Nat} {c : Char} : (i, c) ∈ unquotedFromAt q position s ↔
    ∃ k, i = position + k ∧ s[k]? = some c ∧ c ≠ '"' ∧ q.run (s.take k) = .outside := by
  induction s generalizing q position with
  | nil => simp [unquotedFromAt]
  | cons d cs ih =>
    have hfirst : (i, c) ∈ unquotedFromAt q position (d :: cs) ↔
        (i = position ∧ d = c ∧ c ≠ '"' ∧ q = .outside) ∨
          (i, c) ∈ unquotedFromAt (q.step d) (position + 1) cs := by
      rw [unquotedFromAt]
      split
      · next houtside =>
        rw [List.mem_cons, Prod.mk.injEq]
        refine or_congr_left (and_congr_right fun _ => ⟨?_, fun h => h.1.symm⟩)
        rintro rfl
        exact ⟨rfl, houtside.2, houtside.1⟩
      · next hquoted =>
        refine (or_iff_right ?_).symm
        rintro ⟨-, rfl, hc, houtside⟩
        exact hquoted ⟨houtside, hc⟩
    rw [hfirst, ih]
    refine Iff.trans (or_congr ?_ (exists_congr fun k => ?_)) Nat.or_exists_add_one
    · simp [QuoteState.run]
    · rw [List.getElem?_cons_succ, List.take_succ_cons, QuoteState.run_cons, Nat.add_assoc,
        Nat.add_comm 1]

theorem mem_unquotedAt {i : Nat} {c : Char} : (i, c) ∈ unquotedAt s ↔
    s[i]? = some c ∧ c ≠ '"' ∧ ClosesQuotes (s.take i) := by
  simp [unquotedAt, mem_unquotedFromAt, ClosesQuotes]

theorem cutsFrom_cons_cons (position : Nat) (c : Char) (piece : List Char)
    (rest : List (List Char)) :
    cutsFrom position ((c :: piece) :: rest) = cutsFrom (position + 1) (piece :: rest) := by
  cases rest with
  | nil => rfl
  | cons next rest =>
    have hlength : position + (c :: piece).length = position + 1 + piece.length := by
      rw [List.length_cons]
      omega
    rw [cutsFrom, cutsFrom, hlength]

/-- By induction on the text: it is cut at the next character if that is a comma outside quotes, and
otherwise the character joins the piece behind it. -/
theorem cutsFrom_splitItemsFrom (q : QuoteState) (position : Nat) (s : List Char) :
    cutsFrom position (splitItemsFrom q s) =
      ((unquotedFromAt q position s).filter (·.2 = ',')).map Prod.fst := by
  induction s generalizing q position with
  | nil => rfl
  | cons c cs ih =>
    obtain ⟨piece, rest, hsplit⟩ := List.exists_cons_of_ne_nil (splitItemsFrom_ne_nil (q.step c) cs)
    have hrest := ih (q.step c) (position + 1)
    rw [hsplit] at hrest
    by_cases hcomma : q = .outside ∧ c = ','
    · obtain ⟨rfl, rfl⟩ := hcomma
      have hcut : splitItemsFrom .outside (',' :: cs) = [] :: piece :: rest :=
        (splitItemsFrom_comma cs).trans (congrArg _ hsplit)
      rw [hcut, unquotedFromAt, if_pos ⟨rfl, by decide⟩]
      simpa [cutsFrom] using hrest
    · rw [splitItemsFrom_cons hcomma hsplit, cutsFrom_cons_cons, hrest, unquotedFromAt]
      split
      · next houtside =>
        have hc : c ≠ ',' := fun e => hcomma ⟨houtside.1, e⟩
        rw [List.filter_cons_of_neg (by simpa using hc)]
      · rfl

/-- A text is cut at just the commas outside quotes. -/
theorem cuts_splitItems (s : List Char) :
    cuts (splitItems s) = ((unquotedAt s).filter (·.2 = ',')).map Prod.fst :=
  cutsFrom_splitItemsFrom .outside 0 s

/-! ## Names in quotes -/

/-- Behind an opening quote a name is read, if all quotes are closed in the end. -/
theorem exists_readQuoted (h : QuoteState.inside.run s = .outside) :
    ∃ name rest, readQuoted s = some (name, rest) := by
  induction s using readQuoted.induct with
  | case1 => cases h
  | case2 cs => exact ⟨[], cs, rfl⟩
  | case3 c cs ih =>
    obtain ⟨name, rest, hread⟩ := ih h
    exact ⟨c :: name, rest, by rw [readQuoted, hread]; rfl⟩
  | case4 c cs hquote hescape ih =>
    by_cases hbackslash : c = '\\'
    · -- a backslash with nothing behind it leaves the quote open
      subst hbackslash
      cases cs with
      | nil => cases h
      | cons d ds => exact absurd rfl (hescape d ds rfl)
    · rw [QuoteState.run_cons, QuoteState.step_inside hquote hbackslash] at h
      obtain ⟨name, rest, hread⟩ := ih h
      exact ⟨c :: name, rest, by rw [readQuoted_cons hquote hbackslash, hread]; rfl⟩

end Text

/-! ## Bounds and items -/

namespace Bound

variable {item text rest : List Char} {b : Bound} {t : String}

theorem readBare_ne_unterminatedQuote :
    readBare item text ≠ .error (.unterminatedQuote t) := by
  intro h
  simp only [readBare] at h
  split at h
  · cases h
  · split at h <;> cases h

theorem readForced_ne_unterminatedQuote :
    readForced item text ≠ .error (.unterminatedQuote t) := by
  intro h
  rcases bind_eq_error_iff.1 h with h | ⟨⟨digits, rest⟩, -, h⟩
  · exact readBare_ne_unterminatedQuote h
  · dsimp only at h
    split at h <;> cases h

theorem readToken_ne_unterminatedQuote :
    readToken item text ≠ .error (.unterminatedQuote t) := by
  intro h
  rcases bind_eq_error_iff.1 h with h | ⟨⟨token, rest⟩, -, h⟩
  · exact readBare_ne_unterminatedQuote h
  · dsimp only at h
    split at h
    · split at h <;> cases h
    · cases h

/-- Only a name without its closing quote is reported as an open quote. -/
theorem exists_quote_of_read (h : read item text = .error (.unterminatedQuote t)) :
    ∃ cs, trimStart text = '"' :: cs ∧ readQuoted cs = none := by
  rw [read] at h
  cases htext : trimStart text with
  | nil => simp only [htext] at h; cases h
  | cons c cs =>
    simp only [htext] at h
    split at h
    · cases h
    split at h
    · next hquote =>
      cases hread : readQuoted cs with
      | none => exact ⟨cs, by rw [hquote], hread⟩
      | some found => rw [hread] at h; cases h
    split at h
    · exact absurd h readForced_ne_unterminatedQuote
    · cases hread : readPlaceholder? (c :: cs) with
      | none => rw [hread] at h; exact absurd h readToken_ne_unterminatedQuote
      | some found => rw [hread] at h; cases h

theorem read_ne_unterminatedQuote (hclosed : ClosesQuotes text) :
    read item text ≠ .error (.unterminatedQuote t) := by
  intro h
  obtain ⟨cs, htext, hnone⟩ := exists_quote_of_read h
  have hrun : QuoteState.inside.run cs = .outside := by
    have htrim := hclosed.trimStart
    rwa [htext] at htrim
  obtain ⟨name, rest, hread⟩ := exists_readQuoted hrun
  rw [hnone] at hread
  cases hread

/-- A bound is read up to a place outside quotes. -/
theorem closesQuotes_of_read (hcomma : ',' ∉ unquoted text) (hclosed : ClosesQuotes text)
    (h : read item text = .ok (b, rest)) : ClosesQuotes (trimStart rest) := by
  obtain ⟨ws, u, ws', hws, hws', hd, htext⟩ := derives_of_read hcomma h
  have hread : ClosesQuotes (ws ++ u ++ ws') :=
    ((isPlain_of_blanks hws).append hd.isPlain).closesQuotes.append (closesQuotes_of_blanks hws')
  rw [htext] at hclosed
  exact hread.of_append hclosed

end Bound

/-- An item that closes its quotes has no name without its closing quote. -/
theorem Segment.read_ne_unterminatedQuote {item : List Char} {t : String}
    (hcomma : ',' ∉ unquoted item) (hclosed : ClosesQuotes item) :
    read item ≠ .error (.unterminatedQuote t) := by
  intro h
  rcases bind_eq_error_iff.1 h with h | ⟨⟨start, rest⟩, hstart, h⟩
  · exact Bound.read_ne_unterminatedQuote hclosed h
  · have hrest := Bound.closesQuotes_of_read hcomma hclosed hstart
    dsimp only at h
    cases htext : trimStart rest with
    | nil => rw [htext] at h; cases h
    | cons c cs =>
      simp only [htext] at h hrest
      split at h
      · next hhyphen =>
        subst hhyphen
        -- the second bound starts behind the hyphen, which is outside quotes
        have hcs : ClosesQuotes cs := hrest
        rcases bind_eq_error_iff.1 h with h | ⟨⟨stop, rest'⟩, -, h⟩
        · exact Bound.read_ne_unterminatedQuote hcs h
        · dsimp only at h
          split at h <;> cases h
      · cases h

namespace Range

variable {body text : List Char} {items : List (List Char)} {t : String}

/-! ## Bodies and ranges -/

/-- The items of a body close their quotes and have no comma outside them. -/
theorem closesQuotes_of_readItems (h : readItems body = .ok items) :
    ∀ item ∈ items, ClosesQuotes item ∧ ',' ∉ unquoted item := by
  obtain ⟨hclosed, -, rfl⟩ := readItems_eq_ok_iff.1 h
  refine List.forall_mem_map.2 fun piece hpiece => ?_
  obtain ⟨hquotes, hcomma⟩ := closesQuotes_of_mem_splitItems hclosed hpiece
  exact ⟨hquotes.trim, fun hm => hcomma (mem_unquoted_of_trim hm)⟩

theorem readItems_eq_unterminatedQuote_iff :
    readItems body = .error (.unterminatedQuote t) ↔
      ¬ClosesQuotes body ∧ t = String.ofList body := by
  rw [readItems]
  split
  · next hopen =>
    rw [and_iff_right hopen, Except.error.injEq, SyntaxError.unterminatedQuote.injEq, eq_comm]
  · next hclosed =>
    refine iff_of_false (fun h => ?_) fun h => hclosed h.1
    dsimp only at h
    split at h <;> cases h

/-- Of the readers of a body only the cut into items reports an open quote. -/
theorem readBody_eq_unterminatedQuote_iff :
    readBody body = .error (.unterminatedQuote t) ↔
      readItems body = .error (.unterminatedQuote t) := by
  by_cases hblank : ∀ c ∈ body, isBlank c = true
  · rw [readBody_of_blanks hblank, readItems_eq_unterminatedQuote_iff]
    exact iff_of_false nofun fun h => h.1 (closesQuotes_of_blanks hblank)
  rw [readBody_of_not_blank hblank, bind_eq_error_iff]
  refine or_iff_left ?_
  rintro ⟨items, hitems, hread⟩
  obtain ⟨before, item, after, rfl, -, hfails⟩ := mapM_eq_error_iff.1 hread
  obtain ⟨hclosed, hcomma⟩ := closesQuotes_of_readItems hitems item (by simp)
  exact Segment.read_ne_unterminatedQuote hcomma hclosed hfails

theorem splitInversion_ne_unterminatedQuote :
    splitInversion text ≠ .error (.unterminatedQuote t) := by
  intro h
  rw [splitInversion] at h
  split at h
  · cases h
  split at h
  · cases h
  dsimp only at h
  split at h
  · cases h
  split at h <;> cases h

theorem read_eq_unterminatedQuote_iff : read text = .error (.unterminatedQuote t) ↔
    ∃ body inverted, splitInversion (trim text) = .ok (body, inverted) ∧
      readItems body = .error (.unterminatedQuote t) := by
  rw [read, bind_eq_error_iff]
  simp only [splitInversion_ne_unterminatedQuote, false_or, bind_eq_error_iff, pure_ne_error,
    and_false, exists_false, or_false, readBody_eq_unterminatedQuote_iff, Prod.exists]

/-! ## Top theorem -/

/-- **The three scans for quotes agree.** If a body is cut into items, the cut is at just the commas
that stand outside quotes, every piece closes its quotes, with and without the blanks around it, and
reading the items meets no open quote. So an open quote in a range is always found by the cut of the
body, and the error holds the whole body. -/
theorem quote_scans_agree :
    (∀ body items, readItems body = .ok items →
      [','].intercalate (splitItems body) = body ∧
      (unquotedAt body).map Prod.snd = unquoted body ∧
      (∀ i c, (i, c) ∈ unquotedAt body ↔
        body[i]? = some c ∧ c ≠ '"' ∧ ClosesQuotes (body.take i)) ∧
      cuts (splitItems body) = ((unquotedAt body).filter (·.2 = ',')).map Prod.fst ∧
      (∀ piece ∈ splitItems body, ClosesQuotes piece) ∧
      items = (splitItems body).map trim ∧
      ∀ item ∈ items, ClosesQuotes item ∧
        ∀ t, Segment.read item ≠ .error (.unterminatedQuote t)) ∧
    ∀ text t, parse text = .error (.unterminatedQuote t) ↔
      ∃ body inverted, splitInversion (trim text.toList) = .ok (body, inverted) ∧
        readItems body = .error (.unterminatedQuote t) ∧ t = String.ofList body := by
  refine ⟨fun body items h => ?_, fun text t => ?_⟩
  · obtain ⟨hclosed, -, hitems⟩ := readItems_eq_ok_iff.1 h
    refine ⟨intercalate_splitItems body, map_unquotedFromAt .outside 0 body,
      fun i c => mem_unquotedAt, cuts_splitItems body,
      fun piece hpiece => (closesQuotes_of_mem_splitItems hclosed hpiece).1, hitems,
      fun item hitem => ?_⟩
    obtain ⟨hquotes, hcomma⟩ := closesQuotes_of_readItems h item hitem
    exact ⟨hquotes, fun t => Segment.read_ne_unterminatedQuote hcomma hquotes⟩
  · rw [parse, read_eq_unterminatedQuote_iff]
    refine exists_congr fun body => exists_congr fun inverted => and_congr_right fun _ => ?_
    exact (and_iff_left_of_imp fun h => (readItems_eq_unterminatedQuote_iff.1 h).2).symm

/-- A backslash in front of a comma, a quoted comma and an escaped quote; and an inversion with an
open quote. -/
theorem quote_scans_agree_escaped :
    let body := "x\\,\"a,\\\"b\" - \"c\",#1".toList
    let items := ["x\\", "\"a,\\\"b\" - \"c\"", "#1"].map String.toList
    readItems body = .ok items ∧ cuts (splitItems body) = [2, 16] ∧
      (∀ item ∈ items, ClosesQuotes item ∧
        ∀ t, Segment.read item ≠ .error (.unterminatedQuote t)) ∧
      parse "inv(1,\"a)" = .error (.unterminatedQuote "1,\"a") ∧
      ∃ body inverted, splitInversion (trim "inv(1,\"a)".toList) = .ok (body, inverted) ∧
        readItems body = .error (.unterminatedQuote "1,\"a") := by
  intro body items
  have hitems : readItems body = .ok items := by decide
  have hparse : parse "inv(1,\"a)" = .error (.unterminatedQuote "1,\"a") := by rfl
  obtain ⟨-, -, -, hcuts, -, -, hread⟩ := quote_scans_agree.1 body items hitems
  obtain ⟨inner, inverted, hsplit, hopen, -⟩ := (quote_scans_agree.2 _ _).1 hparse
  exact ⟨hitems, hcuts.trans (by decide), hread, hparse, inner, inverted, hsplit, hopen⟩

end Range

end TableSelection
