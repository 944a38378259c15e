import TableSelection.Proofs.Text.Trimming
import TableSelection.Text.Quoted

/-!
# Quotes in texts that are put together

The quotes of a text are followed piece by piece: behind a text that closes its quotes the rest is
read as if it stood alone. So the cut at the commas outside quotes takes apart what commas joined,
and gives pieces that close their quotes themselves:

    splitItems (items joined with commas) = items        (splitItems_intercalate)
    every item of splitItems s closes its quotes          (closesQuotes_of_mem_splitItems)
-/

namespace TableSelection.Text

variable {q : QuoteState} {s t ws ws' : List Char} {items : List (List Char)}

/-! ## The state behind a text -/

theorem QuoteState.run_cons (q : QuoteState) (c : Char) (s : List Char) :
    q.run (c :: s) = (q.step c).run s :=
  rfl

/-- Only a quote and a backslash are more than part of the name inside quotes. -/
theorem QuoteState.step_inside {c : Char} (hquote : c ≠ '"') (hbackslash : c ≠ '\\') :
    QuoteState.inside.step c = .inside := by
  rw [step, if_neg hquote, if_neg hbackslash]

theorem QuoteState.run_append (q : QuoteState) (s t : List Char) :
    q.run (s ++ t) = (q.run s).run t :=
  List.foldl_append

theorem unquotedFrom_append (q : QuoteState) (s t : List Char) :
    unquotedFrom q (s ++ t) = unquotedFrom q s ++ unquotedFrom (q.run s) t := by
  induction s generalizing q with
  | nil => rfl
  | cons c cs ih =>
    show (if q = .outside ∧ c ≠ '"' then c :: unquotedFrom (q.step c) (cs ++ t)
      else unquotedFrom (q.step c) (cs ++ t)) =
      (if q = .outside ∧ c ≠ '"' then c :: unquotedFrom (q.step c) cs
        else unquotedFrom (q.step c) cs) ++ unquotedFrom ((q.step c).run cs) t
    rw [ih]
    split <;> rfl

theorem ClosesQuotes.append (hs : ClosesQuotes s) (ht : ClosesQuotes t) :
    ClosesQuotes (s ++ t) := by
  rw [ClosesQuotes, QuoteState.run_append, hs, ht]

theorem ClosesQuotes.of_append (hs : ClosesQuotes s) (h : ClosesQuotes (s ++ t)) :
    ClosesQuotes t := by
  rwa [ClosesQuotes, QuoteState.run_append, hs] at h

theorem ClosesQuotes.unquoted_append (hs : ClosesQuotes s) :
    unquoted (s ++ t) = unquoted s ++ unquoted t := by
  rw [unquoted, unquotedFrom_append, hs, ← unquoted, ← unquoted]

/-! ## Texts without quotes -/

theorem closesQuotes_of_not_mem (h : '"' ∉ s) : ClosesQuotes s := by
  induction s with
  | nil => rfl
  | cons c cs ih =>
    have hc : c ≠ '"' := fun e => h (by rw [e]; exact List.mem_cons_self)
    have hstep : QuoteState.outside.step c = .outside := if_neg hc
    show (QuoteState.outside.step c).run cs = .outside
    rw [hstep]
    exact ih fun hm => h (List.mem_cons_of_mem _ hm)

theorem unquoted_of_not_mem (h : '"' ∉ s) : unquoted s = s := by
  induction s with
  | nil => rfl
  | cons c cs ih =>
    have hc : c ≠ '"' := fun e => h (by rw [e]; exact List.mem_cons_self)
    have hstep : QuoteState.outside.step c = .outside := if_neg hc
    have hcs : unquotedFrom .outside cs = cs := ih fun hm => h (List.mem_cons_of_mem _ hm)
    rw [unquoted, unquotedFrom, if_pos ⟨rfl, hc⟩, hstep, hcs]

theorem not_mem_of_blanks {c : Char} (hc : isBlank c = false) (hws : ∀ c ∈ ws, isBlank c = true) :
    c ∉ ws := fun hm => by
  rw [hws c hm] at hc
  cases hc

theorem closesQuotes_of_blanks (hws : ∀ c ∈ ws, isBlank c = true) : ClosesQuotes ws :=
  closesQuotes_of_not_mem (not_mem_of_blanks (by decide) hws)

theorem unquoted_of_blanks (hws : ∀ c ∈ ws, isBlank c = true) : unquoted ws = ws :=
  unquoted_of_not_mem (not_mem_of_blanks (by decide) hws)

theorem unquoted_append_of_blanks (hws : ∀ c ∈ ws, isBlank c = true) :
    unquoted (ws ++ s) = ws ++ unquoted s := by
  rw [(closesQuotes_of_blanks hws).unquoted_append, unquoted_of_blanks hws]

/-- Blanks close no quotes. -/
theorem eq_outside_of_run_blanks (hws : ∀ c ∈ ws, isBlank c = true) (h : q.run ws = .outside) :
    q = .outside := by
  have hinside : ∀ ws : List Char, (∀ c ∈ ws, isBlank c = true) →
      QuoteState.inside.run ws = .inside := by
    intro ws
    induction ws with
    | nil => intro _; rfl
    | cons c cs ih =>
      intro hws
      have hc : c ∉ ['"', '\\'] := not_mem_of_class (hws c List.mem_cons_self) (by decide)
      rw [List.mem_cons, List.mem_singleton, not_or] at hc
      rw [QuoteState.run_cons, QuoteState.step_inside hc.1 hc.2]
      exact ih fun d hd => hws d (List.mem_cons_of_mem _ hd)
  cases q with
  | outside => rfl
  | inside => rw [hinside ws hws] at h; cases h
  | escaped =>
    cases ws with
    | nil => cases h
    | cons c cs =>
      have hrun : QuoteState.escaped.run (c :: cs) = QuoteState.inside.run cs := rfl
      rw [hrun, hinside cs fun d hd => hws d (List.mem_cons_of_mem _ hd)] at h
      cases h

/-! ## Plain texts -/

/-- A text that closes its quotes and has no comma and no parenthesis outside them. -/
structure IsPlain (s : List Char) : Prop where
  closesQuotes : ClosesQuotes s
  not_mem : ∀ c ∈ unquoted s, c ∉ [',', '(', ')']

theorem IsPlain.append (hs : IsPlain s) (ht : IsPlain t) : IsPlain (s ++ t) := by
  refine ⟨hs.closesQuotes.append ht.closesQuotes, ?_⟩
  rw [hs.closesQuotes.unquoted_append]
  exact List.forall_mem_append.2 ⟨hs.not_mem, ht.not_mem⟩

theorem isPlain_of_not_mem (h : ∀ c ∈ s, c ∉ ['"', ',', '(', ')']) : IsPlain s := by
  have hquote : '"' ∉ s := fun hm => h _ hm (by decide)
  refine ⟨closesQuotes_of_not_mem hquote, ?_⟩
  rw [unquoted_of_not_mem hquote]
  exact fun c hc hm => h c hc (List.mem_cons_of_mem _ hm)

theorem isPlain_of_blanks (hws : ∀ c ∈ ws, isBlank c = true) : IsPlain ws :=
  isPlain_of_not_mem fun c hc => not_mem_of_class (hws c hc) (by decide)

/-! ## Trimmed texts -/

theorem ClosesQuotes.trimStart (h : ClosesQuotes s) : ClosesQuotes (trimStart s) := by
  obtain ⟨ws, hws, hs⟩ := exists_blanks_trimStart s
  rw [hs] at h
  exact (closesQuotes_of_blanks hws).of_append h

theorem ClosesQuotes.trim (h : ClosesQuotes s) : ClosesQuotes (trim s) := by
  obtain ⟨ws, ws', hws, hws', hs⟩ := exists_blanks_trim s
  rw [hs, List.append_assoc] at h
  have hrun := (closesQuotes_of_blanks hws).of_append h
  rw [ClosesQuotes, QuoteState.run_append] at hrun
  exact eq_outside_of_run_blanks hws' hrun

theorem mem_unquoted_of_trimStart {c : Char} (h : c ∈ unquoted (trimStart s)) : c ∈ unquoted s := by
  obtain ⟨ws, hws, hs⟩ := exists_blanks_trimStart s
  rw [hs, unquoted_append_of_blanks hws]
  exact List.mem_append_right _ h

theorem mem_unquoted_of_trim {c : Char} (h : c ∈ unquoted (trim s)) : c ∈ unquoted s := by
  obtain ⟨ws, ws', hws, -, hs⟩ := exists_blanks_trim s
  rw [hs, List.append_assoc, unquoted_append_of_blanks hws, unquoted, unquotedFrom_append]
  exact List.mem_append_right _ (List.mem_append_left _ h)

/-! ## The cut at the commas -/

theorem splitItemsFrom_comma (s : List Char) :
    splitItemsFrom .outside (',' :: s) = [] :: splitItems s := by
  obtain ⟨item, items, h⟩ := List.exists_cons_of_ne_nil (splitItemsFrom_ne_nil .outside s)
  have hstep : QuoteState.outside.step ',' = .outside := rfl
  rw [splitItemsFrom, hstep, splitItems, h]
  exact if_pos ⟨rfl, rfl⟩

theorem splitItemsFrom_cons {c : Char} {item : List Char} (hc : ¬(q = .outside ∧ c = ','))
    (h : splitItemsFrom (q.step c) s = item :: items) :
    splitItemsFrom q (c :: s) = (c :: item) :: items := by
  rw [splitItemsFrom, h]
  exact if_neg hc

/-- The cut of two texts put together: the last piece of the first and the first piece of the
second become one. -/
theorem splitItemsFrom_append (q : QuoteState) (s t : List Char) : ∃ init last head tail,
    splitItemsFrom q s = init ++ [last] ∧ splitItemsFrom (q.run s) t = head :: tail ∧
      splitItemsFrom q (s ++ t) = init ++ (last ++ head) :: tail := by
  induction s generalizing q with
  | nil =>
    obtain ⟨head, tail, h⟩ := List.exists_cons_of_ne_nil (splitItemsFrom_ne_nil q t)
    exact ⟨[], [], head, tail, rfl, h, h⟩
  | cons c cs ih =>
    obtain ⟨init, last, head, tail, hs, ht, hst⟩ := ih (q.step c)
    by_cases hc : q = .outside ∧ c = ','
    · obtain ⟨rfl, rfl⟩ := hc
      refine ⟨[] :: init, last, head, tail, ?_, ht, ?_⟩
      · rw [splitItemsFrom_comma, splitItems]
        exact congrArg ([] :: ·) hs
      · rw [List.cons_append, splitItemsFrom_comma, splitItems]
        exact congrArg ([] :: ·) hst
    -- otherwise the first piece of `cs` takes `c` in front; it may also be the last one
    · cases init with
      | nil =>
        exact ⟨[], c :: last, head, tail, splitItemsFrom_cons hc hs, ht,
          splitItemsFrom_cons hc hst⟩
      | cons piece pieces =>
        exact ⟨(c :: piece) :: pieces, last, head, tail, splitItemsFrom_cons hc hs, ht,
          splitItemsFrom_cons hc hst⟩

theorem splitItemsFrom_of_not_mem (h : ',' ∉ unquotedFrom q s) : splitItemsFrom q s = [s] := by
  induction s generalizing q with
  | nil => rfl
  | cons c cs ih =>
    have hc : ¬(q = .outside ∧ c = ',') := by
      rintro ⟨rfl, rfl⟩
      exact h (by simp [unquotedFrom])
    refine splitItemsFrom_cons hc (ih fun hm => ?_)
    rw [unquotedFrom] at h
    split at h
    · exact h (List.mem_cons_of_mem _ hm)
    · exact h hm

theorem splitItems_of_blanks (hws : ∀ c ∈ ws, isBlank c = true) : splitItems ws = [ws] := by
  refine splitItemsFrom_of_not_mem ?_
  rw [← unquoted, unquoted_of_blanks hws]
  exact not_mem_of_blanks (by decide) hws

/-- A comma behind a closed text without commas cuts just there. -/
theorem splitItems_append_comma (hs : ClosesQuotes s) (hc : ',' ∉ unquoted s) (t : List Char) :
    splitItems (s ++ ',' :: t) = s :: splitItems t := by
  obtain ⟨init, last, head, tail, h₁, h₂, h₃⟩ := splitItemsFrom_append .outside s (',' :: t)
  rw [splitItemsFrom_of_not_mem hc] at h₁
  rw [hs, splitItemsFrom_comma] at h₂
  cases init with
  | nil =>
    cases h₁
    cases h₂
    rw [splitItems, h₃, List.append_nil, List.nil_append]
  | cons piece pieces => simp at h₁

/-- The cut takes apart what commas joined. -/
theorem splitItems_intercalate (hne : items ≠ [])
    (h : ∀ item ∈ items, ClosesQuotes item ∧ ',' ∉ unquoted item) :
    splitItems ([','].intercalate items) = items := by
  induction items with
  | nil => exact absurd rfl hne
  | cons item items ih =>
    obtain ⟨hq, hc⟩ := h item List.mem_cons_self
    cases items with
    | nil =>
      rw [List.intercalate_singleton]
      exact splitItemsFrom_of_not_mem hc
    | cons next rest =>
      rw [List.intercalate_cons_cons, List.append_assoc, List.singleton_append,
        splitItems_append_comma hq hc, ih (by simp) fun i hi => h i (List.mem_cons_of_mem _ hi)]

theorem closesQuotes_intercalate (h : ∀ item ∈ items, ClosesQuotes item) :
    ClosesQuotes ([','].intercalate items) := by
  induction items with
  | nil => rfl
  | cons item items ih =>
    have hitem := h item List.mem_cons_self
    cases items with
    | nil => rwa [List.intercalate_singleton]
    | cons next rest =>
      rw [List.intercalate_cons_cons, List.append_assoc, List.singleton_append]
      exact hitem.append (ih fun i hi => h i (List.mem_cons_of_mem _ hi))

/-- Outside quotes a text of items has the characters of its items, and commas. -/
theorem mem_unquoted_intercalate {c : Char} (h : ∀ item ∈ items, ClosesQuotes item)
    (hc : c ∈ unquoted ([','].intercalate items)) :
    c = ',' ∨ ∃ item ∈ items, c ∈ unquoted item := by
  induction items with
  | nil => simp [unquoted, unquotedFrom, List.intercalate] at hc
  | cons item items ih =>
    have hitem := h item List.mem_cons_self
    cases items with
    | nil =>
      rw [List.intercalate_singleton] at hc
      exact Or.inr ⟨item, List.mem_cons_self, hc⟩
    | cons next rest =>
      rw [List.intercalate_cons_cons, List.append_assoc, List.singleton_append,
        hitem.unquoted_append, List.mem_append] at hc
      rcases hc with hc | hc
      · exact Or.inr ⟨item, List.mem_cons_self, hc⟩
      · rcases List.mem_cons.1 hc with rfl | hc
        · exact Or.inl rfl
        · rcases ih (fun i hi => h i (List.mem_cons_of_mem _ hi)) hc with rfl | ⟨i, hi, hc⟩
          · exact Or.inl rfl
          · exact Or.inr ⟨i, List.mem_cons_of_mem _ hi, hc⟩

/-- What is known of the pieces of a text that starts in state `q` and ends outside quotes. -/
theorem splitItemsFrom_closed (h : q.run s = .outside) : ∃ item items,
    splitItemsFrom q s = item :: items ∧ q.run item = .outside ∧ ',' ∉ unquotedFrom q item ∧
      ∀ i ∈ items, ClosesQuotes i ∧ ',' ∉ unquoted i := by
  induction s generalizing q with
  | nil => exact ⟨[], [], rfl, h, by simp [unquotedFrom], by simp⟩
  | cons c cs ih =>
    obtain ⟨item, items, hsplit, hrun, hcomma, hall⟩ := ih (q := q.step c) h
    by_cases hc : q = .outside ∧ c = ','
    · obtain ⟨rfl, rfl⟩ := hc
      refine ⟨[], item :: items, ?_, rfl, by simp [unquotedFrom], ?_⟩
      · rw [splitItemsFrom_comma]
        exact congrArg ([] :: ·) hsplit
      · exact List.forall_mem_cons.2 ⟨⟨hrun, hcomma⟩, hall⟩
    · refine ⟨c :: item, items, splitItemsFrom_cons hc hsplit, hrun, ?_, hall⟩
      rw [unquotedFrom]
      split
      · next ho =>
        intro hm
        rcases List.mem_cons.1 hm with he | hm
        · exact hc ⟨ho.1, he.symm⟩
        · exact hcomma hm
      · exact hcomma

theorem closesQuotes_of_mem_splitItems (h : ClosesQuotes s) {item : List Char}
    (hi : item ∈ splitItems s) : ClosesQuotes item ∧ ',' ∉ unquoted item := by
  obtain ⟨first, items, hsplit, hrun, hcomma, hall⟩ := splitItemsFrom_closed h
  rw [splitItems, hsplit] at hi
  rcases List.mem_cons.1 hi with rfl | hi
  · exact ⟨hrun, hcomma⟩
  · exact hall item hi

/-- Blanks around a closed text make no difference to its trimmed items. -/
theorem map_trim_splitItems (hs : ClosesQuotes s) (hws : ∀ c ∈ ws, isBlank c = true)
    (hws' : ∀ c ∈ ws', isBlank c = true) :
    (splitItems (ws ++ s ++ ws')).map trim = (splitItems s).map trim := by
  have hnil : ∀ c ∈ ([] : List Char), isBlank c = true := by simp
  have hfront : (splitItems (ws ++ s)).map trim = (splitItems s).map trim := by
    obtain ⟨init, last, head, tail, h₁, h₂, h₃⟩ := splitItemsFrom_append .outside ws s
    rw [← splitItems, splitItems_of_blanks hws] at h₁
    rw [closesQuotes_of_blanks hws] at h₂
    cases init with
    | nil =>
      cases h₁
      have ht : trim (ws ++ head) = trim head := by
        simpa using trim_append_append (s := head) hws hnil
      rw [splitItems, splitItems, h₂, h₃, List.nil_append, List.map_cons, List.map_cons, ht]
    | cons piece pieces => simp at h₁
  have hback : (splitItems (ws ++ s ++ ws')).map trim = (splitItems (ws ++ s)).map trim := by
    obtain ⟨init, last, head, tail, h₁, h₂, h₃⟩ := splitItemsFrom_append .outside (ws ++ s) ws'
    rw [(closesQuotes_of_blanks hws).append hs, ← splitItems, splitItems_of_blanks hws'] at h₂
    cases h₂
    have ht : trim (last ++ ws') = trim last := by
      simpa using trim_append_append (s := last) hnil hws'
    rw [splitItems, splitItems, h₁, h₃, List.map_append, List.map_append, List.map_cons,
      List.map_cons, ht]
  rw [hback, hfront]

end TableSelection.Text
