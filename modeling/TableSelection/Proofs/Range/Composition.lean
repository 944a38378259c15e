import TableSelection.Proofs.Range.Reading
import TableSelection.Range.Evaluate

/-!
# Putting ranges together

Two texts with a comma between them, and a text in `inv( )`, read as what their parts read as. A
text that is accepted alone closes its quotes and has no parenthesis outside them, so nothing that
is put around it changes how it is cut into items:

    parse a = segments, parse b = segments'  →  parse (a ++ "," ++ b) = segments ++ segments'
    parse a = segments                       →  parse ("inv(" ++ a ++ ")") = inverted segments

The first chooses what `a` chooses, and then what only `b` chooses; the second chooses what `a`
leaves out. Both fail where their parts do (`parse_compose`).
-/

namespace TableSelection

open Text

/-! ## Stretches -/

namespace Stretch

variable (before stretches stretches' : List Stretch)

/-- Stretches that stood before only take their own positions out of a union. -/
theorem union_eq_filter : union before stretches =
    (union [] stretches).filter fun i => !before.any (·.covers i) := by
  induction stretches generalizing before with
  | nil => rfl
  | cons s rest ih =>
    -- behind `s` the union leaves out `s :: before`: once with `before` and once without
    rw [union, union, ih (s :: before), ih [s], List.filter_append, List.filter_filter,
      List.filter_filter]
    congr 1
    · exact List.filter_congr fun i _ => by simp
    · exact List.filter_congr fun i _ => by simp [Bool.and_comm]

/-- The union of two lists of stretches: that of the first, then what only the second covers. -/
theorem union_append : union [] (stretches ++ stretches') =
    union [] stretches ++ (union [] stretches').filter fun i => !stretches.any (·.covers i) := by
  induction stretches with
  | nil => simp [union]
  | cons s rest ih =>
    rw [List.cons_append, union, union, union_eq_filter [s] rest, union_eq_filter [s] (_ ++ _), ih,
      List.filter_append, List.filter_filter, List.append_assoc]
    congr 2
    exact List.filter_congr fun i _ => by simp

/-- No stretch covers the positions outside the union. -/
theorem not_any_covers (i : Nat) :
    (!stretches.any (·.covers i)) = decide (i ∉ union [] stretches) := by
  rw [Bool.eq_iff_iff, decide_eq_true_eq, mem_union]
  simp

end Stretch

namespace Range

/-! ## Texts -/

variable {text text' : List Char} {segments segments' : List Segment}

theorem BodyDerives.exists_items (h : BodyDerives text segments) (hne : segments ≠ []) :
    ∃ items : List (List Char × Segment), items ≠ [] ∧
      (∀ item ∈ items, Segment.Derives item.1 item.2) ∧
        text = [','].intercalate (items.map Prod.fst) ∧ segments = items.map Prod.snd := by
  cases h with
  | blank blanks => exact absurd rfl hne
  | items some derives => exact ⟨_, some, derives, rfl, rfl⟩

theorem intercalate_append {items items' : List (List Char)} (h : items ≠ []) (h' : items' ≠ []) :
    [','].intercalate (items ++ items') =
      [','].intercalate items ++ ',' :: [','].intercalate items' := by
  induction items with
  | nil => exact absurd rfl h
  | cons item items ih =>
    cases items with
    | nil =>
      obtain ⟨next, rest, rfl⟩ := List.exists_cons_of_ne_nil h'
      simp [List.intercalate_cons_cons]
    | cons next rest =>
      have hrest := ih (by simp)
      rw [List.cons_append] at hrest
      rw [List.cons_append, List.cons_append, List.intercalate_cons_cons,
        List.intercalate_cons_cons, hrest]
      simp

/-- A comma joins the items of two bodies. -/
theorem BodyDerives.comma (h : BodyDerives text segments) (h' : BodyDerives text' segments')
    (hne : segments ≠ []) (hne' : segments' ≠ []) :
    BodyDerives (text ++ ',' :: text') (segments ++ segments') := by
  obtain ⟨items, hsome, hitems, rfl, rfl⟩ := h.exists_items hne
  obtain ⟨items', hsome', hitems', rfl, rfl⟩ := h'.exists_items hne'
  have hall : ∀ item ∈ items ++ items', Segment.Derives item.1 item.2 :=
    List.forall_mem_append.2 ⟨hitems, hitems'⟩
  have hbody := BodyDerives.items (by simp [hsome]) hall
  rw [List.map_append, List.map_append] at hbody
  rwa [intercalate_append (by simpa using hsome) (by simpa using hsome')] at hbody

theorem parse_comma {a b : String} (ha : parse a = .ok ⟨segments, false, none⟩)
    (hb : parse b = .ok ⟨segments', false, none⟩) (hne : segments ≠ []) (hne' : segments' ≠ []) :
    parse (a ++ "," ++ b) = .ok ⟨segments ++ segments', false, none⟩ := by
  have hbody := derives_plain_iff.1 (derives_of_read ha)
  have hbody' := derives_plain_iff.1 (derives_of_read hb)
  have htext : (a ++ "," ++ b).toList = a.toList ++ ',' :: b.toList := by simp
  rw [parse, htext]
  exact read_of_derives (derives_plain_iff.2 (hbody.comma hbody' hne hne'))

theorem parse_inv {a : String} (h : parse a = .ok ⟨segments, false, none⟩) :
    parse ("inv(" ++ a ++ ")") = .ok ⟨segments, true, none⟩ := by
  have hbody := derives_plain_iff.1 (derives_of_read h)
  have htext : ("inv(" ++ a ++ ")").toList = inversionWord ++ a.toList ++ [')'] := by
    rw [String.toList_append, String.toList_append]
    rfl
  rw [parse, htext]
  exact read_of_derives (derives_inverted hbody)

/-! ## Evaluations -/

variable (d : Domain)

/-- The segments of two ranges choose what the first range chooses, then what only the second
does. The first of them that fails gives the error. -/
theorem evaluate_append : evaluate ⟨segments ++ segments', false, none⟩ d = (do
    let l ← evaluate ⟨segments, false, none⟩ d
    let l' ← evaluate ⟨segments', false, none⟩ d
    return l ++ l'.filter fun i => i ∉ l) := by
  simp only [evaluate, List.mapM_append]
  cases segments.mapM (Segment.resolve d) with
  | error e => rfl
  | ok stretches =>
    cases segments'.mapM (Segment.resolve d) with
    | error e => rfl
    | ok stretches' =>
      have hunion := Stretch.union_append stretches stretches'
      simp only [Stretch.not_any_covers] at hunion
      exact congrArg Except.ok hunion

/-- An inverted range chooses what the plain one leaves out. -/
theorem evaluate_inverted : evaluate ⟨segments, true, none⟩ d =
    (evaluate ⟨segments, false, none⟩ d).map fun l =>
      (List.range d.size).filter fun i => i ∉ l := by
  simp only [evaluate]
  cases segments.mapM (Segment.resolve d) with
  | error e => rfl
  | ok stretches =>
    have hcomplement : Stretch.complement d.size stretches =
        (List.range d.size).filter fun i => !stretches.any (·.covers i) := rfl
    simp only [Stretch.not_any_covers] at hcomplement
    exact congrArg Except.ok hcomplement

/-! ## Top theorem -/

/-- **Ranges are put together as their texts are.** If two texts read as plain ranges with items, a
comma joins them to the range with the items of both, and `inv( )` around one inverts it. On every
domain the joined range chooses what the first chooses, then what the second chooses beyond that in
its own order, and it fails with the error of the first or, where only the second fails, with that
of the second. The inverted range chooses the other positions in ascending order, and fails just
where the plain one does, with the same error. -/
theorem parse_compose (a b : String) (ra rb : Range) (ha : parse a = .ok ra) (hb : parse b = .ok rb)
    (hra : ra.inverted = false ∧ ra.segments ≠ []) (hrb : rb.inverted = false ∧ rb.segments ≠ []) :
    ∃ joined inverse,
      (parse (a ++ "," ++ b) = .ok joined ∧ joined.inverted = false ∧
        joined.segments = ra.segments ++ rb.segments) ∧
      (parse ("inv(" ++ a ++ ")") = .ok inverse ∧ inverse.inverted = true ∧
        inverse.segments = ra.segments) ∧
      ∀ d : Domain,
        (joined.evaluate d = do
          let l ← ra.evaluate d
          let l' ← rb.evaluate d
          return l ++ l'.filter fun i => i ∉ l) ∧
        inverse.evaluate d = (ra.evaluate d).map fun l =>
          (List.range d.size).filter fun i => i ∉ l := by
  have ha' := eq_plain_of_parse ha hra.1
  have hb' := eq_plain_of_parse hb hrb.1
  rw [ha'] at ha
  rw [hb'] at hb
  refine ⟨_, _, ⟨parse_comma ha hb hra.2 hrb.2, rfl, rfl⟩, ⟨parse_inv ha, rfl, rfl⟩, fun d => ?_⟩
  rw [evaluate_append, evaluate_inverted, ← ha', ← hb']
  exact ⟨rfl, rfl⟩

/-- A name with a comma, a parenthesis and an escaped quote in front, blanks around everything. -/
theorem parse_compose_of_quoted :
    parse " \"x,)\\\"\" - 2 " =
      .ok ⟨[.span (.name "x,)\"" true) (.index 2 "2" false)], false, none⟩ ∧
    parse "LAST-1 , # 1" =
      .ok ⟨[.single (.placeholder .lastButOne), .single (.index 1 "1" true)], false, none⟩ ∧
    ∃ joined inverse,
      parse (" \"x,)\\\"\" - 2 " ++ "," ++ "LAST-1 , # 1") = .ok joined ∧
      parse ("inv(" ++ " \"x,)\\\"\" - 2 " ++ ")") = .ok inverse ∧
      joined.evaluate (.ofNames ["a", "b", "x,)\"", "d"]) = .ok [1, 2, 0] ∧
      inverse.evaluate (.ofNames ["a", "b", "x,)\"", "d"]) = .ok [0, 3] := by
  have ha : parse " \"x,)\\\"\" - 2 " =
      .ok ⟨[.span (.name "x,)\"" true) (.index 2 "2" false)], false, none⟩ := by rfl
  have hb : parse "LAST-1 , # 1" =
      .ok ⟨[.single (.placeholder .lastButOne), .single (.index 1 "1" true)], false, none⟩ := by rfl
  obtain ⟨joined, inverse, ⟨hjoined, -, -⟩, ⟨hinverse, -, -⟩, heval⟩ :=
    parse_compose _ _ _ _ ha hb ⟨rfl, by decide⟩ ⟨rfl, by decide⟩
  refine ⟨ha, hb, joined, inverse, hjoined, hinverse, ?_, ?_⟩
  · rw [(heval _).1]
    rfl
  · rw [(heval _).2]
    rfl

end Range

end TableSelection
