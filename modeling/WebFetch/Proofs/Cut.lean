/-
This file is about cutting sequences at a mark. A cut is made where the mark first stands, so it
stays where it is when the sequence goes on, and it is found after elements none of which begins the
mark. Pieces that were joined with marks between them are split again.
-/

import WebFetch.Cut

namespace WebFetch

variable {Element : Type} [BEq Element] [LawfulBEq Element]

/-- Whether a mark stands at a place, and at none before it. -/
def FirstAt (mark sequence : List Element) (place : Nat) : Prop :=
  mark <+: sequence.drop place ∧ ∀ earlier < place, ¬ mark <+: sequence.drop earlier

instance [DecidableEq Element] (mark sequence : List Element) (place : Nat) :
    Decidable (FirstAt mark sequence place) :=
  inferInstanceAs (Decidable (_ ∧ _))

omit [BEq Element] [LawfulBEq Element] in
/-- The place is the first one in a part of the sequence too that reaches behind the mark. -/
theorem FirstAt.of_part {mark sequence part : List Element} {place : Nat}
    (first : FirstAt mark sequence place) (before : part <+: sequence)
    (reaches : place + mark.length ≤ part.length) : FirstAt mark part place := by
  obtain ⟨later, rfl⟩ := before
  have stands := first.1
  rw [List.drop_append_of_le_length (by omega)] at stands
  refine ⟨List.prefix_of_prefix_length_le stands (List.prefix_append _ later) ?_,
    fun earlier less standsEarlier => first.2 earlier less ?_⟩
  · rw [List.length_drop]
    omega
  · rw [List.drop_append_of_le_length (by omega)]
    exact standsEarlier.trans (List.prefix_append _ later)

/-! ### One cut -/

omit [LawfulBEq Element] in
/-- The elements passed over stand before what precedes the mark. -/
theorem cutFrom_eq (mark passed sequence : List Element) :
    cutFrom mark passed sequence =
      (cut mark sequence).map (Prod.map (passed.reverse ++ ·) id) := by
  induction sequence generalizing passed with
  | nil => rfl
  | cons element rest inductionHypothesis =>
    rw [cut, cutFrom, cutFrom]
    split
    · simp
    · have same : ((element :: passed).reverse ++ ·) = (passed.reverse ++ ·) ∘ (element :: ·) := by
        funext before
        simp
      rw [inductionHypothesis, inductionHypothesis [element], Option.map_map, Prod.map_comp_map,
        same]
      rfl

theorem cut_of_marked {mark sequence : List Element} {element : Element}
    (stands : mark <+: element :: sequence) :
    cut mark (element :: sequence) = some ([], sequence.drop (mark.length - 1)) := by
  rw [cut, cutFrom, if_pos (List.isPrefixOf_iff_prefix.mpr stands)]
  rfl

/-- Where the mark does not stand, an element is passed over. -/
theorem cut_of_unmarked {mark sequence : List Element} {element : Element}
    (other : ¬ mark <+: element :: sequence) :
    cut mark (element :: sequence) =
      (cut mark sequence).map (Prod.map (element :: ·) id) := by
  rw [cut, cutFrom, if_neg (fun stands => other (List.isPrefixOf_iff_prefix.mp stands)), cutFrom_eq]
  rfl

/-- A mark is cut away at once where it stands. -/
theorem cut_mark_append {mark : List Element} (some : mark ≠ []) (after : List Element) :
    cut mark (mark ++ after) = Option.some ([], after) := by
  obtain ⟨first, others, rfl⟩ := List.exists_cons_of_ne_nil some
  have stands : first :: others <+: first :: (others ++ after) :=
    List.prefix_append (first :: others) after
  rw [List.cons_append, cut_of_marked stands]
  simp

/-- Elements at none of which the mark stands are passed over. -/
theorem cut_append_of_absent {mark sequence : List Element} (passed : List Element)
    (absent : ∀ place < passed.length, ¬ mark <+: (passed ++ sequence).drop place) :
    cut mark (passed ++ sequence) =
      (cut mark sequence).map (Prod.map (passed ++ ·) id) := by
  induction passed with
  | nil => exact (Option.map_id_apply).symm
  | cons element rest inductionHypothesis =>
    have later := inductionHypothesis fun place less =>
      absent (place + 1) (Nat.succ_lt_succ less)
    have here : ¬ mark <+: element :: (rest ++ sequence) := absent 0 (Nat.succ_pos _)
    rw [List.cons_append, cut_of_unmarked here, later, Option.map_map]
    rfl

/-- The cut is made where the mark first stands. -/
theorem cut_of_firstAt {mark sequence : List Element} {place : Nat} (some : mark ≠ [])
    (first : FirstAt mark sequence place) :
    cut mark sequence =
      Option.some (sequence.take place, sequence.drop (place + mark.length)) := by
  obtain ⟨after, stands⟩ := first.1
  have parts : sequence = sequence.take place ++ (mark ++ after) := by
    rw [stands, List.take_append_drop]
  have absent : ∀ earlier < (sequence.take place).length,
      ¬ mark <+: (sequence.take place ++ (mark ++ after)).drop earlier := by
    rw [← parts]
    intro earlier less
    rw [List.length_take] at less
    exact first.2 earlier (by omega)
  have left : sequence.drop (place + mark.length) = after := by
    rw [← List.drop_drop, ← stands, List.drop_left]
  calc cut mark sequence
      = cut mark (sequence.take place ++ (mark ++ after)) := by rw [← parts]
    _ = Option.some (sequence.take place, after) := by
        rw [cut_append_of_absent _ absent, cut_mark_append some]
        simp
    _ = _ := by rw [left]

/-- What precedes a cut, the mark and what follows it are the sequence. -/
theorem eq_of_cut {mark sequence before after : List Element} (some : mark ≠ [])
    (found : cut mark sequence = Option.some (before, after)) :
    sequence = before ++ mark ++ after := by
  induction sequence generalizing before with
  | nil => cases found
  | cons element rest inductionHypothesis =>
    by_cases stands : mark <+: element :: rest
    · rw [cut_of_marked stands] at found
      cases found
      obtain ⟨head, others, rfl⟩ := List.exists_cons_of_ne_nil some
      obtain ⟨after, same⟩ := stands
      cases same
      simp
    · rw [cut_of_unmarked stands, Option.map_eq_some_iff] at found
      obtain ⟨⟨passed, after⟩, foundLater, same⟩ := found
      cases same
      exact congrArg (element :: ·) (inductionHypothesis foundLater)

/-- A cut stays where it is when the sequence goes on. -/
theorem cut_append {mark sequence before after : List Element}
    (found : cut mark sequence = some (before, after)) (later : List Element) :
    cut mark (sequence ++ later) = some (before, after ++ later) := by
  induction sequence generalizing before with
  | nil => cases found
  | cons element rest inductionHypothesis =>
    by_cases stands : mark <+: element :: rest
    · have reaches := stands.length_le
      rw [List.length_cons] at reaches
      have standsLater : mark <+: element :: (rest ++ later) :=
        stands.trans (List.prefix_append (element :: rest) later)
      rw [cut_of_marked stands] at found
      cases found
      rw [List.cons_append, cut_of_marked standsLater, List.drop_append_of_le_length (by omega)]
    · rw [cut_of_unmarked stands, Option.map_eq_some_iff] at found
      obtain ⟨⟨passed, after⟩, foundLater, same⟩ := found
      cases same
      -- The mark stands further on, so the elements given reach behind it.
      have reaches : mark.length ≤ (element :: rest).length := by
        by_cases some : mark = []
        · simp [some]
        · rw [eq_of_cut some foundLater]
          simp only [List.length_cons, List.length_append]
          omega
      have standsNot : ¬ mark <+: element :: (rest ++ later) := fun standsLater =>
        stands (List.prefix_of_prefix_length_le standsLater
          (List.prefix_append (element :: rest) later) reaches)
      rw [List.cons_append, cut_of_unmarked standsNot, inductionHypothesis foundLater]
      rfl

/-- A part of a sequence is cut where the whole is, or it ends before the mark does. -/
theorem cut_of_append {mark part rest before after : List Element}
    (found : cut mark (part ++ rest) = some (before, after)) :
    cut mark part = none ∧ rest ≠ [] ∨
      ∃ left, cut mark part = some (before, left) ∧ left ++ rest = after := by
  match foundPart : cut mark part with
  | none =>
    refine Or.inl ⟨rfl, ?_⟩
    rintro rfl
    rw [List.append_nil, foundPart] at found
    cases found
  | some (beforePart, left) =>
    rw [cut_append foundPart rest] at found
    cases found
    exact Or.inr ⟨left, rfl, rfl⟩

/-- The mark first stands where the cut is made. -/
theorem firstAt_of_cut {mark sequence before after : List Element}
    (found : cut mark sequence = some (before, after)) : FirstAt mark sequence before.length := by
  induction sequence generalizing before with
  | nil => cases found
  | cons element rest inductionHypothesis =>
    by_cases stands : mark <+: element :: rest
    · rw [cut_of_marked stands] at found
      cases found
      exact ⟨stands, nofun⟩
    · rw [cut_of_unmarked stands, Option.map_eq_some_iff] at found
      obtain ⟨⟨passed, after⟩, foundLater, same⟩ := found
      cases same
      have first := inductionHypothesis foundLater
      refine ⟨first.1, fun earlier less => ?_⟩
      match earlier with
      | 0 => exact stands
      | earlier + 1 => exact first.2 earlier (Nat.lt_of_succ_lt_succ less)

/-- The mark does not stand inside what precedes the cut. -/
theorem not_infix_of_cut {mark sequence before after : List Element} (some : mark ≠ [])
    (found : cut mark sequence = Option.some (before, after)) : ¬ mark <:+: before := by
  rintro ⟨start, rest, rfl⟩
  have positive : 0 < mark.length := List.length_pos_iff.mpr some
  refine (firstAt_of_cut found).2 start.length ?_ ?_
  · rw [List.length_append, List.length_append]
    omega
  · rw [eq_of_cut some found, List.append_assoc, List.append_assoc, List.append_assoc,
      List.drop_left]
    exact List.prefix_append _ _

/-- A mark of two different elements is cut away behind a sequence in which it does not stand: its
end cannot stand where its beginning has to. -/
theorem cut_pair_of_not_infix {first second : Element} {before : List Element}
    (different : first ≠ second) (unbroken : ¬ [first, second] <:+: before)
    (after : List Element) :
    cut [first, second] (before ++ ([first, second] ++ after)) = some (before, after) := by
  have absent : ∀ place < before.length,
      ¬ [first, second] <+: (before ++ ([first, second] ++ after)).drop place := by
    intro place inside stands
    rw [List.drop_append_of_le_length (Nat.le_of_lt inside)] at stands
    match remains : before.drop place with
    | [] => exact absurd (List.drop_eq_nil_iff.mp remains) (Nat.not_le.mpr inside)
    | [last] =>
      rw [remains] at stands
      exact different (List.cons_prefix_cons.mp (List.cons_prefix_cons.mp stands).2).1.symm
    | one :: two :: rest =>
      rw [remains] at stands
      obtain ⟨sameOne, stands⟩ := List.cons_prefix_cons.mp stands
      obtain ⟨sameTwo, _⟩ := List.cons_prefix_cons.mp stands
      refine unbroken ⟨before.take place, rest, ?_⟩
      rw [sameOne, sameTwo, List.append_assoc]
      show before.take place ++ one :: two :: rest = before
      rw [← remains, List.take_append_drop]
  rw [cut_append_of_absent before absent, cut_mark_append (List.cons_ne_nil _ _)]
  simp

/-! ### Splitting -/

omit [LawfulBEq Element] in
theorem splitFrom_of_uncut {mark sequence : List Element} (pieces : List (List Element))
    (found : cut mark sequence = none) :
    splitFrom mark pieces sequence = (sequence :: pieces).reverse := by
  rw [splitFrom]
  split
  · rfl
  · rename_i other
    rw [found] at other
    cases other

omit [LawfulBEq Element] in
theorem splitFrom_of_cut {mark sequence before after : List Element}
    (pieces : List (List Element)) (found : cut mark sequence = some (before, after)) :
    splitFrom mark pieces sequence = splitFrom mark (before :: pieces) after := by
  rw [splitFrom]
  split
  · rename_i other
    rw [found] at other
    cases other
  · rename_i other
    rw [found] at other
    cases other
    rfl

/-! ### Elements that begin no mark -/

section Begins

variable {mark : List Element} {first : Element} (begins : mark.head? = some first)

include begins

theorem cut_append_of_not_mem {passed : List Element} (absent : first ∉ passed)
    (sequence : List Element) :
    cut mark (passed ++ sequence) =
      (cut mark sequence).map (Prod.map (passed ++ ·) id) := by
  obtain ⟨others, rfl⟩ := List.head?_eq_some_iff.mp begins
  refine cut_append_of_absent passed fun place less stands => absent ?_
  rw [List.drop_append_of_le_length (Nat.le_of_lt less), List.drop_eq_getElem_cons less,
    List.cons_append, List.cons_prefix_cons] at stands
  rw [stands.1]
  exact List.getElem_mem less

theorem cut_eq_none_of_not_mem {sequence : List Element} (absent : first ∉ sequence) :
    cut mark sequence = none := by
  have passed := cut_append_of_not_mem begins absent []
  rwa [List.append_nil] at passed

theorem cut_of_not_mem {before : List Element} (absent : first ∉ before)
    (after : List Element) : cut mark (before ++ (mark ++ after)) = some (before, after) := by
  have some : mark ≠ [] := by
    rintro rfl
    cases begins
  rw [cut_append_of_not_mem begins absent, cut_mark_append some]
  simp

/-- Pieces that are joined by marks are split again. -/
theorem split_intercalate {pieces : List (List Element)} (some : pieces ≠ [])
    (proper : ∀ piece ∈ pieces, first ∉ piece) :
    split mark (List.intercalate mark pieces) = pieces := by
  have splits : ∀ found, splitFrom mark found (List.intercalate mark pieces) =
      found.reverse ++ pieces := by
    induction pieces with
    | nil => exact absurd rfl some
    | cons piece later inductionHypothesis =>
      intro found
      have properPiece := proper piece List.mem_cons_self
      match later with
      | [] =>
        rw [List.intercalate_singleton,
          splitFrom_of_uncut found (cut_eq_none_of_not_mem begins properPiece), List.reverse_cons]
      | next :: rest =>
        rw [List.intercalate_cons_cons, List.append_assoc,
          splitFrom_of_cut found (cut_of_not_mem begins properPiece _),
          inductionHypothesis (List.cons_ne_nil _ _)
            (fun piece member => proper piece (List.mem_cons_of_mem _ member)),
          List.reverse_cons, List.append_assoc]
        rfl
  exact splits []

/-- Two marks in a row do not stand where a proper piece follows the first of them. -/
theorem cut_single_mark (once : first ∉ mark.tail) {element : Element} (proper : first ≠ element)
    (sequence : List Element) :
    cut (mark ++ mark) (mark ++ element :: sequence) =
      (cut (mark ++ mark) (element :: sequence)).map (Prod.map (mark ++ ·) id) := by
  obtain ⟨others, rfl⟩ := List.head?_eq_some_iff.mp begins
  have other : ¬ first :: (others ++ first :: others) <+:
      first :: (others ++ element :: sequence) := by
    rw [List.cons_prefix_cons, List.prefix_append_right_inj, List.cons_prefix_cons]
    exact fun stands => proper stands.2.1
  have passed := @cut_append_of_not_mem _ _ _ (first :: others ++ first :: others) first rfl others
    once (element :: sequence)
  rw [List.cons_append] at passed ⊢
  rw [List.cons_append, cut_of_unmarked other, passed, Option.map_map]
  rfl

/-- Two marks in a row first stand at the end of pieces that are joined by single ones. -/
theorem cut_double_intercalate (once : first ∉ mark.tail) {pieces : List (List Element)}
    (some : pieces ≠ []) (proper : ∀ piece ∈ pieces, piece ≠ [] ∧ first ∉ piece)
    (after : List Element) :
    cut (mark ++ mark) (List.intercalate mark pieces ++ (mark ++ mark ++ after)) =
      Option.some (List.intercalate mark pieces, after) := by
  have beginsDouble : (mark ++ mark).head? = Option.some first := by
    rw [List.head?_append, begins]
    rfl
  induction pieces with
  | nil => exact absurd rfl some
  | cons piece later inductionHypothesis =>
    have properPiece := proper piece List.mem_cons_self
    match later with
    | [] =>
      rw [List.intercalate_singleton]
      exact cut_of_not_mem beginsDouble properPiece.2 after
    | next :: rest =>
      have properNext := proper next (List.mem_cons_of_mem _ List.mem_cons_self)
      obtain ⟨head, tail, rfl⟩ := List.exists_cons_of_ne_nil properNext.1
      have properHead : first ≠ head := fun same => properNext.2 (same ▸ List.mem_cons_self)
      have further := inductionHypothesis (List.cons_ne_nil _ _)
        fun piece member => proper piece (List.mem_cons_of_mem _ member)
      rw [List.intercalate_cons_cons_left] at further
      rw [List.intercalate_cons_cons, List.intercalate_cons_cons_left, List.append_assoc,
        List.append_assoc, cut_append_of_not_mem beginsDouble properPiece.2,
        List.cons_append, cut_single_mark begins once properHead, ← List.cons_append, further]
      simp

end Begins

/-! ### Marks of one element -/

theorem cut_singleton {mark : Element} {before : List Element} (absent : mark ∉ before)
    (after : List Element) : cut [mark] (before ++ mark :: after) = some (before, after) :=
  cut_of_not_mem rfl absent after

theorem cutOptional_singleton {mark : Element} {before : List Element} (absent : mark ∉ before)
    (after : List Element) :
    cutOptional [mark] (before ++ mark :: after) = (before, some after) := by
  rw [cutOptional, cut_singleton absent]

theorem cutOptional_of_not_mem {mark : Element} {sequence : List Element}
    (absent : mark ∉ sequence) : cutOptional [mark] sequence = (sequence, none) := by
  rw [cutOptional, cut_eq_none_of_not_mem rfl absent]

theorem cutLast_singleton {mark : Element} {after : List Element} (absent : mark ∉ after)
    (before : List Element) : cutLast mark (before ++ mark :: after) = some (before, after) := by
  have reversed : (before ++ mark :: after).reverse = after.reverse ++ mark :: before.reverse := by
    simp
  rw [cutLast, reversed, cut_singleton (fun member => absent (List.mem_reverse.mp member))]
  simp

theorem cutLast_of_not_mem {mark : Element} {sequence : List Element} (absent : mark ∉ sequence) :
    cutLast mark sequence = none := by
  rw [cutLast, cut_eq_none_of_not_mem rfl (fun member => absent (List.mem_reverse.mp member))]
  rfl

theorem fst_cutOptional_singleton (mark : Element) (sequence : List Element) :
    (cutOptional [mark] sequence).1 = sequence.takeWhile (· != mark) := by
  by_cases member : mark ∈ sequence
  · obtain ⟨before, after, rfl, absent⟩ := List.eq_append_cons_of_mem member
    have others : ∀ element ∈ before, (element != mark) = true := fun element member =>
      bne_iff_ne.mpr fun same => absent (same ▸ member)
    rw [cutOptional_singleton absent, List.takeWhile_append_of_pos others,
      List.takeWhile_cons_of_neg (by simp), List.append_nil]
  · have others : ∀ element ∈ sequence, (element != mark) = true := fun element inside =>
      bne_iff_ne.mpr fun same => member (same ▸ inside)
    have whole := @List.takeWhile_append_of_pos _ _ sequence [] others
    rw [List.append_nil, List.takeWhile_nil, List.append_nil] at whole
    rw [cutOptional_of_not_mem member, whole]

/-- What precedes the first mark does not have it. -/
theorem not_mem_fst_cutOptional (mark : Element) (sequence : List Element) :
    mark ∉ (cutOptional [mark] sequence).1 := by
  rw [fst_cutOptional_singleton]
  intro member
  have other := List.all_eq_true.mp List.all_takeWhile mark member
  simp at other

/-- A mark and what follows it, if there is anything to be marked. -/
def marked (mark : Element) (after : Option (List Element)) : List Element :=
  match after with
  | none => []
  | some after => mark :: after

theorem cutOptional_marked {mark : Element} {before : List Element} (absent : mark ∉ before)
    (after : Option (List Element)) :
    cutOptional [mark] (before ++ marked mark after) = (before, after) := by
  cases after with
  | none => rw [marked, List.append_nil, cutOptional_of_not_mem absent]
  | some after => exact cutOptional_singleton absent after

/-- The parts of a cut make up the sequence. -/
theorem marked_cutOptional (mark : Element) (sequence : List Element) :
    (cutOptional [mark] sequence).1 ++ marked mark (cutOptional [mark] sequence).2 = sequence := by
  by_cases member : mark ∈ sequence
  · obtain ⟨before, after, rfl, absent⟩ := List.eq_append_cons_of_mem member
    rw [cutOptional_singleton absent]
    rfl
  · rw [cutOptional_of_not_mem member]
    exact List.append_nil sequence

omit [LawfulBEq Element] in
/-- The pieces found before stand before those of the sequence. -/
theorem splitFrom_eq (mark : List Element) (pieces : List (List Element))
    (sequence : List Element) :
    splitFrom mark pieces sequence = pieces.reverse ++ split mark sequence := by
  induction length : sequence.length using Nat.strongRecOn generalizing pieces sequence with
  | ind count inductionHypothesis =>
    subst length
    match found : cut mark sequence with
    | none =>
      rw [split, splitFrom_of_uncut _ found, splitFrom_of_uncut _ found, List.reverse_cons]
      rfl
    | some (before, after) =>
      have shorter := length_lt_of_cutFrom found
      rw [split, splitFrom_of_cut _ found, splitFrom_of_cut _ found,
        inductionHypothesis _ shorter _ after rfl, inductionHypothesis _ shorter [before] after rfl,
        List.reverse_cons, List.append_assoc]
      rfl

omit [LawfulBEq Element] in
/-- What precedes the first mark is the first piece. -/
theorem split_of_cut {mark sequence before after : List Element}
    (found : cut mark sequence = some (before, after)) :
    split mark sequence = before :: split mark after := by
  rw [split, splitFrom_of_cut _ found, splitFrom_eq]
  rfl

omit [LawfulBEq Element] in
theorem head?_split (mark sequence : List Element) :
    (split mark sequence).head? = some (cutOptional mark sequence).1 := by
  rw [cutOptional]
  match found : cut mark sequence with
  | none =>
    rw [split, splitFrom_of_uncut _ found]
    rfl
  | some (before, after) =>
    rw [split_of_cut found]
    rfl

/-- What holds of one piece, and is kept when a piece and a mark are put before others, holds of a
sequence and its pieces. -/
theorem split_induction {mark : Element} {motive : List Element → List (List Element) → Prop}
    (uncut : ∀ sequence, mark ∉ sequence → motive sequence [sequence])
    (further : ∀ before after, mark ∉ before → motive after (split [mark] after) →
      motive (before ++ mark :: after) (before :: split [mark] after))
    (sequence : List Element) : motive sequence (split [mark] sequence) := by
  induction length : sequence.length using Nat.strongRecOn generalizing sequence with
  | ind count inductionHypothesis =>
    subst length
    by_cases member : mark ∈ sequence
    · obtain ⟨before, after, rfl, absent⟩ := List.eq_append_cons_of_mem member
      have found := cut_singleton absent after
      rw [split_of_cut found]
      exact further before after absent
        (inductionHypothesis _ (length_lt_of_cutFrom found) after rfl)
    · rw [split, splitFrom_of_uncut _ (cut_eq_none_of_not_mem rfl member)]
      exact uncut sequence member

theorem split_of_not_mem {mark : Element} {sequence : List Element} (absent : mark ∉ sequence) :
    split [mark] sequence = [sequence] := by
  rw [split, splitFrom_of_uncut _ (cut_eq_none_of_not_mem rfl absent)]
  rfl

/-- Sequences with a mark between them are split apart. -/
theorem split_append (mark : Element) (before after : List Element) :
    split [mark] (before ++ mark :: after) = split [mark] before ++ split [mark] after := by
  have passed (piece rest : List Element) (absent : mark ∉ piece) :
      split [mark] (piece ++ mark :: rest) = piece :: split [mark] rest :=
    split_of_cut (cut_singleton absent rest)
  refine split_induction
    (motive := fun before pieces => split [mark] (before ++ mark :: after) =
      pieces ++ split [mark] after) ?_ ?_ before
  · exact fun sequence absent => passed sequence after absent
  · intro piece rest absent later
    rw [List.append_assoc, List.cons_append, passed piece _ absent, later]
    rfl

/-- Sequences that a mark ends each are split apart, and nothing follows the last mark. -/
theorem split_flatten_ended {mark : Element} {sequences : List (List Element)}
    (unmarked : ∀ sequence ∈ sequences, mark ∉ sequence) :
    split [mark] (sequences.map (· ++ [mark])).flatten = sequences ++ [[]] := by
  induction sequences with
  | nil => exact split_of_not_mem List.not_mem_nil
  | cons sequence sequences inductionHypothesis =>
    obtain ⟨absent, later⟩ := List.forall_mem_cons.mp unmarked
    rw [List.map_cons, List.flatten_cons, List.append_assoc, List.singleton_append, split_append,
      split_of_not_mem absent, inductionHypothesis later]
    rfl

/-- No mark stands in a piece. -/
theorem not_mem_of_mem_split {mark : Element} (sequence : List Element) :
    ∀ piece ∈ split [mark] sequence, mark ∉ piece := by
  refine split_induction (motive := fun _ pieces => ∀ piece ∈ pieces, mark ∉ piece) ?_ ?_ sequence
  · exact fun sequence absent => List.forall_mem_singleton.mpr absent
  · exact fun before after absent later => List.forall_mem_cons.mpr ⟨absent, later⟩

/-- The elements of the pieces are those of the sequence that are no marks. -/
theorem exists_mem_split_iff {mark element : Element} (other : element ≠ mark)
    (sequence : List Element) :
    (∃ piece ∈ split [mark] sequence, element ∈ piece) ↔ element ∈ sequence := by
  refine split_induction
    (motive := fun sequence pieces => (∃ piece ∈ pieces, element ∈ piece) ↔ element ∈ sequence)
    ?_ ?_ sequence
  · exact fun sequence _ => by simp
  · intro before after _ later
    simp only [List.mem_cons, or_and_right, exists_or, exists_eq_left, later, List.mem_append,
      other, false_or]

end WebFetch
