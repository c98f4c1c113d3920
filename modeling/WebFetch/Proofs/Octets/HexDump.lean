/-
This file is about what a dump shows. Whoever reads the columns of its lines, each up to the first
column that holds no octet, has the octets that were to be shown, sixteen from a line and the rest
from the last. Each line ends with the characters of its octets, and only the last line says that
octets were left out, if they were.
-/

import Mathlib.Data.List.Forall2
import WebFetch.Octets.HexDump
import WebFetch.Proofs.Cut
import WebFetch.Text.Numeral

namespace WebFetch.HexDump

/-! ### Reading a line -/

/-- The octets in the columns of a line, up to the first that does not hold two digits and a
blank. -/
def readColumns : List Char → Octets
  | high :: low :: ' ' :: rest =>
    match Numeral.digit? 16 high, Numeral.digit? 16 low with
    | some high, some low => UInt8.ofNat (high * 16 + low) :: readColumns rest
    | _, _ => []
  | _ => []

/-- Whether a character stands for an octet: it has the number of the octet if this is printable
ASCII, and is a point if not. -/
def StandsFor (character : Char) (octet : UInt8) : Prop :=
  if 0x20 ≤ octet.toNat ∧ octet.toNat ≤ 0x7e then character.toNat = octet.toNat
  else character = '.'

theorem digit?_hexDigit : ∀ value < 16, Numeral.digit? 16 (Octets.hexDigit value) = some value := by
  decide

theorem standsFor_character (octet : UInt8) : StandsFor (character octet) octet := by
  have codes : ∀ code ≤ 0x7e, (Char.ofNat code).toNat = code := by decide
  by_cases printable : 0x20 ≤ octet ∧ octet ≤ 0x7e
  · have between : 0x20 ≤ octet.toNat ∧ octet.toNat ≤ 0x7e := printable
    rw [StandsFor, if_pos between, character, if_pos printable]
    exact codes _ between.2
  · have outside : ¬ (0x20 ≤ octet.toNat ∧ octet.toNat ≤ 0x7e) := printable
    rw [StandsFor, if_neg outside]
    exact if_neg printable

/-- No octet is shown as the end of a line. -/
theorem character_ne_lineEnd (octet : UInt8) : character octet ≠ '\n' := by
  intro same
  have standsFor := standsFor_character octet
  rw [same, StandsFor] at standsFor
  split at standsFor
  · rename_i printable
    exact absurd (standsFor ▸ printable.1) (by decide)
  · exact absurd standsFor (by decide)

/-- A line does not go on where no digit stands. -/
theorem readColumns_of_none {first : Char} (rest : List Char)
    (undigital : Numeral.digit? 16 first = none) : readColumns (first :: rest) = [] := by
  unfold readColumns
  split
  · rename_i high low later same
    cases same
    rw [undigital]
  · rfl

/-! ### One line -/

/-- The columns of octets. -/
def columns (octets : Octets) : List Char :=
  octets.flatMap fun octet => Octets.hexDigits octet ++ [' ']

/-- What stands between the columns of a line and its characters. -/
def margin (mark : List Char) (octets : Octets) : List Char :=
  mark ++ List.replicate (characterColumn - (columns octets ++ mark).length) ' '

/-- A line without its end. -/
def row (mark : List Char) (octets : Octets) : List Char :=
  columns octets ++ margin mark octets ++ octets.map character

theorem line_eq (mark : List Char) (octets : Octets) :
    line mark octets = row mark octets ++ ['\n'] := by
  rw [row, margin, ← List.append_assoc]
  rfl

theorem length_columns (octets : Octets) : (columns octets).length = 3 * octets.length := by
  induction octets with
  | nil => rfl
  | cons octet octets inductionHypothesis =>
    rw [columns, List.flatMap_cons, List.length_append, ← columns, inductionHypothesis,
      List.length_cons, Nat.mul_succ, Nat.add_comm]
    rfl

/-- The columns of octets are read back, and reading goes on behind them. -/
theorem readColumns_columns (octets : Octets) (rest : List Char) :
    readColumns (columns octets ++ rest) = octets ++ readColumns rest := by
  induction octets with
  | nil => rfl
  | cons octet octets inductionHypothesis =>
    have high := digit?_hexDigit (octet.toNat / 16) (by have := octet.toNat_lt; omega)
    have low := digit?_hexDigit (octet.toNat % 16) (Nat.mod_lt _ (by decide))
    show readColumns (Octets.hexDigit (octet.toNat / 16) :: Octets.hexDigit (octet.toNat % 16) ::
      ' ' :: (columns octets ++ rest)) = _
    rw [readColumns, high, low]
    dsimp only
    rw [Nat.div_add_mod', UInt8.ofNat_toNat, inductionHypothesis]
    rfl

/-- Whether a line ends its columns with this: with nothing, or saying that octets were left
out. -/
def IsMark (mark : List Char) : Prop := mark = [] ∨ mark = cutMark

/-- A mark may be given to some lines only. -/
theorem IsMark.ite {mark : List Char} (isMark : IsMark mark) (carried : Prop)
    [Decidable carried] : IsMark (if carried then mark else []) := by
  split
  · exact isMark
  · exact Or.inl rfl

theorem IsMark.unended {mark : List Char} (isMark : IsMark mark) : '\n' ∉ mark := by
  rcases isMark with rfl | rfl
  · exact List.not_mem_nil
  · decide

/-- Behind the columns comes the mark, or a blank for which there is always room. -/
theorem exists_margin_eq {mark : List Char} {octets : Octets} (few : octets.length ≤ lineOctets)
    (isMark : IsMark mark) :
    ∃ later, margin mark octets = (if mark = [] then ' ' else 's') :: later := by
  rcases isMark with rfl | rfl
  · -- Sixteen octets fill forty-eight columns, and the characters begin two further on.
    have room : characterColumn - (columns octets ++ []).length =
        characterColumn - (columns octets ++ []).length - 1 + 1 := by
      rw [List.append_nil, length_columns]
      simp only [characterColumn, lineOctets] at few ⊢
      omega
    exact ⟨_, by rw [margin, room, List.replicate_succ]; rfl⟩
  · exact ⟨_, rfl⟩

/-- No octet is read behind the columns. -/
theorem readColumns_row {mark : List Char} {octets : Octets} (few : octets.length ≤ lineOctets)
    (isMark : IsMark mark) : readColumns (row mark octets) = octets := by
  obtain ⟨later, begins⟩ := exists_margin_eq few isMark
  -- Neither a blank nor the first letter of the mark can be taken for a digit.
  have undigital : Numeral.digit? 16 (if mark = [] then ' ' else 's') = none := by
    split
    · rfl
    · rfl
  rw [row, List.append_assoc, readColumns_columns, begins, List.cons_append,
    readColumns_of_none _ undigital, List.append_nil]

/-- The mark stands behind the columns of the line that carries it, and of no other. -/
theorem cutMark_isPrefix_iff {mark : List Char} {octets : Octets}
    (few : octets.length ≤ lineOctets) (isMark : IsMark mark) :
    cutMark <+: (row mark octets).drop (3 * octets.length) ↔ mark = cutMark := by
  rw [row, List.append_assoc, ← length_columns, List.drop_left]
  constructor
  · intro stands
    obtain ⟨later, begins⟩ := exists_margin_eq few isMark
    rw [begins] at stands
    rcases isMark with rfl | rfl
    · exact absurd (List.cons_prefix_cons.mp stands).1 (by decide)
    · rfl
  · rintro rfl
    rw [margin, List.append_assoc]
    exact List.prefix_append _ _

/-- The characters begin in their column, or behind the mark if that reaches further. -/
theorem length_row (mark : List Char) (octets : Octets) :
    (row mark octets).length =
      max characterColumn (3 * octets.length + mark.length) + octets.length := by
  simp only [row, margin, List.length_append, List.length_replicate, List.length_map,
    length_columns]
  omega

/-- A line ends with the characters of its octets. -/
theorem forall₂_standsFor_drop_row (mark : List Char) (octets : Octets) :
    List.Forall₂ StandsFor ((row mark octets).drop ((row mark octets).length - octets.length))
      octets := by
  have before : (row mark octets).length - octets.length =
      (columns octets ++ margin mark octets).length := by
    rw [row, List.length_append, List.length_map, Nat.add_sub_cancel]
  rw [before, row, List.drop_left, List.forall₂_map_left_iff, List.forall₂_same]
  exact fun octet _ => standsFor_character octet

/-- A line ends only at its end. -/
theorem not_mem_row {mark : List Char} (isMark : IsMark mark) (octets : Octets) :
    '\n' ∉ row mark octets := by
  have digits : ∀ value < 16, Octets.hexDigit value ≠ '\n' := by decide
  have inColumns : '\n' ∉ columns octets := by
    intro member
    obtain ⟨octet, _, member⟩ := List.mem_flatMap.mp member
    have high := digits (octet.toNat / 16) (by have := octet.toNat_lt; omega)
    have low := digits (octet.toNat % 16) (Nat.mod_lt _ (by decide))
    simp [Octets.hexDigits, high.symm, low.symm] at member
  have inMargin : '\n' ∉ margin mark octets := by
    rw [margin, List.mem_append, not_or]
    exact ⟨isMark.unended, fun member => absurd (List.eq_of_mem_replicate member) (by decide)⟩
  have inCharacters : '\n' ∉ octets.map character := by
    intro member
    obtain ⟨octet, _, same⟩ := List.mem_map.mp member
    exact character_ne_lineEnd octet same
  rw [row, List.mem_append, List.mem_append, not_or, not_or]
  exact ⟨⟨inColumns, inMargin⟩, inCharacters⟩

/-! ### The lines of a dump -/

/-- How many lines show so many octets. -/
def rowCount (octets : Octets) : Nat := (octets.length + (lineOctets - 1)) / lineOctets

/-- The octets that the line with an index shows. -/
def part (octets : Octets) (index : Nat) : Octets :=
  (octets.drop (lineOctets * index)).take lineOctets

/-- The lines of a dump without their ends. -/
def rows (mark : List Char) (octets : Octets) : List (List Char) :=
  (List.range (rowCount octets)).map fun index =>
    row (if index + 1 = rowCount octets then mark else []) (part octets index)

theorem rowCount_of_le {octets : Octets} (some : octets ≠ []) (few : octets.length ≤ lineOctets) :
    rowCount octets = 1 := by
  have positive := List.length_pos_iff.mpr some
  simp only [rowCount, lineOctets] at few ⊢
  omega

theorem rowCount_of_lt {octets : Octets} (many : lineOctets < octets.length) :
    rowCount octets = rowCount (octets.drop lineOctets) + 1 := by
  simp only [rowCount, List.length_drop, lineOctets] at many ⊢
  omega

theorem part_succ (octets : Octets) (index : Nat) :
    part octets (index + 1) = part (octets.drop lineOctets) index := by
  rw [part, part, List.drop_drop, Nat.mul_succ, Nat.add_comm]

/-- What holds of octets for one line at most, and of more if it holds of those behind the first
line, holds of all. -/
theorem lines_induction {motive : Octets → Prop} (none : motive [])
    (one : ∀ octets, octets ≠ [] → octets.length ≤ lineOctets → motive octets)
    (more : ∀ octets, lineOctets < octets.length → motive (octets.drop lineOctets) →
      motive octets) (octets : Octets) : motive octets := by
  induction length : octets.length using Nat.strongRecOn generalizing octets with
  | ind count inductionHypothesis =>
    subst length
    by_cases empty : octets = []
    · rw [empty]
      exact none
    · by_cases few : octets.length ≤ lineOctets
      · exact one octets empty few
      · have shorter : (octets.drop lineOctets).length < octets.length := by
          rw [List.length_drop]
          exact Nat.sub_lt (List.length_pos_iff.mpr empty) (by decide)
        exact more octets (Nat.lt_of_not_le few) (inductionHypothesis _ shorter _ rfl)

/-- The octets of all lines are the octets. -/
theorem flatMap_part (octets : Octets) :
    (List.range (rowCount octets)).flatMap (part octets) = octets := by
  induction octets using lines_induction with
  | none => rfl
  | one octets some few =>
    rw [rowCount_of_le some few, List.range_one, List.flatMap_singleton, part, Nat.mul_zero,
      List.drop_zero, List.take_of_length_le few]
  | more octets many inductionHypothesis =>
    have later : (List.range (rowCount (octets.drop lineOctets))).flatMap
        (fun index => part octets (index + 1)) = octets.drop lineOctets := by
      simp only [part_succ, inductionHypothesis]
    rw [rowCount_of_lt many, List.range_succ_eq_map, List.flatMap_cons, List.flatMap_map, later]
    exact List.take_append_drop lineOctets octets

theorem lines_of_le (mark : List Char) {octets : Octets} (some : octets ≠ [])
    (few : octets.length ≤ lineOctets) : lines mark octets = [line mark octets] := by
  cases octets with
  | nil => exact absurd rfl some
  | cons octet rest =>
    have short : rest.length ≤ lineOctets - 1 := Nat.le_sub_one_of_lt few
    rw [lines, List.drop_of_length_le short, List.take_of_length_le short]

theorem lines_of_lt (mark : List Char) {octets : Octets} (many : lineOctets < octets.length) :
    lines mark octets =
      line [] (octets.take lineOctets) :: lines mark (octets.drop lineOctets) := by
  cases octets with
  | nil => cases many
  | cons octet rest =>
    have long : rest.drop (lineOctets - 1) ≠ [] := by
      intro nothing
      have short := List.drop_eq_nil_iff.mp nothing
      simp only [List.length_cons, lineOctets] at many short
      omega
    rw [lines]
    cases later : rest.drop (lineOctets - 1) with
    | nil => exact absurd later long
    | cons next others =>
      have same : (octet :: rest).drop lineOctets = next :: others := later
      rw [same]
      rfl

theorem rows_of_le (mark : List Char) {octets : Octets} (some : octets ≠ [])
    (few : octets.length ≤ lineOctets) : rows mark octets = [row mark octets] := by
  rw [rows, rowCount_of_le some few, List.range_one, List.map_singleton, if_pos rfl, part,
    Nat.mul_zero, List.drop_zero, List.take_of_length_le few]

theorem rows_of_lt (mark : List Char) {octets : Octets} (many : lineOctets < octets.length) :
    rows mark octets =
      row [] (octets.take lineOctets) :: rows mark (octets.drop lineOctets) := by
  have others : rowCount (octets.drop lineOctets) ≠ 0 := by
    simp only [rowCount, List.length_drop, lineOctets] at many ⊢
    omega
  -- A line follows, so the first one is not the one that carries the mark.
  have unmarked : ¬ 0 + 1 = rowCount (octets.drop lineOctets) + 1 := by omega
  rw [rows, rowCount_of_lt many, List.range_succ_eq_map, List.map_cons, List.map_map,
    if_neg unmarked]
  simp only [Function.comp_def, Nat.succ_eq_add_one, part_succ, Nat.add_right_cancel_iff]
  rfl

/-- The lines of a dump are its rows, each ended. -/
theorem lines_eq (mark : List Char) (octets : Octets) :
    lines mark octets = (rows mark octets).map (· ++ ['\n']) := by
  induction octets using lines_induction with
  | none =>
    rw [lines]
    rfl
  | one octets some few =>
    rw [lines_of_le mark some few, rows_of_le mark some few, line_eq, List.map_singleton]
  | more octets many inductionHypothesis =>
    rw [lines_of_lt mark many, rows_of_lt mark many, line_eq, inductionHypothesis, List.map_cons]

/-! ### What a dump shows -/

/-- Octets are left out only if there is a limit and they are more. -/
theorem shown_eq (octets : Octets) (limit : Nat) :
    shown octets limit =
      if limit = 0 ∨ octets.length ≤ limit then octets else octets.take limit := by
  unfold shown
  by_cases unlimited : limit = 0
  · rw [if_pos unlimited, if_pos (Or.inl unlimited)]
  · by_cases few : octets.length ≤ limit
    · rw [if_neg unlimited, if_pos (Or.inr few), List.take_of_length_le few]
    · rw [if_neg unlimited, if_neg (not_or.mpr ⟨unlimited, few⟩)]

/-- The mark on the last line of a dump: something was left out, or nothing. -/
def markOf (octets : Octets) (limit : Nat) : List Char :=
  if limit ≠ 0 ∧ limit < octets.length then cutMark else []

theorem isMark_markOf (octets : Octets) (limit : Nat) : IsMark (markOf octets limit) :=
  IsMark.ite (Or.inr rfl) _

theorem markOf_eq_cutMark_iff (octets : Octets) (limit : Nat) :
    markOf octets limit = cutMark ↔ limit ≠ 0 ∧ limit < octets.length := by
  unfold markOf
  split
  · rename_i leavesOut
    exact iff_of_true rfl leavesOut
  · rename_i complete
    exact iff_of_false (by decide) complete

/-- A dump consists of its rows, each ended. -/
theorem split_render (octets : Octets) (limit : Nat) :
    split ['\n'] (render octets limit).toList =
      rows (markOf octets limit) (shown octets limit) ++ [[]] := by
  have written : (render octets limit).toList =
      ((rows (markOf octets limit) (shown octets limit)).map (· ++ ['\n'])).flatten := by
    rw [← lines_eq, render, String.toList_ofList]
    rfl
  rw [written]
  refine split_flatten_ended fun line member => ?_
  obtain ⟨index, _, rfl⟩ := List.mem_map.mp member
  exact not_mem_row ((isMark_markOf octets limit).ite _) _

theorem length_part_le (octets : Octets) (index : Nat) :
    (part octets index).length ≤ lineOctets :=
  List.length_take_le _ _

/-- Every line but the last shows sixteen octets. -/
theorem length_part_of_lt {octets : Octets} {index : Nat} (later : index + 1 < rowCount octets) :
    (part octets index).length = lineOctets := by
  simp only [part, rowCount, List.length_take, List.length_drop, lineOctets] at later ⊢
  omega

/-- The octets are read back from the rows. -/
theorem flatMap_readColumns_rows {mark : List Char} (octets : Octets)
    (isMark : IsMark mark) : (rows mark octets).flatMap readColumns = octets := by
  have each (index : Nat) : readColumns (row (if index + 1 = rowCount octets then mark else [])
      (part octets index)) = part octets index :=
    readColumns_row (length_part_le octets index) (isMark.ite _)
  rw [rows, List.flatMap_map]
  simp only [each, flatMap_part]

/-- Whether a line shows octets, and says or does not say that octets were left out. -/
structure Shows (line : List Char) (octets : Octets) (leftOut : Prop) : Prop where
  /-- The octets are read from the columns of the line. -/
  columns : readColumns line = octets
  /-- The line ends with one character for each octet. -/
  characters : List.Forall₂ StandsFor (line.drop (line.length - octets.length)) octets
  /-- The mark stands right behind the columns. -/
  mark : cutMark <+: line.drop (3 * octets.length) ↔ leftOut
  /-- Without the mark, the characters begin in their column. -/
  column : ¬ cutMark <+: line.drop (3 * octets.length) → line.length - octets.length = 50

theorem shows_row {mark : List Char} {octets : Octets} (few : octets.length ≤ lineOctets)
    (isMark : IsMark mark) : Shows (row mark octets) octets (mark = cutMark) where
  columns := readColumns_row few isMark
  characters := forall₂_standsFor_drop_row mark octets
  mark := cutMark_isPrefix_iff few isMark
  column unmarked := by
    rw [cutMark_isPrefix_iff few isMark] at unmarked
    rw [length_row, Nat.add_sub_cancel, isMark.resolve_right unmarked]
    simp only [characterColumn, lineOctets, List.length_nil] at few ⊢
    omega

theorem length_rows (mark : List Char) (octets : Octets) :
    (rows mark octets).length = rowCount octets := by
  rw [rows, List.length_map, List.length_range]

/-- A line shows the octets of its index, and only the last line carries the mark. -/
theorem shows_getElem_rows {mark : List Char} {octets : Octets} {index : Nat}
    (isMark : IsMark mark) (inside : index < (rows mark octets).length) :
    Shows (rows mark octets)[index] (part octets index)
      (mark = cutMark ∧ index + 1 = (rows mark octets).length) := by
  have found : (rows mark octets)[index] =
      row (if index + 1 = rowCount octets then mark else []) (part octets index) := by
    simp only [rows, List.getElem_map, List.getElem_range]
  have carries : (if index + 1 = rowCount octets then mark else []) = cutMark ↔
      mark = cutMark ∧ index + 1 = rowCount octets := by
    by_cases last : index + 1 = rowCount octets
    · rw [if_pos last, and_iff_left last]
    · rw [if_neg last]
      exact iff_of_false (by decide) fun both => last both.2
  rw [found, length_rows, ← carries]
  exact shows_row (length_part_le octets index) (isMark.ite _)

/-- A dump consists of ended lines, one for each sixteen octets that it shows and one for the rest.
All octets that it shows are read back from the columns of the lines. Each line ends with the
characters of its octets, which begin in column 50 unless the line is marked, and the line that is
marked is the last one of a dump that leaves octets out. -/
theorem render_shows_octets (octets : Octets) (limit : Nat) :
    let shown := if limit = 0 ∨ octets.length ≤ limit then octets else octets.take limit
    let leavesOut := limit ≠ 0 ∧ limit < octets.length
    ∃ lines : List (List Char),
      split ['\n'] (render octets limit).toList = lines ++ [[]] ∧
      lines.length = (shown.length + 15) / 16 ∧
      lines.flatMap readColumns = shown ∧
      ∀ (index : Nat) (inside : index < lines.length),
        Shows lines[index] ((shown.drop (16 * index)).take 16)
          (leavesOut ∧ index + 1 = lines.length) ∧
        (index + 1 < lines.length → (readColumns lines[index]).length = 16) := by
  intro shown leavesOut
  have isMark := isMark_markOf octets limit
  refine ⟨rows (markOf octets limit) shown, ?_, length_rows _ shown,
    flatMap_readColumns_rows shown isMark, fun index inside => ?_⟩
  · rw [split_render, shown_eq]
  · have shows := shows_getElem_rows isMark inside
    refine ⟨?_, fun later => ?_⟩
    · rw [markOf_eq_cutMark_iff] at shows
      exact shows
    · rw [shows.columns]
      rw [length_rows] at later
      exact length_part_of_lt later

/-- One octet more than a dump with a limit of thirty shows. -/
def countedOctets : Octets := (List.range 31).map UInt8.ofNat

/-- The mark on a line of fourteen octets reaches beyond the column of the characters. -/
theorem render_shows_octets_countedOctets :
    ∃ first last : List Char,
      split ['\n'] (render countedOctets 30).toList = [first, last, []] ∧
        Shows first (countedOctets.take 16) False ∧
        Shows last ((countedOctets.take 30).drop 16) True := by
  obtain ⟨lines, ended, count, _, each⟩ := render_shows_octets countedOctets 30
  match lines with
  | [first, last] =>
    have firstShows := (each 0 Nat.zero_lt_two).1
    have lastShows := (each 1 Nat.one_lt_two).1
    have notLast : ¬ ((30 ≠ 0 ∧ 30 < countedOctets.length) ∧ 0 + 1 = 2) := by decide
    have cut : (30 ≠ 0 ∧ 30 < countedOctets.length) ∧ 1 + 1 = 2 := by decide
    exact ⟨first, last, ended, eq_false notLast ▸ firstShows, eq_true cut ▸ lastShows⟩

end WebFetch.HexDump
