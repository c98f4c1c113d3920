/-
This file is about the frames that carry a header block. The block is cut into pieces of one size,
of which only the last may be shorter, and each piece becomes the payload of one frame: the first
begins the block and ends the stream, the others continue the block, and the last says that it ends.
The pieces fit into frames if the first one does.
-/

import WebFetch.Proofs.Frame.Sequence
import WebFetch.Session.Request

namespace WebFetch.Session

/-! ### Pieces -/

theorem piecesFrom_of_le {size : Nat} {octets : Octets} (found : List Octets)
    (short : octets.length ≤ size + 1) :
    piecesFrom size found octets = (octets :: found).reverse := by
  rw [piecesFrom]
  split
  · rfl
  · rename_i remains
    rw [List.drop_eq_nil_of_le short] at remains
    cases remains

theorem piecesFrom_of_lt {size : Nat} {octets : Octets} (found : List Octets)
    (long : size + 1 < octets.length) :
    piecesFrom size found octets =
      piecesFrom size (octets.take (size + 1) :: found) (octets.drop (size + 1)) := by
  rw [piecesFrom]
  split
  · rename_i remains
    rw [List.drop_eq_nil_iff] at remains
    exact absurd remains (Nat.not_le_of_lt long)
  · rename_i remains
    exact congrArg (piecesFrom size (octets.take (size + 1) :: found)) remains.symm

/-- The pieces found before stand before those that are found. -/
theorem piecesFrom_eq (size : Nat) (found : List Octets) (octets : Octets) :
    piecesFrom size found octets = found.reverse ++ piecesFrom size [] octets := by
  induction length : octets.length using Nat.strongRecOn generalizing found octets with
  | ind count inductionHypothesis =>
    subst length
    by_cases short : octets.length ≤ size + 1
    · rw [piecesFrom_of_le found short, piecesFrom_of_le [] short, List.reverse_cons]
      rfl
    · have long : size + 1 < octets.length := Nat.lt_of_not_le short
      have shorter : (octets.drop (size + 1)).length < octets.length := by
        rw [List.length_drop]
        omega
      rw [piecesFrom_of_lt found long, piecesFrom_of_lt [] long,
        inductionHypothesis _ shorter (_ :: found) _ rfl, inductionHypothesis _ shorter [_] _ rfl,
        List.reverse_cons, List.append_assoc]
      rfl

theorem pieces_of_le {limit : Nat} {block : Octets} (short : block.length ≤ max limit 1) :
    pieces limit block = [block] :=
  piecesFrom_of_le [] (by omega)

theorem pieces_of_lt {limit : Nat} {block : Octets} (long : max limit 1 < block.length) :
    pieces limit block =
      block.take (max limit 1) :: pieces limit (block.drop (max limit 1)) := by
  have size : limit - 1 + 1 = max limit 1 := by omega
  rw [pieces, piecesFrom_of_lt [] (by omega), piecesFrom_eq, size]
  rfl

/-- The pieces of a block, one after the other, are the block; there is at least one, none is longer
than the limit, only the last is shorter, and the first has as much of the block as it can. -/
theorem pieces_cut (limit : Nat) (block : Octets) :
    ∃ first others, pieces limit block = first :: others ∧
      (first :: others).flatten = block ∧
      first.length = min block.length (max limit 1) ∧
      (∀ piece ∈ first :: others, piece.length ≤ min block.length (max limit 1)) ∧
      ∀ place piece, (first :: others)[place]? = some piece → place + 1 ≠ others.length + 1 →
        piece.length = max limit 1 := by
  induction length : block.length using Nat.strongRecOn generalizing block with
  | ind count inductionHypothesis =>
    subst length
    by_cases short : block.length ≤ max limit 1
    · refine ⟨block, [], pieces_of_le short, ?_, ?_, ?_, ?_⟩
      · rw [List.flatten_cons, List.flatten_nil, List.append_nil]
      · omega
      · intro piece member
        rw [List.mem_singleton.mp member]
        omega
      · intro place piece found notLast
        have inside := (List.getElem?_eq_some_iff.mp found).1
        simp only [List.length_singleton, List.length_nil] at inside notLast
        omega
    · have long : max limit 1 < block.length := Nat.lt_of_not_le short
      have shorter : (block.drop (max limit 1)).length < block.length := by
        rw [List.length_drop]
        omega
      obtain ⟨second, others, cut, whole, _, bounded, full⟩ := inductionHypothesis _ shorter _ rfl
      have firstLength : (block.take (max limit 1)).length = max limit 1 := by
        rw [List.length_take]
        omega
      refine ⟨block.take (max limit 1), second :: others, ?_, ?_, ?_, ?_, ?_⟩
      · rw [pieces_of_lt long, cut]
      · rw [List.flatten_cons, whole, List.take_append_drop]
      · omega
      · intro piece member
        rcases List.mem_cons.mp member with rfl | later
        · omega
        · have small := bounded piece later
          omega
      · intro place piece found notLast
        cases place with
        | zero =>
          rw [List.getElem?_cons_zero, Option.some.injEq] at found
          rw [← found, firstLength]
        | succ place =>
          rw [List.getElem?_cons_succ] at found
          exact full place piece found (by simpa using notLast)

/-! ### Frames -/

/-- The flags of a frame that begins a block, or not, and ends it, or not. -/
def pieceFlags (begins ends : Bool) : UInt8 :=
  (if begins then Flag.endStream else 0) ||| (if ends then Flag.endHeaders else 0)

theorem pieceFlags_endStream :
    ∀ begins ends, (pieceFlags begins ends &&& Flag.endStream != 0) = begins := by
  decide

theorem pieceFlags_endHeaders :
    ∀ begins ends, (pieceFlags begins ends &&& Flag.endHeaders != 0) = ends := by
  decide

theorem pieceFlags_others :
    ∀ begins ends, (pieceFlags begins ends &&& Flag.padded != 0) = false ∧
      (pieceFlags begins ends &&& Flag.priority != 0) = false := by
  decide

theorem pieceFlags_continuation :
    ∀ ends, pieceFlags false ends = if ends then Flag.endHeaders else 0 := by
  decide

/-- The frame that carries the piece of a block at a place. -/
def pieceFrame (place : Nat) (ends : Bool) (piece : Octets) : Frame :=
  ⟨if place = 0 then .headers else .continuation, pieceFlags (decide (place = 0)) ends,
    requestStream, piece⟩

/-- The frames of pieces of which the first is at a place. -/
def pieceFrames (place : Nat) : List Octets → List Frame
  | [] => []
  | piece :: later => pieceFrame place later.isEmpty piece :: pieceFrames (place + 1) later

theorem pieceFrame_fits {place : Nat} {ends : Bool} {piece : Octets}
    (small : piece.length < wordLimit24) : (pieceFrame place ends piece).Fits := by
  refine ⟨?_, small, (by decide : requestStream.toNat < wordLimit31)⟩
  unfold pieceFrame
  split <;> rfl

theorem pieceFrames_fit {place : Nat} {pieces : List Octets}
    (small : ∀ piece ∈ pieces, piece.length < wordLimit24) :
    ∀ frame ∈ pieceFrames place pieces, frame.Fits := by
  induction pieces generalizing place with
  | nil =>
    intro frame member
    cases member
  | cons piece later inductionHypothesis =>
    intro frame member
    rcases List.mem_cons.mp member with rfl | other
    · exact pieceFrame_fits (small piece List.mem_cons_self)
    · exact inductionHypothesis (fun other member => small other (List.mem_cons_of_mem _ member))
        frame other

theorem length_pieceFrames (place : Nat) (pieces : List Octets) :
    (pieceFrames place pieces).length = pieces.length := by
  induction pieces generalizing place with
  | nil => rfl
  | cons piece later inductionHypothesis =>
    exact congrArg (· + 1) (inductionHypothesis (place + 1))

/-- The frame at each place carries the piece at this place. -/
theorem getElem?_pieceFrames (place step : Nat) (pieces : List Octets) :
    (pieceFrames place pieces)[step]? =
      pieces[step]?.map (pieceFrame (place + step) (decide (step + 1 = pieces.length))) := by
  induction pieces generalizing place step with
  | nil => rfl
  | cons piece later inductionHypothesis =>
    cases step with
    | zero =>
      cases later <;> rfl
    | succ step =>
      have ends : decide (step + 1 + 1 = (piece :: later).length) =
          decide (step + 1 = later.length) := by simp
      rw [pieceFrames, List.getElem?_cons_succ, List.getElem?_cons_succ, inductionHypothesis, ends,
        Nat.add_right_comm, Nat.add_assoc]

/-- What is built for one piece of a block. -/
def buildPiece (count : Nat) (numbered : Octets × Nat) : Except FrameError Frame :=
  if numbered.2 = 0 then
    Frame.headers requestStream numbered.1 true (decide (numbered.2 + 1 = count))
  else Frame.continuation requestStream numbered.1 (decide (numbered.2 + 1 = count))

theorem blockFrames_eq (limit : Nat) (block : Octets) :
    blockFrames limit block =
      (pieces limit block).zipIdx.mapM (buildPiece (pieces limit block).length) := rfl

/-- A piece that is small enough gets its frame. -/
theorem buildPiece_of_lt {count place : Nat} {piece : Octets}
    (small : piece.length < wordLimit24) :
    buildPiece count (piece, place) =
      .ok (pieceFrame place (decide (place + 1 = count)) piece) := by
  have stream : ¬ Frame.maxStream < requestStream := by decide
  unfold buildPiece pieceFrame
  by_cases first : place = 0
  · rw [if_pos first, if_pos first, decide_eq_true first, Frame.headers, Frame.checked,
      if_neg (Nat.not_le_of_lt small), if_neg stream]
    rfl
  · rw [if_neg first, if_neg first, decide_eq_false first, Frame.continuation, Frame.checked,
      if_neg (Nat.not_le_of_lt small), if_neg stream, pieceFlags_continuation]

/-- A piece that is too large for the length of a frame gets none. -/
theorem buildPiece_of_le {count place : Nat} {piece : Octets}
    (large : wordLimit24 ≤ piece.length) :
    buildPiece count (piece, place) = .error (.lengthTooLarge piece.length) := by
  unfold buildPiece
  split
  · rw [Frame.headers, Frame.checked, if_pos large]
  · rw [Frame.continuation, Frame.checked, if_pos large]

/-- Pieces that are small enough get their frames in order. -/
theorem buildPieces_of_lt {count place : Nat} {pieces : List Octets}
    (counted : place + pieces.length = count)
    (small : ∀ piece ∈ pieces, piece.length < wordLimit24) :
    (pieces.zipIdx place).mapM (buildPiece count) = .ok (pieceFrames place pieces) := by
  induction pieces generalizing place with
  | nil => rfl
  | cons piece later inductionHypothesis =>
    have ends : decide (place + 1 = count) = later.isEmpty := by
      rw [← counted, List.length_cons]
      cases later with
      | nil => simp
      | cons next later => simp
    rw [List.zipIdx_cons, List.mapM_cons, buildPiece_of_lt (small piece List.mem_cons_self),
      inductionHypothesis (by rw [← counted, List.length_cons]; omega) fun other member =>
        small other (List.mem_cons_of_mem _ member), ends]
    rfl

/-- A block whose first piece fits into a frame gets a frame for each piece. -/
theorem blockFrames_of_lt {limit : Nat} {block : Octets}
    (small : min block.length (max limit 1) < wordLimit24) :
    blockFrames limit block = .ok (pieceFrames 0 (pieces limit block)) := by
  obtain ⟨first, others, cut, _, _, bounded, _⟩ := pieces_cut limit block
  rw [blockFrames_eq, cut]
  exact buildPieces_of_lt (Nat.zero_add _) fun piece member =>
    Nat.lt_of_le_of_lt (bounded piece member) small

/-- A block whose first piece is too large for a frame gets no frames. -/
theorem blockFrames_of_le {limit : Nat} {block : Octets}
    (large : wordLimit24 ≤ min block.length (max limit 1)) :
    blockFrames limit block = .error (.lengthTooLarge (min block.length (max limit 1))) := by
  obtain ⟨first, others, cut, _, length, _, _⟩ := pieces_cut limit block
  rw [← length] at large ⊢
  rw [blockFrames_eq, cut, List.zipIdx_cons, List.mapM_cons, buildPiece_of_le large]
  rfl

/-- The frames of a block fit their fields. -/
theorem fits_of_blockFrames {limit : Nat} {block : Octets} {frames : List Frame}
    (built : blockFrames limit block = .ok frames) : ∀ frame ∈ frames, frame.Fits := by
  by_cases small : min block.length (max limit 1) < wordLimit24
  · obtain ⟨first, others, cut, _, _, bounded, _⟩ := pieces_cut limit block
    rw [blockFrames_of_lt small, cut] at built
    cases built
    exact pieceFrames_fit fun piece member => Nat.lt_of_le_of_lt (bounded piece member) small
  · rw [blockFrames_of_le (Nat.le_of_not_lt small)] at built
    cases built

end WebFetch.Session
