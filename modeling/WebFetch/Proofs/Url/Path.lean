/-
This file is about normal paths: segments with a slash before each, of which none is empty or made
of dots, but the last one may be empty. What normalizing a path gives is normal, and a normal path
stays as it is. A path that does not name a directory keeps its end.
-/

import WebFetch.Proofs.Cut
import WebFetch.Url.Path

namespace WebFetch.Path

/-! ### Normal paths -/

/-- Whether a text may stand between the slashes of a normal path. -/
def IsSegment (segment : List Char) : Prop :=
  segment ≠ [] ∧ segment ≠ ['.'] ∧ segment ≠ ['.', '.'] ∧ '/' ∉ segment

/-- Whether a path is made of segments with a slash before each, of which the last one may be
empty. -/
def IsNormal (path : List Char) : Prop :=
  ∃ segments last, path = (segments ++ [last]).flatMap ('/' :: ·) ∧
    (∀ segment ∈ segments, IsSegment segment) ∧ (last = [] ∨ IsSegment last)

theorem head?_of_isNormal {path : List Char} (normal : IsNormal path) : path.head? = some '/' := by
  obtain ⟨segments, last, rfl, _⟩ := normal
  cases segments <;> rfl

/-! ### Segments that are kept -/

theorem push_of_isSegment {segment : List Char} (kept : List (List Char))
    (isSegment : IsSegment segment) : push kept segment = segment :: kept := by
  obtain ⟨some, noDot, noDots, _⟩ := isSegment
  rw [push, if_neg (not_or.mpr ⟨some, noDot⟩), if_neg noDots]

theorem foldl_push_of_isSegment {segments : List (List Char)} (kept : List (List Char))
    (proper : ∀ segment ∈ segments, IsSegment segment) :
    segments.foldl push kept = segments.reverse ++ kept := by
  induction segments generalizing kept with
  | nil => rfl
  | cons segment segments inductionHypothesis =>
    obtain ⟨isSegment, later⟩ := List.forall_mem_cons.mp proper
    rw [List.foldl_cons, push_of_isSegment kept isSegment, inductionHypothesis _ later,
      List.reverse_cons, List.append_assoc]
    rfl

/-- Only segments of a normal path are kept. -/
theorem forall_isSegment_foldl_push {kept pieces : List (List Char)}
    (proper : ∀ segment ∈ kept, IsSegment segment) (unslashed : ∀ piece ∈ pieces, '/' ∉ piece) :
    ∀ segment ∈ pieces.foldl push kept, IsSegment segment := by
  induction pieces generalizing kept with
  | nil => exact proper
  | cons piece pieces inductionHypothesis =>
    obtain ⟨noSlash, later⟩ := List.forall_mem_cons.mp unslashed
    refine inductionHypothesis ?_ later
    unfold push
    split
    · exact proper
    · rename_i some
      split
      · exact fun segment member => proper segment (List.mem_of_mem_tail member)
      · rename_i noDots
        have some := not_or.mp some
        exact List.forall_mem_cons.mpr ⟨⟨some.1, some.2, noDots, noSlash⟩, proper⟩

theorem isSegment_of_mem_resolve {path segment : List Char} (member : segment ∈ resolve path) :
    IsSegment segment :=
  forall_isSegment_foldl_push (List.forall_mem_nil _) (not_mem_of_mem_split path) segment
    (List.mem_reverse.mp member)

/-! ### The last segment -/

/-- What follows the last slash of a text is determined by it. -/
theorem eq_of_append_slash {first second before last : List Char}
    (same : first ++ '/' :: second = before ++ '/' :: last) (noSlash : '/' ∉ second)
    (lastNoSlash : '/' ∉ last) : second = last := by
  rcases List.append_eq_append_iff.mp same with ⟨between, _, tails⟩ | ⟨between, _, tails⟩
  · cases between with
    | nil => exact (List.cons.inj tails).2
    | cons character between =>
      have inSecond : '/' ∈ second := (List.cons.inj tails).2 ▸ by simp
      exact absurd inSecond noSlash
  · cases between with
    | nil => exact (List.cons.inj tails).2.symm
    | cons character between =>
      have inLast : '/' ∈ last := (List.cons.inj tails).2 ▸ by simp
      exact absurd inLast lastNoSlash

theorem slash_isSuffixOf_iff {ending before last : List Char} (noSlash : '/' ∉ ending)
    (lastNoSlash : '/' ∉ last) :
    ('/' :: ending).isSuffixOf (before ++ '/' :: last) = true ↔ last = ending := by
  rw [List.isSuffixOf_iff_suffix]
  constructor
  · rintro ⟨start, same⟩
    exact (eq_of_append_slash same noSlash lastNoSlash).symm
  · rintro rfl
    exact List.suffix_append _ _

/-- A path names a directory if nothing, one dot or two dots follow its last slash. -/
theorem namesDirectory_iff {before last : List Char} (noSlash : '/' ∉ last) :
    namesDirectory (before ++ '/' :: last) = true ↔
      last = [] ∨ last = ['.'] ∨ last = ['.', '.'] := by
  rw [namesDirectory, Bool.or_eq_true, Bool.or_eq_true,
    slash_isSuffixOf_iff (by decide) noSlash, slash_isSuffixOf_iff (by decide) noSlash,
    slash_isSuffixOf_iff (by decide) noSlash, or_assoc]

theorem join_of_ne_nil {segments : List (List Char)} (some : segments ≠ []) :
    join segments = segments.flatMap ('/' :: ·) := by
  unfold join
  split
  · exact absurd rfl some
  · rfl

/-! ### Normalizing -/

theorem normalize_nil : normalize [] = ['/'] := by
  rw [normalize, resolve, split_of_not_mem List.not_mem_nil]
  rfl

theorem isNormal_normalize (path : List Char) : IsNormal (normalize path) := by
  have proper : ∀ segment ∈ resolve path, IsSegment segment := fun _ => isSegment_of_mem_resolve
  unfold normalize
  dsimp only
  split
  · rename_i directory
    refine ⟨resolve path, [], ?_, proper, Or.inl rfl⟩
    rw [join_of_ne_nil directory.2, List.flatMap_append, List.flatMap_singleton]
  · rcases List.eq_nil_or_concat (resolve path) with nothing | ⟨segments, last, same⟩
    · rw [nothing]
      exact ⟨[], [], rfl, List.forall_mem_nil _, Or.inl rfl⟩
    · rw [List.concat_eq_append] at same
      rw [same] at proper ⊢
      obtain ⟨segmentsProper, lastProper⟩ := List.forall_mem_append.mp proper
      rw [join_of_ne_nil (List.append_ne_nil_of_right_ne_nil _ (List.cons_ne_nil _ _))]
      exact ⟨segments, last, rfl, segmentsProper, Or.inr (lastProper last List.mem_cons_self)⟩

/-- Segments with a slash before each are split apart. -/
theorem split_flatMap {first : List Char} {segments : List (List Char)} (noSlash : '/' ∉ first)
    (unslashed : ∀ segment ∈ segments, '/' ∉ segment) :
    split ['/'] (first ++ segments.flatMap ('/' :: ·)) = first :: segments := by
  induction segments generalizing first with
  | nil => rw [List.flatMap_nil, List.append_nil, split_of_not_mem noSlash]
  | cons segment segments inductionHypothesis =>
    obtain ⟨segmentNoSlash, later⟩ := List.forall_mem_cons.mp unslashed
    rw [List.flatMap_cons, List.cons_append, split_append, split_of_not_mem noSlash,
      inductionHypothesis segmentNoSlash later]
    rfl

theorem unslashed_of_forall_isSegment {segments : List (List Char)}
    (proper : ∀ segment ∈ segments, IsSegment segment) : ∀ segment ∈ segments, '/' ∉ segment :=
  fun segment member => (proper segment member).2.2.2

/-- The segments of a normal path are all kept, but an empty last one is none. -/
theorem resolve_flatMap {segments : List (List Char)} {last : List Char}
    (proper : ∀ segment ∈ segments, IsSegment segment) (lastProper : last = [] ∨ IsSegment last) :
    resolve ((segments ++ [last]).flatMap ('/' :: ·)) =
      segments ++ if last = [] then [] else [last] := by
  have unslashed : ∀ segment ∈ segments ++ [last], '/' ∉ segment := by
    refine List.forall_mem_append.mpr ⟨unslashed_of_forall_isSegment proper,
      List.forall_mem_singleton.mpr ?_⟩
    rcases lastProper with rfl | isSegment
    · exact nofun
    · exact isSegment.2.2.2
  have pieces := split_flatMap (List.not_mem_nil) unslashed
  rw [List.nil_append] at pieces
  rw [resolve, pieces, List.foldl_cons, List.foldl_append]
  show (push (segments.foldl push []) last).reverse = _
  rw [foldl_push_of_isSegment [] proper, List.append_nil]
  rcases lastProper with rfl | isSegment
  · rw [if_pos rfl, List.append_nil]
    exact List.reverse_reverse _
  · rw [push_of_isSegment _ isSegment, if_neg isSegment.1, List.reverse_cons, List.reverse_reverse]

/-- A normal path stays as it is. -/
theorem normalize_of_isNormal {path : List Char} (normal : IsNormal path) :
    normalize path = path := by
  obtain ⟨segments, last, rfl, proper, lastProper⟩ := normal
  have resolved := resolve_flatMap proper lastProper
  have parts : (segments ++ [last]).flatMap ('/' :: ·) =
      segments.flatMap ('/' :: ·) ++ '/' :: last := by
    rw [List.flatMap_append, List.flatMap_singleton]
  have noSlash : '/' ∉ last := by
    rcases lastProper with rfl | isSegment
    · exact nofun
    · exact isSegment.2.2.2
  have directory := @namesDirectory_iff (segments.flatMap ('/' :: ·)) last noSlash
  rw [← parts] at directory
  rw [normalize, resolved]
  rcases lastProper with rfl | isSegment
  · rw [if_pos rfl, List.append_nil]
    by_cases root : segments = []
    · rw [if_neg (fun names => names.2 root), root]
      rfl
    · rw [if_pos ⟨directory.mpr (Or.inl rfl), root⟩, join_of_ne_nil root, parts]
  · obtain ⟨some, noDot, noDots, _⟩ := isSegment
    have file : namesDirectory ((segments ++ [last]).flatMap ('/' :: ·)) ≠ true := fun names =>
      (directory.mp names).elim some fun dots => dots.elim noDot noDots
    rw [if_neg some, if_neg (fun names => file names.1),
      join_of_ne_nil (List.append_ne_nil_of_right_ne_nil _ (List.cons_ne_nil _ _))]

/-! ### The end of a path -/

theorem exists_last_slash {path : List Char} (slash : '/' ∈ path) :
    ∃ before last, path = before ++ '/' :: last ∧ '/' ∉ last := by
  obtain ⟨after, before, same, absent⟩ :=
    List.eq_append_cons_of_mem (List.mem_reverse.mpr slash)
  refine ⟨before.reverse, after.reverse, ?_, fun member => absent (List.mem_reverse.mp member)⟩
  rw [← List.reverse_reverse path, same]
  simp

/-- A normalized path ends as the path does, or with a slash. -/
theorem getLast?_normalize {path : List Char} (slash : '/' ∈ path) :
    (normalize path).getLast? = some '/' ∨ (normalize path).getLast? = path.getLast? := by
  obtain ⟨before, last, rfl, noSlash⟩ := exists_last_slash slash
  have directory := @namesDirectory_iff before last noSlash
  have pieces : split ['/'] (before ++ '/' :: last) = split ['/'] before ++ [last] := by
    rw [split_append, split_of_not_mem noSlash]
  unfold normalize
  dsimp only
  by_cases names : namesDirectory (before ++ '/' :: last) = true
  · by_cases root : resolve (before ++ '/' :: last) = []
    · rw [if_neg (fun both => both.2 root), root]
      exact Or.inl rfl
    · rw [if_pos ⟨names, root⟩]
      exact Or.inl List.getLast?_concat
  · have isSegment : IsSegment last := by
      rw [directory, not_or, not_or] at names
      exact ⟨names.1, names.2.1, names.2.2, noSlash⟩
    have resolved : resolve (before ++ '/' :: last) =
        ((split ['/'] before).foldl push []).reverse ++ [last] := by
      rw [resolve, pieces, List.foldl_append, List.foldl_cons, List.foldl_nil,
        push_of_isSegment _ isSegment, List.reverse_cons]
    rw [if_neg (fun both => names both.1), resolved,
      join_of_ne_nil (List.append_ne_nil_of_right_ne_nil _ (List.cons_ne_nil _ _)),
      List.flatMap_append, List.flatMap_singleton]
    refine Or.inr ?_
    rw [List.getLast?_append, List.getLast?_append, List.getLast?_cons]
    rfl

end WebFetch.Path
