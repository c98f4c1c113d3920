/-
This file resolves dot segments in another way, without segments and without a stack: the beginning
of what is left to read of a path is rewritten, or moved to the end of what was written, until
nothing is left. For an absolute path in which no slash follows another this comes to the same path
as normalizing. What was written is at every step the segments that are kept, with a slash before
each, and one step of rewriting is one push.
-/

import WebFetch.Proofs.Url.Path

namespace WebFetch.Path

/-! ### Rewriting a path -/

/-- The path with one slash in place of each run of slashes. -/
def collapse : List Char → List Char
  | [] => []
  | character :: rest =>
    if character = '/' ∧ rest.head? = some '/' then collapse rest else character :: collapse rest

/-- Takes the last segment and the slash before it away from what was written. -/
def dropSegment (written : List Char) : List Char :=
  ((written.reverse.dropWhile (· != '/')).drop 1).reverse

/-- One step: what was written after it, and what is left to read. A segment of one dot is dropped
with one of its slashes, one of two dots also takes back what was written last, and any other
segment is moved with the slash before it. -/
def rewrite (written : List Char) : List Char → List Char × List Char
  | '.' :: '.' :: '/' :: rest => (written, rest)
  | '.' :: '/' :: rest => (written, rest)
  | '/' :: '.' :: '/' :: rest => (written, '/' :: rest)
  | ['/', '.'] => (written, ['/'])
  | '/' :: '.' :: '.' :: '/' :: rest => (dropSegment written, '/' :: rest)
  | ['/', '.', '.'] => (dropSegment written, ['/'])
  | ['.'] => (written, [])
  | ['.', '.'] => (written, [])
  | [] => (written, [])
  | first :: rest => (written ++ first :: rest.takeWhile (· != '/'), rest.dropWhile (· != '/'))

theorem length_rewrite_lt (written : List Char) {path : List Char} (some : path ≠ []) :
    (rewrite written path).2.length < path.length := by
  unfold rewrite
  split
  case h_9 => exact absurd rfl some
  case h_10 first rest _ _ _ _ _ _ _ _ =>
    exact Nat.lt_succ_of_le (List.dropWhile_suffix _).length_le
  all_goals
    simp only [List.length_cons, List.length_nil]
    omega

/-- Rewrites what is left to read until nothing is left. -/
def rewriteFrom (written path : List Char) : List Char :=
  if some : path = [] then written
  else
    have : (rewrite written path).2.length < path.length := length_rewrite_lt written some
    rewriteFrom (rewrite written path).1 (rewrite written path).2
  termination_by path.length

/-- The path without dot segments. -/
def removeDotSegments (path : List Char) : List Char := rewriteFrom [] path

theorem rewriteFrom_nil (written : List Char) : rewriteFrom written [] = written := by
  rw [rewriteFrom, dif_pos rfl]

theorem rewriteFrom_cons {written path after left : List Char} {first : Char}
    (step : rewrite written (first :: path) = (after, left)) :
    rewriteFrom written (first :: path) = rewriteFrom after left := by
  rw [rewriteFrom, dif_neg (List.cons_ne_nil _ _)]
  dsimp only
  rw [step]

/-! ### What was written -/

/-- What was written when segments were kept, which are given newest first. -/
def writing (kept : List (List Char)) : List Char :=
  kept.reverse.flatMap ('/' :: ·)

/-- What stands after the last segment that is kept: a slash where the last segment of the path is
empty or made of dots. -/
def ending (last : List Char) : List Char :=
  if last = [] ∨ last = ['.'] ∨ last = ['.', '.'] then ['/'] else []

theorem writing_cons (segment : List Char) (kept : List (List Char)) :
    writing (segment :: kept) = writing kept ++ '/' :: segment := by
  rw [writing, List.reverse_cons, List.flatMap_append, List.flatMap_singleton]
  rfl

theorem all_ne_slash {segment : List Char} (noSlash : '/' ∉ segment) :
    ∀ character ∈ segment, (character != '/') = true := fun _ member =>
  bne_iff_ne.mpr fun same => noSlash (same ▸ member)

theorem dropSegment_writing {kept : List (List Char)}
    (unslashed : ∀ segment ∈ kept, '/' ∉ segment) :
    dropSegment (writing kept) = writing kept.tail := by
  cases kept with
  | nil => rfl
  | cons segment kept =>
    have noSlash : '/' ∉ segment.reverse := fun member =>
      unslashed segment List.mem_cons_self (List.mem_reverse.mp member)
    rw [writing_cons, dropSegment, List.reverse_append, List.reverse_cons, List.append_assoc,
      List.dropWhile_append_of_pos (all_ne_slash noSlash)]
    simp

theorem unslashed_push {kept : List (List Char)} {segment : List Char}
    (unslashed : ∀ segment ∈ kept, '/' ∉ segment) (noSlash : '/' ∉ segment) :
    ∀ other ∈ push kept segment, '/' ∉ other := by
  unfold push
  split
  · exact unslashed
  · split
    · exact fun other member => unslashed other (List.mem_of_mem_tail member)
    · exact List.forall_mem_cons.mpr ⟨noSlash, unslashed⟩

/-! ### One step -/

/-- A segment that is not made of dots is moved with the slash before it. -/
theorem rewrite_segment (written : List Char) {segment rest : List Char} (noSlash : '/' ∉ segment)
    (noDot : segment ≠ ['.']) (noDots : segment ≠ ['.', '.'])
    (ends : rest = [] ∨ rest.head? = some '/') :
    rewrite written ('/' :: (segment ++ rest)) = (written ++ '/' :: segment, rest) := by
  have taken : (segment ++ rest).takeWhile (· != '/') = segment := by
    rw [List.takeWhile_append_of_pos (all_ne_slash noSlash)]
    cases rest <;> simp_all
  have left : (segment ++ rest).dropWhile (· != '/') = rest := by
    rw [List.dropWhile_append_of_pos (all_ne_slash noSlash)]
    cases rest <;> simp_all
  unfold rewrite
  split <;> rename_i same
  case h_10 =>
    cases same
    rw [taken, left]
  -- Where the path begins with dots, they are the segment.
  case h_3 | h_4 =>
    rw [(List.cons.inj same).2] at taken
    exact absurd taken.symm noDot
  case h_5 | h_6 =>
    rw [(List.cons.inj same).2] at taken
    exact absurd taken.symm noDots
  all_goals simp at same

/-- One step of rewriting at a segment that is not the last one, and is not empty, is one push. -/
theorem rewriteFrom_segment {kept : List (List Char)} {segment rest : List Char}
    (unslashed : ∀ segment ∈ kept, '/' ∉ segment) (noSlash : '/' ∉ segment) (some : segment ≠ [])
    (follows : rest.head? = Option.some '/') :
    rewriteFrom (writing kept) ('/' :: (segment ++ rest)) =
      rewriteFrom (writing (push kept segment)) rest := by
  obtain ⟨left, rfl⟩ := List.head?_eq_some_iff.mp follows
  by_cases dot : segment = ['.']
  · subst dot
    exact rewriteFrom_cons rfl
  · by_cases dots : segment = ['.', '.']
    · subst dots
      show _ = rewriteFrom (writing kept.tail) _
      rw [← dropSegment_writing unslashed]
      exact rewriteFrom_cons rfl
    · rw [push, if_neg (not_or.mpr ⟨some, dot⟩), if_neg dots, writing_cons]
      exact rewriteFrom_cons (rewrite_segment _ noSlash dot dots (Or.inr rfl))

/-- Rewriting ends at the last segment, which is pushed, and for which a slash is written if it is
not kept. -/
theorem rewriteFrom_last {kept : List (List Char)} {last : List Char}
    (unslashed : ∀ segment ∈ kept, '/' ∉ segment) (noSlash : '/' ∉ last) :
    rewriteFrom (writing kept) ('/' :: last) = writing (push kept last) ++ ending last := by
  -- A slash alone is moved.
  have slash (written : List Char) : rewriteFrom written ['/'] = written ++ ['/'] :=
    (rewriteFrom_cons rfl).trans (rewriteFrom_nil _)
  by_cases directory : last = [] ∨ last = ['.'] ∨ last = ['.', '.']
  · rw [ending, if_pos directory]
    rcases directory with rfl | rfl | rfl
    · exact slash _
    · exact (rewriteFrom_cons rfl).trans (slash _)
    · show _ = writing kept.tail ++ ['/']
      rw [← dropSegment_writing unslashed]
      exact (rewriteFrom_cons rfl).trans (slash _)
  · obtain ⟨some, noDot, noDots⟩ := not_or.mp directory |>.imp_right not_or.mp
    have moved := rewrite_segment (writing kept) noSlash noDot noDots (Or.inl rfl)
    rw [List.append_nil] at moved
    rw [rewriteFrom_cons moved, rewriteFrom_nil, ending, if_neg directory, List.append_nil,
      push_of_isSegment kept ⟨some, noDot, noDots, noSlash⟩, writing_cons]

/-! ### A whole path -/

/-- The segments of an absolute path, with a slash before each. -/
theorem exists_segments (rest : List Char) :
    ∃ segments last, '/' :: rest = (segments ++ [last]).flatMap ('/' :: ·) ∧
      (∀ segment ∈ segments, '/' ∉ segment) ∧ '/' ∉ last := by
  have parts : (split ['/'] rest).flatMap ('/' :: ·) = '/' :: rest := by
    refine split_induction
      (motive := fun text pieces => pieces.flatMap ('/' :: ·) = '/' :: text) ?_ ?_ rest
    · exact fun text _ => by simp
    · intro before after _ later
      rw [List.flatMap_cons, later, List.cons_append]
  have unslashed := @not_mem_of_mem_split _ _ _ '/' rest
  rcases List.eq_nil_or_concat (split ['/'] rest) with nothing | ⟨segments, last, same⟩
  · rw [nothing] at parts
    cases parts
  · rw [List.concat_eq_append] at same
    rw [same] at parts unslashed
    obtain ⟨proper, noSlash⟩ := List.forall_mem_append.mp unslashed
    exact ⟨segments, last, parts.symm, proper, noSlash last List.mem_cons_self⟩

/-- A segment is not changed by collapsing, nor is the slash before it if the segment is not empty
or the last one. -/
theorem collapse_segment {segment rest : List Char} (noSlash : '/' ∉ segment)
    (single : segment ≠ [] ∨ rest = []) :
    collapse ('/' :: (segment ++ rest)) = '/' :: (segment ++ collapse rest) := by
  have passed : collapse (segment ++ rest) = segment ++ collapse rest := by
    clear single
    induction segment with
    | nil => rfl
    | cons character segment inductionHypothesis =>
      obtain ⟨other, later⟩ := List.ne_and_not_mem_of_not_mem_cons noSlash
      rw [List.cons_append, collapse, if_neg (fun slash => other slash.1.symm),
        inductionHypothesis later]
      rfl
  have different : (segment ++ rest).head? ≠ some '/' := by
    cases segment with
    | nil => simp_all
    | cons character segment =>
      intro same
      exact noSlash (Option.some.inj same ▸ List.mem_cons_self)
  rw [collapse, if_neg (fun slash => different slash.2), passed]

theorem head?_flatMap (segments : List (List Char)) (last : List Char) :
    ((segments ++ [last]).flatMap ('/' :: ·)).head? = some '/' := by
  cases segments <;> rfl

theorem namesDirectory_flatMap_iff (segments : List (List Char)) {last : List Char}
    (noSlash : '/' ∉ last) :
    namesDirectory ((segments ++ [last]).flatMap ('/' :: ·)) = true ↔
      last = [] ∨ last = ['.'] ∨ last = ['.', '.'] := by
  rw [List.flatMap_append, List.flatMap_singleton, namesDirectory_iff noSlash]

/-- A last segment that is not made of dots is kept. -/
theorem foldl_push_concat (segments : List (List Char)) {last : List Char} (noSlash : '/' ∉ last)
    (file : ¬ (last = [] ∨ last = ['.'] ∨ last = ['.', '.'])) :
    (segments ++ [last]).foldl push [] = last :: segments.foldl push [] := by
  obtain ⟨some, noDot, noDots⟩ := not_or.mp file |>.imp_right not_or.mp
  rw [List.foldl_append, List.foldl_cons, List.foldl_nil,
    push_of_isSegment _ ⟨some, noDot, noDots, noSlash⟩]

section

variable {segments : List (List Char)} {last : List Char}
  (unslashed : ∀ segment ∈ segments, '/' ∉ segment) (noSlash : '/' ∉ last)

include unslashed noSlash

/-- Collapsing runs of slashes drops the empty segments, but not the last one. -/
theorem collapse_flatMap :
    collapse ((segments ++ [last]).flatMap ('/' :: ·)) =
      (segments.filter (!·.isEmpty) ++ [last]).flatMap ('/' :: ·) := by
  induction segments with
  | nil =>
    have whole := @collapse_segment last [] noSlash (Or.inr rfl)
    simpa [collapse] using whole
  | cons segment later inductionHypothesis =>
    obtain ⟨segmentNoSlash, laterUnslashed⟩ := List.forall_mem_cons.mp unslashed
    have further := inductionHypothesis laterUnslashed
    rw [List.cons_append, List.flatMap_cons, List.cons_append]
    by_cases empty : segment = []
    · subst empty
      rw [List.nil_append, collapse, if_pos ⟨rfl, head?_flatMap later last⟩, further]
      rfl
    · rw [collapse_segment segmentNoSlash (Or.inl empty), further,
        List.filter_cons_of_pos (by simpa using empty)]
      rfl

/-- Rewriting a path without empty segments pushes its segments. -/
theorem rewriteFrom_flatMap {kept : List (List Char)}
    (keptUnslashed : ∀ segment ∈ kept, '/' ∉ segment) (some : ∀ segment ∈ segments, segment ≠ []) :
    rewriteFrom (writing kept) ((segments ++ [last]).flatMap ('/' :: ·)) =
      writing ((segments ++ [last]).foldl push kept) ++ ending last := by
  induction segments generalizing kept with
  | nil =>
    rw [List.nil_append, List.flatMap_singleton]
    exact rewriteFrom_last keptUnslashed noSlash
  | cons segment later inductionHypothesis =>
    obtain ⟨segmentNoSlash, laterUnslashed⟩ := List.forall_mem_cons.mp unslashed
    obtain ⟨segmentSome, laterSome⟩ := List.forall_mem_cons.mp some
    rw [List.cons_append, List.flatMap_cons, List.cons_append,
      rewriteFrom_segment keptUnslashed segmentNoSlash segmentSome (head?_flatMap later last),
      inductionHypothesis laterUnslashed (unslashed_push keptUnslashed segmentNoSlash) laterSome]
    rfl

/-- Empty segments are never pushed, so it makes no difference if they are dropped before. -/
theorem removeDotSegments_collapse_flatMap :
    removeDotSegments (collapse ((segments ++ [last]).flatMap ('/' :: ·))) =
      writing ((segments ++ [last]).foldl push []) ++ ending last := by
  have kept : ∀ segment ∈ segments.filter (!·.isEmpty), '/' ∉ segment := fun segment member =>
    unslashed segment (List.mem_filter.mp member).1
  have some : ∀ segment ∈ segments.filter (!·.isEmpty), segment ≠ [] := fun segment member => by
    simpa using (List.mem_filter.mp member).2
  have dropped : (segments.filter (!·.isEmpty)).foldl push [] = segments.foldl push [] := by
    rw [List.foldl_filter]
    refine congrArg (segments.foldl · []) (funext fun kept => funext fun segment => ?_)
    cases segment with
    | nil => rfl
    | cons character segment => rfl
  have rewritten := rewriteFrom_flatMap kept noSlash (List.forall_mem_nil _) some
  rw [List.foldl_append, dropped, ← List.foldl_append] at rewritten
  rw [collapse_flatMap unslashed noSlash]
  exact rewritten

/-- Normalizing writes the segments that were pushed too, and ends in the same way. -/
theorem normalize_flatMap :
    normalize ((segments ++ [last]).flatMap ('/' :: ·)) =
      writing ((segments ++ [last]).foldl push []) ++ ending last := by
  have pieces := split_flatMap List.not_mem_nil
    (List.forall_mem_append.mpr ⟨unslashed, List.forall_mem_singleton.mpr noSlash⟩)
  have resolved : resolve ((segments ++ [last]).flatMap ('/' :: ·)) =
      ((segments ++ [last]).foldl push []).reverse := by
    rw [List.nil_append] at pieces
    rw [resolve, pieces]
    rfl
  have directory := namesDirectory_flatMap_iff segments noSlash
  unfold normalize
  dsimp only
  rw [resolved, ending, writing]
  by_cases names : last = [] ∨ last = ['.'] ∨ last = ['.', '.']
  · rw [if_pos names]
    by_cases root : ((segments ++ [last]).foldl push []).reverse = []
    · rw [if_neg (fun both => both.2 root), root]
      rfl
    · rw [if_pos ⟨directory.mpr names, root⟩, join_of_ne_nil root]
  · have kept : ((segments ++ [last]).foldl push []).reverse ≠ [] := by
      rw [foldl_push_concat segments noSlash names]
      exact List.reverse_ne_nil_iff.mpr (List.cons_ne_nil _ _)
    rw [if_neg (fun both => names (directory.mp both.1)), if_neg names, join_of_ne_nil kept,
      List.append_nil]

/-- A normalized path ends in a slash exactly if the path names a directory. -/
theorem getLast?_normalize_flatMap :
    (normalize ((segments ++ [last]).flatMap ('/' :: ·))).getLast? = some '/' ↔
      namesDirectory ((segments ++ [last]).flatMap ('/' :: ·)) = true := by
  rw [normalize_flatMap unslashed noSlash, namesDirectory_flatMap_iff segments noSlash, ending]
  by_cases names : last = [] ∨ last = ['.'] ∨ last = ['.', '.']
  · rw [if_pos names]
    exact iff_of_true List.getLast?_concat names
  · rw [if_neg names, List.append_nil, foldl_push_concat segments noSlash names, writing_cons]
    refine iff_of_false (fun slash => noSlash ?_) names
    have some : last ≠ [] := fun empty => names (Or.inl empty)
    rw [List.getLast?_append, List.getLast?_cons, List.getLast?_eq_some_getLast some] at slash
    exact Option.some.inj slash ▸ List.getLast_mem some

end

/-! ### Both ways -/

/-- An absolute path is normalized to what rewriting gives once runs of slashes are collapsed. The
result is a normal path: it begins with a slash, and none of its segments is made of dots, so it
does not climb above the root, and taking back a segment at the root has no effect. A normal path
stays as it is. The result ends in a slash exactly if the one of rewriting does, which is so if the
path names a directory. -/
theorem normalize_eq_removeDotSegments (rest : List Char) :
    normalize ('/' :: rest) = removeDotSegments (collapse ('/' :: rest)) ∧
      normalize (normalize ('/' :: rest)) = normalize ('/' :: rest) ∧
      IsNormal (normalize ('/' :: rest)) ∧
      normalize ('/' :: '.' :: '.' :: '/' :: rest) = normalize ('/' :: rest) ∧
      ((normalize ('/' :: rest)).getLast? = some '/' ↔
        (removeDotSegments (collapse ('/' :: rest))).getLast? = some '/') ∧
      ((normalize ('/' :: rest)).getLast? = some '/' ↔ namesDirectory ('/' :: rest) = true) := by
  have normal := isNormal_normalize ('/' :: rest)
  obtain ⟨segments, last, same, unslashed, noSlash⟩ := exists_segments rest
  have climbing : '/' :: '.' :: '.' :: '/' :: rest =
      ((['.', '.'] :: segments) ++ [last]).flatMap ('/' :: ·) := by
    rw [same]
    rfl
  rw [climbing, same]
  have rewritten := removeDotSegments_collapse_flatMap unslashed noSlash
  rw [same] at normal
  refine ⟨(normalize_flatMap unslashed noSlash).trans rewritten.symm, normalize_of_isNormal normal,
    normal, ?_, ?_, getLast?_normalize_flatMap unslashed noSlash⟩
  · rw [normalize_flatMap unslashed noSlash,
      normalize_flatMap (List.forall_mem_cons.mpr ⟨by decide, unslashed⟩) noSlash]
    rfl
  · rw [normalize_flatMap unslashed noSlash, rewritten]

example : removeDotSegments "/a/b/c/./../../g".toList = "/a/g".toList := by decide +kernel

end WebFetch.Path
