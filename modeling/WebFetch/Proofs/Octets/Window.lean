/-
This file is about windows. A read returns octets exactly if they lie in the window. Windows may be
narrowed one after the other: the last one shows octets of the first, as far on as the offsets of
the windows add up to, and none that a window in between does not hold. A narrower window that is
refused leaves everything as it is.
-/

import WebFetch.Octets.Window
import WebFetch.Proofs.Octets
import WebFetch.Sequenced

namespace WebFetch.Window

/-! ### One read -/

/-- Octets are read where they lie in the window and their end is a word. -/
theorem bytes_of_le {window : Window} {offset length : Nat}
    (inside : offset + length ≤ window.size) (small : offset + length < wordLimit) :
    window.bytes offset length = .ok ((window.octets.drop offset).take length) := by
  rw [bytes, if_neg (Nat.not_le_of_lt small), if_neg (Nat.not_lt_of_le inside)]

/-- Octets that do not lie in the window are out of its range, if their end is a word. -/
theorem bytes_of_lt {window : Window} {offset length : Nat}
    (outside : window.size < offset + length) (small : offset + length < wordLimit) :
    window.bytes offset length = .error (.outOfRange offset length window.size) := by
  rw [bytes, if_neg (Nat.not_le_of_lt small), if_pos outside]

/-- An end that is no word is reported before anything else. -/
theorem bytes_of_overflow {window : Window} {offset length : Nat}
    (large : wordLimit ≤ offset + length) : window.bytes offset length = .error .overflow :=
  if_pos large

/-- Octets that do not lie in the window are not read. -/
theorem exists_bytes_error_of_lt {window : Window} {offset length : Nat}
    (outside : window.size < offset + length) :
    ∃ error, window.bytes offset length = .error error := by
  by_cases small : offset + length < wordLimit
  · exact ⟨_, bytes_of_lt outside small⟩
  · exact ⟨_, bytes_of_overflow (Nat.le_of_not_lt small)⟩

/-- What is read lies in the window, and its end is a word. -/
theorem eq_of_bytes {window : Window} {offset length : Nat} {octets : Octets}
    (found : window.bytes offset length = .ok octets) :
    offset + length < wordLimit ∧ offset + length ≤ window.size ∧
      octets = (window.octets.drop offset).take length := by
  rw [bytes] at found
  split at found
  · cases found
  · rename_i small
    split at found
    · cases found
    · rename_i inside
      cases found
      exact ⟨Nat.lt_of_not_le small, Nat.le_of_not_lt inside, rfl⟩

/-- A range lies in the window exactly if its octets are read. -/
theorem contains_iff (window : Window) (offset length : Nat) :
    window.contains offset length = true ↔
      ∃ octets, window.bytes offset length = .ok octets := by
  rw [contains, Bool.and_eq_true, decide_eq_true_eq, decide_eq_true_eq]
  constructor
  · intro ⟨small, inside⟩
    exact ⟨_, bytes_of_le inside small⟩
  · intro ⟨octets, found⟩
    obtain ⟨small, inside, _⟩ := eq_of_bytes found
    exact ⟨small, inside⟩

/-- Whether every read of a range returns these octets: as they are, as the number that they
denote, and as a window. -/
structure Shows (window : Window) (offset length : Nat) (octets : Octets) : Prop where
  bytes : window.bytes offset length = .ok octets
  number : window.number length offset = .ok octets.toNat
  subwindow : window.subwindow offset length = .ok ⟨octets⟩

/-- Whether every read of a range fails with this error. -/
structure Refuses (window : Window) (offset length : Nat) (error : RangeError) : Prop where
  bytes : window.bytes offset length = .error error
  number : window.number length offset = .error error
  subwindow : window.subwindow offset length = .error error

theorem shows_of_bytes {window : Window} {offset length : Nat} {octets : Octets}
    (found : window.bytes offset length = .ok octets) : window.Shows offset length octets where
  bytes := found
  number := by rw [number, found]; rfl
  subwindow := by rw [subwindow, found]; rfl

theorem refuses_of_bytes {window : Window} {offset length : Nat} {error : RangeError}
    (failed : window.bytes offset length = .error error) :
    window.Refuses offset length error where
  bytes := failed
  number := by rw [number, failed]; rfl
  subwindow := by rw [subwindow, failed]; rfl

/-- A number is read where there are octets enough for it. -/
theorem exists_number_of_le (window : Window) (width offset : Nat)
    (inside : offset + width ≤ window.size) (small : offset + width < wordLimit) :
    ∃ value, window.number width offset = .ok value :=
  ⟨_, (shows_of_bytes (bytes_of_le inside small)).number⟩

/-- No number is read where there are too few octets. -/
theorem exists_number_error_of_lt (window : Window) (width offset : Nat)
    (outside : window.size < offset + width) :
    ∃ error, window.number width offset = .error error := by
  obtain ⟨error, failed⟩ := exists_bytes_error_of_lt outside
  exact ⟨error, (refuses_of_bytes failed).number⟩

/-- Octets are read wherever they stand. -/
theorem shows_of_parts {window : Window} {before octets after : Octets}
    (parts : window.octets = before ++ (octets ++ after)) (small : window.size < wordLimit) :
    window.Shows before.length octets.length octets := by
  have inside : before.length + octets.length ≤ window.size := by
    rw [size, parts, List.length_append, List.length_append]
    omega
  refine shows_of_bytes ?_
  rw [bytes_of_le inside (Nat.lt_of_le_of_lt inside small), parts, List.drop_left, List.take_left]

/-- A number is read back from the octets that it is written in, wherever they stand. -/
theorem number_of_parts {window : Window} {before after : Octets} {width value : Nat}
    (fits : value < 256 ^ width)
    (parts : window.octets = before ++ (Octets.ofNat width value ++ after))
    (small : window.size < wordLimit) : window.number width before.length = .ok value := by
  have read := (shows_of_parts parts small).number
  rwa [Octets.length_ofNat, Octets.toNat_ofNat_of_lt fits] at read

/-! ### Windows within windows -/

/-- A part of a window: where it begins, and its length. -/
structure Range where
  offset : Nat
  length : Nat
  deriving DecidableEq

/-- The window that one range after the other leaves, each taken in the window before it. -/
def narrow (window : Window) (ranges : List Range) : Except RangeError Window :=
  ranges.foldlM (fun window range => window.subwindow range.offset range.length) window

/-- Where the last of ranges begins in the window of which the first was taken. -/
def start (ranges : List Range) : Nat := (ranges.map Range.offset).sum

/-- Whether a window shows the octets of another from an offset on. -/
structure Within (inner outer : Window) (start : Nat) : Prop where
  inside : start + inner.size ≤ outer.size
  octets : inner.octets = (outer.octets.drop start).take inner.size

theorem Within.refl (window : Window) : window.Within window 0 where
  inside := Nat.le_of_eq (Nat.zero_add _)
  octets := by rw [List.drop_zero, size, List.take_length]

/-- Octets of the inner window stand further on in the outer one. -/
theorem Within.slice_eq {inner outer : Window} {start offset length : Nat}
    (within : inner.Within outer start) (inside : offset + length ≤ inner.size) :
    (inner.octets.drop offset).take length =
      (outer.octets.drop (start + offset)).take length := by
  rw [within.octets, List.drop_take, List.drop_drop, List.take_take,
    Nat.min_eq_left (Nat.le_sub_of_add_le (Nat.add_comm offset length ▸ inside))]

theorem Within.trans {inner middle outer : Window} {first second : Nat}
    (near : inner.Within middle second) (far : middle.Within outer first) :
    inner.Within outer (first + second) where
  inside := by
    have innerInside := near.inside
    have middleInside := far.inside
    omega
  octets := near.octets.trans (far.slice_eq near.inside)

theorem within_subwindow {window narrower : Window} {offset length : Nat}
    (found : window.subwindow offset length = .ok narrower) :
    narrower.Within window offset := by
  rw [subwindow] at found
  cases read : window.bytes offset length with
  | error error =>
    rw [read] at found
    cases found
  | ok octets =>
    rw [read] at found
    cases found
    obtain ⟨_, inside, rfl⟩ := eq_of_bytes read
    have length : ((window.octets.drop offset).take length).length = length := by
      rw [List.length_take, List.length_drop]
      rw [size] at inside
      omega
    exact ⟨by rw [size, length]; exact inside, by rw [size, length]⟩

/-- The last window shows the octets of the first from the sum of the offsets on. -/
theorem within_narrow {window last : Window} {ranges : List Range}
    (narrowed : window.narrow ranges = .ok last) : last.Within window (start ranges) := by
  induction ranges generalizing window with
  | nil =>
    cases narrowed
    exact Within.refl _
  | cons range ranges inductionHypothesis =>
    obtain ⟨narrower, found, later⟩ := exists_ok_of_bind narrowed
    exact (inductionHypothesis later).trans (within_subwindow found)

/-- Ranges may be taken in two parts. -/
theorem narrow_append (window : Window) (before after : List Range) :
    window.narrow (before ++ after) = window.narrow before >>= (narrow · after) :=
  List.foldlM_append

/-- What lies in the inner window is read in the outer one further on. -/
theorem Within.shows {inner outer : Window} {start offset length : Nat}
    (within : inner.Within outer start) (small : outer.size < wordLimit)
    (inside : offset + length ≤ inner.size) :
    start + offset + length ≤ outer.size ∧
      outer.Shows (start + offset) length ((inner.octets.drop offset).take length) := by
  have outside := within.inside
  have bound : start + offset + length ≤ outer.size := by omega
  rw [within.slice_eq inside]
  exact ⟨bound, shows_of_bytes (bytes_of_le bound (Nat.lt_of_le_of_lt bound small))⟩

/-- What is read in the last window stands in every window on the way, where the offsets of the
ranges behind it lead. -/
theorem shows_between {window view last : Window} {before after : List Range} {offset length : Nat}
    (small : window.size < wordLimit) (viewFound : window.narrow before = .ok view)
    (narrowed : window.narrow (before ++ after) = .ok last)
    (inside : offset + length ≤ last.size) :
    start after + offset + length ≤ view.size ∧
      view.Shows (start after + offset) length
        ((window.octets.drop (start (before ++ after) + offset)).take length) := by
  have within := within_narrow narrowed
  -- The ranges behind the window on the way lead from there to the same last window.
  rw [narrow_append, viewFound] at narrowed
  have bound := (within_narrow viewFound).inside
  have viewSmall : view.size < wordLimit := by omega
  rw [← within.slice_eq inside]
  exact (within_narrow narrowed).shows viewSmall inside

/-- A read in the last window succeeds exactly if it lies there. It returns octets of the first
window, which every window on the way shows too. -/
theorem shows_of_narrow {window last : Window} {ranges : List Range}
    (small : window.size < wordLimit) (narrowed : window.narrow ranges = .ok last)
    (offset length : Nat) :
    let octets := (window.octets.drop (start ranges + offset)).take length
    (offset + length ≤ last.size →
      octets.length = length ∧ last.Shows offset length octets ∧
        ∀ before after view, ranges = before ++ after → window.narrow before = .ok view →
          start after + offset + length ≤ view.size ∧
            view.Shows (start after + offset) length octets) ∧
    (last.size < offset + length → ∃ error, last.Refuses offset length error) := by
  refine ⟨fun inside => ⟨?_, ?_, ?_⟩, fun outside => ?_⟩
  · obtain ⟨bound, _⟩ := (within_narrow narrowed).shows small inside
    rw [size] at bound
    rw [List.length_take, List.length_drop]
    omega
  · have whole : ranges ++ [] = ranges := List.append_nil ranges
    have here := (shows_between small narrowed (whole.symm ▸ narrowed) inside).2
    rwa [whole, show start [] + offset = offset from Nat.zero_add offset] at here
  · rintro before after view rfl viewFound
    exact shows_between small viewFound narrowed inside
  · obtain ⟨error, failed⟩ := exists_bytes_error_of_lt outside
    exact ⟨error, refuses_of_bytes failed⟩

/-! ### Narrower windows that are refused -/

/-- The window after a range of it was asked for: the narrower one, or the same if that is
refused. -/
def ask (window : Window) (range : Range) : Window :=
  (window.subwindow range.offset range.length).toOption.getD window

/-- A range that is refused leaves the window as it is. -/
theorem ask_of_refused {window : Window} {range : Range} {error : RangeError}
    (refused : window.subwindow range.offset range.length = .error error) :
    window.ask range = window := by
  rw [ask, refused]
  rfl

/-- The ranges that are not refused when one after the other is asked for. -/
def granted (window : Window) : List Range → List Range
  | [] => []
  | range :: ranges =>
    match window.subwindow range.offset range.length with
    | .ok narrower => range :: granted narrower ranges
    | .error _ => granted window ranges

/-- Ranges that are refused make no difference: the others lead to the same window. -/
theorem narrow_granted (window : Window) (ranges : List Range) :
    window.narrow (window.granted ranges) = .ok (ranges.foldl ask window) := by
  induction ranges generalizing window with
  | nil => rfl
  | cons range ranges inductionHypothesis =>
    rw [List.foldl_cons, granted]
    cases found : window.subwindow range.offset range.length with
    | error error =>
      rw [ask_of_refused found]
      exact inductionHypothesis window
    | ok narrower =>
      rw [ask, found]
      exact bind_eq_ok found (inductionHypothesis narrower)

end WebFetch.Window
