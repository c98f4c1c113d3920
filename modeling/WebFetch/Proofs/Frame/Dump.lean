/-
This file is about the dumps of frames. A dump shows a field of a payload exactly if the payload is
long enough to hold it, whatever the type, the flags and the octets are: what is missing is left
out, and nothing is read that is not there.
-/

import WebFetch.Frame.Dump
import WebFetch.Proofs.Frame.Settings
import WebFetch.Proofs.Frame.Words

namespace WebFetch

namespace Frame

/-- How many fields of the payload a dump shows: those that the payload is long enough for. -/
def legibleFields (frame : Frame) : Nat :=
  let length := frame.payload.length
  match frame.type with
  | .headers =>
    let padding := if frame.has Flag.padded then 1 else 0
    (if frame.has Flag.padded ∧ 1 ≤ length then 1 else 0) +
      if frame.has Flag.priority ∧ padding + 5 ≤ length then 3 else 0
  | .settings => length / 6
  | .rstStream => if 4 ≤ length then 1 else 0
  | .goAway => if 8 ≤ length then 2 else 0
  | .windowUpdate => if 4 ≤ length then 1 else 0
  | _ => 0

/-! ### Fields that are shown -/

/-- One field is shown for a word that is there. -/
theorem length_match_word (payload : Octets) (shows : UInt32 → String) :
    (match word payload 0 with
      | .ok value => [shows value]
      | .error _ => []).length = if 4 ≤ payload.length then 1 else 0 := by
  by_cases inside : 4 ≤ payload.length
  · rw [word_of_le inside (by decide), if_pos inside]
    rfl
  · rw [word_of_lt (Nat.lt_of_not_le inside) (by decide), if_neg inside]
    rfl

/-- The priority of a header block is shown if its five octets are there. -/
theorem length_match_priority (window : Window) {offset : Nat} (small : offset + 5 < wordLimit)
    (shows : Nat → Nat → List String) (three : ∀ dependency weight,
      (shows dependency weight).length = 3) :
    (match window.number 4 offset, window.number 1 (offset + 4) with
      | .ok dependency, .ok weight => shows dependency weight
      | _, _ => []).length = if offset + 5 ≤ window.size then 3 else 0 := by
  by_cases inside : offset + 5 ≤ window.size
  · obtain ⟨dependency, dependencyFound⟩ :=
      Window.exists_number_of_le window 4 offset (by omega) (by omega)
    obtain ⟨weight, weightFound⟩ :=
      Window.exists_number_of_le window 1 (offset + 4) (by omega) (by omega)
    rw [dependencyFound, weightFound, if_pos inside]
    exact three dependency weight
  · obtain ⟨error, failed⟩ :=
      Window.exists_number_error_of_lt window 1 (offset + 4) (by omega)
    rw [failed, if_neg inside]
    split
    · rename_i found
      cases found
    · rfl

/-- A header block is shown with its padding and its priority as far as they are there. -/
theorem length_headersDetails (frame : Frame) :
    frame.headersDetails.length =
      (if frame.has Flag.padded ∧ 1 ≤ frame.payload.length then 1 else 0) +
        if frame.has Flag.priority ∧
          (if frame.has Flag.padded then 1 else 0) + 5 ≤ frame.payload.length then 3 else 0 := by
  unfold headersDetails
  rw [List.length_append]
  congr 1
  · cases frame.has Flag.padded with
    | false => simp
    | true =>
      by_cases inside : 1 ≤ frame.payload.length
      · obtain ⟨length, found⟩ := Window.exists_number_of_le ⟨frame.payload⟩ 1 0 inside
          (by decide)
        simp [found, inside]
      · obtain ⟨error, failed⟩ := Window.exists_number_error_of_lt ⟨frame.payload⟩ 1 0
          (Nat.lt_of_not_le inside)
        simp [failed, inside]
  · cases frame.has Flag.priority with
    | false => simp
    | true =>
      have small : (if frame.has Flag.padded then 1 else 0) + 5 < wordLimit := by
        split <;> decide
      simp only [if_pos, true_and]
      exact length_match_priority ⟨frame.payload⟩ small _ fun _ _ => rfl

/-- A dump shows the fields that the payload is long enough for, and no others. -/
theorem length_details (frame : Frame) : frame.details.length = frame.legibleFields := by
  unfold details legibleFields
  cases frame.type with
  | headers => exact length_headersDetails frame
  | settings => exact (List.length_map _).trans (length_wholeSettings frame.payload)
  | rstStream =>
    refine Eq.trans ?_ (length_match_word frame.payload fun code =>
      detail "Error Code" (ErrorCode.mk code).print)
    rw [parseRstStream]
    cases word frame.payload 0 <;> rfl
  | goAway =>
    by_cases inside : 8 ≤ frame.payload.length
    · simp only [parseGoAway_of_le inside, if_pos inside, List.length_cons, List.length_nil]
    · simp only [parseGoAway_of_lt (Nat.lt_of_not_le inside), if_neg inside, List.length_nil]
  | windowUpdate =>
    refine Eq.trans ?_ (length_match_word frame.payload fun increment =>
      detail "Window Size Increment" (increment &&& maxStream).toNat.repr)
    rw [parseWindowUpdate, word31]
    cases word frame.payload 0 <;> rfl
  | data => rfl
  | priority => rfl
  | pushPromise => rfl
  | ping => rfl
  | continuation => rfl
  | unknown code => rfl

theorem details_eq_nil {frame : Frame} (empty : frame.payload = []) : frame.details = [] := by
  rw [← List.length_eq_zero_iff, length_details, legibleFields, empty]
  cases frame.type with
  | headers => simp
  | _ => rfl

/-- A dump ends with the fields that it shows. -/
theorem exists_dump_eq (frame : Frame) :
    ∃ before, frame.dump = before ++ String.join frame.details := by
  have whole : ∃ heading, frame.dump = heading ++ frame.payloadDump := ⟨_, rfl⟩
  have shown : ∃ octets, frame.payloadDump = octets ++ String.join frame.details := by
    unfold payloadDump
    cases payload : frame.payload with
    | nil =>
      rw [details_eq_nil payload]
      exact ⟨"", rfl⟩
    | cons octet octets => exact ⟨_, rfl⟩
  obtain ⟨heading, whole⟩ := whole
  obtain ⟨octets, shown⟩ := shown
  exact ⟨heading ++ octets, by rw [whole, shown, String.append_assoc]⟩

end Frame

end WebFetch
