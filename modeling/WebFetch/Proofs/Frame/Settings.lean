/-
This file is about how long frames say they are, and about the frame that carries settings. The
length of a frame stands in three octets, which hold what they can of it, so a frame tells its
length exactly if it has one of 24 bits. A list of settings takes six octets for each; nothing
restricts how many there are, and a list that is read from a frame is never longer than what 24 bits
allow.
-/

import WebFetch.Proofs.Frame.Sequence

namespace WebFetch

/-! ### The length of a frame -/

namespace Frame

/-- The number in the three octets where a frame tells its length. -/
def lengthField (frame : Frame) : Nat := Octets.toNat (frame.encode.take 3)

/-- A frame tells its length as far as 24 bits hold it. -/
theorem lengthField_eq (frame : Frame) :
    frame.lengthField = frame.payload.length % wordLimit24 := by
  have width : (Octets.ofNat 3 frame.payload.length).length = 3 := Octets.length_ofNat 3 _
  have front : frame.encode.take 3 = Octets.ofNat 3 frame.payload.length := by
    rw [encode, header, List.append_assoc, List.append_assoc, List.take_append_of_le_length
      (Nat.le_of_eq width.symm), List.take_of_length_le (Nat.le_of_eq width)]
  rw [lengthField, front]
  exact Octets.toNat_ofNat 3 _

/-- A frame tells its true length exactly if this is one of 24 bits. -/
theorem lengthField_eq_length_iff (frame : Frame) :
    frame.lengthField = frame.payload.length ↔ frame.payload.length < wordLimit24 := by
  rw [lengthField_eq]
  constructor
  · intro same
    rw [← same]
    exact Nat.mod_lt _ (by decide)
  · exact Nat.mod_eq_of_lt

end Frame

/-! ### The payload of settings -/

theorem Setting.length_octets (setting : Setting) : setting.octets.length = 6 := by
  rw [octets, List.length_append, Octets.length_ofNat, Octets.length_ofNat]

namespace Frame

/-- Settings take six octets each. -/
theorem length_payload_settings (settings : List Setting) :
    (Frame.settings settings).payload.length = 6 * settings.length := by
  show (settings.flatMap Setting.octets).length = _
  induction settings with
  | nil => rfl
  | cons setting settings inductionHypothesis =>
    rw [List.flatMap_cons, List.length_append, Setting.length_octets, inductionHypothesis,
      List.length_cons]
    omega

/-- Two octets and four more are read as one setting. -/
theorem wholeSettings_append {id value : Octets} (idLength : id.length = 2)
    (valueLength : value.length = 4) (rest : Octets) :
    wholeSettings (id ++ value ++ rest) =
      ⟨UInt16.ofNat (Octets.toNat id), UInt32.ofNat (Octets.toNat value)⟩ ::
        wholeSettings rest := by
  match id, value with
  | [id0, id1], [value0, value1, value2, value3] => rfl

/-- Settings are read back from their octets. -/
theorem wholeSettings_flatMap (settings : List Setting) :
    wholeSettings (settings.flatMap Setting.octets) = settings := by
  induction settings with
  | nil => rfl
  | cons setting settings inductionHypothesis =>
    have id : Octets.toNat (Octets.ofNat 2 setting.id.toNat) = setting.id.toNat :=
      Octets.toNat_ofNat_of_lt setting.id.toNat_lt
    have value : Octets.toNat (Octets.ofNat 4 setting.value.toNat) = setting.value.toNat :=
      Octets.toNat_ofNat_of_lt setting.value.toNat_lt
    rw [List.flatMap_cons, Setting.octets, wholeSettings_append (Octets.length_ofNat 2 _)
      (Octets.length_ofNat 4 _), inductionHypothesis, id, value, UInt16.ofNat_toNat,
      UInt32.ofNat_toNat]

/-- A payload of whole settings is read as these. -/
theorem parseSettings_of_whole {payload : Octets} (whole : payload.length % 6 = 0) :
    parseSettings payload = .ok (wholeSettings payload) :=
  if_neg (not_not_intro whole)

/-- A payload that does not end with a setting is refused. -/
theorem parseSettings_of_uneven {payload : Octets} (uneven : payload.length % 6 ≠ 0) :
    parseSettings payload = .error (.invalidSettings payload.length) :=
  if_pos uneven

/-- The payload that holds settings is read as these settings. -/
theorem parseSettings_settings (settings : List Setting) :
    parseSettings (Frame.settings settings).payload = .ok settings := by
  have whole : (Frame.settings settings).payload.length % 6 = 0 := by
    rw [length_payload_settings]
    exact Nat.mul_mod_right 6 _
  rw [parseSettings_of_whole whole]
  exact congrArg Except.ok (wholeSettings_flatMap settings)

/-- Octets that do not begin with six octets are fewer. -/
theorem length_lt_of_no_six {octets : Octets}
    (others : ∀ id0 id1 value0 value1 value2 value3 rest,
      octets = id0 :: id1 :: value0 :: value1 :: value2 :: value3 :: rest → False) :
    octets.length < 6 := by
  match octets with
  | [] | [_] | [_, _] | [_, _, _] | [_, _, _, _] | [_, _, _, _, _] =>
    simp only [List.length_cons, List.length_nil]
    decide
  | id0 :: id1 :: value0 :: value1 :: value2 :: value3 :: rest =>
    exact (others id0 id1 value0 value1 value2 value3 rest rfl).elim

/-- As many settings are whole as there are six octets. -/
theorem length_wholeSettings (octets : Octets) :
    (wholeSettings octets).length = octets.length / 6 := by
  fun_induction wholeSettings octets with
  | case1 id0 id1 value0 value1 value2 value3 rest inductionHypothesis =>
    simp only [List.length_cons, inductionHypothesis]
    omega
  | case2 octets others => exact (Nat.div_eq_of_lt (length_lt_of_no_six others)).symm

/-- Settings that are read are no more than their payload has room for. -/
theorem length_le_of_parseSettings {payload : Octets} {settings : List Setting}
    (found : parseSettings payload = .ok settings) : 6 * settings.length ≤ payload.length := by
  unfold parseSettings at found
  split at found
  · cases found
  · cases found
    rw [length_wholeSettings]
    exact Nat.mul_div_le _ 6

end Frame

end WebFetch
