/-
This file says that settings and payloads determine each other: settings are read back from the
payload that they are written in, and a payload of whole settings is the one that the settings read
from it are written in. Reading at every sixth offset of the payload, as octets of a window, gives
the same settings, and no read ever leaves the payload.
-/

import WebFetch.Proofs.Frame.Settings
import WebFetch.Proofs.Octets.Builder

namespace WebFetch

/-- What is added to a builder for a setting. -/
def Setting.items (setting : Setting) : List Builder.Item :=
  [.number16 setting.id, .number32 setting.value]

namespace Frame

/-! ### Payloads -/

/-- The payload of settings is what was built of them. -/
theorem addAll_items (settings : List Setting) :
    Builder.empty.addAll (settings.flatMap Setting.items) =
      .ok ⟨(Frame.settings settings).payload⟩ := by
  rw [Builder.addAll_eq, List.flatMap_assoc]
  rfl

/-- The octets of a setting are determined by what is read from them. -/
theorem octets_ofNat_toNat (id0 id1 value0 value1 value2 value3 : UInt8) :
    Setting.octets ⟨UInt16.ofNat (Octets.toNat [id0, id1]),
      UInt32.ofNat (Octets.toNat [value0, value1, value2, value3])⟩ =
        [id0, id1, value0, value1, value2, value3] := by
  have id : Octets.toNat [id0, id1] < UInt16.size :=
    Nat.lt_of_lt_of_eq (Octets.toNat_lt [id0, id1]) (by decide : 256 ^ 2 = UInt16.size)
  have value : Octets.toNat [value0, value1, value2, value3] < UInt32.size :=
    Nat.lt_of_lt_of_eq (Octets.toNat_lt [value0, value1, value2, value3])
      (by decide : 256 ^ 4 = UInt32.size)
  rw [Setting.octets, UInt16.toNat_ofNat_of_lt' id, UInt32.toNat_ofNat_of_lt' value]
  exact congrArg₂ (· ++ ·) (Octets.ofNat_toNat [id0, id1])
    (Octets.ofNat_toNat [value0, value1, value2, value3])

/-- A payload of whole settings is the one that they are written in. -/
theorem payload_wholeSettings {payload : Octets} (whole : payload.length % 6 = 0) :
    (Frame.settings (wholeSettings payload)).payload = payload := by
  show (wholeSettings payload).flatMap Setting.octets = payload
  fun_induction wholeSettings payload with
  | case1 id0 id1 value0 value1 value2 value3 rest inductionHypothesis =>
    have later : rest.length % 6 = 0 := by
      simp only [List.length_cons] at whole
      omega
    rw [List.flatMap_cons, octets_ofNat_toNat, inductionHypothesis later]
    rfl
  | case2 octets others =>
    have short := length_lt_of_no_six others
    exact (List.length_eq_zero_iff.mp (by omega)).symm

/-! ### Reading at offsets -/

/-- The setting in the six octets at an offset, which have to lie in the payload. -/
def settingAt (payload : Octets) (offset : Nat) : Except FrameError Setting := do
  let id ← ((Window.mk payload).number 2 offset).mapError .range
  let value ← ((Window.mk payload).number 4 (offset + 2)).mapError .range
  return ⟨UInt16.ofNat id, UInt32.ofNat value⟩

/-- The settings of a payload, read at every sixth offset. -/
def settingsAtOffsets (payload : Octets) : Except FrameError (List Setting) :=
  if payload.length % 6 ≠ 0 then .error (.invalidSettings payload.length)
  else (List.range' 0 (payload.length / 6) 6).mapM (settingAt payload)

/-- A setting is read where its octets stand. -/
theorem settingAt_of_parts {payload before after : Octets} {setting : Setting}
    (parts : payload = before ++ (setting.octets ++ after)) (small : payload.length < wordLimit) :
    settingAt payload before.length = .ok setting := by
  have valueParts : payload = (before ++ Octets.ofNat 2 setting.id.toNat) ++
      (Octets.ofNat 4 setting.value.toNat ++ after) := by
    rw [parts, Setting.octets]
    simp only [List.append_assoc]
  have idParts : payload = before ++ (Octets.ofNat 2 setting.id.toNat ++
      (Octets.ofNat 4 setting.value.toNat ++ after)) := by
    rw [valueParts, List.append_assoc]
  have id : (Window.mk payload).number 2 before.length = .ok setting.id.toNat :=
    Window.number_of_parts setting.id.toNat_lt idParts small
  have value : (Window.mk payload).number 4 (before.length + 2) = .ok setting.value.toNat := by
    have read := @Window.number_of_parts ⟨payload⟩ _ _ _ _ setting.value.toNat_lt valueParts small
    rwa [List.length_append, Octets.length_ofNat] at read
  rw [settingAt, id, value]
  show Except.ok (Setting.mk (UInt16.ofNat setting.id.toNat) (UInt32.ofNat setting.value.toNat)) = _
  rw [UInt16.ofNat_toNat, UInt32.ofNat_toNat]

/-- Settings are read from where the octets of the first stand, at every sixth offset. -/
theorem mapM_settingAt_of_parts {payload before : Octets} (settings : List Setting)
    (parts : payload = before ++ settings.flatMap Setting.octets)
    (small : payload.length < wordLimit) :
    (List.range' before.length settings.length 6).mapM (settingAt payload) = .ok settings := by
  induction settings generalizing before with
  | nil => rfl
  | cons setting settings inductionHypothesis =>
    rw [List.flatMap_cons] at parts
    have later : payload =
        (before ++ setting.octets) ++ settings.flatMap Setting.octets := by
      rw [parts, List.append_assoc]
    have others := inductionHypothesis later
    rw [List.length_append, setting.length_octets] at others
    rw [List.length_cons, List.range'_succ, List.mapM_cons]
    exact bind_eq_ok (settingAt_of_parts parts small) (bind_eq_ok others rfl)

/-- Reading at offsets gives what reading from the front gives. -/
theorem settingsAtOffsets_eq {payload : Octets} (small : payload.length < wordLimit) :
    settingsAtOffsets payload = parseSettings payload := by
  unfold settingsAtOffsets parseSettings
  split
  · rfl
  · rename_i whole
    have parts := payload_wholeSettings (Decidable.not_not.mp whole)
    rw [← length_wholeSettings]
    exact @mapM_settingAt_of_parts payload [] _ parts.symm small

/-- Settings are read back from their payload. A payload is refused exactly if its length is no
multiple of six, and else gives the settings that it is written in, one for each six octets.
Reading the settings at their offsets gives the same, and no offset leads out of the payload. -/
theorem settings_roundTrip :
    (∀ settings : List Setting,
      Builder.empty.addAll (settings.flatMap Setting.items) =
          .ok ⟨(Frame.settings settings).payload⟩ ∧
        parseSettings (Frame.settings settings).payload = .ok settings) ∧
    ∀ payload : Octets,
      (parseSettings payload = .error (.invalidSettings payload.length) ↔
        ¬ 6 ∣ payload.length) ∧
      (6 ∣ payload.length → ∃ settings, parseSettings payload = .ok settings ∧
        settings.length = payload.length / 6 ∧ (Frame.settings settings).payload = payload) ∧
      (payload.length < wordLimit → settingsAtOffsets payload = parseSettings payload ∧
        ∀ error, settingsAtOffsets payload ≠ .error (.range error)) := by
  refine ⟨fun settings => ⟨addAll_items settings, parseSettings_settings settings⟩,
    fun payload => ?_⟩
  refine ⟨?_, fun divides => ?_, fun small => ⟨settingsAtOffsets_eq small, fun error => ?_⟩⟩
  · rw [Nat.dvd_iff_mod_eq_zero]
    refine ⟨fun refused whole => ?_, parseSettings_of_uneven⟩
    rw [parseSettings_of_whole whole] at refused
    cases refused
  · have whole := Nat.mod_eq_zero_of_dvd divides
    exact ⟨_, parseSettings_of_whole whole, length_wholeSettings payload,
      payload_wholeSettings whole⟩
  · rw [settingsAtOffsets_eq small]
    by_cases whole : payload.length % 6 = 0
    · rw [parseSettings_of_whole whole]
      exact nofun
    · rw [parseSettings_of_uneven whole]
      exact nofun

/-- The payload of two settings, the second of which is not defined. -/
def twoSettings : Octets := [0, 3, 0, 0, 0, 100, 0, 0x99, 0xff, 0, 0, 7]

theorem settings_roundTrip_twoSettings :
    parseSettings twoSettings = .ok [⟨3, 100⟩, ⟨0x99, 0xff000007⟩] ∧ 6 ∣ twoSettings.length ∧
      (∃ settings, parseSettings twoSettings = .ok settings ∧ settings.length = 2 ∧
        (Frame.settings settings).payload = twoSettings) ∧
      settingsAtOffsets twoSettings = .ok [⟨3, 100⟩, ⟨0x99, 0xff000007⟩] ∧
      parseSettings (twoSettings.take 11) = .error (.invalidSettings 11) := by
  obtain ⟨written, read⟩ := settings_roundTrip
  have found : parseSettings twoSettings = .ok [⟨3, 100⟩, ⟨0x99, 0xff000007⟩] :=
    (written [⟨3, 100⟩, ⟨0x99, 0xff000007⟩]).2
  obtain ⟨_, ofWhole, ofRepresentable⟩ := read twoSettings
  exact ⟨found, by decide, ofWhole (by decide), (ofRepresentable (by decide)).1.trans found,
    (read (twoSettings.take 11)).1.mpr (by decide)⟩

end Frame

end WebFetch
