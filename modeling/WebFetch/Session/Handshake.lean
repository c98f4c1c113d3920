/-
This file opens a session. The client sends the preface and its settings, then reads frames until
it has seen the settings of the other side, which it acknowledges, and the acknowledgement of its
own. Other frames are passed over meanwhile.
-/

import WebFetch.Session.Basic

namespace WebFetch.Session

def reportSetting (setting : Setting) : Action Unit :=
  report .debug "peer setting"
    [⟨"setting", (Setting.name? setting.id).getD "unknown", true⟩,
      .plain "id" setting.id.toNat.repr, .plain "value" setting.value.toNat.repr]

/-- Takes the settings of the other side and acknowledges them. -/
def acceptSettings (payload : Octets) : Action Unit := do
  let settings ← yieldOf ((Frame.parseSettings payload).mapError .frame)
  settings.forM reportSetting
  writeFrame Frame.settingsAck

theorem neverRefills_acceptSettings (payload : Octets) :
    NeverRefills (acceptSettings payload) :=
  neverRefills_bind (neverRefills_yieldOf _) fun _ =>
    neverRefills_bind (neverRefills_forM (fun _ => neverRefills_report _ _ _) _) fun _ =>
      neverRefills_writeFrame _

/-- How far the exchange of settings is. -/
structure Agreement where
  /-- The settings of the other side were seen. -/
  announced : Bool
  /-- The acknowledgement of the other side was seen. -/
  acknowledged : Bool
  deriving DecidableEq, Repr

/-- Whether the settings of both sides hold. -/
def Agreement.complete (agreement : Agreement) : Bool :=
  agreement.announced && agreement.acknowledged

/-- Takes one frame of the exchange of settings. -/
def settle (agreement : Agreement) (frame : Frame) : Action Agreement :=
  if frame.type ≠ .settings then do
    report .debug "skipping frame during settings handshake"
      [.plain "frame_type" frame.type.print]
    return agreement
  else if frame.has Flag.ack then return { agreement with acknowledged := true }
  else do
    acceptSettings frame.payload
    return { agreement with announced := true }

theorem neverRefills_settle (agreement : Agreement) (frame : Frame) :
    NeverRefills (settle agreement frame) := by
  unfold settle
  split
  · exact neverRefills_bind (neverRefills_report _ _ _) fun _ => neverRefills_pure _
  · split
    · exact neverRefills_pure _
    · exact neverRefills_bind (neverRefills_acceptSettings _) fun _ => neverRefills_pure _

/-- Reads frames until the settings of both sides hold. -/
def awaitSettings (agreement : Agreement) : Action Unit := fun session =>
  if agreement.complete then (.ok (), session)
  else
    match found : readFrame session with
    | (.error error, session) => (.error error, session)
    | (.ok frame, middle) =>
      match settled : settle agreement frame middle with
      | (.error error, session) => (.error error, session)
      | (.ok next, later) =>
        have : later.stream.weight < session.stream.weight := by
          have kept := neverRefills_settle agreement frame middle
          rw [settled] at kept
          exact Nat.lt_of_le_of_lt kept (weight_readFrame_lt found)
        awaitSettings next later
  termination_by session => session.stream.weight

def sendPreface : Action Unit := do
  writeOctets Frame.preface
  report .debug "SEND connection preface" []

/-- Sends the settings that the session announces. -/
def sendSettings : Action Unit := fun session =>
  writeFrame (Frame.settings session.options.settings) session

def handshake : Action Unit := do
  sendPreface
  sendSettings
  awaitSettings ⟨false, false⟩

end WebFetch.Session
