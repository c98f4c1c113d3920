/-
This file reads sequences of frames: as many as octets hold whole, and what is left.
-/

import WebFetch.Frame.Basic
import WebFetch.Sequenced

namespace WebFetch.Frame

/-- Octets that begin with a header have at least its size. -/
theorem size_le_of_parseHeader {octets : Octets} {header : FrameHeader}
    (found : FrameHeader.parse octets = .ok header) : FrameHeader.size ≤ octets.length := by
  unfold FrameHeader.parse at found
  split at found
  · simp only [List.length_cons, FrameHeader.size]
    omega
  · cases found

/-- Reading a frame uses up its header at least. -/
theorem length_lt_of_parse {octets rest : Octets} {frame : Frame}
    (found : parse octets = .ok (frame, rest)) : rest.length < octets.length := by
  obtain ⟨header, headerRead, taken⟩ := exists_ok_of_bind found
  have long := size_le_of_parseHeader headerRead
  simp only [FrameHeader.takeFrame] at taken
  split at taken
  · cases taken
  · cases taken
    simp only [List.length_drop, FrameHeader.size] at long ⊢
    omega

/-- The frames that octets hold whole after those given last first, and what is left. -/
def parseAllFrom (parsed : List Frame) (octets : Octets) : List Frame × Octets :=
  match found : parse octets with
  | .error _ => (parsed.reverse, octets)
  | .ok (frame, rest) =>
    have : rest.length < octets.length := length_lt_of_parse found
    parseAllFrom (frame :: parsed) rest
  termination_by octets.length

/-- The frames that octets hold whole, and what is left. -/
def parseAll (octets : Octets) : List Frame × Octets := parseAllFrom [] octets

end WebFetch.Frame
