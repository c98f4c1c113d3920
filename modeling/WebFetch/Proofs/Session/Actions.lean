/-
This file says what actions on a session amount to, one after the other and in loops. Waiting for
settings, reading a header block and reading a body each take one step and then go on as the same
loop. The loops end because each step uses up some of the script of the stream; what is said about
them here does not mention the script any more.
-/

import WebFetch.Session.Handshake
import WebFetch.Session.Response

namespace WebFetch.Session

/-! ### Actions one after the other -/

theorem bind_of_ok {First Result : Type} {first : Action First} {next : First → Action Result}
    {session middle : Session} {between : First} (found : first session = (.ok between, middle)) :
    (first >>= next) session = next between middle := by
  simp only [bind, found]

theorem bind_of_error {First Result : Type} {first : Action First} {next : First → Action Result}
    {session middle : Session} {error : SessionError}
    (failed : first session = (.error error, middle)) :
    (first >>= next) session = (.error error, middle) := by
  simp only [bind, failed]

/-- Of two actions that fail together, the first fails or the second does with its result. -/
theorem exists_of_bind_eq_error {First Result : Type} {first : Action First}
    {next : First → Action Result} {session later : Session} {error : SessionError}
    (failed : (first >>= next) session = (.error error, later)) :
    first session = (.error error, later) ∨ ∃ between middle,
      first session = (.ok between, middle) ∧ next between middle = (.error error, later) := by
  cases found : first session with
  | mk result middle =>
    cases result with
    | error failure =>
      rw [bind_of_error found] at failed
      cases failed
      exact Or.inl rfl
    | ok between =>
      rw [bind_of_ok found] at failed
      exact Or.inr ⟨between, middle, rfl, failed⟩

/-- Doing nothing afterwards changes nothing. -/
theorem bind_pure_unit (action : Action Unit) : (do action; pure ()) = action := by
  funext session
  simp only [bind]
  split <;> rename_i found <;> exact found.symm

theorem onStream_eq {Result : Type} (step : Stream → Except IoError Result × Stream)
    (session : Session) :
    onStream step session =
      ((step session.stream).1.mapError .io,
        { session with stream := (step session.stream).2 }) := by
  unfold onStream
  split <;> rename_i found <;> rw [found] <;> rfl

theorem onStream_of_ok {Result : Type} {step : Stream → Except IoError Result × Stream}
    {session : Session} {result : Result} {stream : Stream}
    (found : step session.stream = (.ok result, stream)) :
    onStream step session = (.ok result, { session with stream := stream }) := by
  rw [onStream, found]

theorem exists_journal_of_reportExpected (level : Level) (message : String)
    (details : List Detail) (session : Session) :
    ∃ journal, reportExpected level message details session =
      (.ok (), { session with journal := journal }) :=
  ⟨_, rfl⟩

/-- Reporting one thing after the other changes the journal only. -/
theorem exists_journal_of_forM {Element : Type} {step : Element → Action Unit}
    (each : ∀ element session, ∃ journal,
      step element session = (.ok (), { session with journal := journal }))
    (elements : List Element) (session : Session) :
    ∃ journal, elements.forM step session = (.ok (), { session with journal := journal }) := by
  induction elements generalizing session with
  | nil => exact ⟨session.journal, rfl⟩
  | cons element elements inductionHypothesis =>
    obtain ⟨middle, first⟩ := each element session
    obtain ⟨last, others⟩ := inductionHypothesis { session with journal := middle }
    exact ⟨last, (bind_of_ok first).trans others⟩

/-! ### Loops -/

/-- Nothing is read once the settings of both sides hold. -/
theorem awaitSettings_of_complete {agreement : Agreement} (complete : agreement.complete = true) :
    awaitSettings agreement = pure () := by
  funext session
  rw [awaitSettings, if_pos complete]
  rfl

/-- Until then a frame is read and settled, and the waiting goes on. -/
theorem awaitSettings_of_incomplete {agreement : Agreement}
    (incomplete : agreement.complete = false) :
    awaitSettings agreement = (do
      let frame ← readFrame
      let next ← settle agreement frame
      awaitSettings next) := by
  funext session
  rw [awaitSettings, if_neg (by rw [incomplete]; exact Bool.false_ne_true)]
  split
  · rename_i failed
    rw [bind_of_error failed]
  · rename_i read
    rw [bind_of_ok read]
    split
    · rename_i failed
      rw [bind_of_error failed]
    · rename_i settled
      rw [bind_of_ok settled]

/-- No frame is read once the block has ended. -/
theorem readBlockFrom_of_ended (pieces : List Octets) :
    readBlockFrom pieces true = pure pieces.reverse.flatten := by
  funext session
  rw [readBlockFrom, if_pos rfl]
  rfl

/-- Until then a frame continues the block. -/
theorem readBlockFrom_of_open (pieces : List Octets) :
    readBlockFrom pieces false = (do
      let frame ← await .continuation
      readBlockFrom (frame.payload :: pieces) (frame.has Flag.endHeaders)) := by
  funext session
  rw [readBlockFrom, if_neg Bool.false_ne_true]
  split
  · rename_i failed
    rw [bind_of_error failed]
  · rename_i read
    rw [bind_of_ok read]

/-- What becomes of a frame of the body. -/
def takeData (pieces : List Octets) (frame : Frame) : Action Octets :=
  if frame.has Flag.padded then yieldOf (.error .paddedData)
  else if frame.has Flag.endStream then return (frame.payload :: pieces).reverse.flatten
  else do
    allowMore frame.payload.length
    readBodyFrom (frame.payload :: pieces)

/-- A body is read frame by frame. -/
theorem readBodyFrom_eq (pieces : List Octets) :
    readBodyFrom pieces = (do
      let frame ← await .data
      takeData pieces frame) := by
  funext session
  rw [readBodyFrom]
  split
  · rename_i failed
    rw [bind_of_error failed]
  · rename_i read
    rw [bind_of_ok read, takeData]
    split
    · rfl
    · split
      · rfl
      · split
        · rename_i failed
          rw [bind_of_error failed]
        · rename_i allowed
          rw [bind_of_ok allowed]

end WebFetch.Session
