/-
This file says that the program yields all or nothing. A command line that is accepted ends with
the body of a whole answer and a line end where the output goes, or with nothing there and a last
line of diagnostics that says what went wrong. The network may do what it wants, and so may the
libraries that secure connections, read command lines and keep the journal: they are all arbitrary.
-/

import WebFetch.Proofs.Fetch
import WebFetch.Proofs.Stream.Pending
import WebFetch.Simulation.Platform

namespace WebFetch.Program

/-! ### What fetching comes to -/

/-- What was asked for is fetched if its text is a URL, and comes to the same whatever is
reported. -/
theorem result_fetch (network : Network) (invocation : Invocation) (journal other : Journal) :
    (fetch network invocation journal).result =
      match Url.parse invocation.url with
      | .error error => .error (.invalidUrl error)
      | .ok url =>
        (Fetch.fetch network url invocation.fields invocation.options other).result := by
  unfold fetch
  cases Url.parse invocation.url with
  | error error => rfl
  | ok url => exact Fetch.fetch_journal _ _ _ _ _ _

theorem fetch_ok_iff {network : Network} {invocation : Invocation} {journal : Journal}
    (other : Journal) {answer : Answer} :
    (fetch network invocation journal).result = .ok answer ↔
      ∃ url, Url.parse invocation.url = .ok url ∧
        (Fetch.fetch network url invocation.fields invocation.options other).result =
          .ok answer := by
  rw [result_fetch network invocation journal other]
  cases Url.parse invocation.url with
  | error error =>
    constructor
    · nofun
    · rintro ⟨url, parsed, _⟩
      cases parsed
  | ok url =>
    constructor
    · exact fun fetched => ⟨url, rfl, fetched⟩
    · rintro ⟨_, parsed, fetched⟩
      cases parsed
      exact fetched

/-- Why what was asked for is not fetched: its text is no URL, or what the URL names is not
fetched. -/
theorem fetch_error_iff {network : Network} {invocation : Invocation} {journal : Journal}
    (other : Journal) {error : FetchError} :
    (fetch network invocation journal).result = .error error ↔
      (∃ reason, Url.parse invocation.url = .error reason ∧ error = .invalidUrl reason) ∨
      ∃ url, Url.parse invocation.url = .ok url ∧
        (Fetch.fetch network url invocation.fields invocation.options other).result =
          .error error := by
  rw [result_fetch network invocation journal other]
  cases Url.parse invocation.url with
  | error reason =>
    constructor
    · exact fun failed => Or.inl ⟨reason, rfl, (Except.error.inj failed).symm⟩
    · rintro (⟨_, same, rfl⟩ | ⟨url, parsed, _⟩)
      · cases same
        rfl
      · cases parsed
  | ok url =>
    constructor
    · exact fun failed => Or.inr ⟨url, rfl, failed⟩
    · rintro (⟨reason, refused, _⟩ | ⟨_, parsed, failed⟩)
      · cases refused
      · cases parsed
        exact failed

/-- Fetching never makes the program stop. -/
theorem ne_overflow_of_fetch {network : Network} {invocation : Invocation} {journal : Journal}
    {error : FetchError} (failed : (fetch network invocation journal).result = .error error) :
    error ≠ .message .overflow := by
  rintro rfl
  rcases (fetch_error_iff journal).mp failed with ⟨reason, _, same⟩ | ⟨url, _, failed⟩
  · cases same
  · exact Fetch.fetch_ne_overflow _ _ _ _ _ failed

/-! ### Writing -/

/-- Where everything is taken, a body is followed by a line end and nothing else. -/
theorem writeBody_of_accepts {output : Stream} (accepts : output.Accepts) (body : Octets) :
    ∃ next, writeBody body output = (.ok (), next) ∧
      next.written = output.written ++ body ++ [0x0a] := by
  obtain ⟨middle, first, middleAccepts, middleWritten⟩ := output.writeAll_of_accepts accepts body
  obtain ⟨last, second, lastAccepts, lastWritten⟩ :=
    middle.writeAll_of_accepts middleAccepts (Utf8.encode "\n")
  obtain ⟨next, third, _, nextWritten⟩ := last.flush_of_accepts lastAccepts
  refine ⟨next, ?_, ?_⟩
  · rw [writeBody, first]
    dsimp only
    rw [second]
    exact third
  · rw [nextWritten, lastWritten, middleWritten]
    rfl

/-- What was fetched is all that is written. -/
theorem finish_of_ok (platform : Platform) (accepts : platform.output.Accepts)
    {outcome : Fetch.Outcome} {answer : Answer} (fetched : outcome.result = .ok answer) :
    (finish platform outcome).exitCode = 0 ∧
      (finish platform outcome).output =
        platform.output.written ++ answer.body ++ [0x0a] := by
  obtain ⟨next, wrote, written⟩ := writeBody_of_accepts accepts answer.body
  unfold finish write
  rw [fetched]
  dsimp only
  rw [wrote]
  exact ⟨rfl, written⟩

/-- Nothing is written if nothing was fetched, and diagnostics end with the reason. -/
theorem finish_of_error (platform : Platform) {outcome : Fetch.Outcome} {error : FetchError}
    (failed : outcome.result = .error error) :
    (finish platform outcome).exitCode = failureCode ∧
      (finish platform outcome).output = platform.output.written ∧
      (finish platform outcome).diagnostics =
        platform.print outcome.journal.entries ++ ("error: " ++ error.text ++ "\n") := by
  unfold finish write
  rw [failed]
  exact ⟨rfl, rfl, rfl⟩

/-! ### Runs -/

/-- Whatever the network does and whatever is reported, a run of a command line that is accepted
succeeds exactly if the text is a URL and what it names is fetched. Then the body of the answer,
which came whole, and a line end are written; otherwise the exit code is 1, nothing is written, and
diagnostics end with the error. -/
theorem run_all_or_nothing (platform : Platform) {arguments : List String}
    {invocation : Invocation}
    (accepted : platform.readArguments CommandLine.parseField arguments = .ok invocation)
    (writable : platform.output.Accepts) (journal : Journal) :
    let ended := run platform arguments
    let fetched := fun url => (Fetch.fetch platform.network url invocation.fields
      invocation.options journal).result
    (ended.exitCode = 0 ↔
      ∃ url answer, Url.parse invocation.url = .ok url ∧ fetched url = .ok answer) ∧
    (∀ url answer, Url.parse invocation.url = .ok url → fetched url = .ok answer →
      ended.output = platform.output.written ++ answer.body ++ [0x0a] ∧
      Fetch.BringsWhole platform.network url invocation.fields invocation.options answer) ∧
    (ended.exitCode ≠ 0 → ended.exitCode = 1 ∧ ended.output = platform.output.written ∧
      ∃ error before,
        ((∃ reason, Url.parse invocation.url = .error reason ∧ error = .invalidUrl reason) ∨
          ∃ url, Url.parse invocation.url = .ok url ∧ fetched url = .error error) ∧
        error ≠ .message .overflow ∧
        ended.diagnostics = before ++ ("error: " ++ error.text ++ "\n")) := by
  intro ended fetched
  have same : ended = finish platform
      (fetch platform.network invocation (journalOf platform invocation.verbosity)) := by
    show run platform arguments = _
    rw [run, accepted]
  rw [same]
  cases result : (fetch platform.network invocation
      (journalOf platform invocation.verbosity)).result with
  | ok answer =>
    obtain ⟨code, output⟩ := finish_of_ok platform writable result
    obtain ⟨url, parsed, brought⟩ := (fetch_ok_iff journal).mp result
    refine ⟨iff_of_true code ⟨url, answer, parsed, brought⟩, ?_, fun other => absurd code other⟩
    intro other otherAnswer otherParsed otherBrought
    cases parsed.symm.trans otherParsed
    cases brought.symm.trans otherBrought
    exact ⟨output, Fetch.bringsWhole_of_fetch brought⟩
  | error error =>
    obtain ⟨code, nothing, said⟩ := finish_of_error platform result
    have failed (url : Url) (answer : Answer) (parsed : Url.parse invocation.url = .ok url) :
        fetched url ≠ .ok answer := by
      intro brought
      cases result.symm.trans ((fetch_ok_iff journal).mpr ⟨url, parsed, brought⟩)
    refine ⟨iff_of_false (by rw [code]; decide) ?_, ?_,
      fun _ => ⟨code, nothing, error, _, (fetch_error_iff journal).mp result,
        ne_overflow_of_fetch result, said⟩⟩
    · rintro ⟨url, answer, parsed, brought⟩
      exact failed url answer parsed brought
    · exact fun url answer parsed brought => absurd brought (failed url answer parsed)

open Simulation (Script Server platform)

/-- A server that answers every request with a message and closes. -/
def answering (response : String) : Server :=
  ⟨none, .messages [Ascii.octets response], .closed, 0, false⟩

/-- A server of a trusted certificate that answers every request with a header block and a body in
one frame, which may end the stream, and closes. -/
def framing (body : String) (flags : UInt8) : Server where
  tls := some ⟨.v13, true, ["h2"], false⟩
  service := .frames [(Frame.settings []).encode, Frame.settingsAck.encode]
    (some [Frame.encode ⟨.headers, Flag.endHeaders, Session.requestStream, [0x88]⟩,
      Frame.encode ⟨.data, flags, Session.requestStream, Ascii.octets body⟩])
  ending := .closed
  readChunk := 0
  refusesOctets := false

/-- Bodies of five octets that arrive whole, in a message and in frames, and bodies that are cut off
after three: one before its length, and one before a frame ends the stream. -/
theorem run_all_or_nothing_measuredBody :
    let head := "HTTP/1.1 200 OK\r\nContent-Length: 5\r\n\r\n"
    let ended := fun server arguments => run (platform (.ofServer server) none) arguments
    let plain := fun body => ended (answering (head ++ body)) ["http://127.0.0.1/"]
    let frames := fun body flags => ended (framing body flags) ["--http2", "https://127.0.0.1/"]
    let Wrote := fun (ended : Run) text => ended.exitCode = 0 ∧ ended.output = Ascii.octets text
    let Failed := fun (ended : Run) (error : FetchError) => ended.exitCode = 1 ∧ ended.output = [] ∧
      ∃ before, ended.diagnostics = before ++ ("error: " ++ error.text ++ "\n")
    Wrote (plain "hello") "hello\n" ∧ Failed (plain "hel") (.message .incomplete) ∧
      Wrote (frames "hello" Flag.endStream) "hello\n" ∧
      Failed (frames "hel" 0) (.session (.io .endOfStream)) := by
  intro head ended plain frames Wrote Failed
  have writable : Stream.Accepts (.ofEvents []) := ⟨nofun, rfl, rfl⟩
  have wrote (server : Server) (arguments : List String) {invocation : Invocation} {url : Url}
      (accepted : (platform (.ofServer server) none).readArguments CommandLine.parseField
        arguments = .ok invocation)
      (parsed : Url.parse invocation.url = .ok url) (answer : Answer)
      (fetched : (Fetch.fetch (Script.ofServer server).network url invocation.fields
        invocation.options .silent).result = .ok answer)
      (body : answer.body = Ascii.octets "hello") :
      Wrote (ended server arguments) "hello\n" := by
    have all := run_all_or_nothing (platform (.ofServer server) none) accepted writable .silent
    refine ⟨all.1.mpr ⟨url, answer, parsed, fetched⟩,
      (all.2.1 url answer parsed fetched).1.trans ?_⟩
    rw [body]
    rfl
  have failed (server : Server) (arguments : List String) {invocation : Invocation} {url : Url}
      (accepted : (platform (.ofServer server) none).readArguments CommandLine.parseField
        arguments = .ok invocation)
      (parsed : Url.parse invocation.url = .ok url) {error : FetchError}
      (fetched : (Fetch.fetch (Script.ofServer server).network url invocation.fields
        invocation.options .silent).result = .error error) :
      Failed (ended server arguments) error := by
    have all := run_all_or_nothing (platform (.ofServer server) none) accepted writable .silent
    obtain ⟨code, nothing, other, before, reason, _, said⟩ := all.2.2 fun zero => by
      obtain ⟨_, _, otherParsed, brought⟩ := all.1.mp zero
      cases parsed.symm.trans otherParsed
      cases fetched.symm.trans brought
    rcases reason with ⟨_, refused, _⟩ | ⟨_, otherParsed, otherFailed⟩
    · cases parsed.symm.trans refused
    · cases parsed.symm.trans otherParsed
      cases fetched.symm.trans otherFailed
      exact ⟨code, nothing, before, said⟩
  let plainly : Invocation := ⟨"http://127.0.0.1/", 0, false, [], false, false, 30, 60⟩
  let framed : Invocation := ⟨"https://127.0.0.1/", 0, true, [], false, false, 30, 60⟩
  have plainRead : (Simulation.CommandLine.parse CommandLine.parseField
      ["http://127.0.0.1/"]).mapError Simulation.CommandLine.stop = .ok plainly := by
    decide +kernel
  have framedRead : (Simulation.CommandLine.parse CommandLine.parseField
      ["--http2", "https://127.0.0.1/"]).mapError Simulation.CommandLine.stop = .ok framed := by
    decide +kernel
  have plainParsed : Url.parse plainly.url = .ok ⟨"http", "127.0.0.1", none, "/", none⟩ := by
    decide +kernel
  have framedParsed : Url.parse framed.url = .ok ⟨"https", "127.0.0.1", none, "/", none⟩ := by
    decide +kernel
  let body := Ascii.octets "hello"
  exact ⟨wrote _ _ plainRead plainParsed ⟨200, [⟨"Content-Length", "5"⟩], body⟩
      (by decide +kernel) rfl,
    failed _ ["http://127.0.0.1/"] plainRead plainParsed (by decide +kernel),
    wrote _ _ framedRead framedParsed ⟨200, [], body⟩ (by decide +kernel) rfl,
    failed _ ["--http2", "https://127.0.0.1/"] framedRead framedParsed (by decide +kernel)⟩

end WebFetch.Program
