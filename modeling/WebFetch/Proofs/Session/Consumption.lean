/-
This file says that an exchange depends on nothing but the octets that it reads. Two sessions on
which the same octets arrive, in whatever events and at whatever sizes, do the same. If further
octets follow on one of them, both do the same too, unless the one without them comes to the end of
its octets; then it fails at once, and had written nothing that the other does not write.
-/

import WebFetch.Proofs.Hpack.Block
import WebFetch.Proofs.Session.Actions
import WebFetch.Proofs.Stream.Channel
import WebFetch.Session.Exchange

namespace WebFetch.Session

/-! ### Sessions on which other octets arrive -/

/-- Whether `other` is like a session, but that these octets arrive on it, in whatever events, on a
stream that is steady. -/
structure Variant (session : Session) (octets : Octets) (other : Session) : Prop where
  options : other.options = session.options
  table : other.table = session.table
  steady : other.stream.Steady
  channel : other.stream.channel = { session.stream.channel with arriving := octets }

/-- Whether two sessions are alike, but that further octets follow on the second. -/
structure Precedes (extra : Octets) (shorter longer : Session) : Prop where
  steady : shorter.stream.Steady
  variant : shorter.Variant (shorter.stream.arriving ++ extra) longer

/-- Whether a session becomes another by reading and writing. -/
structure Onward (session later : Session) : Prop where
  steady : later.stream.Steady
  advances : session.stream.channel.Advances later.stream.channel

theorem Onward.trans {session middle later : Session} (first : Onward session middle)
    (second : Onward middle later) : Onward session later :=
  ⟨second.steady, first.advances.trans second.advances⟩

/-! ### One action on two sessions -/

section

variable {Result First : Type} {extra : Octets}

/-- What an action comes to on two sessions of which further octets follow on the second: the same,
or it fails on the first where the octets end, while on the second it reads on. -/
inductive Outcome (extra : Octets) :
    Except SessionError Result × Session → Except SessionError Result × Session → Prop where
  | same {result : Except SessionError Result} {shorter longer : Session}
      (precedes : Precedes extra shorter longer) : Outcome extra (result, shorter) (result, longer)
  | ended {shorter : Session} {longer : Except SessionError Result × Session}
      (steady : longer.2.stream.Steady)
      (overtakes : Channel.Overtakes extra shorter.stream.channel longer.2.stream.channel) :
      Outcome extra (.error (.io .endOfStream), shorter) longer

theorem onward_bind {first : Action First} {next : First → Action Result} {session : Session}
    (firstOnward : Onward session (first session).2)
    (nextOnward : ∀ result middle, first session = (.ok result, middle) →
      Onward middle (next result middle).2) :
    Onward session ((first >>= next) session).2 := by
  cases found : first session with
  | mk result middle =>
  rw [found] at firstOnward
  cases result with
  | error error =>
    rw [bind_of_error found]
    exact firstOnward
  | ok result =>
    rw [bind_of_ok found]
    exact firstOnward.trans (nextOnward result middle found)

theorem outcome_bind {first : Action First} {next : First → Action Result}
    {shorter longer : Session} (firstOutcome : Outcome extra (first shorter) (first longer))
    (nextOnward : ∀ result middle, first longer = (.ok result, middle) → middle.stream.Steady →
      Onward middle (next result middle).2)
    (nextOutcome : ∀ result shorterMiddle longerMiddle,
      first shorter = (.ok result, shorterMiddle) → first longer = (.ok result, longerMiddle) →
      Precedes extra shorterMiddle longerMiddle →
      Outcome extra (next result shorterMiddle) (next result longerMiddle)) :
    Outcome extra ((first >>= next) shorter) ((first >>= next) longer) := by
  generalize shorterFound : first shorter = shorterRun at firstOutcome
  generalize longerFound : first longer = longerRun at firstOutcome
  cases firstOutcome with
  | @same result shorterMiddle longerMiddle precedes =>
    cases result with
    | error error =>
      rw [bind_of_error shorterFound, bind_of_error longerFound]
      exact .same precedes
    | ok result =>
      rw [bind_of_ok shorterFound, bind_of_ok longerFound]
      exact nextOutcome result _ _ shorterFound longerFound precedes
  | @ended shorterMiddle _ steady overtakes =>
    obtain ⟨result, longerMiddle⟩ := longerRun
    rw [bind_of_error shorterFound]
    cases result with
    | error error =>
      rw [bind_of_error longerFound]
      exact .ended steady overtakes
    | ok result =>
      rw [bind_of_ok longerFound]
      have onward := nextOnward result longerMiddle longerFound steady
      exact .ended onward.steady (overtakes.advances onward.advances)

/-- Whether an action depends on nothing but the octets that it reads, on sessions of some kind. -/
structure DeterminedOn (kind : Session → Prop) (action : Action Result) : Prop where
  onward : ∀ session, kind session → session.stream.Steady → Onward session (action session).2
  agrees : ∀ extra shorter longer, kind shorter → kind longer → Precedes extra shorter longer →
    Outcome extra (action shorter) (action longer)

/-- Whether an action depends on nothing but the octets that it reads. -/
def Determined (action : Action Result) : Prop := DeterminedOn (fun _ => True) action

/-! ### Actions one after the other -/

theorem DeterminedOn.bind {kind later : Session → Prop} {first : Action First}
    {next : First → Action Result} (firstDetermined : DeterminedOn kind first)
    (leads : ∀ {session middle : Session} {result : First}, kind session →
      first session = (.ok result, middle) → later middle)
    (nextDetermined : ∀ result, DeterminedOn later (next result)) :
    DeterminedOn kind (first >>= next) := by
  constructor
  · intro session known steady
    have begun := firstDetermined.onward session known steady
    refine onward_bind begun fun result middle found => ?_
    rw [found] at begun
    exact (nextDetermined result).onward middle (leads known found) begun.steady
  · intro extra shorter longer shorterKnown longerKnown precedes
    refine outcome_bind
      (firstDetermined.agrees extra shorter longer shorterKnown longerKnown precedes)
      (fun result middle found steady => ?_)
      fun result shorterMiddle longerMiddle shorterFound longerFound middle => ?_
    · exact (nextDetermined result).onward middle (leads longerKnown found) steady
    · exact (nextDetermined result).agrees extra shorterMiddle longerMiddle
        (leads shorterKnown shorterFound) (leads longerKnown longerFound) middle

theorem Determined.bind {first : Action First} {next : First → Action Result}
    (firstDetermined : Determined first) (nextDetermined : ∀ result, Determined (next result)) :
    Determined (first >>= next) :=
  DeterminedOn.bind firstDetermined (fun _ _ => trivial) nextDetermined

theorem Determined.on {action : Action Result} (determined : Determined action)
    (kind : Session → Prop) : DeterminedOn kind action :=
  ⟨fun session _ => determined.onward session trivial,
    fun extra shorter longer _ _ => determined.agrees extra shorter longer trivial trivial⟩

/-- Whether less than so much of the script of a session is left. -/
def Below (bound : Nat) (session : Session) : Prop := session.stream.weight < bound

theorem determined_of_below {action : Action Result}
    (determined : ∀ bound, DeterminedOn (Below bound) action) : Determined action := by
  constructor
  · intro session _ steady
    exact (determined _).onward session (Nat.lt_succ_self _) steady
  · intro extra shorter longer _ _ precedes
    exact (determined (max shorter.stream.weight longer.stream.weight + 1)).agrees extra shorter
      longer (Nat.lt_succ_of_le (Nat.le_max_left _ _)) (Nat.lt_succ_of_le (Nat.le_max_right _ _))
      precedes

theorem below_of_shorter {bound : Nat} {session later : Session}
    (below : Below (bound + 1) session) (shorter : later.stream.weight < session.stream.weight) :
    Below bound later :=
  Nat.lt_of_lt_of_le shorter (Nat.le_of_lt_succ below)

/-- An action that adds nothing to the script leaves less than so much of it. -/
theorem NeverRefills.below {bound : Nat} {action : Action Result} (never : NeverRefills action)
    {session later : Session} {result : Result} (below : Below bound session)
    (found : action session = (.ok result, later)) : Below bound later := by
  have less := never session
  rw [found] at less
  exact Nat.lt_of_le_of_lt less below

/-- A loop each turn of which leaves less of the script. -/
theorem determined_loop {State : Type} {loop : State → Action Result}
    (turn : ∀ bound, (∀ state, DeterminedOn (Below bound) (loop state)) →
      ∀ state, DeterminedOn (Below (bound + 1)) (loop state)) (state : State) :
    Determined (loop state) := by
  refine determined_of_below fun bound => ?_
  induction bound generalizing state with
  | zero =>
    exact ⟨fun _ below => absurd below (Nat.not_lt_zero _),
      fun _ _ _ below => absurd below (Nat.not_lt_zero _)⟩
  | succ bound inductionHypothesis => exact turn bound inductionHypothesis state

/-! ### Single steps -/

theorem determined_yieldOf (result : Except SessionError Result) :
    Determined (yieldOf result) := by
  constructor
  · intro session _ steady
    exact ⟨steady, .refl _⟩
  · intro extra shorter longer _ _ precedes
    exact .same precedes

theorem determined_pure (result : Result) : Determined (pure result : Action Result) :=
  determined_yieldOf (.ok result)

/-- What is reported makes no difference. -/
theorem determined_of_journal {action : Action Unit}
    (reports : ∀ session, ∃ journal,
      action session = (.ok (), { session with journal := journal })) : Determined action := by
  constructor
  · intro session _ steady
    obtain ⟨journal, found⟩ := reports session
    rw [found]
    exact ⟨steady, .refl _⟩
  · intro extra shorter longer _ _ precedes
    obtain ⟨shorterJournal, shorterFound⟩ := reports shorter
    obtain ⟨longerJournal, longerFound⟩ := reports longer
    obtain ⟨steady, options, table, longerSteady, channel⟩ := precedes
    rw [shorterFound, longerFound]
    exact .same ⟨steady, options, table, longerSteady, channel⟩

theorem determined_report (level : Level) (message : String) (details : List Detail) :
    Determined (report level message details) :=
  determined_of_journal fun _ => ⟨_, rfl⟩

theorem determined_reportExpected (level : Level) (message : String) (details : List Detail) :
    Determined (reportExpected level message details) :=
  determined_of_journal fun _ => ⟨_, rfl⟩

/-- What is done on the stream may depend on the octets that the channel reads. -/
theorem determined_onStream {step : Stream → Except IoError Result × Stream}
    {spec : Channel → Except IoError Result × Channel} (carries : Stream.Carries step spec)
    (determined : Channel.Determined spec) : Determined (onStream step) := by
  constructor
  · intro session _ steady
    obtain ⟨laterSteady, does⟩ := carries session.stream steady
    have advances := determined.advances session.stream.channel
    rw [← does] at advances
    rw [onStream_eq]
    exact ⟨laterSteady, advances⟩
  · intro extra shorter longer _ _ precedes
    obtain ⟨shorterSteady, shorterDoes⟩ := carries shorter.stream precedes.steady
    obtain ⟨longerSteady, longerDoes⟩ := carries longer.stream precedes.variant.steady
    have follows : longer.stream.channel = shorter.stream.channel.followedBy extra :=
      precedes.variant.channel
    have agrees := determined.agrees extra shorter.stream.channel
    rw [← follows, ← shorterDoes, ← longerDoes] at agrees
    rw [onStream_eq, onStream_eq]
    rcases agrees with same | ⟨failed, overtakes⟩
    · obtain ⟨sameResult, followsLater⟩ := Prod.mk.inj same
      rw [sameResult]
      exact .same ⟨shorterSteady, precedes.variant.options, precedes.variant.table, longerSteady,
        followsLater⟩
    · rw [failed]
      exact .ended longerSteady overtakes

theorem determined_forM {Element : Type} {step : Element → Action Unit}
    (determined : ∀ element, Determined (step element)) (elements : List Element) :
    Determined (elements.forM step) := by
  induction elements with
  | nil => exact determined_pure ()
  | cons element elements inductionHypothesis =>
    exact (determined element).bind fun _ => inductionHypothesis

/-- What an action does may depend on the options of the session. -/
theorem determined_of_options (action : SessionOptions → Action Result)
    (determined : ∀ options, Determined (action options)) :
    Determined fun session => action session.options session := by
  constructor
  · intro session _ steady
    exact (determined session.options).onward session trivial steady
  · intro extra shorter longer _ _ precedes
    show Outcome extra (action shorter.options shorter) (action longer.options longer)
    rw [precedes.variant.options]
    exact (determined shorter.options).agrees extra shorter longer trivial trivial precedes

/-! ### Frames -/

theorem determined_writeOctets (octets : Octets) : Determined (writeOctets octets) :=
  determined_onStream (Stream.writeAll_carries octets) (Channel.determined_writeAll octets)

theorem determined_writeFrame (frame : Frame) : Determined (writeFrame frame) :=
  (determined_reportExpected _ _ _).bind fun _ =>
    (determined_writeOctets _).bind fun _ =>
      (determined_onStream Stream.flush_carries Channel.determined_flush).bind fun _ =>
        determined_report _ _ _

theorem determined_writeFrames (frames : List Frame) : Determined (writeFrames frames) :=
  determined_forM determined_writeFrame frames

theorem determined_readOctets (needed : Nat) : Determined (onStream (Stream.readExact needed)) :=
  determined_onStream (Stream.readExact_carries needed) (Channel.determined_readExact needed)

theorem determined_readFrame : Determined readFrame := by
  have header : Determined readHeader :=
    (determined_readOctets _).bind fun _ => determined_yieldOf _
  exact header.bind fun _ => (determined_readOctets _).bind fun _ =>
    (determined_reportExpected _ _ _).bind fun _ => determined_pure _

theorem determined_await (expected : FrameType) : Determined (await expected) :=
  determined_readFrame.bind fun _ => determined_yieldOf _

/-! ### The steps of an exchange -/

theorem determined_settle (agreement : Agreement) (frame : Frame) :
    Determined (settle agreement frame) := by
  unfold settle
  split
  · exact (determined_report _ _ _).bind fun _ => determined_pure _
  · split
    · exact determined_pure _
    · have accepts : Determined (acceptSettings frame.payload) :=
        (determined_yieldOf _).bind fun _ =>
          (determined_forM (fun _ => determined_report _ _ _) _).bind fun _ =>
            determined_writeFrame _
      exact accepts.bind fun _ => determined_pure _

theorem determined_awaitSettings (agreement : Agreement) :
    Determined (awaitSettings agreement) := by
  refine determined_loop (fun bound goesOn agreement => ?_) agreement
  cases complete : agreement.complete with
  | true =>
    rw [awaitSettings_of_complete complete]
    exact (determined_pure ()).on _
  | false =>
    rw [awaitSettings_of_incomplete complete]
    refine (determined_readFrame.on _).bind
      (fun below found => below_of_shorter below (weight_readFrame_lt found)) fun frame => ?_
    exact ((determined_settle _ _).on _).bind (neverRefills_settle _ _).below goesOn

theorem determined_handshake : Determined handshake := by
  have preface : Determined sendPreface :=
    (determined_writeOctets _).bind fun _ => determined_report _ _ _
  have settings : Determined sendSettings :=
    determined_of_options (fun options => writeFrame (Frame.settings options.settings))
      fun _ => determined_writeFrame _
  exact preface.bind fun _ => settings.bind fun _ => determined_awaitSettings _

/-- Sends a block in frames as the options of the session say. -/
def sendBlock (block : Octets) (options : SessionOptions) : Action Unit := do
  let frames ← yieldOf ((blockFrames options.payloadLimit block).mapError .frame)
  writeFrames frames

theorem sendRequest_eq (request : Request) :
    sendRequest request =
      fun session => sendBlock (Hpack.encode request.headerList) session.options session := by
  funext session
  unfold sendRequest sendBlock
  cases blockFrames session.options.payloadLimit (Hpack.encode request.headerList) <;> rfl

theorem determined_sendRequest (request : Request) : Determined (sendRequest request) := by
  rw [sendRequest_eq]
  exact determined_of_options (sendBlock _)
    fun _ => (determined_yieldOf _).bind determined_writeFrames

theorem determined_readBlockFrom (pieces : List Octets) (ended : Bool) :
    Determined (readBlockFrom pieces ended) := by
  refine @determined_loop _ (List Octets × Bool) (fun state => readBlockFrom state.1 state.2)
    (fun bound goesOn (pieces, ended) => ?_) (pieces, ended)
  cases ended with
  | true =>
    rw [readBlockFrom_of_ended]
    exact (determined_pure _).on _
  | false =>
    rw [readBlockFrom_of_open]
    exact ((determined_await _).on _).bind
      (fun below found => below_of_shorter below (weight_await_lt found)) fun _ => goesOn (_, _)

/-- A block is decoded with the table alone. -/
theorem determined_decodeBlock (block : Octets) : Determined (decodeBlock block) := by
  constructor
  · intro session _ steady
    exact ⟨steady, .refl _⟩
  · intro extra shorter longer _ _ precedes
    obtain ⟨steady, options, table, longerSteady, channel⟩ := precedes
    obtain ⟨result, laterTable⟩ := @Hpack.decodeFrom_journal block.length [] shorter.table
      longer.journal shorter.journal block
    unfold decodeBlock Hpack.decode
    dsimp only
    rw [table, result]
    exact .same ⟨steady, options, laterTable, longerSteady, channel⟩

theorem determined_readHeaders : Determined readHeaders := by
  have table : Determined reportTable := determined_of_journal fun _ => ⟨_, rfl⟩
  exact (determined_await _).bind fun _ => (determined_yieldOf _).bind fun _ =>
    (determined_readBlockFrom _ _).bind fun _ => (determined_decodeBlock _).bind fun _ =>
      table.bind fun _ => (determined_forM (fun _ => determined_reportExpected _ _ _) _).bind
        fun _ => determined_pure _

theorem determined_allowMore (length : Nat) : Determined (allowMore length) := by
  unfold allowMore
  split
  · exact determined_pure _
  · exact (determined_yieldOf _).bind fun _ => (determined_writeFrame _).bind fun _ =>
      (determined_yieldOf _).bind fun _ => determined_writeFrame _

theorem determined_readBodyFrom (pieces : List Octets) : Determined (readBodyFrom pieces) := by
  refine determined_loop (fun bound goesOn pieces => ?_) pieces
  rw [readBodyFrom_eq]
  refine ((determined_await _).on _).bind
    (fun below found => below_of_shorter below (weight_await_lt found)) fun frame => ?_
  unfold takeData
  split
  · exact (determined_yieldOf _).on _
  · split
    · exact (determined_pure _).on _
    · exact ((determined_allowMore _).on _).bind (neverRefills_allowMore _).below
        fun _ => goesOn _

theorem determined_exchange (request : Request) : Determined (exchange request) := by
  have close : Determined goAway := (determined_yieldOf _).bind fun _ => determined_writeFrame _
  refine determined_handshake.bind fun _ => (determined_sendRequest request).bind fun _ =>
    determined_readHeaders.bind fun (_, ended) => (determined_yieldOf _).bind fun _ => ?_
  have finish (reply : Octets → Reply) (body : Octets) :
      Determined (do goAway; return reply body) := close.bind fun _ => determined_pure _
  cases ended with
  | true => exact finish _ []
  | false => exact (determined_readBodyFrom []).bind (finish _)

/-! ### The octets that an action reads -/

variable {action : Action Result} {session : Session}

theorem variant_self (steady : session.stream.Steady) :
    session.Variant session.stream.arriving session :=
  ⟨rfl, rfl, steady, rfl⟩

theorem Variant.arriving {octets : Octets} {other : Session}
    (variant : session.Variant octets other) : other.stream.arriving = octets :=
  congrArg Channel.arriving variant.channel

theorem Variant.precedes {octets : Octets} {shorter longer : Session}
    (first : session.Variant octets shorter) (second : session.Variant (octets ++ extra) longer) :
    Precedes extra shorter longer := by
  refine ⟨first.steady, second.options.trans first.options.symm,
    second.table.trans first.table.symm, second.steady, ?_⟩
  rw [second.channel, first.arriving, first.channel]

theorem Precedes.arriving {shorter longer : Session} (precedes : Precedes extra shorter longer) :
    longer.stream.arriving = shorter.stream.arriving ++ extra :=
  precedes.variant.arriving

theorem Precedes.written {shorter longer : Session} (precedes : Precedes extra shorter longer) :
    longer.stream.written = shorter.stream.written :=
  congrArg Channel.written precedes.variant.channel

/-- An action that succeeds does the same however many octets follow. -/
theorem exists_of_outcome_ok {result : Result} {shorter : Session}
    {longer : Except SessionError Result × Session}
    (outcome : Outcome extra (.ok result, shorter) longer) :
    ∃ later, longer = (.ok result, later) ∧ Precedes extra shorter later := by
  cases outcome with
  | same precedes => exact ⟨_, rfl, precedes⟩

/-- Where nothing follows, an action does the same. -/
theorem Determined.alike (determined : Determined action) (steady : session.stream.Steady)
    {other : Session} (variant : session.Variant session.stream.arriving other) :
    (action other).1 = (action session).1 ∧ Precedes [] (action session).2 (action other).2 := by
  rw [← List.append_nil session.stream.arriving] at variant
  have outcome := determined.agrees [] session other trivial trivial ⟨steady, variant⟩
  generalize action session = run at outcome
  generalize action other = otherRun at outcome
  cases outcome with
  | same precedes => exact ⟨rfl, precedes⟩
  | ended _ overtakes => exact absurd overtakes.arriving (Nat.not_lt_zero _)

/-- The session with the octets that arrive at once. -/
def arrivingAtOnce (octets : Octets) (session : Session) : Session :=
  { session with stream := { session.stream with events := [.arrive octets] } }

theorem variant_arrivingAtOnce (steady : session.stream.Steady) (octets : Octets) :
    session.Variant octets (session.arrivingAtOnce octets) := by
  refine ⟨rfl, rfl, ⟨fun event member => ?_, steady.writes, steady.unlimited⟩, ?_⟩
  · rw [List.mem_singleton.mp member]
    trivial
  · have whole : (session.arrivingAtOnce octets).stream.arriving = octets := List.append_nil octets
    show { session.stream.channel with
      arriving := (session.arrivingAtOnce octets).stream.arriving } = _
    rw [whole]

section

variable {result : Result} {later : Session} {read : Octets}

/-- An action that succeeds reads octets and leaves the others. -/
theorem Determined.exists_read (determined : Determined action) (steady : session.stream.Steady)
    (found : action session = (.ok result, later)) :
    ∃ read, session.stream.arriving = read ++ later.stream.arriving := by
  have onward := determined.onward session trivial steady
  rw [found] at onward
  obtain ⟨read, parts⟩ := onward.advances.arriving
  exact ⟨read, parts.symm⟩

/-- Where fewer octets arrive than it reads, it fails at their end. -/
theorem Determined.truncated (determined : Determined action) (steady : session.stream.Steady)
    (found : action session = (.ok result, later))
    (parts : session.stream.arriving = read ++ later.stream.arriving) {octets : Octets}
    (part : octets <+: read) (fewer : octets ≠ read) {other : Session}
    (variant : session.Variant octets other) :
    (action other).1 = .error (.io .endOfStream) ∧
      (action other).2.stream.written <+: later.stream.written := by
  obtain ⟨missing, rfl⟩ := part
  have some : 0 < missing.length := List.length_pos_iff.mpr fun nothing =>
    fewer (by rw [nothing, List.append_nil])
  have whole := variant_self steady
  rw [parts, List.append_assoc] at whole
  have outcome := determined.agrees _ other session trivial trivial (variant.precedes whole)
  rw [found] at outcome
  generalize action other = run at outcome
  cases outcome with
  | same precedes =>
    have sizes := congrArg List.length precedes.arriving
    simp only [List.length_append] at sizes
    omega
  | ended _ overtakes => exact ⟨rfl, overtakes.written⟩

/-- Where these octets arrive and others follow, it does the same and leaves the others. -/
theorem Determined.extended (determined : Determined action) (steady : session.stream.Steady)
    (found : action session = (.ok result, later))
    (parts : session.stream.arriving = read ++ later.stream.arriving) {other : Session}
    (variant : session.Variant (read ++ extra) other) :
    ∃ last, action other = (.ok result, last) ∧ last.stream.arriving = extra ∧
      last.stream.written = later.stream.written ∧ last.table = later.table := by
  have exactly := variant_arrivingAtOnce steady read
  have whole := variant_self steady
  rw [parts] at whole
  -- On the octets alone the action cannot come to their end, as it would then read others here.
  have alone := determined.agrees _ _ session trivial trivial (exactly.precedes whole)
  rw [found] at alone
  generalize ran : action (session.arrivingAtOnce read) = run at alone
  cases alone with
  | ended _ overtakes => exact absurd overtakes.arriving (Nat.lt_irrefl _)
  | @same _ middle _ precedes =>
    have outcome := determined.agrees _ _ other trivial trivial (exactly.precedes variant)
    rw [ran] at outcome
    obtain ⟨last, otherRan, follows⟩ := exists_of_outcome_ok outcome
    have nothing : middle.stream.arriving = [] :=
      List.append_left_eq_self.mp precedes.arriving.symm
    refine ⟨last, otherRan, ?_, follows.written.trans precedes.written.symm,
      follows.variant.table.trans precedes.variant.table.symm⟩
    rw [follows.arriving, nothing, List.nil_append]

end

/-- An exchange depends on nothing but the octets that it reads. Where the same octets arrive, in
whatever events and at whatever sizes, it comes to the same result, writes the same, leaves the
same octets, and leaves the same table. If it comes to a reply, it fails at the end of fewer octets
than it read, having written the beginning of what it writes, and comes to the same reply if others
follow, which it leaves. -/
theorem exchange_determined_by_read (request : Request) {session : Session}
    (steady : session.stream.Steady) :
    (∀ other, session.Variant session.stream.arriving other →
      (exchange request other).1 = (exchange request session).1 ∧
        (exchange request other).2.stream.written =
          (exchange request session).2.stream.written ∧
        (exchange request other).2.stream.arriving =
          (exchange request session).2.stream.arriving ∧
        (exchange request other).2.table = (exchange request session).2.table) ∧
      ∀ reply later, exchange request session = (.ok reply, later) →
        ∃ read, session.stream.arriving = read ++ later.stream.arriving ∧
          (∀ octets other, octets <+: read → octets ≠ read → session.Variant octets other →
            (exchange request other).1 = .error (.io .endOfStream) ∧
              (exchange request other).2.stream.written <+: later.stream.written) ∧
          ∀ extra other, session.Variant (read ++ extra) other →
            ∃ last, exchange request other = (.ok reply, last) ∧ last.stream.arriving = extra ∧
              last.stream.written = later.stream.written ∧ last.table = later.table := by
  have determined := determined_exchange request
  constructor
  · intro other variant
    obtain ⟨result, precedes⟩ := determined.alike steady variant
    exact ⟨result, precedes.written, precedes.arriving.trans (List.append_nil _),
      precedes.variant.table⟩
  · intro reply later found
    obtain ⟨read, parts⟩ := determined.exists_read steady found
    exact ⟨read, parts,
      fun _ _ part fewer variant => determined.truncated steady found parts part fewer variant,
      fun _ _ variant => determined.extended steady found parts variant⟩

end

/-- The frames of a server that answers without a body. -/
def bodilessOctets : Octets :=
  [Frame.settings [], Frame.settingsAck, ⟨.headers, 0x05, 1, [0x88]⟩].flatMap Frame.encode

/-- A session on which the answer arrives at once, and an octet after it. -/
def promptSession : Session :=
  new .default (Stream.ofEvents [.arrive (bodilessOctets ++ [0xff])]) .silent

/-- A session on which the same octets arrive one by one, with interruptions, and which writes few
octets at once. -/
def slowSession : Session :=
  new .default
    { Stream.ofEvents ((bodilessOctets ++ [0xff]).flatMap fun octet =>
        [.fail ⟨.interrupted, "signal"⟩, .arrive [octet]]) with writeChunk := 3 } .silent

def pageRequest : Request := ⟨"https", "example.com", "/", []⟩

theorem exchange_determined_by_read_slowSession :
    promptSession.stream.Steady ∧
      (exchange pageRequest promptSession).1.toOption =
        some ⟨200, [⟨Ascii.octets ":status", Ascii.octets "200"⟩], []⟩ ∧
      (exchange pageRequest slowSession).1 = (exchange pageRequest promptSession).1 ∧
      (exchange pageRequest slowSession).2.stream.unread = 1 ∧
      (exchange pageRequest (promptSession.arrivingAtOnce (bodilessOctets.take 27))).1 =
        .error (.io .endOfStream) ∧
      (exchange pageRequest (promptSession.arrivingAtOnce (bodilessOctets ++ [1, 2]))).1 =
        (exchange pageRequest promptSession).1 := by
  have steady : promptSession.stream.Steady :=
    ⟨fun event member => by rw [List.mem_singleton.mp member]; trivial, List.forall_mem_nil _,
      Or.inl rfl⟩
  have slow : promptSession.Variant promptSession.stream.arriving slowSession := by
    refine ⟨rfl, rfl, ⟨?_, List.forall_mem_nil _, Or.inl rfl⟩, by decide +kernel⟩
    intro event member
    obtain ⟨octet, _, interruption⟩ := List.mem_flatMap.mp member
    rcases List.mem_cons.mp interruption with rfl | arrival
    · rfl
    · rw [List.mem_singleton.mp arrival]
      trivial
  have replied : (exchange pageRequest promptSession).1.toOption =
      some ⟨200, [⟨Ascii.octets ":status", Ascii.octets "200"⟩], []⟩ := by decide +kernel
  have left : (exchange pageRequest promptSession).2.stream.arriving = [0xff] := by decide +kernel
  obtain ⟨alike, succeeds⟩ := exchange_determined_by_read pageRequest steady
  obtain ⟨sameResult, _, sameLeft, _⟩ := alike slowSession slow
  have unread : (exchange pageRequest slowSession).2.stream.unread = 1 := by
    rw [← Stream.length_arriving, sameLeft, left]
    rfl
  refine ⟨steady, replied, sameResult, unread, ?_⟩
  cases ran : exchange pageRequest promptSession with
  | mk result later =>
  rw [ran] at replied left
  cases result with
  | error error => cases replied
  | ok reply =>
    obtain ⟨read, parts, truncated, extended⟩ := succeeds reply later ran
    rw [left] at parts
    obtain rfl : read = bodilessOctets :=
      List.append_cancel_right (parts.symm.trans (List.append_nil _))
    obtain ⟨last, repeated, _⟩ := extended [1, 2] _ (variant_arrivingAtOnce steady _)
    refine ⟨(truncated (bodilessOctets.take 27) _ (List.take_prefix _ _) (by decide)
      (variant_arrivingAtOnce steady _)).1, ?_⟩
    rw [repeated]

end WebFetch.Session
