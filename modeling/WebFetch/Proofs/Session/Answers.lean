/-
This file says in which order an exchange answers. Settings are acknowledged one by one, the request
follows once the settings of both sides hold, credit is given once the header block of the response
is whole and has a status, and the connection is ended once the other side has ended the stream. The
answers are followed frame by frame, with what is known about the frames in each phase.
-/

import WebFetch.Proofs.Session.Course
import WebFetch.Proofs.Session.Status

namespace WebFetch.Session

/-! ### What frames were received -/

/-- Whether a frame announces settings. -/
def announces (frame : Frame) : Bool :=
  decide (frame.type = .settings) && !frame.has Flag.ack

/-- Whether a frame acknowledges settings. -/
def acknowledges (frame : Frame) : Bool :=
  decide (frame.type = .settings) && frame.has Flag.ack

/-- How many frames announce settings. -/
def announcements (frames : List Frame) : Nat := frames.countP announces

/-- Whether the other side has announced its settings and acknowledged those of the client. -/
def Agreed (frames : List Frame) : Prop :=
  (∃ frame ∈ frames, announces frame = true) ∧ ∃ frame ∈ frames, acknowledges frame = true

/-- Whether frames are one whole header block with a status, and whether it ends the stream. -/
structure IsHeaderBlock (table : DynamicTable) (ends : Bool) (block : List Frame) : Prop where
  /-- One frame begins the block, the others continue it, and what they carry can be decoded. -/
  carries : ∃ first others piece headers status, block = first :: others ∧
    first.type = .headers ∧ first.has Flag.endStream = ends ∧
    (∀ frame ∈ others, frame.type = .continuation) ∧ fragment first = .ok piece ∧
    (Hpack.decode table (piece ++ others.flatMap Frame.payload) .silent).result = .ok headers ∧
    TellsStatus headers status
  /-- The last frame says that the block ends, and no other. -/
  closes : ∃ before last, block = before ++ [last] ∧ last.has Flag.endHeaders = true ∧
    ∀ frame ∈ before, frame.has Flag.endHeaders = false

/-- Whether there is a header block among frames, after the settings of both sides, and what comes
after it. -/
def HeadedBy (table : DynamicTable) (ends : Bool) (frames after : List Frame) : Prop :=
  ∃ before block, frames = before ++ block ++ after ∧ Agreed before ∧
    IsHeaderBlock table ends block

/-- Whether a header block with a status was received. -/
def Headed (table : DynamicTable) (frames : List Frame) : Prop :=
  ∃ ends after, HeadedBy table ends frames after

/-- Whether the other side has ended the stream, with the header block or with a frame of the
body. -/
def StreamEnded (table : DynamicTable) (frames : List Frame) : Prop :=
  ∃ ends after, HeadedBy table ends frames after ∧
    (ends = true ∨ ∃ body last later, after = body ++ last :: later ∧
      (∀ frame ∈ body, frame.type = .data) ∧ last.type = .data ∧
      last.has Flag.endStream = true)

/-! ### More frames -/

theorem announcements_concat (frames : List Frame) (frame : Frame) :
    announcements (frames ++ [frame]) =
      announcements frames + if announces frame = true then 1 else 0 := by
  rw [announcements, announcements, List.countP_append, List.countP_singleton]

theorem announcements_le (frames later : List Frame) :
    announcements frames ≤ announcements (frames ++ later) := by
  rw [announcements, announcements, List.countP_append]
  exact Nat.le_add_right _ _

theorem Agreed.append {frames : List Frame} (agreed : Agreed frames) (later : List Frame) :
    Agreed (frames ++ later) := by
  obtain ⟨⟨first, firstMember, firstAnnounces⟩, second, secondMember, secondAcknowledges⟩ := agreed
  exact ⟨⟨first, List.mem_append_left _ firstMember, firstAnnounces⟩, second,
    List.mem_append_left _ secondMember, secondAcknowledges⟩

theorem HeadedBy.append {table : DynamicTable} {ends : Bool} {frames after : List Frame}
    (headed : HeadedBy table ends frames after) (later : List Frame) :
    HeadedBy table ends (frames ++ later) (after ++ later) := by
  obtain ⟨before, block, rfl, agreed, isBlock⟩ := headed
  exact ⟨before, block, List.append_assoc _ _ _, agreed, isBlock⟩

theorem Headed.append {table : DynamicTable} {frames : List Frame} (headed : Headed table frames)
    (later : List Frame) : Headed table (frames ++ later) := by
  obtain ⟨ends, after, found⟩ := headed
  exact ⟨ends, after ++ later, found.append later⟩

theorem StreamEnded.append {table : DynamicTable} {frames : List Frame}
    (ended : StreamEnded table frames) (later : List Frame) :
    StreamEnded table (frames ++ later) := by
  obtain ⟨ends, after, found, how⟩ := ended
  refine ⟨ends, after ++ later, found.append later, how.imp_right ?_⟩
  rintro ⟨body, last, others, rfl, rest⟩
  exact ⟨body, last, others ++ later, List.append_assoc _ _ _, rest⟩

/-! ### The order of answers -/

/-- Lengths of credit that can be given. -/
def AreCredits (credits : List Nat) : Prop :=
  ∀ length ∈ credits, 1 ≤ length ∧ length < wordLimit24

theorem areCredits_nil : AreCredits [] :=
  fun _ member => nomatch member

theorem AreCredits.concat {credits : List Nat} {length : Nat} (bounded : AreCredits credits)
    (some : 1 ≤ length) (small : length < wordLimit24) : AreCredits (credits ++ [length]) :=
  List.forall_mem_append.mpr ⟨bounded, List.forall_mem_singleton.mpr ⟨some, small⟩⟩

/-- The answers up to the request. -/
def Plan.opened (plan : Plan) (acks : Nat) : List Frame :=
  List.replicate acks Frame.settingsAck ++ plan.requestFrames

/-- The answers up to the last credit. -/
def Plan.credited (plan : Plan) (acks : Nat) (credits : List Nat) : List Frame :=
  plan.opened acks ++ credits.flatMap creditFrames

/-- How far the answers to frames are, with what must have been received before. -/
inductive Answered (plan : Plan) (frames : List Frame) : List Frame → Prop where
  | settling (acks : Nat) (counted : acks ≤ announcements frames) :
    Answered plan frames (List.replicate acks Frame.settingsAck)
  | opened (acks : Nat) (counted : acks ≤ announcements frames) (agreed : Agreed frames) :
    Answered plan frames (plan.opened acks)
  | credited (acks : Nat) (credits : List Nat) (counted : acks ≤ announcements frames)
      (agreed : Agreed frames) (bounded : AreCredits credits)
      (headed : Headed plan.table frames) :
    Answered plan frames (plan.credited acks credits)
  | closed (acks : Nat) (credits : List Nat) (counted : acks ≤ announcements frames)
      (agreed : Agreed frames) (bounded : AreCredits credits)
      (ended : StreamEnded plan.table frames) :
    Answered plan frames (plan.credited acks credits ++ [closing])

/-- Whether the connection was ended, with what must have been received before. -/
def Closed (plan : Plan) (frames answers : List Frame) : Prop :=
  ∃ acks credits, acks ≤ announcements frames ∧ Agreed frames ∧ AreCredits credits ∧
    StreamEnded plan.table frames ∧ answers = plan.credited acks credits ++ [closing]

theorem Closed.answered {plan : Plan} {frames answers : List Frame}
    (closed : Closed plan frames answers) : Answered plan frames answers := by
  obtain ⟨acks, credits, counted, agreed, bounded, ended, rfl⟩ := closed
  exact .closed acks credits counted agreed bounded ended

theorem Closed.append {plan : Plan} {frames answers : List Frame}
    (closed : Closed plan frames answers) (later : List Frame) :
    Closed plan (frames ++ later) answers := by
  obtain ⟨acks, credits, counted, agreed, bounded, ended, same⟩ := closed
  exact ⟨acks, credits, Nat.le_trans counted (announcements_le _ _), agreed.append later, bounded,
    ended.append later, same⟩

/-- Frames that are not answered leave the answers in order. -/
theorem Answered.append {plan : Plan} {frames answers : List Frame}
    (answered : Answered plan frames answers) (later : List Frame) :
    Answered plan (frames ++ later) answers := by
  have more := announcements_le frames later
  cases answered with
  | settling acks counted => exact .settling acks (Nat.le_trans counted more)
  | opened acks counted agreed =>
    exact .opened acks (Nat.le_trans counted more) (agreed.append later)
  | credited acks credits counted agreed bounded headed =>
    exact .credited acks credits (Nat.le_trans counted more) (agreed.append later) bounded
      (headed.append later)
  | closed acks credits counted agreed bounded ended =>
    exact .closed acks credits (Nat.le_trans counted more) (agreed.append later) bounded
      (ended.append later)

/-! ### What is known in each phase -/

/-- What is known while settings are exchanged. -/
structure Settling (frames answers : List Frame) (agreement : Agreement) : Prop where
  answers : answers = List.replicate (announcements frames) Frame.settingsAck
  announced : agreement.announced = true → ∃ frame ∈ frames, announces frame = true
  acknowledged : agreement.acknowledged = true → ∃ frame ∈ frames, acknowledges frame = true

/-- What is known once the request was sent. -/
def Opened (plan : Plan) (frames answers : List Frame) : Prop :=
  ∃ acks, acks ≤ announcements frames ∧ Agreed frames ∧ answers = plan.opened acks

/-- What is known while the header block of the response is read: the frames that carry it so
far. -/
structure Gathering (ends : Bool) (pieces : List Octets) (ended : Bool) (block : List Frame) :
    Prop where
  carries : ∃ first others piece, block = first :: others ∧ first.type = .headers ∧
    first.has Flag.endStream = ends ∧ (∀ frame ∈ others, frame.type = .continuation) ∧
    fragment first = .ok piece ∧ pieces.reverse = piece :: others.map Frame.payload
  closes : ∃ before last, block = before ++ [last] ∧ last.has Flag.endHeaders = ended ∧
    ∀ frame ∈ before, frame.has Flag.endHeaders = false

/-- What is known about the frames received and the answers in a phase. -/
def Plan.Reaches (plan : Plan) (frames answers : List Frame) : Phase → Prop
  | .settling agreement => Settling frames answers agreement
  | .heading => Opened plan frames answers
  | .continuing ends pieces =>
    Opened plan frames answers ∧
      ∃ before block, frames = before ++ block ∧ Agreed before ∧
        Gathering ends pieces false block
  | .receiving _ _ _ =>
    ∃ acks credits, acks ≤ announcements frames ∧ Agreed frames ∧ AreCredits credits ∧
      (∃ body, HeadedBy plan.table false frames body ∧ ∀ frame ∈ body, frame.type = .data) ∧
      answers = plan.credited acks credits
  | .finished _ => Closed plan frames answers
  | .failed _ => Answered plan frames answers

theorem Settling.answered {plan : Plan} {frames answers : List Frame} {agreement : Agreement}
    (settling : Settling frames answers agreement) : Answered plan frames answers := by
  rw [settling.answers]
  exact .settling _ (Nat.le_refl _)

theorem Opened.answered {plan : Plan} {frames answers : List Frame}
    (opened : Opened plan frames answers) : Answered plan frames answers := by
  obtain ⟨acks, counted, agreed, rfl⟩ := opened
  exact .opened acks counted agreed

theorem Opened.agreed {plan : Plan} {frames answers : List Frame}
    (opened : Opened plan frames answers) : Agreed frames := by
  obtain ⟨_, _, agreed, _⟩ := opened
  exact agreed

theorem Opened.append {plan : Plan} {frames answers : List Frame}
    (opened : Opened plan frames answers) (later : List Frame) :
    Opened plan (frames ++ later) answers := by
  obtain ⟨acks, counted, agreed, same⟩ := opened
  exact ⟨acks, Nat.le_trans counted (announcements_le _ _), agreed.append later, same⟩

/-- In every phase the answers are in order. -/
theorem Plan.Reaches.answered {plan : Plan} {frames answers : List Frame} {phase : Phase}
    (reaches : plan.Reaches frames answers phase) : Answered plan frames answers := by
  cases phase with
  | settling agreement => exact Settling.answered reaches
  | heading => exact Opened.answered reaches
  | continuing ends pieces => exact Opened.answered reaches.1
  | receiving status headers pieces =>
    obtain ⟨acks, credits, counted, agreed, bounded, ⟨body, headed, _⟩, rfl⟩ := reaches
    exact .credited acks credits counted agreed bounded ⟨false, body, headed⟩
  | finished reply => exact Closed.answered reaches
  | failed error => exact reaches

/-! ### One more frame -/

/-- Each announcement is acknowledged once. -/
theorem Settling.settleFrame {frames answers more : List Frame} {agreement next : Agreement}
    {frame : Frame} (settling : Settling frames answers agreement)
    (settled : settleFrame agreement frame = .ok (more, next)) :
    Settling (frames ++ [frame]) (answers ++ more) next := by
  have earlier {holds : Frame → Bool} (found : ∃ frame ∈ frames, holds frame = true) :
      ∃ other ∈ frames ++ [frame], holds other = true := by
    obtain ⟨other, member, holds⟩ := found
    exact ⟨other, List.mem_append_left _ member, holds⟩
  have member : frame ∈ frames ++ [frame] := List.mem_append_right _ (List.mem_singleton_self _)
  unfold Session.settleFrame at settled
  by_cases other : frame.type ≠ .settings
  · rw [if_pos other] at settled
    cases settled
    have silent : announces frame = false := by rw [announces, decide_eq_false other]; rfl
    refine ⟨?_, fun announced => earlier (settling.announced announced),
      fun acknowledged => earlier (settling.acknowledged acknowledged)⟩
    rw [announcements_concat, silent, List.append_nil, settling.answers]
    rfl
  · have type : frame.type = .settings := Decidable.not_not.mp other
    rw [if_neg other] at settled
    by_cases acknowledgement : frame.has Flag.ack = true
    · rw [if_pos acknowledgement] at settled
      cases settled
      have silent : announces frame = false := by
        rw [announces, acknowledgement, Bool.not_true, Bool.and_false]
      have spoken : acknowledges frame = true := by
        rw [acknowledges, acknowledgement, decide_eq_true type]
        rfl
      refine ⟨?_, fun announced => earlier (settling.announced announced),
        fun _ => ⟨frame, member, spoken⟩⟩
      rw [announcements_concat, silent, List.append_nil, settling.answers]
      rfl
    · rw [if_neg acknowledgement] at settled
      have spoken : announces frame = true := by
        rw [announces, Bool.eq_false_iff.mpr acknowledgement, decide_eq_true type]
        rfl
      split at settled
      · cases settled
      · cases settled
        refine ⟨?_, fun _ => ⟨frame, member, spoken⟩,
          fun acknowledged => earlier (settling.acknowledged acknowledged)⟩
        rw [announcements_concat, if_pos spoken, List.replicate_succ', settling.answers]

/-- The request follows when the settings of both sides hold. -/
theorem reaches_settled {plan : Plan} {frames answers more : List Frame} {agreement : Agreement}
    (settling : Settling frames (answers ++ more) agreement) :
    plan.Reaches frames (answers ++ (plan.settled more agreement).1)
      (plan.settled more agreement).2 := by
  unfold Plan.settled
  by_cases complete : agreement.complete = true
  · rw [if_pos complete]
    obtain ⟨announced, acknowledged⟩ := Bool.and_eq_true_iff.mp complete
    refine ⟨announcements frames, Nat.le_refl _,
      ⟨settling.announced announced, settling.acknowledged acknowledged⟩, ?_⟩
    rw [← List.append_assoc, settling.answers, Plan.opened]
  · rw [if_neg complete]
    exact settling

/-- The frame that begins a header block. -/
theorem gathering_first {frame : Frame} {piece : Octets} (type : frame.type = .headers)
    (carried : fragment frame = .ok piece) :
    Gathering (frame.has Flag.endStream) [piece] (frame.has Flag.endHeaders) [frame] :=
  ⟨⟨frame, [], piece, rfl, type, rfl, fun _ member => (nomatch member), carried, rfl⟩,
    ⟨[], frame, rfl, rfl, fun _ member => (nomatch member)⟩⟩

/-- A frame that continues a header block. -/
theorem Gathering.next {ends : Bool} {pieces : List Octets} {block : List Frame} {frame : Frame}
    (gathering : Gathering ends pieces false block) (type : frame.type = .continuation) :
    Gathering ends (frame.payload :: pieces) (frame.has Flag.endHeaders) (block ++ [frame]) := by
  obtain ⟨⟨first, others, piece, rfl, headers, endStream, continuations, carried, whole⟩,
    before, last, same, opened, openBefore⟩ := gathering
  refine ⟨⟨first, others ++ [frame], piece, rfl, headers, endStream, ?_, carried, ?_⟩,
    ⟨first :: others, frame, rfl, rfl, ?_⟩⟩
  · intro other member
    rcases List.mem_append.mp member with earlier | new
    · exact continuations other earlier
    · rw [List.mem_singleton.mp new]
      exact type
  · rw [List.reverse_cons, whole, List.map_append]
    rfl
  · intro other member
    rw [same] at member
    rcases List.mem_append.mp member with earlier | new
    · exact openBefore other earlier
    · rw [List.mem_singleton.mp new]
      exact opened

/-- A header block that is whole and has a status leads to the body, or to the end if it ends the
stream. -/
theorem reaches_gathered {plan : Plan} {frames answers before block : List Frame} {ends : Bool}
    {pieces : List Octets} {ended : Bool} (opened : Opened plan frames answers)
    (parts : frames = before ++ block) (settled : Agreed before)
    (gathering : Gathering ends pieces ended block) :
    plan.Reaches frames (answers ++ (plan.gathered ends pieces ended).1)
      (plan.gathered ends pieces ended).2 := by
  unfold Plan.gathered
  cases ended with
  | false =>
    rw [if_neg Bool.false_ne_true, List.append_nil]
    exact ⟨opened, before, block, parts, settled, gathering⟩
  | true =>
    rw [if_pos rfl, Plan.headed]
    cases decoded : (Hpack.decode plan.table pieces.reverse.flatten .silent).result with
    | error error =>
      rw [List.append_nil]
      exact opened.answered
    | ok headers =>
      dsimp only
      unfold replied
      cases found : parseStatus headers with
      | error error =>
        rw [List.append_nil]
        exact opened.answered
      | ok status =>
        obtain ⟨⟨first, others, piece, shape, type, endStream, continuations, carried, whole⟩,
          closes⟩ := gathering
        have isBlock : IsHeaderBlock plan.table ends block := by
          refine ⟨⟨first, others, piece, headers, status, shape, type, endStream, continuations,
            carried, ?_, parseStatus_eq_ok_iff.mp found⟩, closes⟩
          rw [whole, List.flatten_cons, ← List.flatMap_def] at decoded
          exact decoded
        have headedBy : HeadedBy plan.table ends frames [] :=
          ⟨before, block, by rw [List.append_nil, parts], settled, isBlock⟩
        obtain ⟨acks, counted, agreed, rfl⟩ := opened
        cases ends with
        | false =>
          exact ⟨acks, [], counted, agreed, areCredits_nil,
            ⟨[], headedBy, fun _ member => nomatch member⟩, rfl⟩
        | true =>
          refine ⟨acks, [], counted, agreed, areCredits_nil, ⟨true, [], headedBy, Or.inl rfl⟩, ?_⟩
          rw [Plan.credited, List.flatMap_nil, List.append_nil]
          rfl

theorem type_of_requireType {expected : FrameType} {frame found : Frame}
    (required : requireType expected frame = .ok found) :
    found = frame ∧ frame.type = expected := by
  unfold requireType at required
  split at required
  · rename_i type
    cases required
    exact ⟨rfl, type⟩
  · split at required
    · obtain ⟨_, _, ended⟩ := exists_ok_of_bind required
      cases ended
    · obtain ⟨_, _, ended⟩ := exists_ok_of_bind required
      cases ended
    · cases required

theorem credited_concat (plan : Plan) (acks : Nat) (credits : List Nat) (length : Nat) :
    plan.credited acks (credits ++ [length]) =
      plan.credited acks credits ++ creditFrames length := by
  rw [Plan.credited, Plan.credited, List.flatMap_append, List.flatMap_singleton, List.append_assoc]

/-- Credit is given for a frame of the body that does not end it, unless it is empty. -/
theorem reaches_credited {plan : Plan} {frames answers : List Frame} {status : UInt16}
    {headers : List Header} {pieces : List Octets} {frame : Frame}
    (reaches : plan.Reaches frames answers (.receiving status headers pieces))
    (small : frame.payload.length < wordLimit24) (type : frame.type = .data) :
    plan.Reaches (frames ++ [frame]) (answers ++ creditFrames frame.payload.length)
      (.receiving status headers (frame.payload :: pieces)) := by
  obtain ⟨acks, credits, counted, agreed, bounded, ⟨body, headed, allData⟩, rfl⟩ := reaches
  have countedLater := Nat.le_trans counted (announcements_le frames [frame])
  have headedLater : ∃ body, HeadedBy plan.table false (frames ++ [frame]) body ∧
      ∀ frame ∈ body, frame.type = .data :=
    ⟨body ++ [frame], headed.append [frame],
      List.forall_mem_append.mpr ⟨allData, List.forall_mem_singleton.mpr type⟩⟩
  by_cases nothing : frame.payload.length = 0
  · refine ⟨acks, credits, countedLater, agreed.append [frame], bounded, headedLater, ?_⟩
    rw [creditFrames, if_pos nothing, List.append_nil]
  · exact ⟨acks, credits ++ [frame.payload.length], countedLater, agreed.append [frame],
      bounded.concat (Nat.one_le_iff_ne_zero.mpr nothing) small, headedLater,
      (credited_concat plan acks credits _).symm⟩

/-- The frame that ends the body is answered with the end of the connection. -/
theorem closed_received {plan : Plan} {frames answers : List Frame} {status : UInt16}
    {headers : List Header} {pieces : List Octets} {frame : Frame}
    (reaches : plan.Reaches frames answers (.receiving status headers pieces))
    (type : frame.type = .data) (ends : frame.has Flag.endStream = true) :
    Closed plan (frames ++ [frame]) (answers ++ [closing]) := by
  obtain ⟨acks, credits, counted, agreed, bounded, ⟨body, headed, allData⟩, rfl⟩ := reaches
  have ended : StreamEnded plan.table (frames ++ [frame]) :=
    ⟨false, body ++ [frame], headed.append [frame],
      Or.inr ⟨body, frame, [], rfl, allData, type, ends⟩⟩
  exact ⟨acks, credits, Nat.le_trans counted (announcements_le frames [frame]),
    agreed.append [frame], bounded, ended, rfl⟩

/-- One more frame leads from what is known in a phase to what is known in the next. -/
theorem reaches_next {plan : Plan} {frames answers : List Frame} {phase : Phase} {frame : Frame}
    (small : frame.payload.length < wordLimit24) (reaches : plan.Reaches frames answers phase) :
    plan.Reaches (frames ++ [frame]) (answers ++ (plan.next phase frame).1)
      (plan.next phase frame).2 := by
  have unanswered : Answered plan (frames ++ [frame]) (answers ++ []) := by
    rw [List.append_nil]
    exact reaches.answered.append [frame]
  cases phase with
  | settling agreement =>
    rw [Plan.next]
    cases settled : settleFrame agreement frame with
    | error error => exact unanswered
    | ok result => exact reaches_settled (Settling.settleFrame reaches settled)
  | heading =>
    rw [Plan.next]
    cases required : requireType .headers frame with
    | error error => exact unanswered
    | ok found =>
      obtain ⟨rfl, type⟩ := type_of_requireType required
      dsimp only
      cases carried : fragment found with
      | error error => exact unanswered
      | ok piece =>
        exact reaches_gathered (Opened.append reaches [found]) rfl (Opened.agreed reaches)
          (gathering_first type carried)
  | continuing ends pieces =>
    rw [Plan.next]
    cases required : requireType .continuation frame with
    | error error => exact unanswered
    | ok found =>
      obtain ⟨rfl, type⟩ := type_of_requireType required
      obtain ⟨opened, before, block, rfl, agreed, gathering⟩ := reaches
      exact reaches_gathered (opened.append [found]) (List.append_assoc _ _ _) agreed
        (gathering.next type)
  | receiving status headers pieces =>
    rw [Plan.next]
    cases required : requireType .data frame with
    | error error => exact unanswered
    | ok found =>
      obtain ⟨rfl, type⟩ := type_of_requireType required
      dsimp only
      by_cases padded : found.has Flag.padded = true
      · rw [if_pos padded]
        exact unanswered
      · rw [if_neg padded]
        by_cases ends : found.has Flag.endStream = true
        · rw [if_pos ends]
          exact closed_received reaches type ends
        · rw [if_neg ends]
          exact reaches_credited reaches small type
  | finished reply =>
    rw [Plan.next, List.append_nil]
    exact reaches.append [frame]
  | failed error => exact unanswered

/-- Whether the payload of each frame has a length of 24 bits. -/
def AllSmall (frames : List Frame) : Prop :=
  ∀ frame ∈ frames, frame.payload.length < wordLimit24

/-- What is known in each phase holds of all frames that were received. -/
theorem reaches_phase (plan : Plan) {frames : List Frame} (small : AllSmall frames) :
    plan.Reaches frames (plan.answers frames) (plan.phase frames) := by
  induction frames using List.reverseRecOn with
  | nil => exact ⟨rfl, fun holds => (nomatch holds), fun holds => (nomatch holds)⟩
  | append_singleton frames frame inductionHypothesis =>
    rw [plan.phase_concat, plan.answers_concat]
    refine reaches_next (small frame (List.mem_append_right _ (List.mem_singleton_self _)))
      (inductionHypothesis fun other member => small other (List.mem_append_left _ member))

/-- The answers to frames are in order. -/
theorem answered_answers (plan : Plan) {frames : List Frame} (small : AllSmall frames) :
    Answered plan frames (plan.answers frames) :=
  (reaches_phase plan small).answered

/-! ### The last answer -/

/-- The settings of the other side are all that is answered while settings are exchanged. -/
theorem eq_settingsAck_of_settleFrame {agreement next : Agreement} {frame : Frame}
    {answers : List Frame} (settled : settleFrame agreement frame = .ok (answers, next)) :
    ∀ answer ∈ answers, answer = Frame.settingsAck := by
  unfold settleFrame at settled
  split at settled
  · cases settled
    exact fun _ member => nomatch member
  · split at settled
    · cases settled
      exact fun _ member => nomatch member
    · split at settled
      · cases settled
      · cases settled
        exact fun _ member => List.mem_singleton.mp member

theorem requestFrames_eq (plan : Plan) :
    plan.requestFrames = [] ∨
      min (Hpack.encode plan.request.headerList).length (max plan.options.payloadLimit 1) <
          wordLimit24 ∧
        plan.requestFrames =
          pieceFrames 0
            (pieces plan.options.payloadLimit (Hpack.encode plan.request.headerList)) := by
  unfold Plan.requestFrames
  by_cases small : min (Hpack.encode plan.request.headerList).length
      (max plan.options.payloadLimit 1) < wordLimit24
  · rw [blockFrames_of_lt small]
    exact Or.inr ⟨small, rfl⟩
  · rw [blockFrames_of_le (Nat.le_of_not_lt small)]
    exact Or.inl rfl

theorem type_pieceFrames {place : Nat} {pieces : List Octets} :
    ∀ frame ∈ pieceFrames place pieces, frame.type ≠ .goAway := by
  intro frame member
  obtain ⟨step, found⟩ := List.mem_iff_getElem?.mp member
  rw [getElem?_pieceFrames, Option.map_eq_some_iff] at found
  obtain ⟨piece, _, rfl⟩ := found
  unfold pieceFrame
  dsimp only
  split <;> exact fun same => nomatch same

theorem type_requestFrames (plan : Plan) : ∀ frame ∈ plan.requestFrames, frame.type ≠ .goAway := by
  rcases requestFrames_eq plan with none | ⟨_, some⟩
  · rw [none]
    exact fun _ member => nomatch member
  · rw [some]
    exact type_pieceFrames

/-- A header block is answered only if the response is whole with it. -/
theorem finished_of_mem_gathered {plan : Plan} {ends : Bool} {pieces : List Octets} {ended : Bool}
    {answer : Frame} (member : answer ∈ (plan.gathered ends pieces ended).1) :
    ∃ reply, (plan.gathered ends pieces ended).2 = .finished reply := by
  unfold Plan.gathered Plan.headed replied at member ⊢
  split at member
  · rename_i whole
    rw [if_pos whole]
    split at member
    · cases member
    · split at member
      · cases member
      · split at member
        · rename_i last
          rw [if_pos last]
          exact ⟨_, rfl⟩
        · cases member
  · cases member

/-- The connection is ended only when the response is whole. -/
theorem finished_of_mem_next {plan : Plan} {phase : Phase} {frame answer : Frame}
    (member : answer ∈ (plan.next phase frame).1) (type : answer.type = .goAway) :
    ∃ reply, (plan.next phase frame).2 = .finished reply := by
  cases phase with
  | settling agreement =>
    rw [Plan.next] at member
    split at member
    · cases member
    · rename_i answers next settled
      have acks := eq_settingsAck_of_settleFrame settled
      have notAck (other : answer ∈ answers) : False := by
        rw [acks answer other] at type
        cases type
      unfold Plan.settled at member
      split at member
      · rcases List.mem_append.mp member with early | request
        · exact (notAck early).elim
        · exact absurd type (type_requestFrames plan answer request)
      · exact (notAck member).elim
  | heading =>
    rw [Plan.next] at member ⊢
    split at member
    · cases member
    · split at member
      · cases member
      · exact finished_of_mem_gathered member
  | continuing ends pieces =>
    rw [Plan.next] at member ⊢
    split at member
    · cases member
    · exact finished_of_mem_gathered member
  | receiving status headers pieces =>
    rw [Plan.next] at member ⊢
    split at member
    · cases member
    · split at member
      · cases member
      · rename_i notPadded
        rw [if_neg notPadded]
        split at member
        · rename_i last
          rw [if_pos last]
          exact ⟨_, rfl⟩
        · unfold creditFrames at member
          split at member
          · cases member
          · rcases List.mem_cons.mp member with rfl | second
            · cases type
            · rw [List.mem_singleton.mp second] at type
              cases type
  | finished reply => cases member
  | failed error => cases member

/-- Where the connection is ended, the response is whole. -/
theorem finished_of_mem_answers {plan : Plan} {frames : List Frame} {answer : Frame}
    (member : answer ∈ plan.answers frames) (type : answer.type = .goAway) :
    ∃ reply, plan.phase frames = .finished reply := by
  induction frames using List.reverseRecOn with
  | nil => cases member
  | append_singleton frames frame inductionHypothesis =>
    rw [plan.answers_concat] at member
    rw [plan.phase_concat]
    rcases List.mem_append.mp member with earlier | last
    · obtain ⟨reply, finished⟩ := inductionHypothesis earlier
      rw [finished]
      exact ⟨reply, rfl⟩
    · exact finished_of_mem_next last type

/-! ### Answers as frames -/

theorem fits_control {type : FrameType} {flags : UInt8} {payload : Octets}
    (known : FrameType.ofCode type.code = type) (small : payload.length < wordLimit24) :
    (Frame.control type flags payload).Fits :=
  ⟨known, small, by show (0 : UInt32).toNat < wordLimit31; decide⟩

theorem fits_closing : closing.Fits :=
  fits_control rfl (by decide)

theorem fits_settingsAck : Frame.settingsAck.Fits :=
  fits_control rfl (by decide)

theorem fits_requestFrames (plan : Plan) : ∀ frame ∈ plan.requestFrames, frame.Fits := by
  unfold Plan.requestFrames
  split
  · rename_i built
    exact fits_of_blockFrames built
  · exact fun _ member => nomatch member

theorem fits_creditFrames (length : Nat) : ∀ frame ∈ creditFrames length, frame.Fits := by
  have small : (Octets.ofNat 4 length).length < wordLimit24 := by
    rw [Octets.length_ofNat]
    decide
  unfold creditFrames
  split
  · exact fun _ member => nomatch member
  · exact List.forall_mem_cons.mpr
      ⟨⟨rfl, small, (by decide : requestStream.toNat < wordLimit31)⟩,
        List.forall_mem_singleton.mpr ⟨rfl, small, (by decide : (0 : UInt32).toNat < wordLimit31)⟩⟩

/-- The answers up to the last credit and the end fit their fields. -/
theorem fits_credited (plan : Plan) (acks : Nat) (credits : List Nat) :
    ∀ frame ∈ plan.credited acks credits ++ [closing], frame.Fits := by
  intro frame member
  rcases List.mem_append.mp member with early | last
  · rcases List.mem_append.mp early with opened | credit
    · rcases List.mem_append.mp opened with ack | request
      · rw [List.eq_of_mem_replicate ack]
        exact fits_settingsAck
      · exact fits_requestFrames plan frame request
    · obtain ⟨length, _, inside⟩ := List.mem_flatMap.mp credit
      exact fits_creditFrames length frame inside
  · rw [List.mem_singleton.mp last]
    exact fits_closing

end WebFetch.Session
