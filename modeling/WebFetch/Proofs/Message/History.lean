/-
This file says what a receiver remembers. What comes of a call depends on the limits and on the
octets that were fed since the last response was handed out, also on those that were refused, and on
nothing else. A call that hands out nothing adds what it feeds, so asking once more, or not at all,
changes nothing that comes later; a call that hands out a response takes all octets away.
-/

import Mathlib.Data.List.DropRight
import WebFetch.Proofs.Message.Limits

namespace WebFetch.Receiver

/-! ### Calls and octets -/

/-- The octets that a call feeds. -/
def Call.octets : Call → Octets
  | .feed octets => octets
  | .next => []
  | .finish => []

/-- What comes of a call when these octets were fed since the last response. -/
def Call.outcome (limits : Limits) (octets : Octets) : Call → Outcome
  | .feed more =>
    .fed (if limits.total < (octets ++ more).length then .error .tooLarge else .ok ())
  | .next => .asked (Receiver.response? limits octets)
  | .finish => .finished (lastResponse octets)

/-- The octets that calls fed since one of them last handed out a response. -/
def history (made : List (Call × Outcome)) : Octets :=
  (made.rtakeWhile fun call => call.2.response?.isNone).flatMap fun call => call.1.octets

/-- The octets that calls to a new receiver fed since the last response. -/
def fedSince (limits : Limits) (calls : List Call) : Octets :=
  history (calls.zip ((new limits).run calls).1)

/-! ### One call -/

theorem make_fst (limits : Limits) (octets : Octets) (call : Call) :
    (call.make ⟨limits, octets⟩).1 = call.outcome limits octets := by
  cases call with
  | feed more =>
    refine congrArg Outcome.fed ?_
    unfold feed
    dsimp only
    split <;> rfl
  | next => exact congrArg Outcome.asked (next_fst _)
  | finish => exact congrArg Outcome.finished (finish_fst _)

/-- A call that hands out nothing leaves what was there, and what it fed. A call that hands out a
response leaves a new receiver. -/
theorem make_snd (receiver : Receiver) (call : Call) :
    (call.make receiver).2 =
      if (call.make receiver).1.response?.isNone then
        ⟨receiver.limits, receiver.gathered ++ call.octets⟩
      else new receiver.limits := by
  cases call with
  | feed more => exact feed_snd receiver more
  | next =>
    unfold Call.make next
    cases Receiver.response? receiver.limits receiver.gathered with
    | error error => simp [Outcome.response?, Except.toOption, Call.octets]
    | ok response? =>
      cases response? with
      | none => simp [Outcome.response?, Except.toOption, Call.octets]
      | some response => simp [Outcome.response?, Except.toOption, new]
  | finish =>
    unfold Call.make finish
    cases lastResponse receiver.gathered with
    | error error => simp [Outcome.response?, Except.toOption, Call.octets]
    | ok response => simp [Outcome.response?, Except.toOption, new]

/-! ### Calls one after the other -/

theorem run_append (receiver : Receiver) (calls later : List Call) :
    receiver.run (calls ++ later) =
      ((receiver.run calls).1 ++ ((receiver.run calls).2.run later).1,
        ((receiver.run calls).2.run later).2) := by
  induction calls generalizing receiver with
  | nil => rfl
  | cons call calls inductionHypothesis =>
    rw [List.cons_append, run, inductionHypothesis]
    rfl

theorem length_run (receiver : Receiver) (calls : List Call) :
    (receiver.run calls).1.length = calls.length := by
  induction calls generalizing receiver with
  | nil => rfl
  | cons call calls inductionHypothesis =>
    rw [run, List.length_cons, List.length_cons, inductionHypothesis]

theorem history_concat (made : List (Call × Outcome)) (call : Call) (outcome : Outcome) :
    history (made ++ [(call, outcome)]) =
      if outcome.response?.isNone then history made ++ call.octets else [] := by
  rw [history, List.rtakeWhile_concat]
  split
  · rw [List.flatMap_append, List.flatMap_singleton]
    rfl
  · rfl

theorem fedSince_concat (limits : Limits) (calls : List Call) (call : Call) :
    fedSince limits (calls ++ [call]) =
      if (call.make ((new limits).run calls).2).1.response?.isNone then
        fedSince limits calls ++ call.octets
      else [] := by
  rw [fedSince, run_append, List.zip_append (length_run _ _).symm]
  exact history_concat _ _ _

/-- A receiver is its limits and the octets fed since the last response. -/
theorem run_snd (limits : Limits) (calls : List Call) :
    ((new limits).run calls).2 = ⟨limits, fedSince limits calls⟩ := by
  induction calls using List.reverseRecOn with
  | nil => rfl
  | append_singleton calls call inductionHypothesis =>
    rw [run_append, fedSince_concat]
    show (call.make ((new limits).run calls).2).2 = _
    rw [make_snd, inductionHypothesis]
    split <;> rfl

/-- Asking again and again leaves what was there, if nothing is handed out. -/
theorem run_replicate {receiver : Receiver} {call : Call} (feeds : call.octets = [])
    (nothing : (call.make receiver).1.response? = none) (count : Nat) :
    receiver.run (List.replicate count call) =
      (List.replicate count (call.make receiver).1, receiver) := by
  have same : (call.make receiver).2 = receiver := by
    rw [make_snd, nothing, feeds, List.append_nil]
    rfl
  induction count with
  | zero => rfl
  | succ count inductionHypothesis =>
    rw [List.replicate_succ, run, same, inductionHypothesis]
    rfl

/-- Calls to a new receiver that follow calls with the same octets since the last response come to
the same: what comes of a call is determined by the limits and these octets. A call that hands out
nothing leaves the octets, with what it feeds behind them, so as long as it feeds nothing it can be
made as often as one likes, or be left out, wherever it stands. A call that hands out a response
takes all octets away. -/
theorem outcomes_determined_by_history (limits : Limits) (calls : List Call) :
    (∀ call : Call, (call.make ((new limits).run calls).2).1 =
      call.outcome limits (fedSince limits calls)) ∧
    (∀ others, fedSince limits others = fedSince limits calls → ∀ later,
      ((new limits).run (others ++ later)).1.drop others.length =
        ((new limits).run (calls ++ later)).1.drop calls.length) ∧
    (∀ call : Call, (call.outcome limits (fedSince limits calls)).response? = none →
      fedSince limits (calls ++ [call]) = fedSince limits calls ++ call.octets) ∧
    (∀ call : Call, (call.outcome limits (fedSince limits calls)).response? = none →
      call.octets = [] → ∀ count later,
        ((new limits).run (calls ++ (List.replicate count call ++ later))).1 =
          ((new limits).run calls).1 ++
            (List.replicate count (call.outcome limits (fedSince limits calls)) ++
              ((new limits).run (calls ++ later)).1.drop calls.length)) ∧
    ∀ (call : Call) (response : Response),
      (call.outcome limits (fedSince limits calls)).response? = some response →
        fedSince limits (calls ++ [call]) = [] := by
  have made (call : Call) : (call.make ((new limits).run calls).2).1 =
      call.outcome limits (fedSince limits calls) := by
    rw [run_snd, make_fst]
  have behind (others later : List Call) :
      ((new limits).run (others ++ later)).1.drop others.length =
        (((new limits).run others).2.run later).1 := by
    rw [run_append, List.drop_left' (length_run _ _)]
  refine ⟨made, ?_, ?_, ?_, ?_⟩
  · intro others same later
    rw [behind, behind, run_snd, run_snd, same]
  · intro call nothing
    rw [fedSince_concat, made, nothing]
    rfl
  · intro call nothing feeds count later
    rw [← made] at nothing ⊢
    rw [behind, run_append, run_append, run_replicate feeds nothing]
  · intro call response handed
    rw [fedSince_concat, made, handed]
    rfl

/-- Calls that feed a response without a body, ask for it, and feed one whose body ends with the
connection. -/
def closingCalls : List Call := [.feed bareResponse, .next, .feed closingResponse]

/-- The second response is refused as too many octets, but it is kept. Asking for it twice makes no
difference, and neither does the first response, and finishing takes it away. -/
theorem outcomes_determined_by_history_closingCalls :
    let limits : Limits := ⟨16, 4⟩
    let response : Response := ⟨"HTTP/1.1", 200, "OK", [], Ascii.octets "abcdefgh"⟩
    let last := ((new limits).run (closingCalls ++ [.finish, .finish])).1.drop 3
    fedSince limits closingCalls = closingResponse ∧
      fedSince limits [.feed closingResponse] = closingResponse ∧
      ((new limits).run [.feed closingResponse, .finish, .finish]).1.drop 1 = last ∧
      (Call.next.outcome limits closingResponse).response? = none ∧
      fedSince limits (closingCalls ++ [.next]) = closingResponse ∧
      ((new limits).run (closingCalls ++ [.next, .next, .finish, .finish])).1 =
        ((new limits).run closingCalls).1 ++
          (List.replicate 2 (Call.next.outcome limits closingResponse) ++ last) ∧
      (Call.finish.outcome limits closingResponse).response? = some response ∧
      fedSince limits (closingCalls ++ [.finish]) = [] := by
  intro limits response last
  have whole : fedSince limits closingCalls = closingResponse := by decide +kernel
  have alone : fedSince limits [.feed closingResponse] = closingResponse := by decide +kernel
  have unanswered : (Call.next.outcome limits closingResponse).response? = none := by
    decide +kernel
  have handed : (Call.finish.outcome limits closingResponse).response? = some response := by
    decide +kernel
  obtain ⟨_, same, keeps, silent, empties⟩ := outcomes_determined_by_history limits closingCalls
  rw [whole] at same keeps silent empties
  exact ⟨whole, alone, same _ alone [.finish, .finish], unanswered, keeps .next unanswered,
    silent .next unanswered rfl 2 [.finish, .finish], handed, empties .finish response handed⟩

end WebFetch.Receiver
