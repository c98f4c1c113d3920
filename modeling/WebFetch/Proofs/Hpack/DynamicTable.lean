/-
This file says what the table of header fields holds after any changes. A field that was added is
still there if, after its own step and after every later one, the fields added since then cost no
more together than the maximum of that moment; the table holds exactly these fields, newest first.
Nothing is dropped too late, for the table never costs more than its maximum, and nothing too early.
The size that the table keeps is what its fields cost, so no step takes off more than there is.
-/

import Mathlib.Algebra.Ring.Nat
import Mathlib.Data.List.Induction
import WebFetch.Hpack.DynamicTable

namespace WebFetch.DynamicTable

/-! ### Changes -/

/-- What changes a table. -/
inductive Change where
  | add (header : Header)
  | setMaximum (maximum : Nat)
  deriving DecidableEq

namespace Change

/-- The field that a change adds, if it adds one. -/
def added? : Change → Option Header
  | .add header => some header
  | .setMaximum _ => none

/-- The maximum after a change. -/
def maximumAfter (before : Nat) : Change → Nat
  | .add _ => before
  | .setMaximum maximum => maximum

def apply (table : DynamicTable) : Change → DynamicTable
  | .add header => table.add header
  | .setMaximum maximum => table.setMaximum maximum

/-- The table that a change makes, from which nothing was dropped yet. -/
def overfill (table : DynamicTable) : Change → DynamicTable
  | .add header =>
    { table with entries := header :: table.entries, size := table.size + header.size }
  | .setMaximum maximum => { table with maximum := maximum }

end Change

/-- A table without fields after changes. -/
def after (initial : Nat) (changes : List Change) : DynamicTable :=
  changes.foldl Change.apply (empty initial)

/-- The maximum that is in force after changes. -/
def maximumAfter (initial : Nat) (changes : List Change) : Nat :=
  changes.foldl Change.maximumAfter initial

/-- What the fields cost that changes add from a step on. -/
def costSince (changes : List Change) (step : Nat) : Nat :=
  cost ((changes.drop step).filterMap Change.added?)

/-- Whether a field that is added in a step is still there after all changes: after this step and
after every later one, what was added since the step costs no more than the maximum. -/
def Survives (initial : Nat) (changes : List Change) (step : Nat) : Prop :=
  ∀ last < changes.length, step ≤ last →
    costSince (changes.take (last + 1)) step ≤ maximumAfter initial (changes.take (last + 1))

instance (initial : Nat) (changes : List Change) : DecidablePred (Survives initial changes) :=
  fun step => inferInstanceAs (Decidable (∀ last < changes.length, step ≤ last →
    costSince (changes.take (last + 1)) step ≤ maximumAfter initial (changes.take (last + 1))))

/-- The fields that were added in those of the first steps that are picked, newest first. -/
def pick (changes : List Change) (picked : Nat → Prop) [DecidablePred picked] (steps : Nat) :
    List Header :=
  ((List.range steps).reverse.filter fun step => picked step).filterMap fun step =>
    changes[step]?.bind Change.added?

/-- The fields that changes add and that survive, newest first. -/
def survivors (initial : Nat) (changes : List Change) : List Header :=
  pick changes (Survives initial changes) changes.length

/-! ### Costs -/

theorem cost_cons (header : Header) (entries : List Header) :
    cost (header :: entries) = header.size + cost entries := rfl

theorem cost_eq_sum (entries : List Header) : cost entries = (entries.map Header.size).sum := by
  induction entries with
  | nil => rfl
  | cons header entries inductionHypothesis =>
    rw [cost_cons, inductionHypothesis, List.map_cons, List.sum_cons]

theorem cost_append (first second : List Header) :
    cost (first ++ second) = cost first + cost second := by
  rw [cost_eq_sum, cost_eq_sum, cost_eq_sum, List.map_append, List.sum_append]

theorem cost_reverse (entries : List Header) : cost entries.reverse = cost entries := by
  rw [cost_eq_sum, cost_eq_sum, List.map_reverse, List.sum_reverse]

/-- What a step adds counts towards what is added since. -/
theorem costSince_eq (changes : List Change) (step : Nat) :
    costSince changes step =
      cost (changes[step]?.bind Change.added?).toList + costSince changes (step + 1) := by
  unfold costSince
  by_cases inside : step < changes.length
  · rw [List.drop_eq_getElem_cons inside, List.getElem?_eq_getElem inside]
    cases added : changes[step].added? with
    | none =>
      rw [List.filterMap_cons_none added, Option.bind_some, added]
      exact (Nat.zero_add _).symm
    | some header =>
      rw [List.filterMap_cons_some added, Option.bind_some, added]
      rfl
  · rw [List.drop_eq_nil_of_le (Nat.le_of_not_lt inside), List.drop_eq_nil_of_le (by omega),
      List.getElem?_eq_none (Nat.le_of_not_lt inside)]
    rfl

/-- Less is added since a later step. -/
theorem costSince_le {changes : List Change} {first second : Nat} (ordered : first ≤ second) :
    costSince changes second ≤ costSince changes first := by
  induction ordered with
  | refl => exact Nat.le_refl _
  | @step second ordered inductionHypothesis =>
    rw [costSince_eq changes second] at inductionHypothesis
    exact Nat.le_trans (Nat.le_add_left _ _) inductionHypothesis

theorem costSince_of_le {changes : List Change} {step : Nat} (outside : changes.length ≤ step) :
    costSince changes step = 0 := by
  rw [costSince, List.drop_eq_nil_of_le outside]
  rfl

/-! ### Dropping -/

/-- The newest fields that fit together into some room. -/
def fitting : (room : Nat) → List Header → List Header
  | _, [] => []
  | room, newest :: older =>
    if newest.size ≤ room then newest :: fitting (room - newest.size) older else []

theorem cost_fitting_le (room : Nat) (entries : List Header) :
    cost (fitting room entries) ≤ room := by
  induction entries generalizing room with
  | nil => exact Nat.zero_le _
  | cons newest older inductionHypothesis =>
    rw [fitting]
    split
    · have rest := inductionHypothesis (room - newest.size)
      rw [cost_cons]
      omega
    · exact Nat.zero_le _

theorem fitting_of_le {room : Nat} {entries : List Header} (small : cost entries ≤ room) :
    fitting room entries = entries := by
  induction entries generalizing room with
  | nil => rfl
  | cons newest older inductionHypothesis =>
    rw [cost_cons] at small
    rw [fitting, if_pos (by omega), inductionHypothesis (by omega)]

/-- The oldest of fields that do not fit together is not among those that do. -/
theorem fitting_concat_of_lt {room : Nat} {newer : List Header} {oldest : Header}
    (large : room < cost (newer ++ [oldest])) :
    fitting room (newer ++ [oldest]) = fitting room newer := by
  induction newer generalizing room with
  | nil =>
    rw [List.nil_append, cost_cons] at large
    exact if_neg (Nat.not_le_of_lt large)
  | cons newest newer inductionHypothesis =>
    rw [List.cons_append, cost_cons] at large
    rw [List.cons_append, fitting, fitting]
    split
    · rw [inductionHypothesis (by omega)]
    · rfl

/-- Dropping the oldest fields until the rest fits leaves the newest that fit. -/
theorem dropOldest_reverse (maximum : Nat) (entries : List Header) :
    dropOldest maximum (cost entries) entries.reverse =
      ((fitting maximum entries).reverse, cost (fitting maximum entries)) := by
  induction entries using List.reverseRecOn with
  | nil => rfl
  | append_singleton newer oldest inductionHypothesis =>
    rw [List.reverse_concat, dropOldest]
    have left : cost (newer ++ [oldest]) - oldest.size = cost newer := by
      rw [cost_append]
      exact Nat.add_sub_cancel _ _
    split
    · rename_i large
      rw [left, inductionHypothesis, fitting_concat_of_lt large]
    · rename_i small
      rw [fitting_of_le (Nat.le_of_not_lt small), List.reverse_concat]

/-- A table whose size is what its fields cost keeps the newest that fit, and its size is what
these cost. -/
theorem evict_eq {table : DynamicTable} (exact : table.size = cost table.entries) :
    table.evict = ⟨fitting table.maximum table.entries,
      cost (fitting table.maximum table.entries), table.maximum⟩ := by
  rw [evict, exact, dropOldest_reverse]
  show DynamicTable.mk (fitting table.maximum table.entries).reverse.reverse _ _ = _
  rw [List.reverse_reverse]

/-- Whether dropping the oldest fields, given oldest first, never takes more off the size than
there is, and never looks for a field where none is left. -/
def DropsSoundly (maximum : Nat) : (size : Nat) → List Header → Prop
  | size, [] => size ≤ maximum
  | size, oldest :: newer => maximum < size →
    oldest.size ≤ size ∧ DropsSoundly maximum (size - oldest.size) newer

/-- Fields are dropped soundly from a size that is what they cost. -/
theorem dropsSoundly_cost (maximum : Nat) (entries : List Header) :
    DropsSoundly maximum (cost entries) entries := by
  induction entries with
  | nil => exact Nat.zero_le _
  | cons oldest newer inductionHypothesis =>
    intro _
    rw [cost_cons, Nat.add_sub_cancel_left]
    exact ⟨Nat.le_add_right _ _, inductionHypothesis⟩

/-! ### One change -/

theorem apply_eq_evict (table : DynamicTable) (change : Change) :
    change.apply table = (change.overfill table).evict := by
  cases change <;> rfl

theorem overfill_entries (table : DynamicTable) (change : Change) :
    (change.overfill table).entries = change.added?.toList ++ table.entries := by
  cases change <;> rfl

theorem overfill_maximum (table : DynamicTable) (change : Change) :
    (change.overfill table).maximum = change.maximumAfter table.maximum := by
  cases change <;> rfl

/-- A change keeps the size what the fields cost. -/
theorem overfill_size {table : DynamicTable} (exact : table.size = cost table.entries)
    (change : Change) : (change.overfill table).size = cost (change.overfill table).entries := by
  cases change with
  | add header =>
    show table.size + header.size = cost (header :: table.entries)
    rw [exact, cost_cons, Nat.add_comm]
  | setMaximum maximum => exact exact

/-- A change keeps the newest fields that fit. -/
theorem apply_eq {table : DynamicTable} (exact : table.size = cost table.entries)
    (change : Change) :
    change.apply table =
      ⟨fitting (change.maximumAfter table.maximum) (change.added?.toList ++ table.entries),
        cost (fitting (change.maximumAfter table.maximum)
          (change.added?.toList ++ table.entries)), change.maximumAfter table.maximum⟩ := by
  rw [apply_eq_evict, evict_eq (overfill_size exact change), overfill_entries, overfill_maximum]

/-! ### Survivors -/

/-- What is added after a field that survives survives too. -/
theorem Survives.mono {initial first second : Nat} {changes : List Change}
    (survives : Survives initial changes first) (ordered : first ≤ second) :
    Survives initial changes second :=
  fun last inside later =>
    Nat.le_trans (costSince_le ordered) (survives last inside (Nat.le_trans ordered later))

/-- A field survives one more change if it survives those before and what was added since fits. -/
theorem survives_concat {initial step : Nat} {changes : List Change} {change : Change}
    (inside : step ≤ changes.length) :
    Survives initial (changes ++ [change]) step ↔
      Survives initial changes step ∧
        costSince (changes ++ [change]) step ≤ maximumAfter initial (changes ++ [change]) := by
  have whole : (changes ++ [change]).take (changes.length + 1) = changes ++ [change] :=
    List.take_of_length_le (Nat.le_of_eq List.length_append)
  have before {last : Nat} (early : last < changes.length) :
      (changes ++ [change]).take (last + 1) = changes.take (last + 1) :=
    List.take_append_of_le_length early
  unfold Survives
  rw [List.length_append, List.length_singleton]
  constructor
  · refine fun survives => ⟨fun last early later => ?_, ?_⟩
    · rw [← before early]
      exact survives last (Nat.lt_succ_of_lt early) later
    · have atEnd := survives changes.length (Nat.lt_succ_self _) inside
      rwa [whole] at atEnd
  · rintro ⟨survives, fits⟩ last early later
    rcases Nat.lt_succ_iff_lt_or_eq.mp early with earlier | rfl
    · rw [before earlier]
      exact survives last earlier later
    · rw [whole]
      exact fits

section

variable {changes : List Change} {picked : Nat → Prop} [DecidablePred picked]

theorem pick_succ (steps : Nat) :
    pick changes picked (steps + 1) =
      (if picked steps then (changes[steps]?.bind Change.added?).toList else []) ++
        pick changes picked steps := by
  unfold pick
  rw [List.range_succ, List.reverse_concat, List.filter_cons]
  by_cases taken : picked steps
  · rw [if_pos (decide_eq_true taken), if_pos taken]
    rw [List.filterMap_cons]
    cases changes[steps]?.bind Change.added? <;> rfl
  · rw [if_neg (by rw [decide_eq_false taken]; exact Bool.false_ne_true), if_neg taken]
    rfl

theorem pick_congr {others : List Change} {another : Nat → Prop} [DecidablePred another]
    {steps : Nat} (same : ∀ step < steps, changes[step]? = others[step]?)
    (agree : ∀ step < steps, picked step ↔ another step) :
    pick changes picked steps = pick others another steps := by
  induction steps with
  | zero => rfl
  | succ steps inductionHypothesis =>
    rw [pick_succ, pick_succ, same steps (Nat.lt_succ_self _),
      inductionHypothesis (fun step less => same step (Nat.lt_succ_of_lt less))
        fun step less => agree step (Nat.lt_succ_of_lt less)]
    simp only [agree steps (Nat.lt_succ_self _)]

theorem pick_eq_nil {steps : Nat} (none : ∀ step < steps, ¬ picked step) :
    pick changes picked steps = [] := by
  induction steps with
  | zero => rfl
  | succ steps inductionHypothesis =>
    rw [pick_succ, if_neg (none steps (Nat.lt_succ_self _)),
      inductionHypothesis fun step less => none step (Nat.lt_succ_of_lt less)]
    rfl

/-- Of fields that are picked from some step on, those fit that cost no more together with all that
was added since. -/
theorem pick_fitting {maximum steps : Nat}
    (upward : ∀ first second, first ≤ second → picked first → picked second)
    (small : costSince changes steps ≤ maximum) :
    pick changes (fun step => picked step ∧ costSince changes step ≤ maximum) steps =
      fitting (maximum - costSince changes steps) (pick changes picked steps) := by
  induction steps with
  | zero => rfl
  | succ steps inductionHypothesis =>
    have added := costSince_eq changes steps
    rw [pick_succ, pick_succ]
    cases found : changes[steps]?.bind Change.added? with
    | none =>
      rw [found] at added
      have same : costSince changes steps = costSince changes (steps + 1) :=
        added.trans (Nat.zero_add _)
      rw [Option.toList_none, ite_self, ite_self, List.nil_append, List.nil_append,
        inductionHypothesis (same ▸ small), same]
    | some header =>
      rw [found, Option.toList_some, cost_cons] at added
      have sum : costSince changes steps = header.size + costSince changes (steps + 1) := added
      rw [Option.toList_some]
      by_cases taken : picked steps
      · rw [if_pos taken, List.singleton_append, fitting]
        by_cases fits : costSince changes steps ≤ maximum
        · rw [if_pos ⟨taken, fits⟩, if_pos (by omega), inductionHypothesis fits,
            List.singleton_append, sum, Nat.add_comm, Nat.sub_sub]
        · -- What is older costs even more.
          rw [if_neg fun both => fits both.2, if_neg (by omega), List.nil_append]
          exact pick_eq_nil fun step less both =>
            fits (Nat.le_trans (costSince_le (Nat.le_of_lt less)) both.2)
      · have none : ∀ step < steps, ¬ picked step := fun step less before =>
          taken (upward step steps (Nat.le_of_lt less) before)
        rw [if_neg fun both => taken both.1, if_neg taken, pick_eq_nil none,
          pick_eq_nil fun step less both => none step less both.1]
        rfl

end

/-- The survivors of one more change are the newest of those before it, and of what it adds, that
fit. -/
theorem survivors_concat (initial : Nat) (changes : List Change) (change : Change) :
    survivors initial (changes ++ [change]) =
      fitting (maximumAfter initial (changes ++ [change]))
        (change.added?.toList ++ survivors initial changes) := by
  have outside : costSince (changes ++ [change]) (changes.length + 1) = 0 :=
    costSince_of_le (Nat.le_of_eq List.length_append)
  have last : Survives initial changes changes.length := fun later inside ordered =>
    absurd inside (Nat.not_lt_of_le ordered)
  have before : pick (changes ++ [change]) (Survives initial changes) changes.length =
      survivors initial changes :=
    pick_congr (fun step less => List.getElem?_append_left less) fun _ _ => Iff.rfl
  have steps : (changes ++ [change]).length = changes.length + 1 := List.length_append
  rw [survivors, steps, pick_congr (fun _ _ => rfl) fun step less =>
      survives_concat (Nat.le_of_lt_succ less),
    pick_fitting (fun _ _ ordered survives => survives.mono ordered) (outside ▸ Nat.zero_le _),
    outside, pick_succ, if_pos last, before, List.getElem?_concat_length]
  rfl

/-! ### Any changes -/

theorem after_concat (initial : Nat) (changes : List Change) (change : Change) :
    after initial (changes ++ [change]) = change.apply (after initial changes) := by
  rw [after, List.foldl_append]
  rfl

theorem maximumAfter_concat (initial : Nat) (changes : List Change) (change : Change) :
    maximumAfter initial (changes ++ [change]) =
      change.maximumAfter (maximumAfter initial changes) := by
  rw [maximumAfter, List.foldl_append]
  rfl

/-- A table holds the survivors of its changes, with their cost for its size. -/
theorem after_eq (initial : Nat) (changes : List Change) :
    after initial changes =
      ⟨survivors initial changes, cost (survivors initial changes),
        maximumAfter initial changes⟩ := by
  induction changes using List.reverseRecOn with
  | nil => rfl
  | append_singleton changes change inductionHypothesis =>
    rw [after_concat, inductionHypothesis, apply_eq rfl, survivors_concat, maximumAfter_concat]

/-- What survives fits the maximum. -/
theorem cost_survivors_le (initial : Nat) (changes : List Change) :
    cost (survivors initial changes) ≤ maximumAfter initial changes := by
  induction changes using List.reverseRecOn with
  | nil => exact Nat.zero_le _
  | append_singleton changes change inductionHypothesis =>
    rw [survivors_concat]
    exact cost_fitting_le _ _

theorem lookup_zero (table : DynamicTable) : table.lookup 0 = none := rfl

/-- The first places are those of the fixed table. -/
theorem lookup_fixed (table : DynamicTable) {index : Nat} (positive : 1 ≤ index)
    (fixed : index ≤ StaticTable.size) :
    ∃ header, StaticTable.entries[index - 1]? = some header ∧
      table.lookup index = some header := by
  have inside : index - 1 < StaticTable.entries.length := by
    have length : StaticTable.entries.length = StaticTable.size := by decide
    omega
  refine ⟨_, List.getElem?_eq_getElem inside, ?_⟩
  rw [lookup, if_pos fixed, StaticTable.lookup, if_neg (by omega)]
  exact List.getElem?_eq_getElem inside

/-- The places after those of the fixed table count the fields of the table, the newest first. -/
theorem lookup_added (table : DynamicTable) (place : Nat) :
    table.lookup (StaticTable.size + 1 + place) = table.entries[place]? := by
  have counted : StaticTable.size + 1 + place - StaticTable.size - 1 = place := by omega
  rw [lookup, if_neg (by omega), counted]

/-- After any changes, the size of a table is what its fields cost, and no more than the maximum
that was set last. Whatever change comes next, dropping fields after it never takes more off the
size than there is and never looks for a field that is not there. The fields are those that survive
the changes, newest first, and are found in this order at the places after those of the fixed
table. -/
theorem after_holds_survivors (initial : Nat) (changes : List Change) :
    let table := after initial changes
    table.size = cost table.entries ∧
    cost table.entries = (table.entries.map fun header =>
      header.name.length + header.value.length + 32).sum ∧
    table.size ≤ table.maximum ∧ table.maximum = maximumAfter initial changes ∧
    (∀ change : Change, change.apply table = (change.overfill table).evict ∧
      DropsSoundly (change.overfill table).maximum (change.overfill table).size
        (change.overfill table).entries.reverse) ∧
    table.entries = survivors initial changes ∧
    table.lookup 0 = none ∧
    (∀ index, 1 ≤ index → index ≤ 61 →
      ∃ header, StaticTable.entries[index - 1]? = some header ∧
        table.lookup index = some header) ∧
    ∀ place, table.lookup (62 + place) = (survivors initial changes)[place]? := by
  intro table
  have same : table = ⟨survivors initial changes, cost (survivors initial changes),
      maximumAfter initial changes⟩ := after_eq initial changes
  have exact : table.size = cost table.entries := by rw [same]
  have entries : table.entries = survivors initial changes := by rw [same]
  refine ⟨exact, cost_eq_sum _, ?_, by rw [same], fun change => ⟨apply_eq_evict table change, ?_⟩,
    entries, lookup_zero table, fun index positive fixed => lookup_fixed table positive fixed,
    fun place => ?_⟩
  · rw [same]
    exact cost_survivors_le initial changes
  · rw [overfill_size exact change, ← cost_reverse]
    exact dropsSoundly_cost _ _
  · rw [← entries]
    exact lookup_added table place

/-- Changes in which a smaller maximum and a field that is too large drop what was added before. -/
def shrinkingChanges : List Change :=
  [.add (Header.ofText "a" "1"), .add (Header.ofText "b" "2"), .setMaximum 40,
    .setMaximum 200, .add (Header.ofText "c" "3"), .add (Header.ofText "d" "4")]

theorem after_holds_survivors_shrinkingChanges :
    survivors 100 shrinkingChanges =
        [Header.ofText "d" "4", Header.ofText "c" "3", Header.ofText "b" "2"] ∧
      (after 100 shrinkingChanges).size = 102 ∧ (after 100 shrinkingChanges).maximum = 200 ∧
      (after 100 shrinkingChanges).lookup 2 = some (Header.ofText ":method" "GET") ∧
      (after 100 shrinkingChanges).lookup 64 = some (Header.ofText "b" "2") ∧
      (after 100 shrinkingChanges).lookup 65 = none := by
  have kept : survivors 100 shrinkingChanges =
      [Header.ofText "d" "4", Header.ofText "c" "3", Header.ofText "b" "2"] := by decide +kernel
  obtain ⟨exact, _, _, maximum, _, entries, _, fixed, added⟩ :=
    after_holds_survivors 100 shrinkingChanges
  obtain ⟨method, found, looked⟩ := fixed 2 (by decide) (by decide)
  refine ⟨kept, ?_, maximum.trans rfl, looked.trans (found.symm.trans ?_), ?_, ?_⟩
  · rw [exact, entries, kept]
    decide +kernel
  · decide +kernel
  · rw [added 2, kept]
    rfl
  · rw [added 3, kept]
    rfl

end WebFetch.DynamicTable
