/-
This file cuts sequences at a mark of one or more elements. A cut is made at the first place where
the mark stands: what precedes it and what follows it are kept, the mark itself is dropped. Lines
are cut at their ends, header fields at their colon and paths at their slashes in this way.
-/

namespace WebFetch

variable {Element : Type} [BEq Element]

/-- Cuts at the first mark, with the elements already passed over given newest first. -/
def cutFrom (mark passed : List Element) : List Element → Option (List Element × List Element)
  | [] => none
  | element :: rest =>
    if mark.isPrefixOf (element :: rest) then
      some (passed.reverse, rest.drop (mark.length - 1))
    else cutFrom mark (element :: passed) rest

/-- What precedes and what follows the first mark, if the mark occurs. -/
def cut (mark sequence : List Element) : Option (List Element × List Element) :=
  cutFrom mark [] sequence

/-- What follows a cut is shorter than what was cut. -/
theorem length_lt_of_cutFrom {mark passed sequence before after : List Element}
    (found : cutFrom mark passed sequence = some (before, after)) :
    after.length < sequence.length := by
  induction sequence generalizing passed with
  | nil => simp [cutFrom] at found
  | cons element rest inductionHypothesis =>
    rw [cutFrom] at found
    split at found
    · cases found
      simp only [List.length_drop, List.length_cons]
      omega
    · exact Nat.lt_succ_of_lt (inductionHypothesis found)

/-- What precedes and what follows the last place where an element stands. -/
def cutLast (mark : Element) (sequence : List Element) :
    Option (List Element × List Element) :=
  (cut [mark] sequence.reverse).map fun (after, before) => (before.reverse, after.reverse)

/-- What precedes the first mark, or everything, and what follows it. -/
def cutOptional (mark sequence : List Element) : List Element × Option (List Element) :=
  match cut mark sequence with
  | none => (sequence, none)
  | some (before, after) => (before, some after)

/-- Splits at every mark, with the pieces already found given newest first. -/
def splitFrom (mark : List Element) (pieces : List (List Element)) (sequence : List Element) :
    List (List Element) :=
  match found : cut mark sequence with
  | none => (sequence :: pieces).reverse
  | some (before, after) =>
    have : after.length < sequence.length := length_lt_of_cutFrom found
    splitFrom mark (before :: pieces) after
  termination_by sequence.length

/-- The pieces between the marks, one more than there are marks. -/
def split (mark sequence : List Element) : List (List Element) :=
  splitFrom mark [] sequence

end WebFetch
