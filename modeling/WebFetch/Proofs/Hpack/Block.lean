/-
This file says how decoding a header block proceeds: it carries out the instruction at the front
and goes on with the octets after it, or ends where there is none. What it yields does not depend on
the journal.
-/

import WebFetch.Hpack.Block

namespace WebFetch.Hpack

variable {size : Nat} {read : List Header} {table : DynamicTable} {journal : Journal}

theorem decodeFrom_nil :
    decodeFrom size read table journal [] = ⟨.ok read.reverse, table, journal⟩ := by
  rw [decodeFrom]
  rfl

/-- An instruction that can be read is carried out. -/
theorem decodeFrom_of_ok {octets rest : Octets} {step : Instruction}
    (found : instruction table size octets = .ok (step, rest)) :
    decodeFrom size read table journal octets =
      decodeFrom size (step.header?.toList ++ read) (step.apply table) (step.report journal)
        rest := by
  have occupied : octets.isEmpty = false := by
    cases octets with
    | nil => cases found
    | cons octet octets => rfl
  rw [decodeFrom, occupied, if_neg Bool.false_ne_true]
  split
  · rename_i refused
    rw [found] at refused
    cases refused
  · rename_i same
    rw [found] at same
    cases same
    rfl

/-- An instruction that cannot be read ends the block. -/
theorem decodeFrom_of_error {octets : Octets} {error : HpackError} (occupied : octets ≠ [])
    (refused : instruction table size octets = .error error) :
    decodeFrom size read table journal octets = ⟨.error error, table, journal⟩ := by
  have notEmpty : octets.isEmpty = false := by
    cases octets with
    | nil => exact absurd rfl occupied
    | cons octet octets => rfl
  rw [decodeFrom, notEmpty, if_neg Bool.false_ne_true]
  split
  · rename_i same
    rw [refused] at same
    cases same
    rfl
  · rename_i found
    rw [refused] at found
    cases found

theorem decodeFrom_journal (other : Journal) (octets : Octets) :
    (decodeFrom size read table journal octets).result =
        (decodeFrom size read table other octets).result ∧
      (decodeFrom size read table journal octets).table =
        (decodeFrom size read table other octets).table := by
  induction length : octets.length using Nat.strongRecOn
    generalizing read table journal other octets with
  | ind count inductionHypothesis =>
    subst length
    cases octets with
    | nil =>
      rw [decodeFrom_nil, decodeFrom_nil]
      exact ⟨rfl, rfl⟩
    | cons octet octets =>
      cases found : instruction table size (octet :: octets) with
      | error error =>
        rw [decodeFrom_of_error (List.cons_ne_nil _ _) found,
          decodeFrom_of_error (List.cons_ne_nil _ _) found]
        exact ⟨rfl, rfl⟩
      | ok taken =>
        obtain ⟨step, rest⟩ := taken
        rw [decodeFrom_of_ok found, decodeFrom_of_ok found]
        exact inductionHypothesis _ (length_lt_of_instruction found) _ rest rfl

/-- What a block decodes to does not depend on the journal. -/
theorem decode_journal (table : DynamicTable) (block : Octets) (journal other : Journal) :
    (decode table block journal).result = (decode table block other).result :=
  (decodeFrom_journal other block).1

end WebFetch.Hpack
