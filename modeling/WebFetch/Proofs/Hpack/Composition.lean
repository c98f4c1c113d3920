/-
This file is about header blocks that follow each other. What is read at the front of a block is
read from its own octets: neither the size of the block nor what comes after these octets matters,
except that the size is named when octets are missing. So a block that is put behind one that can be
read goes on where that one ends, as if the two were read one after the other.
-/

import WebFetch.Proofs.Hpack.Block
import WebFetch.Proofs.Hpack.Reader

namespace WebFetch.Hpack

/-! ### Reading at the front of octets -/

/-- An instruction is read from its own octets. -/
theorem instruction_append {table : DynamicTable} {size : Nat} {octets rest : Octets}
    {step : Instruction} (found : instruction table size octets = .ok (step, rest)) (other : Nat)
    (later : Octets) :
    instruction table other (octets ++ later) = .ok (step, rest ++ later) := by
  obtain ⟨own, rfl, again⟩ := (lawful_instruction table).reads found
  rw [List.append_assoc]
  exact again other (rest ++ later)

/-- Whether an instruction can be read does not depend on the size of the block. -/
theorem exists_instruction_error {table : DynamicTable} {size : Nat} {octets : Octets}
    {error : HpackError} (refused : instruction table size octets = .error error) (other : Nat) :
    ∃ sameError, instruction table other octets = .error sameError := by
  cases found : instruction table other octets with
  | error sameError => exact ⟨sameError, rfl⟩
  | ok taken =>
    have again := instruction_append found size []
    rw [List.append_nil, refused] at again
    cases again

/-! ### Blocks one after the other -/

/-- Decoding goes on behind a block that can be read with what this block has left. -/
theorem decodeFrom_append {size : Nat} {read headers : List Header} {table : DynamicTable}
    {journal : Journal} {first : Octets}
    (found : (decodeFrom size read table journal first).result = .ok headers) (other : Nat)
    (second : Octets) :
    decodeFrom other read table journal (first ++ second) =
      decodeFrom other headers.reverse (decodeFrom size read table journal first).table
        (decodeFrom size read table journal first).journal second := by
  induction length : first.length using Nat.strongRecOn generalizing read table journal first with
  | ind count inductionHypothesis =>
    subst length
    cases first with
    | nil =>
      rw [decodeFrom_nil] at found ⊢
      cases found
      rw [List.reverse_reverse, List.nil_append]
    | cons octet octets =>
      cases stepRead : instruction table size (octet :: octets) with
      | error error =>
        rw [decodeFrom_of_error (List.cons_ne_nil _ _) stepRead] at found
        cases found
      | ok taken =>
        obtain ⟨step, rest⟩ := taken
        rw [decodeFrom_of_ok stepRead] at found ⊢
        rw [decodeFrom_of_ok (instruction_append stepRead other second)]
        exact inductionHypothesis _ (length_lt_of_instruction stepRead) found rfl

/-- The size of a block and the fields read before it make no difference to what decoding it does,
except that these fields come first and that an error may name the size. -/
theorem decodeFrom_before (size other : Nat) (read before : List Header) (table : DynamicTable)
    (journal : Journal) (octets : Octets) :
    (decodeFrom other (read ++ before) table journal octets).result.toOption =
        (decodeFrom size read table journal octets).result.toOption.map (before.reverse ++ ·) ∧
      (decodeFrom other (read ++ before) table journal octets).table =
        (decodeFrom size read table journal octets).table ∧
      (decodeFrom other (read ++ before) table journal octets).journal =
        (decodeFrom size read table journal octets).journal := by
  induction length : octets.length using Nat.strongRecOn
    generalizing read table journal octets with
  | ind count inductionHypothesis =>
    subst length
    cases octets with
    | nil =>
      rw [decodeFrom_nil, decodeFrom_nil, List.reverse_append]
      exact ⟨rfl, rfl, rfl⟩
    | cons octet octets =>
      cases found : instruction table size (octet :: octets) with
      | error error =>
        obtain ⟨sameError, refused⟩ := exists_instruction_error found other
        rw [decodeFrom_of_error (List.cons_ne_nil _ _) found,
          decodeFrom_of_error (List.cons_ne_nil _ _) refused]
        exact ⟨rfl, rfl, rfl⟩
      | ok taken =>
        obtain ⟨step, rest⟩ := taken
        have again := instruction_append found other []
        rw [List.append_nil, List.append_nil] at again
        rw [decodeFrom_of_ok found, decodeFrom_of_ok again, ← List.append_assoc]
        exact inductionHypothesis _ (length_lt_of_instruction found) _ _ _ rest rfl

/-- A block that is put behind one that can be read is read as if it came after it: the fields are
those of the one and then those of the other, unless the second cannot be read on its own, and the
table and the journal are as both blocks leave them in either case. -/
theorem decode_composes (table : DynamicTable) (first second : Octets) (journal : Journal)
    {headers : List Header} (found : (decode table first journal).result = .ok headers) :
    let between := decode table first journal
    let later := decode between.table second between.journal
    let whole := decode table (first ++ second) journal
    whole.result.toOption = later.result.toOption.map (headers ++ ·) ∧
      whole.table = later.table ∧ whole.journal = later.journal := by
  intro between later whole
  have resumed : whole = decodeFrom (first ++ second).length ([] ++ headers.reverse) between.table
      between.journal second := decodeFrom_append found _ second
  obtain ⟨result, tableAfter, journalAfter⟩ := decodeFrom_before second.length
    (first ++ second).length [] headers.reverse between.table between.journal second
  rw [List.reverse_reverse] at result
  rw [resumed]
  exact ⟨result, tableAfter, journalAfter⟩

/-- A block that adds a field to the table. -/
def addingBlock : Octets :=
  [0x40, 4, 0x65, 0x74, 0x61, 0x67, 3, 0x61, 0x62, 0x63]

/-- A block that uses the field that was added and lowers the maximum so that the field is
dropped. -/
def usingBlock : Octets := [0xbe, 0x21]

/-- The same block with the beginning of a name of which no octet follows. -/
def brokenBlock : Octets := usingBlock ++ [0x00, 9]

theorem decode_composes_addingBlock :
    let etag : Header := ⟨Ascii.octets "etag", Ascii.octets "abc"⟩
    (decode (.empty 4096) addingBlock .silent).result = .ok [etag] ∧
      (decode (.empty 4096) (addingBlock ++ usingBlock) .silent).result.toOption =
        some [etag, etag] ∧
      (decode (.empty 4096) (addingBlock ++ usingBlock) .silent).table = .empty 1 ∧
      (decode (.empty 4096) (addingBlock ++ brokenBlock) .silent).result.toOption = none ∧
      (decode (.empty 4096) (addingBlock ++ brokenBlock) .silent).table = .empty 1 := by
  intro etag
  have decoded : (decode (.empty 4096) addingBlock .silent).result.toOption = some [etag] := by
    decide +kernel
  cases found : (decode (.empty 4096) addingBlock .silent).result with
  | error error =>
    rw [found] at decoded
    cases decoded
  | ok headers =>
    rw [found] at decoded
    obtain rfl : headers = [etag] := Option.some.inj decoded
    obtain ⟨whole, wholeTable, _⟩ := decode_composes (.empty 4096) addingBlock usingBlock .silent
      found
    obtain ⟨broken, brokenTable, _⟩ := decode_composes (.empty 4096) addingBlock brokenBlock
      .silent found
    exact ⟨rfl, whole.trans (by decide +kernel), wholeTable.trans (by decide +kernel),
      broken.trans (by decide +kernel), brokenTable.trans (by decide +kernel)⟩

end WebFetch.Hpack
