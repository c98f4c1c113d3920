/-
This file says who sets the maximum of a table. It is given when the table is made, and each new
maximum that a block holds takes its place, whatever its value and whatever becomes of the rest of
the block. So the table never costs more than the maximum that was read last, and no more than the
one it was made with as long as none that was read is larger; but whoever writes the blocks can
raise it.
-/

import WebFetch.Proofs.Hpack.Composition
import WebFetch.Proofs.Hpack.DynamicTable
import WebFetch.Proofs.Hpack.Interpretation

namespace WebFetch.Hpack

variable {size : Nat} {read : List Header} {table : DynamicTable} {journal : Journal}

/-! ### What is carried out -/

/-- The change that an instruction makes to the table, if it makes one. -/
def Instruction.change? : Instruction → Option DynamicTable.Change
  | .literal .incremental header => some (.add header)
  | .resize maximum => some (.setMaximum maximum)
  | _ => none

/-- The maximum that an instruction sets, if it sets one. -/
def Instruction.maximum? : Instruction → Option Nat
  | .resize maximum => some maximum
  | _ => none

/-- The instructions that are carried out of the octets left of a block of `size`: those before the
first that cannot be read. -/
def instructions (size : Nat) (table : DynamicTable) (octets : Octets) : List Instruction :=
  match found : instruction table size octets with
  | .error _ => []
  | .ok (step, rest) =>
    have : rest.length < octets.length := length_lt_of_instruction found
    step :: instructions size (step.apply table) rest
  termination_by octets.length

/-- The table that blocks leave which are decoded one after the other, whether or not each of them
can be read. -/
def tableAfter (table : DynamicTable) (blocks : List Octets) : DynamicTable :=
  blocks.foldl (fun table block => (decode table block .silent).table) table

/-- The instructions of blocks that are carried out when they are decoded one after the other. -/
def carriedOut (table : DynamicTable) : List Octets → List Instruction
  | [] => []
  | block :: later =>
    instructions block.length table block ++
      carriedOut (decode table block .silent).table later

/-- The maxima that blocks set when they are decoded one after the other. -/
def maxima (table : DynamicTable) (blocks : List Octets) : List Nat :=
  (carriedOut table blocks).filterMap Instruction.maximum?

theorem instructions_of_error {octets : Octets} {error : HpackError}
    (refused : instruction table size octets = .error error) :
    instructions size table octets = [] := by
  rw [instructions]
  split
  · rfl
  · rename_i found
    rw [refused] at found
    cases found

theorem instructions_of_ok {octets rest : Octets} {step : Instruction}
    (found : instruction table size octets = .ok (step, rest)) :
    instructions size table octets = step :: instructions size (step.apply table) rest := by
  rw [instructions]
  split
  · rename_i refused
    rw [found] at refused
    cases refused
  · rename_i same
    rw [found] at same
    cases same
    rfl

/-- A block leaves the table as the instructions do that are carried out. -/
theorem table_decodeFrom (octets : Octets) :
    (decodeFrom size read table journal octets).table =
      (instructions size table octets).foldl (fun table step => step.apply table) table := by
  induction length : octets.length using Nat.strongRecOn
    generalizing read table journal octets with
  | ind count inductionHypothesis =>
    subst length
    cases found : instruction table size octets with
    | error error =>
      rw [instructions_of_error found]
      cases octets with
      | nil => rw [decodeFrom_nil, List.foldl_nil]
      | cons octet octets => rw [decodeFrom_of_error (List.cons_ne_nil _ _) found, List.foldl_nil]
    | ok taken =>
      obtain ⟨step, rest⟩ := taken
      rw [decodeFrom_of_ok found, instructions_of_ok found, List.foldl_cons]
      exact inductionHypothesis _ (length_lt_of_instruction found) rest rfl

theorem tableAfter_eq (table : DynamicTable) (blocks : List Octets) :
    tableAfter table blocks =
      (carriedOut table blocks).foldl (fun table step => step.apply table) table := by
  induction blocks generalizing table with
  | nil => rfl
  | cons block later inductionHypothesis =>
    rw [carriedOut, List.foldl_append, ← @table_decodeFrom _ [] _ .silent]
    exact inductionHypothesis _

/-! ### Changes of the table -/

/-- Instructions leave the table as their changes do. -/
theorem foldl_apply_eq (table : DynamicTable) (steps : List Instruction) :
    steps.foldl (fun table step => step.apply table) table =
      (steps.filterMap Instruction.change?).foldl DynamicTable.Change.apply table := by
  induction steps generalizing table with
  | nil => rfl
  | cons step steps inductionHypothesis =>
    rw [List.foldl_cons, inductionHypothesis]
    cases step with
    | indexed index header => rfl
    | literal indexing header => cases indexing <;> rfl
    | resize maximum => rfl

/-- Blocks change a new table as any changes do. -/
theorem tableAfter_empty (initial : Nat) (blocks : List Octets) :
    tableAfter (.empty initial) blocks =
      DynamicTable.after initial
        ((carriedOut (.empty initial) blocks).filterMap Instruction.change?) := by
  rw [tableAfter_eq, foldl_apply_eq]
  rfl

/-- The maximum that is in force is the one that was set last, or else the initial one. -/
theorem maximumAfter_eq (initial : Nat) (steps : List Instruction) :
    DynamicTable.maximumAfter initial (steps.filterMap Instruction.change?) =
      (steps.filterMap Instruction.maximum?).getLast?.getD initial := by
  induction steps generalizing initial with
  | nil => rfl
  | cons step steps inductionHypothesis =>
    cases step with
    | indexed index header => exact inductionHypothesis initial
    | literal indexing header => cases indexing <;> exact inductionHypothesis initial
    | resize maximum =>
      show DynamicTable.maximumAfter maximum (steps.filterMap Instruction.change?) =
        (maximum :: steps.filterMap Instruction.maximum?).getLast?.getD initial
      rw [inductionHypothesis, List.getLast?_cons, Option.getD_some]

/-- The maximum after blocks is the last that one of them set, or else the initial one. -/
theorem maximum_tableAfter (initial : Nat) (blocks : List Octets) :
    (tableAfter (.empty initial) blocks).maximum =
      (maxima (.empty initial) blocks).getLast?.getD initial := by
  rw [tableAfter_empty, DynamicTable.after_eq]
  exact maximumAfter_eq initial _

/-- The size of the table after blocks is what its fields cost, and is within the maximum. -/
theorem size_tableAfter (initial : Nat) (blocks : List Octets) :
    let table := tableAfter (.empty initial) blocks
    table.size = DynamicTable.cost table.entries ∧ table.size ≤ table.maximum := by
  intro table
  have same : table = _ :=
    (tableAfter_empty initial blocks).trans (DynamicTable.after_eq initial _)
  rw [same]
  exact ⟨rfl, DynamicTable.cost_survivors_le initial _⟩

/-- Whatever blocks were decoded, no table is shown with a wrong size. -/
theorem printMismatch_tableAfter (initial : Nat) (blocks : List Octets) :
    (tableAfter (.empty initial) blocks).printMismatch = "" :=
  if_pos (size_tableAfter initial blocks).1.symm

/-! ### A new maximum -/

/-- A new maximum at the front of a block is carried out: what comes after it is decoded as if the
table had it already. -/
theorem decode_resize (table : DynamicTable) (rest : Octets) (journal : Journal) {maximum : Nat}
    (small : maximum < wordLimit) :
    let resized := decode table ((Representation.resize maximum).wire ++ rest) journal
    let later := decode (table.setMaximum maximum) rest journal
    resized.result.toOption = later.result.toOption ∧ resized.table = later.table := by
  intro resized later
  let size := ((Representation.resize maximum).wire ++ rest).length
  have carried : resized = decodeFrom size [] (table.setMaximum maximum)
      ((Instruction.resize maximum).report journal) rest :=
    decodeFrom_of_ok (instruction_resize table size rest small)
  obtain ⟨sameResult, sameTable⟩ := @decodeFrom_journal size [] (table.setMaximum maximum)
    ((Instruction.resize maximum).report journal) journal rest
  obtain ⟨result, tableAfter, _⟩ := decodeFrom_before rest.length size [] []
    (table.setMaximum maximum) journal rest
  rw [carried]
  refine ⟨?_, sameTable.trans tableAfter⟩
  rw [sameResult]
  exact result.trans Option.map_id'

/-- After any blocks, of which some may not be readable, the size of a table that was made without
fields is what its fields cost, and within its maximum. The maximum is the last one that the blocks
set, or the initial one if they set none; so neither exceeds the initial one as long as no maximum
that was set does. Which maximum a block sets is not restricted: any number of 64 bits is carried
out, and what follows it is decoded with that maximum. -/
theorem bounded_by_last_maximum (initial : Nat) (blocks : List Octets) :
    let table := tableAfter (.empty initial) blocks
    let maxima := maxima (.empty initial) blocks
    table.size = DynamicTable.cost table.entries ∧ table.size ≤ table.maximum ∧
    table.maximum = maxima.getLast?.getD initial ∧
    ((∀ maximum ∈ maxima, maximum ≤ initial) →
      table.maximum ≤ initial ∧ table.size ≤ initial) ∧
    ∀ maximum < wordLimit, ∀ rest journal,
      let resized := decode table ((Representation.resize maximum).wire ++ rest) journal
      let later := decode (table.setMaximum maximum) rest journal
      resized.result.toOption = later.result.toOption ∧ resized.table = later.table := by
  intro table maxima
  obtain ⟨exact, within⟩ := size_tableAfter initial blocks
  have last : table.maximum = maxima.getLast?.getD initial := maximum_tableAfter initial blocks
  refine ⟨exact, within, last, fun small => ?_, fun maximum fits rest journal =>
    decode_resize table rest journal fits⟩
  have bounded : table.maximum ≤ initial := by
    rw [last]
    cases found : maxima.getLast? with
    | none => exact Nat.le_refl _
    | some maximum => exact small maximum (List.mem_of_getLast? found)
  exact ⟨bounded, Nat.le_trans within bounded⟩

/-- A block that lowers the maximum and raises it again, but not as far as it was, and a block that
adds a field and breaks off behind it. -/
def cautiousBlocks : List Octets :=
  [(Representation.resize 0).wire ++ (Representation.resize 60).wire, addingBlock ++ [0x00, 9]]

theorem bounded_by_last_maximum_cautiousBlocks :
    let table := tableAfter (.empty 100) cautiousBlocks
    maxima (.empty 100) cautiousBlocks = [0, 60] ∧ table.maximum = 60 ∧
      table.maximum ≤ 100 ∧ table.size ≤ 100 ∧ 39 < wordLimit ∧
      (decode table ((Representation.resize 39).wire ++ [0xbe]) .silent).result.toOption =
        some [⟨Ascii.octets "etag", Ascii.octets "abc"⟩] := by
  intro table
  have set : maxima (.empty 100) cautiousBlocks = [0, 60] := by decide +kernel
  obtain ⟨_, _, last, bounded, resized⟩ := bounded_by_last_maximum 100 cautiousBlocks
  rw [set] at last bounded
  obtain ⟨maximum, size⟩ := bounded (by decide)
  have fits : 39 < wordLimit := by decide
  exact ⟨set, last, maximum, size, fits,
    (resized 39 fits [0xbe] .silent).1.trans (by decide +kernel)⟩

/-- Whether a table keeps to the maximum it was made with after blocks: a larger one is an error,
and neither its maximum nor its size exceeds it. -/
def Capped (initial : Nat) (blocks : List Octets) : Prop :=
  let table := tableAfter (.empty initial) blocks
  (∀ maximum < wordLimit, initial < maximum → ∀ rest, ∃ error,
    (decode table ((Representation.resize maximum).wire ++ rest) .silent).result = .error error) ∧
  table.maximum ≤ initial ∧ table.size ≤ initial

/-- A block that raises the maximum to 100 and adds a field. -/
def raisingBlock : Octets := [0x3f, 0x45] ++ addingBlock

theorem not_capped_raisingBlock :
    raisingBlock = (Representation.resize 100).wire ++ addingBlock ∧
      (decode (.empty 30) raisingBlock .silent).result.toOption =
        some [⟨Ascii.octets "etag", Ascii.octets "abc"⟩] ∧
      (tableAfter (.empty 30) [raisingBlock]).maximum = 100 ∧
      (tableAfter (.empty 30) [raisingBlock]).size = 39 ∧
      ¬ ∀ initial blocks, Capped initial blocks := by
  have maximum : (tableAfter (.empty 30) [raisingBlock]).maximum = 100 := by decide +kernel
  refine ⟨by decide +kernel, by decide +kernel, maximum, by decide +kernel, fun capped => ?_⟩
  have small := (capped 30 [raisingBlock]).2.1
  rw [maximum] at small
  exact absurd small (by decide)

end WebFetch.Hpack
