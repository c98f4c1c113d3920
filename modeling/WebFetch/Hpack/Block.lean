/-
This file reads and writes header blocks. A block is a sequence of instructions: use a field of
the tables, use a field that is written out, which may be added to the table, or change the
maximum of the table. Instructions take effect one by one, and the first that cannot be read ends
the block; what the ones before it did to the table remains.
-/

import WebFetch.Hpack.DynamicTable
import WebFetch.Hpack.StringLiteral
import WebFetch.Journal.Basic
import WebFetch.Sequenced

namespace WebFetch.Hpack

/-- What becomes of a field that is written out. -/
inductive Indexing where
  /-- It is added to the table. -/
  | incremental
  /-- It is not added. -/
  | without
  /-- It is not added, and must not be by anyone who passes it on. -/
  | never
  deriving DecidableEq, Repr

/-- An instruction of a block, with the field it stands for. -/
inductive Instruction where
  | indexed (index : Nat) (header : Header)
  | literal (indexing : Indexing) (header : Header)
  | resize (maximum : Nat)
  deriving DecidableEq, Repr

namespace Instruction

/-- The field of an instruction. -/
def header? : Instruction → Option Header
  | .indexed _ header => some header
  | .literal _ header => some header
  | .resize _ => none

def apply (table : DynamicTable) : Instruction → DynamicTable
  | .literal .incremental header => table.add header
  | .resize maximum => table.setMaximum maximum
  | _ => table

def report (instruction : Instruction) (journal : Journal) : Journal :=
  let literal (what : String) (header : Header) :=
    journal.trace .headerBlock ("literal, " ++ what) [.plain "header" header.print]
  match instruction with
  | .indexed index header =>
    journal.trace .headerBlock "indexed"
      [.plain "index" index.repr, .plain "header" header.print]
  | .literal .incremental header => literal "incremental indexing" header
  | .literal .without header => literal "without indexing" header
  | .literal .never header => literal "never indexed" header
  | .resize maximum =>
    journal.trace .headerBlock "dynamic table size update" [.plain "size" maximum.repr]

end Instruction

/-! ### Reading one instruction -/

/-- The field at a place of the tables. -/
def lookup (table : DynamicTable) (index : Nat) : Except HpackError Header :=
  match table.lookup index with
  | some header => .ok header
  | none => .error (.indexNotFound index)

/-- The name that a place stands for, or, if the place is zero, the name at the front of octets. -/
def name (table : DynamicTable) (size index : Nat) (octets : Octets) :
    Except HpackError (Octets × Octets) :=
  if index = 0 then StringLiteral.decode size octets
  else (lookup table index).map fun header => (header.name, octets)

/-- The field that is written out at the front of octets: a place for the name, or zero and the
name, and the value. -/
def literal (table : DynamicTable) (size bits : Nat) (octets : Octets) :
    Except HpackError (Header × Octets) := do
  let (index, rest) ← Integer.decode size bits octets
  let (name, rest) ← name table size index rest
  let (value, rest) ← StringLiteral.decode size rest
  return (⟨name, value⟩, rest)

/-- The instruction at the front of the octets left of a block of `size`, and the octets after
it. The first bits tell which kind it is. -/
def instruction (table : DynamicTable) (size : Nat) (octets : Octets) :
    Except HpackError (Instruction × Octets) := do
  match octets with
  | [] => .error (missing size 1 [])
  | octet :: _ =>
    if octet &&& 0x80 = 0x80 then
      let (index, rest) ← Integer.decode size 7 octets
      let header ← lookup table index
      return (.indexed index header, rest)
    else if octet &&& 0xc0 = 0x40 then
      let (header, rest) ← literal table size 6 octets
      return (.literal .incremental header, rest)
    else if octet &&& 0xf0 = 0x00 then
      let (header, rest) ← literal table size 4 octets
      return (.literal .without header, rest)
    else if octet &&& 0xf0 = 0x10 then
      let (header, rest) ← literal table size 4 octets
      return (.literal .never header, rest)
    else if octet &&& 0xe0 = 0x20 then
      let (maximum, rest) ← Integer.decode size 5 octets
      return (.resize maximum, rest)
    else .error (.unknownRepresentation octet)

/-- Reading a name leaves no more than there was. -/
theorem length_le_of_name {table : DynamicTable} {size index : Nat} {octets found rest : Octets}
    (read : name table size index octets = .ok (found, rest)) :
    rest.length ≤ octets.length := by
  unfold name at read
  split at read
  · exact Nat.le_of_lt (StringLiteral.length_lt_of_decode read)
  · cases looked : lookup table index with
    | error error =>
      rw [looked] at read
      cases read
    | ok header =>
      rw [looked] at read
      cases read
      exact Nat.le_refl _

/-- Reading a field uses up at least one octet. -/
theorem length_lt_of_literal {table : DynamicTable} {size bits : Nat} {octets rest : Octets}
    {header : Header} (found : literal table size bits octets = .ok (header, rest)) :
    rest.length < octets.length := by
  obtain ⟨⟨index, afterIndex⟩, indexRead, found⟩ := exists_ok_of_bind found
  obtain ⟨⟨name, afterName⟩, nameRead, found⟩ := exists_ok_of_bind found
  obtain ⟨⟨value, afterValue⟩, valueRead, found⟩ := exists_ok_of_bind found
  cases found
  calc rest.length
    _ < afterName.length := StringLiteral.length_lt_of_decode valueRead
    _ ≤ afterIndex.length := length_le_of_name nameRead
    _ < octets.length := Integer.length_lt_of_decode indexRead

/-- Reading an instruction that holds a field uses up at least one octet. -/
theorem length_lt_of_literalStep {table : DynamicTable} {size bits : Nat} {indexing : Indexing}
    {octets rest : Octets} {step : Instruction}
    (found : (do
      let (header, rest) ← literal table size bits octets
      return (Instruction.literal indexing header, rest)) = .ok (step, rest)) :
    rest.length < octets.length := by
  obtain ⟨⟨header, afterHeader⟩, headerRead, found⟩ := exists_ok_of_bind found
  cases found
  exact length_lt_of_literal headerRead

/-- Reading an instruction uses up at least one octet. -/
theorem length_lt_of_instruction {table : DynamicTable} {size : Nat} {octets rest : Octets}
    {step : Instruction} (found : instruction table size octets = .ok (step, rest)) :
    rest.length < octets.length := by
  cases octets with
  | nil => cases found
  | cons octet octets =>
    rw [instruction] at found
    split at found
    · obtain ⟨⟨index, afterIndex⟩, indexRead, found⟩ := exists_ok_of_bind found
      obtain ⟨header, headerFound, found⟩ := exists_ok_of_bind found
      cases found
      exact Integer.length_lt_of_decode indexRead
    · split at found
      · exact length_lt_of_literalStep found
      · split at found
        · exact length_lt_of_literalStep found
        · split at found
          · exact length_lt_of_literalStep found
          · split at found
            · obtain ⟨⟨maximum, afterMaximum⟩, maximumRead, found⟩ := exists_ok_of_bind found
              cases found
              exact Integer.length_lt_of_decode maximumRead
            · cases found

/-! ### Reading a block -/

/-- What reading a block yields: the fields or an error, the table as it is then, and the
journal. -/
structure Reading where
  result : Except HpackError (List Header)
  table : DynamicTable
  journal : Journal

/-- Carries out the instructions of the octets left of a block of `size`. The fields read before
are given last first. -/
def decodeFrom (size : Nat) (read : List Header) (table : DynamicTable) (journal : Journal)
    (octets : Octets) : Reading :=
  if octets.isEmpty then ⟨.ok read.reverse, table, journal⟩
  else
    match found : instruction table size octets with
    | .error error => ⟨.error error, table, journal⟩
    | .ok (step, rest) =>
      have : rest.length < octets.length := length_lt_of_instruction found
      decodeFrom size (step.header?.toList ++ read) (step.apply table) (step.report journal) rest
  termination_by octets.length

/-- Reads a block with the table as previous blocks left it. -/
def decode (table : DynamicTable) (block : Octets) (journal : Journal) : Reading :=
  decodeFrom block.length [] table journal block

/-! ### Writing -/

/-- A field that is written out and not added to a table. -/
def encodeHeader (header : Header) : Octets :=
  Integer.encode 4 0x00 0 ++ StringLiteral.encode false header.name ++
    StringLiteral.encode false header.value

/-- A block of fields. It needs no table. -/
def encode (headers : List Header) : Octets :=
  headers.flatMap encodeHeader

end WebFetch.Hpack
