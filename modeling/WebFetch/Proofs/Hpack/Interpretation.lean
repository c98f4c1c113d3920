/-
This file says what header blocks mean. A representation is a place of the tables, a field that is
written out, or a new maximum for the table; it has a form in octets, in which each string may be in
the Huffman code. The meaning of representations is read off from left to right: each stands for a
field as the table is at that moment, and then changes the table. Decoding the octets of
representations, one after the other, yields exactly their meaning, in the fields and in the table,
and a place that stands for nothing ends both at the same representation.
-/

import WebFetch.Proofs.Hpack.Block
import WebFetch.Proofs.Hpack.StringLiteral

namespace WebFetch.Hpack

/-! ### Representations -/

/-- How a field that is written out is named. -/
inductive FieldName where
  /-- By a place of the tables. -/
  | indexed (index : Nat)
  /-- By its octets. -/
  | written (huffman : Bool) (octets : Octets)
  deriving DecidableEq, Repr

/-- What a header block is made of. -/
inductive Representation where
  | indexed (index : Nat)
  | literal (indexing : Indexing) (name : FieldName) (huffman : Bool) (value : Octets)
  | resize (maximum : Nat)
  deriving DecidableEq, Repr

namespace Indexing

/-- How many bits of the first octet hold the place of a name. -/
def bits : Indexing → Nat
  | .incremental => 6
  | .without => 4
  | .never => 4

/-- The first bits of the first octet. -/
def pattern : Indexing → UInt8
  | .incremental => 0x40
  | .without => 0x00
  | .never => 0x10

theorem bits_le (indexing : Indexing) : indexing.bits ≤ 8 := by
  cases indexing <;> decide

theorem pattern_free (indexing : Indexing) :
    indexing.pattern.toNat % 2 ^ indexing.bits = 0 := by
  cases indexing <;> rfl

end Indexing

namespace FieldName

/-- The place that is written for a name. Zero says that the octets of the name follow. -/
def index : FieldName → Nat
  | .indexed index => index
  | .written _ _ => 0

/-- The octets that follow the place of a name. -/
def octets : FieldName → Octets
  | .indexed _ => []
  | .written huffman octets => StringLiteral.encode huffman octets

/-- Whether the place of a name is one and has 64 bits. -/
def WellFormed : FieldName → Prop
  | .indexed index => 1 ≤ index ∧ index < wordLimit
  | .written _ _ => True

instance : DecidablePred WellFormed
  | .indexed index => inferInstanceAs (Decidable (1 ≤ index ∧ index < wordLimit))
  | .written _ _ => inferInstanceAs (Decidable True)

/-- The name that is meant. A place may stand for nothing. -/
def resolve (table : DynamicTable) : FieldName → Except HpackError Octets
  | .indexed index =>
    match table.lookup index with
    | some header => .ok header.name
    | none => .error (.indexNotFound index)
  | .written _ octets => .ok octets

theorem index_lt {name : FieldName} (formed : name.WellFormed) : name.index < wordLimit := by
  cases name with
  | indexed index => exact formed.2
  | written huffman octets => exact (by decide : 0 < wordLimit)

end FieldName

namespace Representation

/-- Whether the numbers of a representation have 64 bits and its name is not at place zero. -/
def WellFormed : Representation → Prop
  | .indexed index => index < wordLimit
  | .literal _ name _ _ => name.WellFormed
  | .resize maximum => maximum < wordLimit

instance : DecidablePred WellFormed
  | .indexed index => inferInstanceAs (Decidable (index < wordLimit))
  | .literal _ name _ _ => inferInstanceAs (Decidable name.WellFormed)
  | .resize maximum => inferInstanceAs (Decidable (maximum < wordLimit))

/-- The octets of a representation. -/
def wire : Representation → Octets
  | .indexed index => Integer.encode 7 0x80 index
  | .literal indexing name huffman value =>
    Integer.encode indexing.bits indexing.pattern name.index ++ name.octets ++
      StringLiteral.encode huffman value
  | .resize maximum => Integer.encode 5 0x20 maximum

/-- The field that a representation stands for, if any, and the table after it. A place may stand
for nothing. -/
def interpret (table : DynamicTable) :
    Representation → Except HpackError (Option Header × DynamicTable)
  | .indexed index =>
    match table.lookup index with
    | some header => .ok (some header, table)
    | none => .error (.indexNotFound index)
  | .literal indexing name _ value =>
    match name.resolve table with
    | .ok name =>
      let header := Header.mk name value
      .ok (some header, if indexing = .incremental then table.add header else table)
    | .error error => .error error
  | .resize maximum => .ok (none, table.setMaximum maximum)

end Representation

/-- The fields that representations stand for, from left to right, or the error of the first that
has no meaning; and the table after those before it. -/
def interpret (table : DynamicTable) :
    List Representation → Except HpackError (List Header) × DynamicTable
  | [] => (.ok [], table)
  | representation :: later =>
    match representation.interpret table with
    | .error error => (.error error, table)
    | .ok (header?, next) =>
      ((interpret next later).1.map (header?.toList ++ ·), (interpret next later).2)

/-! ### Reading one representation -/

/-- A name is read back as what is meant by it. -/
theorem name_octets (table : DynamicTable) (size : Nat) {name : FieldName} (rest : Octets)
    (formed : name.WellFormed) (small : name.octets.length < wordLimit) :
    Hpack.name table size name.index (name.octets ++ rest) =
      (name.resolve table).map fun found => (found, rest) := by
  cases name with
  | indexed index =>
    have positive : index ≠ 0 := Nat.ne_of_gt formed.1
    show (if index = 0 then _ else (lookup table index).map fun header => (header.name, rest)) = _
    rw [if_neg positive, lookup, FieldName.resolve]
    cases table.lookup index <;> rfl
  | written huffman octets =>
    exact StringLiteral.decode_encode rest small

/-- A field that is written out is read back as what is meant by it. -/
theorem literal_wire (table : DynamicTable) (size : Nat) (indexing : Indexing) {name : FieldName}
    {huffman : Bool} {value : Octets} (rest : Octets) (formed : name.WellFormed)
    (small : (Representation.literal indexing name huffman value).wire.length < wordLimit) :
    literal table size indexing.bits
        ((Representation.literal indexing name huffman value).wire ++ rest) =
      (name.resolve table).map fun found => (⟨found, value⟩, rest) := by
  simp only [Representation.wire, List.length_append] at small
  have nameSmall : name.octets.length < wordLimit := by omega
  have valueSmall : (StringLiteral.encode huffman value).length < wordLimit := by omega
  rw [Representation.wire, List.append_assoc, List.append_assoc, literal,
    Integer.decode_encode _ indexing.bits_le indexing.pattern_free (FieldName.index_lt formed)]
  simp only [bind, Except.bind]
  rw [name_octets table size _ formed nameSmall]
  cases name.resolve table with
  | error error => rfl
  | ok found =>
    simp only [Except.map]
    rw [StringLiteral.decode_encode rest valueSmall]
    rfl

/-- The first octet tells a place of the tables from all else. -/
theorem starts_indexed : ∀ first < 2 ^ 7, (0x80 ||| UInt8.ofNat first) &&& 0x80 = 0x80 := by
  decide +kernel

/-- The first octet tells what becomes of a field that is written out. -/
theorem starts_literal (indexing : Indexing) :
    ∀ first < 2 ^ indexing.bits,
      (indexing.pattern ||| UInt8.ofNat first) &&& 0x80 ≠ 0x80 ∧
      ((indexing.pattern ||| UInt8.ofNat first) &&& 0xc0 = 0x40 ↔ indexing = .incremental) ∧
      ((indexing.pattern ||| UInt8.ofNat first) &&& 0xf0 = 0x00 ↔ indexing = .without) ∧
      ((indexing.pattern ||| UInt8.ofNat first) &&& 0xf0 = 0x10 ↔ indexing = .never) := by
  cases indexing <;> decide +kernel

/-- The first octet tells a new maximum from a place and a field. -/
theorem starts_resize :
    ∀ first < 2 ^ 5, (0x20 ||| UInt8.ofNat first) &&& 0x80 ≠ 0x80 ∧
      (0x20 ||| UInt8.ofNat first) &&& 0xc0 ≠ 0x40 ∧
      (0x20 ||| UInt8.ofNat first) &&& 0xf0 ≠ 0x00 ∧
      (0x20 ||| UInt8.ofNat first) &&& 0xf0 ≠ 0x10 ∧
      (0x20 ||| UInt8.ofNat first) &&& 0xe0 = 0x20 := by
  decide +kernel

/-- The instruction that a representation amounts to when the table is as it is. -/
def Representation.toInstruction (table : DynamicTable) :
    Representation → Except HpackError Instruction
  | .indexed index =>
    match table.lookup index with
    | some header => .ok (.indexed index header)
    | none => .error (.indexNotFound index)
  | .literal indexing name _ value =>
    (name.resolve table).map fun name => .literal indexing ⟨name, value⟩
  | .resize maximum => .ok (.resize maximum)

theorem interpret_eq (table : DynamicTable) (representation : Representation) :
    representation.interpret table =
      (representation.toInstruction table).map fun step => (step.header?, step.apply table) := by
  cases representation with
  | indexed index =>
    rw [Representation.interpret, Representation.toInstruction]
    cases table.lookup index <;> rfl
  | literal indexing name huffman value =>
    rw [Representation.interpret, Representation.toInstruction]
    cases name.resolve table with
    | error error => rfl
    | ok found => cases indexing <;> rfl
  | resize maximum => rfl

/-- The pattern of a field that is written out has the field read that way. -/
theorem instruction_literal {table : DynamicTable} {size first : Nat} (indexing : Indexing)
    (octets : Octets) (small : first < 2 ^ indexing.bits) :
    instruction table size ((indexing.pattern ||| UInt8.ofNat first) :: octets) = (do
      let (header, rest) ←
        literal table size indexing.bits ((indexing.pattern ||| UInt8.ofNat first) :: octets)
      return (.literal indexing header, rest)) := by
  obtain ⟨notIndexed, isIncremental, isWithout, isNever⟩ := starts_literal indexing first small
  rw [instruction, if_neg notIndexed]
  cases indexing with
  | incremental =>
    rw [if_pos (isIncremental.mpr rfl)]
    rfl
  | without =>
    rw [if_neg (mt isIncremental.mp (by decide)), if_pos (isWithout.mpr rfl)]
    rfl
  | never =>
    rw [if_neg (mt isIncremental.mp (by decide)), if_neg (mt isWithout.mp (by decide)),
      if_pos (isNever.mpr rfl)]
    rfl

/-- A new maximum is read back, whatever it is. -/
theorem instruction_resize (table : DynamicTable) (size : Nat) {maximum : Nat} (rest : Octets)
    (small : maximum < wordLimit) :
    instruction table size ((Representation.resize maximum).wire ++ rest) =
      .ok (.resize maximum, rest) := by
  have read : Integer.decode size 5 (Integer.encode 5 0x20 maximum ++ rest) =
      .ok (maximum, rest) :=
    Integer.decode_encode rest (by decide) rfl small
  obtain ⟨first, later, firstSmall, spelt⟩ := Integer.exists_encode_eq_cons 5 0x20 maximum
  obtain ⟨notIndexed, notIncremental, notWithout, notNever, resizes⟩ :=
    starts_resize first firstSmall
  rw [Representation.wire]
  rw [spelt, List.cons_append] at read ⊢
  rw [instruction, if_neg notIndexed, if_neg notIncremental, if_neg notWithout, if_neg notNever,
    if_pos resizes, read]
  rfl

/-- A representation is read back as the instruction it amounts to. -/
theorem instruction_wire (table : DynamicTable) (size : Nat) {representation : Representation}
    (rest : Octets) (formed : representation.WellFormed)
    (small : representation.wire.length < wordLimit) :
    instruction table size (representation.wire ++ rest) =
      (representation.toInstruction table).map fun step => (step, rest) := by
  cases representation with
  | indexed index =>
    have read : Integer.decode size 7 (Integer.encode 7 0x80 index ++ rest) = .ok (index, rest) :=
      Integer.decode_encode rest (by decide) rfl formed
    obtain ⟨first, later, firstSmall, spelt⟩ := Integer.exists_encode_eq_cons 7 0x80 index
    rw [Representation.wire, Representation.toInstruction]
    rw [spelt, List.cons_append] at read ⊢
    rw [instruction, if_pos (starts_indexed first firstSmall), read]
    show (do
      let header ← lookup table index
      return (Instruction.indexed index header, rest)) = _
    rw [lookup]
    cases table.lookup index <;> rfl
  | literal indexing name huffman value =>
    have read := literal_wire table size indexing rest formed small
    obtain ⟨first, later, firstSmall, spelt⟩ :=
      Integer.exists_encode_eq_cons indexing.bits indexing.pattern name.index
    rw [Representation.toInstruction]
    rw [Representation.wire, spelt, List.cons_append, List.cons_append, List.cons_append]
      at read ⊢
    rw [instruction_literal indexing _ firstSmall, read]
    cases name.resolve table <;> rfl
  | resize maximum => exact instruction_resize table size rest formed

/-! ### Reading a block -/

/-- The octets of representations, one after the other. -/
def wire (representations : List Representation) : Octets :=
  representations.flatMap Representation.wire

theorem wire_ne_nil (representation : Representation) (rest : Octets) :
    representation.wire ++ rest ≠ [] := by
  have occupied (bits : Nat) (pattern : UInt8) (value : Nat) (rest : Octets) :
      Integer.encode bits pattern value ++ rest ≠ [] := by
    obtain ⟨first, later, _, spelt⟩ := Integer.exists_encode_eq_cons bits pattern value
    rw [spelt, List.cons_append]
    exact List.cons_ne_nil _ _
  cases representation with
  | indexed index => exact occupied _ _ _ rest
  | literal indexing name huffman value =>
    rw [Representation.wire, List.append_assoc, List.append_assoc]
    exact occupied _ _ _ _
  | resize maximum => exact occupied _ _ _ rest

/-- Decoding goes from left to right as the meaning does. -/
theorem decodeFrom_wire (size : Nat) (read : List Header) (table : DynamicTable)
    (journal : Journal) (representations : List Representation)
    (formed : ∀ representation ∈ representations, representation.WellFormed)
    (small : (wire representations).length < wordLimit) :
    (decodeFrom size read table journal (wire representations)).result =
        (interpret table representations).1.map (read.reverse ++ ·) ∧
      (decodeFrom size read table journal (wire representations)).table =
        (interpret table representations).2 := by
  induction representations generalizing read table journal with
  | nil =>
    rw [wire, List.flatMap_nil, decodeFrom_nil]
    exact ⟨congrArg Except.ok (List.append_nil _).symm, rfl⟩
  | cons representation later inductionHypothesis =>
    have parts : wire (representation :: later) = representation.wire ++ wire later :=
      List.flatMap_cons
    rw [parts, List.length_append] at small
    have headSmall : representation.wire.length < wordLimit := by omega
    have laterSmall : (wire later).length < wordLimit := by omega
    have headRead := instruction_wire table size (wire later)
      (formed representation List.mem_cons_self) headSmall
    rw [parts, interpret, interpret_eq]
    cases meaning : representation.toInstruction table with
    | error error =>
      rw [meaning] at headRead
      rw [decodeFrom_of_error (wire_ne_nil representation _) headRead]
      exact ⟨rfl, rfl⟩
    | ok step =>
      rw [meaning] at headRead
      rw [decodeFrom_of_ok headRead]
      obtain ⟨result, tableAfter⟩ := inductionHypothesis (step.header?.toList ++ read)
        (step.apply table) (step.report journal)
        (fun other member => formed other (List.mem_cons_of_mem _ member)) laterSmall
      refine ⟨result.trans ?_, tableAfter⟩
      have gathered (fields : List Header) : (step.header?.toList ++ read).reverse ++ fields =
          read.reverse ++ (step.header?.toList ++ fields) := by
        cases step.header? <;> simp
      show (interpret (step.apply table) later).1.map _ =
        ((interpret (step.apply table) later).1.map _).map _
      cases (interpret (step.apply table) later).1 with
      | error error => rfl
      | ok fields => exact congrArg Except.ok (gathered fields)

/-- Decoding the octets of representations yields what the representations mean: the fields, or the
error of the first place that stands for nothing, and the table as the representations leave it. -/
theorem decode_wire (table : DynamicTable) (journal : Journal)
    (representations : List Representation)
    (formed : ∀ representation ∈ representations, representation.WellFormed)
    (small : (wire representations).length < 2 ^ 63) :
    (decode table (wire representations) journal).result = (interpret table representations).1 ∧
      (decode table (wire representations) journal).table =
        (interpret table representations).2 := by
  have fits : (wire representations).length < wordLimit := Nat.lt_trans small (by decide)
  obtain ⟨result, tableAfter⟩ := decodeFrom_wire (wire representations).length [] table journal
    representations formed fits
  refine ⟨result.trans ?_, tableAfter⟩
  cases (interpret table representations).1 <;> rfl

/-- A block that adds two fields, so that one place stands for different fields, and then lowers the
maximum below what they cost together, which drives out the first. -/
def changingBlock : List Representation :=
  [.indexed 2, .literal .incremental (.indexed 1) true (Ascii.octets "www.example.com"),
    .indexed 62,
    .literal .incremental (.written true (Ascii.octets "custom-key")) false
      (Ascii.octets "custom-value"),
    .indexed 63, .resize 100, .indexed 62,
    .literal .never (.written false (Ascii.octets "password")) true (Ascii.octets "secret")]

theorem decode_wire_changingBlock :
    (∀ representation ∈ changingBlock, representation.WellFormed) ∧
      (wire changingBlock).length < 2 ^ 63 ∧
      (decode (.empty 4096) (wire changingBlock) .silent).result =
        .ok [⟨Ascii.octets ":method", Ascii.octets "GET"⟩,
          ⟨Ascii.octets ":authority", Ascii.octets "www.example.com"⟩,
          ⟨Ascii.octets ":authority", Ascii.octets "www.example.com"⟩,
          ⟨Ascii.octets "custom-key", Ascii.octets "custom-value"⟩,
          ⟨Ascii.octets ":authority", Ascii.octets "www.example.com"⟩,
          ⟨Ascii.octets "custom-key", Ascii.octets "custom-value"⟩,
          ⟨Ascii.octets "password", Ascii.octets "secret"⟩] ∧
      (decode (.empty 4096) (wire (changingBlock.take 5)) .silent).table.size = 111 ∧
      (decode (.empty 4096) (wire changingBlock) .silent).table =
        ⟨[⟨Ascii.octets "custom-key", Ascii.octets "custom-value"⟩], 54, 100⟩ := by
  have formed : ∀ representation ∈ changingBlock, representation.WellFormed := by decide
  have small : (wire changingBlock).length < 2 ^ 63 := by decide +kernel
  obtain ⟨result, table⟩ := decode_wire (.empty 4096) .silent changingBlock formed small
  obtain ⟨_, before⟩ := decode_wire (.empty 4096) .silent (changingBlock.take 5)
    (fun representation member => formed representation (List.mem_of_mem_take member))
    (by decide +kernel)
  exact ⟨formed, small, result.trans rfl, (congrArg DynamicTable.size before).trans rfl,
    table.trans rfl⟩

/-! ### Blocks that need no table -/

/-- A field that is written out and not added to a table. -/
def plain (header : Header) : Representation :=
  .literal .without (.written false header.name) false header.value

theorem wire_plain (headers : List Header) : wire (headers.map plain) = encode headers := by
  rw [wire, List.flatMap_map, encode]
  rfl

theorem interpret_plain (table : DynamicTable) (headers : List Header) :
    interpret table (headers.map plain) = (.ok headers, table) := by
  induction headers with
  | nil => rfl
  | cons header headers inductionHypothesis =>
    show ((interpret table (headers.map plain)).1.map _,
      (interpret table (headers.map plain)).2) = _
    rw [inductionHypothesis]
    rfl

/-- A block that was written is read back with any table, which stays as it is. -/
theorem decode_encode (table : DynamicTable) (journal : Journal) {headers : List Header}
    (small : (encode headers).length < wordLimit) :
    (decode table (encode headers) journal).result = .ok headers ∧
      (decode table (encode headers) journal).table = table := by
  have formed : ∀ representation ∈ headers.map plain, representation.WellFormed := by
    intro representation member
    obtain ⟨header, _, rfl⟩ := List.mem_map.mp member
    exact True.intro
  rw [← wire_plain] at small
  obtain ⟨result, tableAfter⟩ := decodeFrom_wire (encode headers).length [] table journal
    (headers.map plain) formed small
  rw [interpret_plain, wire_plain] at result tableAfter
  exact ⟨result, tableAfter⟩

end WebFetch.Hpack
