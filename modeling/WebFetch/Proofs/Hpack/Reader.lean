/-
This file is about readers of header blocks, which take what they read from the front of octets. A
reader looks at its own octets only: what follows them, and the size of the block, make no
difference to what is read. Octets that it refuses it refuses whatever follows, unless octets are
missing, and then no more of them than complete what was begun. All of this is kept when one reader
goes on where another ends, so it holds of instructions because it holds of their parts.
-/

import WebFetch.Hpack.Block

namespace WebFetch.Hpack

/-- Reads at the front of the octets left of a block of some size. -/
abbrev Reader (Result : Type) : Type := Nat → Octets → Except HpackError (Result × Octets)

namespace Reader

variable {First Result : Type}

/-- Whether an error says that octets are missing of which others may complete those that are
left. -/
def Awaits (reader : Reader Result) (size : Nat) (octets : Octets) (error : HpackError) : Prop :=
  ∃ length rest, error = missing size length rest ∧ rest.length ≤ octets.length ∧
    ∀ {other later found}, reader other (octets ++ later) = .ok found →
      length ≤ rest.length + later.length

/-- Whether a reader looks at its own octets only. -/
structure Lawful (reader : Reader Result) : Prop where
  /-- What is read from its own octets is read from them whatever follows. -/
  reads : ∀ {size octets result rest}, reader size octets = .ok (result, rest) →
    ∃ own, octets = own ++ rest ∧ ∀ other later, reader other (own ++ later) = .ok (result, later)
  /-- Unless octets are missing, what is refused is refused whatever follows. -/
  refuses : ∀ {size octets error}, reader size octets = .error error →
    Awaits reader size octets error ∨
      ∀ other later, reader other (octets ++ later) = .error error

/-! ### Readers made of others -/

/-- A reader that looks at no octets. -/
theorem lawful_of_map (found : Except HpackError First) (put : First → Result) :
    Lawful fun _ octets => found.map fun value => (put value, octets) := by
  constructor
  · intro size octets result rest read
    cases found with
    | error error => cases read
    | ok value =>
      cases read
      exact ⟨[], rfl, fun other later => rfl⟩
  · intro size octets error refused
    cases found with
    | error failure =>
      cases refused
      exact Or.inr fun other later => rfl
    | ok value => cases refused

theorem lawful_ok (result : Result) : Lawful fun _ octets => .ok (result, octets) :=
  lawful_of_map (.ok result) id

theorem lawful_error (error : HpackError) :
    Lawful fun _ _ => (.error error : Except HpackError (Result × Octets)) :=
  lawful_of_map (.error error) id

/-- A reader that goes on where another ends, in a way that depends on what was found. -/
theorem lawful_bind {first : Reader First}
    {next : Nat → First × Octets → Except HpackError (Result × Octets)}
    (lawful : first.Lawful)
    (nextLawful : ∀ between, Lawful fun size rest => next size (between, rest)) :
    Lawful fun size octets => first size octets >>= next size := by
  constructor
  · intro size octets result rest found
    obtain ⟨⟨between, afterFirst⟩, firstFound, nextFound⟩ := exists_ok_of_bind found
    obtain ⟨own, rfl, again⟩ := lawful.reads firstFound
    obtain ⟨others, rfl, nextAgain⟩ := (nextLawful between).reads nextFound
    refine ⟨own ++ others, (List.append_assoc _ _ _).symm, fun other later => ?_⟩
    rw [List.append_assoc, again]
    exact nextAgain other later
  · intro size octets error refused
    cases found : first size octets with
    | error firstError =>
      rw [found] at refused
      cases refused
      rcases lawful.refuses found with ⟨length, rest, rfl, few, completed⟩ | always
      · refine Or.inl ⟨length, rest, rfl, few, fun whole => ?_⟩
        obtain ⟨between, firstWhole, _⟩ := exists_ok_of_bind whole
        exact completed firstWhole
      · refine Or.inr fun other later => ?_
        rw [always]
        rfl
    | ok taken =>
      obtain ⟨between, afterFirst⟩ := taken
      obtain ⟨own, rfl, again⟩ := lawful.reads found
      rw [found] at refused
      rcases (nextLawful between).refuses refused with ⟨length, rest, rfl, few, completed⟩ | always
      · refine Or.inl ⟨length, rest, rfl, ?_, fun {other later found} whole => ?_⟩
        · rw [List.length_append]
          exact Nat.le_add_left_of_le few
        · simp only [List.append_assoc, again] at whole
          exact completed whole
      · refine Or.inr fun other later => ?_
        rw [List.append_assoc, again]
        exact always other later

theorem Lawful.ite {condition : Prop} [Decidable condition] {first second : Reader Result}
    (lawful : first.Lawful) (otherLawful : second.Lawful) :
    Lawful fun size octets => if condition then first size octets else second size octets := by
  by_cases holds : condition
  · simpa only [if_pos holds] using lawful
  · simpa only [if_neg holds] using otherLawful

/-- A reader that looks at one octet and goes on as the octet says. -/
theorem lawful_of_cons {reader : Reader Result} {next : UInt8 → Reader Result}
    (empty : ∀ size, reader size [] = .error (missing size 1 []))
    (occupied : ∀ size octet rest, reader size (octet :: rest) = next octet size rest)
    (lawful : ∀ octet, (next octet).Lawful) : reader.Lawful := by
  constructor
  · intro size octets result rest found
    cases octets with
    | nil =>
      rw [empty] at found
      cases found
    | cons octet octets =>
      rw [occupied] at found
      obtain ⟨own, rfl, again⟩ := (lawful octet).reads found
      refine ⟨octet :: own, rfl, fun other later => ?_⟩
      rw [List.cons_append, occupied]
      exact again other later
  · intro size octets error refused
    cases octets with
    | nil =>
      rw [empty] at refused
      cases refused
      refine Or.inl ⟨1, [], rfl, Nat.le_refl _, fun {other later found} whole => ?_⟩
      cases later with
      | nil =>
        rw [List.nil_append, empty] at whole
        cases whole
      | cons octet later => exact Nat.le_add_left_of_le (Nat.succ_le_succ (Nat.zero_le _))
    | cons octet octets =>
      rw [occupied] at refused
      rcases (lawful octet).refuses refused with ⟨length, rest, rfl, few, completed⟩ | always
      · refine Or.inl
          ⟨length, rest, rfl, Nat.le_succ_of_le few, fun {other later found} whole => ?_⟩
        rw [List.cons_append, occupied] at whole
        exact completed whole
      · refine Or.inr fun other later => ?_
        rw [List.cons_append, occupied]
        exact always other later

end Reader

/-! ### The readers of a block -/

theorem lawful_takeOctets (length : Nat) :
    Reader.Lawful fun size octets => takeOctets size length octets := by
  constructor
  · intro size octets taken rest found
    simp only [takeOctets] at found
    split at found
    · cases found
    · rename_i long
      cases found
      refine ⟨octets.take length, (List.take_append_drop _ _).symm, fun other later => ?_⟩
      have exact : (octets.take length).length = length := by
        rw [List.length_take] at long ⊢
        omega
      simp only [takeOctets]
      rw [List.take_left' exact, List.drop_left' exact, if_neg long]
  · intro size octets error refused
    simp only [takeOctets] at refused
    split at refused
    · cases refused
      refine Or.inl ⟨length, octets, rfl, Nat.le_refl _, fun {other later found} whole => ?_⟩
      simp only [takeOctets] at whole
      split at whole
      · cases whole
      · rename_i long
        rw [List.length_take, List.length_append] at long
        omega
    · cases refused

namespace Integer

/-- The induction is on how far the shift may still grow before the value overflows. -/
theorem lawful_extend (room value shift : Nat) (enough : 64 ≤ shift + room) :
    Reader.Lawful fun size octets => extend size value shift octets := by
  induction room generalizing value shift with
  | zero =>
    refine Reader.lawful_of_cons (fun size => rfl) (fun size octet rest => ?_)
      fun octet => Reader.lawful_error .integerOverflow
    simp only [extend]
    exact if_pos (Or.inl enough)
  | succ room inductionHypothesis =>
    refine Reader.lawful_of_cons (fun size => rfl) (fun size octet rest => by rw [extend])
      fun octet => ?_
    exact (Reader.lawful_error .integerOverflow).ite
      ((Reader.lawful_ok _).ite (inductionHypothesis _ _ (by omega)))

/-- Reading an integer of which the first octet is known. -/
theorem lawful_decode_cons (bits : Nat) (octet : UInt8) :
    Reader.Lawful fun size octets => decode size bits (octet :: octets) := by
  simp only [decode]
  exact (Reader.lawful_ok _).ite (lawful_extend 64 _ 0 (Nat.le_refl _))

end Integer

theorem StringLiteral.lawful_decode :
    Reader.Lawful fun size octets => StringLiteral.decode size octets := by
  refine Reader.lawful_of_cons (fun size => rfl) (fun size octet rest => by rw [decode])
    fun octet => ?_
  refine Reader.lawful_bind (Integer.lawful_decode_cons 7 octet) fun length => ?_
  refine Reader.lawful_bind (lawful_takeOctets length) fun raw => ?_
  exact Reader.lawful_of_map (unpack (isHuffman octet) raw) id

theorem lawful_name (table : DynamicTable) (index : Nat) :
    Reader.Lawful fun size octets => name table size index octets := by
  exact StringLiteral.lawful_decode.ite (Reader.lawful_of_map (lookup table index) Header.name)

/-- Reading a field that is written out and of which the first octet is known. -/
theorem lawful_literal_cons (table : DynamicTable) (bits : Nat) (octet : UInt8) :
    Reader.Lawful fun size octets => literal table size bits (octet :: octets) := by
  refine Reader.lawful_bind (Integer.lawful_decode_cons bits octet) fun index => ?_
  refine Reader.lawful_bind (lawful_name table index) fun name => ?_
  refine Reader.lawful_bind StringLiteral.lawful_decode fun value => ?_
  exact Reader.lawful_ok (Header.mk name value)

/-- An instruction is read from its own octets. -/
theorem lawful_instruction (table : DynamicTable) :
    Reader.Lawful fun size octets => instruction table size octets := by
  refine Reader.lawful_of_cons (fun size => rfl) (fun size octet rest => by rw [instruction])
    fun octet => ?_
  refine Reader.Lawful.ite ?indexed (Reader.Lawful.ite ?incremental (Reader.Lawful.ite ?without
    (Reader.Lawful.ite ?never (Reader.Lawful.ite ?resize ?unknown))))
  case indexed =>
    refine Reader.lawful_bind (Integer.lawful_decode_cons 7 octet) fun index => ?_
    exact Reader.lawful_of_map (lookup table index) (Instruction.indexed index)
  case resize =>
    refine Reader.lawful_bind (Integer.lawful_decode_cons 5 octet) fun maximum => ?_
    exact Reader.lawful_ok (Instruction.resize maximum)
  case unknown => exact Reader.lawful_error (.unknownRepresentation octet)
  case incremental =>
    refine Reader.lawful_bind (lawful_literal_cons table 6 octet) fun header => ?_
    exact Reader.lawful_ok (Instruction.literal .incremental header)
  case without =>
    refine Reader.lawful_bind (lawful_literal_cons table 4 octet) fun header => ?_
    exact Reader.lawful_ok (Instruction.literal .without header)
  case never =>
    refine Reader.lawful_bind (lawful_literal_cons table 4 octet) fun header => ?_
    exact Reader.lawful_ok (Instruction.literal .never header)

end WebFetch.Hpack
