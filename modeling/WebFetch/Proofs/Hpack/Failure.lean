/-
This file is about header blocks that cannot be read. Their reading stops at an instruction, and it
leaves the table as the instructions before it did: what was begun changes nothing, and what follows
it is not looked at. A block that can be read and is cut short stops for no other reason than that
octets are missing, unless it is cut between two instructions.
-/

import WebFetch.Proofs.Hpack.Composition

namespace WebFetch.Hpack

variable {table : DynamicTable} {journal : Journal} {block before failing : Octets}
  {headers : List Header} {error : HpackError}

/-! ### Where reading stops -/

/-- Whether a part of a block is where its last instruction ends that can be read. -/
structure LastBoundary (table : DynamicTable) (journal : Journal) (block before : Octets)
    (headers : List Header) : Prop where
  inside : before <+: block
  decoded : (decode table before journal).result = .ok headers
  longest : ∀ {other otherHeaders}, other <+: block →
    (decode table other journal).result = .ok otherHeaders → other <+: before

/-- Whether a block is a part that can be read and an instruction that is refused. -/
structure StopsAt (table : DynamicTable) (journal : Journal) (block before failing : Octets)
    (headers : List Header) (error : HpackError) : Prop where
  split : block = before ++ failing
  occupied : failing ≠ []
  decoded : (decode table before journal).result = .ok headers
  refused : instruction (decode table before journal).table block.length failing = .error error

/-- What can be read is read the same way in a block of any size. -/
theorem decodeFrom_of_size {size : Nat} {read : List Header} {octets : Octets} {reading : Reading}
    (found : decodeFrom size read table journal octets = reading)
    (decoded : reading.result = .ok headers) (other : Nat) :
    decodeFrom other read table journal octets = reading := by
  obtain ⟨result, tableAfter, journalAfter⟩ := reading
  obtain rfl : result = .ok headers := decoded
  have again := decodeFrom_append (by rw [found]) other []
  rwa [List.append_nil, found, decodeFrom_nil, List.reverse_reverse] at again

theorem exists_instruction_of_decodeFrom {size : Nat} {read : List Header} {octets : Octets}
    (occupied : octets ≠ [])
    (found : (decodeFrom size read table journal octets).result = .ok headers) :
    ∃ step rest, instruction table size octets = .ok (step, rest) := by
  cases stepRead : instruction table size octets with
  | error error =>
    rw [decodeFrom_of_error occupied stepRead] at found
    cases found
  | ok taken => exact ⟨taken.1, taken.2, rfl⟩

/-- The fields of a part that can be read are the first of those of the block. -/
theorem prefix_of_decode_append {later : Octets} {whole : List Header}
    (found : (decode table block journal).result = .ok headers)
    (decoded : (decode table (block ++ later) journal).result = .ok whole) : headers <+: whole := by
  have ahead := (decodeFrom_before 0 (block ++ later).length [] headers.reverse
    (decode table block journal).table (decode table block journal).journal later).1
  rw [decode, decodeFrom_append found] at decoded
  rw [List.nil_append, List.reverse_reverse] at ahead
  have some := ahead.symm.trans (congrArg Except.toOption decoded)
  obtain ⟨others, _, same⟩ := Option.map_eq_some_iff.mp some
  exact ⟨others, same⟩

theorem exists_missing_eq (size length : Nat) (rest : Octets) :
    ∃ range, missing size length rest = .range range := by
  simp only [missing]
  split
  · exact ⟨.overflow, rfl⟩
  · exact ⟨.outOfRange (size - rest.length) length size, rfl⟩

theorem exists_of_decodeFrom_error {size : Nat} {read : List Header} {octets : Octets}
    (failed : (decodeFrom size read table journal octets).result = .error error) :
    ∃ before failing headers, octets = before ++ failing ∧ failing ≠ [] ∧
      (decodeFrom size read table journal before).result = .ok headers ∧
      instruction (decodeFrom size read table journal before).table size failing =
        .error error := by
  induction length : octets.length using Nat.strongRecOn generalizing read table journal octets with
  | ind count inductionHypothesis =>
    subst length
    cases octets with
    | nil =>
      rw [decodeFrom_nil] at failed
      cases failed
    | cons octet octets =>
      cases stepRead : instruction table size (octet :: octets) with
      | error stepError =>
        rw [decodeFrom_of_error (List.cons_ne_nil _ _) stepRead] at failed
        cases failed
        refine ⟨[], octet :: octets, read.reverse, rfl, List.cons_ne_nil _ _, ?_, ?_⟩
        · rw [decodeFrom_nil]
        · rw [decodeFrom_nil]
          exact stepRead
      | ok taken =>
        obtain ⟨step, rest⟩ := taken
        rw [decodeFrom_of_ok stepRead] at failed
        obtain ⟨before, failing, headers, rfl, occupied, decoded, refused⟩ :=
          inductionHypothesis _ (length_lt_of_instruction stepRead) failed rfl
        obtain ⟨own, split, again⟩ := (lawful_instruction table).reads stepRead
        refine ⟨own ++ before, failing, headers, ?_, occupied, ?_, ?_⟩
        · rw [split, List.append_assoc]
        · rwa [decodeFrom_of_ok (again size before)]
        · rwa [decodeFrom_of_ok (again size before)]

/-- A block that cannot be read stops at some instruction. -/
theorem exists_stopsAt (failed : (decode table block journal).result = .error error) :
    ∃ before failing headers, StopsAt table journal block before failing headers error := by
  obtain ⟨before, failing, headers, split, occupied, decoded, refused⟩ :=
    exists_of_decodeFrom_error failed
  have same : decode table before journal = decodeFrom block.length [] table journal before :=
    decodeFrom_of_size rfl decoded _
  exact ⟨before, failing, headers, split, occupied, by rw [same, decoded],
    by rw [same, refused]⟩

namespace StopsAt

/-- What was begun changes nothing. -/
theorem decode_eq (stops : StopsAt table journal block before failing headers error) :
    decode table block journal =
      ⟨.error error, (decode table before journal).table,
        (decode table before journal).journal⟩ := by
  have resumed := decodeFrom_append stops.decoded block.length failing
  rw [← stops.split] at resumed
  rw [decode, resumed]
  exact decodeFrom_of_error stops.occupied stops.refused

/-- Reading goes on at the instruction that is refused. -/
theorem decode_append (stops : StopsAt table journal block before failing headers error)
    (later : Octets) :
    decode table (block ++ later) journal =
      decodeFrom (block ++ later).length headers.reverse (decode table before journal).table
        (decode table before journal).journal (failing ++ later) := by
  have resumed := decodeFrom_append stops.decoded (block ++ later).length (failing ++ later)
  rwa [← List.append_assoc, ← stops.split] at resumed

/-- Unless octets are missing, what follows is not looked at. -/
theorem decode_append_of_not_range
    (stops : StopsAt table journal block before failing headers error)
    (enough : ∀ range, error ≠ .range range) (later : Octets) :
    decode table (block ++ later) journal = decode table block journal := by
  rcases (lawful_instruction _).refuses stops.refused with ⟨length, rest, awaits, _⟩ | always
  · obtain ⟨range, missed⟩ := exists_missing_eq block.length length rest
    exact absurd (awaits.trans missed) (enough range)
  · rw [stops.decode_append, stops.decode_eq]
    exact decodeFrom_of_error (List.append_ne_nil_of_left_ne_nil stops.occupied _)
      (always _ later)

theorem lastBoundary (stops : StopsAt table journal block before failing headers error) :
    LastBoundary table journal block before headers := by
  have inside : before <+: block := ⟨failing, stops.split.symm⟩
  refine ⟨inside, stops.decoded, fun {other otherHeaders} otherInside decoded => ?_⟩
  rcases List.prefix_or_prefix_of_prefix otherInside inside with shorter | ⟨begun, rfl⟩
  · exact shorter
  · by_cases nothing : begun = []
    · exact ⟨[], by rw [nothing, List.append_nil, List.append_nil]⟩
    · obtain ⟨rest, split⟩ := otherInside
      rw [stops.split, List.append_assoc] at split
      rw [decode, decodeFrom_append stops.decoded] at decoded
      obtain ⟨step, afterStep, read⟩ := exists_instruction_of_decodeFrom nothing decoded
      have again := instruction_append read block.length rest
      rw [List.append_cancel_left split] at again
      cases again.symm.trans stops.refused

/-- If more octets make a block of it that can be read, octets are all that is missing. -/
theorem error_of_cut (stops : StopsAt table journal block before failing headers error)
    {later : Octets} {whole : List Header}
    (decoded : (decode table (block ++ later) journal).result = .ok whole)
    (small : (block ++ later).length < wordLimit) :
    ∃ offset length, error = .range (.outOfRange offset length block.length) := by
  rw [stops.decode_append] at decoded
  obtain ⟨step, rest, read⟩ := exists_instruction_of_decodeFrom
    (List.append_ne_nil_of_left_ne_nil stops.occupied _) decoded
  rcases (lawful_instruction _).refuses stops.refused with
    ⟨length, left, rfl, few, completed⟩ | always
  · have lengths := congrArg List.length stops.split
    have enough := completed read
    rw [List.length_append] at lengths small
    have fits : ¬ wordLimit ≤ block.length - left.length + length := by omega
    exact ⟨block.length - left.length, length, if_neg fits⟩
  · rw [always] at read
    cases read

end StopsAt

/-- A block that can be read ends at its last boundary. -/
theorem lastBoundary_of_decoded (decoded : (decode table block journal).result = .ok headers) :
    LastBoundary table journal block block headers :=
  ⟨List.prefix_refl _, decoded, fun inside _ => inside⟩

/-- A block that cannot be read leaves the table and the journal as its longest part does that can
be read. Unless octets are missing, it makes no difference what follows it. If a block that can be
read, and whose size a word can hold, is cut short, the fields of the longest part that can still
be read are the first of the block, the table is as this part leaves it, and octets are all that is
missing after it. -/
theorem decode_failure (table : DynamicTable) (block : Octets) (journal : Journal) :
    (∀ error, (decode table block journal).result = .error error →
      ∃ before failing headers, block = before ++ failing ∧ failing ≠ [] ∧
        LastBoundary table journal block before headers ∧
        (decode table block journal).table = (decode table before journal).table ∧
        (decode table block journal).journal = (decode table before journal).journal ∧
        ((∀ range, error ≠ .range range) → ∀ later,
          decode table (block ++ later) journal = decode table block journal)) ∧
    ∀ headers, (decode table block journal).result = .ok headers → block.length < wordLimit →
      ∀ part, part <+: block →
        ∃ before shown, LastBoundary table journal part before shown ∧ shown <+: headers ∧
          (decode table part journal).table = (decode table before journal).table ∧
          ((decode table part journal).result = .ok shown ∨
            ∃ offset length, (decode table part journal).result =
              .error (.range (.outOfRange offset length part.length))) := by
  constructor
  · intro error failed
    obtain ⟨before, failing, headers, stops⟩ := exists_stopsAt failed
    refine ⟨before, failing, headers, stops.split, stops.occupied, stops.lastBoundary, ?_, ?_,
      stops.decode_append_of_not_range⟩
    · rw [stops.decode_eq]
    · rw [stops.decode_eq]
  · rintro headers decoded small part ⟨later, rfl⟩
    cases result : (decode table part journal).result with
    | ok shown =>
      exact ⟨part, shown, lastBoundary_of_decoded result,
        prefix_of_decode_append result decoded, rfl, Or.inl rfl⟩
    | error error =>
      obtain ⟨before, failing, shown, stops⟩ := exists_stopsAt result
      obtain ⟨offset, length, rfl⟩ := stops.error_of_cut decoded small
      refine ⟨before, shown, stops.lastBoundary, ?_, ?_, Or.inr ⟨offset, length, rfl⟩⟩
      · rw [stops.split, List.append_assoc] at decoded
        exact prefix_of_decode_append stops.decoded decoded
      · rw [stops.decode_eq]

/-- A block that adds a field, uses it and goes on with a field that is not added. -/
def mixedBlock : Octets := addingBlock ++ [0xbe, 0x00, 1, 0x61, 1, 0x62]

theorem decode_failure_mixedBlock :
    let etag : Header := ⟨Ascii.octets "etag", Ascii.octets "abc"⟩
    (∃ before failing headers, addingBlock ++ brokenBlock = before ++ failing ∧ failing ≠ [] ∧
      LastBoundary (.empty 4096) .silent (addingBlock ++ brokenBlock) before headers ∧
      (decode (.empty 4096) before .silent).table = .empty 1) ∧
    ∃ before shown, LastBoundary (.empty 4096) .silent mixedBlock.dropLast before shown ∧
      shown <+: [etag, etag, ⟨Ascii.octets "a", Ascii.octets "b"⟩] ∧
      (decode (.empty 4096) before .silent).table = DynamicTable.add etag (.empty 4096) := by
  intro etag
  constructor
  · cases failed : (decode (.empty 4096) (addingBlock ++ brokenBlock) .silent).result with
    | ok headers =>
      have failing : (decode (.empty 4096) (addingBlock ++ brokenBlock) .silent).result.toOption =
          none := by decide +kernel
      rw [failed] at failing
      cases failing
    | error error =>
      obtain ⟨before, failing, headers, split, occupied, boundary, table, _⟩ :=
        (decode_failure (.empty 4096) (addingBlock ++ brokenBlock) .silent).1 error failed
      exact ⟨before, failing, headers, split, occupied, boundary,
        table.symm.trans (by decide +kernel)⟩
  · have decoded : (decode (.empty 4096) mixedBlock .silent).result.toOption =
        some [etag, etag, ⟨Ascii.octets "a", Ascii.octets "b"⟩] := by decide +kernel
    cases found : (decode (.empty 4096) mixedBlock .silent).result with
    | error error =>
      rw [found] at decoded
      cases decoded
    | ok headers =>
      rw [found] at decoded
      obtain ⟨before, shown, boundary, first, table, _⟩ :=
        (decode_failure (.empty 4096) mixedBlock .silent).2 headers found (by decide)
          mixedBlock.dropLast (List.dropLast_prefix _)
      rw [Option.some.inj decoded] at first
      exact ⟨before, shown, boundary, first, table.symm.trans (by decide +kernel)⟩

end WebFetch.Hpack
