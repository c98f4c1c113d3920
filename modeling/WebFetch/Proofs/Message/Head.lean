/-
This file is about heads of responses as they are written: a status line and a line for each field,
each with its end, and an empty line. Such a head is found among the octets of the response, and it
is read as what was written.
-/

import WebFetch.Message.Head
import WebFetch.Proofs.Cut
import WebFetch.Proofs.Text.Numeral
import WebFetch.Proofs.Text.Utf8

namespace WebFetch

open Message (lineEnd headEnd)

/-! ### Heads that can be written -/

/-- Whether a field can stand in a line: no line ends in it, its colon is the first, and blanks
around its name and its value do not count. -/
structure Field.Plain (field : Field) : Prop where
  name_unbroken : '\r' ∉ field.name.toList
  name_uncut : ':' ∉ field.name.toList
  name_trimmed : trim field.name.toList = field.name.toList
  value_unbroken : '\r' ∉ field.value.toList
  value_trimmed : trim field.value.toList = field.value.toList

/-- The line of a field, without its end. -/
def Field.line (field : Field) : String := field.name ++ ": " ++ field.value

theorem Field.toList_line (field : Field) :
    field.line.toList = field.name.toList ++ ':' :: ' ' :: field.value.toList := by
  simp [Field.line, String.toList_append]

namespace Head

/-- Whether what precedes the fields of a head can stand in a line. -/
structure PlainStatus (head : Head) : Prop where
  version_protocol : protocol <+: head.version.toList
  version_unbroken : '\r' ∉ head.version.toList
  version_uncut : ' ' ∉ head.version.toList
  status_digits : 100 ≤ head.status.toNat ∧ head.status.toNat ≤ 999
  reason_unbroken : '\r' ∉ head.reason.toList

/-- Whether a head can be written in lines. -/
structure Plain (head : Head) : Prop extends PlainStatus head where
  fields_plain : ∀ field ∈ head.fields, field.Plain

def statusLine (head : Head) : String :=
  head.version ++ " " ++ head.status.toNat.repr ++ " " ++ head.reason

def lines (head : Head) : List String := head.statusLine :: head.fields.map Field.line

/-- The octets of a head, with the empty line after it. -/
def octets (head : Head) : Octets := head.lines.flatMap Message.line ++ lineEnd

/-- The octets of a head up to the end of its last line. -/
def opening (head : Head) : Octets :=
  List.intercalate lineEnd (head.lines.map Utf8.encode)

/-! ### Lines -/

theorem octets_eq (head : Head) : head.octets = head.opening ++ headEnd := by
  have joined : ∀ (line : String) (others : List String),
      (line :: others).flatMap Message.line =
        List.intercalate lineEnd ((line :: others).map Utf8.encode) ++ lineEnd := by
    intro line others
    induction others generalizing line with
    | nil => simp [Message.line]
    | cons next rest inductionHypothesis =>
      rw [List.flatMap_cons, inductionHypothesis next]
      simp only [List.map_cons, List.intercalate_cons_cons, Message.line, List.append_assoc]
  rw [octets, opening, lines, joined, headEnd, List.append_assoc]

theorem toList_statusLine (head : Head) :
    head.statusLine.toList = head.version.toList ++
      ' ' :: (Nat.toDigits 10 head.status.toNat ++ ' ' :: head.reason.toList) := by
  simp [statusLine, String.toList_append, Nat.toList_repr]

theorem lines_proper {head : Head} (plain : head.Plain) :
    ∀ line ∈ head.lines, line.toList ≠ [] ∧ '\r' ∉ line.toList := by
  intro line member
  rcases List.mem_cons.mp member with rfl | isField
  · have digits : '\r' ∉ Nat.toDigits 10 head.status.toNat :=
      Numeral.not_mem_toDigits .ten (by decide) _
    rw [toList_statusLine]
    simp [plain.version_unbroken, plain.reason_unbroken, digits]
  · obtain ⟨field, inHead, rfl⟩ := List.mem_map.mp isField
    have plainField := plain.fields_plain field inHead
    rw [Field.toList_line]
    simp [plainField.name_unbroken, plainField.value_unbroken]

/-- The octets of the lines begin no end of a line. -/
theorem encoded_proper {head : Head} (plain : head.Plain) :
    ∀ line ∈ head.lines.map Utf8.encode, line ≠ [] ∧ (0x0d : UInt8) ∉ line := by
  intro octets member
  obtain ⟨line, inHead, rfl⟩ := List.mem_map.mp member
  obtain ⟨some, unbroken⟩ := lines_proper plain line inHead
  exact ⟨Utf8.encode_ne_nil some, Utf8.not_mem_encodeAll (by decide) unbroken⟩

/-- The first empty line of a written response is the one after its head. -/
theorem cut_octets {head : Head} (plain : head.Plain) (after : Octets) :
    cut headEnd (head.octets ++ after) = some (head.opening, after) := by
  rw [octets_eq, List.append_assoc]
  exact @cut_double_intercalate _ _ _ lineEnd 0x0d rfl (by decide) _ (List.cons_ne_nil _ _)
    (encoded_proper plain) after

/-! ### Reading a head -/

theorem trim_space (text : List Char) : trim (' ' :: text) = trim text := rfl

theorem parseField_line {field : Field} (plain : field.Plain) :
    parseField field.line.toList = .ok field := by
  have found : cut [':'] field.line.toList =
      some (field.name.toList, ' ' :: field.value.toList) := by
    rw [Field.toList_line]
    exact cut_singleton plain.name_uncut _
  rw [parseField, found]
  dsimp only
  rw [trim_space, plain.name_trimmed, plain.value_trimmed, String.ofList_toList,
    String.ofList_toList]

theorem length_toDigits_of_status {status : Nat} (digits : 100 ≤ status ∧ status ≤ 999) :
    (Nat.toDigits 10 status).length = 3 := by
  rw [Nat.toDigits_of_base_le (by decide) (by omega),
    Nat.toDigits_of_base_le (by decide) (by omega), Nat.toDigits_of_lt_base (by omega)]
  rfl

theorem parseStatusLine_statusLine {head : Head} (plain : head.PlainStatus) :
    parseStatusLine head.statusLine.toList = .ok (head.version, head.status, head.reason) := by
  have unspaced : ' ' ∉ Nat.toDigits 10 head.status.toNat :=
    Numeral.not_mem_toDigits .ten (by decide) _
  have versionFound : cutOptional [' '] head.statusLine.toList = (head.version.toList,
      some (Nat.toDigits 10 head.status.toNat ++ ' ' :: head.reason.toList)) := by
    rw [toList_statusLine]
    exact cutOptional_singleton plain.version_uncut _
  have statusFound : cutOptional [' ']
      (Nat.toDigits 10 head.status.toNat ++ ' ' :: head.reason.toList) =
      (Nat.toDigits 10 head.status.toNat, some head.reason.toList) :=
    cutOptional_singleton unspaced _
  have length := length_toDigits_of_status plain.status_digits
  have isProtocol := List.isPrefixOf_iff_prefix.mpr plain.version_protocol
  have number : Numeral.parse 10 wordLimit16 (Nat.toDigits 10 head.status.toNat) =
      .ok head.status.toNat :=
    Numeral.parse_toDigits .ten head.status.toNat_lt
  rw [parseStatusLine, versionFound]
  simp [statusFound, length, isProtocol, number]

theorem mapM_decode? (lines : List String) :
    (lines.map Utf8.encode).mapM Utf8.decode? = some (lines.map String.toList) := by
  induction lines with
  | nil => rfl
  | cons line rest inductionHypothesis =>
    have read : Utf8.decode? (Utf8.encode line) = some line.toList :=
      Utf8.decode?_encodeAll line.toList
    rw [List.map_cons, List.mapM_cons, read, inductionHypothesis]
    rfl

theorem mapM_parseField {fields : List Field} (plain : ∀ field ∈ fields, field.Plain) :
    ((fields.map Field.line).map String.toList).mapM parseField = .ok fields := by
  induction fields with
  | nil => rfl
  | cons field rest inductionHypothesis =>
    have here := parseField_line (plain field List.mem_cons_self)
    have later := inductionHypothesis fun field member =>
      plain field (List.mem_cons_of_mem _ member)
    rw [List.map_cons, List.map_cons, List.mapM_cons, here, later]
    rfl

/-- The lines of a head are read as they were written. -/
theorem ofLines_lines {head : Head} (plain : head.Plain) :
    ofLines (head.lines.map String.toList) = .ok head := by
  have fieldLines : ((head.fields.map Field.line).map String.toList).filter (!·.isEmpty) =
      (head.fields.map Field.line).map String.toList := by
    refine List.filter_eq_self.mpr fun line member => ?_
    obtain ⟨text, isLine, rfl⟩ := List.mem_map.mp member
    have some := (lines_proper plain text (List.mem_cons_of_mem _ isLine)).1
    simpa using some
  rw [lines, List.map_cons, ofLines,
    parseStatusLine_statusLine plain.toPlainStatus]
  simp only [bind, Except.bind]
  rw [fieldLines, mapM_parseField plain.fields_plain]
  rfl

/-- A head is read as it was written. -/
theorem parse_opening {head : Head} (plain : head.Plain) : parse head.opening = .ok head := by
  have proper := encoded_proper plain
  have splits : split lineEnd head.opening = head.lines.map Utf8.encode :=
    @split_intercalate _ _ _ lineEnd 0x0d rfl _ (List.cons_ne_nil _ _)
      fun line member => (proper line member).2
  rw [parse, splits, mapM_decode?]
  exact ofLines_lines plain

end Head

end WebFetch
