/-
This file is about requests as they are written. A request is one request if it consists of the
line that asks for a target, a line for the host, one for each field, and an empty line. The host of
a URL that was read can always stand in its line. The path and the query may hold spaces and line
ends, and the request is one exactly if they do not.
-/

import Mathlib.Algebra.Ring.Nat
import WebFetch.Proofs.Message.Head
import WebFetch.Proofs.Url.Characters

namespace WebFetch.Message

/-! ### Requests -/

/-- Whether octets can be a line: there are some, and none of them belongs to the end of a line. -/
structure IsLine (octets : Octets) : Prop where
  occupied : octets ≠ []
  unbroken : ∀ octet ∈ lineEnd, octet ∉ octets

/-- Lines with the end of each. -/
def ended (lines : List Octets) : Octets := lines.flatMap (· ++ lineEnd)

/-- Whether octets are one request for a target with a number of fields. -/
def IsRequest (target : String) (count : Nat) (octets : Octets) : Prop :=
  ∃ first others, octets = ended (first :: others) ++ lineEnd ∧ others.length = 1 + count ∧
    (∀ line ∈ first :: others, IsLine line) ∧
    split [0x20] first = ["GET", target, "HTTP/1.1"].map Utf8.encode

/-- The line that asks for a target. -/
def targetLine (target : String) : String := "GET " ++ target ++ " HTTP/1.1"

/-- The lines after it. -/
def otherLines (host : String) (fields : List Field) : List String :=
  ("Host: " ++ host) :: fields.map Field.line

theorem request_eq (target host : String) (fields : List Field) :
    request target host fields =
      ended ((targetLine target :: otherLines host fields).map Utf8.encode) ++ lineEnd := by
  simp only [request, ended, targetLine, otherLines, List.map_cons, List.map_map,
    List.flatMap_cons, List.flatMap_map, line, List.append_assoc]
  rfl

/-! ### Lines -/

/-- Whether a text can stand in a line. -/
def Unbroken (text : String) : Prop := '\r' ∉ text.toList ∧ '\n' ∉ text.toList

instance (text : String) : Decidable (Unbroken text) := inferInstanceAs (Decidable (_ ∧ _))

theorem unbroken_append {first second : String} :
    Unbroken (first ++ second) ↔ Unbroken first ∧ Unbroken second := by
  simp only [Unbroken, String.toList_append, List.mem_append, not_or]
  exact and_and_and_comm

theorem unbroken_encode_iff (text : String) :
    (∀ octet ∈ lineEnd, octet ∉ Utf8.encode text) ↔ Unbroken text := by
  have return_iff : (0x0d : UInt8) ∈ Utf8.encode text ↔ '\r' ∈ text.toList :=
    Utf8.mem_encode_iff (by decide) text
  have feed_iff : (0x0a : UInt8) ∈ Utf8.encode text ↔ '\n' ∈ text.toList :=
    Utf8.mem_encode_iff (by decide) text
  rw [lineEnd, List.forall_mem_cons, List.forall_mem_singleton, return_iff, feed_iff, Unbroken]

theorem isLine_encode {text : String} (occupied : text.toList ≠ []) (unbroken : Unbroken text) :
    IsLine (Utf8.encode text) :=
  ⟨Utf8.encode_ne_nil occupied, (unbroken_encode_iff text).mpr unbroken⟩

/-- Every line has one end, so the octets of ends are counted by the lines. -/
theorem count_ended {octet : UInt8} (ends : octet ∈ lineEnd) (lines : List Octets) :
    (ended lines).count octet = (lines.map (List.count octet)).sum + lines.length := by
  have different : lineEnd.Nodup := by decide
  have once : lineEnd.count octet = 1 := different.count.trans (if_pos ends)
  induction lines with
  | nil => rfl
  | cons line lines inductionHypothesis =>
    rw [ended] at inductionHypothesis ⊢
    rw [List.flatMap_cons, List.count_append, List.count_append, inductionHypothesis, once,
      List.map_cons, List.sum_cons, List.length_cons]
    omega

/-- As many texts as there are lines do not break these lines. -/
theorem unbroken_of_ended {texts lines : List Octets} (same : ended texts = ended lines)
    (count : texts.length = lines.length) (isLine : ∀ line ∈ lines, IsLine line) :
    ∀ text ∈ texts, ∀ octet ∈ lineEnd, octet ∉ text := by
  intro text member octet ends inText
  have counts := congrArg (List.count octet) same
  rw [count_ended ends, count_ended ends, count] at counts
  have none : (lines.map (List.count octet)).sum = 0 :=
    List.sum_eq_zero_iff_forall_eq_nat.mpr <| List.forall_mem_map.mpr fun line inLines =>
      List.count_eq_zero.mpr ((isLine line inLines).unbroken octet ends)
  have some : 0 < (texts.map (List.count octet)).sum :=
    List.sum_pos_iff_exists_pos_nat.mpr
      ⟨_, List.mem_map_of_mem member, List.count_pos_iff.mpr inText⟩
  omega

/-- The first line ends where the first of its ends stands. -/
theorem head_eq_of_ended {text line : Octets} {texts lines : List Octets}
    (same : ended (text :: texts) = ended (line :: lines))
    (textUnbroken : ∀ octet ∈ lineEnd, octet ∉ text)
    (lineUnbroken : ∀ octet ∈ lineEnd, octet ∉ line) : text = line := by
  have first : (0x0d : UInt8) ∈ lineEnd := List.mem_cons_self
  have cuts := congrArg (cut lineEnd) same
  rw [ended, ended, List.flatMap_cons, List.flatMap_cons, List.append_assoc, List.append_assoc,
    cut_of_not_mem rfl (textUnbroken _ first), cut_of_not_mem rfl (lineUnbroken _ first)] at cuts
  exact congrArg Prod.fst (Option.some.inj cuts)

/-! ### The line that asks for a target -/

theorem unbroken_targetLine (target : String) : Unbroken (targetLine target) ↔ Unbroken target := by
  have before : Unbroken "GET " := by decide
  have after : Unbroken " HTTP/1.1" := by decide
  rw [targetLine, unbroken_append, unbroken_append, and_iff_left after, and_iff_right before]

theorem space_mem_encode_iff (text : String) :
    (0x20 : UInt8) ∈ Utf8.encode text ↔ ' ' ∈ text.toList :=
  Utf8.mem_encode_iff (by decide) text

/-- The line splits into its three parts if the target has no space. -/
theorem split_targetLine {target : String} (spaceless : ' ' ∉ target.toList) :
    split [0x20] (Utf8.encode (targetLine target)) =
      ["GET", target, "HTTP/1.1"].map Utf8.encode := by
  have joined : Utf8.encode (targetLine target) =
      List.intercalate [0x20] (["GET", target, "HTTP/1.1"].map Utf8.encode) := by
    have get : Utf8.encode "GET " = Utf8.encode "GET" ++ [0x20] := by decide
    have version : Utf8.encode " HTTP/1.1" = [0x20] ++ Utf8.encode "HTTP/1.1" := by decide
    rw [targetLine, Utf8.encode_append, Utf8.encode_append, get, version]
    simp only [List.map_cons, List.map_nil, List.intercalate_cons_cons,
      List.intercalate_singleton, List.append_assoc]
  rw [joined]
  refine split_intercalate rfl (by simp) (List.forall_mem_map.mpr fun text member => ?_)
  rw [space_mem_encode_iff]
  simp only [List.mem_cons, List.not_mem_nil, or_false] at member
  rcases member with rfl | rfl | rfl
  · decide
  · exact spaceless
  · decide

/-! ### Requests for what a URL names -/

/-- Whether a target can stand in its line. -/
def FitsLine (target : String) : Prop := ' ' ∉ target.toList ∧ Unbroken target

instance (target : String) : Decidable (FitsLine target) := inferInstanceAs (Decidable (_ ∧ _))

section

variable {target host : String} {fields : List Field}

theorem length_otherLines (host : String) (fields : List Field) :
    (otherLines host fields).length = 1 + fields.length := by
  rw [otherLines, List.length_cons, List.length_map, Nat.add_comm]

/-- The lines after the first can be lines. -/
theorem isLine_of_mem_otherLines (hostUnbroken : Unbroken host)
    (fieldsUnbroken : ∀ field ∈ fields, Unbroken field.name ∧ Unbroken field.value) :
    ∀ text ∈ otherLines host fields, IsLine (Utf8.encode text) := by
  refine List.forall_mem_cons.mpr
    ⟨isLine_encode ?_ ?_, List.forall_mem_map.mpr fun field member => ?_⟩
  · simp
  · exact unbroken_append.mpr ⟨by decide, hostUnbroken⟩
  · obtain ⟨name, value⟩ := fieldsUnbroken field member
    refine isLine_encode (by simp [Field.toList_line]) ?_
    exact unbroken_append.mpr ⟨unbroken_append.mpr ⟨name, by decide⟩, value⟩

/-- If the host and the fields can stand in their lines, a request is one request exactly if its
target can stand in its line. -/
theorem isRequest_iff (hostUnbroken : Unbroken host)
    (fieldsUnbroken : ∀ field ∈ fields, Unbroken field.name ∧ Unbroken field.value) :
    IsRequest target fields.length (request target host fields) ↔ FitsLine target := by
  rw [request_eq, List.map_cons]
  constructor
  · rintro ⟨first, others, same, count, isLine, parts⟩
    have lines := List.append_cancel_right same
    have unbroken := unbroken_of_ended lines
      (by simp [length_otherLines, count]) isLine _ List.mem_cons_self
    have head := head_eq_of_ended lines unbroken (isLine first List.mem_cons_self).unbroken
    have spaceless : (0x20 : UInt8) ∉ Utf8.encode target :=
      not_mem_of_mem_split first _ (by rw [parts]; simp)
    rw [unbroken_encode_iff, unbroken_targetLine] at unbroken
    exact ⟨fun space => spaceless ((space_mem_encode_iff target).mpr space), unbroken⟩
  · rintro ⟨spaceless, unbroken⟩
    refine ⟨_, _, rfl, ?_, List.forall_mem_cons.mpr ⟨isLine_encode ?_ ?_, ?_⟩,
      split_targetLine spaceless⟩
    · rw [List.length_map, length_otherLines]
    · simp [targetLine]
    · exact (unbroken_targetLine target).mpr unbroken
    · exact List.forall_mem_map.mpr (isLine_of_mem_otherLines hostUnbroken fieldsUnbroken)

end

/-- The authority of a URL that was read can stand in its line. -/
theorem unbroken_authority {input : String} {url : Url} (accepted : Url.parse input = .ok url) :
    Unbroken url.authority := by
  have proper := Url.forall_mem_authority accepted
  exact ⟨fun member => absurd (proper _ member) (by decide),
    fun member => absurd (proper _ member) (by decide)⟩

/-- The target of a URL can stand in its line if what it was read from can, without the blanks at
its ends. -/
theorem fitsLine_target {input : String} {url : Url} (accepted : Url.parse input = .ok url)
    (fits : FitsLine (String.ofList (trim input.toList))) : FitsLine url.target := by
  have absent {character : Char} (noPath : character ≠ '/') (noQuery : character ≠ '?')
      (noText : character ∉ (String.ofList (trim input.toList)).toList) :
      character ∉ url.target.toList := by
    intro member
    rcases Url.mem_of_mem_target accepted member with path | query | text
    · exact noPath path
    · exact noQuery query
    · exact noText (by rwa [String.toList_ofList])
  exact ⟨absent (by decide) (by decide) fits.1, absent (by decide) (by decide) fits.2.1,
    absent (by decide) (by decide) fits.2.2⟩

/-- The request for what an accepted URL names, with fields that can stand in their lines, is one
request exactly if neither the path nor the query holds a space or the octet of a line end. They
hold none if the text of the URL has none but at its ends. -/
theorem request_of_parsed {input : String} {url : Url} (accepted : Url.parse input = .ok url)
    {fields : List Field}
    (fieldsUnbroken : ∀ field ∈ fields, Unbroken field.name ∧ Unbroken field.value) :
    (IsRequest url.target fields.length (request url.target url.authority fields) ↔
        FitsLine url.target) ∧
      (FitsLine (String.ofList (trim input.toList)) → FitsLine url.target) :=
  ⟨isRequest_iff (unbroken_authority accepted) fieldsUnbroken, fitsLine_target accepted⟩

/-- A request for a path and a query, with a field of the caller. -/
theorem request_of_parsed_pathAndQuery :
    let url : Url := ⟨"http", "example.com", some 8080, "/a", some "b=c"⟩
    Url.parse " http://example.com:8080/./a?b=c#d" = .ok url ∧
      IsRequest url.target 1 (request url.target url.authority [⟨"Accept", "*/*"⟩]) := by
  intro url
  have accepted : Url.parse " http://example.com:8080/./a?b=c#d" = .ok url := by decide +kernel
  have asked := @request_of_parsed _ url accepted [⟨"Accept", "*/*"⟩] (by decide)
  exact ⟨accepted, asked.1.mpr (asked.2 (by decide))⟩

/-- Not every accepted URL is asked for with one request: a path can hold a space, and a line end
with a line of its own behind it. -/
theorem not_isRequest_of_parsed :
    ¬ ∀ (input : String) (url : Url), Url.parse input = .ok url → ∀ fields : List Field,
      (∀ field ∈ fields, Unbroken field.name ∧ Unbroken field.value) →
        IsRequest url.target fields.length (request url.target url.authority fields) := by
  intro claimed
  have asked := claimed "http://127.0.0.1/\r\nX-Injected: 1"
    ⟨"http", "127.0.0.1", none, "/\r\nX-Injected: 1", none⟩ (by decide +kernel) [] (by decide)
  exact absurd ((isRequest_iff (by decide) (by decide)).mp asked) (by decide)

end WebFetch.Message
