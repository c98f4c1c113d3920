/-
This file is about the texts from which the numbers of a response are read: the status, the length
of the body, and the sizes of chunks. In every response that is handed out they are digits, or a
sign and digits. A text without a sign is what the grammar of messages asks for, and as a status it
is read by the rule of sessions, which knows no sign, to the same number.
-/

import Mathlib.Data.List.Basic
import WebFetch.Proofs.Message.Framing
import WebFetch.Proofs.Message.Limits
import WebFetch.Session.Response

namespace WebFetch

open Message (lineEnd headEnd)

/-! ### Numbers of a response -/

/-- What a number in a response tells. -/
inductive Number where
  | status
  /-- How many octets the body has. -/
  | length
  | chunkSize
  deriving DecidableEq, Repr

namespace Number

/-- Whether a character is a digit of the number. -/
def isDigit : Number → Char → Bool
  | .chunkSize => Numeral.isHexDigit
  | _ => Char.isDigit

/-- Whether a text is digits of the number: at least one, and three of them in a status. -/
def IsDigits (number : Number) (text : List Char) : Prop :=
  text ≠ [] ∧ text.all number.isDigit = true ∧ (number = .status → text.length = 3)

/-- Whether a text is a plus sign and digits of the number: at least one, and two of them in a
status. -/
def IsSigned (number : Number) (text : List Char) : Prop :=
  ∃ digits, text = '+' :: digits ∧ digits ≠ [] ∧ digits.all number.isDigit = true ∧
    (number = .status → text.length = 3)

instance (number : Number) (text : List Char) : Decidable (number.IsDigits text) :=
  inferInstanceAs (Decidable (_ ∧ _ ∧ _))

end Number

/-- Whether a text is one of those that sizes are read from while octets are decoded: what precedes
an extension in a size line, without blanks around it. -/
inductive Chunked.ReadsSize : (octets : Octets) → (text : List Char) → Prop
  | here {octets line after : Octets} {text : List Char}
    (found : cut lineEnd octets = some (line, after)) (decoded : Utf8.decode? line = some text) :
    ReadsSize octets (trim (cutOptional [';'] text).1)
  | later {octets line chunk after : Octets} {text : List Char}
    (found : cut lineEnd octets = some (line, chunk ++ (lineEnd ++ after)))
    (size : size? line = some chunk.length) (some : chunk ≠ []) (further : ReadsSize after text) :
    ReadsSize octets text

/-- Whether a number of a response is read from a text: the second part of the first line, without
the spaces around it, the first length where the body has one, or a text that a size is read from
where the body is chunked. -/
inductive Number.ReadFrom (octets : Octets) : Number → (text : List Char) → Prop
  | status {headOctets behind lineOctets : Octets} {line text : List Char}
    (found : cut headEnd octets = some (headOctets, behind))
    (first : (split lineEnd headOctets).head? = some lineOctets)
    (decoded : Utf8.decode? lineOctets = some line)
    (second : (split [' '] line)[1]? = some text) : ReadFrom octets .status text
  | length {headOctets behind : Octets} {head : Head} {length : Nat} {value : String}
    (found : cut headEnd octets = some (headOctets, behind))
    (parsed : Head.parse headOctets = .ok head)
    (framed : Framing.ofFields head.status head.fields = .ok (.contentLength length))
    (field : Field.lookup head.fields "content-length" = some value) :
    ReadFrom octets .length (trim value.toList)
  | chunkSize {headOctets behind : Octets} {head : Head} {text : List Char}
    (found : cut headEnd octets = some (headOctets, behind))
    (parsed : Head.parse headOctets = .ok head)
    (framed : Framing.ofFields head.status head.fields = .ok .chunked)
    (size : Chunked.ReadsSize behind text) : ReadFrom octets .chunkSize text

namespace Number

/-! ### Digits and signs -/

/-- The radix in which the number is written. -/
def radix : Number → Nat
  | .chunkSize => 16
  | _ => 10

theorem isDigit_eq (number : Number) (character : Char) :
    number.isDigit character = (Numeral.digit? number.radix character).isSome := by
  cases number with
  | status => exact (Numeral.isSome_digit?_ten character).symm
  | length => exact (Numeral.isSome_digit?_ten character).symm
  | chunkSize => exact (Numeral.isSome_digit?_sixteen character).symm

/-- What is read as a number is digits, or a sign and digits. -/
theorem isDigits_or_isSigned {number : Number} {bound value : Nat} {text : List Char}
    (found : Numeral.parse number.radix bound text = .ok value)
    (three : number = .status → text.length = 3) :
    number.IsDigits text ∨ number.IsSigned text := by
  obtain ⟨digits, some, same, read⟩ := Numeral.exists_digits_of_parse found
  have all : digits.all number.isDigit = true := by
    rw [List.all_eq_true]
    intro character member
    rw [isDigit_eq]
    exact Numeral.forall_mem_of_extend read character member
  rcases same with rfl | rfl
  · exact Or.inl ⟨some, all, three⟩
  · exact Or.inr ⟨digits, rfl, some, all, three⟩

/-- Digits do not begin with a sign. -/
theorem isDigits_iff {number : Number} {text : List Char}
    (read : number.IsDigits text ∨ number.IsSigned text) :
    number.IsDigits text ↔ text.head? ≠ some '+' := by
  constructor
  · rintro ⟨_, digits, _⟩ sign
    have isDigit := List.all_eq_true.mp digits '+' (List.mem_of_head? sign)
    cases number <;> exact absurd isDigit (by decide)
  · intro unsigned
    rcases read with digits | ⟨digits, rfl, _⟩
    · exact digits
    · exact absurd rfl unsigned

end Number

/-! ### Texts that are read -/

/-- What is read as a head begins with a status line. -/
theorem Head.exists_line_of_parse {octets lineOctets : Octets} {head : Head}
    (parsed : Head.parse octets = .ok head)
    (first : (split lineEnd octets).head? = some lineOctets) :
    ∃ line, Utf8.decode? lineOctets = some line ∧
      parseStatusLine line = .ok (head.version, head.status, head.reason) := by
  obtain ⟨others, pieces⟩ := List.head?_eq_some_iff.mp first
  rw [Head.parse, pieces, List.mapM_cons] at parsed
  cases decoded : Utf8.decode? lineOctets with
  | none =>
    rw [decoded] at parsed
    cases parsed
  | some line =>
    rw [decoded] at parsed
    match further : others.mapM Utf8.decode? with
    | none =>
      rw [further] at parsed
      cases parsed
    | some lines =>
      rw [further] at parsed
      obtain ⟨⟨version, status, reason⟩, found, parsed⟩ := exists_ok_of_bind parsed
      obtain ⟨fields, _, parsed⟩ := exists_ok_of_bind parsed
      cases parsed
      exact ⟨line, rfl, found⟩

/-- The second part of a status line is read as the status. -/
theorem Head.exists_status_of_parseStatusLine {line : List Char} {version reason : String}
    {status : UInt16} (found : parseStatusLine line = .ok (version, status, reason)) :
    ∃ text value, (split [' '] line)[1]? = some text ∧ text.length = 3 ∧
      Numeral.parse 10 wordLimit16 text = .ok value ∧ status = UInt16.ofNat value := by
  unfold parseStatusLine at found
  match cutAt : cut [' '] line with
  | none =>
    have uncut : cutOptional [' '] line = (line, none) := by rw [cutOptional, cutAt]
    rw [uncut] at found
    cases found
  | some (before, after) =>
    have parts : cutOptional [' '] line = (before, some after) := by rw [cutOptional, cutAt]
    have second : (split [' '] line)[1]? = some (cutOptional [' '] after).1 := by
      rw [split_of_cut cutAt, List.getElem?_cons_succ, ← List.head?_eq_getElem?, head?_split]
    rw [parts] at found
    dsimp only at found
    split at found
    · cases found
    · rename_i accepted
      split at found
      · cases found
      · rename_i value read
        cases found
        rw [not_or, Decidable.not_not, Decidable.not_not] at accepted
        exact ⟨_, value, second, accepted.2, read, rfl⟩

/-- The first length is the one that is read. -/
theorem Framing.denotes_of_ofFields {status : UInt16} {fields : List Field} {length : Nat}
    {value : String} (framed : ofFields status fields = .ok (.contentLength length))
    (field : Field.lookup fields "content-length" = some value) : Denotes value length := by
  cases bodied : isBodiless status with
  | true =>
    rw [ofFields, if_pos bodied] at framed
    cases framed
  | false =>
    have decided := decided_ofFields bodied fields
    rw [framed] at decided
    cases decided with
    | measured first later _ uncoded isFirst denotes =>
      have lengths : lengths fields = Field.values fields "content-length" := rfl
      rw [Field.lookup_eq_head?, ← lengths, isFirst] at field
      cases field
      exact denotes

/-- A coding begins with a size line. -/
theorem Chunked.Codes.exists_size {octets body : Octets} (codes : Codes octets body) :
    ∃ line after size, cut lineEnd octets = some (line, after) ∧ size? line = some size := by
  cases codes with
  | last found size trailer => exact ⟨_, _, _, found, size⟩
  | chunk found size some rest => exact ⟨_, _, _, found, size⟩

/-- All sizes in the coding of a body are numbers. -/
theorem Chunked.exists_number_of_readsSize {octets body : Octets} {text : List Char}
    (codes : Codes octets body) (reads : ReadsSize octets text) :
    ∃ size, Numeral.parse 16 wordLimit text = .ok size := by
  induction reads generalizing body with
  | here found decoded =>
    obtain ⟨line, after, size, same, sized⟩ := codes.exists_size
    cases found.symm.trans same
    obtain ⟨text, sameText, read⟩ := size?_eq_some_iff.mp sized
    cases decoded.symm.trans sameText
    exact ⟨size, read⟩
  | @later octets line chunk after text found size some further inductionHypothesis =>
    cases codes with
    | last same zero trailer =>
      cases found.symm.trans same
      exact absurd (List.length_eq_zero_iff.mp (Option.some.inj (size.symm.trans zero))) some
    | @chunk _ _ other _ _ same sameSize _ rest =>
      obtain ⟨rfl, sameBehind⟩ := Prod.mk.inj (Option.some.inj (found.symm.trans same))
      have length : chunk.length = other.length := Option.some.inj (size.symm.trans sameSize)
      obtain ⟨rfl, sameAfter⟩ := List.append_inj sameBehind length
      obtain rfl := List.append_cancel_left sameAfter
      exact inductionHypothesis rest

/-! ### The status of sessions -/

section

variable {character : Char} (isDigit : character.isDigit = true)

include isDigit

theorem Ascii.toNat_octet_of_isDigit :
    (Ascii.octet character).toNat = character.toNat ∧
      48 ≤ character.toNat ∧ character.toNat ≤ 57 := by
  simp only [Char.isDigit, Bool.and_eq_true, decide_eq_true_eq, ge_iff_le,
    UInt32.le_iff_toNat_le] at isDigit
  have code : 48 ≤ character.toNat ∧ character.toNat ≤ 57 := isDigit
  exact ⟨Nat.mod_eq_of_lt (by omega), code⟩

theorem Session.isDigit_octet : Session.isDigit (Ascii.octet character) = true := by
  obtain ⟨same, code⟩ := Ascii.toNat_octet_of_isDigit isDigit
  rw [Session.isDigit, decide_eq_true_eq, UInt8.le_iff_toNat_le, UInt8.le_iff_toNat_le, same]
  exact code

theorem Utf8.encodeCharacter_of_isDigit : encodeCharacter character = [Ascii.octet character] := by
  obtain ⟨_, code⟩ := Ascii.toNat_octet_of_isDigit isDigit
  rw [encodeCharacter, if_pos (by omega)]
  rfl

end

/-- Digits are octets of their own. -/
theorem Utf8.encodeAll_of_digits {text : List Char} (digits : text.all Char.isDigit = true) :
    encodeAll text = text.map Ascii.octet := by
  induction text with
  | nil => rfl
  | cons character rest inductionHypothesis =>
    rw [List.all_cons, Bool.and_eq_true] at digits
    rw [encodeAll, List.flatMap_cons, encodeCharacter_of_isDigit digits.1, List.map_cons,
      ← inductionHypothesis digits.2]
    rfl

/-- A field with the name of the status is read as one exactly if it is three digits. -/
theorem Session.parseStatus_singleton (value : Octets) :
    parseStatus [⟨statusName, value⟩] =
      if value.length = 3 ∧ value.all isDigit = true then
        .ok (UInt16.ofNat (value.foldl (fun status digit => status * 10 + (digit.toNat - 0x30)) 0))
      else .error (.invalidStatus (Utf8.lossyText value)) := by
  have found : [(⟨statusName, value⟩ : Header)].find? (fun header => header.name == statusName) =
      some ⟨statusName, value⟩ :=
    List.find?_cons_of_pos (beq_self_eq_true statusName)
  rw [parseStatus, found]

/-- A status of three characters is read by the rule of sessions, to the same number, exactly if
they are digits. -/
theorem Number.isDigits_iff_parseStatus {text : List Char} {value : Nat}
    (three : text.length = 3) (read : Numeral.parse 10 wordLimit16 text = .ok value) :
    Number.status.IsDigits text ↔
      Session.parseStatus [⟨Session.statusName, Utf8.encodeAll text⟩] =
        .ok (UInt16.ofNat value) := by
  have kinds := @isDigits_or_isSigned .status _ _ _ read fun _ => three
  rw [Session.parseStatus_singleton]
  constructor
  · rintro ⟨some, digits, _⟩
    have isDigit : ∀ character ∈ text, character.isDigit = true := List.all_eq_true.mp digits
    have all : (text.map Ascii.octet).all Session.isDigit = true := by
      rw [List.all_map, List.all_eq_true]
      exact fun character member => Session.isDigit_octet (isDigit character member)
    have same : value = (text.map Ascii.octet).foldl
        (fun status digit => status * 10 + (digit.toNat - 0x30)) 0 := by
      obtain ⟨_, _, rfl | rfl, extended⟩ := Numeral.exists_digits_of_parse read
      · rw [Numeral.eq_foldl_of_extend extended, List.foldl_map]
        refine List.foldl_ext _ _ _ fun number character member => ?_
        rw [(Ascii.toNat_octet_of_isDigit (isDigit character member)).1]
      · exact absurd (isDigit '+' List.mem_cons_self) (by decide)
    rw [Utf8.encodeAll_of_digits digits, if_pos ⟨(List.length_map _).trans three, all⟩, ← same]
  · intro accepted
    rcases kinds with digits | ⟨digits, rfl, _⟩
    · exact digits
    · split at accepted
      · rename_i isStatus
        exact absurd isStatus.2 nofun
      · cases accepted

namespace Receiver

/-! ### Numbers of responses -/

/-- A response that is handed out has the head that ends first, and a body that is coded behind the
head if the head says so. -/
theorem exists_parts_of_make {receiver : Receiver} {call : Call} {response : Response}
    (handed : (call.make receiver).1.response? = some response) :
    ∃ headOctets behind head framing, cut headEnd receiver.gathered = some (headOctets, behind) ∧
      Head.parse headOctets = .ok head ∧ Framing.ofFields head.status head.fields = .ok framing ∧
      response = head.withBody response.body ∧
      (framing = .chunked → Chunked.Codes behind response.body) := by
  rcases found_of_make handed with ⟨_, found⟩ | ⟨_, found⟩
  · obtain ⟨headOctets, behind, head, framing, cutAt, parsed, framed, same, bodyFound⟩ :=
      exists_parts_of_response? found
    refine ⟨headOctets, behind, head, framing, cutAt, parsed, framed, same, ?_⟩
    rintro rfl
    rw [body?, eq_of_cut headEnd_ne_nil cutAt, ← List.length_append, List.drop_left] at bodyFound
    exact Chunked.codes_of_decode bodyFound
  · obtain ⟨headOctets, behind, head, cutAt, parsed, framed, rfl⟩ :=
      exists_parts_of_lastResponse found
    exact ⟨headOctets, behind, head, .untilClose, cutAt, parsed, framed, rfl, nofun⟩

/-- Every number of a response that is handed out is read from digits, or from a sign and digits,
and the sign tells these apart. The status is read from three characters; the rule of sessions reads
it, to the same status, exactly if they are digits. -/
theorem numbers_of_response {receiver : Receiver} {call : Call} {response : Response}
    (handed : (call.make receiver).1.response? = some response) :
    (∃ text, Number.ReadFrom receiver.gathered .status text) ∧
    ∀ number text, Number.ReadFrom receiver.gathered number text →
      (number.IsDigits text ∨ number.IsSigned text) ∧
      (number.IsDigits text ↔ text.head? ≠ some '+') ∧
      (number = .status → (number.IsDigits text ↔
        Session.parseStatus [⟨Session.statusName, Utf8.encodeAll text⟩] =
          .ok response.status)) := by
  obtain ⟨headOctets, behind, head, framing, cutAt, parsed, framed, same, codes⟩ :=
    exists_parts_of_make handed
  obtain ⟨lineOctets, first⟩ : ∃ lineOctets, (split lineEnd headOctets).head? = some lineOctets :=
    ⟨_, head?_split lineEnd headOctets⟩
  obtain ⟨line, decoded, found⟩ := Head.exists_line_of_parse parsed first
  obtain ⟨text, value, second, three, read, status⟩ := Head.exists_status_of_parseStatusLine found
  have sameStatus : response.status = head.status := by rw [same]; rfl
  refine ⟨⟨text, .status cutAt first decoded second⟩, fun number other reads => ?_⟩
  suffices kinds : (number.IsDigits other ∨ number.IsSigned other) ∧
      (number = .status → (number.IsDigits other ↔
        Session.parseStatus [⟨Session.statusName, Utf8.encodeAll other⟩] =
          .ok response.status)) from
    ⟨kinds.1, Number.isDigits_iff kinds.1, kinds.2⟩
  cases reads with
  | status sameCut sameFirst sameDecoded sameSecond =>
    cases cutAt.symm.trans sameCut
    cases first.symm.trans sameFirst
    cases decoded.symm.trans sameDecoded
    cases second.symm.trans sameSecond
    refine ⟨@Number.isDigits_or_isSigned .status _ _ _ read fun _ => three, fun _ => ?_⟩
    rw [sameStatus, status]
    exact Number.isDigits_iff_parseStatus three read
  | length sameCut sameParsed sameFramed field =>
    cases cutAt.symm.trans sameCut
    cases parsed.symm.trans sameParsed
    have read := Framing.denotes_of_ofFields sameFramed field
    exact ⟨@Number.isDigits_or_isSigned .length _ _ _ read nofun, nofun⟩
  | chunkSize sameCut sameParsed sameFramed size =>
    cases cutAt.symm.trans sameCut
    cases parsed.symm.trans sameParsed
    cases framed.symm.trans sameFramed
    obtain ⟨_, read⟩ := Chunked.exists_number_of_readsSize (codes rfl) size
    exact ⟨@Number.isDigits_or_isSigned .chunkSize _ _ _ read nofun, nofun⟩

/-- Responses in which one number has a sign. -/
def signedResponse : Number → Octets
  | .status => Ascii.octets "HTTP/1.1 +20 OK\r\n\r\n"
  | .length => Ascii.octets "HTTP/1.1 200 OK\r\nContent-Length: +5\r\n\r\nHello"
  | .chunkSize => Ascii.octets
      "HTTP/1.1 200 OK\r\nTransfer-Encoding: chunked\r\n\r\n+5\r\nHello\r\n0\r\n\r\n"

/-- What is handed out for them. -/
def signedAnswer : Number → Response
  | .status => ⟨"HTTP/1.1", 20, "OK", [], []⟩
  | .length => ⟨"HTTP/1.1", 200, "OK", [⟨"Content-Length", "+5"⟩], Ascii.octets "Hello"⟩
  | .chunkSize =>
    ⟨"HTTP/1.1", 200, "OK", [⟨"Transfer-Encoding", "chunked"⟩], Ascii.octets "Hello"⟩

/-- The text with the sign. -/
def signedText : Number → List Char
  | .status => "+20".toList
  | _ => "+5".toList

theorem response?_signedResponse (number : Number) :
    (Call.next.make ⟨.default, signedResponse number⟩).1.response? =
      some (signedAnswer number) := by
  cases number <;> decide +kernel

theorem readFrom_signedResponse (number : Number) :
    Number.ReadFrom (signedResponse number) number (signedText number) := by
  cases number with
  | status =>
    exact .status (by decide +kernel : _ = some (Ascii.octets "HTTP/1.1 +20 OK", []))
      (by decide +kernel : _ = some (Ascii.octets "HTTP/1.1 +20 OK"))
      (by decide +kernel : _ = some "HTTP/1.1 +20 OK".toList) (by decide +kernel)
  | length =>
    exact @Number.ReadFrom.length _ (Ascii.octets "HTTP/1.1 200 OK\r\nContent-Length: +5")
      (Ascii.octets "Hello") ⟨"HTTP/1.1", 200, "OK", [⟨"Content-Length", "+5"⟩]⟩ 5 "+5"
      (by decide +kernel) (by decide +kernel) (by decide +kernel) (by decide +kernel)
  | chunkSize =>
    exact @Number.ReadFrom.chunkSize _
      (Ascii.octets "HTTP/1.1 200 OK\r\nTransfer-Encoding: chunked")
      (Ascii.octets "+5\r\nHello\r\n0\r\n\r\n")
      ⟨"HTTP/1.1", 200, "OK", [⟨"Transfer-Encoding", "chunked"⟩]⟩ "+5".toList
      (by decide +kernel) (by decide +kernel) (by decide +kernel)
      (@Chunked.ReadsSize.here _ (Ascii.octets "+5") (Ascii.octets "Hello\r\n0\r\n\r\n")
        "+5".toList (by decide +kernel) (by decide +kernel))

/-- A sign is read in each kind of number, and in a status it is what the rule of sessions
refuses. -/
theorem numbers_of_response_signedResponse :
    (∀ number, (Call.next.make ⟨.default, signedResponse number⟩).1.response? =
        some (signedAnswer number) ∧
      Number.ReadFrom (signedResponse number) number (signedText number) ∧
      (number.IsDigits (signedText number) ∨ number.IsSigned (signedText number)) ∧
      ¬ number.IsDigits (signedText number)) ∧
    (signedAnswer .status).status = 20 ∧
    Session.parseStatus [⟨Session.statusName, Utf8.encodeAll (signedText .status)⟩] ≠ .ok 20 := by
  have each (number : Number) := (numbers_of_response (response?_signedResponse number)).2 number
    (signedText number) (readFrom_signedResponse number)
  have signed (number : Number) : ¬ number.IsDigits (signedText number) := fun digits =>
    (each number).2.1.mp digits (by cases number <;> rfl)
  exact ⟨fun number => ⟨response?_signedResponse number, readFrom_signedResponse number,
      (each number).1, signed number⟩, rfl,
    fun same => signed .status (((each .status).2.2 rfl).mpr same)⟩

/-- No kind of number is always digits in a response that is handed out. -/
theorem not_isDigits_of_response :
    ¬ ∃ number : Number, ∀ (receiver : Receiver) (call : Call) (response : Response),
      (call.make receiver).1.response? = some response →
        ∀ text, Number.ReadFrom receiver.gathered number text → number.IsDigits text := by
  rintro ⟨number, digits⟩
  have inText := digits _ _ _ (response?_signedResponse number) _ (readFrom_signedResponse number)
  cases number <;> exact absurd inText (by decide)

end Receiver

end WebFetch
