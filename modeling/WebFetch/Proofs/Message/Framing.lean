/-
This file says which header fields decide where the body of a response ends. The first field of a
name decides and the others are passed over, so an accepted framing is free of doubt exactly if the
fields that were passed over agree with it.
-/

import WebFetch.Message.Framing

namespace WebFetch

/-- The values of all fields of a name, whatever the case of its letters. -/
def Field.values (fields : List Field) (name : String) : List String :=
  (fields.filter fun field => Ascii.sameIgnoringCase field.name name).map Field.value

/-- The first of them is the one that is looked up. -/
theorem Field.lookup_eq_head? (fields : List Field) (name : String) :
    Field.lookup fields name = (Field.values fields name).head? := by
  rw [Field.lookup, Field.values, List.head?_map, List.head?_filter]

namespace Framing

/-- The transfer codings that fields announce. -/
def codings (fields : List Field) : List String := Field.values fields "transfer-encoding"

/-- The lengths that fields announce. -/
def lengths (fields : List Field) : List String := Field.values fields "content-length"

/-- Whether a value is the chunked coding alone. -/
def IsChunked (value : String) : Prop :=
  Ascii.sameIgnoringCase (String.ofList (trim value.toList)) "chunked" = true

/-- Whether a value is a number of octets. -/
def Denotes (value : String) (length : Nat) : Prop :=
  Numeral.parse 10 wordLimit (trim value.toList) = .ok length

/-! ### The fields that decide -/

/-- What the first field of a name decides, a transfer coding before a length. -/
inductive Decided (fields : List Field) : Except MessageError Framing → Prop where
  | coded (value : String) (later : List String) (first : codings fields = value :: later)
      (chunked : IsChunked value) : Decided fields (.ok .chunked)
  | miscoded (value : String) (later : List String) (first : codings fields = value :: later)
      (other : ¬ IsChunked value) : Decided fields (.error (.unsupportedTransferCoding value))
  | measured (value : String) (later : List String) (length : Nat) (uncoded : codings fields = [])
      (first : lengths fields = value :: later) (denotes : Denotes value length) :
    Decided fields (.ok (.contentLength length))
  | mismeasured (value : String) (later : List String) (uncoded : codings fields = [])
      (first : lengths fields = value :: later) (none : ∀ length, ¬ Denotes value length) :
    Decided fields (.error .invalidContentLength)
  | unannounced (uncoded : codings fields = []) (unmeasured : lengths fields = []) :
    Decided fields (.ok .untilClose)

section

variable {fields : List Field} {value : String} {later : List String}

theorem decided_ofTransferCoding (first : codings fields = value :: later) :
    Decided fields (ofTransferCoding value) := by
  unfold ofTransferCoding
  split
  · rename_i chunked
    exact .coded value later first chunked
  · rename_i other
    exact .miscoded value later first other

theorem decided_ofContentLength (uncoded : codings fields = [])
    (first : lengths fields = value :: later) : Decided fields (ofContentLength value) := by
  unfold ofContentLength
  split
  · rename_i failed
    refine .mismeasured value later uncoded first fun length denotes => ?_
    cases failed.symm.trans denotes
  · rename_i length denotes
    exact .measured value later length uncoded first denotes

end

theorem decided_ofFields {status : UInt16} (bodied : isBodiless status = false)
    (fields : List Field) : Decided fields (ofFields status fields) := by
  have coding : Field.lookup fields "transfer-encoding" = (codings fields).head? :=
    Field.lookup_eq_head? fields _
  have length : Field.lookup fields "content-length" = (lengths fields).head? :=
    Field.lookup_eq_head? fields _
  rw [ofFields, bodied, if_neg Bool.false_ne_true, coding, length]
  cases coded : codings fields with
  | cons value later => exact decided_ofTransferCoding coded
  | nil =>
    cases measured : lengths fields with
    | cons value later => exact decided_ofContentLength coded measured
    | nil => exact .unannounced coded measured

/-! ### Doubt -/

/-- Whether fields leave no doubt about a framing: there is no other transfer coding, or no length
that differs. -/
def Undoubted (fields : List Field) : Framing → Prop
  | .chunked => ∃ value, codings fields = [value] ∧ IsChunked value
  | .contentLength length => ∀ value ∈ lengths fields, Denotes value length
  | _ => True

/-- Whether the fields that are passed over agree with a framing. -/
def LaterAgree (fields : List Field) : Framing → Prop
  | .chunked => (codings fields).tail = []
  | .contentLength length => ∀ value ∈ (lengths fields).tail, Denotes value length
  | _ => True

theorem Decided.undoubted_iff {fields : List Field} {framing : Framing}
    (decided : Decided fields (.ok framing)) :
    Undoubted fields framing ↔ LaterAgree fields framing := by
  cases decided with
  | coded value later first chunked =>
    simp only [Undoubted, LaterAgree, first, List.tail_cons]
    constructor
    · rintro ⟨only, same, _⟩
      exact (List.cons.inj same).2
    · rintro rfl
      exact ⟨value, rfl, chunked⟩
  | measured value later length uncoded first denotes =>
    simp only [Undoubted, LaterAgree, first, List.tail_cons, List.forall_mem_cons]
    exact and_iff_right denotes
  | unannounced uncoded unmeasured => exact Iff.rfl

/-- For a status with a body, the first transfer coding decides about the framing, or the first
length if there is no coding. The fields that are accepted leave no doubt exactly if those that were
passed over agree. -/
theorem ofFields_decided_by_first {status : UInt16} (bodied : isBodiless status = false)
    (fields : List Field) :
    Decided fields (ofFields status fields) ∧
      ∀ framing, ofFields status fields = .ok framing →
        (Undoubted fields framing ↔ LaterAgree fields framing) := by
  have decided := decided_ofFields bodied fields
  refine ⟨decided, fun framing accepted => ?_⟩
  rw [accepted] at decided
  exact decided.undoubted_iff

/-- Fields that name the chunked coding and then another. -/
def doubtfulCodings : List Field :=
  [⟨"Transfer-Encoding", "chunked"⟩, ⟨"transfer-encoding", "gzip"⟩]

/-- Fields with two lengths. -/
def doubtfulLengths : List Field := [⟨"Content-Length", "5"⟩, ⟨"Content-Length", "6"⟩]

theorem ofFields_decided_by_first_doubtfulLengths :
    isBodiless 200 = false ∧ Decided doubtfulLengths (ofFields 200 doubtfulLengths) ∧
      ofFields 200 doubtfulLengths = .ok (.contentLength 5) ∧
      (Undoubted doubtfulLengths (.contentLength 5) ↔
        LaterAgree doubtfulLengths (.contentLength 5)) := by
  have bodied : isBodiless 200 = false := by decide
  have accepted : ofFields 200 doubtfulLengths = .ok (.contentLength 5) := rfl
  obtain ⟨decided, undoubted⟩ := ofFields_decided_by_first bodied doubtfulLengths
  exact ⟨bodied, decided, accepted, undoubted (.contentLength 5) accepted⟩

/-- Fields that leave a doubt are accepted, about the coding and about the length. -/
theorem not_undoubted :
    (ofFields 200 doubtfulCodings = .ok .chunked ∧ ¬ Undoubted doubtfulCodings .chunked) ∧
      ofFields 200 doubtfulLengths = .ok (.contentLength 5) ∧
      ¬ Undoubted doubtfulLengths (.contentLength 5) := by
  refine ⟨⟨rfl, ?_⟩, rfl, ?_⟩
  · rintro ⟨value, only, _⟩
    have both : codings doubtfulCodings = ["chunked", "gzip"] := by decide +kernel
    rw [both] at only
    cases only
  · intro undoubted
    have both : lengths doubtfulLengths = ["5", "6"] := by decide +kernel
    have six : Numeral.parse 10 wordLimit (trim "6".toList) = .ok 6 := rfl
    cases six.symm.trans (undoubted "6" (by rw [both]; decide))

end Framing

end WebFetch
