/-
This file says which octets are in the Huffman code. Bits spell octets if they are the codes of the
octets and then either padding, at most seven ones, or the code of the end of a string and anything
after it. Reading accepts exactly the bits that spell octets and yields those octets, and refuses
all other bits for their padding. It stays inside the array of nodes: the labels of the array are
the beginnings of codes, and the code has no gaps.
-/

import WebFetch.Hpack.Huffman.Coding
import WebFetch.Proofs.Huffman.Code
import WebFetch.Proofs.Huffman.Trie

namespace WebFetch.Hpack.Huffman

/-- The codes of octets, one after the other. -/
def encodedBits (octets : Octets) : List Bool :=
  octets.flatMap fun octet => bits octet.toNat

theorem encodedBits_cons (octet : UInt8) (octets : Octets) :
    encodedBits (octet :: octets) = bits octet.toNat ++ encodedBits octets :=
  List.flatMap_cons

/-- The bits of octets in the code: the codes, and then padding or the end of a string. -/
def Spells (input : List Bool) (octets : Octets) : Prop :=
  (∃ padding, input = encodedBits octets ++ padding ∧ padding.length ≤ 7 ∧
      ∀ bit ∈ padding, bit = true) ∨
    ∃ rest, input = encodedBits octets ++ bits endOfString ++ rest

/-! ### The array of the code -/

/-- The codes with their symbols, as the array is built of them. -/
def symbolCodes : List (List Bool × Nat) :=
  codes.zipIdx.map fun ((number, length), symbol) => (Bits.ofNat length number, symbol)

theorem length_codes : codes.length = endOfString + 1 := by decide +kernel

theorem mem_symbolCodes {code : List Bool} {symbol : Nat} :
    (code, symbol) ∈ symbolCodes ↔ symbol ≤ endOfString ∧ code = bits symbol := by
  have stored : (code, symbol) ∈ symbolCodes ↔
      ∃ number length, codes[symbol]? = some (number, length) ∧
        Bits.ofNat length number = code := by
    simp [symbolCodes, List.mem_zipIdx_iff_getElem?]
  rw [stored]
  constructor
  · rintro ⟨number, length, found, rfl⟩
    refine ⟨?_, by rw [bits, found]⟩
    have bound := (List.getElem?_eq_some_iff.mp found).1
    rw [length_codes] at bound
    exact Nat.le_of_lt_succ bound
  · rintro ⟨small, rfl⟩
    have bound : symbol < codes.length := by
      rw [length_codes]
      exact Nat.lt_succ_of_le small
    refine ⟨codes[symbol].1, codes[symbol].2, List.getElem?_eq_getElem bound, ?_⟩
    rw [bits, List.getElem?_eq_getElem bound]

/-- No two symbols have the same code. -/
theorem bits_injective {first second : Nat} (firstSmall : first ≤ endOfString)
    (secondSmall : second ≤ endOfString) (same : bits first = bits second) : first = second := by
  have leaves := walk_bits firstSmall
  rw [same, walk_bits secondSmall] at leaves
  exact (Tree.leaf.inj leaves).symm

theorem symbolsOf_bits {symbol : Nat} (small : symbol ≤ endOfString) :
    Trie.symbolsOf symbolCodes (bits symbol) = some symbol := by
  refine Trie.symbolsOf_of_mem (mem_symbolCodes.mpr ⟨small, rfl⟩) fun other found => ?_
  obtain ⟨otherSmall, same⟩ := mem_symbolCodes.mp found
  exact bits_injective otherSmall small same.symm

theorem symbolsOf_of_walk {path : List Bool} {zero one : Tree}
    (inside : tree.walk path = .node zero one) : Trie.symbolsOf symbolCodes path = none := by
  refine Trie.symbolsOf_of_not_mem fun symbol found => ?_
  obtain ⟨small, rfl⟩ := mem_symbolCodes.mp found
  rw [walk_bits small] at inside
  cases inside

/-- The labels of the array of the code are the beginnings of codes. -/
theorem exists_labels :
    ∃ labels, Trie.Labelled trie labels (Trie.symbolsOf symbolCodes) ∧
      ∀ {path : List Bool} {symbol : Nat}, symbol ≤ endOfString → path <+: bits symbol →
        path ∈ labels := by
  obtain ⟨labels, held, members⟩ := Trie.exists_labelled_ofCodes symbolCodes
  refine ⟨labels, held, fun {path symbol} small beginning => (members path).mpr (Or.inr ?_)⟩
  exact ⟨(bits symbol, symbol), mem_symbolCodes.mpr ⟨small, rfl⟩, beginning⟩

/-- The branches of the nodes are places of the array. -/
theorem branch_lt_size {place : Nat} {node : Node} (found : trie[place]? = some node)
    (bit : Bool) : node.branch bit < trie.size := by
  obtain ⟨labels, held, _⟩ := exists_labels
  have bound := (Array.getElem?_eq_some_iff.mp found).1
  rw [← held.length_eq] at bound ⊢
  by_cases none : node.branch bit = 0
  · rw [none]
    exact Nat.zero_lt_of_lt bound
  · have labelled := held.present found (List.getElem?_eq_getElem bound) none
    exact (List.getElem?_eq_some_iff.mp labelled).1

/-! ### Reading one code -/

section Reading

variable {labels : List (List Bool)}
  (held : Trie.Labelled trie labels (Trie.symbolsOf symbolCodes))
  (members : ∀ {path : List Bool} {symbol : Nat}, symbol ≤ endOfString → path <+: bits symbol →
    path ∈ labels)

include held members

/-- From inside the code, each bit leads to a place. -/
theorem exists_branch {here : Nat} {path : List Bool} {zero one : Tree}
    (found : labels[here]? = some path) (inside : tree.walk path = .node zero one) (bit : Bool) :
    ∃ node next, trie[here]? = some node ∧ node.branch bit ≠ 0 ∧
      trie[node.branch bit]? = some next ∧ labels[node.branch bit]? = some (path ++ [bit]) ∧
      next.symbol? = Trie.symbolsOf symbolCodes (path ++ [bit]) := by
  obtain ⟨node, nodeFound⟩ := held.exists_node found
  obtain ⟨symbol, small, beginning⟩ := exists_code_of_walk inside bit
  obtain ⟨branched, labelled⟩ := held.label_branch nodeFound found (members small beginning)
  obtain ⟨next, nextFound⟩ := held.exists_node labelled
  exact ⟨node, next, nodeFound, branched, nextFound, labelled, held.symbol nextFound labelled⟩

/-- A bit that completes no code is pending. -/
theorem exists_decodeFrom_cons {here : Nat} {path : List Bool} {bit : Bool}
    {zero one nextZero nextOne : Tree} (found : labels[here]? = some path)
    (inside : tree.walk path = .node zero one)
    (longer : tree.walk (path ++ [bit]) = .node nextZero nextOne) :
    ∃ next, labels[next]? = some (path ++ [bit]) ∧ ∀ pending ones decoded rest,
      decodeFrom here pending ones decoded (bit :: rest) =
        decodeFrom next (pending + 1) (ones && bit) decoded rest := by
  obtain ⟨node, next, nodeFound, branched, nextFound, labelled, symbol⟩ :=
    exists_branch held members found inside bit
  rw [symbolsOf_of_walk longer] at symbol
  refine ⟨node.branch bit, labelled, fun pending ones decoded rest => ?_⟩
  rw [decodeFrom, nodeFound]
  show (if node.branch bit = 0 then _ else _) = _
  rw [if_neg branched, nextFound]
  simp only [Option.bind_eq_bind, Option.bind_some, symbol]

/-- A bit that completes the code of a symbol yields the symbol. -/
theorem decodeFrom_cons_of_bits {here symbol pending : Nat} {path rest : List Bool}
    {bit ones : Bool} {zero one : Tree} {decoded : Octets} (found : labels[here]? = some path)
    (inside : tree.walk path = .node zero one) (small : symbol ≤ endOfString)
    (spelt : bits symbol = path ++ [bit]) :
    decodeFrom here pending ones decoded (bit :: rest) =
      if symbol = endOfString then some (.ok decoded.reverse)
      else decodeFrom 0 0 true (UInt8.ofNat symbol :: decoded) rest := by
  obtain ⟨node, next, nodeFound, branched, nextFound, labelled, stored⟩ :=
    exists_branch held members found inside bit
  rw [← spelt, symbolsOf_bits small] at stored
  rw [decodeFrom, nodeFound]
  show (if node.branch bit = 0 then _ else _) = _
  rw [if_neg branched, nextFound]
  simp only [Option.bind_eq_bind, Option.bind_some, stored]

/-- Bits that are inside the code are all pending. -/
theorem exists_decodeFrom_append {path : List Bool} {zero one : Tree}
    (inside : tree.walk path = .node zero one) :
    ∃ here, labels[here]? = some path ∧ ∀ decoded rest,
      decodeFrom 0 0 true decoded (path ++ rest) =
        decodeFrom here path.length (path.all id) decoded rest := by
  induction path using List.reverseRecOn generalizing zero one with
  | nil => exact ⟨0, held.root, fun _ _ => rfl⟩
  | append_singleton path bit inductionHypothesis =>
    have led : tree.walk (path ++ [bit]) ≠ .absent := by
      rw [inside]
      exact Tree.noConfusion
    obtain ⟨firstZero, firstOne, before⟩ := exists_node_of_walk_concat led
    obtain ⟨here, found, readFirst⟩ := inductionHypothesis before
    obtain ⟨next, nextFound, readNext⟩ :=
      exists_decodeFrom_cons held members found before inside
    refine ⟨next, nextFound, fun decoded rest => ?_⟩
    rw [← List.append_cons, readFirst, readNext]
    simp

end Reading

/-- The code of a symbol yields the symbol, or ends the string. -/
theorem decodeFrom_bits {symbol : Nat} (small : symbol ≤ endOfString) (decoded : Octets)
    (rest : List Bool) :
    decodeFrom 0 0 true decoded (bits symbol ++ rest) =
      if symbol = endOfString then some (.ok decoded.reverse)
      else decodeFrom 0 0 true (UInt8.ofNat symbol :: decoded) rest := by
  obtain ⟨labels, held, members⟩ := exists_labels
  obtain ⟨path, bit, zero, one, spelt, inside⟩ := exists_bits_eq_concat small
  obtain ⟨here, found, read⟩ := exists_decodeFrom_append held members inside
  rw [spelt, ← List.append_cons, read,
    decodeFrom_cons_of_bits held members found inside small spelt]

/-- Bits that are inside the code are padding, if they are few enough and all ones. -/
theorem decodeFrom_of_walk {path : List Bool} {zero one : Tree}
    (inside : tree.walk path = .node zero one) (decoded : Octets) :
    decodeFrom 0 0 true decoded path =
      some (if 8 ≤ path.length ∨ path.all id = false then .error .invalidPadding
        else .ok decoded.reverse) := by
  obtain ⟨labels, held, members⟩ := exists_labels
  obtain ⟨here, found, read⟩ := exists_decodeFrom_append held members inside
  have ended := read decoded []
  rwa [List.append_nil] at ended

/-! ### Reading all bits -/

theorem decodeFrom_encodedBits (octets decoded : Octets) (rest : List Bool) :
    decodeFrom 0 0 true decoded (encodedBits octets ++ rest) =
      decodeFrom 0 0 true (octets.reverse ++ decoded) rest := by
  induction octets generalizing decoded with
  | nil => rfl
  | cons octet octets inductionHypothesis =>
    have small : octet.toNat < endOfString := octet.toNat_lt
    rw [encodedBits, List.flatMap_cons, List.append_assoc,
      decodeFrom_bits (Nat.le_of_lt small), if_neg (Nat.ne_of_lt small), UInt8.ofNat_toNat]
    show decodeFrom 0 0 true (octet :: decoded) (encodedBits octets ++ rest) = _
    rw [inductionHypothesis, List.reverse_cons, List.append_assoc]
    rfl

/-- A few ones are inside the code, because the end of a string is many ones. -/
theorem exists_node_of_ones {count : Nat} (few : count ≤ 7) :
    ∃ zero one, tree.walk (List.replicate count true) = .node zero one := by
  have ending : bits endOfString = List.replicate 30 true := by decide +kernel
  rcases exists_code_or_walk (List.replicate count true) with
    inside | ⟨symbol, rest, small, begun⟩
  · exact inside
  · -- The code that the ones begin with would be a proper beginning of the end of a string.
    have longer : bits endOfString =
        bits symbol ++ (rest ++ List.replicate (29 - count) true ++ [true]) := by
      rw [ending, ← List.append_assoc, ← List.append_assoc, ← begun,
        List.replicate_append_replicate, ← List.replicate_succ']
      exact congrArg (List.replicate · true) (by omega)
    have leads := walk_bits (Nat.le_refl endOfString)
    rw [longer, Tree.walk_append, walk_bits small] at leads
    have beyond : (Tree.leaf symbol).walk (rest ++ List.replicate (29 - count) true ++ [true]) =
        .absent := by
      cases rest ++ List.replicate (29 - count) true with
      | nil => exact Tree.walk_leaf_cons _ _ _
      | cons bit later => exact Tree.walk_leaf_cons _ _ _
    rw [beyond] at leads
    cases leads

/-- Bits that spell octets are read as these octets. -/
theorem decodeFrom_of_spells {input : List Bool} {octets : Octets} (spelt : Spells input octets)
    (decoded : Octets) :
    decodeFrom 0 0 true decoded input = some (.ok (decoded.reverse ++ octets)) := by
  have gathered : (octets.reverse ++ decoded).reverse = decoded.reverse ++ octets := by
    rw [List.reverse_append, List.reverse_reverse]
  rcases spelt with ⟨padding, rfl, few, ones⟩ | ⟨rest, rfl⟩
  · have same : padding = List.replicate padding.length true :=
      List.eq_replicate_iff.mpr ⟨rfl, ones⟩
    obtain ⟨zero, one, inside⟩ := exists_node_of_ones few
    rw [← same] at inside
    have accepted : ¬ (8 ≤ padding.length ∨ padding.all id = false) := by
      rw [not_or, Bool.not_eq_false, List.all_eq_true]
      exact ⟨by omega, ones⟩
    rw [decodeFrom_encodedBits, decodeFrom_of_walk inside, if_neg accepted, gathered]
  · rw [List.append_assoc, decodeFrom_encodedBits, decodeFrom_bits (Nat.le_refl endOfString),
      if_pos rfl, gathered]

theorem spells_cons (octet : UInt8) {octets : Octets} {rest : List Bool}
    (spelt : Spells rest octets) : Spells (bits octet.toNat ++ rest) (octet :: octets) := by
  rcases spelt with ⟨padding, rfl, few, ones⟩ | ⟨later, rfl⟩
  · exact Or.inl ⟨padding, by rw [encodedBits, encodedBits, List.flatMap_cons, List.append_assoc],
      few, ones⟩
  · exact Or.inr ⟨later, by
      simp only [encodedBits, List.flatMap_cons, List.append_assoc]⟩

/-- Reading ends with octets that the bits spell, or refuses the padding. -/
theorem decodeFrom_cases (input : List Bool) (decoded : Octets) :
    (∃ octets, Spells input octets ∧
        decodeFrom 0 0 true decoded input = some (.ok (decoded.reverse ++ octets))) ∨
      decodeFrom 0 0 true decoded input = some (.error .invalidPadding) := by
  induction length : input.length using Nat.strongRecOn generalizing input decoded with
  | ind count inductionHypothesis =>
    subst length
    rcases exists_code_or_walk input with ⟨zero, one, inside⟩ | ⟨symbol, rest, small, rfl⟩
    · by_cases refused : 8 ≤ input.length ∨ input.all id = false
      · exact Or.inr (by rw [decodeFrom_of_walk inside, if_pos refused])
      · rw [not_or, Bool.not_eq_false, List.all_eq_true] at refused
        have spelt : Spells input [] := Or.inl ⟨input, rfl, by omega, refused.2⟩
        exact Or.inl ⟨[], spelt, decodeFrom_of_spells spelt decoded⟩
    · by_cases ended : symbol = endOfString
      · subst ended
        have spelt : Spells (bits endOfString ++ rest) [] := Or.inr ⟨rest, rfl⟩
        exact Or.inl ⟨[], spelt, decodeFrom_of_spells spelt decoded⟩
      · have octetSmall : symbol < 256 := Nat.lt_of_le_of_ne small ended
        have same : (UInt8.ofNat symbol).toNat = symbol :=
          UInt8.toNat_ofNat_of_lt' octetSmall
        have shorter : rest.length < (bits symbol ++ rest).length := by
          have occupied := List.length_pos_iff.mpr (walk_bits_and_bits_ne_nil small).2
          rw [List.length_append]
          omega
        rw [decodeFrom_bits small, if_neg ended]
        rcases inductionHypothesis _ shorter rest (UInt8.ofNat symbol :: decoded) rfl with
          ⟨octets, spelt, read⟩ | refused
        · refine Or.inl ⟨UInt8.ofNat symbol :: octets, ?_, ?_⟩
          · have longer := spells_cons (UInt8.ofNat symbol) spelt
            rwa [same] at longer
          · rw [read, List.reverse_cons, List.append_assoc]
            rfl
        · exact Or.inr refused

/-- Reading accepts exactly the octets whose bits spell octets, yields those octets, of which there
are never two strings, and refuses all others for their padding. It never meets bits that begin no
code, and never looks outside the array. -/
theorem decode_iff_spells (octets : Octets) :
    (∀ decoded, decode octets = .ok decoded ↔ Spells (Bits.ofOctets octets) decoded) ∧
      (∀ first second, Spells (Bits.ofOctets octets) first →
        Spells (Bits.ofOctets octets) second → first = second) ∧
      ((¬ ∃ decoded, Spells (Bits.ofOctets octets) decoded) →
        decode octets = .error .invalidPadding) ∧
      decode octets ≠ .error .invalidCode ∧
      decodeFrom 0 0 true [] (Bits.ofOctets octets) ≠ none ∧
      ∀ (place : Nat) (node : Node) (bit : Bool), trie[place]? = some node →
        node.branch bit < trie.size := by
  have accepted {decoded : Octets} (spelt : Spells (Bits.ofOctets octets) decoded) :
      decode octets = .ok decoded := by
    rw [decode, decodeFrom_of_spells spelt]
    rfl
  have unique {first second : Octets} (firstSpelt : Spells (Bits.ofOctets octets) first)
      (secondSpelt : Spells (Bits.ofOctets octets) second) : first = second :=
    Except.ok.inj ((accepted firstSpelt).symm.trans (accepted secondSpelt))
  rcases decodeFrom_cases (Bits.ofOctets octets) [] with ⟨spelling, spelt, read⟩ | refused
  · refine ⟨fun decoded => ⟨fun found => ?_, accepted⟩, fun _ _ => unique,
      fun none => absurd ⟨spelling, spelt⟩ none, ?_, ?_,
      fun _ _ bit found => branch_lt_size found bit⟩
    · rw [accepted spelt] at found
      exact Except.ok.inj found ▸ spelt
    · rw [accepted spelt]
      intro same
      cases same
    · rw [read]
      exact Option.some_ne_none _
  · have result : decode octets = .error .invalidPadding := by
      rw [decode, refused]
      rfl
    refine ⟨fun decoded => ⟨fun found => ?_, accepted⟩, fun _ _ => unique, fun _ => result, ?_, ?_,
      fun _ _ bit found => branch_lt_size found bit⟩
    · rw [result] at found
      cases found
    · rw [result]
      intro same
      cases same
    · rw [refused]
      exact Option.some_ne_none _

end WebFetch.Hpack.Huffman
