/-
This file says what the array of nodes of the Huffman code holds. Every place of the array has a
label, the bits that lead to it from the root. Adding a code labels those of its beginnings that
had no place and leaves all other places as they are, because a place is the branch of one node
only. So the labels of an array of codes are the beginnings of the codes, and the symbol at a label
is the one whose code the label is.
-/

import Mathlib.Data.List.Induction
import Mathlib.Logic.Function.Basic
import WebFetch.Hpack.Huffman.Trie

namespace WebFetch.Hpack.Huffman.Trie

/-- The places of an array are labelled with the bits that lead to them from the root, and the
symbols at the labels are given. -/
structure Labelled (trie : Trie) (labels : List (List Bool)) (symbols : List Bool → Option Nat) :
    Prop where
  length_eq : labels.length = trie.size
  nodup : labels.Nodup
  root : labels[0]? = some []
  /-- The beginnings of a label are labels. -/
  closed : ∀ {path : List Bool} {bit : Bool}, path ++ [bit] ∈ labels → path ∈ labels
  /-- Only labels have symbols. -/
  labelled : ∀ {path : List Bool}, path ∉ labels → symbols path = none
  symbol : ∀ {place : Nat} {node : Node} {path : List Bool}, trie[place]? = some node →
    labels[place]? = some path → node.symbol? = symbols path
  absent : ∀ {place : Nat} {node : Node} {path : List Bool} {bit : Bool},
    trie[place]? = some node → labels[place]? = some path → node.branch bit = 0 →
      path ++ [bit] ∉ labels
  present : ∀ {place : Nat} {node : Node} {path : List Bool} {bit : Bool},
    trie[place]? = some node → labels[place]? = some path → node.branch bit ≠ 0 →
      labels[node.branch bit]? = some (path ++ [bit])

namespace Labelled

variable {trie : Trie} {labels : List (List Bool)} {symbols : List Bool → Option Nat}

/-- A label stands for a node. -/
theorem exists_node (held : Labelled trie labels symbols) {place : Nat} {path : List Bool}
    (found : labels[place]? = some path) : ∃ node, trie[place]? = some node := by
  have bound : place < trie.size := by
    rw [← held.length_eq]
    exact (List.getElem?_eq_some_iff.mp found).1
  exact ⟨trie[place], Array.getElem?_eq_getElem bound⟩

/-- A place has one label only, and a label one place. -/
theorem place_eq (held : Labelled trie labels symbols) {first second : Nat} {path : List Bool}
    (firstFound : labels[first]? = some path) (secondFound : labels[second]? = some path) :
    first = second :=
  (List.getElem?_inj (List.getElem?_eq_some_iff.mp firstFound).1 held.nodup).mp
    (firstFound.trans secondFound.symm)

/-- A node whose branch is labelled has a branch there. -/
theorem label_branch (held : Labelled trie labels symbols) {place : Nat} {node : Node}
    {path : List Bool} {bit : Bool} (nodeFound : trie[place]? = some node)
    (pathFound : labels[place]? = some path) (longer : path ++ [bit] ∈ labels) :
    node.branch bit ≠ 0 ∧ labels[node.branch bit]? = some (path ++ [bit]) := by
  have branched : node.branch bit ≠ 0 := fun none =>
    held.absent nodeFound pathFound none longer
  exact ⟨branched, held.present nodeFound pathFound branched⟩

/-! ### The root alone -/

theorem labelled_empty : Labelled Trie.empty [[]] fun _ => none where
  length_eq := rfl
  nodup := List.pairwise_singleton _ _
  root := rfl
  closed longer := by simp at longer
  labelled _ := rfl
  symbol := by
    intro place node path nodeFound pathFound
    obtain ⟨bound, rfl⟩ := List.getElem?_eq_some_iff.mp pathFound
    obtain rfl : place = 0 := by simpa using bound
    cases nodeFound
    rfl
  absent := by
    intro place node path bit _ _ _ longer
    simp at longer
  present := by
    intro place node path bit nodeFound pathFound branched
    obtain ⟨bound, rfl⟩ := List.getElem?_eq_some_iff.mp pathFound
    obtain rfl : place = 0 := by simpa using bound
    cases nodeFound
    exact absurd rfl branched

/-! ### The end of a code -/

/-- Marking a place as the end of a code gives its label the symbol. -/
theorem labelled_withSymbol (held : Labelled trie labels symbols) {here : Nat} {path : List Bool}
    (found : labels[here]? = some path) (symbol : Nat) :
    Labelled (trie.modify here fun node => node.withSymbol symbol) labels
      (Function.update symbols path (some symbol)) where
  length_eq := by rw [held.length_eq, Array.size_modify]
  nodup := held.nodup
  root := held.root
  closed := held.closed
  labelled := by
    intro other unlabelled
    have different : other ≠ path := by
      rintro rfl
      exact unlabelled (List.mem_of_getElem? found)
    rw [Function.update_of_ne different]
    exact held.labelled unlabelled
  symbol := by
    intro place node other nodeFound otherFound
    rw [Array.getElem?_modify] at nodeFound
    by_cases same : here = place
    · subst same
      rw [if_pos rfl, Option.map_eq_some_iff] at nodeFound
      obtain ⟨before, _, rfl⟩ := nodeFound
      obtain rfl : path = other := Option.some.inj (found.symm.trans otherFound)
      rw [Function.update_self]
      rfl
    · rw [if_neg same] at nodeFound
      have different : other ≠ path := by
        rintro rfl
        exact same (held.place_eq found otherFound)
      rw [Function.update_of_ne different]
      exact held.symbol nodeFound otherFound
  absent := by
    intro place node other bit nodeFound otherFound none
    rw [Array.getElem?_modify] at nodeFound
    split at nodeFound
    · obtain ⟨before, beforeFound, rfl⟩ := Option.map_eq_some_iff.mp nodeFound
      exact held.absent beforeFound otherFound none
    · exact held.absent nodeFound otherFound none
  present := by
    intro place node other bit nodeFound otherFound branched
    rw [Array.getElem?_modify] at nodeFound
    split at nodeFound
    · obtain ⟨before, beforeFound, rfl⟩ := Option.map_eq_some_iff.mp nodeFound
      show labels[before.branch bit]? = some (other ++ [bit])
      exact held.present beforeFound otherFound branched
    · exact held.present nodeFound otherFound branched

end Labelled

/-! ### A new node -/

/-- The nodes of a grown array: the new one, the one that leads to it, and those as before. -/
theorem getElem?_grow (trie : Trie) (here place : Nat) (bit : Bool) :
    (trie.grow here bit)[place]? =
      if place = trie.size then some .blank
      else if place = here then trie[place]?.map fun node => node.withBranch bit trie.size
      else trie[place]? := by
  rw [grow, Array.getElem?_push, Array.size_modify, Array.getElem?_modify]
  by_cases last : place = trie.size
  · rw [if_pos last, if_pos last]
  · rw [if_neg last, if_neg last]
    by_cases same : here = place
    · rw [if_pos same, if_pos same.symm]
    · rw [if_neg same, if_neg (Ne.symm same)]

namespace Labelled

variable {trie : Trie} {labels : List (List Bool)} {symbols : List Bool → Option Nat}

/-- A label of a grown array is the new one, at the last place, or an old one at its old place. -/
theorem label_cases (held : Labelled trie labels symbols) {place : Nat} {path other : List Bool}
    (found : (labels ++ [path])[place]? = some other) :
    (place = trie.size ∧ other = path) ∨ (place ≠ trie.size ∧ labels[place]? = some other) := by
  rw [List.getElem?_append, held.length_eq] at found
  split at found
  · exact Or.inr ⟨by omega, found⟩
  · rw [List.getElem?_singleton] at found
    split at found
    · exact Or.inl ⟨by omega, (Option.some.inj found).symm⟩
    · cases found

/-- What stands at a place of a grown array: the new node, the node that leads to it, or what stood
there before. -/
theorem grow_cases (held : Labelled trie labels symbols) {here place : Nat}
    {path other : List Bool} {bit : Bool} {node : Node} (found : labels[here]? = some path)
    (nodeFound : (trie.grow here bit)[place]? = some node)
    (otherFound : (labels ++ [path ++ [bit]])[place]? = some other) :
    (node = .blank ∧ other = path ++ [bit]) ∨
      (∃ before, trie[here]? = some before ∧ node = before.withBranch bit trie.size ∧
        other = path) ∨
      (place ≠ here ∧ trie[place]? = some node ∧ labels[place]? = some other) := by
  rw [getElem?_grow] at nodeFound
  rcases held.label_cases otherFound with ⟨last, rfl⟩ | ⟨old, oldFound⟩
  · rw [if_pos last] at nodeFound
    exact Or.inl ⟨(Option.some.inj nodeFound).symm, rfl⟩
  · rw [if_neg old] at nodeFound
    by_cases same : place = here
    · subst same
      rw [if_pos rfl] at nodeFound
      obtain ⟨before, beforeFound, rfl⟩ := Option.map_eq_some_iff.mp nodeFound
      exact Or.inr (Or.inl
        ⟨before, beforeFound, rfl, Option.some.inj (oldFound.symm.trans found)⟩)
    · rw [if_neg same] at nodeFound
      exact Or.inr (Or.inr ⟨same, nodeFound, oldFound⟩)

/-- A new node gets as its label the bits that lead to it. -/
theorem labelled_grow (held : Labelled trie labels symbols) {here : Nat} {path : List Bool}
    {bit : Bool} (found : labels[here]? = some path) (fresh : path ++ [bit] ∉ labels) :
    Labelled (trie.grow here bit) (labels ++ [path ++ [bit]]) symbols := by
  have kept {place : Nat} {other : List Bool} (otherFound : labels[place]? = some other) :
      (labels ++ [path ++ [bit]])[place]? = some other := by
    rw [List.getElem?_append_left (List.getElem?_eq_some_iff.mp otherFound).1]
    exact otherFound
  refine ⟨?_, ?_, kept held.root, ?_, ?_, ?_, ?_, ?_⟩
  · rw [grow, Array.size_push, Array.size_modify, List.length_append, held.length_eq]
    rfl
  · rw [List.nodup_append]
    refine ⟨held.nodup, List.pairwise_singleton _ _, ?_⟩
    rintro other labelled _ last rfl
    exact fresh (List.mem_singleton.mp last ▸ labelled)
  · intro other next longer
    rw [List.mem_append, List.mem_singleton] at longer ⊢
    rcases longer with old | new
    · exact Or.inl (held.closed old)
    · obtain rfl := (List.append_inj' new rfl).1
      exact Or.inl (List.mem_of_getElem? found)
  · intro other unlabelled
    rw [List.mem_append, not_or] at unlabelled
    exact held.labelled unlabelled.1
  · intro place node other nodeFound otherFound
    rcases held.grow_cases found nodeFound otherFound with
      ⟨rfl, rfl⟩ | ⟨before, beforeFound, rfl, rfl⟩ | ⟨_, oldNode, oldLabel⟩
    · exact (held.labelled fresh).symm
    · show before.symbol? = symbols other
      exact held.symbol beforeFound found
    · exact held.symbol oldNode oldLabel
  · intro place node other next nodeFound otherFound none
    rw [List.mem_append, List.mem_singleton, not_or]
    rcases held.grow_cases found nodeFound otherFound with
      ⟨rfl, rfl⟩ | ⟨before, beforeFound, rfl, rfl⟩ | ⟨different, oldNode, oldLabel⟩
    · exact ⟨fun longer => fresh (held.closed longer), by simp⟩
    · by_cases taken : next = bit
      · simp only [Node.withBranch, if_pos taken] at none
        have inside := (Array.getElem?_eq_some_iff.mp beforeFound).1
        omega
      · simp only [Node.withBranch, if_neg taken] at none
        exact ⟨held.absent beforeFound found none, by simpa using taken⟩
    · refine ⟨held.absent oldNode oldLabel none, fun equal => different ?_⟩
      obtain rfl := (List.append_inj' equal rfl).1
      exact held.place_eq oldLabel found
  · intro place node other next nodeFound otherFound branched
    rcases held.grow_cases found nodeFound otherFound with
      ⟨rfl, rfl⟩ | ⟨before, beforeFound, rfl, rfl⟩ | ⟨_, oldNode, oldLabel⟩
    · exact absurd rfl branched
    · by_cases taken : next = bit
      · simp only [Node.withBranch, if_pos taken]
        rw [← held.length_eq, List.getElem?_concat_length, taken]
      · simp only [Node.withBranch, if_neg taken] at branched ⊢
        exact kept (held.present beforeFound found branched)
    · exact kept (held.present oldNode oldLabel branched)

/-! ### A whole code -/

/-- The beginnings of a code after its first bit, seen from the place before that bit. -/
theorem exists_beginning_cons_iff {path rest other : List Bool} {bit : Bool} :
    (∃ begun, begun <+: bit :: rest ∧ other = path ++ begun) ↔
      other = path ∨ ∃ begun, begun <+: rest ∧ other = path ++ [bit] ++ begun := by
  constructor
  · rintro ⟨begun, beginning, rfl⟩
    rcases List.prefix_cons_iff.mp beginning with rfl | ⟨later, rfl, beginning⟩
    · exact Or.inl (List.append_nil path)
    · exact Or.inr ⟨later, (List.cons_prefix_cons.mp beginning).2,
        List.append_cons path bit later⟩
  · rintro (rfl | ⟨begun, beginning, rfl⟩)
    · exact ⟨[], List.nil_prefix, (List.append_nil other).symm⟩
    · exact ⟨bit :: begun, List.prefix_cons_iff.mpr (Or.inr ⟨begun, rfl, beginning⟩),
        (List.append_cons path bit begun).symm⟩

/-- Adding the rest of a code from a place gives the code its symbol, and labels every beginning
of the code from that place on. -/
theorem exists_insertFrom (held : Labelled trie labels symbols) (symbol : Nat) {here : Nat}
    {path : List Bool} (found : labels[here]? = some path) (rest : List Bool) :
    ∃ later, Labelled (trie.insertFrom symbol rest here) later
        (Function.update symbols (path ++ rest) (some symbol)) ∧
      ∀ other, other ∈ later ↔
        other ∈ labels ∨ ∃ begun, begun <+: rest ∧ other = path ++ begun := by
  have pathLabelled : path ∈ labels := List.mem_of_getElem? found
  induction rest generalizing trie labels here path with
  | nil =>
    refine ⟨labels, ?_, fun other => ⟨Or.inl, ?_⟩⟩
    · rw [List.append_nil]
      exact held.labelled_withSymbol found symbol
    · rintro (labelled | ⟨begun, none, rfl⟩)
      · exact labelled
      · rwa [List.prefix_nil.mp none, List.append_nil]
  | cons bit rest inductionHypothesis =>
    obtain ⟨node, nodeFound⟩ := held.exists_node found
    rw [insertFrom, nodeFound, List.append_cons]
    by_cases none : node.branch bit = 0
    · have fresh := held.absent nodeFound found none
      have last : (labels ++ [path ++ [bit]])[trie.size]? = some (path ++ [bit]) := by
        rw [← held.length_eq, List.getElem?_concat_length]
      obtain ⟨later, laterHeld, members⟩ := inductionHypothesis
        (held.labelled_grow found fresh) last (List.mem_of_getElem? last)
      refine ⟨later, ?_, fun other => ?_⟩
      · simpa only [if_pos none] using laterHeld
      · rw [members, exists_beginning_cons_iff, List.mem_append, List.mem_singleton]
        constructor
        · rintro ((old | rfl) | begun)
          · exact Or.inl old
          · exact Or.inr (Or.inr ⟨[], List.nil_prefix, (List.append_nil _).symm⟩)
          · exact Or.inr (Or.inr begun)
        · rintro (old | rfl | begun)
          · exact Or.inl (Or.inl old)
          · exact Or.inl (Or.inl pathLabelled)
          · exact Or.inr begun
    · have next := held.present nodeFound found none
      obtain ⟨later, laterHeld, members⟩ :=
        inductionHypothesis held next (List.mem_of_getElem? next)
      refine ⟨later, ?_, fun other => ?_⟩
      · simpa only [if_neg none] using laterHeld
      · rw [members, exists_beginning_cons_iff]
        constructor
        · rintro (old | begun)
          · exact Or.inl old
          · exact Or.inr (Or.inr begun)
        · rintro (old | rfl | begun)
          · exact Or.inl old
          · exact Or.inl pathLabelled
          · exact Or.inr begun

end Labelled

/-- The symbols of codes, where the last code of several that are equal counts. -/
def symbolsOf (codes : List (List Bool × Nat)) : List Bool → Option Nat :=
  codes.foldl (fun symbols (code, symbol) => Function.update symbols code (some symbol))
    fun _ => none

/-- The labels of an array of codes are the root and the beginnings of the codes. -/
theorem exists_labelled_ofCodes (codes : List (List Bool × Nat)) :
    ∃ labels, Labelled (ofCodes codes) labels (symbolsOf codes) ∧
      ∀ path, path ∈ labels ↔ path = [] ∨ ∃ code ∈ codes, path <+: code.1 := by
  induction codes using List.reverseRecOn with
  | nil => exact ⟨[[]], Labelled.labelled_empty, by simp⟩
  | append_singleton codes code inductionHypothesis =>
    obtain ⟨labels, held, members⟩ := inductionHypothesis
    obtain ⟨later, laterHeld, laterMembers⟩ := held.exists_insertFrom code.2 held.root code.1
    refine ⟨later, ?_, fun path => ?_⟩
    · rw [ofCodes, symbolsOf, List.foldl_append, List.foldl_append]
      exact laterHeld
    · simp only [laterMembers, members, List.nil_append, List.mem_append, List.mem_singleton,
        exists_eq_right', or_and_right, exists_or, exists_eq_left, or_assoc]

/-- If codes belong to one symbol each, that is the symbol of the code. -/
theorem symbolsOf_of_mem {codes : List (List Bool × Nat)} {code : List Bool} {symbol : Nat}
    (member : (code, symbol) ∈ codes)
    (unique : ∀ other, (code, other) ∈ codes → other = symbol) :
    symbolsOf codes code = some symbol := by
  induction codes using List.reverseRecOn with
  | nil => cases member
  | append_singleton codes last inductionHypothesis =>
    rw [symbolsOf, List.foldl_append]
    show Function.update (symbolsOf codes) last.1 (some last.2) code = _
    by_cases same : code = last.1
    · rw [same, Function.update_self]
      exact congrArg some (unique last.2 (by simp [same]))
    · rw [Function.update_of_ne same]
      refine inductionHypothesis ?_ fun other found =>
        unique other (List.mem_append_left _ found)
      rcases List.mem_append.mp member with old | new
      · exact old
      · exact absurd (congrArg Prod.fst (List.mem_singleton.mp new)) same

/-- What is no code has no symbol. -/
theorem symbolsOf_of_not_mem {codes : List (List Bool × Nat)} {code : List Bool}
    (stranger : ∀ symbol, (code, symbol) ∉ codes) : symbolsOf codes code = none := by
  induction codes using List.reverseRecOn with
  | nil => rfl
  | append_singleton codes last inductionHypothesis =>
    have different : code ≠ last.1 := fun same => stranger last.2 (by simp [same])
    rw [symbolsOf, List.foldl_append]
    show Function.update (symbolsOf codes) last.1 (some last.2) code = none
    rw [Function.update_of_ne different]
    exact inductionHypothesis fun symbol found => stranger symbol (List.mem_append_left _ found)

end WebFetch.Hpack.Huffman.Trie
