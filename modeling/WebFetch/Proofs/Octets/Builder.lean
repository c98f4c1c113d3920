/-
This file is about octet strings that are built and read. What was added to a builder one after the
other is read back in the same order, each at the offset where what was added before it ends, by the
read that fits it. Together with windows within windows this says what every reader of octets relies
on.
-/

import WebFetch.Octets.Builder
import WebFetch.Proofs.Octets
import WebFetch.Proofs.Octets.Window

namespace WebFetch

theorem UInt24.ofNatModulo_toNat (value : UInt24) : ofNatModulo value.toNat = value := by
  obtain ⟨value, small⟩ := value
  simp only [ofNatModulo, Nat.mod_eq_of_lt small]

namespace Builder

/-! ### What is added and how it is read -/

/-- What is added to a builder at once: a number of so many bits, or octets. -/
inductive Item where
  | number8 (value : UInt8)
  | number16 (value : UInt16)
  | number24 (value : UInt24)
  | number32 (value : UInt32)
  | bytes (octets : Octets)
  deriving DecidableEq

/-- How octets are read: as a number of so many bits, or as they are. -/
inductive Accessor where
  | number8
  | number16
  | number24
  | number32
  | bytes (length : Nat)
  deriving DecidableEq

/-- How many octets are read. -/
def Accessor.size : Accessor → Nat
  | .number8 => 1
  | .number16 => 2
  | .number24 => 3
  | .number32 => 4
  | .bytes length => length

/-- What is read at an offset. -/
def Accessor.read (accessor : Accessor) (window : Window) (offset : Nat) :
    Except RangeError Item :=
  match accessor with
  | .number8 => (window.number 1 offset).map fun value => .number8 (UInt8.ofNat value)
  | .number16 => (window.number 2 offset).map fun value => .number16 (UInt16.ofNat value)
  | .number24 => (window.number 3 offset).map fun value => .number24 (UInt24.ofNatModulo value)
  | .number32 => (window.number 4 offset).map fun value => .number32 (UInt32.ofNat value)
  | .bytes length => (window.bytes offset length).map .bytes

/-- What is read one after the other, each where the one before it ends. -/
def readAll (window : Window) : (offset : Nat) → List Accessor → Except RangeError (List Item)
  | _, [] => .ok []
  | offset, accessor :: accessors => do
    let item ← accessor.read window offset
    let items ← readAll window (offset + accessor.size) accessors
    return item :: items

namespace Item

/-- The read that fits the item. -/
def accessor : Item → Accessor
  | number8 _ => .number8
  | number16 _ => .number16
  | number24 _ => .number24
  | number32 _ => .number32
  | bytes octets => .bytes octets.length

/-- The builder to which the item was added. -/
def add (builder : Builder) : Item → Except RangeError Builder
  | number8 value => .ok (builder.number 1 value.toNat)
  | number16 value => .ok (builder.number 2 value.toNat)
  | number24 value => builder.number24 value.toNat
  | number32 value => .ok (builder.number 4 value.toNat)
  | bytes octets => .ok (builder.bytes octets)

/-- The octets of the item. -/
def octets : Item → Octets
  | number8 value => Octets.ofNat 1 value.toNat
  | number16 value => Octets.ofNat 2 value.toNat
  | number24 value => Octets.ofNat 3 value.toNat
  | number32 value => Octets.ofNat 4 value.toNat
  | bytes octets => octets

theorem length_octets (item : Item) : item.octets.length = item.accessor.size := by
  cases item with
  | bytes octets => rfl
  | _ => exact Octets.length_ofNat _ _

/-- Adding an item appends its octets. -/
theorem add_eq (builder : Builder) (item : Item) :
    item.add builder = .ok ⟨builder.octets ++ item.octets⟩ := by
  cases item with
  | number24 value =>
    -- Only this width is checked when it is added, and a number of the type passes.
    show builder.number24 value.toNat = _
    rw [Builder.number24, UInt24.ofNat?, dif_pos value.toNat_lt]
    rfl
  | _ => rfl

/-- An item is read back wherever its octets stand. -/
theorem read_of_parts {window : Window} {before after : Octets} (item : Item)
    (parts : window.octets = before ++ (item.octets ++ after)) (small : window.size < wordLimit) :
    item.accessor.read window before.length = .ok item := by
  cases item with
  | number8 value =>
    rw [accessor, Accessor.read, Window.number_of_parts value.toNat_lt parts small]
    exact congrArg (Except.ok <| number8 ·) UInt8.ofNat_toNat
  | number16 value =>
    rw [accessor, Accessor.read, Window.number_of_parts value.toNat_lt parts small]
    exact congrArg (Except.ok <| number16 ·) UInt16.ofNat_toNat
  | number24 value =>
    rw [accessor, Accessor.read, Window.number_of_parts value.toNat_lt parts small]
    exact congrArg (Except.ok <| number24 ·) value.ofNatModulo_toNat
  | number32 value =>
    rw [accessor, Accessor.read, Window.number_of_parts value.toNat_lt parts small]
    exact congrArg (Except.ok <| number32 ·) UInt32.ofNat_toNat
  | bytes octets =>
    have read : window.bytes before.length octets.length = .ok octets :=
      (Window.shows_of_parts parts small).bytes
    rw [accessor, Accessor.read, read]
    rfl

end Item

/-! ### Items one after the other -/

/-- The builder to which items were added one after the other. -/
def addAll (builder : Builder) (items : List Item) : Except RangeError Builder :=
  items.foldlM Item.add builder

/-- Adding items never fails, and appends the octets of each. -/
theorem addAll_eq (builder : Builder) (items : List Item) :
    builder.addAll items = .ok ⟨builder.octets ++ items.flatMap Item.octets⟩ := by
  induction items generalizing builder with
  | nil =>
    rw [List.flatMap_nil, List.append_nil]
    rfl
  | cons item items inductionHypothesis =>
    rw [List.flatMap_cons, ← List.append_assoc]
    exact bind_eq_ok (item.add_eq builder) (inductionHypothesis _)

/-- Items are read back in order from where the octets of the first stand. -/
theorem readAll_of_parts {window : Window} {before after : Octets} (items : List Item)
    (parts : window.octets = before ++ (items.flatMap Item.octets ++ after))
    (small : window.size < wordLimit) :
    readAll window before.length (items.map Item.accessor) = .ok items := by
  induction items generalizing before with
  | nil => rfl
  | cons item items inductionHypothesis =>
    rw [List.flatMap_cons, List.append_assoc] at parts
    have later : window.octets =
        (before ++ item.octets) ++ (items.flatMap Item.octets ++ after) := by
      rw [parts, List.append_assoc]
    -- The offset of the next item is where the octets of this one end.
    have others := inductionHypothesis later
    rw [List.length_append, item.length_octets] at others
    exact bind_eq_ok (item.read_of_parts parts small) (bind_eq_ok others rfl)

end Builder

namespace Window

open Builder (Item readAll)

/-- What was added to a builder is read back in order at the offsets that add up. In a window that
one range after the other leaves, a read succeeds exactly if it lies there: it returns octets of the
first window from the sum of the offsets on, and each window on the way holds them. A range lies in
a window exactly if its octets are read. A range that is refused leaves the window as it is, so only
the others matter. -/
theorem shows_what_was_built :
    (∀ items : List Item, ∃ builder, Builder.empty.addAll items = .ok builder ∧
      (builder.octets.length < wordLimit →
        readAll ⟨builder.octets⟩ 0 (items.map Item.accessor) = .ok items)) ∧
    (∀ (window last : Window) (ranges : List Range), window.size < wordLimit →
      window.narrow ranges = .ok last → ∀ offset length,
        let octets := (window.octets.drop (start ranges + offset)).take length
        (offset + length ≤ last.size →
          octets.length = length ∧ last.Shows offset length octets ∧
            ∀ before after view, ranges = before ++ after → window.narrow before = .ok view →
              start after + offset + length ≤ view.size ∧
                view.Shows (start after + offset) length octets) ∧
        (last.size < offset + length → ∃ error, last.Refuses offset length error)) ∧
    (∀ (window : Window) (offset length : Nat),
      window.contains offset length = true ↔
        ∃ octets, window.bytes offset length = .ok octets) ∧
    (∀ (window : Window) (range : Range) (error : RangeError),
      window.subwindow range.offset range.length = .error error → window.ask range = window) ∧
    ∀ (window : Window) (ranges : List Range),
      window.narrow (window.granted ranges) = .ok (ranges.foldl ask window) := by
  refine ⟨fun items => ?_, fun window last ranges small narrowed =>
    shows_of_narrow small narrowed, contains_iff, fun window range error => ask_of_refused,
    narrow_granted⟩
  refine ⟨_, Builder.addAll_eq Builder.empty items, fun small => ?_⟩
  exact @Builder.readAll_of_parts _ [] [] items (List.append_nil _).symm small

/-- One item of each kind. -/
def mixedItems : List Item :=
  [.number8 1, .number16 0x0203, .number24 ⟨0x040506, by decide⟩, .number32 0x0708090a,
    .bytes [0x6f, 0x6b]]

/-- The window of the octets of these items. -/
def mixedWindow : Window := ⟨[1, 2, 3, 4, 5, 6, 7, 8, 9, 10, 0x6f, 0x6b]⟩

theorem shows_what_was_built_mixedItems :
    Builder.empty.addAll mixedItems = .ok ⟨mixedWindow.octets⟩ ∧
      readAll mixedWindow 0 (mixedItems.map Item.accessor) = .ok mixedItems ∧
      mixedWindow.narrow [⟨1, 10⟩, ⟨2, 6⟩] = .ok ⟨[4, 5, 6, 7, 8, 9]⟩ ∧
      (Window.mk [4, 5, 6, 7, 8, 9]).Shows 1 4 [5, 6, 7, 8] ∧
      (∃ error, (Window.mk [4, 5, 6, 7, 8, 9]).Refuses 3 4 error) ∧
      mixedWindow.ask ⟨1, wordLimit - 1⟩ = mixedWindow := by
  obtain ⟨built, nested, _, refused, _⟩ := shows_what_was_built
  have added : Builder.empty.addAll mixedItems = .ok ⟨mixedWindow.octets⟩ := by rfl
  have readBack : readAll mixedWindow 0 (mixedItems.map Item.accessor) = .ok mixedItems := by
    obtain ⟨builder, found, read⟩ := built mixedItems
    cases added.symm.trans found
    exact read (by decide)
  have narrowed : mixedWindow.narrow [⟨1, 10⟩, ⟨2, 6⟩] = .ok ⟨[4, 5, 6, 7, 8, 9]⟩ := by rfl
  have reads := nested _ _ _ (by decide) narrowed
  exact ⟨added, readBack, narrowed, ((reads 1 4).1 (by decide)).2.1, (reads 3 4).2 (by decide),
    refused _ ⟨1, wordLimit - 1⟩ .overflow (by rfl)⟩

end Window

end WebFetch
