/-
This file holds the table of header fields that a connection builds up. The newest field stands
first. What the fields cost never exceeds the maximum: when a field is added or the maximum is
lowered, the oldest fields are dropped until it holds again, and a field that costs more than the
maximum leaves the table empty.
-/

import WebFetch.Hpack.Header

namespace WebFetch

/-- A table of header fields. -/
structure DynamicTable where
  /-- The fields, newest first. -/
  entries : List Header
  /-- What the fields cost together. -/
  size : Nat
  /-- What the fields may cost together. -/
  maximum : Nat
  deriving DecidableEq

namespace DynamicTable

/-- The maximum of a table for which none is given. -/
def defaultMaximum : Nat := 4096

/-- A table without fields. -/
def empty (maximum : Nat) : DynamicTable := ⟨[], 0, maximum⟩

/-- What fields cost together. -/
def cost (entries : List Header) : Nat :=
  entries.foldr (fun header total => header.size + total) 0

/-- Drops fields, given oldest first, until the rest, of which the size is given, fits. -/
def dropOldest (maximum : Nat) : (size : Nat) → List Header → List Header × Nat
  | size, [] => ([], size)
  | size, oldest :: newer =>
    if maximum < size then dropOldest maximum (size - oldest.size) newer
    else (oldest :: newer, size)

/-- Drops the oldest fields until the table fits its maximum. -/
def evict (table : DynamicTable) : DynamicTable :=
  let (kept, size) := dropOldest table.maximum table.size table.entries.reverse
  { table with entries := kept.reverse, size := size }

def add (header : Header) (table : DynamicTable) : DynamicTable :=
  evict { table with entries := header :: table.entries, size := table.size + header.size }

def setMaximum (maximum : Nat) (table : DynamicTable) : DynamicTable :=
  evict { table with maximum := maximum }

/-- The field at a place that counts through the fixed table first. -/
def lookup (table : DynamicTable) (index : Nat) : Option Header :=
  if index ≤ StaticTable.size then StaticTable.lookup index
  else table.entries[index - StaticTable.size - 1]?

/-- The line that says that a table has another size than its fields cost together. -/
def printMismatch (table : DynamicTable) : String :=
  if cost table.entries = table.size then ""
  else "ERROR: Calculated Table Size mismatched (" ++ (cost table.entries).repr ++ ")\n"

/-- The text of a table: its size and maximum, a line if the size is wrong, and a line for each
field. -/
def print (table : DynamicTable) : String :=
  "Table Size: " ++ table.size.repr ++ " (Maximum:" ++ table.maximum.repr ++ ")\n" ++
    table.printMismatch ++
    String.join (table.entries.zipIdx.map fun (header, place) =>
      "[" ++ (place + 1).repr ++ "] " ++ Utf8.lossyText header.name ++ " " ++
        Utf8.lossyText header.value ++ "\n")

end DynamicTable

end WebFetch
