/-! Tables of characters: sets, and maps from characters to texts or numbers. Their rows stand in the
order of the characters. -/

namespace InterfaceSync

/-- Some of the characters from a first one to a last one, a number of steps apart, and what they
become. -/
structure CharRow where
  first : Nat
  last : Nat
  step : Nat
  image : List Nat
deriving Repr

namespace CharRow

def contains (row : CharRow) (number : Nat) : Bool :=
  row.first ≤ number && number ≤ row.last && (number - row.first) % row.step == 0

/-- Whether every row ends in front of the next one. -/
def inOrder : List CharRow → Bool
  | [] => true
  | [row] => row.first ≤ row.last
  | row :: next :: rest =>
    row.first ≤ row.last && row.last < next.first && inOrder (next :: rest)

end CharRow

structure CharTable where
  rows : Array CharRow
  ordered : CharRow.inOrder rows.toList = true

namespace CharTable

/-- The place of the first row between two places that does not end in front of a character. -/
def search (rows : Array CharRow) (number low high : Nat) : Nat :=
  if low < high then
    let middle := (low + high) / 2
    if rows[middle]?.any (·.last < number) then search rows number (middle + 1) high
    else search rows number low middle
  else low
termination_by high - low

def row? (table : CharTable) (c : Char) : Option CharRow :=
  (table.rows[search table.rows c.toNat 0 table.rows.size]?).filter (·.contains c.toNat)

def contains (table : CharTable) (c : Char) : Bool :=
  (table.row? c).isSome

/-- The text that a character becomes. Where the characters of a row become one character each,
the distances between these are the same as those in the row. -/
def image? (table : CharTable) (c : Char) : Option (List Char) :=
  (table.row? c).map fun row =>
    match row.image with
    | [single] => [Char.ofNat (single + (c.toNat - row.first))]
    | image => image.map Char.ofNat

/-- The number that stands for a character and all others in its row. -/
def value? (table : CharTable) (c : Char) : Option Nat :=
  (table.row? c).bind (·.image.head?)

end CharTable

end InterfaceSync
