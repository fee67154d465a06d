import InterfaceSync.Text.Split

/-! Punycode: a text as letters, digits and hyphens. The ASCII characters come first; behind them,
the others are told by how far one has to go through all characters and places to reach the next
one. Distances are written in base 36, with thresholds that adapt to the distances so far. -/

namespace InterfaceSync.Punycode

/-- The digits are the letters and then the decimal digits. -/
def digitChar (digit : Nat) : Char :=
  if digit < 26 then Char.ofNat ('a'.toNat + digit) else Char.ofNat ('0'.toNat + digit - 26)

/-- Where digits end, at a place that is counted in steps of 36. -/
def threshold (bias place : Nat) : Nat :=
  max 1 (min 26 (place - bias))

/-- Divides until a distance is small, counting in steps of 36. -/
def settle (distance : Nat) : Nat × Nat :=
  if 455 < distance then
    let (rest, steps) := settle (distance / 35)
    (rest, steps + 36)
  else (distance, 0)
termination_by distance
decreasing_by omega

/-- The bias for the next distance, given how many characters are written. -/
def adapt (distance written : Nat) (isFirst : Bool) : Nat :=
  let scaled := if isFirst then distance / 700 else distance / 2
  let (rest, steps) := settle (scaled + scaled / written)
  steps + 36 * rest / (rest + 38)

/-- The digits of a distance, the lowest one first. -/
def digits (bias place distance : Nat) : List Char :=
  let limit := threshold bias place
  if distance < limit then [digitChar distance]
  else
    digitChar (limit + (distance - limit) % (36 - limit)) ::
      digits bias (place + 36) ((distance - limit) / (36 - limit))
termination_by distance
decreasing_by
  have positive : 1 ≤ threshold bias place := Nat.le_max_left ..
  have _reached : threshold bias place ≤ distance := Nat.le_of_not_lt ‹_›
  have shrunk : (distance - threshold bias place) / (36 - threshold bias place) ≤
    distance - threshold bias place := Nat.div_le_self ..
  omega

structure Progress where
  output : List Char
  distance : Nat
  bias : Nat
  written : Nat
  isFirst : Bool

/-- Passes a character of the text while looking for those with the given number. -/
def pass (number : Nat) (progress : Progress) (c : Char) : Progress :=
  if c.toNat < number then { progress with distance := progress.distance + 1 }
  else if c.toNat = number then
    { output := progress.output ++ digits progress.bias 36 progress.distance
      distance := 0
      bias := adapt progress.distance (progress.written + 1) progress.isFirst
      written := progress.written + 1
      isFirst := false }
  else progress

/-- Writes the characters whose numbers are given in increasing order, from `next` on. -/
def encodeFrom (text : List Char) (next : Nat) (progress : Progress) : List Nat → Progress
  | [] => progress
  | number :: numbers =>
    let distance := progress.distance + (number - next) * (progress.written + 1)
    let passed := text.foldl (pass number) { progress with distance }
    encodeFrom text (number + 1) { passed with distance := passed.distance + 1 } numbers

def isAscii (c : Char) : Bool :=
  c.toNat < 128

/-- The numbers of the characters outside ASCII, each once, in increasing order. -/
def numbers (text : List Char) : List Nat :=
  (((text.filter (! isAscii ·)).map Char.toNat).mergeSort (· ≤ ·)).eraseDups

def encode (text : List Char) : List Char :=
  let ascii := text.filter isAscii
  let start := if ascii.isEmpty then [] else ascii ++ ['-']
  (encodeFrom text 128 ⟨start, 0, 72, ascii.length, true⟩ (numbers text)).output

def digit? (c : Char) : Option Nat :=
  if c.isLower then some (c.toNat - 'a'.toNat)
  else if c.isUpper then some (c.toNat - 'A'.toNat)
  else if c.isDigit then some (c.toNat - '0'.toNat + 26)
  else none

/-- What is read of a text: the characters so far, the number of the last one, where the search for
the next one starts, and the distance that is being read, with the weight of its next digit and the
place of that digit. -/
structure Reading where
  output : List Char
  number : Nat
  start : Nat
  bias : Nat
  distance : Nat
  weight : Nat
  place : Nat

/-- Numbers that are too large to be read. -/
def readLimit : Nat := 0x100000000

/-- Inserts the character that is as far away as was read. -/
def Reading.insert? (reading : Reading) : Option Reading :=
  let written := reading.output.length + 1
  let goal := reading.start + reading.distance
  let number := reading.number + goal / written
  if number.isValidChar then
    some
      { output := reading.output.insertIdx (goal % written) (Char.ofNat number)
        number
        start := goal % written + 1
        bias := adapt reading.distance written (reading.start = 0)
        distance := 0
        weight := 1
        place := 36 }
  else none

def Reading.digit? (reading : Reading) (c : Char) : Option Reading := do
  let digit ← Punycode.digit? c
  let limit := threshold reading.bias reading.place
  let distance := reading.distance + digit * reading.weight
  let weight := reading.weight * (36 - limit)
  if readLimit ≤ reading.start + distance then none
  else if digit < limit then Reading.insert? { reading with distance }
  else if readLimit ≤ weight then none
  else some { reading with distance, weight, place := reading.place + 36 }

/-- The text that a form stands for. No distance may end the form inside its digits. -/
def decode? (form : List Char) : Option (List Char) := do
  let (ascii, digits) := (splitLast? (· == '-') form).getD ([], form)
  if ascii.isEmpty && form.contains '-' then none
  let reading ← digits.foldlM Reading.digit? ⟨ascii, 128, 0, 72, 0, 1, 36⟩
  if reading.place = 36 then some reading.output else none

end InterfaceSync.Punycode
