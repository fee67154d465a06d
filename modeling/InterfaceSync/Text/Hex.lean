/-! Hexadecimal digits. -/

namespace InterfaceSync.Hex

/-- The value of a digit; letters count in both cases. -/
def digit? (c : Char) : Option Nat :=
  if '0' ≤ c ∧ c ≤ '9' then some (c.toNat - 48)
  else if 'a' ≤ c ∧ c ≤ 'f' then some (c.toNat - 87)
  else if 'A' ≤ c ∧ c ≤ 'F' then some (c.toNat - 55)
  else none

/-- The number that a text of digits stands for, if it holds nothing else. -/
def number? (digits : List Char) : Option Nat :=
  digits.foldlM (fun total c => (digit? c).map (16 * total + ·)) 0

/-- The character whose number is written in digits. -/
def char? (digits : List Char) : Option Char := do
  let value ← number? digits
  if value.isValidChar then some (Char.ofNat value) else none

def upperDigit (value : Nat) : Char :=
  (Nat.digitChar value).toUpper

end InterfaceSync.Hex
