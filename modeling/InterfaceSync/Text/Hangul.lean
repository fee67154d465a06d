/-! Hangul syllables. A syllable is a leading consonant, a vowel and perhaps a trailing consonant,
and its place among all syllables follows from their places. -/

namespace InterfaceSync.Hangul

def firstSyllable : Nat := 0xAC00

def firstLead : Nat := 0x1100

def firstVowel : Nat := 0x1161

/-- The place in front of the first trailing consonant, which stands for none. -/
def noTail : Nat := 0x11A7

def leadCount : Nat := 19

def vowelCount : Nat := 21

def tailCount : Nat := 28

/-- The place of a character among those from `first` on, if it is one of the next `count`. -/
def placeFrom? (first count : Nat) (c : Char) : Option Nat :=
  if first ≤ c.toNat ∧ c.toNat < first + count then some (c.toNat - first) else none

def syllable? (c : Char) : Option Nat :=
  placeFrom? firstSyllable (leadCount * vowelCount * tailCount) c

/-- The letters of a syllable. -/
def decompose? (c : Char) : Option (List Char) := do
  let place ← syllable? c
  let lead := firstLead + place / tailCount / vowelCount
  let vowel := firstVowel + place / tailCount % vowelCount
  let tail := place % tailCount
  let tails := if tail = 0 then [] else [noTail + tail]
  return (lead :: vowel :: tails).map Char.ofNat

/-- The syllable that a consonant and a vowel, or an open syllable and a consonant, are. -/
def compose? (a b : Char) : Option Char :=
  match placeFrom? firstLead leadCount a, placeFrom? firstVowel vowelCount b with
  | some lead, some vowel =>
    some (Char.ofNat (firstSyllable + (lead * vowelCount + vowel) * tailCount))
  | _, _ =>
    match syllable? a, placeFrom? (noTail + 1) (tailCount - 1) b with
    | some place, some tail =>
      if place % tailCount = 0 then some (Char.ofNat (a.toNat + tail + 1)) else none
    | _, _ => none

end InterfaceSync.Hangul
