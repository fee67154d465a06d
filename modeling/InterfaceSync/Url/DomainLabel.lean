import InterfaceSync.Text.CombiningClass
import InterfaceSync.Text.Composition
import InterfaceSync.Text.Direction
import InterfaceSync.Text.Joining
import InterfaceSync.Url.DomainChar

/-! The labels of a domain name: how they are encoded, and which of them a name may have. -/

namespace InterfaceSync.Domain

/-- A text whose characters are mapped and composed, if a name can hold them all. -/
def normalize? (text : List Char) : Option (List Char) :=
  (text.mapM mapChar?).map (Composition.compose ·.flatten)

/-- What an encoded label starts with. -/
def mark : List Char := "xn--".toList

/-- How long an encoded label may be behind its mark. -/
def encodedLimit : Nat := 2000

/-- How long a label may be that has to be encoded. -/
def decodedLimit : Nat := 1000

/-- A label without its encoding, if it has one. Only what a label may become is encoded, and an
encoded label does not end with a hyphen. -/
def resolveLabel? (label : List Char) : Option (List Char) :=
  if mark.isPrefixOf label then do
    let form := label.drop mark.length
    if !label.all Punycode.isAscii || label.getLast? == some '-' then none
    if encodedLimit < form.length then none
    let resolved ← Punycode.decode? form
    if normalize? resolved == some resolved then some resolved else none
  else some label

/-! Joiners -/

def joiner : Char := '\u200d'

def nonJoiner : Char := '\u200c'

/-- The class of the marks that take away the vowel of a letter. -/
def vowelKiller : Nat := 9

/-- Whether the first character that letters do not join across is in a table. -/
def meets (table : CharTable) (text : List Char) : Bool :=
  (text.dropWhile Joining.isTransparent).head?.any table.contains

/-- Whether every joiner follows a mark that takes away a vowel; one that keeps letters apart may
also stand between two that would join. The text in front is given from its end. -/
def joinersFit (before : List Char) : List Char → Bool
  | [] => true
  | c :: rest =>
    let fits :=
      c ≠ joiner ∧ c ≠ nonJoiner || before.head?.any (combiningClass · == vowelKiller) ||
        c == nonJoiner && meets Joining.joinsAhead before && meets Joining.joinsBack rest
    fits && joinersFit (c :: before) rest

/-! Directions -/

/-- Whether a label runs in the direction of its first character. Marks at its end do not count. -/
def runsOneWay (label : List Char) : Bool :=
  match label.map Direction.ofChar with
  | [] => true
  | first :: rest =>
    let fromEnd := rest.reverse.dropWhile (· == .mark)
    match first with
    | .left =>
      fromEnd.head?.all [.left, .europeanNumber].contains &&
        !fromEnd.any [.right, .arabicNumber].contains
    | .right =>
      fromEnd.head?.all [.right, .europeanNumber, .arabicNumber].contains &&
        !fromEnd.contains .left &&
        !(fromEnd.contains .europeanNumber && fromEnd.contains .arabicNumber)
    | _ => false

/-- Whether a character makes the directions of all labels of its name count. -/
def runsLeft (c : Char) : Bool :=
  !Punycode.isAscii c && [.right, .arabicNumber].contains (Direction.ofChar c)

/-- Whether a label starts with a character of its own and its joiners have their places. -/
def isSound (label : List Char) : Bool :=
  label.all Punycode.isAscii || !label.head?.any isMark && joinersFit [] label

/-- The ASCII form of a label. -/
def labelToAscii? (label : List Char) : Option (List Char) :=
  if label.all Punycode.isAscii then some label
  else if decodedLimit < label.length then none
  else some (mark ++ Punycode.encode label)

end InterfaceSync.Domain
