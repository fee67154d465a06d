import InterfaceSync.Text.CombiningClass
import InterfaceSync.Text.Decomposition

/-! Composed texts. Characters are taken apart, the marks behind each of them are put in order, and
all that can be written as one character is. Texts that differ only in how their characters are put
together have one composed form. -/

namespace InterfaceSync.Composition

structure Placed where
  char : Char
  place : Nat

/-- Puts a character in front of a text, but behind the marks of lower classes it begins with. -/
def insertPlaced (c : Placed) : List Placed → List Placed
  | [] => [c]
  | next :: rest =>
    if next.place ≠ 0 ∧ next.place < c.place then next :: insertPlaced c rest
    else c :: next :: rest

/-- The parts of a text, with the marks between two other characters in the order of their
classes. -/
def ordered (text : List Char) : List Placed :=
  ((text.flatMap decomposeChar).map fun c => ⟨c, combiningClass c⟩).foldr insertPlaced []

def joined? (a b : Char) : Option Char :=
  (Hangul.compose? a b).or <|
    (composites.rows.find? (·.image == [a.toNat, b.toNat])).map (Char.ofNat ·.first)

/-- Joins what it can with a character. Behind that character stand the marks that did not join, the
last one first; one of the same class or a higher one keeps what follows it from joining. -/
def joinTo (base : Char) (kept : List Placed) : List Placed → List Char
  | [] => base :: kept.reverse.map (·.char)
  | next :: rest =>
    match if kept.head?.any (next.place ≤ ·.place) then none else joined? base next.char with
    | some whole => joinTo whole kept rest
    | none =>
      if next.place = 0 then base :: kept.reverse.map (·.char) ++ joinTo next.char [] rest
      else joinTo base (next :: kept) rest

/-- The composed form of a text. Texts without marks and without characters that are made of others
are composed. -/
def compose (text : List Char) : List Char :=
  if text.all (· < '\u0300') then text
  else
    let parts := ordered text
    let marks := parts.takeWhile (·.place ≠ 0)
    match parts.dropWhile (·.place ≠ 0) with
    | [] => marks.map (·.char)
    | base :: rest => marks.map (·.char) ++ joinTo base.char [] rest

end InterfaceSync.Composition
