/-! Blank characters: everything that Unicode calls white space. -/

namespace InterfaceSync

def isBlank (c : Char) : Bool :=
  let n := c.toNat
  9 ≤ n && n ≤ 13 || n == 0x20 || n == 0x85 || n == 0xA0 || n == 0x1680 ||
    0x2000 ≤ n && n ≤ 0x200A || n == 0x2028 || n == 0x2029 || n == 0x202F || n == 0x205F ||
    n == 0x3000

/-- The text without the characters of a class at its front and its end. -/
def trimWhere (blank : Char → Bool) (text : List Char) : List Char :=
  ((text.dropWhile blank).reverse.dropWhile blank).reverse

def trimBlanks (text : List Char) : List Char :=
  trimWhere isBlank text

def trimBlanksRight (text : List Char) : List Char :=
  (text.reverse.dropWhile isBlank).reverse

end InterfaceSync
