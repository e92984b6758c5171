/-!
Blank characters and trimming. A character is blank when it has the Unicode
property `White_Space`; the property has 25 members in ten ranges, and the zero
width space U+200B is not one of them. Trimming removes blanks from both ends
of a text and leaves those inside it alone.
-/

namespace AccessGrants.Text

/-- The ranges of `White_Space`, both ends included. -/
def blankRanges : List (Nat × Nat) :=
  [(0x09, 0x0D), (0x20, 0x20), (0x85, 0x85), (0xA0, 0xA0), (0x1680, 0x1680),
   (0x2000, 0x200A), (0x2028, 0x2029), (0x202F, 0x202F), (0x205F, 0x205F), (0x3000, 0x3000)]

def isBlank (c : Char) : Bool :=
  blankRanges.any fun (low, high) => low ≤ c.toNat && c.toNat ≤ high

def trimChars (cs : List Char) : List Char :=
  ((cs.dropWhile isBlank).reverse.dropWhile isBlank).reverse

/-- Nothing remains once the blanks at both ends are gone. -/
def isAllBlank (text : String) : Bool :=
  (trimChars text.toList).isEmpty

end AccessGrants.Text
