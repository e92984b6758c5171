import AccessGrants.Text.Numeral

/-!
Reading a text from the front. A reader takes what it wants from the front of a
list of characters and hands back the rest, or fails.
-/

namespace AccessGrants.Text

/-- What was read, and the rest of the text. -/
abbrev Reading (α : Type) : Type := Option (α × List Char)

/-- Skips one character, which has to be the given one. -/
def skipMark (mark : Char) : List Char → Option (List Char)
  | [] => none
  | c :: rest => if c = mark then some rest else none

/-- The parts of a text between the marks; there is always one more part than
there are marks. -/
def parts (mark : Char) : List Char → List (List Char)
  | [] => [[]]
  | c :: rest =>
    if c = mark then [] :: parts mark rest
    else
      match parts mark rest with
      | [] => [[c]]
      | part :: others => (c :: part) :: others

/-- The value of a digit in base sixteen, in either case. -/
def hexValue? (c : Char) : Option Nat :=
  if '0' ≤ c && c ≤ '9' then some (c.toNat - 48)
  else if 'a' ≤ c && c ≤ 'f' then some (c.toNat - 87)
  else if 'A' ≤ c && c ≤ 'F' then some (c.toNat - 55)
  else none

def hexValues? (cs : List Char) : Option Nat :=
  cs.foldlM (fun n c => (hexValue? c).map fun digit => 16 * n + digit) 0

end AccessGrants.Text
