import AccessGrants.Text.Reading

/-!
Dates and times in TOML text: a date, a time of day, or both with or without
the distance from universal time. They are recognised with all their rules, and
nothing of them is kept.
-/

namespace AccessGrants.Toml.Moment

open Text

/-- Skips exactly that many digits and answers their value. -/
def readDigits (count : Nat) (cs : List Char) : Option (Nat × List Char) :=
  let digits := cs.take count
  if digits.length = count && digits.all Char.isDigit then
    some (Nat.ofDigitChars 10 digits 0, cs.drop count)
  else none

/-- Two digits whose value lies within bounds. -/
def readPair (least greatest : Nat) (cs : List Char) : Option (Nat × List Char) := do
  let (value, rest) ← readDigits 2 cs
  if least ≤ value && value ≤ greatest then some (value, rest) else none

def isLeap (year : Nat) : Bool :=
  (year % 4 = 0 && year % 100 ≠ 0) || year % 400 = 0

def daysOf (year month : Nat) : Nat :=
  if month = 2 then if isLeap year then 29 else 28
  else if month = 4 || month = 6 || month = 9 || month = 11 then 30
  else 31

def skipDate? (cs : List Char) : Option (List Char) := do
  let (year, cs) ← readDigits 4 cs
  let cs ← skipMark '-' cs
  let (month, cs) ← readPair 1 12 cs
  let cs ← skipMark '-' cs
  let (_, cs) ← readPair 1 (daysOf year month) cs
  return cs

/-- A time has its seconds, of which a leap second is one. -/
def skipTime? (cs : List Char) : Option (List Char) := do
  let (_, cs) ← readPair 0 23 cs
  let cs ← skipMark ':' cs
  let (_, cs) ← readPair 0 59 cs
  let cs ← skipMark ':' cs
  let (_, cs) ← readPair 0 60 cs
  match cs with
  | '.' :: c :: rest => if c.isDigit then some (rest.dropWhile Char.isDigit) else some cs
  | cs => some cs

/-- The distance from universal time may be left out. -/
def skipOffset (cs : List Char) : List Char :=
  match cs with
  | [] => []
  | c :: rest =>
    if c = 'Z' || c = 'z' then rest
    else if c = '+' || c = '-' then
      let offset := do
        let (_, rest) ← readPair 0 23 rest
        let rest ← skipMark ':' rest
        let (_, rest) ← readPair 0 59 rest
        return rest
      offset.getD cs
    else cs

/-- The time of day behind a date, if there is one. -/
def skipTimeOfDate (cs : List Char) : List Char :=
  match cs with
  | [] => []
  | c :: rest =>
    if c = 'T' || c = 't' || c = ' ' then
      match skipTime? rest with
      | some rest => skipOffset rest
      | none => cs
    else cs

def skip? (cs : List Char) : Option (List Char) :=
  match skipDate? cs with
  | some rest => some (skipTimeOfDate rest)
  | none => skipTime? cs

end AccessGrants.Toml.Moment
