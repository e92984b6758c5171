import AccessGrants.Text.Reading

/-!
Strings in TOML text: basic ones with escapes and literal ones without, each on
one line or, between triple quotes, on several. A line break inside a string is
always a line feed, whichever way it was written.
-/

namespace AccessGrants.Toml

open Text

/-- Characters that may stand in a string or a comment: no controls but tabs. -/
def isPlain (c : Char) : Bool :=
  c = '\t' || (32 ≤ c.toNat && c.toNat ≠ 127)

def isBlank (c : Char) : Bool :=
  c = ' ' || c = '\t'

def charOfCode? (code : Nat) : Option Char :=
  if code.isValidChar then some (Char.ofNat code) else none

/-- The character that a backslash and this character stand for. -/
def escaped? (c : Char) : Option Char :=
  if c = '"' || c = '\\' then some c
  else if c = 'b' then some '\x08'
  else if c = 'f' then some '\x0c'
  else if c = 'n' then some '\n'
  else if c = 'r' then some '\r'
  else if c = 't' then some '\t'
  else none

/-- The character that an escape stands for; the text starts behind the
backslash. -/
def readEscape (cs : List Char) : Option (Char × List Char) :=
  match cs with
  | [] => none
  | c :: rest =>
    let width := if c = 'u' then 4 else if c = 'U' then 8 else 0
    if width = 0 then (escaped? c).map fun char => (char, rest)
    else
      let digits := rest.take width
      if digits.length = width then
        ((hexValues? digits).bind charOfCode?).map fun char => (char, rest.drop width)
      else none

/-- Skips the line break at the front and every blank and line break after it. -/
def skipBreaks : List Char → List Char
  | '\r' :: '\n' :: rest => skipBreaks rest
  | c :: rest => if c = '\n' || isBlank c then skipBreaks rest else c :: rest
  | [] => []

def startsWithBreak : List Char → Bool
  | '\n' :: _ => true
  | '\r' :: '\n' :: _ => true
  | _ => false

/-- A string on one line, up to and including its closing quote. -/
def readLine (quote : Char) (hasEscapes : Bool) : Nat → List Char → Option (List Char × List Char)
  | 0, _ => none
  | _, [] => none
  | fuel + 1, c :: rest =>
    if c = quote then some ([], rest)
    else if hasEscapes && c = '\\' then do
      let (char, rest) ← readEscape rest
      let (chars, rest) ← readLine quote hasEscapes fuel rest
      return (char :: chars, rest)
    else if isPlain c then do
      let (chars, rest) ← readLine quote hasEscapes fuel rest
      return (c :: chars, rest)
    else none

/-- A string on several lines, up to and including its closing quotes. Up to
two quotes may stand right before the closing ones. -/
def readBlock (quote : Char) (hasEscapes : Bool) : Nat → List Char → Option (List Char × List Char)
  | 0, _ => none
  | _, [] => none
  | fuel + 1, c :: rest =>
    if c = quote then
      let count := ((c :: rest).takeWhile (· = quote)).length
      let after := (c :: rest).dropWhile (· = quote)
      if count < 3 then do
        let (chars, rest) ← readBlock quote hasEscapes fuel after
        return (List.replicate count quote ++ chars, rest)
      else if count < 6 then some (List.replicate (count - 3) quote, after)
      else none
    else if hasEscapes && c = '\\' then
      if startsWithBreak (rest.dropWhile isBlank) then
        readBlock quote hasEscapes fuel (skipBreaks (rest.dropWhile isBlank))
      else do
        let (char, rest) ← readEscape rest
        let (chars, rest) ← readBlock quote hasEscapes fuel rest
        return (char :: chars, rest)
    else if startsWithBreak (c :: rest) then do
      let (chars, rest) ← readBlock quote hasEscapes fuel (if c = '\r' then rest.drop 1 else rest)
      return ('\n' :: chars, rest)
    else if isPlain c then do
      let (chars, rest) ← readBlock quote hasEscapes fuel rest
      return (c :: chars, rest)
    else none

/-- A line break right behind the opening quotes does not belong to the string. -/
def skipFirstBreak : List Char → List Char
  | '\n' :: rest => rest
  | '\r' :: '\n' :: rest => rest
  | cs => cs

def ofChars (reading : Option (List Char × List Char)) : Option (String × List Char) :=
  reading.map fun (chars, rest) => (String.ofList chars, rest)

/-- A string of a key: one line in either kind of quotes. -/
def readShort : List Char → Option (String × List Char)
  | '"' :: rest => ofChars (readLine '"' true rest.length rest)
  | '\'' :: rest => ofChars (readLine '\'' false rest.length rest)
  | _ => none

def readQuotation : List Char → Option (String × List Char)
  | '"' :: '"' :: '"' :: rest =>
    ofChars (readBlock '"' true rest.length (skipFirstBreak rest))
  | '\'' :: '\'' :: '\'' :: rest =>
    ofChars (readBlock '\'' false rest.length (skipFirstBreak rest))
  | cs => readShort cs

end AccessGrants.Toml
