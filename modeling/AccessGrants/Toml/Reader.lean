import AccessGrants.Toml.Document
import AccessGrants.Toml.Moment
import AccessGrants.Toml.Numeral
import AccessGrants.Toml.Quotation

/-!
Reading TOML text. A key has fewer than eighty parts and a value nests to fewer
than eighty levels.
-/

namespace AccessGrants.Toml

open Text

/-- The greatest number of parts of a key and of levels of a value. -/
def nestingLimit : Nat := 79

def skipBlanks (cs : List Char) : List Char :=
  cs.dropWhile isBlank

/-- Skips blanks, line breaks and whole comments, as they may stand between the
items of an array. -/
def skipSpace (inComment : Bool) : List Char → Option (List Char)
  | [] => if inComment then none else some []
  | '\r' :: '\n' :: rest => skipSpace false rest
  | c :: rest =>
    if c = '\n' then skipSpace false rest
    else if inComment then if isPlain c then skipSpace true rest else none
    else if isBlank c then skipSpace false rest
    else if c = '#' then skipSpace true rest
    else if c = '\r' then none
    else some (c :: rest)

def isBareKeyChar (c : Char) : Bool :=
  c.isAlphanum || c = '-' || c = '_'

def readKeyPart (cs : List Char) : Option (String × List Char) :=
  let name := cs.takeWhile isBareKeyChar
  if name.isEmpty then readShort cs else some (String.ofList name, cs.dropWhile isBareKeyChar)

/-- Parts with dots between them and blanks around each. -/
def readKeyParts : Nat → List Char → Option (List String × List Char)
  | 0, _ => none
  | fuel + 1, cs => do
    let (part, rest) ← readKeyPart (skipBlanks cs)
    match skipBlanks rest with
    | '.' :: rest =>
      let (parts, rest) ← readKeyParts fuel rest
      return (part :: parts, rest)
    | rest => return ([part], rest)

def readKey (cs : List Char) : Option (Key × List Char) := do
  let (parts, rest) ← readKeyParts nestingLimit cs
  let name ← parts.getLast?
  return (⟨parts.dropLast, name⟩, rest)

def readSimple (cs : List Char) : Option (Value × List Char) :=
  match cs with
  | [] => none
  | 't' :: 'r' :: 'u' :: 'e' :: rest => some (.boolean true, rest)
  | 'f' :: 'a' :: 'l' :: 's' :: 'e' :: rest => some (.boolean false, rest)
  | c :: _ =>
    if c = '"' || c = '\'' then (readQuotation cs).map fun (s, rest) => (.text s, rest)
    else
      match Moment.skip? cs with
      | some rest => some (.moment, rest)
      | none => readNumber cs

mutual

/-- Reads a value that nests to at most `depth` further levels. -/
def readValue : Nat → Nat → List Char → Option (Value × List Char)
  | 0, _, _ => none
  | fuel + 1, depth, cs =>
    match cs with
    | '[' :: rest =>
      if depth = 0 then none
      else do
        let (items, rest) ← readItems fuel (depth - 1) rest
        return (.array false items, rest)
    | '{' :: rest =>
      if depth = 0 then none
      else
        match skipBlanks rest with
        | '}' :: rest => some (.table .braces [], rest)
        | rest => do
          let (entries, rest) ← readPairs fuel (depth - 1) rest
          let filled ← fill entries []
          return (.table .braces filled, rest)
    | cs => readSimple cs

/-- Reads the items of an array and its closing bracket. A comma may follow the
last item. -/
def readItems : Nat → Nat → List Char → Option (List Value × List Char)
  | 0, _, _ => none
  | fuel + 1, depth, cs => do
    match ← skipSpace false cs with
    | ']' :: rest => return ([], rest)
    | start =>
      let (item, rest) ← readValue fuel depth start
      match ← skipSpace false rest with
      | ',' :: rest =>
        let (items, rest) ← readItems fuel depth rest
        return (item :: items, rest)
      | ']' :: rest => return ([item], rest)
      | _ => none

def readPairs : Nat → Nat → List Char → Option (List Entry × List Char)
  | 0, _, _ => none
  | fuel + 1, depth, cs => do
    let (key, rest) ← readKey cs
    let rest ← skipMark '=' rest
    let (value, rest) ← readValue fuel depth (skipBlanks rest)
    match skipBlanks rest with
    | ',' :: rest =>
      let (entries, rest) ← readPairs fuel depth rest
      return (⟨key, value⟩ :: entries, rest)
    | '}' :: rest => return ([⟨key, value⟩], rest)
    | _ => none

end

/-- Skips the rest of a line, which may be a comment, with its line break. -/
def skipLineEnd (cs : List Char) : Option (List Char) :=
  let rest :=
    match skipBlanks cs with
    | '#' :: rest => rest.dropWhile isPlain
    | rest => rest
  match rest with
  | [] => some []
  | '\n' :: rest => some rest
  | '\r' :: '\n' :: rest => some rest
  | _ => none

def readEntry (cs : List Char) : Option (Entry × List Char) := do
  let (key, rest) ← readKey cs
  let rest ← skipMark '=' rest
  let rest := skipBlanks rest
  let (value, rest) ← readValue (2 * rest.length + 2) nestingLimit rest
  let rest ← skipLineEnd rest
  return (⟨key, value⟩, rest)

/-- A header; the text starts behind the first bracket. -/
def readHeading (cs : List Char) : Option (Heading × List Char) :=
  match cs with
  | '[' :: rest => do
    let (key, rest) ← readKey rest
    let rest ← skipMark ']' rest
    let rest ← skipMark ']' rest
    return (.item key, ← skipLineEnd rest)
  | cs => do
    let (key, rest) ← readKey cs
    let rest ← skipMark ']' rest
    return (.table key, ← skipLineEnd rest)

def readLines : Nat → List Char → Option Document
  | 0, _ => none
  | fuel + 1, cs =>
    match skipBlanks cs with
    | [] => some ⟨[], []⟩
    | '[' :: rest => do
      let (heading, rest) ← readHeading rest
      let document ← readLines fuel rest
      return ⟨[], ⟨heading, document.entries⟩ :: document.sections⟩
    | start =>
      if startsWithBreak start || start.head? = some '#' then do
        readLines fuel (← skipLineEnd start)
      else do
        let (entry, rest) ← readEntry start
        let document ← readLines fuel rest
        return ⟨entry :: document.entries, document.sections⟩

/-- A mark at the very front says only how the text is encoded. -/
def skipMarkOfOrder : List Char → List Char
  | '\ufeff' :: rest => rest
  | cs => cs

def read? (text : String) : Option Entries :=
  let cs := skipMarkOfOrder text.toList
  (readLines (cs.length + 1) cs).bind Document.root?

end AccessGrants.Toml
