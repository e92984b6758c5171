import AccessGrants.Text.Numeral

/-!
Text in bytes that need not be text. The bytes are taken one after the other;
each either completes a character, goes on with one, or shows that those before
it are the beginning of none. A character has only one spelling, so overlong
sequences are broken, and so are surrogates and numbers above U+10FFFF.
-/

namespace AccessGrants.Text

/-- A character of which the first bytes have been seen. -/
structure Pending where
  /-- The bits of its number so far. -/
  code : Nat
  low : UInt8
  high : UInt8
  /-- How many bytes it has behind the next one. -/
  more : Nat
  seen : Nat
  deriving DecidableEq, Repr

/-- What a byte above U+007F begins. The bounds of the second byte exclude
overlong sequences, surrogates and numbers that are too large. -/
def Pending.begin? (byte : UInt8) : Option Pending :=
  let n := byte.toNat
  if n < 0xC2 then none
  else if n < 0xE0 then some ⟨n - 0xC0, 0x80, 0xBF, 0, 1⟩
  else if n = 0xE0 then some ⟨0, 0xA0, 0xBF, 1, 1⟩
  else if n = 0xED then some ⟨0xD, 0x80, 0x9F, 1, 1⟩
  else if n < 0xF0 then some ⟨n - 0xE0, 0x80, 0xBF, 1, 1⟩
  else if n = 0xF0 then some ⟨0, 0x90, 0xBF, 2, 1⟩
  else if n < 0xF4 then some ⟨n - 0xF0, 0x80, 0xBF, 2, 1⟩
  else if n = 0xF4 then some ⟨4, 0x80, 0x8F, 2, 1⟩
  else none

inductive Piece where
  | char (c : Char)
  /-- So many bytes that belong to no character. -/
  | broken (length : Nat)
  /-- A character that the end cuts off. -/
  | cutOff
  deriving DecidableEq, Repr

namespace Piece

/-- The pieces that a byte completes at the start of a character, and what it
leaves pending. -/
def ofFirst (byte : UInt8) : List Piece × Option Pending :=
  if byte < 0x80 then ([.char (Char.ofNat byte.toNat)], none)
  else
    match Pending.begin? byte with
    | some pending => ([], some pending)
    | none => ([.broken 1], none)

def ofNext (pending : Pending) (byte : UInt8) : List Piece × Option Pending :=
  if pending.low ≤ byte && byte ≤ pending.high then
    let code := 64 * pending.code + (byte.toNat - 0x80)
    match pending.more with
    | 0 => ([.char (Char.ofNat code)], none)
    | more + 1 => ([], some ⟨code, 0x80, 0xBF, more, pending.seen + 1⟩)
  else
    let (pieces, next) := ofFirst byte
    (.broken pending.seen :: pieces, next)

def ofBytes : Option Pending → List UInt8 → List Piece
  | none, [] => []
  | some _, [] => [.cutOff]
  | none, byte :: rest =>
    let (pieces, next) := ofFirst byte
    pieces ++ ofBytes next rest
  | some pending, byte :: rest =>
    let (pieces, next) := ofNext pending byte
    pieces ++ ofBytes next rest

end Piece

/-- Why bytes are not text; the index is that of the first byte that belongs to
no character. -/
inductive Utf8Error where
  | broken (index length : Nat)
  | cutOff (index : Nat)
  deriving DecidableEq, Repr

def Utf8Error.message : Utf8Error → String
  | .broken index length =>
    "invalid utf-8 sequence of " ++ decimal length ++ " bytes from index " ++ decimal index
  | .cutOff index => "incomplete utf-8 byte sequence from index " ++ decimal index

/-- The characters of pieces that begin at an index, if there is nothing else
among them. -/
def charsOfPieces (index : Nat) : List Piece → Except Utf8Error (List Char)
  | [] => .ok []
  | .char c :: rest => (charsOfPieces (index + c.utf8Size) rest).map (c :: ·)
  | .broken length :: _ => .error (.broken index length)
  | .cutOff :: _ => .error (.cutOff index)

def decodeUtf8 (bytes : List UInt8) : Except Utf8Error String :=
  (charsOfPieces 0 (Piece.ofBytes none bytes)).map String.ofList

/-- Reads all bytes; what is no character is replaced by U+FFFD. -/
def decodeUtf8Lossy (bytes : List UInt8) : String :=
  String.ofList <| (Piece.ofBytes none bytes).map fun
    | .char c => c
    | _ => '\uFFFD'

end AccessGrants.Text
