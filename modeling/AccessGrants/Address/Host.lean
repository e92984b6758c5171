import AccessGrants.Address.Basic
import AccessGrants.Text.Percent

/-!
Hosts. A host in brackets is an IPv6 address. Any other host is a domain or an
IPv4 address where the scheme is one of the web, and elsewhere a text of almost
any form.
-/

namespace AccessGrants.Address

open Text

/-! ## Strict internet addresses -/

/-- A number below 256 without leading zeros. -/
def isOctet (cs : List Char) : Bool :=
  cs.length ≤ 3 && (cs.length = 1 || cs.head? ≠ some '0') && (readNat? cs).any (· < 256)

def isDottedQuad (cs : List Char) : Bool :=
  let octets := parts '.' cs
  octets.length = 4 && octets.all isOctet

def isHexGroup (cs : List Char) : Bool :=
  !cs.isEmpty && cs.length ≤ 4 && cs.all fun c => (hexValue? c).isSome

/-- How many sixteen bit words the groups stand for. The last of them may be a
dotted quad, which stands for two, if they close the address. -/
def wordCount? (closing : Bool) : List (List Char) → Option Nat
  | [] => some 0
  | [group] =>
    if isHexGroup group then some 1
    else if closing && isDottedQuad group then some 2
    else none
  | group :: rest => if isHexGroup group then (wordCount? closing rest).map (· + 1) else none

/-- What stands before and behind the first pair of colons. -/
def splitGap : List Char → Option (List Char × List Char)
  | [] => none
  | ':' :: ':' :: rest => some ([], rest)
  | c :: rest => (splitGap rest).map fun (before, behind) => (c :: before, behind)

def groups (cs : List Char) : List (List Char) :=
  if cs.isEmpty then [] else parts ':' cs

/-- Eight words, of which a pair of colons can leave out one or more. -/
def isIPv6 (cs : List Char) : Bool :=
  match splitGap cs with
  | none => wordCount? true (parts ':' cs) = some 8
  | some (before, behind) =>
    match wordCount? false (groups before), wordCount? true (groups behind) with
    | some m, some n => m + n ≤ 7
    | _, _ => false

/-! ## Hosts in addresses -/

/-- The value of a number of an IPv4 address in the loose form: `0x` announces
hexadecimal digits, and any other zero in front octal ones. -/
def looseNumber? (cs : List Char) : Option Nat :=
  let digits (base : Nat) (cs : List Char) : Option Nat :=
    cs.foldlM (fun n c => do
      let digit ← hexValue? c
      if digit < base then some (base * n + digit) else none) 0
  match cs with
  | [] => none
  | '0' :: 'x' :: rest | '0' :: 'X' :: rest => digits 16 rest
  | ['0'] => some 0
  | '0' :: rest => digits 8 rest
  | cs => digits 10 cs

/-- The labels of a domain; one point at the end does not count. -/
def labels (cs : List Char) : List (List Char) :=
  let all := parts '.' cs
  if all.length > 1 && all.getLast? = some [] then all.dropLast else all

/-- A host whose last label is a number has to be an IPv4 address. -/
def endsInNumber (cs : List Char) : Bool :=
  match (labels cs).getLast? with
  | none => false
  | some label => (!label.isEmpty && label.all Char.isDigit) || (looseNumber? label).isSome

/-- At most four numbers; the last fills all bytes that the others leave. -/
def isLooseIPv4 (cs : List Char) : Bool :=
  match (labels cs).mapM looseNumber? with
  | none => false
  | some numbers =>
    let before := numbers.dropLast
    before.length < 4 && before.all (· < 256) &&
      numbers.getLast?.any (· < Nat.pow 256 (4 - before.length))

/-- The marks that neither a domain nor a text host may hold. -/
def isHostMark (c : Char) : Bool :=
  c.toNat = 0 || "\t\n\r #/:<>?@[\\]^|".toList.contains c

/-- A domain also excludes controls and the percent sign. -/
def isDomainMark (c : Char) : Bool :=
  isHostMark c || c.toNat < 0x20 || c.toNat = 0x7F || c = '%'

def checkIPv6 (cs : List Char) : Except AddressError Unit :=
  if cs.getLast? = some ']' && isIPv6 (cs.drop 1).dropLast then .ok () else .error .badIPv6

def checkText (cs : List Char) : Except AddressError Unit :=
  if cs.any isHostMark then .error .badHostCharacter else .ok ()

def checkDomain (cs : List Char) : Except AddressError Unit :=
  match decodePercent cs with
  | .error _ => .error .badDomain
  | .ok domain =>
    let domain := domain.toList
    if domain.any isDomainMark then .error .badDomain
    else if domain.isEmpty then .error .noHost
    else if endsInNumber domain && !isLooseIPv4 domain then .error .badIPv4
    else .ok ()

/-- Checks a host, which is a domain or any text. -/
def checkHost (isDomain : Bool) (cs : List Char) : Except AddressError Unit :=
  if cs.head? = some '[' then checkIPv6 cs
  else if isDomain then checkDomain cs
  else checkText cs

end AccessGrants.Address
