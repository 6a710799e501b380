import BandCatalog.Url.Percent

/-!
# Hosts

Names and addresses of hosts: how a host is read in a special scheme (as a domain or an address) and
in any other (as it stands), and how it is written.
-/
namespace BandCatalog.Url

inductive Host where
  /-- A domain, or the host of a scheme that is not special. -/
  | name (s : String)
  | v4 (address : Nat)
  | v6 (pieces : List Nat)
  deriving DecidableEq, Repr

/-- Why a text is no URL. -/
inductive Error where
  | relativeWithoutBase
  | emptyHost
  | invalidPort
  | invalidIPv4
  | invalidIPv6
  | invalidDomain
  | invalidDomainCharacter
  | cannotBeABase
  deriving DecidableEq, Repr

def Error.message : Error → String
  | relativeWithoutBase => "relative URL without a base"
  | emptyHost => "empty host"
  | invalidPort => "invalid port number"
  | invalidIPv4 => "invalid IPv4 address"
  | invalidIPv6 => "invalid IPv6 address"
  | invalidDomain => "invalid international domain name"
  | invalidDomainCharacter => "invalid domain character"
  | cannotBeABase => "relative URL with a cannot-be-a-base base"

/-- A number in base 16 after `0x`, in base 8 after a zero, else in base 10. -/
def number? (cs : List Char) : Option Nat :=
  let read (base : Nat) (cs : List Char) : Option Nat :=
    cs.foldlM (fun n c => (hexValue? c).bind fun d => if d < base then some (n * base + d) else none) 0
  match cs with
  | [] => none
  | '0' :: 'x' :: r => read 16 r
  | '0' :: 'X' :: r => read 16 r
  | '0' :: c :: r => read 8 (c :: r)
  | cs => read 10 cs

def splitDots (cs : List Char) : List (List Char) := cs.splitOn '.'

/-- The parts between dots, less an empty one at the end. -/
def parts (cs : List Char) : List (List Char) :=
  let ps := splitDots cs
  if ps.getLast? = some [] ∧ 1 < ps.length then ps.dropLast else ps

/-- Whether the last part of a domain is a number, so that it has to be an address. -/
def endsInNumber (cs : List Char) : Bool :=
  match (parts cs).getLast? with
  | some last => (last ≠ [] ∧ last.all Char.isDigit) || (number? last).isSome
  | none => false

/-- One to four numbers; the last fills the bytes that the others leave. -/
def ipv4? (cs : List Char) : Option Nat := do
  let ps := parts cs
  if ps.length > 4 then none
  else
    let ns ← ps.mapM number?
    let last ← ns.getLast?
    let front := ns.dropLast
    if front.any (· > 255) ∨ last ≥ Nat.pow 256 (4 - front.length) then none
    else some (front.foldl (fun n b => n * 256 + b) 0 * Nat.pow 256 (4 - front.length) + last)

def ipv4Text (a : Nat) : List Char :=
  let byte (i : Nat) := Nat.toDigits 10 (a / Nat.pow 256 i % 256)
  byte 3 ++ '.' :: byte 2 ++ '.' :: byte 1 ++ '.' :: byte 0

/-- Four decimal numbers below 256 without needless zeros, as two pieces. -/
def dotted? (cs : List Char) : Option (List Nat) := do
  let ns ← (splitDots cs).mapM fun ds =>
    if ds ≠ [] ∧ ds.length ≤ 3 ∧ ds.all Char.isDigit ∧ (ds.head? ≠ some '0' ∨ ds = ['0']) then
      some (Nat.ofDigitChars 10 ds 0)
    else none
  match ns with
  | [a, b, c, d] =>
    if a < 256 ∧ b < 256 ∧ c < 256 ∧ d < 256 then some [a * 256 + b, c * 256 + d] else none
  | _ => none

def piece? (cs : List Char) : Option Nat :=
  if cs ≠ [] ∧ cs.length ≤ 4 then
    cs.foldlM (fun n c => (hexValue? c).map fun d => n * 16 + d) 0
  else none

/-- Pieces between colons; the last may be an IPv4 address if it ends the whole. -/
def pieces? (last : Bool) (cs : List Char) : Option (List Nat) :=
  if cs = [] then some []
  else do
    let ps := cs.splitOn ':'
    let front ← ps.dropLast.mapM piece?
    let tail ← ps.getLast?
    let tail ← if last ∧ tail.contains '.' then dotted? tail else (piece? tail).map ([·])
    some (front ++ tail)

/-- What stands before and after the first double colon. -/
def splitDoubleColon : List Char → Option (List Char × List Char)
  | ':' :: ':' :: r => some ([], r)
  | c :: r => (splitDoubleColon r).map fun (a, b) => (c :: a, b)
  | [] => none

/-- Eight pieces, or fewer around a double colon that stands for one zero at least. -/
def ipv6? (cs : List Char) : Option (List Nat) :=
  match splitDoubleColon cs with
  | none => (pieces? true cs).filter (·.length = 8)
  | some (a, b) => do
    let front ← pieces? false a
    let back ← pieces? true b
    let n := front.length + back.length
    if n ≤ 7 then some (front ++ List.replicate (8 - n) 0 ++ back) else none

/-- Length of the run of zeros at the start. -/
def zeros (ps : List Nat) : Nat := (ps.takeWhile (· == 0)).length

/-- Start and length of the first of the longest runs of two zeros or more. -/
def longestZeros (ps : List Nat) : Option (Nat × Nat) :=
  (List.range ps.length).foldl
    (fun best i =>
      let n := zeros (ps.drop i)
      if n ≥ 2 ∧ n > (best.map Prod.snd).getD 0 then some (i, n) else best)
    none

def joinColons (ps : List Nat) : List Char := [':'].intercalate (ps.map (Nat.toDigits 16))

def ipv6Text (ps : List Nat) : List Char :=
  match longestZeros ps with
  | none => joinColons ps
  | some (i, n) => joinColons (ps.take i) ++ ':' :: ':' :: joinColons (ps.drop (i + n))

/-- Characters that stand in no host. -/
def isForbidden (c : Char) : Bool :=
  c ∈ ['\x00', '\t', '\n', '\r', ' ', '#', '/', ':', '<', '>', '?', '@', '[', '\\', ']', '^', '|']

def isForbiddenInDomain (c : Char) : Bool := isForbidden c || c.toNat < 0x20 || c == '%' || c == '\x7f'

/-- An address in brackets. -/
def bracketed? (cs : List Char) : Option (Except Error Host) :=
  match cs with
  | '[' :: r =>
    some <| if r.getLast? = some ']' then
      match ipv6? r.dropLast with
      | some ps => .ok (.v6 ps)
      | none => .error .invalidIPv6
    else .error .invalidIPv6
  | _ => none

/-- The host of a scheme that is not special. -/
def Host.opaque? (cs : List Char) : Except Error Host :=
  (bracketed? cs).getD <|
    if cs.any isForbidden then .error .invalidDomainCharacter
    else .ok (.name (String.ofList (percentEncode isControl cs)))

def Host.toChars : Host → List Char
  | .name s => s.toList
  | .v4 a => ipv4Text a
  | .v6 ps => '[' :: ipv6Text ps ++ [']']

end BandCatalog.Url
