import BandCatalog.Json.Basic

/-!
# Tokens of JSON

The text of each token, and the scanner, a machine on characters: it holds the lexeme that it is in
the middle of. `scan` accepts exactly the lexemes of RFC 8259; white space is space, tab, line feed
and carriage return.
-/
namespace BandCatalog.Json

inductive Token where
  | beginObject
  | endObject
  | beginArray
  | endArray
  | colon
  | comma
  | null
  | bool (b : Bool)
  | number (n : Number)
  /-- A string literal; nothing if it holds half a surrogate pair. -/
  | text (s : Option String)
  deriving DecidableEq, Repr

def hexChar (n : Nat) : Char := Nat.digitChar n

def hexValue? (c : Char) : Option Nat :=
  if '0' ≤ c ∧ c ≤ '9' then some (c.toNat - '0'.toNat)
  else if 'a' ≤ c ∧ c ≤ 'f' then some (c.toNat - 'a'.toNat + 10)
  else if 'A' ≤ c ∧ c ≤ 'F' then some (c.toNat - 'A'.toNat + 10)
  else none

/-- The characters of a literal: quote and backslash are escaped, and what lies below the space. -/
def escape (c : Char) : List Char :=
  if c = '"' then ['\\', '"']
  else if c = '\\' then ['\\', '\\']
  else if c = '\n' then ['\\', 'n']
  else if c = '\r' then ['\\', 'r']
  else if c = '\t' then ['\\', 't']
  else if c = '\x08' then ['\\', 'b']
  else if c = '\x0c' then ['\\', 'f']
  else if c.toNat < 0x20 then ['\\', 'u', '0', '0', hexChar (c.toNat / 16), hexChar (c.toNat % 16)]
  else [c]

/-- The character that an escape of two characters stands for. -/
def unescape? (c : Char) : Option Char :=
  if c = '"' ∨ c = '\\' ∨ c = '/' then some c
  else if c = 'b' then some '\x08'
  else if c = 'f' then some '\x0c'
  else if c = 'n' then some '\n'
  else if c = 'r' then some '\r'
  else if c = 't' then some '\t'
  else none

/-- A piece of a literal: a character, or a 16-bit unit written by its code. -/
inductive Piece where
  | char (c : Char)
  | unit (u : Nat)
  deriving DecidableEq, Repr

def isHighUnit (u : Nat) : Bool := 0xD800 ≤ u && u ≤ 0xDBFF
def isLowUnit (u : Nat) : Bool := 0xDC00 ≤ u && u ≤ 0xDFFF

/-- Units put together to characters; `high` is a first half that still lacks its second. -/
def Piece.join (high : Option Nat) : List Piece → Option (List Char)
  | [] => if high.isSome then none else some []
  | .char c :: r => if high.isSome then none else (c :: ·) <$> join none r
  | .unit u :: r =>
    match high with
    | some h =>
      if isLowUnit u then
        (Char.ofNat (0x10000 + (h - 0xD800) * 0x400 + (u - 0xDC00)) :: ·) <$> join none r
      else none
    | none =>
      if isHighUnit u then join (some u) r
      else if isLowUnit u then none
      else (Char.ofNat u :: ·) <$> join none r

def isNumeric (c : Char) : Bool := c.isDigit || c == '-' || c == '+' || c == '.' || c == 'e' || c == 'E'

def digit (c : Char) : Fin 10 := Fin.ofNat 10 (c.toNat - '0'.toNat)

def Number.toChars (n : Number) : List Char :=
  (if n.negative then ['-'] else []) ++ Nat.toDigits 10 n.whole ++
    (if n.fraction = [] then [] else '.' :: n.fraction.map fun d => Nat.digitChar d.val) ++
    match n.exponent with
    | none => []
    | some e => 'e' :: (if e < 0 then '-' else '+') :: Nat.toDigits 10 e.natAbs

/-- What stands after the whole part and the fraction of a number. -/
def exponent? : List Char → Option (Option Int)
  | [] => some none
  | c :: r =>
    if c = 'e' ∨ c = 'E' then
      let (negative, digits) := match r with
        | '-' :: s => (true, s)
        | '+' :: s => (false, s)
        | s => (false, s)
      if digits ≠ [] ∧ digits.all Char.isDigit then
        let n := Nat.ofDigitChars 10 digits 0
        some (some (if negative then -(n : Int) else n))
      else none
    else none

/-- The number that a lexeme is, if it is one. -/
def Number.ofChars? (cs : List Char) : Option Number :=
  let negative := cs.head? == some '-'
  let cs := if negative then cs.tail else cs
  let whole := cs.takeWhile Char.isDigit
  let rest := cs.dropWhile Char.isDigit
  if whole = [] ∨ (whole.head? = some '0' ∧ whole ≠ ['0']) then none
  else
    let pointed := rest.head? == some '.'
    let fraction := if pointed then rest.tail.takeWhile Char.isDigit else []
    let rest := if pointed then rest.tail.dropWhile Char.isDigit else rest
    if pointed ∧ fraction = [] then none
    else (exponent? rest).map fun e =>
      ⟨negative, Nat.ofDigitChars 10 whole 0, fraction.map digit, e⟩

def word? (cs : List Char) : Option Token :=
  if cs = ['n', 'u', 'l', 'l'] then some .null
  else if cs = ['t', 'r', 'u', 'e'] then some (.bool true)
  else if cs = ['f', 'a', 'l', 's', 'e'] then some (.bool false)
  else none

def isSpace (c : Char) : Bool := c == ' ' || c == '\t' || c == '\n' || c == '\r'

/-- The lexeme that the scanner is in, its characters newest first. -/
inductive Lexeme where
  | gap
  | word (cs : List Char)
  | number (cs : List Char)
  | text (ps : List Piece)
  deriving Repr

def mark? (c : Char) : Option Token :=
  if c = '\x7b' then some .beginObject
  else if c = '\x7d' then some .endObject
  else if c = '[' then some .beginArray
  else if c = ']' then some .endArray
  else if c = ':' then some .colon
  else if c = ',' then some .comma
  else none

/-- What a character does between two lexemes: the token it is, and the lexeme it opens. -/
def start (c : Char) : Option (List Token × Lexeme) :=
  if isSpace c then some ([], .gap)
  else if c = '"' then some ([], .text [])
  else if c.isDigit ∨ c = '-' then some ([], .number [c])
  else if c.isLower then some ([], .word [c])
  else (mark? c).map fun t => ([t], .gap)

/-- The token of a lexeme that ended because another character follows it. -/
def Lexeme.close : Lexeme → Option (List Token)
  | .gap => some []
  | .word cs => (word? cs.reverse).map ([·])
  | .number cs => (Number.ofChars? cs.reverse).map fun n => [.number n]
  | .text _ => none

def scanFrom : Lexeme → List Char → Option (List Token)
  | .text ps, '"' :: r =>
    (.text ((Piece.join none ps.reverse).map String.ofList) :: ·) <$> scanFrom .gap r
  | .text ps, '\\' :: 'u' :: a :: b :: c :: d :: r => do
    let a ← hexValue? a
    let b ← hexValue? b
    let c ← hexValue? c
    let d ← hexValue? d
    scanFrom (.text (.unit (((a * 16 + b) * 16 + c) * 16 + d) :: ps)) r
  | .text ps, '\\' :: c :: r => do
    let c ← unescape? c
    scanFrom (.text (.char c :: ps)) r
  | .text ps, c :: r => if c.toNat < 0x20 ∨ c = '\\' then none else scanFrom (.text (.char c :: ps)) r
  | l, [] => l.close
  | .gap, c :: r => do
    let (ts, l) ← start c
    (ts ++ ·) <$> scanFrom l r
  | .word cs, c :: r =>
    if c.isLower then scanFrom (.word (c :: cs)) r
    else do
      let t ← (Lexeme.word cs).close
      let (ts, l) ← start c
      (t ++ ts ++ ·) <$> scanFrom l r
  | .number cs, c :: r =>
    if isNumeric c then scanFrom (.number (c :: cs)) r
    else do
      let t ← (Lexeme.number cs).close
      let (ts, l) ← start c
      (t ++ ts ++ ·) <$> scanFrom l r

/-- The tokens of a text, if it consists of tokens and white space. -/
def scan (cs : List Char) : Option (List Token) := scanFrom .gap cs

namespace Token

def toChars : Token → List Char
  | .beginObject => ['\x7b']
  | .endObject => ['\x7d']
  | .beginArray => ['[']
  | .endArray => [']']
  | .colon => [':']
  | .comma => [',']
  | .null => ['n', 'u', 'l', 'l']
  | .bool true => ['t', 'r', 'u', 'e']
  | .bool false => ['f', 'a', 'l', 's', 'e']
  | .number n => n.toChars
  | .text (some s) => '"' :: s.toList.flatMap escape ++ ['"']
  | .text none => ['"', '\\', 'u', 'd', '8', '0', '0', '"']

end Token

end BandCatalog.Json
