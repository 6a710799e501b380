/-!
# Bytes of a text

How many bytes a text takes in UTF-8, the cut at a byte limit, and the reading of bytes that may be
ill formed. The reader is a machine on octets: it keeps what a lead byte still asks for, and each
maximal ill-formed piece is read as one mark.
-/
namespace BandCatalog

/-- Whether two sequences of bytes are equal. -/
instance (priority := 2000) decidableEqBytes : DecidableEq ByteArray := ByteArray.instDecidableEq

namespace Text

theorem fromUTF8?_toUTF8 (s : String) : String.fromUTF8? s.toUTF8 = some s := by
  rw [String.fromUTF8?, String.toUTF8_eq_toByteArray, dif_pos s.isValidUTF8]
  rfl

/-- The bytes that are a text are those that it is written in. -/
theorem fromUTF8?_eq_some {b : ByteArray} {s : String} :
    String.fromUTF8? b = some s ↔ b = s.toUTF8 := by
  constructor
  · intro h
    rw [String.fromUTF8?] at h
    split at h
    · next hvalid =>
      cases h
      rfl
    · cases h
  · rintro rfl
    exact fromUTF8?_toUTF8 s

/-- A text is written one character after the other. -/
theorem toUTF8_eq (s : String) : s.toUTF8 = ⟨(s.toList.flatMap String.utf8EncodeChar).toArray⟩ := by
  rw [String.toUTF8_eq_toByteArray, ← String.utf8Encode_toList, List.utf8Encode]
  exact ByteArray.ext List.data_toByteArray

def byteSize (cs : List Char) : Nat := cs.foldr (fun c n => c.utf8Size + n) 0

@[simp] theorem byteSize_nil : byteSize [] = 0 := rfl
@[simp] theorem byteSize_cons (c : Char) (r : List Char) :
    byteSize (c :: r) = c.utf8Size + byteSize r := by simp [byteSize]
@[simp] theorem byteSize_append (a b : List Char) :
    byteSize (a ++ b) = byteSize a + byteSize b := by
  induction a with
  | nil => simp
  | cons c r ih => simp [ih, Nat.add_assoc]

/-- The longest prefix of whole characters that takes at most `n` bytes. -/
def takeBytes : Nat → List Char → List Char
  | _, [] => []
  | n, c :: r => if c.utf8Size ≤ n then c :: takeBytes (n - c.utf8Size) r else []

/-- The first `n` bytes of a text, if they end where a character ends. -/
def prefixOfBytes? (n : Nat) (cs : List Char) : Option (List Char) :=
  let front := takeBytes n cs
  if byteSize front = n then some front else none

/-- A character that is not complete: how many bytes it lacks, where the next of them may lie, and
the bits read so far. -/
structure Unfinished where
  lacking : Nat
  low : Nat
  high : Nat
  bits : Nat

/-- What a byte starts: a character of its own, a longer one, or nothing. -/
inductive Opening where
  | single (c : Char)
  | longer (u : Unfinished)
  | illFormed

def opening (b : Nat) : Opening :=
  if b < 0x80 then .single (Char.ofNat b)
  else if b < 0xC2 then .illFormed
  else if b < 0xE0 then .longer ⟨1, 0x80, 0xBF, b - 0xC0⟩
  else if b < 0xF0 then
    .longer ⟨2, if b = 0xE0 then 0xA0 else 0x80, if b = 0xED then 0x9F else 0xBF, b - 0xE0⟩
  else if b < 0xF5 then
    .longer ⟨3, if b = 0xF0 then 0x90 else 0x80, if b = 0xF4 then 0x8F else 0xBF, b - 0xF0⟩
  else .illFormed

/-- One octet read: what it adds to the text, and what is unfinished after it. -/
def octet (mark : List Char) (u? : Option Unfinished) (b : Nat) : List Char × Option Unfinished :=
  let afresh := match opening b with
    | .single c => ([c], none)
    | .longer u => ([], some u)
    | .illFormed => (mark, none)
  match u? with
  | none => afresh
  | some u =>
    if u.low ≤ b ∧ b ≤ u.high then
      let bits := u.bits * 64 + (b - 0x80)
      if u.lacking ≤ 1 then ([Char.ofNat bits], none)
      else ([], some ⟨u.lacking - 1, 0x80, 0xBF, bits⟩)
    else (mark ++ afresh.1, afresh.2)

def decodeFrom (mark : List Char) : Option Unfinished → List UInt8 → List Char
  | none, [] => []
  | some _, [] => mark
  | u?, b :: r =>
    let (out, u?) := octet mark u? b.toNat
    out ++ decodeFrom mark u? r

/-- The text of some bytes, with `mark` for each maximal ill-formed piece. -/
def decode (mark : List Char) (bytes : List UInt8) : List Char := decodeFrom mark none bytes

/-- The text of some bytes, with U+FFFD for each maximal ill-formed piece. -/
def decodeLossy (bytes : ByteArray) : String :=
  match String.fromUTF8? bytes with
  | some s => s
  | none => String.ofList (decode [Char.ofNat 0xFFFD] bytes.toList)

end Text

end BandCatalog
