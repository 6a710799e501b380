import BandCatalog.Json.Reader

/-!
# Records

How a value of known fields stands in JSON: as an object of its fields by name, where other members
are ignored and none of its own may come twice, or as an array of its fields in their order.
-/
namespace BandCatalog.Json

/-- What a record holds for one of its fields. -/
inductive Slot where
  | given (v : Json)
  /-- The object has no member of that name. -/
  | missing
  /-- The array ends before it. -/
  | cut

/-- The slots of a record by the number of the field. -/
abbrev Record := Nat → Slot

/-- The members that give one field, under any of its names. -/
def membersOf (names : List String) (ms : List (String × Json)) : List Json :=
  (ms.filter fun m => names.contains m.1).map Prod.snd

def Slot.ofMembers (names : List String) (ms : List (String × Json)) : Slot :=
  match membersOf names ms with
  | [] => .missing
  | v :: _ => .given v

/-- The record in a value; `fields` holds the names of each field, in their order. -/
def record? (fields : List (List String)) : Json → Option Record
  | .object ms =>
    if fields.any fun names => (membersOf names ms).length > 1 then none
    else some fun i => (fields[i]?.map fun names => Slot.ofMembers names ms).getD .cut
  | .array vs =>
    if vs.length > fields.length then none
    else some fun i => (vs[i]?.map Slot.given).getD .cut
  | _ => none

/-- A reader of values. -/
abbrev Decode (α : Type) := Json → Option α

def decodeText : Decode String
  | .text s => some s
  | _ => none

def decodeBool : Decode Bool
  | .bool b => some b
  | _ => none

/-- Integers from `low` to `high`. -/
def decodeInt (low high : Int) : Decode Int
  | .number n => n.integer?.filter fun i => low ≤ i ∧ i ≤ high
  | _ => none

def decodeInt64 : Decode Int := decodeInt (-9223372036854775808) 9223372036854775807
def decodeInt32 : Decode Int := decodeInt (-2147483648) 2147483647
def decodeUInt64 : Decode UInt64 := fun v =>
  (decodeInt 0 18446744073709551615 v).map (.ofNat ·.toNat)
def decodeUInt32 : Decode UInt32 := fun v => (decodeInt 0 4294967295 v).map (.ofNat ·.toNat)

def decodeList {α : Type} (d : Decode α) : Decode (List α)
  | .array vs => vs.mapM d
  | _ => none

/-- `null` for nothing. -/
def decodeOption {α : Type} (d : Decode α) : Decode (Option α)
  | .null => some none
  | v => (d v).map some

/-- One of some words: a string, or an object whose one member is the word, with `null`. -/
def decodeWord {α : Type} (read : String → Option α) : Decode α
  | .text s => read s
  | .object [(s, .null)] => read s
  | _ => none

/-- A field that has to be there. -/
def Slot.required {α : Type} (d : Decode α) : Slot → Option α
  | .given v => d v
  | _ => none

/-- A field that may be missing or `null`. In an array it has to stand in its place. -/
def Slot.optional {α : Type} (d : Decode α) : Slot → Option (Option α)
  | .given v => decodeOption d v
  | .missing => some none
  | .cut => none

/-- A field with a value for its absence. -/
def Slot.default {α : Type} (d : Decode α) (a : α) : Slot → Option α
  | .given v => d v
  | _ => some a

end BandCatalog.Json
