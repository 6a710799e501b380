import BandCatalog.Json.Token

/-!
# Writing JSON

A value is written as its tokens, each with the white space before it. The compact form has none;
the indented form gives every item a line of its own.
-/
namespace BandCatalog.Json

/-- White space of a form: before an item or a closing bracket at a depth, and after a colon. -/
structure Spacing where
  line : Nat → List Char
  gap : List Char

def Spacing.compact : Spacing := ⟨fun _ => [], []⟩

/-- Two spaces for each level. -/
def Spacing.indented : Spacing := ⟨fun depth => '\n' :: List.replicate (2 * depth) ' ', [' ']⟩

abbrev Spaced := List Char × Token

mutual

/-- The tokens of a value that stands at a depth; `before` is the white space in front of it. -/
def spaced (s : Spacing) (depth : Nat) (before : List Char) : Json → List Spaced
  | .null => [(before, .null)]
  | .bool b => [(before, .bool b)]
  | .number n => [(before, .number n)]
  | .text t => [(before, .text (some t))]
  | .unreadable => [(before, .text none)]
  | .array [] => [(before, .beginArray), ([], .endArray)]
  | .array (v :: vs) =>
    (before, .beginArray) :: spaced s (depth + 1) (s.line (depth + 1)) v ++
      spacedItems s depth vs ++ [(s.line depth, .endArray)]
  | .object [] => [(before, .beginObject), ([], .endObject)]
  | .object ((k, v) :: ms) =>
    (before, .beginObject) :: (s.line (depth + 1), .text (some k)) :: ([], .colon) ::
      spaced s (depth + 1) s.gap v ++ spacedMembers s depth ms ++ [(s.line depth, .endObject)]

def spacedItems (s : Spacing) (depth : Nat) : List Json → List Spaced
  | [] => []
  | v :: vs =>
    ([], .comma) :: spaced s (depth + 1) (s.line (depth + 1)) v ++ spacedItems s depth vs

def spacedMembers (s : Spacing) (depth : Nat) : List (String × Json) → List Spaced
  | [] => []
  | (k, v) :: ms =>
    ([], .comma) :: (s.line (depth + 1), .text (some k)) :: ([], .colon) ::
      spaced s (depth + 1) s.gap v ++ spacedMembers s depth ms

end

def print (s : Spacing) (v : Json) : List Char :=
  (spaced s 0 [] v).flatMap fun t => t.1 ++ t.2.toChars

def compact (v : Json) : String := String.ofList (print .compact v)

def indented (v : Json) : String := String.ofList (print .indented v)

end BandCatalog.Json
