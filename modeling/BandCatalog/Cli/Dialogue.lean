/-!
# Dialogues

What the program asks its user before it does anything, as a value: texts that it shows, a line and
passwords that it waits for, each with what follows from what was typed.
-/
namespace BandCatalog.Cli

inductive Dialogue (α : Type) where
  | done (a : α)
  | say (text : String) (next : Dialogue α)
  /-- A line with its end, if it is a text. -/
  | line (next : Option String → Dialogue α)
  /-- A password, which is not shown; nor does its prompt count as shown. -/
  | password (prompt : String) (next : String → Dialogue α)

/-- What a user types. -/
structure Typed where
  input : List UInt8
  passwords : List String
  deriving DecidableEq, Repr

namespace Typed

/-- The first line with its end, and what follows it. -/
def takeLine : List UInt8 → List UInt8 × List UInt8
  | [] => ([], [])
  | b :: bs => if b = 10 then ([b], bs) else let (line, rest) := takeLine bs; (b :: line, rest)

end Typed

/-- The outcome of a dialogue with a user who types, and what was shown. -/
def Dialogue.hold {α : Type} : Dialogue α → Typed → α × String
  | done a, _ => (a, "")
  | say text next, t => let (a, shown) := next.hold t; (a, text ++ shown)
  | line next, t =>
    let (bytes, rest) := Typed.takeLine t.input
    (next (String.fromUTF8? (ByteArray.mk bytes.toArray))).hold { t with input := rest }
  | password _ next, t =>
    (next (t.passwords.head?.getD "")).hold { t with passwords := t.passwords.tail }

end BandCatalog.Cli
