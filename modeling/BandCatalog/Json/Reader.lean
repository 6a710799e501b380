import BandCatalog.Json.Token

/-!
# Reading JSON

A machine on tokens with a stack of the containers that are open, so nesting has no limit. `parse`
answers with the one value that a text is.
-/
namespace BandCatalog.Json

/-- A container that is open: what it holds so far, newest first. In an object a value is awaited
for the name. -/
inductive Frame where
  | array (items : List Json)
  | object (members : List (Option String × Json)) (name : Option String)

/-- What the text may go on with. -/
inductive Reading where
  /-- A value; the end of the array too if it has just begun. -/
  | value (begun : Bool) (outer : List Frame)
  /-- A member's name; the end of the object too if it has just begun. -/
  | name (begun : Bool) (members : List (Option String × Json)) (outer : List Frame)
  | colon (members : List (Option String × Json)) (name : Option String) (outer : List Frame)
  /-- A value is complete: a comma, the end of its container, or the end of the text. -/
  | complete (v : Json) (outer : List Frame)

/-- The object of some members; a name that no text can be makes it unreadable. -/
def ofMembers (members : List (Option String × Json)) : Json :=
  match members.mapM fun m => m.1.map (·, m.2) with
  | some ms => .object ms
  | none => .unreadable

/-- A token that is a value of its own. -/
def atom? : Token → Option Json
  | .null => some .null
  | .bool b => some (.bool b)
  | .number n => some (.number n)
  | .text (some s) => some (.text s)
  | .text none => some .unreadable
  | _ => none

def Reading.step : Reading → Token → Option Reading
  | .value _ outer, .beginArray => some (.value true (.array [] :: outer))
  | .value _ outer, .beginObject => some (.name true [] outer)
  | .value true (.array [] :: outer), .endArray => some (.complete (.array []) outer)
  | .value _ outer, t => (atom? t).map (.complete · outer)
  | .name _ ms outer, .text s => some (.colon ms s outer)
  | .name true _ outer, .endObject => some (.complete (.object []) outer)
  | .colon ms s outer, .colon => some (.value false (.object ms s :: outer))
  | .complete v (.array vs :: outer), .comma => some (.value false (.array (v :: vs) :: outer))
  | .complete v (.array vs :: outer), .endArray => some (.complete (.array (v :: vs).reverse) outer)
  | .complete v (.object ms s :: outer), .comma => some (.name false ((s, v) :: ms) outer)
  | .complete v (.object ms s :: outer), .endObject =>
    some (.complete (ofMembers ((s, v) :: ms).reverse) outer)
  | _, _ => none

def Reading.run (r : Reading) (ts : List Token) : Option Reading := ts.foldlM Reading.step r

/-- The value that some tokens are. -/
def ofTokens? (ts : List Token) : Option Json :=
  match Reading.run (.value false []) ts with
  | some (.complete v []) => some v
  | _ => none

def parse (cs : List Char) : Option Json := (scan cs).bind ofTokens?

def parseText (s : String) : Option Json := parse s.toList

end BandCatalog.Json
