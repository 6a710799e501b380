import BandCatalog.Storage.Memory
import BandCatalog.Text.Alphanumeric
import BandCatalog.Text.Blank

/-!
# The environment

Named texts that the program finds when it starts. A file may add to them: each of its lines gives a
name and a value, in quotes or without, and a value may hold the values of other names. A line in which
a quote is open goes on in the next. The first line that cannot be read ends the reading; what stands
before it counts.
-/
namespace BandCatalog.Cli

abbrev Environment := TextMap

namespace Environment

/-- What is open where a line is being scanned. -/
inductive Open where
  | nothing
  /-- White space was read, after which a comment may start. -/
  | blank
  | escape
  | double
  | doubleEscape
  | single
  | singleEscape
  deriving DecidableEq, Repr

/-- What is open after a character outside quotes. -/
def Open.ofBare (c : Char) : Open :=
  if c = '\\' then escape
  else if c = '"' then double
  else if c = '\'' then single
  else nothing

/-- What is open after a character; nothing if a comment starts with it. -/
def Open.next (o : Open) (c : Char) : Option Open :=
  match o with
  | nothing => some (if Text.isBlank c ∧ c ≠ '\n' ∧ c ≠ '\r' then blank else ofBare c)
  | blank => if c = '#' then none else some (ofBare c)
  | escape => some nothing
  | double => some (if c = '\\' then doubleEscape else if c = '"' then nothing else double)
  | doubleEscape => some double
  | single => some (if c = '\\' then singleEscape else if c = '\'' then nothing else single)
  | singleEscape => some single

/-- A line up to a comment, and what is open at its end; nothing is where a comment ends it. -/
def scan : Open → List Char → List Char × Open
  | o, [] => ([], o)
  | o, c :: cs =>
    match o.next c with
    | none => ([], .nothing)
    | some o => let (line, o) := scan o cs; (c :: line, o)

/-- Lines in which nothing is open at the end, made from those of a file. A line of the file that is
no text, or an end of the file at which something is open, is none. -/
def logicalLines (held : List Char) (o : Open) : List (Option (List Char)) → List (Option (List Char))
  | [] => if o = .nothing then [] else [none]
  | none :: _ => [none]
  | some line :: rest =>
    if (Text.trimStart (held ++ line)).head? = some '#' then
      some [] :: logicalLines [] .nothing rest
    else
      let (line, o) := scan o line
      if o = .nothing then some (held ++ line) :: logicalLines [] .nothing rest
      else logicalLines (held ++ line) o rest

/-- The lines of a file, each with the byte that ends it. -/
def fileLines : List UInt8 → List (List UInt8)
  | [] => []
  | b :: bs =>
    if b = 10 then [b] :: fileLines bs
    else match fileLines bs with
      | [] => [[b]]
      | line :: lines => (b :: line) :: lines

/-- A file without the mark that may stand in front of a text. -/
def withoutMark : List UInt8 → List UInt8
  | 0xEF :: 0xBB :: 0xBF :: bs => bs
  | bs => bs

def lines (file : ByteArray) : List (Option (List Char)) :=
  logicalLines [] .nothing ((fileLines (withoutMark file.toList)).map fun line =>
    (String.fromUTF8? (ByteArray.mk line.toArray)).map String.toList)

/-- Where the reading of a value stands. The flag says whether a double quote is open. -/
inductive Mode where
  | text (quoted : Bool)
  | escape (quoted : Bool)
  | single
  /-- The name of a value that is to be put in. -/
  | name (quoted : Bool) (cs : List Char)
  | braced (quoted : Bool) (cs : List Char)
  /-- Behind the value. -/
  | after
  deriving DecidableEq, Repr

/-- What a character after a backslash stands for. -/
def escaped? (c : Char) : Option Char :=
  if c ∈ ['\\', '\'', '"', '$', ' '] then some c
  else if c = 'n' then some '\n'
  else none

/-- The rest of a value. -/
def value? (named : List Char → List Char) : Mode → List Char → Option (List Char)
  | .text quoted, [] => if quoted then none else some []
  | .escape quoted, [] => if quoted then none else some []
  | .single, [] => none
  | .name quoted cs, [] => if quoted then none else some (named cs)
  | .braced _ _, [] => none
  | .after, [] => some []
  | .text quoted, c :: r =>
    if c = '$' then value? named (.name quoted []) r
    else if c = '\\' then value? named (.escape quoted) r
    else if c = '"' then value? named (.text (!quoted)) r
    else if c = '\'' ∧ !quoted then value? named .single r
    else if (c = ' ' ∨ c = '\t') ∧ !quoted then value? named .after r
    else (value? named (.text quoted) r).map (c :: ·)
  | .escape quoted, c :: r =>
    match escaped? c with
    | some e => (value? named (.text quoted) r).map (e :: ·)
    | none => none
  | .single, c :: r =>
    if c = '\'' then value? named (.text false) r else (value? named .single r).map (c :: ·)
  | .name quoted cs, c :: r =>
    if Text.isAlphanumeric c then value? named (.name quoted (cs ++ [c])) r
    else if c = '\x7b' ∧ cs = [] then value? named (.braced quoted []) r
    else if c = '$' then (value? named (.name quoted []) r).map (named cs ++ ·)
    else (value? named (.text quoted) r).map (named cs ++ c :: ·)
  | .braced quoted cs, c :: r =>
    if c = '\x7d' then (value? named (.text quoted) r).map (named cs ++ ·)
    else value? named (.braced quoted (cs ++ [c])) r
  | .after, c :: r =>
    if c = ' ' ∨ c = '\t' then value? named .after r else if c = '#' then some [] else none

def isNameStart (c : Char) : Bool := c.isAlpha || c == '_'

def isNameChar (c : Char) : Bool := c.isAlphanum || c == '_' || c == '.'

/-- A name in front, and the rest after white space. -/
def name? (cs : List Char) : Option (List Char × List Char) :=
  if cs.head?.any isNameStart then
    some (cs.takeWhile isNameChar, Text.trimStart (cs.dropWhile isNameChar))
  else none

/-- The name in front of an equals sign, and the rest after it. The word `export` may stand before. -/
def assigned? (cs : List Char) : Option (List Char × List Char) :=
  match name? cs with
  | none => none
  | some (name, '=' :: r) => some (name, Text.trimStart r)
  | some (name, r) =>
    if name = "export".toList then
      match name? r with
      | some (name, '=' :: r) => some (name, Text.trimStart r)
      | _ => none
    else none

/-- What an entry of a file finds under a name. -/
def named (e : Environment) (cs : List Char) : List Char :=
  ((e.get? (String.ofList cs)).map String.toList).getD []

/-- An environment with what a line adds to it; nothing where the line cannot be read. A name that is
there keeps its value. -/
def addLine (e : Environment) (line : List Char) : Option Environment :=
  let cs := Text.trim line
  if cs = [] ∨ cs.head? = some '#' then some e
  else match assigned? cs with
    | none => none
    | some (name, r) =>
      let value := if r = [] ∨ r.head? = some '#' then some [] else value? (named e) (.text false) r
      value.map fun v =>
        let name := String.ofList name
        if (e.get? name).isSome then e else e.insert name (String.ofList v)

/-- An environment with what lines add to it, up to the first that cannot be read. -/
def addLines (e : Environment) : List (Option (List Char)) → Environment
  | some line :: rest =>
    match addLine e line with
    | some e => addLines e rest
    | none => e
  | _ => e

/-- An environment with what a file adds to it, if there is one. -/
def withFile (e : Environment) : Option ByteArray → Environment
  | some file => addLines e (lines file)
  | none => e

end Environment

end BandCatalog.Cli
