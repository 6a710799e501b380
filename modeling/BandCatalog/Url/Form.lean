import BandCatalog.Url.Percent

/-!
# Form encoding

Names and values in a query, as `application/x-www-form-urlencoded` writes them. `decode` undoes
`encode`.
-/
namespace BandCatalog.Url.Form

/-- Characters that stand for themselves. -/
def isPlain (c : Char) : Bool := c.isAlphanum || c ∈ ['*', '-', '.', '_']

def encodeChar (c : Char) : List Char :=
  if c = ' ' then ['+'] else if isPlain c then [c] else percentChar c

def encodeText (s : String) : List Char := s.toList.flatMap encodeChar

def encodePair (p : String × String) : List Char := encodeText p.1 ++ '=' :: encodeText p.2

/-- Pairs of a name and a value, each with an equals sign, separated by ampersands. -/
def encode (ps : List (String × String)) : String :=
  String.ofList (['&'].intercalate (ps.map encodePair))

def decodeText (cs : List Char) : String :=
  Text.decodeLossy (ByteArray.mk (percentDecode (cs.map fun c => if c = '+' then ' ' else c)).toArray)

def decodePair (cs : List Char) : String × String :=
  let name := cs.takeWhile (· != '=')
  (decodeText name, decodeText (cs.drop (name.length + 1)))

def decode (s : String) : List (String × String) :=
  ((s.toList.splitOn '&').filter (· ≠ [])).map decodePair

end BandCatalog.Url.Form
