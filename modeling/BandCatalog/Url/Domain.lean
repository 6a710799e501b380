import BandCatalog.Url.Domain.Direction
import BandCatalog.Url.Domain.Joining
import BandCatalog.Url.Domain.Mapping
import BandCatalog.Url.Domain.Punycode
import BandCatalog.Url.Host

/-!
# Domains

The ASCII form of a domain, and the host of a special scheme. A domain that is ASCII already is taken
over in lower case. Any other is mapped, composed and cut into labels at its dots; a label that is not
ASCII is written in Punycode, and one that is given in Punycode is read and checked.
-/
namespace BandCatalog.Url

namespace Domain

def isAscii (c : Char) : Bool := c.toNat < 0x80

/-- What stands in front of a label in Punycode. -/
def codeMark : List Char := "xn--".toList

/-- A label as it is meant; a label in Punycode has to need it. -/
def meaning? (label : List Char) : Option (List Char) :=
  if codeMark.isPrefixOf label then
    ((Punycode.decode (label.drop codeMark.length)).filter fun cs =>
      label.all isAscii && !cs.all isAscii)
  else some label

/-- Whether a label may stand in a domain. -/
def isLabel (label : List Char) : Bool :=
  label.all isStable && composed label == label && !label.head?.any isMark &&
    joinersStand [] label

/-- The ASCII form of a label. -/
def labelAscii (label : List Char) : List Char :=
  if label.all isAscii then label else codeMark ++ Punycode.encode label

/-- The ASCII form of a domain with other characters in it. -/
def processed? (cs : List Char) : Option (List Char) := do
  let mapped ← cs.mapM mapped?
  let labels := (composed mapped.flatten).splitOn '.'
  let meanings ← labels.mapM meaning?
  if meanings.all isLabel && (!meanings.any (·.any isRightward) || meanings.all isDirected) then
    some (['.'].intercalate (labels.map labelAscii))
  else none

/-- A domain that has nothing to process. -/
def isPlain (cs : List Char) : Bool :=
  cs.all isAscii && (cs.splitOn '.').all fun label => !codeMark.isPrefixOf label

end Domain

/-- The ASCII form of a domain: letters in lower case, no forbidden character. -/
def toAscii? (s : String) : Option (List Char) :=
  let cs := s.toList.map Char.toLower
  (if Domain.isPlain cs then some cs else Domain.processed? cs).filter fun cs =>
    !cs.any isForbiddenInDomain

/-- The host of a special scheme. -/
def Host.special? (cs : List Char) : Except Error Host :=
  (bracketed? cs).getD <|
    match (percentDecodeText? cs).bind toAscii? with
    | none => .error .invalidDomain
    | some domain =>
      if domain = [] then .error .emptyHost
      else if endsInNumber domain then
        match ipv4? domain with
        | some a => .ok (.v4 a)
        | none => .error .invalidIPv4
      else .ok (.name (String.ofList domain))

end BandCatalog.Url
