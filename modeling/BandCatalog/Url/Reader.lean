import BandCatalog.Url.Basic
import BandCatalog.Url.Domain

/-!
# Reading URLs

The URL standard's reading of a text, alone or against a base. A text is first freed of control
characters at its ends and of tabs and line breaks anywhere; then fragment and query are cut off, and
what is left is read by the kind of its scheme.
-/
namespace BandCatalog.Url

/-- The characters of a text that count. -/
def cleaned (s : String) : List Char :=
  let blank (c : Char) : Bool := c.toNat ≤ 0x20
  let cs := ((s.toList.dropWhile blank).reverse.dropWhile blank).reverse
  cs.filter fun c => c ≠ '\t' ∧ c ≠ '\n' ∧ c ≠ '\r'

def isSchemeChar (c : Char) : Bool := c.isAlphanum || c == '+' || c == '-' || c == '.'

/-- The scheme before a colon, in lower case, and the rest. -/
def scheme? (cs : List Char) : Option (String × List Char) :=
  let front := cs.takeWhile isSchemeChar
  match front, cs.dropWhile isSchemeChar with
  | c :: _, ':' :: r => if c.isAlpha then some (String.ofList (front.map Char.toLower), r) else none
  | _, _ => none

/-- What stands before the first `mark`, and after it if there is one. -/
def cut (mark : Char) (cs : List Char) : List Char × Option (List Char) :=
  (cs.takeWhile (· != mark),
    match cs.dropWhile (· != mark) with
    | [] => none
    | _ :: r => some r)

/-- A text without query and fragment, and these two. -/
structure Reference where
  front : List Char
  query : Option (List Char)
  fragment : Option (List Char)

def Reference.of (cs : List Char) : Reference :=
  let (cs, fragment) := cut '#' cs
  let (front, query) := cut '?' cs
  ⟨front, query, fragment⟩

def Reference.hasTail (r : Reference) : Bool := r.query.isSome || r.fragment.isSome

def encodeQuery (scheme : String) (cs : List Char) : String :=
  String.ofList (percentEncode (if isSpecial scheme then inSpecialQuery else inQuery) cs)

def encodeFragment (cs : List Char) : String := String.ofList (percentEncode inFragment cs)

/-- A URL with the query and fragment of a reference. -/
def Reference.finish (r : Reference) (scheme : String) (authority : Option Authority) (path : Path) :
    Url :=
  ⟨scheme, authority, path, r.query.map (encodeQuery scheme), r.fragment.map encodeFragment⟩

def isSlash (special : Bool) (c : Char) : Bool := c == '/' || (special && c == '\\')

/-- A letter and a colon or bar. -/
def isDriveLetter (cs : List Char) : Bool :=
  match cs with
  | [c, d] => c.isAlpha && (d == ':' || d == '|')
  | _ => false

inductive Dots where
  | none
  | single
  | double

/-- How many dots a segment consists of, if of nothing else; a dot may be percent-encoded. -/
def dotCount? : List Char → Option Nat
  | [] => some 0
  | '.' :: r => (dotCount? r).map (· + 1)
  | '%' :: '2' :: 'e' :: r => (dotCount? r).map (· + 1)
  | '%' :: '2' :: 'E' :: r => (dotCount? r).map (· + 1)
  | _ => none

def dotsOf (cs : List Char) : Dots :=
  match dotCount? cs with
  | some 1 => .single
  | some 2 => .double
  | _ => .none

/-- One step up. The topmost segment stays if it is a drive letter. -/
def climb (ss : List String) : List String :=
  match ss.getLast? with
  | some s => if isDriveLetter s.toList then ss else ss.dropLast
  | none => ss

/-- One segment added to a path, `last` if no slash follows it. -/
def addSegment (file last : Bool) (ss : List String) (cs : List Char) : List String :=
  match dotsOf cs with
  | .double => let ss := climb ss; if last then ss ++ [""] else ss
  | .single => if last then ss ++ [""] else ss
  | .none =>
    let cs := percentEncode inPath cs
    let cs := if file ∧ ss = [] ∧ isDriveLetter cs then cs.take 1 ++ [':'] else cs
    ss ++ [String.ofList cs]

def addSegments (file : Bool) : List String → List (List Char) → List String
  | ss, [] => ss
  | ss, [cs] => addSegment file true ss cs
  | ss, cs :: rest => addSegments file (addSegment file false ss cs) rest

def splitSlashes (special : Bool) (cs : List Char) : List (List Char) := cs.splitOnP (isSlash special)

/-- Segments of the text after a slash, added to a path. A file has no empty segments in front. -/
def extend (scheme : String) (ss : List String) (cs : List Char) : List String :=
  let file := scheme == "file"
  let ss := addSegments file ss (splitSlashes (isSpecial scheme) cs)
  if file then
    let kept := ss.dropWhile (· == "")
    if kept = [] then [""] else kept
  else ss

/-- The path that follows an authority. -/
def pathAfterAuthority (scheme : String) (cs : List Char) : Path :=
  match cs with
  | [] => .segments (if isSpecial scheme then [""] else [])
  | c :: r =>
    if isSlash (isSpecial scheme) c then .segments (extend scheme [] r)
    else .segments (extend scheme [] cs)

def lastAt (cs : List Char) : Option (List Char × List Char) :=
  let back := cs.reverse.takeWhile (· != '@')
  if back.length = cs.length then none
  else some (cs.take (cs.length - back.length - 1), back.reverse)

/-- A host and what follows it from the first colon outside of brackets. -/
def splitHost : Bool → List Char → List Char × List Char
  | _, [] => ([], [])
  | inside, c :: r =>
    if c = ':' ∧ inside = false then ([], c :: r)
    else
      let (host, rest) := splitHost (if c = '[' then true else if c = ']' then false else inside) r
      (c :: host, rest)

/-- A port and what follows it. -/
def port? (scheme : String) : List Char → Except Error (Option Nat × List Char)
  | ':' :: r =>
    let ds := r.takeWhile Char.isDigit
    let rest := r.dropWhile Char.isDigit
    let n := Nat.ofDigitChars 10 ds 0
    if n > 65535 then .error .invalidPort
    else if rest ≠ [] ∧ rest.head? ≠ some '\\' then .error .invalidPort
    else .ok (if ds = [] ∨ defaultPort scheme = some n then none else some n, rest)
  | r => .ok (none, r)

/-- An authority and the path after it. -/
def readAuthority (scheme : String) (r : Reference) : Except Error Url := do
  let special := isSpecial scheme
  let text := r.front.takeWhile fun c => !isSlash special c
  let path := r.front.dropWhile fun c => !isSlash special c
  let (info, text, marked) := match lastAt text with
    | none => ([], text, false)
    | some (info, text) => (info, text, true)
  if marked ∧ info = [] ∧ text = [] ∧ (path ≠ [] ∨ r.hasTail) then throw .emptyHost
  let (username, password) := cut ':' info
  let password := password.getD []
  let (hostText, rest) := splitHost false text
  if special ∧ hostText = [] then throw .emptyHost
  let host ← if special then Host.special? hostText else Host.opaque? hostText
  if hostText = [] ∧ rest ≠ [] then throw .emptyHost
  let (port, rest) ← port? scheme rest
  if hostText = [] ∧ (username ≠ [] ∨ password ≠ []) then throw .emptyHost
  let encoded (cs : List Char) : String := String.ofList (percentEncode inUserInfo cs)
  return r.finish scheme (some ⟨encoded username, encoded password, host, port⟩)
    (pathAfterAuthority scheme (rest ++ path))

/-- A reference without a scheme, or with the scheme of its base, against that base. -/
def resolve (base : Url) (r : Reference) : Except Error Url :=
  let scheme := base.scheme
  let bare := base.path
  let segments := match bare with
    | .segments ss => ss
    | .flat _ => []
  match r.front with
  | [] =>
    .ok { base with
      query := if r.query.isSome then r.query.map (encodeQuery scheme) else base.query
      fragment := r.fragment.map encodeFragment }
  | c :: rest =>
    if isSlash true c then
      if (rest.head?.map (isSlash true)).getD false then
        if c = '/' ∧ rest.head? = some '/' then readAuthority scheme { r with front := rest.tail }
        else readAuthority scheme { r with front := r.front.dropWhile (isSlash true) }
      else .ok (r.finish scheme base.authority (.segments (extend scheme [] rest)))
    else .ok (r.finish scheme base.authority (.segments (extend scheme segments.dropLast r.front)))

/-- Whether a text starts with a drive letter that ends there. -/
def startsWithDrive (cs : List Char) : Bool :=
  isDriveLetter (cs.take 2) &&
    match cs.drop 2 with
    | [] => true
    | c :: _ => isSlash true c

/-- An empty host. -/
def localhost : Authority := ⟨"", "", .name "", none⟩

/-- The text after `file:`, or a reference against a file. -/
def readFile (base : Option Url) (r : Reference) : Except Error Url := do
  let emptyHost (cs : List Char) : Url :=
    r.finish "file" (some localhost) (.segments (extend "file" [] cs))
  let slash (cs : List Char) : Bool := (cs.head?.map (isSlash true)).getD false
  if slash r.front then
    let rest := r.front.tail
    if slash rest then
      let text := rest.tail.takeWhile fun c => !isSlash true c
      let path := rest.tail.dropWhile fun c => !isSlash true c
      if isDriveLetter text then return emptyHost rest.tail
      else
        let host ← if text = [] then pure (Host.name "") else Host.special? text
        let host := if host = .name "localhost" then .name "" else host
        let ss := extend "file" [] path.tail
        let drive := (ss.head?.map fun s => isDriveLetter s.toList).getD false
        return r.finish "file" (some ⟨"", "", if drive then .name "" else host, none⟩) (.segments ss)
    else
      match base with
      | some b =>
        if startsWithDrive rest then return emptyHost rest
        else
          let ss := match b.path with
            | .segments ss => ss
            | .flat _ => []
          let drive := ss.take 1 |>.filter fun s => isDriveLetter s.toList
          let authority := if drive = [] then b.authority else some localhost
          return r.finish "file" authority (.segments (extend "file" drive rest))
      | none => return emptyHost rest
  else
    match base with
    | some b =>
      if startsWithDrive r.front then return emptyHost r.front
      else if r.front = [] then resolve b r
      else
        let ss := match b.path with
          | .segments ss => climb ss
          | .flat _ => []
        return r.finish "file" b.authority (.segments (extend "file" ss r.front))
    | none => return emptyHost r.front

/-- The text after a scheme. -/
def readScheme (base : Option Url) (scheme : String) (cs : List Char) : Except Error Url :=
  let r := Reference.of cs
  if scheme = "file" then readFile (base.filter (·.scheme = "file")) r
  else if isSpecial scheme then
    let slashes := (r.front.takeWhile (isSlash true)).length
    match base.filter fun b => b.scheme = scheme ∧ slashes < 2 with
    | some b => resolve b r
    | none => readAuthority scheme { r with front := r.front.drop slashes }
  else
    match r.front with
    | '/' :: '/' :: rest => readAuthority scheme { r with front := rest }
    | '/' :: rest => .ok (r.finish scheme none (.segments (extend scheme [] rest)))
    | front =>
      .ok (r.finish scheme none (.flat (String.ofList (percentEncode isControl front))))

/-- The URL that a text is, alone or against a base. -/
def read (base : Option Url) (s : String) : Except Error Url :=
  let cs := cleaned s
  match scheme? cs with
  | some (scheme, rest) => readScheme base scheme rest
  | none =>
    match base with
    | none => .error .relativeWithoutBase
    | some b =>
      let r := Reference.of cs
      if b.isFlat then
        if cs.head? = some '#' then .ok { b with fragment := r.fragment.map encodeFragment }
        else .error .cannotBeABase
      else if b.scheme = "file" then readFile (some b) r
      else resolve b r

def parse (s : String) : Except Error Url := read none s

def join (base : Url) (s : String) : Except Error Url := read (some base) s

end BandCatalog.Url
