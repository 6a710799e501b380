import BandCatalog.Http.Exchange

/-!
# Exchanges as bytes

A request as it is written to a connection, and an answer as it is read from one. Requests are of
version 1.0, so that an answer does not come in chunks and ends with its connection.
-/
namespace BandCatalog.Http

def newline : String := "\r\n"

/-- What is asked for: the path with the query. -/
def target (u : Url) : String :=
  u.pathText ++ match u.query with
    | some q => "?" ++ q
    | none => ""

/-- The host with its port, if that is not the one that the scheme implies. -/
def hostText (a : Url.Authority) : String :=
  String.ofList { a with username := "", password := "" }.toChars

def Body.toText : Body → String
  | .empty => ""
  | .text s => s
  | .stream chunks => String.join chunks

/-- The bytes of a request. -/
def Request.toBytes (r : Request) : ByteArray :=
  let body := r.body.toText.toUTF8
  let length := if r.body = .empty then [] else [s!"content-length: {body.size}"]
  let host := r.url.authority.toList.map fun a => "host: " ++ hostText a
  let lines := [s!"{r.method} {target r.url} HTTP/1.0"] ++ host ++
    r.headers.map (fun h => s!"{h.name}: {h.value}") ++ length ++ ["connection: close", ""]
  (String.join (lines.map (· ++ newline))).toUTF8 ++ body

/-- The bytes up to an empty line, and those after it. -/
def splitHead : List UInt8 → Option (List UInt8 × List UInt8)
  | 13 :: 10 :: 13 :: 10 :: r => some ([], r)
  | b :: r => (splitHead r).map fun x => (b :: x.1, x.2)
  | [] => none

def digits? (cs : List Char) : Option Nat :=
  if cs ≠ [] ∧ cs.all Char.isDigit then
    some (cs.foldl (fun n c => 10 * n + (c.toNat - '0'.toNat)) 0)
  else none

/-- The code in the first line of an answer. -/
def statusOf? (line : List Char) : Option Nat :=
  let code := ((line.dropWhile (· ≠ ' ')).drop 1).take 3
  if "HTTP/1.".toList.isPrefixOf line then (digits? code).filter isStatus else none

/-- The length that a head gives for the body. -/
def lengthOf? (lines : List (List Char)) : Option Nat :=
  lines.findSome? fun line =>
    let name := (line.takeWhile (· ≠ ':')).map Char.toLower
    let value := (line.dropWhile (· ≠ ':')).drop 1
    if name = "content-length".toList then
      digits? ((value.dropWhile (· = ' ')).takeWhile Char.isDigit)
    else none

/-- Answers that have no body. -/
def isBodiless (method : String) (status : Nat) : Bool :=
  method == "HEAD" || status == 204 || status == 304

/-- The answer that a connection gave before it was closed. A body shorter than it should be has broken
off. -/
def Response.ofBytes? (method : String) (bytes : ByteArray) : Option Response := do
  let (head, body) ← splitHead bytes.toList
  let lines := (Text.decode ['\uFFFD'] head).splitOn '\n' |>.map fun l => l.filter (· ≠ '\r')
  let status ← lines.head?.bind statusOf?
  if isBodiless method status then some ⟨status, some ByteArray.empty⟩
  else match lengthOf? lines.tail with
    | none => some ⟨status, some (ByteArray.mk body.toArray)⟩
    | some n =>
      if body.length < n then some ⟨status, none⟩
      else some ⟨status, some (ByteArray.mk (body.take n).toArray)⟩

end BandCatalog.Http
