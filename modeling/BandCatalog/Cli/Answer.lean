import BandCatalog.Catalog.Page
import BandCatalog.Client.Account

/-!
# Answers

What a command that succeeded has to say, as a text for people or as JSON.
-/
namespace BandCatalog.Cli

inductive Answer where
  | signedIn (user : User)
  | signedUp (user : User)
  | signedOut
  | status (s : SessionStatus)
  | account (user : User) (permissions : List String)
  | page (p : Page Band)
  | band (b : Band)
  | deleted (id : Int)
  deriving DecidableEq, Repr

def padLeft (width : Nat) (s : String) : String :=
  String.ofList (List.replicate (width - s.length) ' ' ++ s.toList)

def padRight (width : Nat) (s : String) : String :=
  String.ofList (s.toList ++ List.replicate (width - s.length) ' ')

/-- A text of so many characters at most; one that is longer ends in an ellipsis. -/
def shortened (most : Nat) (s : String) : String :=
  if s.length ≤ most then s else String.ofList (s.toList.take (most - 1) ++ ['…'])

/-- One row of the table of bands. -/
def row (id name genre members established : String) : String :=
  padLeft 6 id ++ "  " ++ padRight 30 name ++ " " ++ padRight 12 genre ++ " " ++
    padLeft 7 members ++ "  " ++ established

def bandHeader : String := row "ID" "NAME" "GENRE" "MEMBERS" "ESTABLISHED"

def bandRow (b : Band) : String :=
  row (toString b.id) (shortened 30 b.name) b.genreLabel
    ((b.participants.map toString).getD "") ((b.established.map Calendar.Date.toText).getD "")

/-- Where a page stands among the others. Pages are counted from one, and there is at least one. -/
def pageFooter (p : Page Band) : String :=
  s!"Page {(p.number + 1).toNat} of {max p.totalPages.toNat 1} ({p.totalElements.toNat} bands)"

def unlines (lines : List String) : String := String.join (lines.map (· ++ "\n"))

def yesNo (b : Bool) : String := if b then "yes" else "no"

def accountLines (user : User) (permissions : List String) : List String :=
  [s!"User:     {user.username} (id {user.id})"] ++
    (user.createdAt.map fun t => s!"Since:    {t.date.toText}").toList ++
    [s!"Admin:    {yesNo user.isAdmin}", "Permissions:"] ++ permissions.map ("  " ++ ·)

def pageLines (p : Page Band) : List String :=
  if p.content = [] then ["No bands found"]
  else bandHeader :: p.content.map bandRow ++ [pageFooter p]

/-- The lines about a band; what is not known of it has none. -/
def bandLines (b : Band) : List String :=
  [s!"{b.name} (id {b.id})", s!"  Genre:        {b.genreLabel}"] ++
    [b.description.map fun d => s!"  Description:  {d}",
      b.coordinates.map fun c => s!"  Coordinates:  ({c.x}, {c.y.toText})",
      b.participants.map fun n => s!"  Members:      {n}",
      b.singles.map fun n => s!"  Singles:      {n}",
      b.albums.map fun n => s!"  Albums:       {n}",
      b.bestAlbum.map fun a => s!"  Best album:   {a.name}",
      b.frontMan.map fun p => s!"  Front man:    {p.name}",
      b.established.map fun d => s!"  Established:  {d.toText}",
      b.createdBy.map fun o => s!"  Created by:   {o}",
      b.created.map fun t => s!"  Created:      {t.date.toText} {t.clockText}"].filterMap id

def accountJson (user : User) (permissions : List String) : Json :=
  .object [("user", user.toJson), ("permissions", .array (permissions.map .text))]

namespace Answer

def lines : Answer → List String
  | signedIn user => [s!"Signed in as {user.username}"]
  | signedUp user => [s!"Account created, signed in as {user.username}"]
  | signedOut => ["Signed out"]
  | status (.signedIn user) => [s!"Signed in as {user.username}"]
  | status .signedOut => ["Not signed in"]
  | account user permissions => accountLines user permissions
  | page p => pageLines p
  | band b => bandLines b
  | deleted id => [s!"Deleted band {id}"]

/-- The JSON of an answer that has one. -/
def json? : Answer → Option Json
  | status (.signedIn user) => some user.toJson
  | status .signedOut => some .null
  | account user permissions => some (accountJson user permissions)
  | page p => some (p.toJson Band.toJson)
  | band b => some b.toJson
  | _ => none

def text (json : Bool) (a : Answer) : String :=
  match a.json? with
  | some v => unlines (if json then [v.indented] else a.lines)
  | none => unlines a.lines

/-- Who has just signed in. -/
def newcomer? : Answer → Option String
  | signedIn user => some user.username
  | signedUp user => some user.username
  | _ => none

end Answer

end BandCatalog.Cli
