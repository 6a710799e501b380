import BandCatalog.Http.Bearer
import BandCatalog.Json.Printer

/-!
# Building requests

A request for a method and a URL. User information of the URL is taken out of it and becomes Basic
credentials.
-/
namespace BandCatalog.Http

def base64Char (n : Nat) : Char :=
  if n < 26 then Char.ofNat (n + 'A'.toNat)
  else if n < 52 then Char.ofNat (n - 26 + 'a'.toNat)
  else if n < 62 then Char.ofNat (n - 52 + '0'.toNat)
  else if n = 62 then '+' else '/'

/-- Three bytes are four characters; what is missing of the last three is made up with `=`. -/
def base64 : List UInt8 → List Char
  | [] => []
  | [a] =>
    let n := a.toNat * 16
    [base64Char (n / 64), base64Char (n % 64), '=', '=']
  | [a, b] =>
    let n := (a.toNat * 256 + b.toNat) * 4
    [base64Char (n / 4096), base64Char (n / 64 % 64), base64Char (n % 64), '=']
  | a :: b :: c :: r =>
    let n := (a.toNat * 256 + b.toNat) * 256 + c.toNat
    base64Char (n / 262144) :: base64Char (n / 4096 % 64) :: base64Char (n / 64 % 64) ::
      base64Char (n % 64) :: base64 r

/-- The value of a header with a user and a password. -/
def basic (user password : String) : String :=
  "Basic " ++ String.ofList (base64 (user ++ ":" ++ password).toUTF8.toList)

/-- A URL without its user information, and that, if it can be read. -/
def takeUserInfo (u : Url) : Url × Option (String × String) :=
  match u.authority with
  | none => (u, none)
  | some a =>
    match Url.percentDecodeText? a.username.toList with
    | none => (u, none)
    | some user =>
      if u.hasUserInfo then
        ({ u with authority := some { a with username := "", password := "" } },
          some (user, (Url.percentDecodeText? a.password.toList).getD ""))
      else (u, none)

theorem takeUserInfo_of_not {u : Url} (h : u.hasUserInfo = false) : takeUserInfo u = (u, none) := by
  unfold takeUserInfo
  split
  · rfl
  · split
    · rfl
    · simp [h]

/-- A request; a JSON body comes with its type. -/
def Request.build (method : String) (url : Url) (json : Option Json) : Request :=
  let (url, info) := takeUserInfo url
  let authorization := match info with
    | some (user, password) => [⟨authorizationName, basic user password, true⟩]
    | none => []
  match json with
  | none => ⟨method, url, authorization, .empty⟩
  | some v =>
    ⟨method, url, authorization ++ [⟨"content-type", "application/json", false⟩], .text v.compact⟩

end BandCatalog.Http
