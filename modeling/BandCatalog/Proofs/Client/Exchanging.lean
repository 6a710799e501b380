import BandCatalog.Proofs.Client.Bearing
import BandCatalog.Proofs.Client.Transcripts
import BandCatalog.Proofs.Json.Records
import BandCatalog.Proofs.Json.RoundTrip

/-!
# One exchange of a refresh token

What goes out for a refresh token, and what is made of each outcome. There are four classes of outcomes: no answer
came, the answer is not a success, it is one without a pair, and it is one with a pair. They exclude each other, and
each has a result of its own. It is assumed that no answer names another place to send the request to.
-/
namespace BandCatalog

open Json Renewal

namespace Url

/-- Whatever the base is, its refresh endpoint has its authority. -/
theorem authority_refresh {b u : Url} (h : b.endpoint .refresh = .ok u) : u.authority = b.authority := by
  have hpath : String.ofList (Endpoint.refresh.path.toList.dropWhile (· == '/')) = Endpoint.refresh.path :=
    Endpoint.refresh.path_dropSlashes
  rw [endpoint, beneath, hpath] at h
  split at h
  next hjoin =>
    cases h
    show u.authority = b.withSlash.authority
    generalize b.withSlash = c at hjoin
    have hread : c.join Endpoint.refresh.path =
        if c.isFlat then .error .cannotBeABase
        else if c.scheme = "file" then readFile (some c) ⟨Endpoint.refresh.path.toList, none, none⟩
        else resolve c ⟨Endpoint.refresh.path.toList, none, none⟩ := rfl
    rw [hread] at hjoin
    split at hjoin
    · cases hjoin
    · split at hjoin <;> cases hjoin <;> rfl
  · cases h

theorem hasUserInfo_refresh {b u : Url} (h : b.endpoint .refresh = .ok u) :
    u.hasUserInfo = b.hasUserInfo := by
  rw [hasUserInfo, authority_refresh h, hasUserInfo]

end Url

/-- The exchange of a refresh token at a URL: a POST without authorization, whose body is an object with the token
and nothing else. -/
structure Http.Request.Exchanges (r : Http.Request) (url : Url) (token : String) : Prop where
  method : r.method = "POST"
  url : r.url = url
  bare : r.headers.values authorizationName = []
  body : ∃ text, r.body = .text text ∧
    Json.parseText text = some (.object [("refreshToken", .text token)])

theorem Renewal.exchanges_exchangeRequest {url : Url} (huser : url.hasUserInfo = false) (token : String) :
    (exchangeRequest url token).Exchanges url token := by
  obtain ⟨hurl, hbare⟩ :=
    Http.Request.values_build huser "POST" (some (exchangeBody token))
  exact ⟨rfl, hurl, hbare, _, rfl, parseText_compact _⟩

/-- An answer whose body is a pair. -/
def Http.Response.Gives (a : Http.Response) (p : Pair) : Prop :=
  ∃ v, a.json? = some v ∧ Pair.Spells v p

/-- The codes from 200 to 299. -/
def Http.Response.Succeeds (a : Http.Response) : Prop := 200 ≤ a.status ∧ a.status < 300

theorem Http.Response.isSuccess_iff {a : Http.Response} : Http.isSuccess a.status = true ↔ a.Succeeds := by
  rw [Http.isSuccess, Succeeds, Bool.and_eq_true, decide_eq_true_iff, decide_eq_true_iff]
  omega

theorem Http.Response.gives_iff {a : Http.Response} {p : Pair} :
    a.json?.bind Pair.decode = some p ↔ a.Gives p := by
  simp only [Option.bind_eq_some_iff, Pair.decode_eq_some, Gives]

/-- The result of an exchange says of which class its outcome is. A rejection has the status and an excerpt of the
body, an empty one of a body that breaks off. -/
structure Renewal.Classifies (o : Http.Outcome) (result : Except RenewalError Pair) : Prop where
  unavailable : (∃ text, result = .error (.networkUnavailable text)) ↔ ∃ x, o = .error x
  rejected : ∀ status text, result = .error (.rejected status text) ↔
    ∃ a, o = .ok a ∧ ¬a.Succeeds ∧ status = a.status ∧
      text = match a.body with
        | some bytes => Text.excerpt (Text.decodeLossy bytes)
        | none => ""
  invalid : (∃ text, result = .error (.invalidResponse text)) ↔
    ∃ a, o = .ok a ∧ a.Succeeds ∧ ∀ p, ¬a.Gives p
  renewed : ∀ p, result = .ok p ↔ ∃ a, o = .ok a ∧ a.Succeeds ∧ a.Gives p

theorem Http.Response.excerpt_text (a : Http.Response) :
    Text.excerpt a.text = match a.body with
      | some bytes => Text.excerpt (Text.decodeLossy bytes)
      | none => "" := by
  rw [text]
  cases a.body <;> rfl

theorem Renewal.classifies_classify (url : Url) (o : Http.Outcome) : Classifies o (classify url o) := by
  cases o with
  | error x =>
    have hresult : classify url (.error x) = .error (.networkUnavailable (Http.Failure.message ⟨url, x⟩)) := rfl
    rw [hresult]
    exact ⟨by simp, by simp, by simp, by simp⟩
  | ok a =>
    by_cases hsuccess : a.Succeeds
    · have hstatus : Http.isSuccess a.status = true := Http.Response.isSuccess_iff.mpr hsuccess
      cases hpair : a.json?.bind Pair.decode with
      | some p =>
        have hgives : ∀ q, a.Gives q ↔ p = q := by
          intro q
          rw [← Http.Response.gives_iff, hpair, Option.some.injEq]
        have hresult : classify url (.ok a) = .ok p := by
          simp only [classify, hstatus, if_true, hpair]
        rw [hresult]
        exact ⟨by simp, by simp [hsuccess], by simp [hgives], by simp [hsuccess, hgives]⟩
      | none =>
        have hgives : ∀ q, ¬a.Gives q := by
          intro q
          rw [← Http.Response.gives_iff, hpair]
          nofun
        have hresult : classify url (.ok a) = .error (.invalidResponse "error decoding response body") := by
          simp only [classify, hstatus, if_true, hpair]
        rw [hresult]
        exact ⟨by simp, by simp [hsuccess], by simp [hsuccess, hgives], by simp [hgives]⟩
    · have hstatus : Http.isSuccess a.status = false :=
        Bool.eq_false_iff.mpr fun h => hsuccess (Http.Response.isSuccess_iff.mp h)
      have hresult : classify url (.ok a) = .error (.rejected a.status (Text.excerpt a.text)) := by
        simp only [classify, hstatus, Bool.false_eq_true, if_false]
      rw [hresult, a.excerpt_text]
      exact ⟨by simp, by simp [hsuccess, eq_comm], by simp [hsuccess], by simp [hsuccess]⟩

/-- What is done to exchange a refresh token. -/
def Renewal.exchange (url : Url) (token : String) : Conversation (Except RenewalError Pair) :=
  let r := exchangeRequest url token
  .exchange r fun o => .done (classify r.url o)

namespace Session

variable {β σ : Type} [Backend β]

/-- A request that cannot be sent leaves all as it was. -/
theorem send_of_unsendable (s : Session β σ) {r : Http.Request} (h : r.isSendable = false) :
    s.send r = (.error .scheme, s) := by
  rw [send, h]
  rfl

variable [KeyValue σ]

/-- One exchange of a refresh token is made at the refresh endpoint of a base without user information. One request
reaches the backend if it can be sent at all, and nothing else happens. -/
structure MakesOneExchange (s : Session β σ) (url : Url) (token : String) (r : Http.Request)
    (o : Http.Outcome) : Prop where
  request : r.Exchanges url token
  held : (Renewal.exchange s.refreshUrl token).hold s = s.renew token
  script : (Renewal.exchange s.refreshUrl token).script s = [.exchange r o]
  sent : r.isSendable = true → o = (Backend.answer s.backend r).1 ∧ (s.renew token).2 = s.sent r
  unsent : r.isSendable = false → o = .error .scheme ∧ (s.renew token).2 = s
  result : Classifies o (s.renew token).1

theorem makesOneExchange (s : Session β σ) (huser : s.refreshUrl.hasUserInfo = false) (token : String) :
    let r := exchangeRequest s.refreshUrl token
    s.MakesOneExchange s.refreshUrl token r (s.send r).1 := by
  intro r
  refine ⟨exchanges_exchangeRequest huser token, rfl, rfl, ?_, ?_, classifies_classify _ _⟩
  · intro hsendable
    rw [renew, s.send_eq hsendable]
    exact ⟨rfl, rfl⟩
  · intro hunsendable
    rw [renew, s.send_of_unsendable hunsendable]
    exact ⟨rfl, rfl⟩

end Session

end BandCatalog
