import BandCatalog.Client.Account
import BandCatalog.Client.Replay
import BandCatalog.Proofs.Client.Alone
import BandCatalog.Proofs.Client.Stages
import BandCatalog.Proofs.Url.Beneath
import BandCatalog.Storage.Memory

/-!
# Where tokens go

The log of a session that makes the client's calls one at a time. Whatever the backend answers, no request
to an open endpoint carries authorization, and every other carries the access token that was in memory when
it was sent. A renewal has one exchange at the refresh endpoint, right after the backend has turned away a
request that may carry a token.
-/
namespace BandCatalog

open Renewal

/-- A request to an endpoint: its URL is that of the endpoint, the query aside. -/
def Http.Request.IsTo (base : Url) (e : Endpoint) (r : Http.Request) : Prop :=
  ∃ u q, base.endpoint e = .ok u ∧ r.url = { u with query := q }

namespace LogEntry

/-- A request to an endpoint, with no authorization where the endpoint is open, and else with the access
token in memory alone. -/
def Rightful (base : Url) : LogEntry → Prop
  | exchange r held _ => (∃ e, r.IsTo base e) ∧ ∀ e, r.IsTo base e →
      r.headers.values authorizationName = if e.isOpen then [] else (held.map bearer).toList
  | pause _ => True

/-- The exchange of a refresh token. -/
def renews (refreshUrl : Url) : LogEntry → Bool
  | exchange r _ _ => r.url = refreshUrl
  | pause _ => false

/-- The newest entry is a request that may carry a token and was turned away. -/
def Provokes (base : Url) : List LogEntry → Prop
  | exchange r _ (.ok a) :: _ => a.status = 401 ∧ ∃ e, r.IsTo base e ∧ e.isOpen = false
  | _ => False

end LogEntry

namespace Http.Request

variable {base : Url} {e : Endpoint} {r : Http.Request}

theorem IsTo.isUnauthenticated (hbase : base.IsBase) (h : r.IsTo base e) :
    r.url.isUnauthenticated = e.isOpen := by
  obtain ⟨u, q, hu, hr⟩ := h
  rw [hr]
  exact Url.isUnauthenticated_endpoint hbase hu q

theorem IsTo.isSendable (hbase : base.IsBase) (h : r.IsTo base e) : r.isSendable = true := by
  obtain ⟨u, q, hu, hr⟩ := h
  obtain ⟨ss, -, hendpoint⟩ := Url.endpoint_eq hbase
  cases (hendpoint e).symm.trans hu
  rcases hbase.scheme with hs | hs <;> simp [Http.Request.isSendable, hr, hs]

/-- Only requests to the refresh endpoint have its URL. -/
theorem IsTo.eq_refresh (hbase : base.IsBase) (h : r.IsTo base e)
    (hurl : base.endpoint .refresh = .ok r.url) : e = .refresh := by
  obtain ⟨u, q, hu, hr⟩ := h
  obtain ⟨ss, -, hendpoint⟩ := Url.endpoint_eq hbase
  cases (hendpoint e).symm.trans hu
  have hpath : r.url.path = .segments (ss ++ Endpoint.refresh.names) := by
    rw [← Except.ok.inj ((hendpoint .refresh).symm.trans hurl)]
  rw [hr] at hpath
  have hnames : e.names = Endpoint.refresh.names := List.append_cancel_left (Url.Path.segments.inj hpath)
  cases e with
  | refresh => rfl
  | _ => simp [Endpoint.names] at hnames

theorem IsTo.congr {q : Http.Request} (h : r.IsTo base e) (hurl : q.url = r.url) : q.IsTo base e := by
  obtain ⟨u, qs, hu, hr⟩ := h
  exact ⟨u, qs, hu, hurl.trans hr⟩

/-- A request as the client makes it: to an endpoint other than the refresh endpoint, and without
authorization. -/
def IsBuilt (base : Url) (r : Http.Request) : Prop :=
  (∃ e, r.IsTo base e ∧ e ≠ .refresh) ∧ r.headers.values authorizationName = []

/-- Without user information in the base there is no authorization to start with. -/
theorem values_build {u : Url} (h : u.hasUserInfo = false) (method : String) (json : Option Json) :
    (build method u json).url = u ∧ (build method u json).headers.values authorizationName = [] := by
  cases json with
  | none => simp [build, takeUserInfo_of_not h, Headers.values]
  | some v =>
    have hne : ¬ "content-type" = lowerName authorizationName := by decide
    simp [build, takeUserInfo_of_not h, Headers.values, hne]

end Http.Request

namespace Session

variable {β σ : Type} {base : Url}

/-- What holds of a session as long as calls are made one at a time. -/
structure Kept (base : Url) (s : Session β σ) : Prop where
  quiet : s.world.Quiet
  refreshUrl : base.endpoint .refresh = .ok s.refreshUrl
  rightful : ∀ entry ∈ s.log, entry.Rightful base
  provoked : ∀ entry older, entry :: older <:+ s.log → entry.renews s.refreshUrl = true →
    LogEntry.Provokes base older
  renewals : s.world.renewals = s.log.countP (·.renews s.refreshUrl)

theorem Kept.new {st : Store σ} {b : β} {url : Url} (hurl : base.endpoint .refresh = .ok url) :
    Kept base (⟨World.new st, b, url, []⟩ : Session β σ) :=
  ⟨World.new_quiet st, hurl, by simp, by simp, rfl⟩

namespace Kept

variable {s : Session β σ}

/-- The coordinator is used and quiet again. -/
theorem world (h : s.Kept base) {st : Store σ} {v : World σ} {n : Nat} (hv : s.world.Rests st 0 n v) :
    Kept base { s with world := v } :=
  ⟨hv.quiet, h.refreshUrl, h.rightful, h.provoked, hv.renewals.trans h.renewals⟩

/-- The log grows by an entry. -/
theorem grow (h : s.Kept base) {u : Session β σ} {entry : LogEntry} (hquiet : u.world.Quiet)
    (hurl : u.refreshUrl = s.refreshUrl) (hlog : u.log = entry :: s.log) (hentry : entry.Rightful base)
    (hprovoked : entry.renews s.refreshUrl = true → LogEntry.Provokes base s.log)
    (hrenewals : u.world.renewals =
      s.world.renewals + if entry.renews s.refreshUrl = true then 1 else 0) : u.Kept base where
  quiet := hquiet
  refreshUrl := hurl ▸ h.refreshUrl
  rightful := by
    rw [hlog]
    exact List.forall_mem_cons.mpr ⟨hentry, h.rightful⟩
  provoked := by
    intro e older hsuffix hrenews
    rw [hlog] at hsuffix
    rw [hurl] at hrenews
    rcases List.suffix_cons_iff.mp hsuffix with heq | hsuffix
    · cases heq
      exact hprovoked hrenews
    · exact h.provoked e older hsuffix hrenews
  renewals := by rw [hrenewals, h.renewals, hlog, hurl, List.countP_cons]

theorem pause (h : s.Kept base) (ms : Nat) : Kept base { s with log := .pause ms :: s.log } :=
  h.grow h.quiet rfl rfl trivial (by simp [LogEntry.renews]) (by simp [LogEntry.renews])

variable [Backend β] (hbase : base.IsBase)
include hbase

/-- Every endpoint that a request is to treats its authorization alike. -/
theorem rightful_exchange {r : Http.Request} {e : Endpoint} {held : Option String} {o : Http.Outcome}
    (hto : r.IsTo base e)
    (hvalues : r.headers.values authorizationName = if e.isOpen then [] else (held.map bearer).toList) :
    (LogEntry.exchange r held o).Rightful base := by
  refine ⟨⟨e, hto⟩, fun d hd => ?_⟩
  rw [hvalues, ← hto.isUnauthenticated hbase, ← hd.isUnauthenticated hbase]

/-- A request goes out. -/
theorem send (h : s.Kept base) {r : Http.Request} {e : Endpoint} (hto : r.IsTo base e)
    (hne : e ≠ .refresh)
    (hvalues : r.headers.values authorizationName =
      if e.isOpen then [] else (s.memory.access.map bearer).toList) : (s.sent r).Kept base := by
  have hother : (LogEntry.exchange r s.memory.access (Backend.answer s.backend r).1).renews
      s.refreshUrl = false := by
    refine decide_eq_false fun hurl => hne (hto.eq_refresh hbase ?_)
    rw [hurl]
    exact h.refreshUrl
  refine h.grow h.quiet rfl rfl (rightful_exchange hbase hto hvalues) ?_ ?_
  · rw [hother]
    exact nofun
  · rw [hother]
    rfl

variable [KeyValue σ]

omit [Backend β] hbase in
theorem write (h : s.Kept base) (w : Write) : (s.write w).2.Kept base := by
  obtain ⟨v, heq, hv⟩ := s.write_alone h.quiet w
  rw [heq]
  exact h.world hv

/-- A request is turned away and recovered: what comes back carries the access token that is in memory by
then. -/
theorem recover (h : s.Kept base) (p : Pending) (huser : base.hasUserInfo = false)
    (hprovokes : LogEntry.Provokes base s.log) :
    (s.recover p).2.Kept base ∧ ∀ q, (s.recover p).1 = .ok q →
      ∃ token, (s.recover p).2.memory.access = some token ∧ authorize p.request token = .ok q := by
  rcases s.recover_alone h.quiet p with
    ⟨token, v, haccess, hv, heq⟩ | ⟨v, -, hv, heq⟩ | ⟨token, v, -, hv, heq⟩
  · rw [heq]
    refine ⟨h.world hv, fun q hq => ⟨token, ?_, hq⟩⟩
    rw [memory, hv.store]
    exact haccess
  · rw [heq]
    refine ⟨h.world hv, ?_⟩
    intro q hq
    cases hq
  · rw [heq]
    let r := exchangeRequest s.refreshUrl token
    obtain ⟨ss, -, hendpoint⟩ := Url.endpoint_eq hbase
    have hnouser : s.refreshUrl.hasUserInfo = false := by
      rw [← Except.ok.inj ((hendpoint .refresh).symm.trans h.refreshUrl)]
      exact huser
    obtain ⟨hurl, hvalues⟩ := Http.Request.values_build hnouser "POST" (some (exchangeBody token))
    have hto : r.IsTo base .refresh := ⟨s.refreshUrl, s.refreshUrl.query, h.refreshUrl, hurl⟩
    have hrenew : (s.renew token).2 = s.sent r := by
      rw [Session.renew, s.send_eq (hto.isSendable hbase)]
    let entry : LogEntry := .exchange r s.memory.access (Backend.answer s.backend r).1
    have hrightful : entry.Rightful base := rightful_exchange hbase hto hvalues
    have hrenews : entry.renews s.refreshUrl = true := decide_eq_true hurl
    refine ⟨?_, fun q hq => ?_⟩
    · refine h.grow hv.quiet ?_ ?_ hrightful (fun _ => hprovokes) ?_
      · rw [hrenew]
        rfl
      · rw [hrenew]
        rfl
      · rw [if_pos hrenews]
        exact hv.renewals
    · -- only a renewal that brings a pair hands the request back
      generalize Verdict.ofAnswer (.ofExchange (s.renew token).1) = d at hq hv
      cases d with
      | renewed pair =>
        refine ⟨pair.access, ?_, hq⟩
        rw [memory, hv.store]
        rfl
      | ended cause => cases hq

end Kept

end Session

namespace Client

open Conversation Session

theorem eq_bearing_of_authorize {r q : Http.Request} {token : String} (h : authorize r token = .ok q) :
    q = r.bearing token := by
  unfold authorize at h
  split at h
  · cases h
    rfl
  · cases h

theorem values_withToken {r q : Http.Request} {token : Option String}
    (hr : r.headers.values authorizationName = []) (h : withToken r token = .ok q) :
    q.url = r.url ∧ q.headers.values authorizationName = (token.map bearer).toList := by
  cases token with
  | none =>
    cases h
    exact ⟨rfl, hr⟩
  | some t =>
    cases eq_bearing_of_authorize h
    exact ⟨rfl, r.bears_bearing t⟩

theorem values_unauthorize (r : Http.Request) :
    (unauthorize r).headers.values authorizationName = [] := by
  simp [unauthorize, Http.Headers.values, Http.Headers.remove]

section requests

variable {β σ : Type} [Backend β] [KeyValue σ] {base : Url} {r : Http.Request}

theorem hold_execute (r : Http.Request) (s : Session β σ) :
    ((execute r).hold s).2 = (s.send r).2 := by
  rw [execute, hold_exchange]
  cases (s.send r).1 <;> rfl

/-- What is sent to an open endpoint has one exchange, whatever comes of it. -/
theorem hold_send_of_open {e : Endpoint} (hbase : base.IsBase) (hto : r.IsTo base e)
    (hopen : e.isOpen = true) (s : Session β σ) :
    ((send r).hold s).2 = s.sent (unauthorize r) := by
  have hsendable : (unauthorize r).isSendable = true := hto.isSendable hbase
  rw [send, if_pos ((hto.isUnauthenticated hbase).trans hopen), hold_execute, s.send_eq hsendable]

theorem keeps_retry (hbase : base.IsBase) {q : Http.Request} {e : Endpoint} {token : String}
    (hto : r.IsTo base e) (hne : e ≠ .refresh) (hprotected : e.isOpen = false)
    (hq : authorize r token = .ok q) {s : Session β σ} (hs : s.Kept base)
    (htoken : s.memory.access = some token) : ((retry q).hold s).2.Kept base := by
  cases eq_bearing_of_authorize hq
  have hto' : (r.bearing token).IsTo base e := hto.congr rfl
  have hsent : (s.sent (r.bearing token)).Kept base := by
    refine hs.send hbase hto' hne ?_
    rw [hprotected, htoken]
    exact r.bears_bearing token
  rw [retry_eq, hold_exchange, s.send_eq (hto'.isSendable hbase)]
  cases (Backend.answer s.backend (r.bearing token)).1 with
  | error o => exact hsent
  | ok a =>
    simp only [reheard]
    split <;> exact hsent

/-- What follows the exchange of a request that may carry a token. -/
theorem keeps_heard (hbase : base.IsBase) (huser : base.hasUserInfo = false) {e : Endpoint}
    (hto : r.IsTo base e) (hne : e ≠ .refresh) (hprotected : e.isOpen = false)
    (token : Option String) {o : Http.Outcome} {s : Session β σ} (hs : s.Kept base)
    (hprovokes : ∀ a, o = .ok a → a.status = 401 → LogEntry.Provokes base s.log) :
    ((heard r token o).hold s).2.Kept base := by
  cases o with
  | error o => exact hs
  | ok a =>
    simp only [heard]
    split
    · exact hs
    next hrefused =>
    have hstatus : a.status = 401 := by
      simp only [Bool.or_eq_true, not_or, Bool.not_eq_true, Bool.not_eq_false', isUnauthorized,
        beq_iff_eq] at hrefused
      exact hrefused.1
    obtain ⟨hkept, hback⟩ := hs.recover hbase ⟨r, token⟩ huser (hprovokes a rfl hstatus)
    rw [hold_recover]
    cases hresult : (s.recover ⟨r, token⟩).1 with
    | error error => exact hkept
    | ok again =>
      obtain ⟨t, ht, hagain⟩ := hback again hresult
      exact keeps_retry hbase hto hne hprotected hagain hkept ht

/-- One request through the middleware. -/
theorem keeps_send (hbase : base.IsBase) (huser : base.hasUserInfo = false) (hr : r.IsBuilt base) :
    (send r).Keeps (Kept base : Session β σ → Prop) := by
  obtain ⟨⟨e, hto, hne⟩, hbare⟩ := hr
  intro s hs
  cases hopen : e.isOpen with
  | true =>
    rw [hold_send_of_open hbase hto hopen]
    refine hs.send hbase (hto.congr rfl) hne ?_
    rw [values_unauthorize, hopen]
    rfl
  | false =>
    rw [send, hto.isUnauthenticated hbase, hopen]
    show ((sendProtected r s.memory.access).hold s).2.Kept base
    cases hq : withToken r s.memory.access with
    | error error =>
      rw [sendProtected_of_error hq]
      exact hs
    | ok q =>
      obtain ⟨hurl, hvalues⟩ := values_withToken hbare hq
      have htoq : q.IsTo base e := hto.congr hurl
      have hsent : (s.sent q).Kept base := by
        refine hs.send hbase htoq hne ?_
        rw [hvalues, hopen]
        rfl
      rw [sendProtected_of_ok hq, hold_exchange, s.send_eq (htoq.isSendable hbase)]
      refine keeps_heard hbase huser htoq hne hopen s.memory.access hsent ?_
      intro a ha hstatus
      rw [sent, ha]
      exact ⟨hstatus, e, htoq, hopen⟩

end requests

/-- The calls of the client, and those that begin, end or look after a session. -/
inductive Call where
  | login (l : Login)
  | register (l : Login)
  | logout
  | validate (token : String)
  | currentUser
  | permissions
  | bands (f : Filter) (p : PageRequest)
  | band (id : Int)
  | deleteBand (id : Int)
  | signIn (l : Login)
  | signUp (l : Login)
  | signOut
  | allPermissions (u : User)
  | status

/-- What is done for a call, its result aside. -/
def Call.conversation (c : Client) : Call → Conversation Unit
  | login l => (c.login l).silent
  | register l => (c.register l).silent
  | logout => c.logout.silent
  | validate token => (c.validate token).silent
  | currentUser => c.currentUser.silent
  | permissions => c.permissions.silent
  | bands f p => (c.bands f p).silent
  | band id => (c.band id).silent
  | deleteBand id => (c.deleteBand id).silent
  | signIn l => (c.signIn l).silent
  | signUp l => (c.signUp l).silent
  | signOut => c.signOut.silent
  | allPermissions u => (c.allPermissions u).silent
  | status => c.status.silent

section calls

variable {β σ : Type} [Backend β] [KeyValue σ]

/-- Calls one at a time. -/
def run (c : Client) (s : Session β σ) (calls : List Call) : Session β σ :=
  calls.foldl (fun s call => ((call.conversation c).hold s).2) s

/-- The requests of a client whose base has no user information. -/
theorem isBuilt_of_build {c : Client} (hbase : c.base.IsBase) (huser : c.base.hasUserInfo = false)
    {method : String} {e : Endpoint} {json : Option Json} {r : Http.Request} (hne : e ≠ .refresh)
    (h : c.build method e json = .ok r) : r.IsBuilt c.base := by
  obtain ⟨ss, -, hendpoint⟩ := Url.endpoint_eq hbase
  rw [build, hendpoint e] at h
  cases h
  let u : Url := { c.base with path := .segments (ss ++ e.names), query := none, fragment := none }
  have hnouser : u.hasUserInfo = false := huser
  obtain ⟨hurl, hvalues⟩ := Http.Request.values_build hnouser method json
  exact ⟨⟨e, ⟨_, none, hendpoint e, hurl⟩, hne⟩, hvalues⟩

theorem isBuilt_withQuery {base : Url} {r : Http.Request} (ps : List (String × String))
    (h : r.IsBuilt base) : (withQuery ps r).IsBuilt base := by
  obtain ⟨⟨e, ⟨u, q, hu, hr⟩, hne⟩, hvalues⟩ := h
  refine ⟨⟨e, ⟨u, some (Url.Form.encode ps), hu, ?_⟩, hne⟩, hvalues⟩
  rw [withQuery, hr]

variable {c : Client} (hbase : c.base.IsBase) (huser : c.base.hasUserInfo = false)
include hbase huser

section exchanges

variable {r : Http.Request} (hr : r.IsBuilt c.base)
include hr

theorem keeps_attempt (wait left : Nat) :
    (attempt r wait left).Keeps (Kept c.base : Session β σ → Prop) := by
  have hjudge : ∀ (a : Http.Response) (slow : Conversation (Except Failure Http.Response)),
      slow.Keeps (Kept c.base : Session β σ → Prop) →
        (judge a slow).Keeps (Kept c.base : Session β σ → Prop) := by
    intro a slow hslow
    unfold judge
    split
    · exact .done _
    · split
      · exact hslow
      · exact .done _
  induction left generalizing wait with
  | zero => exact (keeps_send hbase huser hr).andThen fun a => hjudge a _ (.done _)
  | succ left ih =>
    refine (keeps_send hbase huser hr).andThen fun a => hjudge a _ ?_
    exact fun s hs => ih (2 * wait) _ (hs.pause wait)

theorem keeps_fetch {α : Type} (decode : Json.Decode α) :
    (fetch decode r).Keeps (Kept c.base : Session β σ → Prop) := by
  refine (keeps_attempt hbase huser hr _ _).andThen fun a => ?_
  split <;> exact .done _

theorem keeps_tell : (tell r).Keeps (Kept c.base : Session β σ → Prop) :=
  (keeps_attempt hbase huser hr _ _).andThen fun _ => .done _

end exchanges

/-- A call of one endpoint keeps to what its request keeps to. -/
theorem keeps_whenBuilt {α : Type} {method : String} {e : Endpoint} {json : Option Json}
    (hne : e ≠ .refresh) {f : Http.Request → Conversation (Except Failure α)}
    (hf : ∀ r, r.IsBuilt c.base → (f r).Keeps (Kept c.base : Session β σ → Prop)) :
    (whenBuilt (c.build method e json) f).Keeps (Kept c.base : Session β σ → Prop) := by
  cases hr : c.build method e json with
  | error e => exact .done _
  | ok r => exact hf r (isBuilt_of_build hbase huser hne hr)

omit hbase huser in
theorem keeps_store {α : Type} {base : Url} (w : Write) {next : Conversation (Except Failure α)}
    (hnext : next.Keeps (Kept base : Session β σ → Prop)) :
    (store w next).Keeps (Kept base : Session β σ → Prop) := by
  intro s hs
  rw [store, hold_write]
  cases (s.write w).1 with
  | ok _ => exact hnext _ (hs.write w)
  | error e => exact hs.write w

theorem keeps_login (l : Login) : (c.login l).Keeps (Kept c.base : Session β σ → Prop) :=
  keeps_whenBuilt hbase huser (by decide) fun _ hr => keeps_fetch hbase huser hr _

theorem keeps_register (l : Login) : (c.register l).Keeps (Kept c.base : Session β σ → Prop) :=
  keeps_whenBuilt hbase huser (by decide) fun _ hr => keeps_fetch hbase huser hr _

theorem keeps_logout : c.logout.Keeps (Kept c.base : Session β σ → Prop) :=
  keeps_whenBuilt hbase huser (by decide) fun _ hr => keeps_tell hbase huser hr

theorem keeps_validate (token : String) :
    (c.validate token).Keeps (Kept c.base : Session β σ → Prop) :=
  keeps_whenBuilt hbase huser (by decide) fun _ hr => keeps_fetch hbase huser hr _

theorem keeps_currentUser : c.currentUser.Keeps (Kept c.base : Session β σ → Prop) :=
  keeps_whenBuilt hbase huser (by decide) fun _ hr => keeps_fetch hbase huser hr _

theorem keeps_permissions : c.permissions.Keeps (Kept c.base : Session β σ → Prop) :=
  keeps_whenBuilt hbase huser (by decide) fun _ hr => keeps_fetch hbase huser hr _

theorem keeps_bands (f : Filter) (p : PageRequest) :
    (c.bands f p).Keeps (Kept c.base : Session β σ → Prop) :=
  keeps_whenBuilt hbase huser (by decide) fun _ hr =>
    keeps_fetch hbase huser (isBuilt_withQuery _ hr) _

theorem keeps_band (id : Int) : (c.band id).Keeps (Kept c.base : Session β σ → Prop) :=
  keeps_whenBuilt hbase huser (by simp) fun _ hr => keeps_fetch hbase huser hr _

theorem keeps_deleteBand (id : Int) : (c.deleteBand id).Keeps (Kept c.base : Session β σ → Prop) :=
  keeps_whenBuilt hbase huser (by simp) fun _ hr => keeps_tell hbase huser hr

theorem keeps_signOut : c.signOut.Keeps (Kept c.base : Session β σ → Prop) := by
  have hforget : (store .forget (done (.ok ()))).Keeps (Kept c.base : Session β σ → Prop) :=
    keeps_store _ (.done _)
  refine .access fun token => ?_
  show (if token.isSome then _ else _ : Conversation (Except Failure Unit)).Keeps _
  split
  · exact (keeps_logout hbase huser).bind fun _ => hforget
  · exact hforget

theorem keeps_status : c.status.Keeps (Kept c.base : Session β σ → Prop) := by
  have hend : endSession.Keeps (Kept c.base : Session β σ → Prop) := keeps_store _ (.done _)
  refine .access fun token => ?_
  cases token with
  | none => exact hend
  | some token =>
    refine (keeps_validate hbase huser token).andThen fun validation => .refresh fun refreshToken => ?_
    split
    · exact hend
    · refine (keeps_currentUser hbase huser).bind fun r => ?_
      cases r with
      | ok user => exact .done _
      | error e =>
        show (if e.isSessionEnded then endSession else done (.error e)).Keeps _
        split
        · exact hend
        · exact .done _

/-- Every call leaves a session as it should be. -/
theorem keeps_call (call : Call) :
    (call.conversation c).Keeps (Kept c.base : Session β σ → Prop) := by
  have hstart : ∀ a : SignIn, (start a).Keeps (Kept c.base : Session β σ → Prop) :=
    fun a => keeps_store _ (.done _)
  cases call with
  | login l => exact (keeps_login hbase huser l).silent
  | register l => exact (keeps_register hbase huser l).silent
  | logout => exact (keeps_logout hbase huser).silent
  | validate token => exact (keeps_validate hbase huser token).silent
  | currentUser => exact (keeps_currentUser hbase huser).silent
  | permissions => exact (keeps_permissions hbase huser).silent
  | bands f p => exact (keeps_bands hbase huser f p).silent
  | band id => exact (keeps_band hbase huser id).silent
  | deleteBand id => exact (keeps_deleteBand hbase huser id).silent
  | signIn l => exact ((keeps_login hbase huser l).andThen hstart).silent
  | signUp l => exact ((keeps_register hbase huser l).andThen hstart).silent
  | signOut => exact (keeps_signOut hbase huser).silent
  | allPermissions u =>
    exact ((keeps_permissions hbase huser).bind fun _ => .done _).silent
  | status => exact (keeps_status hbase huser).silent

theorem keeps_run (calls : List Call) {s : Session β σ} (hs : s.Kept c.base) :
    (c.run s calls).Kept c.base := by
  induction calls generalizing s with
  | nil => exact hs
  | cons call calls ih => exact ih (keeps_call hbase huser call s hs)

end calls

section authorization

theorem connect_ok {raw : String} {c : Client} {refreshUrl : Url}
    (h : connect raw = .ok (c, refreshUrl)) :
    Url.base raw = .ok c.base ∧ c.base.endpoint .refresh = .ok refreshUrl := by
  simp only [connect, Bind.bind, Except.bind, Pure.pure, Except.pure] at h
  split at h
  · cases h
  next base hbase =>
  split at h
  · cases h
  next url hurl =>
  cases h
  exact ⟨hbase, hurl⟩

variable {β σ : Type} [Backend β] [KeyValue σ]

/-- Every exchange of any calls, one at a time, is to an endpoint, with exactly the token in memory unless that is
open, or it renews the session right after a request that may carry a token was turned away. -/
theorem authorization_of_calls {raw : String} {c : Client} {refreshUrl : Url}
    (hconnect : connect raw = .ok (c, refreshUrl))
    (hscheme : c.base.scheme = "http" ∨ c.base.scheme = "https") (huser : c.base.hasUserInfo = false)
    (st : Store σ) (b : β) (calls : List Call) :
    let s := c.run (⟨World.new st, b, refreshUrl, []⟩ : Session β σ) calls
    (∀ entry ∈ s.log, entry.Rightful c.base) ∧
    s.world.renewals = s.log.countP (·.renews refreshUrl) ∧
    (∀ entry older, entry :: older <:+ s.log → entry.renews refreshUrl = true →
      LogEntry.Provokes c.base older) ∧
    (∀ r e, r.IsTo c.base e → e.isOpen = true →
      ∀ before : Session β σ, ((send r).hold before).2.world = before.world) ∧
    ∀ e, ∃ u, c.base.endpoint e = .ok u ∧
      ∀ q, ({ u with query := q } : Url).isUnauthenticated = e.isOpen := by
  intro s
  obtain ⟨hraw, hrefresh⟩ := connect_ok hconnect
  have hbase : c.base.IsBase := Url.isBase_of_base hraw hscheme
  have hkept : s.Kept c.base := keeps_run hbase huser calls (.new hrefresh)
  have hurl : s.refreshUrl = refreshUrl := Except.ok.inj (hkept.refreshUrl.symm.trans hrefresh)
  refine ⟨hkept.rightful, hurl ▸ hkept.renewals, hurl ▸ hkept.provoked, ?_, fun e => ?_⟩
  · intro r e hto hopen before
    rw [hold_send_of_open hbase hto hopen]
    rfl
  · obtain ⟨ss, -, hendpoint⟩ := Url.endpoint_eq hbase
    exact ⟨_, hendpoint e, Url.isUnauthenticated_endpoint hbase (hendpoint e)⟩

/-- A login and a deletion, both turned away; the refresh token is good, the deletion is told to slow down,
and then it succeeds. -/
def answers : Replay := .ofList [.ok ⟨401, none⟩, .ok ⟨401, none⟩,
  .ok ⟨200, some "\x7b\"accessToken\":\"A2\",\"refreshToken\":\"R2\"\x7d".toUTF8⟩,
  .ok ⟨429, none⟩, .ok ⟨204, none⟩]

def apiClient : Client :=
  ⟨⟨"http", some ⟨"", "", .name "api.test", none⟩, .segments ["v1", ""], none, none⟩⟩

def apiRefresh : Url :=
  ⟨"http", some ⟨"", "", .name "api.test", none⟩, .segments ["v1", "auth", "refresh"], none, none⟩

def signedIn : Store TextMap := ⟨.empty, .ofPair ⟨"A1", "R1"⟩⟩

def deletion : Session Replay TextMap :=
  apiClient.run ⟨World.new signedIn, answers, apiRefresh, []⟩ [.login ⟨"user", "password"⟩, .deleteBand 7]

theorem authorization_of_deletion :
    connect "http://api.test/v1" = .ok (apiClient, apiRefresh) ∧ apiClient.base.scheme = "http" ∧
      apiClient.base.hasUserInfo = false ∧ (∀ entry ∈ deletion.log, entry.Rightful apiClient.base) ∧
      deletion.log.countP (·.renews apiRefresh) = 1 ∧
      (deletion.log.filterMap fun
        | .exchange r _ _ => some (r.headers.values authorizationName)
        | .pause _ => none) = [["Bearer A2"], ["Bearer A2"], [], ["Bearer A1"], []] := by
  have hconnect : connect "http://api.test/v1" = .ok (apiClient, apiRefresh) := rfl
  obtain ⟨hrightful, hrenewals, -⟩ := authorization_of_calls hconnect (.inl rfl) rfl signedIn answers
    [.login ⟨"user", "password"⟩, .deleteBand 7]
  have hone : deletion.world.renewals = 1 := by rfl
  exact ⟨hconnect, rfl, rfl, hrightful, hrenewals.symm.trans hone, by rfl⟩

end authorization

end Client

end BandCatalog
