import BandCatalog.Proofs.Client.Backoff
import BandCatalog.Proofs.Client.Bearing

/-!
# What a call leaves behind

A call that is made alone adds to the log of its session, and it leaves in memory the pair of the last renewal
among what it added, the tokens that were there if there is none, or nothing if the session came to its end.
A value that it ends with was read from an answer to its own request. This holds of every storage, and
whatever the backend answers.
-/
namespace BandCatalog

open Renewal

namespace Http

/-- The URL that a request for a URL is sent to: without the user information, which goes into a header. -/
def address (u : Url) : Url := (takeUserInfo u).1

theorem takeUserInfo_parts (u : Url) :
    (takeUserInfo u).1.scheme = u.scheme ∧ (takeUserInfo u).1.path = u.path := by
  unfold takeUserInfo
  repeat' split
  all_goals exact ⟨rfl, rfl⟩

@[simp] theorem scheme_address (u : Url) : (address u).scheme = u.scheme := (takeUserInfo_parts u).1
@[simp] theorem path_address (u : Url) : (address u).path = u.path := (takeUserInfo_parts u).2

namespace Request

theorem build_parts (method : String) (u : Url) (json : Option Json) :
    (build method u json).method = method ∧ (build method u json).url = address u := by
  cases json <;> exact ⟨rfl, rfl⟩

/-- A request that cannot be taken for the exchange of a refresh token. -/
def Apart (refreshUrl : Url) (r : Request) : Prop := r.isSendable = true → r.url ≠ address refreshUrl

theorem Apart.congr {refreshUrl : Url} {q r : Request} (h : r.Apart refreshUrl) (hurl : q.url = r.url) :
    q.Apart refreshUrl := by
  intro hsendable
  rw [isSendable, hurl] at hsendable
  rw [hurl]
  exact h hsendable

/-- No request to another endpoint can, on any base. -/
theorem apart_of_endpoint {raw : String} {base u refreshUrl : Url} {e : Endpoint}
    (hbase : Url.base raw = .ok base) (hrefresh : base.endpoint .refresh = .ok refreshUrl)
    (hu : base.endpoint e = .ok u) (hne : e.names ≠ Endpoint.refresh.names) {r : Request}
    (hurl : r.url = address u) : r.Apart refreshUrl := by
  intro hsendable heq
  have hscheme : base.scheme = "http" ∨ base.scheme = "https" := by
    simpa [isSendable, hurl, Url.scheme_endpoint hu] using hsendable
  have hpath : u.path ≠ refreshUrl.path :=
    Url.path_endpoint_ne (Url.isBase_of_base hbase hscheme) hne hu hrefresh
  refine hpath ?_
  rw [← path_address u, ← hurl, heq, path_address]

end Request

end Http

namespace LogEntry

/-- The pair that an exchange of a refresh token brought. -/
def renewed? (refreshUrl : Url) : LogEntry → Option Pair
  | exchange r _ o => if r.url = Http.address refreshUrl then (classify r.url o).toOption else none
  | pause _ => none

/-- A success, in answer to a request for an endpoint, from which a value is read. -/
def Brings {α : Type} (base : Url) (method : String) (e : Endpoint) (decode : Json.Decode α) (value : α) :
    LogEntry → Prop
  | exchange r _ (.ok a) =>
    r.method = method ∧ (∃ u, base.endpoint e = .ok u ∧ r.url = Http.address u) ∧
      Http.isSuccess a.status = true ∧ a.json?.bind decode = some value
  | _ => False

end LogEntry

namespace Failure

/-- Whether the coordinator has ended the session. -/
def isExpired : Failure → Bool
  | api (.auth (.sessionExpired _)) => true
  | _ => false

theorem isSessionEnded_of_isExpired {e : Failure} (h : e.isExpired = true) : e.isSessionEnded = true := by
  unfold isExpired at h
  split at h
  · rfl
  · cases h

end Failure

namespace Session

variable {β σ : Type}

/-- The tokens in memory after some more entries, as long as the session goes on. -/
def heldAfter (s : Session β σ) (es : List LogEntry) : Tokens :=
  ((es.findSome? (LogEntry.renewed? s.refreshUrl)).map Tokens.ofPair).getD s.memory

/-- What is left of a session that came to its end or goes on, after some more entries. -/
structure Leaves (s : Session β σ) (ended : Bool) (es : List LogEntry) (v : Session β σ) : Prop where
  quiet : v.world.Quiet
  refreshUrl : v.refreshUrl = s.refreshUrl
  log : v.log = es ++ s.log
  memory : v.memory = if ended then .none else s.heldAfter es

theorem Leaves.refl {s : Session β σ} (hquiet : s.world.Quiet) : s.Leaves false [] s :=
  ⟨hquiet, rfl, rfl, rfl⟩

theorem Leaves.trans {s u v : Session β σ} {ended : Bool} {es fs : List LogEntry}
    (h : s.Leaves false es u) (k : u.Leaves ended fs v) : s.Leaves ended (fs ++ es) v where
  quiet := k.quiet
  refreshUrl := k.refreshUrl.trans h.refreshUrl
  log := by rw [k.log, h.log, List.append_assoc]
  memory := by
    have hheld : u.heldAfter fs = s.heldAfter (fs ++ es) := by
      rw [heldAfter, heldAfter, h.refreshUrl, h.memory, List.findSome?_append]
      cases fs.findSome? (LogEntry.renewed? s.refreshUrl) <;> rfl
    rw [k.memory, hheld]

theorem Leaves.apart {s u : Session β σ} {ended : Bool} {es : List LogEntry} (h : s.Leaves ended es u)
    {r : Http.Request} (hapart : r.Apart s.refreshUrl) : r.Apart u.refreshUrl := by rwa [h.refreshUrl]

theorem leaves_pause {s : Session β σ} (hquiet : s.world.Quiet) (ms : Nat) :
    s.Leaves false [.pause ms] { s with log := .pause ms :: s.log } := ⟨hquiet, rfl, rfl, rfl⟩

variable [Backend β] {s : Session β σ}

/-- A request goes out that exchanges no refresh token. An answer to it is in the log. -/
theorem leaves_send (hquiet : s.world.Quiet) {r : Http.Request} (hapart : r.Apart s.refreshUrl) :
    ∃ es, s.Leaves false es (s.send r).2 ∧
      ∀ a, (s.send r).1 = .ok a → ∃ held, .exchange r held (.ok a) ∈ es := by
  cases hsendable : r.isSendable with
  | false =>
    have hsend : s.send r = (.error .scheme, s) := by rw [send, hsendable]; rfl
    rw [hsend]
    exact ⟨[], .refl hquiet, fun a ha => by cases ha⟩
  | true =>
    rw [s.send_eq hsendable]
    refine ⟨[.exchange r s.memory.access (Backend.answer s.backend r).1], ⟨hquiet, rfl, rfl, ?_⟩, ?_⟩
    · simp [heldAfter, LogEntry.renewed?, hapart hsendable]
      rfl
    · intro a ha
      exact ⟨s.memory.access, by rw [← ha]; exact List.mem_cons_self⟩

/-- The exchange of a refresh token adds to the log what brings its pair. -/
theorem exists_brought (s : Session β σ) (token : String) :
    ∃ es, (s.renew token).2.refreshUrl = s.refreshUrl ∧ (s.renew token).2.log = es ++ s.log ∧
      ∀ pair, (s.renew token).1 = .ok pair →
        es.findSome? (LogEntry.renewed? s.refreshUrl) = some pair := by
  let r := exchangeRequest s.refreshUrl token
  have hurl : r.url = Http.address s.refreshUrl := (Http.Request.build_parts _ _ _).2
  cases hsendable : r.isSendable with
  | false =>
    have hrenew : s.renew token = (classify r.url (.error .scheme), s) := by
      simp only [renew, send, r, hsendable]
      rfl
    rw [hrenew]
    exact ⟨[], rfl, rfl, fun pair hpair => by cases hpair⟩
  | true =>
    have hrenew : s.renew token = (classify r.url (Backend.answer s.backend r).1, s.sent r) := by
      rw [renew, s.send_eq hsendable]
    rw [hrenew]
    refine ⟨[.exchange r s.memory.access (Backend.answer s.backend r).1], rfl, rfl, fun pair hpair => ?_⟩
    have hclassify : classify r.url (Backend.answer s.backend r).1 = .ok pair := hpair
    rw [List.findSome?_cons, LogEntry.renewed?, if_pos hurl, hclassify]
    rfl

variable [KeyValue σ]

/-- A request comes back unauthorized. It is handed back with a token, or turned away, and where it finds that
the session has ended it leaves no tokens. -/
theorem leaves_recover (hquiet : s.world.Quiet) (p : Pending) :
    ∃ ended es, s.Leaves ended es (s.recover p).2 ∧
      (∀ q, (s.recover p).1 = .ok q → ended = false ∧ ∃ token, authorize p.request token = .ok q) ∧
      ∀ e, (s.recover p).1 = .error e → (Failure.api (.auth e)).isExpired = ended := by
  have hauthorize : ∀ token e, authorize p.request token = .error e →
      (Failure.api (.auth e)).isExpired = false := by
    intro token e he
    unfold authorize at he
    split at he
    · cases he
    · cases he
      rfl
  rcases s.recover_alone hquiet p with ⟨token, v, -, hv, heq⟩ | ⟨v, -, hv, heq⟩ | ⟨token, v, -, hv, heq⟩
  · rw [heq]
    refine ⟨false, [], ⟨hv.quiet, rfl, rfl, ?_⟩, fun q hq => ⟨rfl, token, hq⟩, hauthorize token⟩
    rw [memory, hv.store]
    rfl
  · rw [heq]
    refine ⟨true, [], ⟨hv.quiet, rfl, rfl, ?_⟩, fun q hq => ?_, ?_⟩
    · rw [memory, hv.store]
      rfl
    · cases hq
    · rintro e ⟨⟩
      rfl
  · rw [heq]
    obtain ⟨es, hrefreshUrl, hlog, hbrought⟩ := s.exists_brought token
    cases hresult : (s.renew token).1 with
    | ok pair =>
      refine ⟨false, es, ⟨hv.quiet, hrefreshUrl, hlog, ?_⟩, fun q hq => ⟨rfl, pair.access, hq⟩,
        hauthorize pair.access⟩
      rw [memory, hv.store, hresult, heldAfter, hbrought pair hresult]
      rfl
    | error e =>
      refine ⟨true, es, ⟨hv.quiet, hrefreshUrl, hlog, ?_⟩, fun q hq => ?_, ?_⟩
      · rw [memory, hv.store, hresult]
        rfl
      · cases hq
      · rintro e ⟨⟩
        rfl

end Session

namespace Client

open Conversation Session

/-- Whether a call has failed because the coordinator has ended the session. -/
def ends {α : Type} : Except Failure α → Bool
  | .ok _ => false
  | .error e => e.isExpired

/-- No status ends a session by itself. -/
theorem isExpired_ofStatus (status : Nat) (text : String) :
    (Failure.api (.ofStatus status text)).isExpired = false := by
  unfold ApiError.ofStatus
  repeat' split
  all_goals rfl

section requests

variable {β σ : Type} [Backend β] {r q : Http.Request} {s u v : Session β σ} {es : List LogEntry}

/-- What a request ends with and leaves. An answer that it ends with was given to it. -/
def Carries (r : Http.Request) (s : Session β σ) (x : Except Failure Http.Response × Session β σ) : Prop :=
  ∃ es, s.Leaves (ends x.1) es x.2 ∧
    ∀ a, x.1 = .ok a → ∃ q held, .exchange q held (.ok a) ∈ es ∧ SameRequest q r

namespace Carries

omit [Backend β]

theorem error {e : Failure} (h : s.Leaves e.isExpired es v) : Carries r s (.error e, v) := ⟨es, h, nofun⟩

theorem answer {a : Http.Response} (h : s.Leaves false es v) (hq : SameRequest q r)
    (hin : ∃ held, .exchange q held (.ok a) ∈ es) : Carries r s (.ok a, v) := by
  obtain ⟨held, hin⟩ := hin
  refine ⟨es, h, ?_⟩
  rintro b ⟨⟩
  exact ⟨q, held, hin, hq⟩

theorem after {x : Except Failure Http.Response × Session β σ} (h : s.Leaves false es u)
    (k : Carries r u x) : Carries r s x := by
  obtain ⟨fs, hleaves, hanswer⟩ := k
  refine ⟨fs ++ es, h.trans hleaves, fun a ha => ?_⟩
  obtain ⟨q, held, hin, hq⟩ := hanswer a ha
  exact ⟨q, held, List.mem_append_left _ hin, hq⟩

end Carries

/-- The same, where an answer that it ends with is a success. -/
def Concludes (r : Http.Request) (s : Session β σ) (x : Except Failure Http.Response × Session β σ) :
    Prop := Carries r s x ∧ ∀ a, x.1 = .ok a → Http.isSuccess a.status = true

omit [Backend β] in
theorem Concludes.error {e : Failure} (h : s.Leaves e.isExpired es v) : Concludes r s (.error e, v) :=
  ⟨.error h, nofun⟩

variable [KeyValue σ] (hquiet : s.world.Quiet) (hapart : r.Apart s.refreshUrl)
include hquiet hapart

/-- One exchange of a request, and what follows the outcome. -/
theorem carries_exchange (hq : SameRequest q r)
    {next : Http.Outcome → Conversation (Except Failure Http.Response)}
    (hnext : ∀ o es u, s.Leaves false es u → (∀ a, o = .ok a → ∃ held, .exchange q held (.ok a) ∈ es) →
      Carries r s ((next o).hold u)) : Carries r s ((exchange q next).hold s) := by
  obtain ⟨es, hleaves, hlogged⟩ := leaves_send hquiet (hapart.congr hq.2.1)
  exact hnext _ es _ hleaves hlogged

theorem carries_execute (hq : SameRequest q r) : Carries r s ((execute q).hold s) := by
  refine carries_exchange hquiet hapart hq fun o es u hleaves hlogged => ?_
  cases o with
  | error o => exact .error hleaves
  | ok a => exact .answer hleaves hq (hlogged a rfl)

theorem carries_retry (hq : SameRequest q r) : Carries r s ((retry q).hold s) := by
  rw [retry_eq]
  refine carries_exchange hquiet hapart hq fun o es u hleaves hlogged => ?_
  cases o with
  | error o => exact .error hleaves
  | ok a =>
    simp only [reheard]
    split
    · exact .error hleaves
    · exact .answer hleaves hq (hlogged a rfl)

theorem carries_recover (hq : SameRequest q r) (token : Option String) :
    Carries r s ((recover ⟨q, token⟩ resumed).hold s) := by
  obtain ⟨ended, es, hleaves, hback, herror⟩ := leaves_recover hquiet ⟨q, token⟩
  rw [hold_recover]
  cases hresult : (s.recover ⟨q, token⟩).1 with
  | error e =>
    rw [← herror e hresult] at hleaves
    exact .error hleaves
  | ok again =>
    obtain ⟨rfl, access, hagain⟩ := hback again hresult
    have hsame : SameRequest again r := (sameRequest_authorize hagain).trans hq
    exact .after hleaves (carries_retry hleaves.quiet (hleaves.apart hapart) hsame)

/-- One request through the middleware. -/
theorem carries_send : Carries r s ((send r).hold s) := by
  cases hopen : r.url.isUnauthenticated with
  | true =>
    rw [send, if_pos hopen]
    exact carries_execute hquiet hapart (sameRequest_unauthorize r)
  | false =>
    rw [send, hopen]
    show Carries r s ((sendProtected r s.memory.access).hold s)
    cases hsent : withToken r s.memory.access with
    | error e =>
      obtain ⟨rfl, -⟩ := withToken_eq_error hsent
      rw [sendProtected_of_error hsent]
      exact .error (.refl hquiet)
    | ok q =>
      have hq : SameRequest q r := sameRequest_withToken hsent
      rw [sendProtected_of_ok hsent]
      refine carries_exchange hquiet hapart hq fun o es u hleaves hlogged => ?_
      cases o with
      | error o => exact .error hleaves
      | ok a =>
        simp only [heard]
        split
        · exact .answer hleaves hq (hlogged a rfl)
        · exact .after hleaves (carries_recover hleaves.quiet (hleaves.apart hapart) hq _)

/-- An attempt, and what is done about it if it is told to slow down. -/
theorem concludes_tried {slow : Conversation (Except Failure Http.Response)}
    (hslow : ∀ es u, s.Leaves false es u → Concludes r s (slow.hold u)) :
    Concludes r s (((send r).andThen fun a => judge a slow).hold s) := by
  obtain ⟨es, hleaves, hanswer⟩ := carries_send hquiet hapart
  rw [andThen, hold_bind]
  cases hx : ((send r).hold s).1 with
  | error e =>
    rw [hx] at hleaves
    exact .error hleaves
  | ok a =>
    rw [hx, ends] at hleaves
    obtain ⟨q, held, hin, hq⟩ := hanswer a hx
    by_cases hlimited : a.status = 429
    · simp only [judge_of_slowed hlimited]
      exact hslow es _ hleaves
    · simp only [judge_of_settled hlimited, Conversation.hold, verdict]
      split
      next hsuccess =>
        refine ⟨.answer hleaves hq ⟨held, hin⟩, ?_⟩
        rintro b ⟨⟩
        exact hsuccess
      · rw [← isExpired_ofStatus a.status a.text] at hleaves
        exact .error hleaves

theorem concludes_attempt (wait left : Nat) : Concludes r s ((attempt r wait left).hold s) := by
  induction left generalizing wait s with
  | zero => exact concludes_tried hquiet hapart fun es u hleaves => .error hleaves
  | succ left ih =>
    refine concludes_tried hquiet hapart fun es u hleaves => ?_
    have hpaused := hleaves.trans (leaves_pause hleaves.quiet wait)
    obtain ⟨hcarries, hsuccess⟩ := ih hpaused.quiet (hleaves.apart hapart) (2 * wait)
    exact ⟨.after hpaused hcarries, hsuccess⟩

/-- A value that a request ends with was read from a success that was given to it. -/
theorem leaves_fetch {α : Type} (decode : Json.Decode α) :
    let x := (fetch decode r).hold s
    ∃ es, s.Leaves (ends x.1) es x.2 ∧ ∀ value, x.1 = .ok value →
      ∃ q held a, .exchange q held (.ok a) ∈ es ∧ SameRequest q r ∧ Http.isSuccess a.status = true ∧
        a.json?.bind decode = some value := by
  have hconcludes : Concludes r s ((request r).hold s) := concludes_attempt hquiet hapart _ _
  rw [fetch, andThen, hold_bind]
  obtain ⟨y, v, hy⟩ : ∃ y v, (request r).hold s = (y, v) := ⟨_, _, rfl⟩
  rw [hy] at hconcludes ⊢
  obtain ⟨⟨es, hleaves, hanswer⟩, hsuccess⟩ := hconcludes
  cases y with
  | error e => exact ⟨es, hleaves, fun value hx => by cases hx⟩
  | ok a =>
    obtain ⟨q, held, hin, hq⟩ := hanswer a rfl
    simp only
    cases hdecode : a.json?.bind decode with
    | none => exact ⟨es, hleaves, fun value hx => by cases hx⟩
    | some value =>
      refine ⟨es, hleaves, ?_⟩
      rintro _ ⟨⟩
      exact ⟨q, held, a, hin, hq, hsuccess a rfl, hdecode⟩

end requests

/-- What a call of an endpoint leaves, on any base. A value that it ends with was read from a success in
answer to a request of its own. -/
theorem leaves_call {α β σ : Type} [Backend β] [KeyValue σ] {raw : String} {c : Client}
    {s : Session β σ} (hconnect : connect raw = .ok (c, s.refreshUrl)) (hquiet : s.world.Quiet)
    (method : String) {e : Endpoint} (hne : e.names ≠ Endpoint.refresh.names) (json : Option Json)
    (decode : Json.Decode α) :
    let x := (whenBuilt (c.build method e json) (fetch decode)).hold s
    ∃ es, s.Leaves (ends x.1) es x.2 ∧
      ∀ value, x.1 = .ok value → ∃ entry ∈ es, entry.Brings c.base method e decode value := by
  obtain ⟨hraw, hrefresh⟩ := connect_ok hconnect
  unfold build
  cases hu : c.base.endpoint e with
  | error e => exact ⟨[], .refl hquiet, fun value hx => by cases hx⟩
  | ok u =>
    obtain ⟨hmethod, hurl⟩ := Http.Request.build_parts method u json
    have hapart : (Http.Request.build method u json).Apart s.refreshUrl :=
      Http.Request.apart_of_endpoint hraw hrefresh hu hne hurl
    obtain ⟨es, hleaves, hvalue⟩ := leaves_fetch hquiet hapart decode
    refine ⟨es, hleaves, fun value hx => ?_⟩
    obtain ⟨q, held, a, hin, hq, hsuccess, hdecode⟩ := hvalue value hx
    exact ⟨_, hin, hq.1.trans hmethod, ⟨u, hu, hq.2.1.trans hurl⟩, hsuccess, hdecode⟩

/-- What comes of a write whose error ends the conversation. -/
theorem hold_store {α β σ : Type} [Backend β] [KeyValue σ] {s : Session β σ} (hquiet : s.world.Quiet)
    (w : Write) (next : Conversation (Except Failure α)) :
    ∃ v, s.world.Rests (s.world.store.write w).2.2 0 0 v ∧
      (store w next).hold s = match (s.world.store.write w).1 with
        | .ok _ => next.hold { s with world := v }
        | .error e => (.error (.store e), { s with world := v }) := by
  obtain ⟨v, heq, hv⟩ := s.write_alone hquiet w
  refine ⟨v, hv, ?_⟩
  rw [store, hold_write, heq]
  cases (s.world.store.write w).1 <;> rfl

end Client

end BandCatalog
