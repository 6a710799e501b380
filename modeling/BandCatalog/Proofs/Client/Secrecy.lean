import BandCatalog.Proofs.Client.Aftermath
import BandCatalog.Proofs.Client.Answers
import BandCatalog.Proofs.Credentials.Mirroring

/-!
# Tokens stay secret

Two sessions whose stores hold the same tokens but for their texts, and whose backends give the same answers.
The same calls have the same results in both, and everything else that is seen of the sessions is the same:
only the authorization of requests and the bodies of those that are for validation or renewal may differ. No
token is compared with another than itself as long as calls are made one at a time.
-/
namespace BandCatalog

open Renewal

/-- Requests that differ at most in their authorization and, where the URL says so, in their body. -/
structure Http.Request.Alike (hidden : Url → Prop) (a b : Http.Request) : Prop where
  method : a.method = b.method
  url : a.url = b.url
  headers : a.headers.remove authorizationName = b.headers.remove authorizationName
  authorization : (a.headers.values authorizationName).length = (b.headers.values authorizationName).length
  isRepeatable : a.isRepeatable = b.isRepeatable
  body : a.body = b.body ∨ hidden a.url

/-- Entries with the same outcome of requests that are alike, sent while a token was in memory or while none
was. -/
inductive LogEntry.Alike (hidden : Url → Prop) : LogEntry → LogEntry → Prop where
  | exchange {a b : Http.Request} (h : a.Alike hidden b) {held held' : Option String}
      (hheld : held.isSome = held'.isSome) (o : Http.Outcome) :
      Alike hidden (.exchange a held o) (.exchange b held' o)
  | pause (ms : Nat) : Alike hidden (.pause ms) (.pause ms)

/-- Which of the tokens are there. -/
def Tokens.presence (t : Tokens) : Bool × Bool := (t.access.isSome, t.refresh.isSome)

/-- Whether a token can be sent. -/
def fits (token : String) : Bool := Http.isHeaderValue (bearer token)

/-- Stores with the same tokens in memory and in storage, but for their texts. The access tokens in memory fit
a header, or neither does. -/
structure Store.Alike (s t : Store FaultyMap) : Prop where
  access : s.memory.access.map fits = t.memory.access.map fits
  refresh : s.memory.refresh.isSome = t.memory.refresh.isSome
  stored : s.storage.tokens.presence = t.storage.tokens.presence
  reliable : s.Reliable ∧ t.Reliable

namespace Store.Alike

variable {s t : Store FaultyMap}

theorem isSome_access (h : s.Alike t) : s.memory.access.isSome = t.memory.access.isSome := by
  simpa using congrArg Option.isSome h.access

theorem presence (h : s.Alike t) : s.memory.presence = t.memory.presence := by
  rw [Tokens.presence, Tokens.presence, h.isSome_access, h.refresh]

/-- Both are written alike. -/
theorem write (h : s.Alike t) (w : Write) : (s.write w).2.2.Alike (t.write w).2.2 where
  access := rfl
  refresh := rfl
  stored := by
    have hs := s.mirrors_write (h.reliable.1.write_ok w)
    have ht := t.mirrors_write (h.reliable.2.write_ok w)
    rw [show (s.write w).2.2.storage.tokens = w.tokens from hs,
      show (t.write w).2.2.storage.tokens = w.tokens from ht]
  reliable := ⟨(s.reliable_write w).mpr h.reliable.1, (t.reliable_write w).mpr h.reliable.2⟩

end Store.Alike

/-- Sessions that cannot be told apart by what is seen of them, and that go on alike. -/
structure Session.Alike (hidden : Url → Prop) (s t : Session Replay FaultyMap) : Prop where
  quiet : s.world.Quiet ∧ t.world.Quiet
  store : s.world.store.Alike t.world.store
  renewals : s.world.renewals = t.world.renewals
  redirects : s.world.redirects = t.world.redirects
  refreshUrl : s.refreshUrl = t.refreshUrl
  hidesRefresh : hidden (Http.address s.refreshUrl)
  known : s.backend.known = t.backend.known
  log : List.Forall₂ (LogEntry.Alike hidden) s.log t.log

namespace Http.Request.Alike

variable {hidden : Url → Prop} {a b : Http.Request}

theorem refl (r : Http.Request) : r.Alike hidden r := ⟨rfl, rfl, rfl, rfl, rfl, .inl rfl⟩

theorem isSendable (h : a.Alike hidden b) : a.isSendable = b.isSendable := by
  rw [Http.Request.isSendable, Http.Request.isSendable, h.url]

/-- Tokens take the place of their authorization. -/
theorem bearing (h : a.Alike hidden b) (x y : String) : (a.bearing x).Alike hidden (b.bearing y) where
  method := h.method
  url := h.url
  headers := by
    rw [(a.sameRequest_bearing x).2.2.2, (b.sameRequest_bearing y).2.2.2, h.headers]
  authorization := by
    rw [show (a.bearing x).headers.values authorizationName = [BandCatalog.bearer x] from a.bears_bearing x,
      show (b.bearing y).headers.values authorizationName = [BandCatalog.bearer y] from b.bears_bearing y]
    rfl
  isRepeatable := h.isRepeatable
  body := h.body

theorem unauthorize (h : a.Alike hidden b) : (unauthorize a).Alike hidden (unauthorize b) where
  method := h.method
  url := h.url
  headers := congrArg _ h.headers
  authorization := by rw [Client.values_unauthorize, Client.values_unauthorize]
  isRepeatable := h.isRepeatable
  body := h.body

/-- Requests that are built with texts where the URL hides them. -/
theorem build (method : String) {u : Url} (hu : hidden (Http.address u)) (x y : Json) :
    (Http.Request.build method u (some x)).Alike hidden (.build method u (some y)) := by
  obtain ⟨-, hurl⟩ := Http.Request.build_parts method u (some x)
  exact ⟨rfl, rfl, rfl, rfl, rfl, .inr (hurl ▸ hu)⟩

end Http.Request.Alike

/-- What is decided about one request is decided about every other. -/
theorem Renewal.Verdict.resume_cases (d : Verdict) (a b : Http.Request) :
    (∃ e, d.resume a = .error e ∧ d.resume b = .error e) ∨
      ∃ token, d.resume a = .ok (a.bearing token) ∧ d.resume b = .ok (b.bearing token) := by
  cases d with
  | ended cause => exact .inl ⟨_, rfl, rfl⟩
  | renewed pair =>
    simp only [Verdict.resume, authorize]
    split
    · exact .inr ⟨pair.access, rfl, rfl⟩
    · exact .inl ⟨_, rfl, rfl⟩

namespace Session

variable {hidden : Url → Prop} {s t : Session Replay FaultyMap}

namespace Alike

theorem isSome_access (h : s.Alike hidden t) : s.memory.access.isSome = t.memory.access.isSome :=
  h.store.isSome_access

/-- The coordinators are used and quiet again. -/
theorem world (h : s.Alike hidden t) {st st' : Store FaultyMap} {v w : World FaultyMap} {m n : Nat}
    (hv : s.world.Rests st m n v) (hw : t.world.Rests st' m n w) (hstores : st.Alike st') :
    Alike hidden { s with world := v } { t with world := w } where
  quiet := ⟨hv.quiet, hw.quiet⟩
  store := by rwa [hv.store, hw.store]
  renewals := by rw [hv.renewals, hw.renewals, h.renewals]
  redirects := by rw [hv.redirects, hw.redirects, h.redirects]
  refreshUrl := h.refreshUrl
  hidesRefresh := h.hidesRefresh
  known := h.known
  log := h.log

theorem pause (h : s.Alike hidden t) (ms : Nat) :
    Alike hidden { s with log := .pause ms :: s.log } { t with log := .pause ms :: t.log } :=
  { h with log := .cons (.pause ms) h.log }

/-- Requests that are alike have the same outcome. -/
theorem send (h : s.Alike hidden t) {a b : Http.Request} (hab : a.Alike hidden b) :
    (s.send a).1 = (t.send b).1 ∧ (s.send a).2.Alike hidden (t.send b).2 := by
  cases hsendable : a.isSendable with
  | false =>
    simp only [Session.send, hsendable, ← hab.isSendable]
    exact ⟨rfl, h⟩
  | true =>
    obtain ⟨hanswer, hknown⟩ : (Backend.answer s.backend a).1 = (Backend.answer t.backend b).1 ∧
        (Backend.answer s.backend a).2.known = (Backend.answer t.backend b).2.known := by
      simp only [Backend.answer, h.known]
      cases t.backend.known <;> exact ⟨rfl, rfl⟩
    rw [s.send_eq hsendable, t.send_eq (hab.isSendable ▸ hsendable)]
    refine ⟨hanswer, { h with known := hknown, log := .cons ?_ h.log }⟩
    rw [hanswer]
    exact .exchange hab h.isSome_access _

/-- So do renewals, whatever the refresh tokens are. -/
theorem renew (h : s.Alike hidden t) (x y : String) :
    (s.renew x).1 = (t.renew y).1 ∧ (s.renew x).2.Alike hidden (t.renew y).2 := by
  have hrequests : (exchangeRequest s.refreshUrl x).Alike hidden (exchangeRequest t.refreshUrl y) := by
    rw [← h.refreshUrl]
    exact .build "POST" h.hidesRefresh _ _
  obtain ⟨hanswer, hsent⟩ := h.send hrequests
  simp only [Session.renew, hanswer, hrequests.url]
  exact ⟨trivial, hsent⟩

theorem write (h : s.Alike hidden t) (w : Write) :
    (s.write w).1 = (t.write w).1 ∧ (s.write w).2.Alike hidden (t.write w).2 := by
  obtain ⟨u, hs, hu⟩ := s.write_alone h.quiet.1 w
  obtain ⟨v, ht, hv⟩ := t.write_alone h.quiet.2 w
  rw [hs, ht]
  refine ⟨?_, h.world hu hv (h.store.write w)⟩
  exact (h.store.reliable.1.write_ok w).trans (h.store.reliable.2.write_ok w).symm

/-- Requests that were sent with the tokens in memory and came back unauthorized. Both are turned away with
the same error, or both are handed back with the same token. -/
theorem recover (h : s.Alike hidden t) (a b : Http.Request) :
    ((∃ e, (s.recover ⟨a, s.memory.access⟩).1 = .error e ∧
        (t.recover ⟨b, t.memory.access⟩).1 = .error e) ∨
      ∃ token, (s.recover ⟨a, s.memory.access⟩).1 = .ok (a.bearing token) ∧
        (t.recover ⟨b, t.memory.access⟩).1 = .ok (b.bearing token)) ∧
    (s.recover ⟨a, s.memory.access⟩).2.Alike hidden (t.recover ⟨b, t.memory.access⟩).2 := by
  -- The one comparison of tokens: both requests carry what is in memory, so neither finds it newer.
  have hcurrent : ∀ token : Option String, token.filter (fun x => token ≠ some x) = none := by
    rintro (_ | x) <;> simp
  have hrefresh : s.memory.refresh.isSome = t.memory.refresh.isSome := h.store.refresh
  rcases recover_current (p := ⟨a, s.memory.access⟩) h.quiet.1 (hcurrent _) with
      ⟨u, hsnone, hu, hs⟩ | ⟨x, u, hsome, hu, hs⟩ <;>
    rcases recover_current (p := ⟨b, t.memory.access⟩) h.quiet.2 (hcurrent _) with
      ⟨v, htnone, hv, ht⟩ | ⟨y, v, htsome, hv, ht⟩
  · rw [hs, ht]
    exact ⟨.inl ⟨_, rfl, rfl⟩, h.world hu hv (h.store.write .forget)⟩
  · rw [hsnone, htsome] at hrefresh
    cases hrefresh
  · rw [hsome, htnone] at hrefresh
    cases hrefresh
  · obtain ⟨hresult, hrenewed⟩ := h.renew x y
    rw [← hresult] at hv ht
    have hworld : (s.renew x).2.world = s.world := s.world_send _
    have hworld' : (t.renew y).2.world = t.world := t.world_send _
    rw [← hworld] at hu
    rw [← hworld'] at hv
    rw [hs, ht]
    exact ⟨Verdict.resume_cases _ a b, hrenewed.world hu hv (hrenewed.store.write _)⟩

end Alike

end Session

/-- Conversations that have the same result on sessions that are alike, and leave them alike. -/
def Conversation.Alike {α : Type} (hidden : Url → Prop) (c d : Conversation α) : Prop :=
  ∀ s t : Session Replay FaultyMap, s.Alike hidden t →
    (c.hold s).1 = (d.hold t).1 ∧ (c.hold s).2.Alike hidden (d.hold t).2

namespace Conversation.Alike

variable {α γ : Type} {hidden : Url → Prop}

theorem done (a : α) : (done a).Alike hidden (.done a) := fun _ _ h => ⟨rfl, h⟩

theorem bind {c d : Conversation α} {f g : α → Conversation γ} (h : c.Alike hidden d)
    (hnext : ∀ a, (f a).Alike hidden (g a)) : (c.bind f).Alike hidden (d.bind g) := by
  intro s t hst
  obtain ⟨hresult, hleft⟩ := h s t hst
  rw [hold_bind, hold_bind, hresult]
  exact hnext _ _ _ hleft

theorem andThen {c d : Conversation (Except Failure α)} {f g : α → Conversation (Except Failure γ)}
    (h : c.Alike hidden d) (hnext : ∀ a, (f a).Alike hidden (g a)) :
    (c.andThen f).Alike hidden (d.andThen g) := by
  refine h.bind fun r => ?_
  cases r with
  | ok a => exact hnext a
  | error e => exact .done _

/-- What is done with a token may depend on whether there is one. -/
theorem access {f g : Option String → Conversation α}
    (h : ∀ x y, x.isSome = y.isSome → (f x).Alike hidden (g y)) :
    (access f).Alike hidden (.access g) :=
  fun s t hst => h _ _ hst.isSome_access s t hst

theorem refresh {f g : Option String → Conversation α}
    (h : ∀ x y, x.isSome = y.isSome → (f x).Alike hidden (g y)) :
    (refresh f).Alike hidden (.refresh g) :=
  fun s t hst => h _ _ hst.store.refresh s t hst

theorem exchange {a b : Http.Request} (hab : a.Alike hidden b) {f g : Http.Outcome → Conversation α}
    (h : ∀ o, (f o).Alike hidden (g o)) : (exchange a f).Alike hidden (.exchange b g) := by
  intro s t hst
  obtain ⟨hanswer, hsent⟩ := hst.send hab
  rw [hold_exchange, hold_exchange, hanswer]
  exact h _ _ _ hsent

theorem pause (ms : Nat) {c d : Conversation α} (h : c.Alike hidden d) :
    (pause ms c).Alike hidden (.pause ms d) := fun _ _ hst => h _ _ (hst.pause ms)

theorem write (w : Write) {f g : Except StoreError Unit → Conversation α}
    (h : ∀ r, (f r).Alike hidden (g r)) : (write w f).Alike hidden (.write w g) := by
  intro s t hst
  obtain ⟨hresult, hwritten⟩ := hst.write w
  rw [hold_write, hold_write, hresult]
  exact h _ _ _ hwritten

end Conversation.Alike

namespace Client

open Conversation

variable {hidden : Url → Prop} {a b : Http.Request} (hab : a.Alike hidden b)
include hab

theorem alike_execute : (execute a).Alike hidden (execute b) := by
  refine .exchange hab fun o => ?_
  cases o with
  | ok r => exact .done _
  | error o =>
    rw [hab.method, hab.url]
    exact .done _

theorem alike_retry : (retry a).Alike hidden (retry b) :=
  (alike_execute hab).andThen fun r => by split <;> exact .done _

/-- What follows the exchange of requests that carry the tokens in memory. -/
theorem alike_heard {s t : Session Replay FaultyMap} (hst : s.Alike hidden t) (o : Http.Outcome) :
    ((heard a s.memory.access o).hold s).1 = ((heard b t.memory.access o).hold t).1 ∧
      ((heard a s.memory.access o).hold s).2.Alike hidden ((heard b t.memory.access o).hold t).2 := by
  cases o with
  | error o =>
    simp only [heard, hab.method, hab.url]
    exact ⟨rfl, hst⟩
  | ok r =>
    simp only [heard, hab.isRepeatable]
    split
    · exact ⟨rfl, hst⟩
    · obtain ⟨⟨e, hs, ht⟩ | ⟨token, hs, ht⟩, hleft⟩ := hst.recover a b <;>
        rw [hold_recover, hold_recover, hs, ht]
      · exact ⟨rfl, hleft⟩
      · exact alike_retry (hab.bearing token token) _ _ hleft

/-- Requests as they carry the tokens in memory, unless these fit no header. -/
theorem withToken_alike {s t : Session Replay FaultyMap} (hst : s.Alike hidden t) :
    (∃ e, withToken a s.memory.access = .error e ∧ withToken b t.memory.access = .error e) ∨
      ∃ c d, withToken a s.memory.access = .ok c ∧ withToken b t.memory.access = .ok d ∧
        c.Alike hidden d := by
  have haccess : s.memory.access.map fits = t.memory.access.map fits := hst.store.access
  cases hs : s.memory.access with
  | none =>
    rw [hs] at haccess
    rw [Option.map_eq_none_iff.mp haccess.symm]
    exact .inr ⟨a, b, rfl, rfl, hab⟩
  | some x =>
    rw [hs, Option.map_some] at haccess
    obtain ⟨y, ht, hfits⟩ := Option.map_eq_some_iff.mp haccess.symm
    rw [ht]
    cases hx : fits x with
    | true =>
      have hy : fits y = true := hfits.trans hx
      exact .inr ⟨_, _, Http.Request.authorize_eq hx a, Http.Request.authorize_eq hy b, hab.bearing x y⟩
    | false =>
      have hx' : ¬ Http.isHeaderValue (bearer x) = true := by rw [← fits, hx]; exact nofun
      have hy' : ¬ Http.isHeaderValue (bearer y) = true := by rw [← fits, hfits, hx]; exact nofun
      exact .inl ⟨.malformedToken, if_neg hx', if_neg hy'⟩

/-- One request through the middleware. -/
theorem alike_send : (send a).Alike hidden (send b) := by
  rw [send, send, hab.url]
  split
  · exact alike_execute hab.unauthorize
  · intro s t hst
    show ((sendProtected a s.memory.access).hold s).1 = ((sendProtected b t.memory.access).hold t).1 ∧
      ((sendProtected a s.memory.access).hold s).2.Alike hidden
        ((sendProtected b t.memory.access).hold t).2
    obtain ⟨e, hc, hd⟩ | ⟨c, d, hc, hd, hcd⟩ := withToken_alike hab hst
    · rw [sendProtected_of_error hc, sendProtected_of_error hd]
      exact ⟨rfl, hst⟩
    · obtain ⟨hanswer, hsent⟩ := hst.send hcd
      -- Nobody else writes to memory meanwhile, so the token that was sent is still the one there.
      rw [sendProtected_of_ok hc, sendProtected_of_ok hd, hold_exchange, hold_exchange, hanswer,
        ← s.memory_send c, ← t.memory_send d]
      exact alike_heard hcd hsent _

/-- A request that may be told to slow down. -/
theorem alike_attempt (wait left : Nat) : (attempt a wait left).Alike hidden (attempt b wait left) := by
  have hjudge : ∀ (r : Http.Response) {slow slow' : Conversation (Except Failure Http.Response)},
      slow.Alike hidden slow' → (judge r slow).Alike hidden (judge r slow') := by
    intro r slow slow' hslow
    unfold judge
    split
    · exact .done _
    · split
      · exact hslow
      · exact .done _
  induction left generalizing wait with
  | zero => exact (alike_send hab).andThen fun r => hjudge r (.done _)
  | succ left ih => exact (alike_send hab).andThen fun r => hjudge r (.pause wait (ih (2 * wait)))

theorem alike_fetch {α : Type} (decode : Json.Decode α) :
    (fetch decode a).Alike hidden (fetch decode b) := by
  refine (alike_attempt hab _ _).andThen fun r => ?_
  rw [hab.url]
  split <;> exact .done _

theorem alike_tell : (tell a).Alike hidden (tell b) := (alike_attempt hab _ _).andThen fun _ => .done _

omit hab

/-- What a call results in. -/
def Call.Result : Call → Type
  | login _ => Except Failure SignIn
  | register _ => Except Failure SignIn
  | logout => Except Failure Unit
  | validate _ => Except Failure TokenValidation
  | currentUser => Except Failure User
  | permissions => Except Failure (List String)
  | bands _ _ => Except Failure (Page Band)
  | band _ => Except Failure Band
  | deleteBand _ => Except Failure Unit
  | signIn _ => Except Failure User
  | signUp _ => Except Failure User
  | signOut => Except Failure Unit
  | allPermissions _ => List String
  | status => Except Failure SessionStatus

/-- A call with its result. -/
def Call.perform (c : Client) : (call : Call) → Conversation call.Result
  | login l => c.login l
  | register l => c.register l
  | logout => c.logout
  | validate token => c.validate token
  | currentUser => c.currentUser
  | permissions => c.permissions
  | bands f p => c.bands f p
  | band id => c.band id
  | deleteBand id => c.deleteBand id
  | signIn l => c.signIn l
  | signUp l => c.signUp l
  | signOut => c.signOut
  | allPermissions u => c.allPermissions u
  | status => c.status

/-- The URLs of requests whose bodies hold tokens: those for renewal and validation. -/
def hides (c : Client) (refreshUrl u : Url) : Prop :=
  u = Http.address refreshUrl ∨ ∃ v, c.base.endpoint .validate = .ok v ∧ u = Http.address v

section calls

variable (c : Client) (refreshUrl : Url)

/-- A request with a body, if any, that holds no token. -/
theorem alike_whenBuilt {α : Type} (r : Except Failure Http.Request)
    {f : Http.Request → Conversation (Except Failure α)}
    (hf : ∀ r, (f r).Alike hidden (f r)) : (whenBuilt r f).Alike hidden (whenBuilt r f) := by
  cases r with
  | ok r => exact hf r
  | error e => exact .done _

theorem alike_ask {α : Type} (r : Except Failure Http.Request) (decode : Json.Decode α) :
    (whenBuilt r (fetch decode)).Alike hidden (whenBuilt r (fetch decode)) :=
  alike_whenBuilt r fun r => alike_fetch (.refl r) decode

/-- Validations of tokens that may differ. -/
theorem alike_validate (x y : String) :
    (c.validate x).Alike (c.hides refreshUrl) (c.validate y) := by
  rw [validate, validate, build, build]
  cases hu : c.base.endpoint .validate with
  | error e => exact .done _
  | ok u => exact alike_fetch (.build "POST" (.inr ⟨u, hu, rfl⟩) _ _) _

theorem alike_store {α : Type} (w : Write) {f g : Conversation (Except Failure α)}
    (h : f.Alike hidden g) : (store w f).Alike hidden (store w g) := by
  refine .write w fun r => ?_
  cases r with
  | ok _ => exact h
  | error e => exact .done _

theorem alike_signOut : c.signOut.Alike hidden c.signOut := by
  have hforget : (store .forget (done (.ok ()))).Alike hidden (store .forget (done (.ok ()))) :=
    alike_store _ (.done _)
  refine .access fun x y hxy => ?_
  simp only [hxy]
  split
  · exact (alike_whenBuilt _ fun r => alike_tell (.refl r)).bind fun _ => hforget
  · exact hforget

/-- Nothing is found of the tokens but whether they are there. -/
theorem alike_status : c.status.Alike (c.hides refreshUrl) c.status := by
  have hend : endSession.Alike (c.hides refreshUrl) endSession := alike_store _ (.done _)
  refine .access fun x y hxy => ?_
  cases x with
  | none =>
    obtain rfl : y = none := by simpa using hxy.symm
    exact hend
  | some x =>
    obtain ⟨y, rfl⟩ := Option.isSome_iff_exists.mp hxy.symm
    refine (alike_validate c refreshUrl x y).andThen fun validation => .refresh fun x y hxy => ?_
    have hnone : x.isNone = y.isNone := by
      rw [← Option.not_isSome, ← Option.not_isSome, hxy]
    simp only [hnone]
    split
    · exact hend
    · refine (alike_ask _ _).bind fun r => ?_
      cases r with
      | ok user => exact .done _
      | error e =>
        show (if e.isSessionEnded then endSession else done (.error e)).Alike _
          (if e.isSessionEnded then endSession else done (.error e))
        split
        · exact hend
        · exact .done _

theorem alike_perform (call : Call) :
    (call.perform c).Alike (c.hides refreshUrl) (call.perform c) := by
  have hstart : ∀ a : SignIn, (start a).Alike (c.hides refreshUrl) (start a) :=
    fun a => alike_store _ (.done _)
  cases call with
  | login l => exact alike_ask _ _
  | register l => exact alike_ask _ _
  | logout => exact alike_whenBuilt _ fun r => alike_tell (.refl r)
  | validate token => exact alike_ask _ _
  | currentUser => exact alike_ask _ _
  | permissions => exact alike_ask _ _
  | bands f p => exact alike_whenBuilt _ fun r => alike_fetch (.refl _) _
  | band id => exact alike_ask (c.build "GET" (.band id) none) Band.decode
  | deleteBand id =>
    show (c.deleteBand id).Alike _ (c.deleteBand id)
    rw [deleteBand]
    exact alike_whenBuilt _ fun r => alike_tell (.refl r)
  | signIn l => exact (alike_ask _ _).andThen hstart
  | signUp l => exact (alike_ask _ _).andThen hstart
  | signOut => exact alike_signOut c
  | allPermissions u => exact (alike_ask _ _).bind fun _ => .done _
  | status => exact alike_status c refreshUrl

end calls

/-- What is seen of a call, its exchanges aside: its result, and which tokens are in memory and in storage
after it, how often credentials have been renewed, and how often the session has been redirected. -/
structure Sight where
  call : Call
  result : call.Result
  memory : Bool × Bool
  stored : Bool × Bool
  renewals : Nat
  redirects : Nat

def Sight.of {β : Type} {call : Call} (result : call.Result) (s : Session β FaultyMap) : Sight :=
  ⟨call, result, s.memory.presence, s.world.store.storage.tokens.presence, s.world.renewals,
    s.world.redirects⟩

/-- What is seen of calls that are made one at a time, and the session that they leave. -/
def observe {β : Type} [Backend β] (c : Client) (s : Session β FaultyMap) :
    List Call → List Sight × Session β FaultyMap
  | [] => ([], s)
  | call :: calls =>
    let (result, s) := (call.perform c).hold s
    let (sights, v) := c.observe s calls
    (.of result s :: sights, v)

section observe

variable {β γ : Type} [Backend β] [Backend γ] (c : Client) (refreshUrl : Url)

theorem replays_observe (calls : List Call) :
    Session.Replays (fun s : Session β FaultyMap => c.observe s calls) fun s => c.observe s calls := by
  induction calls with
  | nil => exact fun s => ⟨[], rfl, fun more wanted => rfl⟩
  | cons call calls ih =>
    have hcall := (call.perform c).replays_hold (β := β) (σ := FaultyMap)
    have hrest : ∀ result : call.Result, Session.Replays
        (fun s : Session β FaultyMap =>
          (Sight.of result s :: (c.observe s calls).1, (c.observe s calls).2))
        fun s => (Sight.of result s :: (c.observe s calls).1, (c.observe s calls).2) := by
      intro result s
      obtain ⟨es, hlog, hreplay⟩ := ih s
      refine ⟨es, hlog, fun more wanted => ?_⟩
      simp only [hreplay]
      rfl
    exact hcall.bind hrest

theorem alike_observe (calls : List Call) {s t : Session Replay FaultyMap}
    (h : s.Alike (c.hides refreshUrl) t) :
    (c.observe s calls).1 = (c.observe t calls).1 ∧
      (c.observe s calls).2.Alike (c.hides refreshUrl) (c.observe t calls).2 := by
  induction calls generalizing s t with
  | nil => exact ⟨rfl, h⟩
  | cons call calls ih =>
    obtain ⟨hresult, hleft⟩ := alike_perform c refreshUrl call s t h
    obtain ⟨hsights, hend⟩ := ih hleft
    refine ⟨?_, hend⟩
    simp only [observe, Sight.of, Session.memory, hresult, hsights, hleft.store.presence,
      hleft.store.stored, hleft.renewals, hleft.redirects]

/-- With the answers in place of the backend that gave them, a session is seen to do the same. -/
theorem observe_of_answers (st : Store FaultyMap) (b : β) (calls : List Call) {answers : List Http.Outcome}
    (h : LogEntry.answers
      (c.observe (⟨World.new st, b, refreshUrl, []⟩ : Session β FaultyMap) calls).2.log <+: answers) :
    let x := c.observe (⟨World.new st, b, refreshUrl, []⟩ : Session β FaultyMap) calls
    ∃ left : Replay,
      c.observe (⟨World.new st, .ofList answers, refreshUrl, []⟩ : Session Replay FaultyMap) calls =
        (x.1, x.2.against left) := by
  intro x
  obtain ⟨es, hlog, hreplay⟩ := c.replays_observe calls (⟨World.new st, b, refreshUrl, []⟩ : Session β _)
  obtain ⟨more, rfl⟩ := h
  rw [hlog, List.append_nil]
  exact ⟨⟨more, none⟩, hreplay more none⟩

/-- The same calls with other tokens give the same results and the same exchanges and waits, but for the authorization
of requests and the bodies of validations and renewals. -/
theorem tokens_stay_secret {st st' : Store FaultyMap} (hstores : st.Alike st') (b : β) (b' : γ)
    (calls : List Call) (answers : List Http.Outcome)
    (h : LogEntry.answers
      (c.observe (⟨World.new st, b, refreshUrl, []⟩ : Session β FaultyMap) calls).2.log <+: answers)
    (h' : LogEntry.answers
      (c.observe (⟨World.new st', b', refreshUrl, []⟩ : Session γ FaultyMap) calls).2.log <+: answers) :
    let x := c.observe (⟨World.new st, b, refreshUrl, []⟩ : Session β FaultyMap) calls
    let y := c.observe (⟨World.new st', b', refreshUrl, []⟩ : Session γ FaultyMap) calls
    x.1 = y.1 ∧ List.Forall₂ (LogEntry.Alike (c.hides refreshUrl)) x.2.log y.2.log := by
  intro x y
  obtain ⟨left, hx⟩ := c.observe_of_answers refreshUrl st b calls h
  obtain ⟨left', hy⟩ := c.observe_of_answers refreshUrl st' b' calls h'
  have hstart : Session.Alike (c.hides refreshUrl) ⟨World.new st, .ofList answers, refreshUrl, []⟩
      ⟨World.new st', .ofList answers, refreshUrl, []⟩ :=
    ⟨⟨World.new_quiet st, World.new_quiet st'⟩, hstores, rfl, rfl, rfl, .inl rfl, rfl, .nil⟩
  obtain ⟨hsights, hleft⟩ := alike_observe c refreshUrl calls hstart
  rw [hx, hy] at hsights hleft
  exact ⟨hsights, hleft.log⟩

end observe

/-- A token is valid, but turned away when the backend is asked whose it is, and renewed; the session is known
then, and a band is not found. -/
def heardAnswers : List Http.Outcome := [.ok ⟨200, some "\x7b\"valid\":true\x7d".toUTF8⟩, .ok ⟨401, none⟩,
  .ok ⟨200, some "\x7b\"accessToken\":\"A2\",\"refreshToken\":\"R2\"\x7d".toUTF8⟩,
  .ok ⟨200, some "\x7b\"id\":7,\"username\":\"user\"\x7d".toUTF8⟩, .ok ⟨404, none⟩]

/-- The session is checked and a band is asked for. -/
def heardRun (p : Pair) : List Sight × Session Replay FaultyMap :=
  apiClient.observe ⟨World.new (.ofPair p fun _ _ => false), .ofList heardAnswers, apiRefresh, []⟩ [.status, .band 7]

theorem tokens_stay_secret_of_renewed :
    let x := heardRun ⟨"A1", "R1"⟩
    let y := heardRun ⟨"Another token", "S1"⟩
    (Store.ofPair ⟨"A1", "R1"⟩ fun _ _ => false).Alike
        (.ofPair ⟨"Another token", "S1"⟩ fun _ _ => false) ∧
      LogEntry.answers x.2.log <+: heardAnswers ∧ LogEntry.answers y.2.log <+: heardAnswers ∧
      x.1 = y.1 ∧ List.Forall₂ (LogEntry.Alike (apiClient.hides apiRefresh)) x.2.log y.2.log ∧
      x.1.map Sight.renewals = [1, 1] := by
  intro x y
  have hstores : (Store.ofPair ⟨"A1", "R1"⟩ fun _ _ => false).Alike
      (.ofPair ⟨"Another token", "S1"⟩ fun _ _ => false) :=
    ⟨rfl, rfl, rfl, fun _ _ => rfl, fun _ _ => rfl⟩
  have hx : LogEntry.answers (heardRun ⟨"A1", "R1"⟩).2.log <+: heardAnswers := by decide +kernel
  have hy : LogEntry.answers (heardRun ⟨"Another token", "S1"⟩).2.log <+: heardAnswers := by
    decide +kernel
  have hrenewals : (heardRun ⟨"A1", "R1"⟩).1.map Sight.renewals = [1, 1] := by decide +kernel
  obtain ⟨hsights, hlogs⟩ := tokens_stay_secret apiClient apiRefresh hstores (Replay.ofList heardAnswers)
    (Replay.ofList heardAnswers) [.status, .band 7] heardAnswers hx hy
  exact ⟨hstores, hx, hy, hsights, hlogs, hrenewals⟩

end Client

end BandCatalog
