import BandCatalog.Proofs.Client.Standing
import BandCatalog.Proofs.Json.Records

/-!
# Signing in

Signing in and registering are all or nothing. Of the answers of the backend the first that does not ask to slow
down decides, and a pair is kept exactly if that is a success with a user and a pair in it. Else nothing at all
happens to the credentials, those of an older session among them: requests to an open endpoint start no renewal.
-/
namespace BandCatalog

open Renewal

namespace Http

/-- The backend asks to slow down. -/
def isSlowed : Outcome → Bool
  | .ok a => a.status == 429
  | .error _ => false

/-- What a success says. -/
def value? {α : Type} (decode : Json.Decode α) : Outcome → Option α
  | .ok a => if isSuccess a.status then a.json?.bind decode else none
  | .error _ => none

@[simp] theorem isUnauthenticated_address (u : Url) : (address u).isUnauthenticated = u.isUnauthenticated := by
  simp only [Url.isUnauthenticated, path_address]

end Http

namespace Client

open Conversation Session

variable {β : Type} [Backend β]

/-- What comes of sending a request so many times. -/
def outcomes (b : β) (r : Http.Request) : Nat → List Http.Outcome
  | 0 => []
  | n + 1 => (Backend.answer b r).1 :: outcomes (Backend.answer b r).2 r n

/-- The first outcome that is not to slow down. -/
def decisive? (b : β) (r : Http.Request) (n : Nat) : Option Http.Outcome :=
  (outcomes b r n).find? fun o => !Http.isSlowed o

/-- The value that the backend answers with to a call of an open endpoint, if it does. -/
def answered? {α : Type} (c : Client) (b : β) (method : String) (e : Endpoint) (json : Option Json)
    (decode : Json.Decode α) : Option α :=
  match c.build method e json with
  | .ok r => if r.isSendable then (decisive? b (unauthorize r) 4).bind (Http.value? decode) else none
  | .error _ => none

section unauthenticated

variable {σ : Type} [KeyValue σ] {r : Http.Request}

/-- What a call ends with, by what decides it. -/
def settled (r : Http.Request) : Option Http.Outcome → Except Failure Http.Response
  | some o => verdict (executed r o)
  | none => .error (.api .rateLimited)

/-- What decides a call says something if the call ends with an answer from which that is read. -/
theorem bind_value?_eq_some {α : Type} {decode : Json.Decode α} {decided : Option Http.Outcome} {value : α} :
    decided.bind (Http.value? decode) = some value ↔
      ∃ a, settled r decided = .ok a ∧ a.json?.bind decode = some value := by
  match decided with
  | none => simp [settled]
  | some (.error o) => simp [settled, executed, verdict, Http.value?]
  | some (.ok a) =>
    simp only [settled, executed, verdict, Option.bind_some, Http.value?]
    split <;> simp

theorem hold_send_open (hopen : r.url.isUnauthenticated = true) (hsendable : r.isSendable = true)
    (s : Session β σ) :
    (send r).hold s =
      (executed r (Backend.answer s.backend (unauthorize r)).1, s.sent (unauthorize r)) := by
  have hsend : s.send (unauthorize r) =
      ((Backend.answer s.backend (unauthorize r)).1, s.sent (unauthorize r)) := s.send_eq hsendable
  rw [send, if_pos hopen, execute, hold_exchange, hsend]
  cases (Backend.answer s.backend (unauthorize r)).1 <;> rfl

/-- An attempt decides, unless it is told to slow down. -/
theorem hold_tried (hopen : r.url.isUnauthenticated = true) (hsendable : r.isSendable = true)
    (slow : Conversation (Except Failure Http.Response)) (s : Session β σ) :
    ((send r).andThen fun a => judge a slow).hold s =
      let o := (Backend.answer s.backend (unauthorize r)).1
      let u := s.sent (unauthorize r)
      if Http.isSlowed o then slow.hold u else (verdict (executed r o), u) := by
  rw [andThen, hold_bind, hold_send_open hopen hsendable]
  cases (Backend.answer s.backend (unauthorize r)).1 with
  | error o => rfl
  | ok a =>
    by_cases hslow : a.status = 429
    · simp [executed, Http.isSlowed, hslow, judge_of_slowed hslow]
    · simp [executed, Http.isSlowed, hslow, judge_of_settled hslow, Conversation.hold]

theorem hold_attempt (hopen : r.url.isUnauthenticated = true) (hsendable : r.isSendable = true)
    (wait left : Nat) (s : Session β σ) :
    ((attempt r wait left).hold s).1 = settled r (decisive? s.backend (unauthorize r) (left + 1)) ∧
      ((attempt r wait left).hold s).2.world = s.world := by
  -- After an attempt the backend is where the rest of the outcomes begins; what is logged does not matter.
  induction left generalizing wait s with
  | zero =>
    rw [attempt, hold_tried hopen hsendable]
    cases hslow : Http.isSlowed (Backend.answer s.backend (unauthorize r)).1 <;>
      simp [decisive?, outcomes, hslow, settled, Conversation.hold, sent]
  | succ left ih =>
    rw [attempt, hold_tried hopen hsendable]
    cases hslow : Http.isSlowed (Backend.answer s.backend (unauthorize r)).1 with
    | false => simp [decisive?, outcomes, hslow, settled, sent]
    | true =>
      obtain ⟨hresult, hworld⟩ := ih (2 * wait)
        { s.sent (unauthorize r) with log := .pause wait :: (s.sent (unauthorize r)).log }
      simp only [hslow, if_true, Conversation.hold]
      refine ⟨hresult.trans ?_, hworld⟩
      rw [decisive?, decisive?, outcomes.eq_2 s.backend, List.find?_cons_of_neg (by simp [hslow])]
      rfl

/-- A call of an open endpoint ends with what the answer that decides says. -/
theorem hold_fetch_open {α : Type} (decode : Json.Decode α) (hopen : r.url.isUnauthenticated = true)
    (hsendable : r.isSendable = true) (s : Session β σ) :
    let x := (fetch decode r).hold s
    (∀ value, x.1 = .ok value ↔
      (decisive? s.backend (unauthorize r) 4).bind (Http.value? decode) = some value) ∧
      x.2.world = s.world := by
  obtain ⟨hresult, hworld⟩ := hold_attempt hopen hsendable firstWait retryLimit s
  obtain ⟨y, v, hheld⟩ : ∃ y v, (request r).hold s = (y, v) := ⟨_, _, rfl⟩
  rw [← request, hheld] at hresult hworld
  have hsame : v.world = s.world := hworld
  have hsettled : settled r (decisive? s.backend (unauthorize r) 4) = y := hresult.symm
  simp only [bind_value?_eq_some (r := r), hsettled, fetch]
  cases y with
  | error e =>
    rw [hold_andThen_error hheld]
    simp [hsame]
  | ok a =>
    rw [hold_andThen_ok hheld]
    cases hdecode : a.json?.bind decode <;> simp [hdecode, Conversation.hold, hsame]

/-- A request that cannot be sent has no answer, and nothing comes of it. -/
theorem hold_send_unsendable (hsendable : r.isSendable = false) (s : Session β σ) :
    ∃ e, (send r).hold s = (.error e, s) := by
  have hexecute : ∀ q : Http.Request, q.url = r.url → ∃ e, (execute q).hold s = (.error e, s) := by
    intro q hurl
    have hsend : s.send q = (.error .scheme, s) := by
      rw [Session.send, Http.Request.isSendable, hurl, ← Http.Request.isSendable, hsendable]
      rfl
    rw [execute, hold_exchange, hsend]
    exact ⟨_, rfl⟩
  rw [send]
  split
  · exact hexecute (unauthorize r) rfl
  · rw [Conversation.hold, sendProtected]
    cases hsent : withToken r s.memory.access with
    | error e => exact ⟨_, rfl⟩
    | ok q =>
      obtain ⟨e, he⟩ := hexecute q (sameRequest_withToken hsent).2.1
      exact ⟨e, hold_andThen_error he⟩

theorem hold_attempt_unsendable (hsendable : r.isSendable = false) (wait left : Nat) (s : Session β σ) :
    ∃ e, (attempt r wait left).hold s = (.error e, s) := by
  obtain ⟨e, he⟩ := hold_send_unsendable hsendable s
  cases left <;> exact ⟨e, hold_andThen_error he⟩

/-- What a call of an open endpoint ends with is what the answer that decides says. The coordinator and its store
have no part in it. -/
theorem hold_call_open {α : Type} {raw : String} {c : Client} {s : Session β σ}
    (hconnect : connect raw = .ok (c, s.refreshUrl)) (method : String) {e : Endpoint} (hopen : e.isOpen = true)
    (json : Option Json) (decode : Json.Decode α) :
    let x := (whenBuilt (c.build method e json) (fetch decode)).hold s
    (∀ value, x.1 = .ok value ↔ c.answered? s.backend method e json decode = some value) ∧
      x.2.world = s.world := by
  obtain ⟨hraw, -⟩ := connect_ok hconnect
  rw [answered?, build]
  cases hu : c.base.endpoint e with
  | error e => exact ⟨by simp [whenBuilt, Conversation.hold], rfl⟩
  | ok u =>
    obtain ⟨-, hurl⟩ := Http.Request.build_parts method u json
    simp only [whenBuilt]
    generalize Http.Request.build method u json = r at hurl
    cases hsendable : r.isSendable with
    | false =>
      obtain ⟨e, he⟩ := hold_attempt_unsendable hsendable firstWait retryLimit s
      rw [fetch, request, hold_andThen_error he]
      exact ⟨by simp, rfl⟩
    | true =>
      -- With any other scheme it is not known which endpoints of the base are open.
      have hscheme : c.base.scheme = "http" ∨ c.base.scheme = "https" := by
        simpa [Http.Request.isSendable, hurl, Url.scheme_endpoint hu] using hsendable
      have hpath : r.url.isUnauthenticated = true := by
        rw [hurl, Http.isUnauthenticated_address, ← hopen]
        exact Url.isUnauthenticated_endpoint (Url.isBase_of_base hraw hscheme) hu u.query
      exact hold_fetch_open decode hpath hsendable s

end unauthenticated

section brought

variable {σ : Type} [KeyValue σ] {s u : Session β σ} {user : User}

theorem start_eq_ok {d : Conversation (Except Failure SignIn)} (hquiet : (d.hold s).2.world.Quiet)
    (h : (d.andThen start).hold s = (.ok user, u)) :
    ∃ pair, (d.hold s).1 = .ok ⟨user, pair⟩ ∧ u.log = (d.hold s).2.log := by
  obtain ⟨y, v, hheld⟩ : ∃ y v, d.hold s = (y, v) := ⟨_, _, rfl⟩
  rw [hheld] at hquiet ⊢
  cases y with
  | error failure =>
    rw [hold_andThen_error hheld] at h
    cases h
  | ok i =>
    obtain ⟨w, -, hstart⟩ := hold_store hquiet (.put i.tokens) (done (.ok i.user))
    rw [hold_andThen_ok hheld, start, hstart] at h
    split at h
    · cases h
      exact ⟨i.tokens, rfl, rfl⟩
    · cases h

/-- Who has signed in was brought by an answer to a request for the endpoint. -/
theorem brought_of_entered {raw : String} {c : Client} (hconnect : connect raw = .ok (c, s.refreshUrl))
    (hquiet : s.world.Quiet) {e : Endpoint} (hne : e.names ≠ Endpoint.refresh.names) (json : Option Json)
    (h : ((whenBuilt (c.build "POST" e json) (fetch SignIn.decode)).andThen start).hold s = (.ok user, u)) :
    ∃ es, u.log = es ++ s.log ∧
      ∃ entry ∈ es, ∃ pair, entry.Brings c.base "POST" e SignIn.decode ⟨user, pair⟩ := by
  obtain ⟨es, hleaves, hbrought⟩ := leaves_call hconnect hquiet "POST" hne json SignIn.decode
  obtain ⟨pair, hvalue, hlog⟩ := start_eq_ok hleaves.quiet h
  obtain ⟨entry, hin, hentry⟩ := hbrought _ hvalue
  exact ⟨es, hlog.trans hleaves.log, entry, hin, pair, hentry⟩

end brought

section entering

variable {raw : String} {c : Client} {s : Session β FaultyMap}

/-- How a session is entered with the user and the pair that the backend answers with, if it does: wholly or not at
all. -/
structure AllOrNothing (s : Session β FaultyMap) (admitted : Option SignIn)
    (x : Except Failure User × Session β FaultyMap) : Prop where
  ok_iff : ∀ user, x.1 = .ok user ↔ ∃ pair, admitted = some ⟨user, pair⟩
  all : ∀ i, admitted = some i →
    x.2.memory = .ofPair i.tokens ∧ x.2.world.store.storage.tokens = .ofPair i.tokens ∧
      x.2.world.renewals = s.world.renewals ∧ x.2.world.redirects = s.world.redirects
  nothing : admitted = none → x.2.world = s.world

/-- The pair of a call that leaves the coordinator and its store as they are is kept, if there is one. -/
theorem allOrNothing_start {d : Conversation (Except Failure SignIn)} {admitted : Option SignIn}
    (hquiet : s.world.Quiet) (hreliable : s.world.store.Reliable)
    (hvalue : ∀ i, (d.hold s).1 = .ok i ↔ admitted = some i) (hworld : (d.hold s).2.world = s.world) :
    AllOrNothing s admitted ((d.andThen start).hold s) := by
  obtain ⟨y, v, hheld⟩ : ∃ y v, d.hold s = (y, v) := ⟨_, _, rfl⟩
  rw [hheld] at hvalue hworld
  have hsame : v.world = s.world := hworld
  cases y with
  | error failure =>
    rw [hold_andThen_error hheld]
    have hnone : admitted = none :=
      Option.eq_none_iff_forall_ne_some.mpr fun i hi => by simpa using (hvalue i).mpr hi
    subst hnone
    exact ⟨by simp, fun i hi => absurd hi (by simp), fun _ => hsame⟩
  | ok i =>
    obtain rfl : admitted = some i := (hvalue i).mp rfl
    have hwrite : (s.world.store.write (.put i.tokens)).1 = .ok () := hreliable.write_ok (.put i.tokens)
    obtain ⟨w, hw, hstart⟩ := hold_store (s := v) (hsame ▸ hquiet) (.put i.tokens) (done (.ok i.user))
    rw [hsame] at hw
    rw [hsame, hwrite] at hstart
    have hmirrors := s.world.store.mirrors_write hwrite
    rw [← hw.store] at hmirrors
    have hmemory : w.store.memory = .ofPair i.tokens := by
      rw [hw.store, Store.memory_write, Write.tokens]
    have heq : (start i).hold v = (.ok i.user, { v with world := w }) := hstart
    rw [hold_andThen_ok hheld, heq]
    refine ⟨fun user => ⟨?_, ?_⟩, ?_, fun hnone => absurd hnone (by simp)⟩
    · intro huser
      rw [← Except.ok.inj huser]
      exact ⟨i.tokens, rfl⟩
    · rintro ⟨pair, hpair⟩
      rw [Option.some.inj hpair]
    · intro j hj
      rw [← Option.some.inj hj]
      exact ⟨hmemory, hmirrors.trans hmemory, hw.renewals, hw.redirects⟩

/-- Where the storage refuses nothing, signing in and registering put the pair of the first outcome that is not to
slow down in place of all that was stored, or they fail and change nothing. -/
theorem entering_is_all_or_nothing (hconnect : connect raw = .ok (c, s.refreshUrl)) (hquiet : s.world.Quiet)
    (hreliable : s.world.store.Reliable) (l : Login) :
    AllOrNothing s (c.answered? s.backend "POST" .login (some l.toJson) SignIn.decode)
      ((c.signIn l).hold s) ∧
    AllOrNothing s (c.answered? s.backend "POST" .register (some l.toJson) SignIn.decode)
      ((c.signUp l).hold s) ∧
    ∀ ms i, SignIn.decode (.object ms) = some i → ∃ v, Json.membersOf ["tokens"] ms = [v] ∧
      ∀ ts, v = .object ts → Pair.fields.map (Json.membersOf · ts) =
        [[.text i.tokens.access], [.text i.tokens.refresh]] := by
  have henters : ∀ e : Endpoint, e.isOpen = true →
      AllOrNothing s (c.answered? s.backend "POST" e (some l.toJson) SignIn.decode)
        (((whenBuilt (c.build "POST" e (some l.toJson)) (fetch SignIn.decode)).andThen start).hold s) := by
    intro e hopen
    obtain ⟨hvalue, hworld⟩ := hold_call_open hconnect "POST" hopen (some l.toJson) SignIn.decode
    exact allOrNothing_start hquiet hreliable hvalue hworld
  refine ⟨henters .login rfl, henters .register rfl, fun ms i hi => ?_⟩
  obtain ⟨v, hv, htokens⟩ := SignIn.tokens_of_decode hi
  refine ⟨v, hv, ?_⟩
  rintro ts rfl
  exact Pair.decode_object_iff.mp htokens

/-- A session with an older pair, and a backend that asks to slow down and then answers with these tokens. -/
def olderSession (tokens : String) : Session Replay FaultyMap :=
  let user := "\x7b\"id\":7,\"username\":\"user\"\x7d"
  let body := "\x7b\"user\":" ++ user ++ ",\"tokens\":" ++ tokens ++ "\x7d"
  ⟨World.new (.ofPair ⟨"A1", "R1"⟩ fun _ _ => false), .ofList [.ok ⟨429, none⟩, .ok ⟨201, some body.toUTF8⟩],
    apiRefresh, []⟩

theorem entering_older_session :
    let l : Login := ⟨"user", "secret"⟩
    let user : User := ⟨7, "user", [], none, none⟩
    let s := olderSession "\x7b\"access_token\":\"A2\",\"refreshToken\":\"R2\"\x7d"
    let t := olderSession
      "\x7b\"access_token\":\"A2\",\"accessToken\":\"A3\",\"refreshToken\":\"R2\"\x7d"
    let x := (apiClient.signUp l).hold s
    let y := (apiClient.signIn l).hold t
    x.1 = .ok user ∧ x.2.memory = .ofPair ⟨"A2", "R2"⟩ ∧
      x.2.world.store.storage.tokens = .ofPair ⟨"A2", "R2"⟩ ∧
      (∀ user, y.1 ≠ .ok user) ∧ y.2.world = t.world ∧ y.2.memory = .ofPair ⟨"A1", "R1"⟩ := by
  intro l user s t x y
  have hs : s.world.Quiet := World.new_quiet _
  have ht : t.world.Quiet := World.new_quiet _
  have hsconnect : connect "http://api.test/v1" = .ok (apiClient, s.refreshUrl) := rfl
  have htconnect : connect "http://api.test/v1" = .ok (apiClient, t.refreshUrl) := rfl
  have hup : AllOrNothing s (apiClient.answered? s.backend "POST" .register (some l.toJson) SignIn.decode) x :=
    (entering_is_all_or_nothing hsconnect hs (fun _ _ => rfl) l).2.1
  have hin : AllOrNothing t (apiClient.answered? t.backend "POST" .login (some l.toJson) SignIn.decode) y :=
    (entering_is_all_or_nothing htconnect ht (fun _ _ => rfl) l).1
  have hsome : apiClient.answered? s.backend "POST" .register (some l.toJson) SignIn.decode =
      some ⟨user, ⟨"A2", "R2"⟩⟩ := by decide +kernel
  have hnone : apiClient.answered? t.backend "POST" .login (some l.toJson) SignIn.decode = none := by
    decide +kernel
  clear_value x y
  obtain ⟨hmemory, hstorage, -⟩ := hup.all _ hsome
  have hworld : y.2.world = t.world := hin.nothing hnone
  have hrefused : ∀ u, y.1 ≠ .ok u := by
    intro u hu
    obtain ⟨pair, hpair⟩ := (hin.ok_iff u).mp hu
    cases hnone.symm.trans hpair
  have hkept : y.2.memory = .ofPair ⟨"A1", "R1"⟩ := by
    rw [memory, hworld]
    rfl
  exact ⟨(hup.ok_iff user).mpr ⟨_, hsome⟩, hmemory, hstorage, hrefused, hworld, hkept⟩

end entering

end Client

end BandCatalog
