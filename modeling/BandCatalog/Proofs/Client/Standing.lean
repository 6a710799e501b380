import BandCatalog.Proofs.Client.Aftermath
import BandCatalog.Proofs.Credentials.Mirroring

/-!
# Whether there is a session

The check of the stored credentials has the access token validated and then asks who it belongs to. What it
says agrees with the tokens that it leaves, whatever the backend answers and whichever calls the storage
refuses. It fails only with errors that keep the session, except those of the validation, which it hands on as
they are.
-/
namespace BandCatalog.Client

open Conversation Renewal Session

section checked

variable {β σ : Type} [Backend β] [KeyValue σ]

/-- How a check ends, by its entries in the log and what becomes of the session. -/
inductive Checked (c : Client) (s : Session β σ) :
    List LogEntry → Except Failure SessionStatus × Session β σ → Prop where
  /-- There is no session, or none that is accepted, and the credentials are forgotten. -/
  | forgotten {ended : Bool} {es : List LogEntry} {u : Session β σ} (hleaves : s.Leaves ended es u)
      (hnone : s.memory.access = none → es = []) : Checked c s es (endSession.hold u)
  | unvalidated {token : String} (htoken : s.memory.access = some token) {e : Failure}
      {es : List LogEntry} {u : Session β σ} (hvalidate : (c.validate token).hold s = (.error e, u))
      (hleaves : s.Leaves e.isExpired es u) : Checked c s es (.error e, u)
  | known {token : String} (htoken : s.memory.access = some token) {user : User} {es : List LogEntry}
      {v : Session β σ} (hleaves : s.Leaves false es v)
      (hbrought : ∃ entry ∈ es, entry.Brings c.base "GET" .currentUser User.decode user) :
      Checked c s es (.ok (.signedIn user), v)
  | unknown {token : String} (htoken : s.memory.access = some token) {e : Failure} {es : List LogEntry}
      {v : Session β σ} (he : e.isSessionEnded = false) (hleaves : s.Leaves e.isExpired es v) :
      Checked c s es (.error e, v)

variable {raw : String} {c : Client} {s u : Session β σ}

section parts

variable (hconnect : connect raw = .ok (c, s.refreshUrl)) (hquiet : s.world.Quiet)
include hconnect hquiet

theorem leaves_validate {token : String} {x : Except Failure TokenValidation}
    (h : (c.validate token).hold s = (x, u)) : ∃ es, s.Leaves (ends x) es u := by
  obtain ⟨es, hleaves, -⟩ := leaves_call hconnect hquiet "POST" (e := .validate) (by decide)
    (some (.object [("token", .text token)])) TokenValidation.decode
  rw [← validate, h] at hleaves
  exact ⟨es, hleaves⟩

theorem leaves_currentUser {x : Except Failure User} (h : c.currentUser.hold s = (x, u)) :
    ∃ es, s.Leaves (ends x) es u ∧ ∀ user, x = .ok user →
      ∃ entry ∈ es, entry.Brings c.base "GET" .currentUser User.decode user := by
  obtain ⟨es, hleaves, hvalue⟩ :=
    leaves_call hconnect hquiet "GET" (e := .currentUser) (by decide) none User.decode
  rw [← currentUser, h] at hleaves hvalue
  exact ⟨es, hleaves, hvalue⟩

end parts

/-- Every check ends in one of them. -/
theorem exists_checked (hconnect : connect raw = .ok (c, s.refreshUrl)) (hquiet : s.world.Quiet) :
    ∃ es, Checked c s es (c.status.hold s) := by
  rw [status]
  cases haccess : s.memory.access with
  | none =>
    simp only [Conversation.hold, haccess]
    exact ⟨[], .forgotten (.refl hquiet) fun _ => rfl⟩
  | some token =>
    have hsome : ∀ es : List LogEntry, s.memory.access = none → es = [] := by
      intro es hnone
      cases haccess.symm.trans hnone
    simp only [Conversation.hold, haccess, andThen, hold_bind]
    obtain ⟨x, u, hvalidate⟩ : ∃ x u, (c.validate token).hold s = (x, u) := ⟨_, _, rfl⟩
    obtain ⟨es, hvalidated⟩ := leaves_validate hconnect hquiet hvalidate
    rw [hvalidate]
    cases x with
    | error e => exact ⟨es, .unvalidated haccess hvalidate hvalidated⟩
    | ok validation =>
      simp only [Conversation.hold]
      split
      · exact ⟨es, .forgotten hvalidated (hsome es)⟩
      · rw [hold_bind]
        -- The validation may have renewed the tokens, so what it leaves is where the question starts.
        obtain ⟨y, v, hask⟩ : ∃ y v, c.currentUser.hold u = (y, v) := ⟨_, _, rfl⟩
        rw [← hvalidated.refreshUrl] at hconnect
        obtain ⟨fs, hasked, hbrought⟩ := leaves_currentUser hconnect hvalidated.quiet hask
        have hleaves := hvalidated.trans hasked
        rw [hask]
        cases y with
        | ok user =>
          obtain ⟨entry, hin, hentry⟩ := hbrought user rfl
          exact ⟨_, .known haccess hleaves ⟨entry, List.mem_append_left _ hin, hentry⟩⟩
        | error e =>
          cases he : e.isSessionEnded with
          | true =>
            simp only [he, if_true]
            exact ⟨_, .forgotten hleaves (hsome _)⟩
          | false =>
            simp only [he, Bool.false_eq_true, if_false]
            exact ⟨_, .unknown haccess he hleaves⟩

end checked

/-- There are no tokens, neither in memory nor in the storage. -/
def IsCleared {β : Type} (s : Session β FaultyMap) : Prop :=
  s.memory = .none ∧ s.world.store.storage.tokens = .none

/-- A session that goes on keeps an access token. -/
theorem isSome_heldAfter {β σ : Type} {s : Session β σ} {token : String}
    (h : s.memory.access = some token) (es : List LogEntry) :
    (s.heldAfter es).access.isSome = true := by
  rw [heldAfter]
  cases es.findSome? (LogEntry.renewed? s.refreshUrl) with
  | none => simp [h]
  | some pair => rfl

section standing

variable {β : Type} [Backend β] {raw : String} {c : Client} {s u : Session β FaultyMap}

/-- The credentials are forgotten, unless the storage refuses. -/
theorem hold_endSession (hquiet : s.world.Quiet) :
    (endSession.hold s).2.log = s.log ∧
      (endSession.hold s).2.world.store = (s.world.store.write .forget).2.2 ∧
      ((endSession.hold s).1 = .ok .signedOut ∧ IsCleared (endSession.hold s).2 ∨
        ∃ e, (s.world.store.write .forget).1 = .error e ∧
          (endSession.hold s).1 = .error (.store e)) := by
  obtain ⟨v, heq, hv⟩ := s.write_alone hquiet .forget
  rw [endSession, store, hold_write, heq]
  cases hresult : (s.world.store.write .forget).1 with
  | ok _ =>
    have hmemory : v.store.memory = .none := by rw [hv.store]; rfl
    have hmirrors := s.world.store.mirrors_write hresult
    rw [← hv.store] at hmirrors
    exact ⟨rfl, hv.store, .inl ⟨rfl, hmemory, hmirrors.trans hmemory⟩⟩
  | error e => exact ⟨rfl, hv.store, .inr ⟨e, rfl, rfl⟩⟩

/-- A check that says that nobody is signed in leaves no tokens; one that says who is has it from the backend, and
leaves the tokens of its last renewal or those from before. -/
theorem status_agrees (hconnect : connect raw = .ok (c, s.refreshUrl)) (hquiet : s.world.Quiet) :
    let x := c.status.hold s
    ∃ es, x.2.log = es ++ s.log ∧
      (x.1 = .ok .signedOut → IsCleared x.2) ∧
      (∀ user, x.1 = .ok (.signedIn user) →
        (∃ entry ∈ es, entry.Brings c.base "GET" .currentUser User.decode user) ∧
          x.2.memory.access.isSome = true ∧ x.2.memory = s.heldAfter es) ∧
      (s.memory.access = none → es = []) := by
  intro x
  obtain ⟨es, hchecked⟩ : ∃ es, Checked c s es x := exists_checked hconnect hquiet
  refine ⟨es, ?_⟩
  clear_value x
  cases hchecked with
  | forgotten hleaves hnone =>
    obtain ⟨hlog, -, hend⟩ := hold_endSession hleaves.quiet
    refine ⟨hlog.trans hleaves.log, fun hx => ?_, fun user hx => ?_, hnone⟩
    · obtain ⟨-, hcleared⟩ | ⟨e, -, hresult⟩ := hend
      · exact hcleared
      · cases hx.symm.trans hresult
    · obtain ⟨hresult, -⟩ | ⟨e, -, hresult⟩ := hend <;> cases hx.symm.trans hresult
  | unvalidated htoken hvalidate hleaves =>
    exact ⟨hleaves.log, nofun, fun user => nofun, fun hnone => nomatch htoken.symm.trans hnone⟩
  | known htoken hleaves hbrought =>
    refine ⟨hleaves.log, nofun, ?_, fun hnone => nomatch htoken.symm.trans hnone⟩
    rintro user ⟨⟩
    refine ⟨hbrought, ?_, hleaves.memory⟩
    rw [hleaves.memory]
    exact isSome_heldAfter htoken es
  | unknown htoken he hleaves =>
    exact ⟨hleaves.log, nofun, fun user => nofun, fun hnone => nomatch htoken.symm.trans hnone⟩

def validAnswer : Http.Outcome := .ok ⟨200, some "\x7b\"valid\":true\x7d".toUTF8⟩

/-- The token is valid, but has expired by the time that the backend is asked whose it is, and is renewed. The
storage refuses to set anything. -/
def renewedCheck : Session Replay FaultyMap :=
  ⟨World.new (.ofPair ⟨"A1", "R1"⟩ fun _ c => c.verb = "set"), .ofList [validAnswer, .ok ⟨401, none⟩,
    .ok ⟨200, some "\x7b\"accessToken\":\"A2\",\"refreshToken\":\"R2\"\x7d".toUTF8⟩,
    .ok ⟨200, some "\x7b\"id\":7,\"username\":\"user\"\x7d".toUTF8⟩], apiRefresh, []⟩

theorem status_agrees_of_renewed :
    let x := apiClient.status.hold renewedCheck
    let user : User := ⟨7, "user", [], none, none⟩
    connect "http://api.test/v1" = .ok (apiClient, renewedCheck.refreshUrl) ∧ renewedCheck.world.Quiet ∧
      x.1 = .ok (.signedIn user) ∧
      (∃ entry ∈ x.2.log, entry.Brings apiClient.base "GET" .currentUser User.decode user) ∧
      x.2.memory = renewedCheck.heldAfter x.2.log ∧ x.2.memory = .ofPair ⟨"A2", "R2"⟩ ∧
      x.2.world.store.storage.tokens = .ofPair ⟨"A1", "R1"⟩ := by
  intro x user
  have hconnect : connect "http://api.test/v1" = .ok (apiClient, renewedCheck.refreshUrl) := rfl
  have hquiet : renewedCheck.world.Quiet := World.new_quiet _
  have hx : x.1 = .ok (.signedIn user) := by rfl
  obtain ⟨es, hlog, -, hsigned, -⟩ := status_agrees hconnect hquiet
  have hlog' : x.2.log = es := hlog.trans (List.append_nil es)
  obtain ⟨hbrought, -, hmemory⟩ := hsigned user hx
  rw [hlog']
  exact ⟨hconnect, hquiet, hx, hbrought, hmemory, by rfl, by rfl⟩

/-- A session that goes on since an earlier time: in memory are the pair of the last renewal since then or the
tokens from then, an access token among them, and the storage holds the same. -/
def GoesOn (s v : Session β FaultyMap) : Prop :=
  (∃ es, v.log = es ++ s.log ∧ v.memory = s.heldAfter es) ∧ v.memory.access.isSome = true ∧
    v.world.store.Mirrors

omit [Backend β] in
/-- A call that fails with an error that does not end the session leaves one that goes on. -/
theorem goesOn_of_leaves {es : List LogEntry} {e : Failure} {token : String}
    (htoken : s.memory.access = some token) (hleaves : s.Leaves e.isExpired es u)
    (he : e.isSessionEnded = false) (hmirrors : u.world.store.Mirrors) : GoesOn s u := by
  have hexpired : e.isExpired = false := by
    cases hexpired : e.isExpired with
    | false => rfl
    | true => cases he.symm.trans (Failure.isSessionEnded_of_isExpired hexpired)
  rw [hexpired] at hleaves
  refine ⟨⟨es, hleaves.log, hleaves.memory⟩, ?_, hmirrors⟩
  rw [hleaves.memory]
  exact isSome_heldAfter htoken es

/-- The credentials are forgotten where the storage refuses nothing. -/
theorem endSession_of_reliable (hquiet : s.world.Quiet) (hreliable : s.world.store.Reliable) :
    (endSession.hold s).1 = .ok .signedOut ∧ IsCleared (endSession.hold s).2 := by
  obtain ⟨-, -, hend | ⟨e, he, -⟩⟩ := hold_endSession hquiet
  · exact hend
  · cases he.symm.trans (hreliable.write_ok .forget)

/-- What a conversation leaves of a session whose storage refuses nothing and holds what is in memory. -/
theorem keeps_reliable {α : Type} (c : Conversation α) :
    c.Keeps fun s : Session β FaultyMap =>
      s.world.Quiet ∧ s.world.store.Reliable ∧ s.world.store.Mirrors := by
  refine keeps_quiet (P := fun st : Store FaultyMap => st.Reliable ∧ st.Mirrors) ?_ c
  exact fun st w hst => ⟨(st.reliable_write w).mpr hst.1, st.mirrors_write (hst.1.write_ok w)⟩

section branches

variable {token : String} (htoken : s.memory.access = some token)
include htoken

theorem status_of_unvalidated {e : Failure} (h : (c.validate token).hold s = (.error e, u)) :
    c.status.hold s = (.error e, u) := by
  simp only [status, Conversation.hold, htoken, andThen, hold_bind, h]

/-- A session that has ended when it is asked whose it is is forgotten, then or before. -/
theorem status_of_ended {validation : TokenValidation} {e : Failure} {v : Session β FaultyMap}
    (hvalidate : (c.validate token).hold s = (.ok validation, u))
    (hask : c.currentUser.hold u = (.error e, v)) (he : e.isSessionEnded = true) :
    c.status.hold s = endSession.hold u ∨ c.status.hold s = endSession.hold v := by
  simp only [status, Conversation.hold, htoken, andThen, hold_bind, hvalidate]
  split
  · exact .inl rfl
  · right
    simp only [hold_bind, hask, he, if_true]

end branches

/-- Where the storage refuses nothing, a check fails only with errors that keep the session exactly if its validation
does. -/
theorem status_keeps_session_iff (hconnect : connect raw = .ok (c, s.refreshUrl))
    (hquiet : s.world.Quiet) (hreliable : s.world.store.Reliable) (hmirrors : s.world.store.Mirrors) :
    let x := c.status.hold s
    ((∀ e, x.1 = .error e → e.isSessionEnded = false ∧ GoesOn s x.2) ↔
      ∀ token e u, s.memory.access = some token → (c.validate token).hold s = (.error e, u) →
        e.isSessionEnded = false) ∧
    (∀ token e u, s.memory.access = some token → (c.validate token).hold s = (.error e, u) →
      x = (.error e, u)) ∧
    ∀ token validation u e v, s.memory.access = some token →
      (c.validate token).hold s = (.ok validation, u) → c.currentUser.hold u = (.error e, v) →
      e.isSessionEnded = true → x.1 = .ok .signedOut ∧ IsCleared x.2 := by
  intro x
  obtain ⟨-, hstays, hkept⟩ : x.2.world.Quiet ∧ x.2.world.store.Reliable ∧ x.2.world.store.Mirrors :=
    keeps_reliable c.status s ⟨hquiet, hreliable, hmirrors⟩
  have hunvalidated : ∀ token e u, s.memory.access = some token →
      (c.validate token).hold s = (.error e, u) → x = (.error e, u) :=
    fun token e u htoken hvalidate => status_of_unvalidated htoken hvalidate
  refine ⟨⟨?_, ?_⟩, hunvalidated, ?_⟩
  · intro hall token e u htoken hvalidate
    have hx := hunvalidated token e u htoken hvalidate
    exact (hall e (by rw [hx])).1
  · intro hvalidated e hx
    obtain ⟨es, hchecked⟩ : ∃ es, Checked c s es x := exists_checked hconnect hquiet
    clear_value x
    cases hchecked with
    | @forgotten _ _ u hleaves hnone =>
      obtain ⟨-, hstore, -⟩ := hold_endSession hleaves.quiet
      rw [hstore, Store.reliable_write] at hstays
      cases hx.symm.trans (endSession_of_reliable hleaves.quiet hstays).1
    | unvalidated htoken hvalidate hleaves =>
      cases hx
      have he := hvalidated _ e _ htoken hvalidate
      exact ⟨he, goesOn_of_leaves htoken hleaves he hkept⟩
    | known htoken hleaves hbrought => cases hx
    | unknown htoken he hleaves =>
      cases hx
      exact ⟨he, goesOn_of_leaves htoken hleaves he hkept⟩
  · intro token validation u e v htoken hvalidate hask he
    have hu := keeps_reliable (c.validate token) s ⟨hquiet, hreliable, hmirrors⟩
    rw [hvalidate] at hu
    have hv := keeps_reliable c.currentUser u hu
    rw [hask] at hv
    rcases status_of_ended htoken hvalidate hask he with heq | heq
    · rw [show x = _ from heq]
      exact endSession_of_reliable hu.1 hu.2.1
    · rw [show x = _ from heq]
      exact endSession_of_reliable hv.1 hv.2.1

/-- The token is valid, but the backend fails when it is asked whose it is. -/
def failedCheck : Session Replay FaultyMap :=
  ⟨World.new (.ofPair ⟨"A1", "R1"⟩ fun _ _ => false), .ofList [validAnswer, .ok ⟨500, none⟩],
    apiRefresh, []⟩

theorem status_keeps_session_of_failed :
    let x := apiClient.status.hold failedCheck
    let e : Failure := .api (.serverError "")
    connect "http://api.test/v1" = .ok (apiClient, failedCheck.refreshUrl) ∧ failedCheck.world.Quiet ∧
      failedCheck.world.store.Reliable ∧ failedCheck.world.store.Mirrors ∧ x.1 = .error e ∧
      e.isSessionEnded = false ∧ GoesOn failedCheck x.2 := by
  intro x e
  have hconnect : connect "http://api.test/v1" = .ok (apiClient, failedCheck.refreshUrl) := rfl
  have hquiet : failedCheck.world.Quiet := World.new_quiet _
  have hreliable : failedCheck.world.store.Reliable := fun _ _ => rfl
  have hmirrors : failedCheck.world.store.Mirrors := rfl
  have hx : x.1 = .error e := by rfl
  obtain ⟨hiff, -⟩ := status_keeps_session_iff hconnect hquiet hreliable hmirrors
  have hvalidated : ∀ token e u, failedCheck.memory.access = some token →
      (apiClient.validate token).hold failedCheck = (.error e, u) → e.isSessionEnded = false := by
    rintro token e u ⟨⟩ hvalidate
    have hvalid : ((apiClient.validate "A1").hold failedCheck).1 = .ok ⟨true, ""⟩ := by rfl
    rw [hvalidate] at hvalid
    cases hvalid
  obtain ⟨he, hgoes⟩ := hiff.mpr hvalidated e hx
  exact ⟨hconnect, hquiet, hreliable, hmirrors, hx, he, hgoes⟩

/-- An access token that fits no header ends the check with an error that ends the session, and the tokens
stay; so does a refresh token that is refused while the access token is validated, and they are gone. -/
theorem status_fails_with_ended_session :
    let malformed : Session Replay FaultyMap :=
      ⟨World.new (.ofPair ⟨"A1\n", "R1"⟩ fun _ _ => false), .ofList [], apiRefresh, []⟩
    let refused : Session Replay FaultyMap :=
      ⟨World.new (.ofPair ⟨"A1", "R1"⟩ fun _ _ => false), .ofList [.ok ⟨401, none⟩, .ok ⟨401, none⟩],
        apiRefresh, []⟩
    let x := apiClient.status.hold malformed
    let y := apiClient.status.hold refused
    let e : Failure := .api (.auth .malformedToken)
    let d : Failure := .api (.auth (.sessionExpired (.renewalRejected "Refresh token rejected (401): ")))
    x.1 = .error e ∧ e.isSessionEnded = true ∧ x.2.memory = malformed.memory ∧
      y.1 = .error d ∧ d.isSessionEnded = true ∧ y.2.memory = .none := by
  intro malformed refused x y e d
  exact ⟨by rfl, rfl, by rfl, by decide +kernel, rfl, by decide +kernel⟩

end standing

end BandCatalog.Client
