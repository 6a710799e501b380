import Mathlib.Data.List.Sort
import BandCatalog.Proofs.Client.Exchanging
import BandCatalog.Proofs.Client.Listing
import BandCatalog.Proofs.Json.Records
import BandCatalog.Proofs.Storage.Maps

/-!
# What a user may do

The permissions of a user are what the roles grant together with what the backend lists, if it lists anything, in
order and without repetitions. A call for them may renew the session on its way, or end it, wait, and be made among
others; what it ends with depends on its roles, whatever their number and order, and on the one success that it gets.
It is assumed of a session that its coordinator is in a state that it can come to.
-/
namespace BandCatalog

open Renewal

/-- What a conversation does from its beginning to its end, and what it ends with: held alone, or among others in any
order of steps. -/
inductive Conversation.Run {α : Type} (d : Conversation α) : List Act → α → Prop where
  | alone {β σ : Type} [Backend β] [KeyValue σ] {st : Store σ} {es : List Event} (s : Session β σ)
      (hworld : s.world = (World.new st).run es) : Run d (d.script s) (d.hold s).1
  | among {β σ : Type} [Backend β] [KeyValue σ] {st : Store σ} {es : List Event} {k : Crowd α β σ} {i : Nat}
      (hworld : k.session.world = (World.new st).run es) (hcall : k.speakers[i]? = some (.speaking d))
      (ts : List Turn) {x : α} (hended : (k.run ts).speakers[i]? = some (.speaking (.done x))) :
      Run d (k.acts i ts) x

theorem Conversation.Run.leads {α : Type} {d : Conversation α} {as : List Act} {x : α} (h : d.Run as x) :
    Speaker.Leads (.speaking d) as (.speaking (.done x)) ∧ Act.Faithful as := by
  cases h with
  | @alone _ _ _ _ st es s hworld =>
    obtain ⟨fs, hattested⟩ := d.attested_script s es hworld
    exact ⟨d.leads_hold s, hattested.faithful⟩
  | @among _ _ _ _ st es k i hworld hcall ts _ hended =>
    obtain ⟨y, hy, hleads⟩ := Crowd.leads_run ts hcall
    obtain ⟨fs, -, hattested⟩ := Crowd.attested_run ts i hworld
    cases hy.symm.trans hended
    exact ⟨hleads, hattested.faithful⟩

namespace User

/-- Some role of a user grants the permission of a name. -/
def Grants (u : User) (name : String) : Prop := ∃ r ∈ u.roles, ∃ p ∈ r.permissions, p.name = name

variable {u v : User}

theorem mem_names_iff {name : String} : name ∈ u.permissions.map Permission.name ↔ u.Grants name := by
  simp only [List.mem_map, mem_permissions, Grants]
  constructor
  · rintro ⟨p, ⟨r, hr, hp⟩, rfl⟩
    exact ⟨r, hr, p, hp, rfl⟩
  · rintro ⟨r, hr, p, hp, rfl⟩
    exact ⟨p, ⟨r, hr, hp⟩, rfl⟩

theorem Grants.mono (h : u.roles ⊆ v.roles) {name : String} (hu : u.Grants name) : v.Grants name := by
  obtain ⟨r, hr, hgranted⟩ := hu
  exact ⟨r, h hr, hgranted⟩

/-- Neither the order of roles nor how often they stand in the list makes a difference. -/
theorem permissions_congr (h : ∀ r, r ∈ u.roles ↔ r ∈ v.roles) : u.permissions = v.permissions := by
  refine List.filter_congr fun p _ => Bool.eq_iff_iff.mpr ?_
  simp only [List.any_eq_true, h]

end User

namespace Client

theorem nodup_eraseDups (names : List String) : names.eraseDups.Nodup := by
  induction h : names.length using Nat.strongRecOn generalizing names with
  | _ n ih =>
    cases names with
    | nil => exact List.nodup_nil
    | cons name names =>
      have hshorter : (names.filter fun other => !other == name).length < n := by
        have hle := List.length_filter_le (fun other => !other == name) names
        rw [List.length_cons] at h
        omega
      rw [List.eraseDups_cons, List.nodup_cons]
      refine ⟨?_, ih _ hshorter _ rfl⟩
      simp [List.mem_eraseDups]

theorem mem_ascending {names : List String} {name : String} : name ∈ ascending names ↔ name ∈ names := by
  rw [ascending, List.mem_mergeSort, List.mem_eraseDups]

theorem pairwise_ascending (names : List String) : (ascending names).Pairwise (· < ·) := by
  have hnodup : (ascending names).Nodup := (List.mergeSort_perm _ _).nodup_iff.mpr (nodup_eraseDups names)
  have hsorted : (ascending names).Pairwise fun a b => decide (a ≤ b) = true := by
    refine List.pairwise_mergeSort (fun a b c hab hbc => ?_) (fun a b => ?_) _
    · exact decide_eq_true (String.le_trans (of_decide_eq_true hab) (of_decide_eq_true hbc))
    · rw [Bool.or_eq_true, decide_eq_true_iff, decide_eq_true_iff]
      exact String.le_total a b
  refine (hsorted.and hnodup).imp fun {a b} h => ?_
  exact TextMap.lt_of_not_lt (String.not_lt.mpr (of_decide_eq_true h.1)) h.2.symm

/-- What is in a list that is in order and without repetitions says which list it is. -/
theorem ascending_eq {names more : List String} (hmore : more.Pairwise (· < ·)) (hsub : names ⊆ more)
    (hsup : more ⊆ names) : ascending names = more :=
  List.Subset.antisymm_of_pairwise (pairwise_ascending names) hmore (fun _ h => hsub (mem_ascending.mp h))
    fun _ h => mem_ascending.mpr (hsup h)

/-- An answer among the exchanges of a request that does not turn it away is what the request ends with. -/
theorem Concluded.eq_of_answer {r q : Http.Request} {as : List Act} {x : Except Failure Http.Response}
    {a : Http.Response} (h : Concluded r as x) (hin : .exchange q (.ok a) ∈ as) (hstatus : a.status ≠ 401) :
    x = .ok a := by
  cases h with
  | malformed ht => simp at hin
  | unsent sent o => simp at hin
  | @answered _ p b sent hb =>
    have hsame : q = p ∧ a = b := by simpa using hin
    rw [hsame.2]
  | @unrepeatable _ p b sent hb hr =>
    have hsame : q = p ∧ a = b := by simpa using hin
    rw [hsame.2]
  | @rejected _ p b hb t e =>
    have hsame : q = p ∧ a = b := by simpa using hin
    exact absurd (hsame.2 ▸ hb.unauthorized) hstatus
  | @resentInVain _ p _ b _ hb t hs o =>
    have hsame : q = p ∧ a = b := by simpa using hin
    exact absurd (hsame.2 ▸ hb.unauthorized) hstatus
  | @reanswered _ p s b d _ hb t hs hd =>
    have hsame : (q = p ∧ a = b) ∨ q = s ∧ a = d := by simpa using hin
    rcases hsame with ⟨-, rfl⟩ | ⟨-, rfl⟩
    · exact absurd hb.unauthorized hstatus
    · rfl
  | @exhausted _ p s b d _ hb t hs hd =>
    have hsame : (q = p ∧ a = b) ∨ q = s ∧ a = d := by simpa using hin
    rcases hsame with ⟨-, rfl⟩ | ⟨-, rfl⟩
    · exact absurd hb.unauthorized hstatus
    · exact absurd hd hstatus

theorem Sent.eq_of_success {r q : Http.Request} {as : List Act} {x : Except Failure Http.Response}
    {a : Http.Response} (h : Sent r as x) (hin : .exchange q (.ok a) ∈ as)
    (hsuccess : Http.isSuccess a.status = true) : x = .ok a := by
  cases h with
  | openly hr o =>
    cases List.mem_singleton.mp hin
    rfl
  | bearing hr h =>
    have hkept := isUnauthorized_of_success hsuccess
    exact h.eq_of_answer hin (by simpa [isUnauthorized] using hkept)

/-- So a success among the exchanges of all attempts is what the call ends with: no other attempt follows it. -/
theorem Tries.eq_of_success {r q : Http.Request} {wait left : Nat} {past : List Attempt} {last : Attempt}
    {as : List Act} {x : Except Failure Http.Response} {a : Http.Response}
    (h : Tries r wait left past last as x) (hin : .exchange q (.ok a) ∈ as)
    (hsuccess : Http.isSuccess a.status = true) : x = .ok a := by
  obtain ⟨t, ht, hin⟩ := h.exists_attempt hin nofun
  have houtcome : t.outcome = .ok a := (h.sent t ht).eq_of_success hin hsuccess
  rcases List.mem_append.mp ht with ht | ht
  · obtain ⟨b, hb, hslow⟩ := h.slowed t ht
    cases houtcome.symm.trans hb
    rw [hslow] at hsuccess
    cases hsuccess
  · rw [h.result, ← List.mem_singleton.mp ht, houtcome, verdict, if_pos hsuccess]

/-- A request for the permissions that the backend lists. -/
def Asks (c : Client) (r : Http.Request) : Prop :=
  r.method = "GET" ∧ ∃ u, c.base.endpoint .permissions = .ok u ∧ r.url = Http.address u

/-- Among the exchanges is one for the permissions whose answer is a success with a list of these texts. -/
def Serves (c : Client) (as : List Act) (names : List String) : Prop :=
  ∃ r a, .exchange r (.ok a) ∈ as ∧ c.Asks r ∧ a.Succeeds ∧ a.json? = some (.array (names.map .text))

theorem decodeTexts_eq_some {v : Json} {names : List String} :
    Json.decodeList Json.decodeText v = some names ↔ v = .array (names.map .text) := by
  have hitems : ∀ vs : List Json, List.Forall₂ (fun v s => v = .text s) vs names ↔ vs = names.map .text := by
    intro vs
    rw [← List.forall₂_map_right_iff, List.forall₂_eq_eq_eq]
  simp only [Json.decodeList_iff fun _ _ => Json.decodeText_eq_some, hitems, exists_eq_right]

section leads

variable {c : Client} {as : List Act}

/-- Whatever comes of its acts, a call for the permissions sends nothing else. -/
theorem asks_of_permissions {x : Except Failure (List String)}
    (h : Speaker.Leads (.speaking c.permissions) as (.speaking (.done x))) (hfaithful : Act.Faithful as) :
    ∀ q o, .exchange q o ∈ as → c.Asks q := by
  intro q o hin
  cases hu : c.base.endpoint .permissions with
  | error e =>
    rw [permissions, build, hu] at h
    cases h
    cases hin
  | ok u =>
    rw [permissions, build, hu] at h
    obtain ⟨hmethod, hurl, -⟩ := sameRequest_of_fetch h hfaithful q o hin
    obtain ⟨hbuilt, haddress⟩ := Http.Request.build_parts "GET" u none
    exact ⟨hmethod.trans hbuilt, u, hu, hurl.trans haddress⟩

/-- A call for the permissions ends with exactly the list that it is served. -/
theorem serves_iff {names : List String} {x : Except Failure (List String)}
    (h : Speaker.Leads (.speaking c.permissions) as (.speaking (.done x))) (hfaithful : Act.Faithful as) :
    c.Serves as names ↔ x = .ok names := by
  have hasks := asks_of_permissions h hfaithful
  cases hu : c.base.endpoint .permissions with
  | error e =>
    rw [permissions, build, hu] at h
    cases h
    constructor
    · rintro ⟨r, a, hin, -⟩
      cases hin
    · intro hx
      cases hx
  | ok u =>
    rw [permissions, build, hu] at h
    obtain ⟨y, past, last, htries, rfl⟩ := tries_of_fetch h hfaithful
    constructor
    · rintro ⟨r, a, hin, -, hsuccess, hjson⟩
      obtain rfl := htries.eq_of_success hin (Http.Response.isSuccess_iff.mpr hsuccess)
      simp only [Except.bind, fetched, hjson, Option.bind_some, decodeTexts_eq_some.mpr rfl]
    · intro hx
      cases y with
      | error e => cases hx
      | ok a =>
        obtain ⟨hsuccess, q, hin⟩ := htries.exists_exchange
        refine ⟨q, a, hin, hasks q _ hin, Http.Response.isSuccess_iff.mp hsuccess, ?_⟩
        simp only [Except.bind, fetched] at hx
        cases hvalue : a.json?.bind (Json.decodeList Json.decodeText) with
        | none =>
          simp only [hvalue] at hx
          cases hx
        | some listed =>
          simp only [hvalue] at hx
          cases hx
          obtain ⟨v, hv, hlisted⟩ := Option.bind_eq_some_iff.mp hvalue
          rw [hv, decodeTexts_eq_some.mp hlisted]

end leads

/-- The names are those that the roles of a user grant and those that the backend lists, in order and each once. -/
structure Unites (c : Client) (u : User) (as : List Act) (names : List String) : Prop where
  asks : ∀ q o, .exchange q o ∈ as → c.Asks q
  ascending : names.Pairwise (· < ·)
  served : ∀ listed, c.Serves as listed → ∀ name, name ∈ names ↔ u.Grants name ∨ name ∈ listed
  unserved : (∀ listed, ¬c.Serves as listed) → ∀ name, name ∈ names ↔ u.Grants name

theorem unites_of_run {c : Client} {u : User} {as : List Act} {names : List String}
    (h : (c.allPermissions u).Run as names) : c.Unites u as names := by
  obtain ⟨hleads, hfaithful⟩ := h.leads
  obtain ⟨front, x, back, rfl, hfront, hback⟩ := Speaker.leads_bind hleads
  cases hback
  rw [List.append_nil] at hfaithful ⊢
  have hserves : ∀ listed, c.Serves front listed ↔ x = .ok listed := fun _ => serves_iff hfront hfaithful
  refine ⟨asks_of_permissions hfront hfaithful, pairwise_ascending _, fun listed hlisted name => ?_,
    fun hnone name => ?_⟩
  · rw [mem_ascending, List.mem_append, User.mem_names_iff, (hserves listed).mp hlisted]
  · rw [mem_ascending, List.mem_append, User.mem_names_iff]
    cases x with
    | ok listed => exact absurd ((hserves listed).mpr rfl) (hnone listed)
    | error e => simp

theorem exists_exchange_of_allPermissions {β σ : Type} [Backend β] [KeyValue σ] {c : Client} (u : User)
    {s : Session β σ} (hbase : c.base.IsBase)
    (hfits : ∀ t, s.memory.access = some t → Http.isHeaderValue (bearer t) = true) :
    ∃ q o, .exchange q o ∈ (c.allPermissions u).script s := by
  obtain ⟨ss, -, hendpoint⟩ := Url.endpoint_eq hbase
  obtain ⟨q, o, hin⟩ : ∃ q o, .exchange q o ∈ c.permissions.script s := by
    rw [permissions, build, hendpoint .permissions]
    exact exists_exchange_of_fetch _ _ hfits
  exact ⟨q, o, (Conversation.script_prefix_bind c.permissions _ s).subset hin⟩

/-- However a call for them goes, the permissions of a user are those of its roles and of the list in the one success
that it gets, in order and each once; they depend on which roles there are, and grow with them and the list. -/
theorem permissions_are_united (c : Client) (u v : User) :
    (∀ as names, (c.allPermissions u).Run as names → c.Unites u as names) ∧
    (∀ (β σ : Type) [Backend β] [KeyValue σ] (s : Session β σ), c.base.IsBase →
      (∀ t, s.memory.access = some t → Http.isHeaderValue (bearer t) = true) →
      ∃ q o, .exchange q o ∈ (c.allPermissions u).script s) ∧
    ((∀ r, r ∈ u.roles ↔ r ∈ v.roles) → c.allPermissions u = c.allPermissions v) ∧
    (u.roles ⊆ v.roles → ∀ as names bs more,
      (c.allPermissions u).Run as names → (c.allPermissions v).Run bs more →
      (∀ listed, c.Serves as listed → ∃ longer, c.Serves bs longer ∧ listed ⊆ longer) → names ⊆ more) := by
  refine ⟨fun as names => unites_of_run, fun β σ _ _ s => exists_exchange_of_allPermissions u, fun hroles => ?_,
    fun hroles as names bs more hu hv hlonger name hin => ?_⟩
  · rw [allPermissions, User.permissions_congr hroles, ← allPermissions]
  · have hnames := unites_of_run hu
    have hmore := unites_of_run hv
    -- what the roles grant is in both, whether anything is listed or not
    have hgranted : u.Grants name → name ∈ more := by
      intro hgrants
      by_cases hserved : ∃ listed, c.Serves bs listed
      · obtain ⟨listed, hlisted⟩ := hserved
        exact (hmore.served listed hlisted name).mpr (.inl (hgrants.mono hroles))
      · exact (hmore.unserved (not_exists.mp hserved) name).mpr (hgrants.mono hroles)
    by_cases hserved : ∃ listed, c.Serves as listed
    · obtain ⟨listed, hlisted⟩ := hserved
      obtain ⟨longer, hlonger, hsub⟩ := hlonger listed hlisted
      rcases (hnames.served listed hlisted name).mp hin with hgrants | hname
      · exact hgranted hgrants
      · exact (hmore.served longer hlonger name).mpr (.inr (hsub hname))
    · exact hgranted ((hnames.unserved (not_exists.mp hserved) name).mp hin)

def reader : User := ⟨7, "reader", [.user, .unknown], none, none⟩

/-- The same roles, with repetitions. -/
def repeatedReader : User := ⟨7, "reader", [.unknown, .user, .unknown, .user], none, none⟩

/-- The backend has no list. -/
def unlisted : Session Replay TextMap := ⟨World.new signedIn, .ofList [.ok ⟨500, none⟩], apiRefresh, []⟩

/-- The token is renewed on the way to a list with repetitions. -/
def relisted : Session Replay TextMap :=
  ⟨World.new signedIn, .ofList [.ok ⟨401, none⟩,
    .ok ⟨200, some "\x7b\"accessToken\":\"A2\",\"refreshToken\":\"R2\"\x7d".toUTF8⟩,
    .ok ⟨200, some "[\"ENTITY_READ\",\"Z\",\"AUDIT\",\"Z\"]".toUTF8⟩], apiRefresh, []⟩

theorem renewed_permissions_are_united :
    let as := (apiClient.allPermissions reader).script unlisted
    let bs := (apiClient.allPermissions repeatedReader).script relisted
    let x := ((apiClient.allPermissions reader).hold unlisted).1
    let y := ((apiClient.allPermissions repeatedReader).hold relisted).1
    x = ["ENTITY_CREATE", "ENTITY_READ", "IMPORT_ENTITY", "OWN_ENTITY_BULK_DELETE", "OWN_ENTITY_DELETE",
      "OWN_ENTITY_UPDATE", "READ_OWN_IMPORT"] ∧ apiClient.Unites reader as x ∧
    y = ["AUDIT", "ENTITY_CREATE", "ENTITY_READ", "IMPORT_ENTITY", "OWN_ENTITY_BULK_DELETE", "OWN_ENTITY_DELETE",
      "OWN_ENTITY_UPDATE", "READ_OWN_IMPORT", "Z"] ∧ apiClient.Unites repeatedReader bs y ∧
    (∀ names, ¬apiClient.Serves as names) ∧ apiClient.Serves bs ["ENTITY_READ", "Z", "AUDIT", "Z"] ∧
    apiClient.allPermissions reader = apiClient.allPermissions repeatedReader ∧ x ⊆ y := by
  intro as bs x y
  have hx : x = ascending (reader.permissions.map Permission.name ++ []) := by rfl
  have hy : y = ascending
      (repeatedReader.permissions.map Permission.name ++ ["ENTITY_READ", "Z", "AUDIT", "Z"]) := by rfl
  have hunserved : ∀ names, ¬apiClient.Serves as names := by
    obtain ⟨t, q, has⟩ : ∃ t q, as = [.access t, .exchange q (.ok ⟨500, none⟩)] := ⟨_, _, rfl⟩
    rintro names ⟨r, a, hin, -, hsuccess, -⟩
    obtain ⟨rfl, rfl⟩ : r = q ∧ a = ⟨500, none⟩ := by simpa [has] using hin
    exact absurd hsuccess.2 (by decide)
  have hserved : apiClient.Serves bs ["ENTITY_READ", "Z", "AUDIT", "Z"] :=
    ⟨_, _, List.mem_of_getLast? (by rfl), ⟨rfl, _, rfl, rfl⟩, ⟨by decide, by decide⟩, by rfl⟩
  obtain ⟨hunited, -, hcongr, hmono⟩ := permissions_are_united apiClient reader repeatedReader
  have hroles : ∀ r, r ∈ reader.roles ↔ r ∈ repeatedReader.roles := by
    intro r
    cases r <;> decide
  have hrun : (apiClient.allPermissions reader).Run as x :=
    .alone unlisted (show unlisted.world = (World.new signedIn).run [] from rfl)
  have hrun' : (apiClient.allPermissions repeatedReader).Run bs y :=
    .alone relisted (show relisted.world = (World.new signedIn).run [] from rfl)
  have hunited' := (permissions_are_united apiClient repeatedReader reader).1 bs y hrun'
  have hsub : x ⊆ y := hmono (fun r => (hroles r).mp) as x bs y hrun hrun' fun names h => absurd h (hunserved names)
  refine ⟨hx.trans ?_, hunited as x hrun, hy.trans ?_, hunited', hunserved, hserved, hcongr hroles, hsub⟩
  · exact ascending_eq (by decide +kernel) (by decide +kernel) (by decide +kernel)
  · exact ascending_eq (by decide +kernel) (by decide +kernel) (by decide +kernel)

end Client

end BandCatalog
