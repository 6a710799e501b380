import BandCatalog.Proofs.Client.Heeding
import BandCatalog.Proofs.Url.Forms

/-!
# Listings

What a listing asks for reaches the backend: every request that it sends has, as its query, a form of the
fields of the filter that are set and of the page.
-/
namespace BandCatalog

open Renewal

/-- What a conversation does comes first where another goes on from it. -/
theorem Conversation.script_prefix_bind {α γ β σ : Type} [Backend β] [KeyValue σ] (c : Conversation α)
    (f : α → Conversation γ) (s : Session β σ) : c.script s <+: (c.bind f).script s := by
  induction c generalizing s with
  | done a => exact List.nil_prefix
  | access next ih => exact (List.prefix_cons_inj _).mpr (ih _ s)
  | refresh next ih => exact (List.prefix_cons_inj _).mpr (ih _ s)
  | exchange r next ih => exact (List.prefix_cons_inj _).mpr (ih _ _)
  | recover p next ih => exact (List.prefix_cons_inj _).mpr ((List.prefix_cons_inj _).mpr (ih _ _))
  | pause ms next ih => exact (List.prefix_cons_inj _).mpr (ih _)
  | write w next ih => exact (List.prefix_cons_inj _).mpr ((List.prefix_cons_inj _).mpr (ih _ _))

namespace Client

section leads

variable {α : Type} {as : List Act} {x : Except Failure α}

/-- What a call whose answer has a value does, and what it makes of the answer that it ends with. -/
theorem tries_of_fetch {decode : Json.Decode α} {r : Http.Request}
    (h : Speaker.Leads (.speaking (fetch decode r)) as (.speaking (.done x))) (hfaithful : Act.Faithful as) :
    ∃ y past last, Tries r firstWait retryLimit past last as y ∧ x = y.bind (fetched decode r.url) := by
  obtain ⟨front, y, back, rfl, hfront, hback⟩ := Speaker.leads_bind h
  -- what an answer is read as takes no act
  have hend : back = [] ∧ x = y.bind (fetched decode r.url) := by
    cases y with
    | error e =>
      cases hback
      exact ⟨rfl, rfl⟩
    | ok response =>
      simp only [Except.bind, fetched]
      cases hvalue : response.json?.bind decode <;> simp only [hvalue] at hback <;> cases hback <;>
        exact ⟨rfl, rfl⟩
  obtain ⟨rfl, hx⟩ := hend
  rw [List.append_nil] at hfaithful ⊢
  obtain ⟨past, last, htries⟩ := tries_of_leads hfront hfaithful
  exact ⟨y, past, last, htries, hx⟩

/-- Whatever comes of its acts, a request whose answer has a value sends nothing but that request. -/
theorem sameRequest_of_fetch {decode : Json.Decode α} {r : Http.Request}
    (h : Speaker.Leads (.speaking (fetch decode r)) as (.speaking (.done x)))
    (hfaithful : Act.Faithful as) : ∀ q o, .exchange q o ∈ as → SameRequest q r := by
  obtain ⟨y, past, last, htries, -⟩ := tries_of_fetch h hfaithful
  exact htries.sameRequest

/-- Every request of a listing is to the endpoint of the bands, with the parameters for its query. -/
theorem url_of_bands {c : Client} {f : Filter} {p : PageRequest} {x : Except Failure (Page Band)}
    (h : Speaker.Leads (.speaking (c.bands f p)) as (.speaking (.done x)))
    (hfaithful : Act.Faithful as) : ∀ q o, .exchange q o ∈ as → ∃ u, c.base.endpoint .bands = .ok u ∧
      q.url = { Http.address u with
        query := some (Url.Form.encode (f.parameters ++ p.parameters)) } := by
  intro q o hin
  cases hu : c.base.endpoint .bands with
  | error e =>
    rw [bands, build, hu] at h
    cases h
    cases hin
  | ok u =>
    rw [bands, build, hu] at h
    have hsame := sameRequest_of_fetch h hfaithful q o hin
    obtain ⟨-, hurl⟩ := Http.Request.build_parts "GET" u none
    refine ⟨u, rfl, ?_⟩
    rw [hsame.2.1, withQuery, hurl]

end leads

section script

variable {β σ : Type} [Backend β] [KeyValue σ]

/-- A request is sent, unless the token in memory fits no header. -/
theorem exists_exchange_of_send (r : Http.Request) {s : Session β σ}
    (hfits : ∀ t, s.memory.access = some t → Http.isHeaderValue (bearer t) = true) :
    ∃ q o, .exchange q o ∈ (send r).script s := by
  unfold send
  split
  · exact ⟨_, _, List.mem_cons_self⟩
  · obtain ⟨q, hq⟩ : ∃ q, withToken r s.memory.access = .ok q := by
      cases htoken : s.memory.access with
      | none => exact ⟨r, rfl⟩
      | some t => exact ⟨_, Http.Request.authorize_eq (hfits t htoken) r⟩
    refine ⟨q, (s.send q).1, List.mem_cons_of_mem _ ?_⟩
    rw [sendProtected_of_ok hq]
    exact List.mem_cons_self

theorem exists_exchange_of_fetch {α : Type} (decode : Json.Decode α) (r : Http.Request) {s : Session β σ}
    (hfits : ∀ t, s.memory.access = some t → Http.isHeaderValue (bearer t) = true) :
    ∃ q o, .exchange q o ∈ (fetch decode r).script s := by
  obtain ⟨q, o, hin⟩ := exists_exchange_of_send r hfits
  -- the first attempt comes first, and what its answer is read as comes after all of them
  have hattempt : .exchange q o ∈ (request r).script s :=
    (Conversation.script_prefix_bind (send r) _ s).subset hin
  exact ⟨q, o, (Conversation.script_prefix_bind (request r) _ s).subset hattempt⟩

end script

/-- Every request of a listing has as its query a form of the fields of the filter that are set and of the page; alone
it does send one, unless the token in memory fits no header. -/
theorem bands_sends_parameters {β σ : Type} [Backend β] [KeyValue σ] (st : Store σ) (es : List Event)
    (k : Crowd (Except Failure (Page Band)) β σ) (i : Nat) (c : Client) (f : Filter) (p : PageRequest)
    (hworld : k.session.world = (World.new st).run es)
    (hcall : k.speakers[i]? = some (.speaking (c.bands f p))) (ts : List Turn) :
    (∀ q o, .exchange q o ∈ k.acts i ts ∨ .exchange q o ∈ (c.bands f p).script k.session →
      ∃ u query, c.base.endpoint .bands = .ok u ∧
        q.url = { Http.address u with query := some query } ∧
        Url.Form.decode query =
          ([("name", f.name), ("description", f.description), ("genre", f.genre.map Genre.name),
            ("frontManName", f.frontManName), ("bestAlbumName", f.bestAlbumName),
            ("minParticipants", f.minParticipants.map toString),
            ("maxParticipants", f.maxParticipants.map toString),
            ("establishmentDateBefore", f.establishedBefore.map Calendar.Date.toText),
            ("establishmentDateAfter", f.establishedAfter.map Calendar.Date.toText),
            ("createdBy", f.createdBy)].filterMap fun m => m.2.map (m.1, ·)) ++
          [("page", toString p.page.toNat), ("size", toString p.size.toNat)] ++
          p.sort.map (("sort", ·)) ++ (p.direction.map fun d => ("direction", d.name)).toList) ∧
    (c.base.IsBase →
      (∀ t, k.session.memory.access = some t → Http.isHeaderValue (bearer t) = true) →
      ∃ q o, .exchange q o ∈ (c.bands f p).script k.session) := by
  have hurl : ∀ q o, .exchange q o ∈ k.acts i ts ∨ .exchange q o ∈ (c.bands f p).script k.session →
      ∃ u, c.base.endpoint .bands = .ok u ∧ q.url = { Http.address u with
        query := some (Url.Form.encode (f.parameters ++ p.parameters)) } := by
    rintro q o (hin | hin)
    · obtain ⟨y, -, hleads⟩ := Crowd.leads_run ts hcall
      obtain ⟨fs, -, hattested⟩ := Crowd.attested_run ts i hworld
      obtain ⟨more, x, hend, hnone⟩ := y.exists_end
      exact url_of_bands (hleads.trans hend) (hattested.faithful.append hnone) q o
        (List.mem_append_left _ hin)
    · obtain ⟨fs, hattested⟩ := (c.bands f p).attested_script k.session es hworld
      exact url_of_bands ((c.bands f p).leads_hold k.session) hattested.faithful q o hin
  refine ⟨fun q o hin => ?_, fun hbase hfits => ?_⟩
  · obtain ⟨u, hu, hq⟩ := hurl q o hin
    refine ⟨u, _, hu, hq, ?_⟩
    rw [Url.Form.decode_encode, List.append_assoc]
    simp only [Filter.parameters, PageRequest.parameters, List.append_assoc]
  · obtain ⟨ss, -, hendpoint⟩ := Url.endpoint_eq hbase
    rw [bands, build, hendpoint .bands]
    exact exists_exchange_of_fetch _ _ hfits

/-- A filter and a page whose texts have the marks of a form, spaces and other alphabets in them. -/
def markedFilter : Filter where
  name := some "R&B = 100% + #Ω"
  description := none
  genre := some .soul
  frontManName := some "&page=9"
  bestAlbumName := some ""
  minParticipants := some (-3)
  maxParticipants := none
  establishedBefore := some ⟨1972, 2, 29, by decide⟩
  establishedAfter := none
  createdBy := none

def markedPage : PageRequest := ⟨2, 20, ["name", "name", "%26x=1"], some .descending⟩

/-- A base with a query of its own. -/
def queriedClient : Client :=
  ⟨⟨"http", some ⟨"", "", .name "h", none⟩, .segments ["api", ""], some "name=x&page=9", none⟩⟩

def markedListing : Crowd (Except Failure (Page Band)) Replay TextMap :=
  ⟨⟨World.new accessOnly, .ofList [], queriedClient.base, []⟩,
    [.speaking (queriedClient.bands markedFilter markedPage)]⟩

theorem marked_listing_sends_parameters :
    markedListing.session.world = (World.new accessOnly).run [] ∧
      markedListing.speakers[0]? = some (.speaking (queriedClient.bands markedFilter markedPage)) ∧
      ∃ q o query, .exchange q o ∈ markedListing.acts 0 [.speaker 0, .speaker 0] ∧
        q.url.query = some query ∧ Url.Form.decode query =
          [("name", "R&B = 100% + #Ω"), ("genre", "SOUL"), ("frontManName", "&page=9"),
            ("bestAlbumName", ""), ("minParticipants", "-3"), ("establishmentDateBefore", "1972-02-29"),
            ("page", "2"), ("size", "20"), ("sort", "name"), ("sort", "name"), ("sort", "%26x=1"),
            ("direction", "DESC")] := by
  obtain ⟨q, o, hin⟩ : ∃ q o, .exchange q o ∈ markedListing.acts 0 [.speaker 0, .speaker 0] :=
    ⟨_, _, List.mem_cons_of_mem _ List.mem_cons_self⟩
  obtain ⟨u, query, -, hq, hquery⟩ := (bands_sends_parameters accessOnly [] markedListing 0 queriedClient
    markedFilter markedPage rfl rfl [.speaker 0, .speaker 0]).1 q o (.inl hin)
  refine ⟨rfl, rfl, q, o, query, hin, by rw [hq], hquery.trans ?_⟩
  decide

end Client

end BandCatalog
