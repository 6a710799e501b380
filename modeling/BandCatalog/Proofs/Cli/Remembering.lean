import BandCatalog.Cli.Run
import BandCatalog.Client.Replay
import BandCatalog.Proofs.Client.Entering
import BandCatalog.Proofs.Settings.Saving

/-!
# What a run saves

A run that signs in saves its settings to remember who did, and with them the backend's URL that it ran with,
wherever that came from. No other run changes the settings.
-/
namespace BandCatalog.Cli

open Client Conversation

/-- Every outcome that a dialogue can have, whatever is typed, has a property. -/
def Dialogue.Always {α : Type} (P : α → Prop) : Dialogue α → Prop
  | .done a => P a
  | .say _ next => next.Always P
  | .line next => ∀ t, (next t).Always P
  | .password _ next => ∀ t, (next t).Always P

theorem Dialogue.Always.hold {α : Type} {P : α → Prop} {d : Dialogue α} (h : d.Always P) (t : Typed) :
    P (d.hold t).1 := by
  induction d generalizing t with
  | done a => exact h
  | say text next ih => exact ih h t
  | line next ih => exact ih _ (h _) _
  | password prompt next ih => exact ih _ (h _) _

theorem always_askPassword {α : Type} {P : Except Complaint α → Prop}
    {next : String → Dialogue (Except Complaint α)} (herror : ∀ c, P (.error c))
    (hnext : ∀ p, (next p).Always P) : (askPassword next).Always P := by
  intro p
  show Dialogue.Always P (if p = "" then .done (.error .passwordRequired) else next p)
  split
  · exact herror _
  · exact hnext p

theorem always_askUsername {α : Type} {P : Except Complaint α → Prop} (last : Option String)
    {next : String → Dialogue (Except Complaint α)} (herror : ∀ c, P (.error c))
    (hnext : ∀ name, (next name).Always P) : (askUsername last next).Always P := by
  intro line
  cases line with
  | none => exact herror _
  | some line =>
    simp only
    split
    · exact hnext _
    · cases last with
      | none => exact herror _
      | some name => exact hnext name

/-- Where a command signs in, if it does. -/
def Command.entrance? : Command → Option Endpoint
  | login _ => some .login
  | register _ => some .register
  | _ => none

theorem Command.names_entrance {cmd : Command} {e : Endpoint} (h : cmd.entrance? = some e) :
    e.names ≠ Endpoint.refresh.names := by
  cases cmd <;> cases h <;> decide

/-- An outcome that does not say that somebody has just signed in. -/
inductive NamesNobody : Except Complaint Answer → Prop where
  | ok {a : Answer} (h : a.newcomer? = none) : NamesNobody (.ok a)
  | error (c : Complaint) : NamesNobody (.error c)

/-- How a command goes on after its dialogue. It gives up, or it signs in and its answer says who did, or its answer
names nobody. -/
inductive Proceeds (c : Client) (entrance : Option Endpoint) (x : Except Complaint Errand) : Prop where
  | error {e : Complaint} (hx : x = .error e)
  | enter {e : Endpoint} {f : User → Answer} {l : Login} (hentrance : entrance = some e)
    (hf : ∀ user, (f user).newcomer? = some user.username)
    (hx : x = .ok (toAnswer f
      ((whenBuilt (c.build "POST" e (some l.toJson)) (fetch SignIn.decode)).andThen Client.start)))
  | other {errand : Errand} (hentrance : entrance = none) (h : errand.Always NamesNobody)
    (hx : x = .ok errand)

theorem always_toAnswer {α : Type} {f : α → Answer} (hf : ∀ a, (f a).newcomer? = none)
    (d : Conversation (Except Failure α)) : (toAnswer f d).Always NamesNobody := by
  refine .after d fun x => ?_
  cases x with
  | ok a => exact .ok (hf a)
  | error e => exact .error _

theorem always_describe (c : Client) : (describe c).Always NamesNobody := by
  refine .after c.status fun x => ?_
  match x with
  | .ok (.signedIn user) => exact .after (c.allPermissions user) fun names => .ok rfl
  | .ok .signedOut => exact .error _
  | .error e => exact .error _

/-- Whatever a command asks its user, it goes on as such a command does. -/
theorem proceeds_start (c : Client) (last : Option String) (cmd : Command) :
    (cmd.start c last).Always (Proceeds c cmd.entrance?) := by
  have hother : ∀ {α : Type} (f : α → Answer), (∀ a, (f a).newcomer? = none) →
      ∀ d : Conversation (Except Failure α), Proceeds c none (.ok (toAnswer f d)) :=
    fun f hf d => .other rfl (always_toAnswer hf d) rfl
  cases cmd with
  | login username =>
    have hname : ∀ name, (askPassword fun password => .say "Authenticating...\n"
        (.done (.ok (toAnswer .signedIn (c.signIn ⟨name, password⟩))))).Always (Proceeds c (some .login)) :=
      fun name => always_askPassword (fun _ => .error rfl) fun password => .enter rfl (fun _ => rfl) rfl
    cases username with
    | some name => exact hname name
    | none => exact always_askUsername last (fun _ => .error rfl) hname
  | register username =>
    refine always_askPassword (fun _ => .error rfl) fun password again => ?_
    show Dialogue.Always (Proceeds c (some .register)) (if password = again then _ else _)
    split
    · exact .enter rfl (fun _ => rfl) rfl
    · exact .error rfl
  | logout => exact hother (fun _ => .signedOut) (fun _ => rfl) c.signOut
  | status => exact hother .status (fun _ => rfl) c.status
  | whoami => exact .other rfl (always_describe c) rfl
  | list l =>
    show Proceeds c none ((filter? l).map fun f => toAnswer .page (c.bands f l.page))
    cases filter? l with
    | error e => exact .error rfl
    | ok f => exact hother .page (fun _ => rfl) (c.bands f l.page)
  | get id => exact hother .band (fun _ => rfl) (c.band id)
  | delete id => exact hother (fun _ => .deleted id) (fun _ => rfl) (c.deleteBand id)

/-- The URL that a run uses in place of the one in its settings, if there is one. -/
def override? (i : Invocation) (e : Environment) : Option String := i.apiUrl.or (e.get? Settings.urlVariable)

/-- The settings that a run uses. -/
def used (i : Invocation) (e : Environment) (s : Settings) : Settings :=
  { s with apiUrl := (override? i e).getD s.apiUrl }

/-- Whether a variable is blank makes no difference. -/
theorem runSettings_eq (i : Invocation) (e : Environment) (h : Home) :
    runSettings i e h = (Settings.read h.settings).map fun s => used i e s := by
  simp only [runSettings, Settings.load, used, override?]
  cases Settings.read h.settings with
  | error x => rfl
  | ok s =>
    cases e.get? Settings.urlVariable with
    | none => cases i.apiUrl <;> rfl
    | some v =>
      cases i.apiUrl with
      | none =>
        simp only [Settings.withVariable, Except.map, Option.none_or]
        split <;> rfl
      | some url =>
        simp only [Settings.withVariable, Except.map, Option.some_or]
        split <;> rfl

variable {β : Type} [Backend β]

/-- What a run that could be started has. -/
structure Prepared (i : Invocation) (e : Environment) (h : Home) (ready : Ready β) : Prop where
  settings : runSettings i e h = .ok ready.settings
  connect : connect ready.settings.apiUrl = .ok (ready.client, ready.session.refreshUrl)
  quiet : ready.session.world.Quiet
  log : ready.session.log = []

omit [Backend β] in
theorem prepared {i : Invocation} {e : Environment} {h : Home} {b : β} {ready : Ready β}
    (hready : prepare i e h b = .ok ready) : Prepared i e h ready := by
  simp only [prepare, Bind.bind, Except.bind] at hready
  cases hsettings : runSettings i e h with
  | error x => simp [hsettings, Except.mapError] at hready
  | ok settings =>
    simp only [hsettings, Except.mapError] at hready
    cases hstore : (Store.open? (h.vault settings.storage)).1 with
    | error x => simp [hstore] at hready
    | ok store =>
      simp only [hstore] at hready
      cases hconnect : Client.connect settings.apiUrl with
      | error x => simp [hconnect] at hready
      | ok c =>
        simp only [hconnect] at hready
        cases hready
        exact ⟨hsettings, hconnect, Renewal.World.new_quiet store, rfl⟩

@[simp] theorem settings_keep (h : Home) (v : Vault) : (h.keep v).settings = h.settings := by
  cases v <;> rfl

theorem hold_toAnswer {α σ : Type} [KeyValue σ] {f : α → Answer} {d : Conversation (Except Failure α)}
    {s : Session β σ} {a : Answer} (h : ((toAnswer f d).hold s).1 = .ok a) :
    ∃ v, d.hold s = (.ok v, ((toAnswer f d).hold s).2) ∧ a = f v := by
  rw [toAnswer, hold_bind] at h ⊢
  generalize d.hold s = x at h
  obtain ⟨x, u⟩ := x
  cases x with
  | error e => cases h
  | ok v => exact ⟨v, rfl, (Except.ok.inj h).symm⟩

/-- How an errand ends: it fails, or it succeeds, and who has just signed in is saved with the settings of the
run. -/
theorem conclude_cases (json : Bool) (shown : String) (home : Home) (ready : Ready β) (errand : Errand) :
    let out := conclude json shown home ready errand
    let x := errand.hold ready.session
    (∃ c, x.1 = .error c ∧ out.ending = .failed ∧ out.home.settings = home.settings) ∨
      ∃ a, x.1 = .ok a ∧ out.ending = .finished ∧ out.log = x.2.log.reverse ∧
        out.home.settings = match a.newcomer? with
          | some username => some { ready.settings with lastUsername := some username }.save
          | none => home.settings := by
  simp only [conclude]
  generalize errand.hold ready.session = x
  obtain ⟨x, u⟩ := x
  cases x with
  | error c => exact .inl ⟨c, rfl, rfl, settings_keep _ _⟩
  | ok a =>
    refine .inr ⟨a, rfl, rfl, rfl, ?_⟩
    cases hnew : a.newcomer? with
    | none => simp only [hnew, settings_keep]
    | some username => simp only [hnew, remember]

/-- How a run of a command ends: it fails, or it succeeds and has not signed anybody in, or it succeeds and saves
the settings that it used with who has signed in. -/
inductive LeavesSettings (i : Invocation) (used : Settings) (start : Start) (out : Outcome β) : Prop where
  | failed (hending : out.ending = .failed) (hsettings : out.home.settings = start.home.settings)
  | kept (hentrance : i.command.entrance? = none) (hending : out.ending = .finished)
    (hsettings : out.home.settings = start.home.settings)
  | saved {e : Endpoint} (hentrance : i.command.entrance? = some e) (hending : out.ending = .finished)
    {c : Client} {refreshUrl : Url} (hconnect : connect used.apiUrl = .ok (c, refreshUrl))
    {entry : LogEntry} (hin : entry ∈ out.log) {s : SignIn}
    (hbrought : entry.Brings c.base "POST" e SignIn.decode s)
    (hsettings : out.home.settings = some { used with lastUsername := some s.user.username }.save)

theorem leavesSettings_conclude {i : Invocation} {start : Start} {environment : Environment} {ready : Ready β}
    (hready : Prepared i environment start.home ready) (shown : String) {errand : Errand}
    (h : Proceeds ready.client i.command.entrance? (.ok errand)) :
    LeavesSettings i ready.settings start (conclude i.json shown start.home ready errand) := by
  have hcases := conclude_cases i.json shown start.home ready errand
  generalize conclude i.json shown start.home ready errand = out at hcases
  obtain ⟨c, -, hending, hsettings⟩ | ⟨a, ha, hending, hlog, hsettings⟩ := hcases
  · exact .failed hending hsettings
  · cases h with
    | error hx => cases hx
    | other hentrance hnobody hx =>
      obtain rfl := Except.ok.inj hx
      have hnone := hnobody.hold ready.session
      rw [ha] at hnone
      cases hnone with
      | ok hnone =>
        rw [hnone] at hsettings
        exact .kept hentrance hending hsettings
    | enter hentrance hf hx =>
      rw [Except.ok.inj hx] at ha hlog
      obtain ⟨user, hheld, rfl⟩ := hold_toAnswer ha
      obtain ⟨es, hes, entry, hin, pair, hbrought⟩ :=
        brought_of_entered hready.connect hready.quiet (Command.names_entrance hentrance) _ hheld
      rw [hf user] at hsettings
      refine .saved hentrance hending hready.connect ?_ hbrought hsettings
      rw [hlog, hes]
      exact List.mem_reverse.mpr (List.mem_append_left _ hin)

theorem leavesSettings_run (b : β) {start : Start} {i : Invocation} {before : Settings}
    (hargs : Invocation.ofArguments start.arguments = .ok i)
    (hread : Settings.read start.home.settings = .ok before) :
    LeavesSettings i (used i (start.environment.withFile start.environmentFile) before) start (run start b) := by
  simp only [run, hargs]
  cases hprepare : prepare i (start.environment.withFile start.environmentFile) start.home b with
  | error e => exact .failed rfl rfl
  | ok ready =>
    have hready := prepared hprepare
    have hused : ready.settings = used i (start.environment.withFile start.environmentFile) before := by
      have hsettings := hready.settings
      rw [runSettings_eq, hread] at hsettings
      exact (Except.ok.inj hsettings).symm
    rw [← hused]
    have hproceeds := (proceeds_start ready.client ready.settings.lastUsername i.command).hold start.typed
    simp only [perform]
    generalize (i.command.start ready.client ready.settings.lastUsername).hold start.typed = x at hproceeds
    obtain ⟨x, shown⟩ := x
    cases x with
    | error c => exact .failed rfl rfl
    | ok errand => exact leavesSettings_conclude hready shown hproceeds

/-- Only a run that signs in changes the settings in the file, and it saves all that it used, a URL from elsewhere
among it. -/
theorem settings_after_run {start : Start} {i : Invocation} {before : Settings} (b : β)
    (hargs : Invocation.ofArguments start.arguments = .ok i)
    (hread : Settings.read start.home.settings = .ok before) :
    let held := used i (start.environment.withFile start.environmentFile) before
    let out := run start b
    let signedIn := out.ending = .finished ∧ i.command.entrance?.isSome = true
    (¬ signedIn → out.home.settings = start.home.settings) ∧
    (∀ e, i.command.entrance? = some e → out.ending = .finished → ∃ c refreshUrl,
      connect held.apiUrl = .ok (c, refreshUrl) ∧ ∃ entry ∈ out.log, ∃ s : SignIn,
        entry.Brings c.base "POST" e SignIn.decode s ∧
        Settings.read out.home.settings = .ok { held with lastUsername := some s.user.username }) ∧
    ∃ after, Settings.read out.home.settings = .ok after ∧
      after.storage = before.storage ∧ after.timeoutSeconds = before.timeoutSeconds ∧
      (after.lastUsername ≠ before.lastUsername → signedIn) ∧
      (after.apiUrl = before.apiUrl ↔ (signedIn → held.apiUrl = before.apiUrl)) := by
  intro held out signedIn
  have hleaves : LeavesSettings i held start out := leavesSettings_run b hargs hread
  clear_value out
  have hstays : ¬ signedIn → out.home.settings = start.home.settings →
      ∃ after, Settings.read out.home.settings = .ok after ∧
        after.storage = before.storage ∧ after.timeoutSeconds = before.timeoutSeconds ∧
        (after.lastUsername ≠ before.lastUsername → signedIn) ∧
        (after.apiUrl = before.apiUrl ↔ (signedIn → held.apiUrl = before.apiUrl)) := by
    intro hnot hsettings
    refine ⟨before, hsettings ▸ hread, rfl, rfl, fun hne => absurd rfl hne, ?_⟩
    exact ⟨fun _ h => absurd h hnot, fun _ => rfl⟩
  cases hleaves with
  | failed hending hsettings =>
    have hunfinished : out.ending ≠ .finished := by simp [hending]
    refine ⟨fun _ => hsettings, fun e _ hfinished => absurd hfinished hunfinished, ?_⟩
    exact hstays (fun h => hunfinished h.1) hsettings
  | kept hentrance hending hsettings =>
    have hnobody : ¬ signedIn := by simp [signedIn, hentrance]
    refine ⟨fun _ => hsettings, fun e he => ?_, hstays hnobody hsettings⟩
    cases hentrance.symm.trans he
  | @saved e hentrance hending c refreshUrl hconnect entry hin s hbrought hsettings =>
    have hsigned : signedIn := ⟨hending, by simp [hentrance]⟩
    have hsaved : Settings.read out.home.settings =
        .ok { held with lastUsername := some s.user.username } := by
      rw [hsettings, Settings.read_save]
    refine ⟨fun hnot => absurd hsigned hnot, fun d hd _ => ?_, _, hsaved, rfl, rfl, fun _ => hsigned, ?_⟩
    · cases hentrance.symm.trans hd
      exact ⟨c, refreshUrl, hconnect, entry, hin, s, hbrought, hsaved⟩
    · exact ⟨fun h _ => h, fun h => h hsigned⟩

/-- A run that signs in at a URL from the command line, over one in the file. -/
def overriddenStart : Start where
  arguments := ["login", "user", "--api-url", "http://api.test/v1"]
  environment := .empty
  environmentFile := none
  typed := ⟨[], ["secret"]⟩
  home :=
    let settings := "\x7b\"api_url\":\"http://file.test/api\",\"storage\":\"memory\"\x7d"
    ⟨some settings.toUTF8, .absent, ⟨[], false⟩⟩

/-- A backend that signs in whoever comes first. -/
def welcomingBackend : Replay :=
  let user := "\x7b\"id\":7,\"username\":\"User\"\x7d"
  let tokens := "\x7b\"accessToken\":\"A1\",\"refreshToken\":\"R1\"\x7d"
  .ofList [.ok ⟨200, some ("\x7b\"user\":" ++ user ++ ",\"tokens\":" ++ tokens ++ "\x7d").toUTF8⟩]

theorem settings_after_overridden_run :
    let i : Invocation := ⟨.login (some "user"), false, false, some "http://api.test/v1"⟩
    let before : Settings := ⟨"http://file.test/api", .memory, none, 30⟩
    let out := run overriddenStart welcomingBackend
    Invocation.ofArguments overriddenStart.arguments = .ok i ∧
      Settings.read overriddenStart.home.settings = .ok before ∧ out.ending = .finished ∧
      (∃ after, Settings.read out.home.settings = .ok after ∧ after.storage = before.storage ∧
        after.apiUrl ≠ before.apiUrl) := by
  intro i before out
  have hargs : Invocation.ofArguments overriddenStart.arguments = .ok i := by decide +kernel
  have hread : Settings.read overriddenStart.home.settings = .ok before := by decide +kernel
  have hending : out.ending = .finished := by decide +kernel
  have hother : (used i (overriddenStart.environment.withFile overriddenStart.environmentFile) before).apiUrl ≠
      before.apiUrl := by decide +kernel
  have hleaves := settings_after_run welcomingBackend hargs hread
  have hrun : run overriddenStart welcomingBackend = out := rfl
  rw [hrun] at hleaves
  -- What is left to show needs no more of the run than has been evaluated.
  clear_value out
  obtain ⟨-, -, after, hafter, hstorage, -, -, hurl⟩ := hleaves
  exact ⟨hargs, hread, hending, after, hafter, hstorage, fun hsame => hother (hurl.mp hsame ⟨hending, rfl⟩)⟩

/-- A run that registers, with the URL in a file that adds to the environment, and without settings. -/
def variableStart : Start where
  arguments := ["register", "user"]
  environment := .empty
  environmentFile := some "BANDMANAGER_API_URL=http://api.test/v1\n".toUTF8
  typed := ⟨[], ["secret", "secret"]⟩
  home := ⟨none, .absent, ⟨[], false⟩⟩

/-- The next run, without the variable, goes to the URL of the run that registered. -/
theorem override_is_made_permanent :
    let before := Settings.standard
    let out := run variableStart welcomingBackend
    let i : Invocation := ⟨.status, false, false, none⟩
    (Invocation.ofArguments variableStart.arguments).map (·.command.entrance?) = .ok (some .register) ∧
      Settings.read variableStart.home.settings = .ok before ∧ out.ending = .finished ∧
      Settings.read out.home.settings =
        .ok { before with apiUrl := "http://api.test/v1", lastUsername := some "User" } ∧
      (runSettings i .empty out.home).map Settings.apiUrl = .ok "http://api.test/v1" ∧
      before.apiUrl ≠ "http://api.test/v1" := by
  intro before out i
  obtain ⟨hending, hsaved⟩ : out.ending = .finished ∧ Settings.read out.home.settings =
      .ok { before with apiUrl := "http://api.test/v1", lastUsername := some "User" } := by decide +kernel
  refine ⟨by decide +kernel, rfl, hending, hsaved, ?_, by decide +kernel⟩
  rw [runSettings_eq, hsaved]
  rfl

end BandCatalog.Cli
