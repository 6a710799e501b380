import BandCatalog.Proofs.Cli.Remembering

/-!
# Which backend a run uses

The URL of the option counts before that of the variable, and that before the one in the settings. A variable that
is blank is passed over where settings are loaded, but a run takes it for the URL all the same, and as a blank text
is no URL the run cannot be started. Beside an option it does no harm.
-/
namespace BandCatalog

/-- No URL stands in a blank text. -/
theorem Url.base_of_blank {raw : String} (h : Text.isBlankText raw = true) :
    base raw = .error (.base raw .relativeWithoutBase) := by
  have hnothing : Text.trimmed raw = "" := by
    have hall : raw.toList.dropWhile Text.isBlank = [] :=
      List.dropWhile_eq_nil_iff.mpr (List.all_eq_true.mp h)
    simp [Text.trimmed, Text.trim, Text.trimStart, Text.trimEnd, hall]
  rw [base, hnothing]
  rfl

theorem Client.connect_of_blank {raw : String} (h : Text.isBlankText raw = true) :
    connect raw = .error (.base raw .relativeWithoutBase) := by
  rw [connect, Url.base_of_blank h]
  rfl

namespace Cli

/-- The variable that gives the backend's URL, as the run finds it: what is there already counts before what the file
adds. -/
def Start.environmentUrl (s : Start) : Option String :=
  (s.environment.withFile s.environmentFile).get? Settings.urlVariable

/-- The same start in another environment. -/
def Start.within (s : Start) (environment : Environment) (file : Option ByteArray) : Start :=
  { s with environment := environment, environmentFile := file }

/-- The URL that a run uses. -/
def backendUrl (option environment : Option String) (settings : Settings) : String :=
  (option.or environment).getD settings.apiUrl

/-- Beside an option the variable does not count. -/
@[simp] theorem backendUrl_option (url : String) (environment : Option String) (settings : Settings) :
    backendUrl (some url) environment settings = url := rfl

/-- The URL that it would use if a variable that is blank counted for none. -/
def unblankedUrl (option environment : Option String) (settings : Settings) : String :=
  backendUrl option (environment.filter fun v => !Text.isBlankText v) settings

/-- The two differ if there is no option, and the variable is blank, and the settings have another text for the URL. -/
theorem backendUrl_eq_iff (option environment : Option String) (settings : Settings) :
    backendUrl option environment settings = unblankedUrl option environment settings ↔
      option.isSome = true ∨ ∀ v, environment = some v → Text.isBlankText v = true → v = settings.apiUrl := by
  cases option with
  | some url => simp [unblankedUrl]
  | none =>
    cases environment with
    | none => simp [backendUrl, unblankedUrl]
    | some v =>
      cases h : Text.isBlankText v <;> simp [backendUrl, unblankedUrl, Option.filter, h]

/-- Why a run cannot be started if its settings have a blank text for the URL. The store is opened before the URL is
looked at. -/
def StartError.ofBlank (home : Home) (settings : Settings) : StartError :=
  match (Store.open? (home.vault settings.storage)).1 with
  | .error e => .store e
  | .ok _ => .address (.base settings.apiUrl .relativeWithoutBase)

section runs

variable {β : Type} {start : Start} {i : Invocation} {settings : Settings}

theorem runSettings_backendUrl (hread : Settings.read start.home.settings = .ok settings) :
    runSettings i (start.environment.withFile start.environmentFile) start.home =
      .ok { settings with apiUrl := backendUrl i.apiUrl start.environmentUrl settings } := by
  rw [runSettings_eq, hread]
  rfl

/-- Starts that use the same URL are one, whatever their environments. -/
theorem prepare_of_url {e e' : Environment} {home : Home} (b : β)
    (hread : Settings.read home.settings = .ok settings) (h : used i e settings = used i e' settings) :
    prepare i e home b = prepare i e' home b := by
  have hsettings : runSettings i e home = runSettings i e' home := by
    simp only [runSettings_eq, hread, Except.map, h]
  simp only [prepare, hsettings]

theorem prepare_of_blank {e : Environment} {home : Home} (b : β)
    (hsettings : runSettings i e home = .ok settings) (h : Text.isBlankText settings.apiUrl = true) :
    prepare i e home b = .error (.ofBlank home settings) := by
  simp only [prepare, StartError.ofBlank, hsettings, Bind.bind, Except.bind, Except.mapError]
  cases (Store.open? (home.vault settings.storage)).1 with
  | error x => rfl
  | ok store => simp only [Client.connect_of_blank h]

variable [Backend β]

theorem run_within (hargs : Invocation.ofArguments start.arguments = .ok i)
    (hread : Settings.read start.home.settings = .ok settings) {environment : Environment}
    {file : Option ByteArray}
    (hurl : backendUrl i.apiUrl (start.within environment file).environmentUrl settings =
      backendUrl i.apiUrl start.environmentUrl settings) (b : β) :
    run (start.within environment file) b = run start b := by
  have hused : used i (environment.withFile file) settings =
      used i (start.environment.withFile start.environmentFile) settings :=
    congrArg (fun url => { settings with apiUrl := url }) hurl
  simp only [run, Start.within, hargs, perform, prepare_of_url b hread hused]

theorem run_of_blank (hargs : Invocation.ofArguments start.arguments = .ok i)
    (hread : Settings.read start.home.settings = .ok settings) (hoption : i.apiUrl = none) {v : String}
    (hvariable : start.environmentUrl = some v) (hblank : Text.isBlankText v = true) (b : β) :
    run start b =
      ⟨.failed, "", (StartError.ofBlank start.home { settings with apiUrl := v }).text, start.home, b, []⟩ := by
  have hurl : backendUrl i.apiUrl start.environmentUrl settings = v := by rw [hoption, hvariable]; rfl
  have hsettings := runSettings_backendUrl (i := i) hread
  rw [hurl] at hsettings
  simp only [run, hargs, prepare_of_blank b hsettings hblank]

end runs

/-- The URL of a run is that of its option, its variable or its settings, in this order; without an option a blank
variable makes the run fail before it has done anything. -/
theorem url_of_run {β : Type} [Backend β] {start : Start} {i : Invocation} {settings : Settings} (b : β)
    (hargs : Invocation.ofArguments start.arguments = .ok i)
    (hread : Settings.read start.home.settings = .ok settings) :
    let url := backendUrl i.apiUrl start.environmentUrl settings
    runSettings i (start.environment.withFile start.environmentFile) start.home =
      .ok { settings with apiUrl := url } ∧
    (url = unblankedUrl i.apiUrl start.environmentUrl settings ↔ i.apiUrl.isSome = true ∨
      ∀ v, start.environmentUrl = some v → Text.isBlankText v = true → v = settings.apiUrl) ∧
    (∀ environment file, backendUrl i.apiUrl (start.within environment file).environmentUrl settings = url →
      run (start.within environment file) b = run start b) ∧
    ∀ v, i.apiUrl = none → start.environmentUrl = some v → Text.isBlankText v = true →
      run start b =
        ⟨.failed, "", (StartError.ofBlank start.home { settings with apiUrl := v }).text, start.home, b, []⟩ := by
  intro url
  refine ⟨runSettings_backendUrl hread, backendUrl_eq_iff _ _ _, ?_, ?_⟩
  · intro environment file hurl
    exact run_within hargs hread hurl b
  · intro v hoption hvariable hblank
    exact run_of_blank hargs hread hoption hvariable hblank b

/-- A run that asks who is signed in, with a URL in the settings and a variable that holds nothing. -/
def blankStart : Start where
  arguments := ["status"]
  environment := .ofList [("BANDMANAGER_API_URL", "")]
  environmentFile := none
  typed := ⟨[], []⟩
  home :=
    let settings := "\x7b\"storage\":\"file\",\"api_url\":\"http://api.test/api\"\x7d"
    ⟨some settings.toUTF8, .absent, ⟨[], false⟩⟩

theorem url_of_blank_run :
    let i : Invocation := ⟨.status, false, false, none⟩
    let settings : Settings := ⟨"http://api.test/api", .file, none, 30⟩
    Invocation.ofArguments blankStart.arguments = .ok i ∧
      Settings.read blankStart.home.settings = .ok settings ∧
      runSettings i (blankStart.environment.withFile none) blankStart.home =
        .ok { settings with apiUrl := "" } := by
  intro i settings
  have hargs : Invocation.ofArguments blankStart.arguments = .ok i := by decide +kernel
  have hread : Settings.read blankStart.home.settings = .ok settings := by decide +kernel
  obtain ⟨hsettings, -⟩ := url_of_run (Replay.ofList []) hargs hread
  have hurl : backendUrl i.apiUrl blankStart.environmentUrl settings = "" := by decide +kernel
  rw [hurl] at hsettings
  exact ⟨hargs, hread, hsettings⟩

/-- Without the variable the run says that nobody is signed in; with a blank one it says that there is no URL. -/
theorem blank_variable_overrides :
    let unset := run (blankStart.within .empty none) (Replay.ofList [])
    let blank := run blankStart (Replay.ofList [])
    Text.isBlankText "" = true ∧ blankStart.environmentUrl = some "" ∧
      (blankStart.within .empty none).environmentUrl = none ∧
      unset.ending = .finished ∧ unset.output = "Not signed in\n" ∧ unset.errors = "" ∧
      blank.ending = .failed ∧ blank.output = "" ∧
      blank.errors = "Error: Invalid API URL: \n\nCaused by:\n    relative URL without a base\n" := by
  decide +kernel

end Cli

end BandCatalog
