import Schemata.Program
import Schemata.Proofs.Layers

/-!
# A database URL beside a file of settings

A database URL takes the place of the connection string in the file, and the other settings
in the file are laid over it.  So the file fills in what the URL leaves open, but where both
speak of a part, the URL does not prevail (`run_url_overrides_file_iff`).
-/

namespace Schemata

namespace Settings

variable {settings : Settings} {info : ConnInfo} {part : ConnInfo.Part}

/-- A part is not left as the connection string gives it: a setting is added to it or says
something else, or the application name of the string is not the one that is filled in. -/
def Overrules (settings : Settings) (info : ConnInfo) (part : ConnInfo.Part) : Prop :=
  (∃ value, settings.given part = some value ∧ (part.AddsUp ∨ value ≠ info.get part)) ∨
    settings.given part = none ∧ part = .applicationName ∧
      info.applicationName ≠ some defaultApplicationName

/-- The connection string among the settings is none of the single settings. -/
theorem given_with_url (url : Option String) :
    ({ settings with url } : Settings).given part = settings.given part := by
  cases part <;> rfl

theorem laidOver_ne_left_of_addsUp (info : ConnInfo) {value : part.Value}
    (hgiven : settings.given part = some value) (hadds : part.AddsUp) :
    part.laidOver (info.get part) value ≠ info.get part := by
  rcases hadds with rfl | rfl | rfl
  · obtain ⟨host, -, rfl⟩ := Option.map_eq_some_iff.mp hgiven
    simp [ConnInfo.Part.laidOver]
  · cases hgiven
  · obtain ⟨port, -, rfl⟩ := Option.map_eq_some_iff.mp hgiven
    simp [ConnInfo.Part.laidOver]

theorem laidOver_of_not_addsUp {below above : part.Value} (hadds : ¬part.AddsUp) :
    part.laidOver below above = above := by
  cases part <;> simp_all [ConnInfo.Part.laidOver, ConnInfo.Part.AddsUp]

/-- A part that the connection string names stays as it is unless the settings overrule it. -/
theorem get_eq_iff_of_names (hnames : info.Names part) :
    (fillDefaults (settings.overlay info)).get part = info.get part ↔
      ¬settings.Overrules info part := by
  cases hgiven : settings.given part with
  | some value =>
    rw [get_of_given info hgiven, Overrules, hgiven]
    by_cases hadds : part.AddsUp
    · have hne := laidOver_ne_left_of_addsUp info hgiven hadds
      simp [hadds, hne]
    · simp [hadds, laidOver_of_not_addsUp hadds]
  | none =>
    by_cases hpart : part = .applicationName
    · subst hpart
      rw [get_of_unset hgiven (.inr rfl), Overrules, hgiven, eq_comm]
      simp [fallback, ConnInfo.get]
    · rw [get_of_unset_of_names hgiven hnames hpart, Overrules, hgiven]
      simp [hpart]

/-- A part that the connection string does not name is what a setting gives, if one does. -/
theorem get_of_not_names (hnames : ¬info.Names part) :
    (fillDefaults (settings.overlay info)).get part =
      (settings.given part).getD (fallback part) := by
  cases hgiven : settings.given part with
  | some value =>
    rw [get_of_given info hgiven, Option.getD_some]
    exact ConnInfo.Part.laidOver_eq_right_iff.mpr fun _ => hnames
  | none => rw [get_of_unset hgiven (.inl hnames), Option.getD_none]

end Settings

namespace Program

/-- The connection parameters that an invocation comes to. -/
def connInfo (place : Surroundings) (databaseUrl : Option String) :
    Except SettingsError ConnInfo :=
  (settings place databaseUrl).bind fun (settings, _) => settings.connInfo

/-- An invocation carries its command out over a connection by these parameters. -/
theorem run_of_connInfo {place : Surroundings} {invocation : Invocation} {info : ConnInfo}
    (hinfo : connInfo place invocation.databaseUrl = .ok info) (backend : Wire.Backend) :
    let client : Wire.Client := { info, network := place.network }
    let run := invocation.command.run client.server { backend }
    (Program.run place backend invocation).result = run.result.mapError Failure.command ∧
      (Program.run place backend invocation).backend = run.state.backend := by
  cases hsettings : settings place invocation.databaseUrl with
  | error error =>
    rw [connInfo, hsettings] at hinfo
    cases hinfo
  | ok found =>
    rw [connInfo, hsettings] at hinfo
    have hfound : found.1.connInfo = .ok info := hinfo
    simp [Program.run, hsettings, hfound]

/-- A database URL stands for the connection string in the file; the other settings in the file
are laid over it. -/
theorem connInfo_of_file {place : Surroundings} {file : Settings} {path : Option Path}
    {url : String} {info : ConnInfo}
    (hfile : Settings.loadOrDefault place.tree place.directory = .ok (file, path))
    (hurl : ConnInfo.parse url = .ok info) :
    connInfo place (some url) =
      .ok (Settings.fillDefaults (({ file with url := some url } : Settings).overlay info)) := by
  have hbase : ({ file with url := some url } : Settings).base = .ok info := hurl
  rw [connInfo, settings, hfile]
  exact Settings.connInfo_of_base hbase

/-- Where the file can be loaded and the database URL can be read, the command is carried out by
parameters that are settled part by part.  A part that the URL names is what the URL says, exactly
unless the settings in the file overrule it.  A part that the URL does not name is what the file
gives, and else the fallback. -/
theorem run_url_overrides_file_iff (place : Surroundings) (backend : Wire.Backend)
    (command : Command) {file : Settings} {path : Option Path} {url : String} {info : ConnInfo}
    (hfile : Settings.loadOrDefault place.tree place.directory = .ok (file, path))
    (hurl : ConnInfo.parse url = .ok info) :
    ∃ result, connInfo place (some url) = .ok result ∧
      (let client : Wire.Client := { info := result, network := place.network }
        let run := command.run client.server { backend }
        let outcome := Program.run place backend { command, databaseUrl := some url }
        outcome.result = run.result.mapError Failure.command ∧
          outcome.backend = run.state.backend) ∧
      ∀ part : ConnInfo.Part,
        (info.Names part →
          (result.get part = info.get part ↔ ¬file.Overrules info part)) ∧
        (¬info.Names part →
          result.get part = (file.given part).getD (Settings.fallback part)) := by
  have hinfo := connInfo_of_file hfile hurl
  have hgiven (part : ConnInfo.Part) :
      ({ file with url := some url } : Settings).given part = file.given part :=
    Settings.given_with_url (some url)
  refine ⟨_, hinfo, run_of_connInfo hinfo backend, ?_⟩
  intro part
  constructor
  · intro hnames
    rw [Settings.get_eq_iff_of_names hnames, Settings.Overrules, Settings.Overrules, hgiven]
  · intro hnames
    rw [Settings.get_of_not_names hnames, hgiven]

/-- Beside a file with a user and a database, a URL with a user and a host keeps its host and gets
the database, and the user is that of the file. -/
theorem run_url_overrides_file_but_user :
    let content := Text.Utf8.encode "user admin\ndatabase main\n".toList
    let tree : FileTree :=
      { entry := fun path => if path = Settings.fileName then some (.file (.ok content)) else none }
    let place : Surroundings := { tree, directory := [], network := .isolated }
    let file : Settings := { user := some "admin", database := some "main" }
    let info : ConnInfo :=
      { user := some "app", hosts := [.tcp "db.internal"], ports := [5432] }
    Settings.loadOrDefault place.tree place.directory = .ok (file, some Settings.fileName) ∧
      ConnInfo.parse "postgres://app@db.internal" = .ok info ∧
      ∃ result, connInfo place (some "postgres://app@db.internal") = .ok result ∧
        result.user ≠ info.user ∧ result.hosts = info.hosts ∧
        result.database = some "main" := by
  intro content tree place file info
  have hfile : Settings.loadOrDefault place.tree place.directory =
      .ok (file, some Settings.fileName) := rfl
  have hurl : ConnInfo.parse "postgres://app@db.internal" = .ok info := rfl
  obtain ⟨result, hresult, -, hparts⟩ :=
    run_url_overrides_file_iff place {} (.read "a") hfile hurl
  have hoverruled : file.Overrules info .user := .inl ⟨some "admin", rfl, .inr (by decide)⟩
  have hkept : ¬file.Overrules info .hosts := by
    rintro (⟨hosts, hgiven, -⟩ | ⟨-, hpart, -⟩)
    · cases hgiven
    · cases hpart
  have huser : result.user ≠ info.user := fun hsame =>
    ((hparts .user).1 (Option.some_ne_none _)).mp hsame hoverruled
  have hhosts := ((hparts .hosts).1 (List.cons_ne_nil _ _)).mpr hkept
  have hdatabase := (hparts .database).2 (fun hnames => hnames rfl)
  exact ⟨hfile, hurl, result, hresult, huser, hhosts, hdatabase⟩

/-- A host in the file joins the hosts that the database URL names, and then they are too many
for its address. -/
theorem file_host_joins_url_hosts :
    let content := Text.Utf8.encode "host c\n".toList
    let tree : FileTree :=
      { entry := fun path => if path = Settings.fileName then some (.file (.ok content)) else none }
    let place : Surroundings := { tree, directory := [], network := .isolated }
    let url := "host=a,b hostaddr=127.0.0.1"
    let misfit := ConnInfo.Misfit.countsDiffer 3 1
    (∃ info, ConnInfo.parse url = .ok info ∧ info.hosts = [.tcp "a", .tcp "b"]) ∧
      (∃ result, connInfo place (some url) = .ok result ∧
        result.hosts = [.tcp "a", .tcp "b", .tcp "c"]) ∧
      (run place {} { command := .read "s", databaseUrl := some url }).result =
        .error (.command (.operation (.connection (Wire.invalidConfiguration misfit.message)))) :=
  ⟨⟨_, rfl, rfl⟩, ⟨_, rfl, rfl⟩, rfl⟩

end Program

end Schemata
