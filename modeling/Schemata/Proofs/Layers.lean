import Schemata.Settings

/-!
# Settings over a connection string

Connection parameters have parts, and a connection string names a part when it leaves it
otherwise than the empty string does.  What becomes of each part is said for all parts at
once.  A part that a setting gives holds as given, but hosts and ports are added to those of
the string (`setting_overrides_iff`).  A part that no setting gives survives if the string
names it and is filled in if not; only the application name is filled in either way
(`unset_part_survives_iff`).
-/

namespace Schemata

namespace ConnInfo

inductive Part where
  | user
  | password
  | database
  | options
  | applicationName
  | sslMode
  | hosts
  | addresses
  | ports
  | connectTimeout
  | keepalives
  | keepalivesIdle
  | sessionTarget
deriving DecidableEq, Repr

namespace Part

/-- The values that a part can have. -/
abbrev Value : Part → Type
  | .user | .database | .options | .applicationName => Option String
  | .password => Option (List UInt8)
  | .sslMode => SslMode
  | .hosts => List ServerHost
  | .addresses => List IpAddress
  | .ports => List UInt16
  | .connectTimeout => Option UInt64
  | .keepalives => Bool
  | .keepalivesIdle => UInt64
  | .sessionTarget => SessionTarget

/-- The parts that are lists, to which a new value is added. -/
def AddsUp (part : Part) : Prop :=
  part = .hosts ∨ part = .addresses ∨ part = .ports

/-- A value given over another one: lists add up, else the new one holds. -/
def laidOver : (part : Part) → (below above : part.Value) → part.Value
  | .hosts, below, above => below ++ above
  | .addresses, below, above => below ++ above
  | .ports, below, above => below ++ above
  | .user, _, above => above
  | .password, _, above => above
  | .database, _, above => above
  | .options, _, above => above
  | .applicationName, _, above => above
  | .sslMode, _, above => above
  | .connectTimeout, _, above => above
  | .keepalives, _, above => above
  | .keepalivesIdle, _, above => above
  | .sessionTarget, _, above => above

end Part

/-- A part of connection parameters. -/
def get (info : ConnInfo) : (part : Part) → part.Value
  | .user => info.user
  | .password => info.password
  | .database => info.database
  | .options => info.options
  | .applicationName => info.applicationName
  | .sslMode => info.sslMode
  | .hosts => info.hosts
  | .addresses => info.addresses
  | .ports => info.ports
  | .connectTimeout => info.connectTimeout
  | .keepalives => info.keepalives
  | .keepalivesIdle => info.keepalivesIdle
  | .sessionTarget => info.sessionTarget

/-- Nothing but the parts tells connection parameters apart. -/
theorem ext_get {first second : ConnInfo} (h : ∀ part, first.get part = second.get part) :
    first = second := by
  cases first
  cases second
  rw [mk.injEq]
  exact ⟨h .user, h .password, h .database, h .options, h .applicationName, h .sslMode, h .hosts,
    h .addresses, h .ports, h .connectTimeout, h .keepalives, h .keepalivesIdle, h .sessionTarget⟩

/-- The part is not as an empty connection string leaves it. -/
def Names (info : ConnInfo) (part : Part) : Prop :=
  info.get part ≠ ({} : ConnInfo).get part

namespace Part

/-- Laid over a value, a value that is not empty holds by itself exactly if it does not add up or
finds nothing below. -/
theorem laidOver_eq_right_iff {part : Part} {info : ConnInfo} {value : part.Value} :
    part.laidOver (info.get part) value = value ↔ (part.AddsUp → ¬info.Names part) := by
  cases part <;> simp [laidOver, AddsUp, Names, get]

end Part

end ConnInfo

namespace Settings

variable {settings : Settings} {part : ConnInfo.Part}

/-- What the single settings give to a part, whatever the connection string among them says. -/
def given (settings : Settings) : (part : ConnInfo.Part) → Option part.Value
  | .user => settings.user.map some
  | .password => settings.password.map fun password => some (Text.Utf8.encode password.toList)
  | .database => settings.database.map some
  | .applicationName => settings.applicationName.map some
  | .hosts => settings.host.map fun host => [ServerHost.ofText host.toList]
  | .ports => settings.port.map fun port => [port]
  | .connectTimeout => settings.connectTimeoutSecs.map some
  | .options => none
  | .sslMode => none
  | .addresses => none
  | .keepalives => none
  | .keepalivesIdle => none
  | .sessionTarget => none

/-- What a part is when nothing names it. -/
def fallback : (part : ConnInfo.Part) → part.Value
  | .user => some "postgres"
  | .applicationName => some defaultApplicationName
  | .hosts => [.tcp "localhost"]
  | part => ({} : ConnInfo).get part

theorem connInfo_of_base {info : ConnInfo} (hbase : settings.base = .ok info) :
    settings.connInfo = .ok (fillDefaults (settings.overlay info)) := by
  rw [connInfo, hbase]

/-! ## The two layers -/

section

variable (info : ConnInfo)

theorem get_overlay_of_given {value : part.Value} (hgiven : settings.given part = some value) :
    (settings.overlay info).get part = part.laidOver (info.get part) value := by
  cases part with
  | options | sslMode | addresses | keepalives | keepalivesIdle | sessionTarget => cases hgiven
  | user | password | database | applicationName | hosts | ports | connectTimeout =>
    obtain ⟨given, hset, rfl⟩ := Option.map_eq_some_iff.mp hgiven
    simp [ConnInfo.get, ConnInfo.Part.laidOver, overlay, hset]

theorem get_overlay_of_unset (hgiven : settings.given part = none)
    (hpart : part ≠ .applicationName) : (settings.overlay info).get part = info.get part := by
  cases part with
  | applicationName => exact absurd rfl hpart
  | options | sslMode | addresses | keepalives | keepalivesIdle | sessionTarget => rfl
  | user | password | database | hosts | ports | connectTimeout =>
    have hset := Option.map_eq_none_iff.mp hgiven
    simp [ConnInfo.get, overlay, hset]

/-- The application name is laid over the string even when no setting gives one. -/
theorem applicationName_overlay_of_unset (hgiven : settings.given .applicationName = none) :
    (settings.overlay info).applicationName = some defaultApplicationName := by
  have hset := Option.map_eq_none_iff.mp hgiven
  rw [overlay, hset, Option.getD_none]

/-- A part that a setting gives is named from then on. -/
theorem names_overlay_of_given {value : part.Value} (hgiven : settings.given part = some value) :
    (settings.overlay info).Names part := by
  rw [ConnInfo.Names, get_overlay_of_given info hgiven]
  cases part with
  | options | sslMode | addresses | keepalives | keepalivesIdle | sessionTarget => cases hgiven
  | user | password | database | applicationName | hosts | ports | connectTimeout =>
    obtain ⟨given, -, rfl⟩ := Option.map_eq_some_iff.mp hgiven
    simp [ConnInfo.get, ConnInfo.Part.laidOver]

end

section

variable {info : ConnInfo}

theorem get_fillDefaults_of_names (hnames : info.Names part) :
    (fillDefaults info).get part = info.get part := by
  cases part with
  | user =>
    obtain ⟨user, hget⟩ := Option.ne_none_iff_exists'.mp hnames
    have huser : info.user = some user := hget
    simp [ConnInfo.get, fillDefaults, huser]
  | hosts => exact if_neg hnames
  | password | database | options | applicationName | sslMode | addresses | ports
  | connectTimeout | keepalives | keepalivesIdle | sessionTarget => rfl

theorem get_fillDefaults_of_unnamed (hnames : ¬info.Names part)
    (hpart : part ≠ .applicationName) : (fillDefaults info).get part = fallback part := by
  have hget : info.get part = ({} : ConnInfo).get part := Classical.not_not.mp hnames
  cases part with
  | applicationName => exact absurd rfl hpart
  | user =>
    have huser : info.user = none := hget
    simp [ConnInfo.get, fillDefaults, fallback, huser]
  | hosts => exact if_pos hget
  | password | database | options | sslMode | addresses | ports
  | connectTimeout | keepalives | keepalivesIdle | sessionTarget => exact hget

end

/-! ## Both layers together -/

theorem get_of_given (info : ConnInfo) {value : part.Value}
    (hgiven : settings.given part = some value) :
    (fillDefaults (settings.overlay info)).get part = part.laidOver (info.get part) value := by
  rw [get_fillDefaults_of_names (names_overlay_of_given info hgiven),
    get_overlay_of_given info hgiven]

theorem get_of_unset_of_names {info : ConnInfo} (hgiven : settings.given part = none)
    (hnames : info.Names part) (hpart : part ≠ .applicationName) :
    (fillDefaults (settings.overlay info)).get part = info.get part := by
  have hget := get_overlay_of_unset info hgiven hpart
  have hkept : (settings.overlay info).Names part := by
    rw [ConnInfo.Names, hget]
    exact hnames
  rw [get_fillDefaults_of_names hkept, hget]

/-- Where nothing names a part, and for the application name always, there is the fallback. -/
theorem get_of_unset {info : ConnInfo} (hgiven : settings.given part = none)
    (hfree : ¬info.Names part ∨ part = .applicationName) :
    (fillDefaults (settings.overlay info)).get part = fallback part := by
  by_cases hpart : part = .applicationName
  · subst hpart
    exact applicationName_overlay_of_unset info hgiven
  · have hnames : ¬(settings.overlay info).Names part := by
      rw [ConnInfo.Names, get_overlay_of_unset info hgiven hpart]
      exact hfree.resolve_right hpart
    exact get_fillDefaults_of_unnamed hnames hpart

/-! ## What the settings come to -/

/-- Where the connection string can be read, every part that a setting gives is laid over what
the string says of it.  So it is what the setting says, exactly unless it adds up and the
string names it as well. -/
theorem setting_overrides_iff (settings : Settings) {info : ConnInfo}
    (hbase : settings.base = .ok info) :
    ∃ result, settings.connInfo = .ok result ∧
      ∀ (part : ConnInfo.Part) (value : part.Value), settings.given part = some value →
        result.get part = part.laidOver (info.get part) value ∧
          (result.get part = value ↔ (part.AddsUp → ¬info.Names part)) := by
  refine ⟨_, connInfo_of_base hbase, ?_⟩
  intro part value hgiven
  have hget := get_of_given info hgiven
  refine ⟨hget, ?_⟩
  rw [hget]
  exact ConnInfo.Part.laidOver_eq_right_iff

/-- Over a string with a user and a port, a user replaces and a port is added. -/
theorem setting_overrides_user_and_joins_port :
    let settings : Settings :=
      { url := some "postgres://app@db.internal:6543/main"
        user := some "admin"
        port := some 5433 }
    let info : ConnInfo :=
      { user := some "app"
        database := some "main"
        hosts := [.tcp "db.internal"]
        ports := [6543] }
    settings.base = .ok info ∧
      ∃ result, settings.connInfo = .ok result ∧ result.user = some "admin" ∧
        result.ports = [6543, 5433] := by
  intro settings info
  have hbase : settings.base = .ok info := rfl
  obtain ⟨result, hresult, hparts⟩ := setting_overrides_iff settings hbase
  have huser := (hparts .user (some "admin") rfl).2.mpr (by simp [ConnInfo.Part.AddsUp])
  have hports := (hparts .ports [5433] rfl).1
  exact ⟨hbase, result, hresult, huser, hports⟩

/-- A host that a setting gives is not the only one when the string names one. -/
theorem setting_host_joins_string_host :
    let settings : Settings :=
      { url := some "postgres://app@db.internal:6543/main", host := some "replica" }
    settings.given .hosts = some [.tcp "replica"] ∧
      ∃ result, settings.connInfo = .ok result ∧
        result.get .hosts = [.tcp "db.internal", .tcp "replica"] ∧
        result.get .hosts ≠ [.tcp "replica"] :=
  ⟨rfl, _, rfl, rfl, by decide⟩

/-- Where the connection string can be read, a part that it names and no setting gives is what
the string says, exactly unless it is an application name other than the one filled in.  The
fallbacks are for the parts that neither names, and for the application name. -/
theorem unset_part_survives_iff (settings : Settings) {info : ConnInfo}
    (hbase : settings.base = .ok info) :
    ∃ result, settings.connInfo = .ok result ∧
      ∀ part : ConnInfo.Part, settings.given part = none →
        (info.Names part →
          (result.get part = info.get part ↔
            (part = .applicationName → info.applicationName = some defaultApplicationName))) ∧
        (¬info.Names part ∨ part = .applicationName → result.get part = fallback part) := by
  refine ⟨_, connInfo_of_base hbase, ?_⟩
  intro part hgiven
  refine ⟨?_, get_of_unset hgiven⟩
  intro hnames
  by_cases hpart : part = .applicationName
  · subst hpart
    rw [get_of_unset hgiven (.inr rfl)]
    constructor
    · intro heq _
      exact heq.symm
    · intro hsame
      exact (hsame rfl).symm
  · have hget := get_of_unset_of_names hgiven hnames hpart
    exact ⟨fun _ h => absurd h hpart, fun _ => hget⟩

/-- Beside a password of their own, the settings leave the user and the timeout of the string
and fill in the application name. -/
theorem unset_parts_survive_beside_password :
    let settings : Settings :=
      { url := some "postgres://app@db.internal?connect_timeout=5", password := some "secret" }
    let info : ConnInfo :=
      { user := some "app"
        hosts := [.tcp "db.internal"]
        ports := [5432]
        connectTimeout := some 5 }
    settings.base = .ok info ∧
      ∃ result, settings.connInfo = .ok result ∧ result.user = some "app" ∧
        result.connectTimeout = some 5 ∧ result.applicationName = some "pgschema" := by
  intro settings info
  have hbase : settings.base = .ok info := rfl
  obtain ⟨result, hresult, hparts⟩ := unset_part_survives_iff settings hbase
  have huser := ((hparts .user rfl).1 (Option.some_ne_none _)).mpr nofun
  have htimeout := ((hparts .connectTimeout rfl).1 (Option.some_ne_none _)).mpr nofun
  have hname := (hparts .applicationName rfl).2 (.inr rfl)
  exact ⟨hbase, result, hresult, huser, htimeout, hname⟩

/-- An application name that only the string names is lost. -/
theorem application_name_of_string_is_lost :
    let settings : Settings :=
      { url := some "postgres://app@db.internal/main?application_name=reports" }
    settings.given .applicationName = none ∧
      ∃ info, settings.base = .ok info ∧ info.applicationName = some "reports" ∧
        ∃ result, settings.connInfo = .ok result ∧
          result.applicationName = some "pgschema" ∧
          result.applicationName ≠ info.applicationName :=
  ⟨rfl, _, rfl, rfl, _, rfl, rfl, by decide⟩

end Settings

end Schemata
