import Mathlib.Tactic.ByContra
import Mathlib.Tactic.SplitIfs
import Mathlib.Tactic.Tauto
import Schemata.Proofs.Layers
import Schemata.Proofs.Opening

/-!
# Settings over a usable connection string

Connection parameters are usable if their hosts, addresses and ports are as many as have to be;
a client refuses all others before any contact (`Wire.Client.connect_of_misfit`).  Settings that
are laid over a usable string can only add to its hosts and ports, and nothing compares the
numbers afterwards.  So the string stays usable unless what is added upsets them, and if it does,
this shows no sooner than when a session is opened (`layered_settings_usable_iff`).
-/

namespace Schemata

namespace ConnInfo

/-- There is a server; hosts and addresses, if there are both, are as many; and there is one port
at most, or one for each server. -/
structure IsUsable (info : ConnInfo) : Prop where
  server : info.hosts ≠ [] ∨ info.addresses ≠ []
  pairs : info.hosts ≠ [] → info.addresses ≠ [] → info.hosts.length = info.addresses.length
  ports : info.ports.length ≤ 1 ∨ info.ports.length = info.serverCount

variable {info : ConnInfo}

theorem serverCount_eq_zero_iff :
    info.serverCount = 0 ↔ info.hosts = [] ∧ info.addresses = [] := by
  unfold serverCount
  split_ifs with hhosts
  · simp [hhosts]
  · simp [hhosts]

/-- The client finds nothing wrong with usable parameters, and something with all others. -/
theorem misfit?_eq_none_iff : info.misfit? = none ↔ info.IsUsable := by
  unfold misfit?
  constructor
  · intro h
    split_ifs at h with hcount hpairs hports
    rw [serverCount_eq_zero_iff] at hcount
    exact ⟨by tauto, by tauto, by omega⟩
  · rintro ⟨hserver, hpairs, hports⟩
    have hcount : info.serverCount ≠ 0 := by
      rw [Ne, serverCount_eq_zero_iff]
      tauto
    rw [if_neg hcount, if_neg (by tauto), if_neg (by omega)]

theorem exists_misfit (h : ¬info.IsUsable) : ∃ misfit, info.misfit? = some misfit := by
  rw [← misfit?_eq_none_iff] at h
  exact Option.ne_none_iff_exists'.mp h

/-- Where hosts are given, all depends on how many they are. -/
theorem isUsable_iff_of_hosts (hhosts : info.hosts ≠ []) :
    info.IsUsable ↔
      (info.addresses ≠ [] → info.hosts.length = info.addresses.length) ∧
        (info.ports.length ≤ 1 ∨ info.ports.length = info.hosts.length) := by
  have hcount : info.serverCount = info.hosts.length := if_neg hhosts
  constructor
  · intro h
    exact ⟨h.pairs hhosts, hcount ▸ h.ports⟩
  · rintro ⟨hpairs, hports⟩
    exact ⟨.inl hhosts, fun _ => hpairs, hcount ▸ hports⟩

end ConnInfo

namespace Settings

variable {settings : Settings} {info : ConnInfo}

/-! ## The numbers after layering -/

theorem hosts_layered_ne_nil : (fillDefaults (settings.overlay info)).hosts ≠ [] := by
  simp only [fillDefaults]
  split_ifs with hhosts
  · exact List.cons_ne_nil _ _
  · exact hhosts

theorem length_hosts_layered :
    (fillDefaults (settings.overlay info)).hosts.length =
      max 1 (info.hosts.length + settings.host.toList.length) := by
  have hlength : (settings.overlay info).hosts.length =
      info.hosts.length + settings.host.toList.length := by
    rw [overlay, List.length_append]
    cases settings.host <;> rfl
  rw [← hlength, fillDefaults]
  cases (settings.overlay info).hosts with
  | nil => rfl
  | cons host rest => simp

theorem addresses_layered :
    (fillDefaults (settings.overlay info)).addresses = info.addresses := rfl

theorem length_ports_layered :
    (fillDefaults (settings.overlay info)).ports.length =
      info.ports.length + settings.port.toList.length :=
  List.length_append

/-! ## What upsets them -/

/-- What makes a usable string unusable. -/
inductive Upsets (settings : Settings) (info : ConnInfo) : Prop
  /-- One host more than there are addresses. -/
  | hostBesidePairs (haddresses : info.addresses ≠ []) (hhosts : info.hosts ≠ [])
    (hhost : settings.host ≠ none)
  /-- One host, be it the local one, for several addresses without any. -/
  | hostForAddresses (hhosts : info.hosts = []) (haddresses : 1 < info.addresses.length)
  /-- One host more than there are ports. -/
  | hostWithoutPort (hports : 1 < info.ports.length) (hhost : settings.host ≠ none)
    (hport : settings.port = none)
  /-- One port more, and then they are several and not as many as the hosts. -/
  | portBesidePorts (hports : info.ports ≠ []) (hport : settings.port ≠ none)
    (hhosts : info.ports.length + 1 ≠ info.hosts.length + settings.host.toList.length)

theorem length_toList_of_ne_none {α : Type} {value : Option α} (h : value ≠ none) :
    value.toList.length = 1 := by
  rw [Option.length_toList, if_pos (Option.isSome_iff_ne_none.mpr h)]

theorem Upsets.not_isUsable (h : settings.Upsets info) (husable : info.IsUsable) :
    ¬(fillDefaults (settings.overlay info)).IsUsable := by
  rw [ConnInfo.isUsable_iff_of_hosts hosts_layered_ne_nil, length_hosts_layered,
    addresses_layered, length_ports_layered]
  rintro ⟨hpairs, hports⟩
  have hone := settings.host.length_toList_le
  cases h with
  | hostBesidePairs haddresses hhosts hhost =>
    have hbefore := husable.pairs hhosts haddresses
    have hafter := hpairs haddresses
    have hadded := length_toList_of_ne_none hhost
    omega
  | hostForAddresses hhosts haddresses =>
    have hafter := hpairs (List.ne_nil_of_length_pos (by omega))
    rw [hhosts, List.length_nil] at hafter
    omega
  | hostWithoutPort hseveral hhost hport =>
    have hadded := length_toList_of_ne_none hhost
    rw [hport, Option.toList_none, List.length_nil] at hports
    by_cases hhosts : info.hosts = []
    · -- Without hosts there are as many addresses as ports, and so more than the one host.
      have hcount : info.serverCount = info.addresses.length := if_pos hhosts
      have hbefore := husable.ports
      have hafter := hpairs (List.ne_nil_of_length_pos (by omega))
      rw [hhosts, List.length_nil] at hafter
      omega
    · have hcount : info.serverCount = info.hosts.length := if_neg hhosts
      have hbefore := husable.ports
      omega
  | portBesidePorts hsome hport hhosts =>
    have hadded := length_toList_of_ne_none hport
    have hpos := List.length_pos_iff.mpr hsome
    omega

section

variable (husable : info.IsUsable) (hcalm : ¬settings.Upsets info)
include husable hcalm

/-- What does not upset the string leaves a host for each address. -/
theorem pairs_layered (haddresses : info.addresses ≠ []) :
    max 1 (info.hosts.length + settings.host.toList.length) = info.addresses.length := by
  have hpos := List.length_pos_iff.mpr haddresses
  by_cases hhosts : info.hosts = []
  · have hsingle : ¬1 < info.addresses.length := by
      intro hmore
      exact hcalm (.hostForAddresses hhosts hmore)
    have hone := settings.host.length_toList_le
    rw [hhosts, List.length_nil]
    omega
  · have hhost : settings.host = none := by
      by_contra hhost
      exact hcalm (.hostBesidePairs haddresses hhosts hhost)
    have hbefore := husable.pairs hhosts haddresses
    rw [hhost, Option.toList_none, List.length_nil]
    omega

/-- Several ports are left alone together with their hosts. -/
theorem ports_layered_of_no_port (hport : settings.port = none) :
    info.ports.length ≤ 1 ∨
      info.ports.length = max 1 (info.hosts.length + settings.host.toList.length) := by
  by_cases hseveral : 1 < info.ports.length
  · have hhost : settings.host = none := by
      by_contra hhost
      exact hcalm (.hostWithoutPort hseveral hhost hport)
    have hbefore := husable.ports
    have hhosts : info.hosts ≠ [] := by
      intro hhosts
      have hcount : info.serverCount = info.addresses.length := if_pos hhosts
      exact hcalm (.hostForAddresses hhosts (by omega))
    have hcount : info.serverCount = info.hosts.length := if_neg hhosts
    rw [hhost, Option.toList_none, List.length_nil]
    omega
  · exact .inl (Nat.not_lt.mp hseveral)

theorem isUsable_layered : (fillDefaults (settings.overlay info)).IsUsable := by
  rw [ConnInfo.isUsable_iff_of_hosts hosts_layered_ne_nil, length_hosts_layered,
    addresses_layered, length_ports_layered]
  constructor
  · exact pairs_layered husable hcalm
  · by_cases hport : settings.port = none
    · rw [hport, Option.toList_none, List.length_nil]
      exact ports_layered_of_no_port husable hcalm hport
    · have hadded := length_toList_of_ne_none hport
      by_cases hsome : info.ports = []
      · rw [hsome, List.length_nil]
        omega
      · have hhosts : info.ports.length + 1 = info.hosts.length + settings.host.toList.length := by
          by_contra hhosts
          exact hcalm (.portBesidePorts hsome hport hhosts)
        omega

end

/-- Where there is no string, the settings alone are usable. -/
theorem isUsable_layered_empty : (fillDefaults (settings.overlay {})).IsUsable := by
  rw [ConnInfo.isUsable_iff_of_hosts hosts_layered_ne_nil, addresses_layered,
    length_ports_layered]
  exact ⟨fun haddresses => absurd rfl haddresses, .inl (by simp)⟩

theorem not_upsets_empty : ¬settings.Upsets {} := by
  intro h
  cases h with
  | hostBesidePairs haddresses hhosts hhost => exact hhosts rfl
  | hostForAddresses hhosts haddresses => simp at haddresses
  | hostWithoutPort hseveral hhost hport => simp at hseveral
  | portBesidePorts hsome hport hhosts => exact hsome rfl

theorem isUsable_layered_iff (hbase : settings.base = .ok info)
    (husable : settings.url = none ∨ info.IsUsable) :
    (fillDefaults (settings.overlay info)).IsUsable ↔ ¬settings.Upsets info := by
  rcases husable with hurl | husable
  · rw [base, hurl] at hbase
    cases hbase
    exact iff_of_true isUsable_layered_empty not_upsets_empty
  · constructor
    · intro hlayered hupsets
      exact hupsets.not_isUsable husable hlayered
    · exact isUsable_layered husable

/-! ## The result -/

/-- Where there is no connection string, or a usable one, the settings come to connection
parameters without any complaint.  These are usable unless the settings upset the string; and if
they do, no session can be opened, and it is the client that says so, before any contact. -/
theorem layered_settings_usable_iff (settings : Settings) {info : ConnInfo}
    (hbase : settings.base = .ok info) (husable : settings.url = none ∨ info.IsUsable) :
    ∃ result, settings.connInfo = .ok result ∧ (result.IsUsable ↔ ¬settings.Upsets info) ∧
      (settings.Upsets info → ∃ misfit : ConnInfo.Misfit,
        ∀ client : Wire.Client, client.info = result → ∀ link, client.connect link =
          { reply := .error (Wire.invalidConfiguration misfit.message), state := link }) := by
  have hiff := isUsable_layered_iff hbase husable
  refine ⟨_, connInfo_of_base hbase, hiff, ?_⟩
  intro hupsets
  have hunusable : ¬(fillDefaults (settings.overlay info)).IsUsable :=
    fun hlayered => hiff.mp hlayered hupsets
  obtain ⟨misfit, hmisfit⟩ := ConnInfo.exists_misfit hunusable
  refine ⟨misfit, ?_⟩
  intro client hinfo link
  exact Wire.Client.connect_of_misfit (hinfo ▸ hmisfit) link

/-- A host and a port join two hosts with a port each. -/
theorem layered_settings_usable_three_pairs :
    let settings : Settings :=
      { url := some "host=a,b port=5433,5434", host := some "c", port := some 5435 }
    let info : ConnInfo := { hosts := [.tcp "a", .tcp "b"], ports := [5433, 5434] }
    settings.base = .ok info ∧ info.IsUsable ∧
      ∃ result, settings.connInfo = .ok result ∧ result.IsUsable := by
  intro settings info
  have hbase : settings.base = .ok info := rfl
  have husable : info.IsUsable := ConnInfo.misfit?_eq_none_iff.mp rfl
  obtain ⟨result, hresult, hiff, -⟩ := layered_settings_usable_iff settings hbase (.inr husable)
  have hcalm : ¬settings.Upsets info := by
    intro h
    cases h with
    | hostBesidePairs haddresses hhosts hhost => exact haddresses rfl
    | hostForAddresses hhosts haddresses => simp [info] at hhosts
    | hostWithoutPort hseveral hhost hport => simp [settings] at hport
    | portBesidePorts hsome hport hhosts => exact hhosts rfl
  exact ⟨hbase, husable, result, hresult, hiff.mpr hcalm⟩

/-- A third host beside two pairs of a host and an address is accepted, and no session can be
opened any more. -/
theorem setting_host_upsets_pairs :
    let settings : Settings :=
      { url := some "host=a,b hostaddr=127.0.0.1,127.0.0.2", host := some "c" }
    ∃ info result, settings.base = .ok info ∧ info.IsUsable ∧
      settings.connInfo = .ok result ∧ ¬result.IsUsable := by
  intro settings
  let info : ConnInfo :=
    { hosts := [.tcp "a", .tcp "b"], addresses := [.v4 [127, 0, 0, 1], .v4 [127, 0, 0, 2]] }
  have hbase : settings.base = .ok info := rfl
  have husable : info.IsUsable := ConnInfo.misfit?_eq_none_iff.mp rfl
  have hmisfit : (fillDefaults (settings.overlay info)).misfit? = some (.countsDiffer 3 2) := rfl
  refine ⟨info, _, hbase, husable, connInfo_of_base hbase, ?_⟩
  rw [← ConnInfo.misfit?_eq_none_iff, hmisfit]
  exact Option.some_ne_none _

end Settings

end Schemata
