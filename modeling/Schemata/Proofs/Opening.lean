import Mathlib.Tactic.SplitIfs
import Schemata.Wire.Client

/-!
# Opening a connection

What a client does to get a connection is told without its functions: which messages a server
that was reached gets, and what comes of each way to receive the client (`TakesAdmission`,
`Client.Enters`), and how the client goes on to the next endpoint after a failure
(`Client.Tries`).  The client goes this way (`Client.tries_tryEndpoints`); and whatever comes of
it, nothing but messages that open a connection is sent, and the answers prepared for statements
and lookups stay as they are (`Client.Tries.opening`).
-/

namespace Schemata.Wire

/-! ## What comes of an attempt -/

/-- How the answer to the wish to be let in is taken. -/
inductive TakesVerdict : Outcome Unit → Except Fault Unit → Prop
  | accepted : TakesVerdict (.complete ()) (.ok ())
  | refused (report : ErrorReport) : TakesVerdict (.fail report) (.error (reported report))
  | lost : TakesVerdict .hangUp (.error connectionClosed)

/-- What an admission gives a client with a password or without: the messages that the server
gets after the parameters, and what comes of it. -/
inductive TakesAdmission (password : Option (List UInt8)) :
    Admission → List Message → Except Fault Unit → Prop
  | unasked {verdict : Outcome Unit} {reply : Except Fault Unit}
      (hreply : TakesVerdict verdict reply) :
    TakesAdmission password { asksPassword := false, verdict } [] reply
  | missing (verdict : Outcome Unit) (hpassword : password = none) :
    TakesAdmission password { asksPassword := true, verdict } []
      (.error (invalidConfiguration "password missing"))
  | unsendable {bytes : List UInt8} (verdict : Outcome Unit) (hpassword : password = some bytes)
      (htext : sendable (String.ofList (Text.Utf8.decodeLenient bytes)) = false) :
    TakesAdmission password { asksPassword := true, verdict } [] (.error unsendable)
  | asked {bytes : List UInt8} {text : String} {verdict : Outcome Unit}
      {reply : Except Fault Unit} (hpassword : password = some bytes)
      (htext : text = String.ofList (Text.Utf8.decodeLenient bytes))
      (hsendable : sendable text = true) (hreply : TakesVerdict verdict reply) :
    TakesAdmission password { asksPassword := true, verdict } [.password text] reply

/-- What comes of asking a server that was reached to be let in, with the messages sent for it.
It takes the next admission, unless the parameters are not sent at all. -/
inductive Client.Enters (client : Client) :
    Backend → List Message → Except Fault Unit → Backend → Prop
  | notEncrypted {backend : Backend} (hmode : client.info.sslMode = .require) :
    Enters client backend [] (.error notEncrypted) backend
  | unsendable {backend : Backend} (hmode : client.info.sslMode ≠ .require)
      (hparameters : ∃ parameter ∈ client.startupParameters, sendable parameter.2 = false) :
    Enters client backend [] (.error unsendable) backend
  | received {backend after : Backend} {admission : Admission} {messages : List Message}
      {reply : Except Fault Unit} (hmode : client.info.sslMode ≠ .require)
      (hparameters : ∀ parameter ∈ client.startupParameters, sendable parameter.2 = true)
      (hadmission : admission = backend.admissions.headD .accept)
      (hreply : TakesAdmission client.info.password admission messages reply)
      (hafter : after =
        { backend.receive (.startup client.startupParameters :: messages) with
          admissions := backend.admissions.tail }) :
    Enters client backend (.startup client.startupParameters :: messages) reply after

/-- Endpoints are tried in order until one lets the client in.  The fault is that of the attempt
before; when no endpoint is left, it is what comes of the whole. -/
inductive Client.Tries (client : Client) :
    Backend → Fault → List Endpoint → List Message → Except Fault Unit → Backend → Prop
  | exhausted (backend : Backend) (fault : Fault) :
    Tries client backend fault [] [] (.error fault) backend
  | unreached {backend after : Backend} (fault : Fault) {endpoint : Endpoint}
      {rest : List Endpoint} {obstacle : String} {messages : List Message}
      {reply : Except Fault Unit} (hobstacle : client.network.obstacle endpoint = some obstacle)
      (hrest : Tries client backend (notReached obstacle) rest messages reply after) :
    Tries client backend fault (endpoint :: rest) messages reply after
  | entered {backend after : Backend} (fault : Fault) {endpoint : Endpoint}
      (rest : List Endpoint) {messages : List Message}
      (hreached : client.network.obstacle endpoint = none)
      (henters : client.Enters backend messages (.ok ()) after) :
    Tries client backend fault (endpoint :: rest) messages (.ok ()) after
  | failed {backend mid after : Backend} (fault : Fault) {endpoint : Endpoint}
      {rest : List Endpoint} {failure : Fault} {messages more : List Message}
      {reply : Except Fault Unit} (hreached : client.network.obstacle endpoint = none)
      (henters : client.Enters backend messages (.error failure) mid)
      (hrest : Tries client mid failure rest more reply after) :
    Tries client backend fault (endpoint :: rest) (messages ++ more) reply after

theorem takesVerdict_admitted (verdict : Outcome Unit) :
    TakesVerdict verdict (admitted verdict) := by
  cases verdict with
  | complete _ => exact .accepted
  | fail report => exact .refused report
  | hangUp => exact .lost

theorem Client.takesAdmission_authenticate (client : Client) (admission : Admission)
    (backend : Backend) :
    ∃ messages,
      TakesAdmission client.info.password admission messages
        (client.authenticate admission backend).1 ∧
      (client.authenticate admission backend).2 = backend.receive messages := by
  have hunchanged : backend = backend.receive [] := by
    simp only [Backend.receive, List.append_nil]
  obtain ⟨asksPassword, verdict⟩ := admission
  cases asksPassword with
  | false => exact ⟨[], .unasked (takesVerdict_admitted verdict), hunchanged⟩
  | true =>
    simp only [Client.authenticate, if_true]
    cases client.info.password with
    | none => exact ⟨[], .missing verdict rfl, hunchanged⟩
    | some bytes =>
      dsimp only
      split_ifs with htext
      · exact ⟨_, .asked rfl rfl htext (takesVerdict_admitted verdict), rfl⟩
      · exact ⟨[], .unsendable verdict rfl (Bool.eq_false_iff.mpr htext), hunchanged⟩

theorem Client.enters_enter (client : Client) (backend : Backend) :
    ∃ messages, client.Enters backend messages (client.enter backend).1
      (client.enter backend).2 := by
  simp only [Client.enter]
  split_ifs with hmode hparameters
  · exact ⟨[], .notEncrypted hmode⟩
  · rw [List.all_eq_true] at hparameters
    obtain ⟨messages, hreply, hafter⟩ := client.takesAdmission_authenticate
      (backend.receive [.startup client.startupParameters]).nextAdmission.1
      (backend.receive [.startup client.startupParameters]).nextAdmission.2
    refine ⟨_, .received hmode hparameters rfl hreply ?_⟩
    rw [hafter]
    simp only [Backend.nextAdmission, Backend.receive, List.append_assoc, List.singleton_append]
  · rw [Bool.not_eq_true, List.all_eq_false] at hparameters
    obtain ⟨parameter, hmem, hvalue⟩ := hparameters
    exact ⟨[], .unsendable hmode ⟨parameter, hmem, Bool.eq_false_iff.mpr hvalue⟩⟩

/-- A client goes from one endpoint to the next in the way that is told. -/
theorem Client.tries_tryEndpoints (client : Client) (backend : Backend) (fault : Fault)
    (endpoints : List Endpoint) :
    ∃ messages, client.Tries backend fault endpoints messages
      (client.tryEndpoints backend fault endpoints).1
      (client.tryEndpoints backend fault endpoints).2 := by
  -- The rest is tried on what this endpoint leaves, with its failure as the one before.
  induction endpoints generalizing backend fault with
  | nil => exact ⟨[], .exhausted backend fault⟩
  | cons endpoint rest ih =>
    simp only [Client.tryEndpoints]
    cases hobstacle : client.network.obstacle endpoint with
    | some obstacle =>
      obtain ⟨messages, hrest⟩ := ih backend (notReached obstacle)
      exact ⟨messages, .unreached fault hobstacle hrest⟩
    | none =>
      obtain ⟨messages, henters⟩ := client.enters_enter backend
      dsimp only
      cases henter : client.enter backend with
      | mk reply entered =>
        rw [henter] at henters
        cases reply with
        | ok _ => exact ⟨messages, .entered fault rest hobstacle henters⟩
        | error failure =>
          obtain ⟨more, hrest⟩ := ih entered failure
          exact ⟨messages ++ more, .failed fault hobstacle henters hrest⟩

/-- The first server is out of reach, the second turns the password down, the third hangs up. -/
example :
    let info : ConnInfo :=
      { hosts := [.tcp "db", .tcp "localhost", .tcp "127.0.0.1"], password := some [0x78] }
    let client : Client := { info, network := .localServer 5432 }
    let denied : Admission := { asksPassword := true, verdict := .fail ⟨"FATAL", "denied"⟩ }
    let backend : Backend := { admissions := [denied, { verdict := .hangUp }] }
    (client.tryEndpoints backend (notReached "nothing tried") info.endpoints).2.received =
      [.startup client.startupParameters, .password "x", .startup client.startupParameters] := by
  intro info client denied backend
  decide +kernel

section

variable {client : Client}

/-- Parameters with a misfit fail before any contact. -/
theorem Client.connect_of_misfit {misfit : ConnInfo.Misfit}
    (hmisfit : client.info.misfit? = some misfit) (link : Link) :
    client.connect link =
      { reply := .error (invalidConfiguration misfit.message), state := link } := by
  simp only [connect, hmisfit]

theorem Client.connect_of_fits (hfits : client.info.misfit? = none) (link : Link) :
    let tried := client.tryEndpoints link.backend
      (invalidConfiguration ConnInfo.Misfit.noServer.message) client.info.endpoints
    (client.connect link).reply = tried.1 ∧
      (client.connect link).state = { backend := tried.2, isOpen := tried.1.isOk } := by
  simp only [connect, hfits]
  split
  all_goals
    next htry =>
    rw [htry]
    exact ⟨rfl, rfl⟩

end

/-! ## What an attempt leaves -/

/-- The message belongs to the opening of a connection. -/
def Message.isOpening : Message → Bool
  | .startup _ | .password _ => true
  | _ => false

/-- The second backend is the first after messages that belong to the opening of connections. -/
def Backend.Opening (before after : Backend) (messages : List Message) : Prop :=
  (∀ message ∈ messages, message.isOpening) ∧
    ∃ admissions, after = { before.receive messages with admissions }

theorem Backend.Opening.refl (backend : Backend) : backend.Opening backend [] := by
  refine ⟨nofun, backend.admissions, ?_⟩
  simp only [receive, List.append_nil]

theorem Backend.Opening.trans {first second third : Backend} {messages more : List Message}
    (h : first.Opening second messages) (h' : second.Opening third more) :
    first.Opening third (messages ++ more) := by
  obtain ⟨hmessages, _, rfl⟩ := h
  obtain ⟨hmore, admissions, rfl⟩ := h'
  refine ⟨List.forall_mem_append.mpr ⟨hmessages, hmore⟩, admissions, ?_⟩
  simp only [receive, List.append_assoc]

theorem TakesAdmission.isOpening {password : Option (List UInt8)} {admission : Admission}
    {messages : List Message} {reply : Except Fault Unit}
    (h : TakesAdmission password admission messages reply) :
    ∀ message ∈ messages, message.isOpening := by
  cases h with
  | unasked hreply => nofun
  | missing verdict hpassword => nofun
  | unsendable verdict hpassword htext => nofun
  | asked hpassword htext hsendable hreply => exact List.forall_mem_singleton.mpr rfl

section

variable {client : Client} {before after : Backend} {messages : List Message}
  {reply : Except Fault Unit}

theorem Client.Enters.opening (h : client.Enters before messages reply after) :
    before.Opening after messages := by
  cases h with
  | notEncrypted hmode => exact .refl before
  | unsendable hmode hparameters => exact .refl before
  | received hmode hparameters hadmission hreply hafter =>
    exact ⟨List.forall_mem_cons.mpr ⟨rfl, hreply.isOpening⟩, _, hafter⟩

theorem Client.Tries.opening {fault : Fault} {endpoints : List Endpoint}
    (h : client.Tries before fault endpoints messages reply after) :
    before.Opening after messages := by
  induction h with
  | exhausted backend fault => exact .refl backend
  | unreached fault hobstacle hrest ih => exact ih
  | entered fault rest hreached henters => exact henters.opening
  | failed fault hreached henters hrest ih => exact henters.opening.trans ih

end

end Schemata.Wire
