import Qasedak.Foundation.Program
import Qasedak.Reconciliation.Checks

/-! The writes of `store/xui_api.py` to a panel that may serve the legacy client API, the modern
one or both: `_post_client_create`, `_post_client_update` and `_post_client_delete`, down to the
attempts of their requests. -/

namespace Qasedak.Panels.Transport

open Foundation Store Reconciliation

/-- The two client APIs of 3X-UI. -/
inductive ClientApi where
  | legacy
  | modern
  deriving DecidableEq, Repr

/-- The JSON of a client; `id` is what `_client_api_identifier` reads of it. -/
structure ClientData where
  id : String
  email : String
  enable : Bool
  settings : String
  deriving DecidableEq, Repr

/-- A client of an inbound on the panel. -/
structure Attached where
  inbound : ℕ
  client : ClientData
  deriving DecidableEq, Repr

/-- What a call is to change. The modern API knows a client by its email. -/
inductive ClientWrite where
  | create (inbound : ℕ) (client : ClientData)
  | update (inbound : ℕ) (identifier email : String) (client : ClientData)
  | delete (inbound : ℕ) (identifier email : String)
  deriving DecidableEq, Repr

namespace ClientWrite

/-- The clients that a request of the API is about. -/
def Names (w : ClientWrite) (api : ClientApi) (a : Attached) : Prop :=
  match w, api with
  | .create .., _ => False
  | .update inbound identifier _ _, .legacy => a.inbound = inbound ∧ a.client.id = identifier
  | .update inbound _ email _, .modern => a.inbound = inbound ∧ a.client.email = email
  | .delete inbound identifier _, .legacy => a.inbound = inbound ∧ a.client.id = identifier
  | .delete _ _ email, .modern => a.client.email = email

instance (w : ClientWrite) (api : ClientApi) (a : Attached) : Decidable (w.Names api a) := by
  unfold Names
  split <;> infer_instance

/-- The clients of the panel once it took the request. -/
def apply (w : ClientWrite) (api : ClientApi) (clients : List Attached) : List Attached :=
  match w with
  | .create inbound client => clients ++ [⟨inbound, client⟩]
  | .update _ _ _ client => clients.map fun a =>
      if w.Names api a then { a with client := client } else a
  | .delete .. => clients.filter fun a => ¬ w.Names api a

def IsDelete : ClientWrite → Prop
  | .delete .. => True
  | _ => False

instance (w : ClientWrite) : Decidable w.IsDelete := by
  unfold IsDelete
  split <;> infer_instance

end ClientWrite

/-- A panel: which API it serves, and what it refuses with which message. -/
structure XuiPanel where
  serves : ClientApi → Bool
  refusal : ClientApi → ClientWrite → List Attached → Option String
  lookupRefusal : String → List Attached → Option String
  /-- Its login answers with HTTP 403 until it comes with a token. -/
  csrfLogin : Bool
  refuses_duplicate : ∀ api inbound client, ∀ clients : List Attached,
    (∃ a ∈ clients, a.client.id = client.id ∨ a.client.email = client.email) →
      (refusal api (.create inbound client) clients).isSome
  refuses_absent : ∀ api inbound identifier email client, ∀ clients : List Attached,
    ((∀ a ∈ clients, ¬ (ClientWrite.update inbound identifier email client).Names api a) →
      (refusal api (.update inbound identifier email client) clients).isSome) ∧
    ((∀ a ∈ clients, ¬ (ClientWrite.delete inbound identifier email).Names api a) →
      (refusal api (.delete inbound identifier email) clients).isSome)

/-- The decoded answer of a request. -/
structure PanelResponse where
  success : Bool
  msg : String
  inboundIds : List ℕ
  deriving DecidableEq, Repr

/-- What becomes of one attempt. -/
inductive Attempt where
  /-- The transport raises; the panel may have handled the request. -/
  | lost (arrived : Bool) (text : String)
  /-- Answered with this status, other than 200, in front of the panel's handler. -/
  | turnedAway (status : ℕ)
  /-- Answered with HTTP 200 and no JSON. -/
  | unreadable (arrived : Bool)
  | answered
  deriving DecidableEq, Repr

def Attempt.Arrives : Attempt → Bool
  | .lost arrived _ => arrived
  | .turnedAway _ => false
  | .unreadable arrived => arrived
  | .answered => true

/-- Why a call raises. -/
inductive WriteFailure where
  /-- A `requests.RequestException`. -/
  | lost (text : String)
  | http (status : ℕ)
  | invalidJson
  /-- The panel's own rejection. -/
  | rejected (msg : String)
  /-- Raised before any request of the write: the login, the token, a refused scope. -/
  | refused (text : String)
  deriving DecidableEq, Repr

def WriteFailure.text : WriteFailure → String
  | .lost text => text
  | .http status => s!"Panel request failed with HTTP {status}."
  | .invalidJson => "Panel returned invalid JSON."
  | .rejected msg => msg
  | .refused text => text

/-! ## The panel's side -/

/-- The clients on the panel, and the APIs through which it took the write of the call. -/
structure Ledger where
  clients : List Attached
  taken : List ClientApi
  deriving DecidableEq, Repr

namespace Ledger

/-- The panel handles an arriving request of the write, all at once. -/
def handle (panel : XuiPanel) (api : ClientApi) (w : ClientWrite) (l : Ledger) :
    Option PanelResponse × Ledger :=
  if panel.serves api = false then (none, l)
  else match panel.refusal api w l.clients with
    | some msg => (some ⟨false, msg, []⟩, l)
    | none => (some ⟨true, "", []⟩, ⟨w.apply api l.clients, l.taken ++ [api]⟩)

/-- `GET /panel/api/clients/get/<email>`. -/
def lookup (panel : XuiPanel) (email : String) (l : Ledger) : Option PanelResponse :=
  if panel.serves .modern = false then none
  else match panel.lookupRefusal email l.clients with
    | some msg => some ⟨false, msg, []⟩
    | none => some ⟨true, "", (l.clients.filter fun a => a.client.email = email).map (·.inbound)⟩

end Ledger

/-- What happened on the wire, with the ledger before it. -/
inductive WireEvent where
  | attempt (before : Ledger) (api : ClientApi) (a : Attempt)
  | lookup (before : Ledger) (a : Attempt)
  | aside (before : Ledger) (failure : Option String)

/-- The service with the panel that it talks to. -/
structure Exchange where
  ledger : Ledger
  loggedIn : Bool
  csrfToken : Bool
  /-- The cached profile is a modern one. -/
  modernProfile : Bool
  /-- What a live discovery finds. -/
  liveModern : Bool
  /-- `request_attempts - 1`. -/
  extraAttempts : ℕ
  /-- What becomes of the attempts to come; after these all are answered. -/
  attempts : List Attempt
  /-- Whether the logins and token requests to come fail; after these none does. -/
  asides : List (Option String)
  made : List WireEvent

/-- A call of the service. -/
abbrev Exchanged (α : Type) := Prog Exchange Unit Unit WriteFailure α

variable (panel : XuiPanel)

/-! ## Requests -/

/-- A login or a token request. -/
def aside : Exchanged Unit := do
  let e ← Prog.readDb id
  let failure := e.asides.headD none
  Prog.writeDb fun e =>
    { e with asides := e.asides.tail, made := e.made ++ [.aside e.ledger failure] }
  match failure with
  | some text => Prog.raise (.refused text)
  | none => pure ()

/-- `login`. -/
def xuiLogin : Exchanged Unit := do
  let e ← Prog.readDb id
  if e.loggedIn then pure ()
  else do
    aside
    Prog.writeDb fun e =>
      { e with loggedIn := true, csrfToken := e.csrfToken || panel.csrfLogin }

/-- `refresh_csrf_token`. -/
def refreshCsrfToken : Exchanged Unit := do
  aside
  Prog.writeDb fun e => { e with csrfToken := true }

/-- The answer of a request: a status other than 200, no JSON, or the decoded JSON. -/
inductive WireReply where
  | status (n : ℕ)
  | unreadable
  | json (r : PanelResponse)
  deriving DecidableEq, Repr

/-- What the service gets of an attempt, where the panel's handler says `answer`; an endpoint that
is not served is answered with HTTP 404. -/
def Attempt.outcome (answer : Option PanelResponse) : Attempt → Except WriteFailure WireReply
  | .lost _ text => .error (.lost text)
  | .turnedAway status => .ok (.status status)
  | .unreadable _ => .ok .unreadable
  | .answered => match answer with
    | some r => .ok (.json r)
    | none => .ok (.status 404)

/-- One attempt of the request of a write. -/
def attemptWrite (api : ClientApi) (w : ClientWrite) : Exchanged WireReply := do
  let e ← Prog.readDb id
  let a := e.attempts.headD .answered
  let handled := e.ledger.handle panel api w
  Prog.writeDb fun e => { e with
    ledger := if a.Arrives then handled.2 else e.ledger
    attempts := e.attempts.tail
    made := e.made ++ [.attempt e.ledger api a] }
  Prog.ofExcept (a.outcome handled.1)

/-- One attempt of a lookup. -/
def attemptLookup (email : String) : Exchanged WireReply := do
  let e ← Prog.readDb id
  let a := e.attempts.headD .answered
  Prog.writeDb fun e => { e with
    attempts := e.attempts.tail, made := e.made ++ [.lookup e.ledger a] }
  Prog.ofExcept (a.outcome (e.ledger.lookup panel email))

/-- `_login_request_with_retries`, with the attempts after the first. -/
def loginRequestWithRetries {α : Type} (request : Exchanged α) : ℕ → Exchanged α
  | 0 => request
  | extra + 1 => Prog.onError request fun failure => match failure with
    | .lost _ => loginRequestWithRetries request extra
    | failure => Prog.raise failure

/-- The end of `request_json`. -/
def decodeReply : WireReply → Exchanged PanelResponse
  | .status n => Prog.raise (.http n)
  | .unreadable => Prog.raise .invalidJson
  | .json r => pure r

/-- `request_json`; only a POST may need the token. -/
def requestJson (unsafeMethod : Bool) (request : Exchanged WireReply) :
    Exchanged PanelResponse := do
  let e ← Prog.readDb id
  let csrfUnsafe := unsafeMethod && (e.csrfToken || e.modernProfile)
  let _ ← (if csrfUnsafe && !e.csrfToken then refreshCsrfToken else pure () : Exchanged Unit)
  let first ← loginRequestWithRetries request e.extraAttempts
  let reply ← (if csrfUnsafe ∧ first = .status 403 then
      refreshCsrfToken >>= fun _ => loginRequestWithRetries request e.extraAttempts
    else pure first : Exchanged WireReply)
  decodeReply reply

/-- `authenticated_json`. -/
def authenticatedJson (unsafeMethod : Bool) (request : Exchanged WireReply) :
    Exchanged PanelResponse := do
  xuiLogin panel
  requestJson unsafeMethod request

/-- `_ensure_success`. -/
def ensureSuccess (defaultMessage : String) (r : PanelResponse) : Exchanged PanelResponse :=
  if r.success then pure r
  else Prog.raise (.rejected (if r.msg = "" then defaultMessage else r.msg))

/-! ## The writes -/

/-- `_endpoint_missing`. -/
def EndpointMissing (lower : String → String) (failure : WriteFailure) : Prop :=
  containsText (lower failure.text) "http 404" ∨ strip (lower failure.text) = "404" ∨
    containsText (lower failure.text) "not found" ∨ containsText (lower failure.text) "no route"

instance (lower : String → String) (failure : WriteFailure) :
    Decidable (EndpointMissing lower failure) := by
  unfold EndpointMissing
  infer_instance

/-- `_post_legacy_client_create`: the one request that is sent without a login. -/
def postLegacyClientCreate (inbound : ℕ) (client : ClientData) : Exchanged PanelResponse := do
  let r ← requestJson true (attemptWrite panel .legacy (.create inbound client))
  ensureSuccess "Could not add client to panel." r

/-- `_post_modern_client_create`. -/
def postModernClientCreate (inbound : ℕ) (client : ClientData) : Exchanged PanelResponse := do
  if client.enable = false then
    Prog.raise (.refused ("Official 3X-UI client API cannot safely create a disabled client; " ++
      "refusing create-inactive."))
  else do
    let r ← authenticatedJson panel true (attemptWrite panel .modern (.create inbound client))
    ensureSuccess "Could not add client to panel." r

/-- `_post_legacy_client_update`. -/
def postLegacyClientUpdate (inbound : ℕ) (identifier email : String) (client : ClientData) :
    Exchanged PanelResponse := do
  let r ← authenticatedJson panel true
    (attemptWrite panel .legacy (.update inbound identifier email client))
  ensureSuccess "Panel rejected client update." r

/-- `_post_modern_client_update`. -/
def postModernClientUpdate (inbound : ℕ) (identifier email : String) (client : ClientData) :
    Exchanged PanelResponse := do
  if email = "" then Prog.raise (.refused "Client email is required for modern 3X-UI update.")
  else do
    let r ← authenticatedJson panel true
      (attemptWrite panel .modern (.update inbound identifier email client))
    ensureSuccess "Panel rejected client update." r

/-- `_post_legacy_client_delete`: the answer is handed on as it is. -/
def postLegacyClientDelete (inbound : ℕ) (identifier email : String) : Exchanged PanelResponse :=
  authenticatedJson panel true (attemptWrite panel .legacy (.delete inbound identifier email))

/-- `_modern_client_attachments`. -/
def modernClientAttachments (email : String) : Exchanged (List ℕ) := do
  if strip email = "" then pure []
  else do
    let r ← authenticatedJson panel false (attemptLookup panel (strip email))
    let r ← ensureSuccess "Client attachment lookup failed." r
    return r.inboundIds

/-- `_assert_modern_email_single_attachment`. -/
def assertModernEmailSingleAttachment (inbound : ℕ) (email operation : String)
    (allowMultiScope : Bool) : Exchanged Unit := do
  if allowMultiScope then pure ()
  else do
    let inboundIds ← modernClientAttachments panel email
    if inboundIds = [] then
      Prog.raise (.refused
        s!"Modern 3X-UI {operation} scope could not be verified from client attachments.")
    else if inboundIds ≠ [inbound] then
      Prog.raise (.refused
        s!"Modern 3X-UI {operation} is email-wide; client is attached to multiple inbounds.")
    else pure ()

/-- `_post_modern_client_delete`, with the check of its callers that there is an email. -/
def postModernClientDelete (inbound : ℕ) (identifier email : String) (allowMultiScope : Bool) :
    Exchanged PanelResponse := do
  if email = "" then Prog.raise (.refused "Client email is required for modern 3X-UI delete.")
  else do
    assertModernEmailSingleAttachment panel inbound email "delete" allowMultiScope
    authenticatedJson panel true (attemptWrite panel .modern (.delete inbound identifier email))

variable (lower : String → String)

/-- `_compat_profile(live=True, write=True)`: the finding is cached, and it needs a login. -/
def discoverLive : Exchanged Bool := do
  let e ← Prog.readDb id
  Prog.writeDb fun e => { e with
    modernProfile := e.liveModern
    loggedIn := e.loggedIn || e.liveModern
    csrfToken := e.csrfToken || (e.liveModern && !e.loggedIn && panel.csrfLogin) }
  return e.liveModern

/-- What the three writes share: the modern API where the cached profile says so, and else the
legacy one, with the modern one where a live discovery finds it after a missing endpoint. -/
def postClientWrite (legacy modern : Exchanged PanelResponse) : Exchanged PanelResponse := do
  let e ← Prog.readDb id
  if e.modernProfile then modern
  else Prog.onError legacy fun failure =>
    if EndpointMissing lower failure then do
      let live ← discoverLive panel
      if live then modern else Prog.raise failure
    else Prog.raise failure

/-- `_post_client_create`. -/
def postClientCreate (inbound : ℕ) (client : ClientData) : Exchanged PanelResponse :=
  postClientWrite panel lower (postLegacyClientCreate panel inbound client)
    (postModernClientCreate panel inbound client)

/-- `_post_client_update`; without an email of its own the modern API gets the client's. -/
def postClientUpdate (inbound : ℕ) (identifier : String) (client : ClientData) (email : String) :
    Exchanged PanelResponse :=
  let email := strip (if email = "" then client.email else email)
  postClientWrite panel lower (postLegacyClientUpdate panel inbound identifier email client)
    (postModernClientUpdate panel inbound identifier email client)

/-- `_post_client_delete`. -/
def postClientDelete (inbound : ℕ) (identifier email : String) (allowMultiScope : Bool) :
    Exchanged PanelResponse :=
  let email := strip email
  postClientWrite panel lower (postLegacyClientDelete panel inbound identifier email)
    (postModernClientDelete panel inbound identifier email allowMultiScope)

end Qasedak.Panels.Transport
