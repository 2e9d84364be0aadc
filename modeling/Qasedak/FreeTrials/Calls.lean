import Qasedak.FreeTrials.Model

/-! The calls of `create_free_trial_for_customer`. Each query, each transaction, each request to the
cache and each request to a panel is a step of its own, and the steps of the calls come in any
order. A request to a panel may take any time. -/

namespace Qasedak.FreeTrials

open Foundation Store

/-- A client on a panel, with the call that made it. -/
structure PanelClient (κ : Type*) where
  panel : ℕ
  uuid : String
  email : String
  call : Option κ := none
  deriving DecidableEq, Repr

/-- What comes of `create_trial_client_details`. -/
inductive Creation where
  | made (c : TrialClient)
  | refused
  /-- The panel made it, and the answer or a check after it failed. -/
  | lost (c : TrialClient)
  /-- The adapter gave it up after the panel made it, and could not delete it. -/
  | kept (c : TrialClient)

/-- What comes of `delete_client`. -/
inductive Deletion where
  | done
  | failed
  /-- The panel deleted it, and the answer was lost. -/
  | lost
  deriving DecidableEq, Repr

/-- What comes of the requests of a step; `fault` is the text of an exception. -/
structure Outcome where
  fault : Option String := none
  creation : Creation := .refused
  deletion : Deletion := .done

/-- What comes next in a call; `now` is its variable of that name. -/
inductive Phase where
  | prechecking
  | locking
  | opening (now : Instant)
  | checking (now : Instant)
  | inserting (now checkedAt : Instant)
  | creating (request : ℕ)
  | committing (request : ℕ) (c : TrialClient)
  | cleaning (request : ℕ) (c : TrialClient) (error : String)
  | deleting (request : ℕ) (c : TrialClient) (error : String)
  | failing (request : ℕ) (error : String)
  | releasing (request : Option ℕ)
  | returned (request : Option ℕ)

structure Call (shop : TrialShop) where
  applicant : Applicant
  settings : TrialSettings shop
  phase : Phase

structure TrialSystem (shop : TrialShop) (κ : Type*) where
  clock : Instant
  requests : TrialRequests := .empty
  db : TrialDb := {}
  locks : Locks LockKey κ Instant := fun _ => none
  /-- The call that has a customer's row locked. -/
  rows : ℕ → Option κ := fun _ => none
  panelClients : List (PanelClient κ) := []
  calls : κ → Option (Call shop) := fun _ => none
  /-- The calls whose client could not be deleted on its panel. -/
  undeleted : List κ := []

inductive TrialStep (κ : Type*) where
  | tick (duration : ℕ)
  | start (i : κ) (a : Applicant) (store : TrialStore)
  | advance (i : κ) (o : Outcome)

/-- The panel client is found under the identity. -/
def PanelClient.Matches {κ : Type*} (x : PanelClient κ) (panel : ℕ) (c : TrialClient) : Prop :=
  x.panel = panel ∧ (x.uuid = c.uuid ∨ x.email = c.email)

instance {κ : Type*} (x : PanelClient κ) (panel : ℕ) (c : TrialClient) :
    Decidable (x.Matches panel c) :=
  inferInstanceAs (Decidable (_ ∧ _))

/-- A local service has the identity: the look-up of `cleanup_panel_trial_client`. -/
def OwnsIdentity (shop : TrialShop) (x : VPNClient) (panel : ℕ) (uuid email : String) : Prop :=
  x.uuid = some uuid ∨
    email ≠ "" ∧ x.inbound.any (fun b => (shop.inbounds b).panel = panel) ∧ x.xuiEmail = email

instance (shop : TrialShop) (x : VPNClient) (panel : ℕ) (uuid email : String) :
    Decidable (OwnsIdentity shop x panel uuid email) :=
  inferInstanceAs (Decidable (_ ∨ _))

namespace TrialSystem

variable {κ : Type*} [DecidableEq κ] {shop : TrialShop}
variable (s : TrialSystem shop κ) (i : κ) (c : Call shop) (o : Outcome)

def set (phase : Phase) : TrialSystem shop κ :=
  { s with calls := Function.update s.calls i (some { c with phase := phase }) }

def lockRow : ℕ → Option κ :=
  match c.applicant.customer with
  | none => s.rows
  | some customer => Function.update s.rows customer (some i)

/-- The end of a transaction. -/
def unlockRow : ℕ → Option κ :=
  match c.applicant.customer with
  | none => s.rows
  | some customer => Function.update s.rows customer none

/-! ## Eligibility and lock -/

def precheck : TrialSystem shop κ :=
  if o.fault = none ∧
      nextAvailableAt s.requests.rows c.applicant c.settings.cooldownDays s.clock = none then
    s.set i c .locking
  else s.set i c (.returned none)

def lock : TrialSystem shop κ :=
  match o.fault, c.applicant.lockKey with
  | some _, _ => s.set i c (.returned none)
  | none, none => s.set i c (.opening s.clock)
  | none, some key =>
      if s.locks.IsFree key s.clock then
        { s.set i c (.opening s.clock) with locks := s.locks.add key i (s.clock + lockDuration) }
      else s.set i c (.returned none)

/-- `select_for_update`, which waits for the row. -/
def openTransaction (now : Instant) : TrialSystem shop κ :=
  if o.fault ≠ none then s.set i c (.releasing none)
  else if ∀ customer ∈ c.applicant.customer, s.rows customer = none then
    { s.set i c (.checking now) with rows := s.lockRow i c }
  else s

def check (now : Instant) : TrialSystem shop κ :=
  if o.fault = none ∧
      nextAvailableAt s.requests.rows c.applicant c.settings.cooldownDays s.clock = none then
    s.set i c (.inserting now s.clock)
  else { s.set i c (.releasing none) with rows := s.unlockRow c }

def newRequest (now : Instant) (pk : ℕ) : FreeTrialRequest where
  pk := pk
  applicant := c.applicant
  inbound := c.settings.inbound
  createdAt := s.clock
  expiresAt := some (now + Revenue.hours c.settings.durationHours)

/-- The row is inserted and the transaction committed. -/
def insert (now : Instant) : TrialSystem shop κ :=
  if o.fault ≠ none then { s.set i c (.releasing none) with rows := s.unlockRow c }
  else
    { s.set i c (.creating s.requests.next) with
      rows := s.unlockRow c
      requests := s.requests.append (s.newRequest c now) fun _ => rfl }

/-! ## The client on the panel -/

def panelClient (client : TrialClient) : PanelClient κ where
  panel := c.settings.panel
  uuid := client.uuid
  email := client.email
  call := some i

/-- What a panel that got the request has then. -/
def created (client : TrialClient) (phase : Phase) : TrialSystem shop κ :=
  { s.set i c phase with panelClients := panelClient i c client :: s.panelClients }

def notCreated : String := "ساخت تست رایگان روی پنل انجام نشد. کمی بعد دوباره تلاش کنید."

def create (request : ℕ) : TrialSystem shop κ :=
  match o.creation with
  | .refused => s.set i c (.failing request notCreated)
  | .made client => s.created i c client (.committing request client)
  | .lost client => s.created i c client (.failing request notCreated)
  | .kept client =>
      { s.created i c client (.failing request notCreated) with undeleted := i :: s.undeleted }

/-! ## The local commit and the cleanup -/

/-- The request as it is saved with its client. -/
def delivered (client : TrialClient) (vpnClient : ℕ) (now : Instant) (r : FreeTrialRequest) :
    FreeTrialRequest :=
  { r with
    vpnClient := some vpnClient
    status := .delivered
    configLink := if client.directLink = "" then client.subLink else client.directLink
    deliveredAt := some now
    expiresAt := client.expiresAt <|> r.expiresAt }

def commit (request : ℕ) (client : TrialClient) : TrialSystem shop κ :=
  let saved : Except String TrialDb :=
    match o.fault, s.requests.get? request with
    | none, some r => saveTrial shop s.db c.settings r client
    | none, none => .error "Save with update_fields did not affect any rows."
    | some error, _ => .error error
  match saved with
  | .error error => s.set i c (.cleaning request client error)
  | .ok db =>
      { s.set i c (.releasing (some request)) with
        db := db
        requests := s.requests.modify (·.pk = request)
          (delivered client s.db.clients.next s.clock) fun _ => rfl }

/-- `VPNClient.objects.filter(identity).exists()`. -/
def IsOwned (client : TrialClient) : Prop :=
  ∃ x ∈ s.db.clients.rows, OwnsIdentity shop x c.settings.panel client.uuid client.email

instance (client : TrialClient) : Decidable (s.IsOwned c client) :=
  inferInstanceAs (Decidable (∃ x ∈ s.db.clients.rows, _))

/-- The look-up before the deletion; an exception of it leaves the cleanup. -/
def clean (request : ℕ) (client : TrialClient) (error : String) : TrialSystem shop κ :=
  match o.fault with
  | some fault => s.set i c (.failing request (shop.sanitize fault))
  | none =>
      if s.IsOwned c client then s.set i c (.failing request (shop.sanitize error))
      else s.set i c (.deleting request client error)

/-- What a panel that got the request has then. -/
def remaining (client : TrialClient) : List (PanelClient κ) :=
  s.panelClients.filter fun x => ¬ x.Matches c.settings.panel client

def delete (request : ℕ) (client : TrialClient) (error : String) : TrialSystem shop κ :=
  let s' := s.set i c (.failing request (shop.sanitize error))
  match o.deletion with
  | .done => { s' with panelClients := s.remaining c client }
  | .failed => { s' with undeleted := i :: s.undeleted }
  | .lost =>
      { s' with
        panelClients := s.remaining c client
        undeleted := i :: s.undeleted }

/-- Where the save raises, so does the one of the outer handler. -/
def fail (request : ℕ) (error : String) : TrialSystem shop κ :=
  if o.fault ≠ none then s.set i c (.releasing (some request))
  else
    { s.set i c (.releasing (some request)) with
      requests := s.requests.modify (·.pk = request)
        (fun r => { r with status := .failed, errorMessage := error }) fun _ => rfl }

/-- The key is deleted, whoever added it. -/
def release (request : Option ℕ) : TrialSystem shop κ :=
  match o.fault, c.applicant.lockKey with
  | none, some key => { s.set i c (.returned request) with locks := s.locks.delete key }
  | _, _ => s.set i c (.returned request)

/-! ## Steps -/

/-- The next step of a call. -/
def advance : TrialSystem shop κ :=
  match c.phase with
  | .prechecking => s.precheck i c o
  | .locking => s.lock i c o
  | .opening now => s.openTransaction i c o now
  | .checking now => s.check i c o now
  | .inserting now _ => s.insert i c o now
  | .creating request => s.create i c o request
  | .committing request client => s.commit i c o request client
  | .cleaning request client error => s.clean i c o request client error
  | .deleting request client error => s.delete i c o request client error
  | .failing request error => s.fail i c o request error
  | .releasing request => s.release i c o request
  | .returned _ => s

/-- A call begins; nobody, and a store without free trials, is turned away at once. -/
def start (a : Applicant) (store : TrialStore) : TrialSystem shop κ :=
  if a.customer = none ∧ a.telegramUserId = "" then s
  else
    match store.validateFreeTrialSettings shop with
    | .error _ => s
    | .ok settings => s.set i ⟨a, settings, .prechecking⟩ .prechecking

def step : TrialStep κ → TrialSystem shop κ
  | .tick duration => { s with clock := s.clock + duration }
  | .start i a store =>
      match s.calls i with
      | none => s.start i a store
      | some _ => s
  | .advance i o =>
      match s.calls i with
      | none => s
      | some c => s.advance i c o

end TrialSystem

end Qasedak.FreeTrials
