import Qasedak.Outreach.Model
import Mathlib.Data.List.Sort
import Mathlib.Logic.Function.Basic

/-! The runs of `run_outreach`. Each query, each transaction and each message is a step of its own,
the steps of the runs come in any order, and a run may end between any two of them. The transaction
of `reserve` is one step: it holds the settings of the store, the customer and the event locked from
its checks to its commit. -/

namespace Qasedak.Outreach

open Foundation Store CustomerActivity

/-- What comes of `send_message`. -/
inductive Answer where
  | acknowledged (messageId : String)
  | rejected
  /-- A timeout, or no message id in the answer. -/
  | unknown
  deriving DecidableEq, Repr

/-- The variables of a run while it is at one store. -/
structure Round where
  now : Instant
  left : List ℕ
  store : ℕ
  config : OutreachSettings
  /-- `active`. -/
  active : List ℕ := []
  deriving DecidableEq, Repr

/-- What comes next in a run. -/
inductive Phase where
  | idle
  | interrupting (now : Instant) (storeId : Option ℕ)
  | choosing (now : Instant) (stores : List ℕ)
  /-- The purchases of the store whose activity is read. -/
  | preparing (r : Round) (orders : List ℕ)
  | creating (r : Round) (orders : List ℕ) (key : EventKey) (activity : PurchaseActivity)
  | refreshing (r : Round) (orders : List ℕ) (event : OutreachEvent) (activity : PurchaseActivity)
  | updating (r : Round) (orders : List ℕ) (event : ℕ) (body reason : String)
  | cancelling (r : Round)
  | listing (r : Round)
  | looping (r : Round) (events : List ℕ)
  | reserving (r : Round) (events : List ℕ) (event : ℕ) (now : Instant)
  | revalidating (r : Round) (events : List ℕ) (event : OutreachEvent)
  | dropping (r : Round) (events : List ℕ) (event : OutreachEvent)
  | sending (r : Round) (events : List ℕ) (event : OutreachEvent) (target : BotUser)
  | recording (r : Round) (events : List ℕ) (event : OutreachEvent) (answer : Answer)

/-- A call of `send_message`. -/
structure Message where
  event : ℕ
  key : EventKey
  chatId : String
  body : String
  deriving DecidableEq, Repr

/-- The events, the logs that `dispatch` makes, the runs and the messages sent, the last one
first. -/
structure OutreachSystem (κ : Type*) where
  events : OutreachEvents := .empty
  offerLogs : List OfferLog := []
  runs : κ → Phase := fun _ => .idle
  messages : List Message := []

inductive OutreachStep (shop : Shop) (κ : Type*) where
  | start (i : κ) (now : Instant) (storeId : Option ℕ)
  | advance (i : κ) (e : Surroundings shop) (answer : Answer)
  | crash (i : κ)

namespace OutreachSystem

variable {κ : Type*} [DecidableEq κ] {shop : Shop} (s : OutreachSystem κ) (i : κ)
variable (e : Surroundings shop)

def set (phase : Phase) : OutreachSystem κ := { s with runs := Function.update s.runs i phase }

@[simp] theorem set_runs_self {s : OutreachSystem κ} {i : κ} (phase : Phase) :
    (s.set i phase).runs i = phase := by
  simp [set]

theorem set_runs_of_ne {s : OutreachSystem κ} {i j : κ} (phase : Phase) (h : j ≠ i) :
    (s.set i phase).runs j = s.runs j := by
  simp [set, h]

@[simp] theorem set_events (phase : Phase) : (s.set i phase).events = s.events := rfl

@[simp] theorem set_messages (phase : Phase) : (s.set i phase).messages = s.messages := rfl

/-- An update of the events with a property. -/
def update (p : OutreachEvent → Bool) (f : OutreachEvent → OutreachEvent)
    (hf : ∀ ev, (f ev).pk = ev.pk) (phase : Phase) : OutreachSystem κ :=
  { s.set i phase with events := s.events.modify p f hf }

theorem update_rows (p : OutreachEvent → Bool) (f : OutreachEvent → OutreachEvent)
    (hf : ∀ ev, (f ev).pk = ev.pk) (phase : Phase) :
    (s.update i p f hf phase).events.rows = s.events.rows.map fun ev => if p ev then f ev else ev :=
  rfl

/-- All logs of the revenue engine. -/
def allLogs : List OfferLog := s.offerLogs ++ e.offerLogs

/-! ## `prepare_store` -/

/-- The first update of `run_outreach`. -/
def interrupt (now : Instant) (storeId : Option ℕ) : OutreachSystem κ :=
  let stores := e.stores.filter fun store => storeId.all (· = store)
  s.update i (fun ev => ev.status = .sending && ev.claimedAt.any (· < now - minutes 10))
    (fun ev => { ev with status := .uncertain, reason := "worker_interrupted" }) (fun _ => rfl)
    (.choosing now stores)

/-- The next store, and its settings. -/
def choose (now : Instant) (stores : List ℕ) : OutreachSystem κ :=
  match stores with
  | [] => s.set i .idle
  | store :: left =>
      s.set i (.preparing ⟨now, left, store, e.settings store, []⟩ (e.activeOrders store))

/-- The next purchase: its renewal is noted, and what it is due. -/
def prepare (r : Round) (order : ℕ) (orders : List ℕ) : OutreachSystem κ :=
  match e.activity order with
  | none => s.set i (.preparing r orders)
  | some activity =>
      let phase :=
        match candidateKind e order activity r.config r.now with
        | none => .preparing r orders
        | some kind => .creating r orders ⟨order, activity.cycle, kind⟩ activity
      match renewalState e (e.purchase order).order r.now with
      | .renewed renewal =>
          s.update i (fun ev => ev.order = order && ev.convertedOrder = none)
            (fun ev => { ev with convertedOrder := some renewal.pk }) (fun _ => rfl) phase
      | _ => s.set i phase

/-- `get_or_create` of the event. -/
def create (r : Round) (orders : List ℕ) (key : EventKey) (activity : PurchaseActivity) :
    OutreachSystem κ :=
  let next (event : OutreachEvent) : Phase :=
    let r := { r with active := event.pk :: r.active }
    if event.status.Pending then .refreshing r orders event activity else .preparing r orders
  match s.events.rows.find? (·.key = key) with
  | some event => s.set i (next event)
  | none =>
      let event (pk : ℕ) : OutreachEvent :=
        { pk := pk
          order := key.order
          cycle := key.cycle
          kind := key.kind
          createdAt := e.now }
      { s.set i (next (event s.events.next)) with
        events := s.events.append event fun _ => rfl }

/-- What `suppression` says of the event, and its text. -/
def refresh (r : Round) (orders : List ℕ) (event : OutreachEvent) (activity : PurchaseActivity) :
    OutreachSystem κ :=
  let reason := suppression e s.events.rows (s.allLogs e) event.order event.pk r.config r.now
  let body := shop.messageBody (e.purchase event.order) activity event.kind r.now
  s.set i (.updating r orders event.pk body reason)

/-- The update of the event, unless it is pending no more. -/
def write (r : Round) (orders : List ℕ) (event : ℕ) (body reason : String) : OutreachSystem κ :=
  let status := if r.config.mode ≠ .live then EventStatus.preview else .ready
  s.update i (fun ev => ev.pk = event && ev.status.Pending)
    (fun ev => { ev with status := status, body := body, reason := reason }) (fun _ => rfl)
    (.preparing r orders)

/-- The pending events of the store that are due no more. -/
def cancelOthers (shop : Shop) (s : OutreachSystem κ) (i : κ) (r : Round) : OutreachSystem κ :=
  s.update i
    (fun ev => shop.store ev.order = r.store && ev.status.Pending && !r.active.contains ev.pk)
    (fun ev => { ev with status := .cancelled, reason := "not_eligible" }) (fun _ => rfl)
    (.listing r)

/-! ## `dispatch` -/

/-- The order in which the events are sent. -/
def isBefore (a b : OutreachEvent) : Bool :=
  b.kind.priority < a.kind.priority ||
    a.kind.priority = b.kind.priority &&
      (a.createdAt < b.createdAt || a.createdAt = b.createdAt && a.pk ≤ b.pk)

/-- `candidates`. -/
def list (r : Round) : OutreachSystem κ :=
  let candidates := s.events.rows.filter fun ev => r.active.contains ev.pk && ev.status = .ready
  s.set i (.looping r ((candidates.mergeSort isBefore).map (·.pk)))

/-- The event as `reserve` saves it. -/
def claimed (target : Option BotUser) (body : String) (now : Instant) (ev : OutreachEvent) :
    OutreachEvent :=
  { ev with
    botUser := target.map (·.pk)
    body := body
    claimedAt := some now
    status := .sending
    reason := "" }

theorem claimed_pk (target : Option BotUser) (body : String) (now : Instant)
    (ev : OutreachEvent) : (claimed target body now ev).pk = ev.pk := rfl

def claim (r : Round) (left : List ℕ) (ev : OutreachEvent) (target : Option BotUser)
    (body : String) (now : Instant) : OutreachSystem κ :=
  s.update i (fun x => x.pk = ev.pk) (claimed target body now) (claimed_pk target body now)
    (.revalidating r left (claimed target body now ev))

/-- `reserve`. A row that is gone is an exception. -/
def reserve (r : Round) (left : List ℕ) (pk : ℕ) (now : Instant) : OutreachSystem κ :=
  match s.events.get? pk with
  | none => s.set i .idle
  | some ev =>
      let notEligible (ev : OutreachEvent) :=
        { ev with status := EventStatus.cancelled, reason := "not_eligible" }
      if shop.customer ev.order = none then
        s.update i (fun ev => ev.pk = pk && ev.status = .ready) notEligible (fun _ => rfl)
          (.looping r left)
      else
        let config := e.settings (shop.store ev.order)
        if config.mode ≠ .live ∨ ev.status ≠ .ready then s.set i (.looping r left)
        else
          match e.activity ev.order with
          | none => s.set i .idle
          | some activity =>
              if activity.cycle ≠ ev.cycle ∨
                  candidateKind e ev.order activity config now ≠ some ev.kind then
                s.update i (fun ev => ev.pk = pk) notEligible (fun _ => rfl) (.looping r left)
              else
                let reason := suppression e s.events.rows (s.allLogs e) ev.order pk config now
                if reason ≠ "" then
                  s.update i (fun ev => ev.pk = pk) (fun ev => { ev with reason := reason })
                    (fun _ => rfl) (.looping r left)
                else
                  s.claim i r left ev (personalTarget e (e.purchase ev.order).order)
                    (shop.messageBody (e.purchase ev.order) activity ev.kind now) now

/-- What `dispatch` looks at again before it sends. -/
def stillDue (event : OutreachEvent) (activity : PurchaseActivity) (target : BotUser) : Bool :=
  let config := e.settings (shop.store event.order)
  config.mode = .live && activity.cycle = event.cycle &&
    candidateKind e event.order activity config e.now = some event.kind &&
    suppression e s.events.rows (s.allLogs e) event.order event.pk config e.now = "" &&
    event.botUser = some target.pk

def revalidate (r : Round) (left : List ℕ) (event : OutreachEvent) : OutreachSystem κ :=
  match e.activity event.order with
  | none => s.set i .idle
  | some activity =>
      match personalTarget e (e.purchase event.order).order with
      | none => s.set i (.dropping r left event)
      | some target =>
          if s.stillDue e event activity target then s.set i (.sending r left event target)
          else s.set i (.dropping r left event)

/-- The event stays as it is where it is not `sending` any more. -/
def ifSending (event : ℕ) (ev : OutreachEvent) : Bool := ev.pk = event && ev.status = .sending

def drop (r : Round) (left : List ℕ) (event : OutreachEvent) : OutreachSystem κ :=
  s.update i (ifSending event.pk)
    (fun ev => { ev with status := .cancelled, reason := "not_eligible" }) (fun _ => rfl)
    (.looping r left)

def send (r : Round) (left : List ℕ) (event : OutreachEvent) (target : BotUser) (answer : Answer) :
    OutreachSystem κ :=
  let message : Message := ⟨event.pk, event.key, target.chatId, event.body⟩
  { s.set i (.recording r left event answer) with messages := message :: s.messages }

/-- What the answer is recorded as. -/
def recorded (answer : Answer) (now : Instant) (ev : OutreachEvent) : OutreachEvent :=
  match answer with
  | .acknowledged messageId =>
      { ev with status := .sent, sentAt := some now, messageId := messageId }
  | .rejected => { ev with status := .failed, reason := "telegram_rejected" }
  | .unknown => { ev with status := .uncertain, reason := "transport_unknown" }

theorem recorded_pk (answer : Answer) (now : Instant) (ev : OutreachEvent) :
    (recorded answer now ev).pk = ev.pk := by
  cases answer <;> rfl

/-- The log that the revenue engine sees the message by. -/
def offerLog (event : OutreachEvent) : OfferLog where
  store := some (shop.store event.order)
  customer := shop.customer event.order
  status := .sent
  eventType := "purchase_journey"
  createdAt := e.now

def record (r : Round) (left : List ℕ) (event : OutreachEvent) (answer : Answer) :
    OutreachSystem κ :=
  let s' := s.update i (ifSending event.pk) (recorded answer e.now) (recorded_pk answer e.now)
    (.looping r left)
  match answer with
  | .acknowledged _ => { s' with offerLogs := offerLog e event :: s.offerLogs }
  | _ => s'

/-! ## Steps -/

/-- The next step of a run. -/
def advance (answer : Answer) : OutreachSystem κ :=
  match s.runs i with
  | .idle => s
  | .interrupting now storeId => s.interrupt i e now storeId
  | .choosing now stores => s.choose i e now stores
  | .preparing r [] => s.set i (.cancelling r)
  | .preparing r (order :: orders) => s.prepare i e r order orders
  | .creating r orders key activity => s.create i e r orders key activity
  | .refreshing r orders event activity => s.refresh i e r orders event activity
  | .updating r orders event body reason => s.write i r orders event body reason
  | .cancelling r => cancelOthers shop s i r
  | .listing r => s.list i r
  | .looping r [] => s.set i (.choosing r.now r.left)
  | .looping r (event :: left) => s.set i (.reserving r left event e.now)
  | .reserving r left event now => s.reserve i e r left event now
  | .revalidating r left event => s.revalidate i e r left event
  | .dropping r left event => s.drop i r left event
  | .sending r left event target => s.send i r left event target answer
  | .recording r left event answer => s.record i e r left event answer

def step : OutreachStep shop κ → OutreachSystem κ
  | .start i now storeId =>
      match s.runs i with
      | .idle => s.set i (.interrupting now storeId)
      | _ => s
  | .advance i e answer => s.advance i e answer
  | .crash i => s.set i .idle

end OutreachSystem

end Qasedak.Outreach
