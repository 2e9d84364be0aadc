import Qasedak.CustomerActivity.ActivityLabel
import Mathlib.Logic.Function.Basic

/-! `customer_activity/services.py`: collectors of activity, any number of them at a time. Each
transaction and each reading of a panel is a step of its own, and the steps come in any order. -/

namespace Qasedak.CustomerActivity

open Foundation Store

/-- `LEASE`. -/
def lease : Instant := minutes 10

/-- What a run leaves in the `summary` of the collector's row. -/
inductive CollectorSummary where
  | empty
  | error (name : String)
  | completed (purchases : ℕ) (panels : List (ℕ × String)) (quality : List String)
  deriving DecidableEq, Repr

/-- `ActivityCollector`, of which there is one row. -/
structure ActivityCollector where
  token : String := ""
  leaseUntil : Option Instant := none
  heartbeatAt : Option Instant := none
  completedAt : Option Instant := none
  summary : CollectorSummary := .empty
  deriving DecidableEq, Repr

namespace ActivityCollector

/-- The row is leased to the token at a time. -/
def isHeldBy (row : ActivityCollector) (token : String) (now : Instant) : Bool :=
  row.token = token && row.leaseUntil.any fun expiry => now < expiry

/-- `_claim`, where no lease runs. -/
def claim (row : ActivityCollector) (token : String) (now : Instant) : Option ActivityCollector :=
  if row.leaseUntil.all fun expiry => expiry ≤ now then
    some { row with
      token := token
      leaseUntil := some (now + lease)
      heartbeatAt := some now }
  else none

/-- `_heartbeat`; an answer of none is the error that the lease is lost. -/
def heartbeat (row : ActivityCollector) (token : String) (now : Instant) :
    Option ActivityCollector :=
  if row.isHeldBy token now then
    some { row with
      leaseUntil := some (now + lease)
      heartbeatAt := some now }
  else none

/-- An update of the row where it has the token. -/
def updateWhere (row : ActivityCollector) (token : String)
    (change : ActivityCollector → ActivityCollector) : ActivityCollector :=
  if row.token = token then change row else row

end ActivityCollector

/-- The `panel_id`s of the sources; no panel has the key zero. -/
def panelIds (maps : List PurchaseMap) : List ℕ :=
  ((maps.flatMap (·.sources)).filterMap (·.panelId)).filter (· ≠ 0)

/-- `panels.get(panel_id, "ok")`. -/
def panelStatus (panels : List (ℕ × String)) (panelId : Option ℕ) : String :=
  (panelId.bind fun k => panels.lookup k).getD "ok"

/-- An unmapped source of a panel that was not read in full has the panel's status as its
reason. -/
def reasonOfPanels (panels : List (ℕ × String)) (m : PurchaseMap) (reason : String) : String :=
  if reason = "unmapped_source" then
    ((m.sources.map fun s => panelStatus panels s.panelId).find? (· ≠ "ok")).getD reason
  else reason

/-- How far a run of `collect_activity` is. -/
inductive CollectorPhase where
  | idle
  | claimed
  /-- The next of the panels is to be read, after a heartbeat. -/
  | panels (left : List ℕ)
  | reading (panel : ℕ) (left : List ℕ)
  | recording (left : List PurchaseMap)
  /-- A purchase was recorded, and a heartbeat follows. -/
  | recorded (left : List PurchaseMap)
  | failing (error : String)
  | releasing
  deriving DecidableEq, Repr

/-- The variables of a run. -/
structure Collector where
  phase : CollectorPhase := .idle
  token : String := ""
  maps : List PurchaseMap := []
  orphans : List Source := []
  rows : List PanelRow := []
  panels : List (ℕ × String) := []
  counts : List String := []

/-- The row, the collectors and what is recorded of each order; `used` are the tokens that were
drawn. -/
structure CollectorSystem (κ : Type*) where
  row : ActivityCollector
  collectors : κ → Collector := fun _ => {}
  recorders : ℕ → Recorder := fun _ => {}
  used : List String

inductive CollectorStep (κ : Type*) where
  | claim (i : κ) (token : String) (now : Instant)
  | load (i : κ) (maps : List PurchaseMap) (orphans : List Source) (stored : List ℕ)
  | heartbeat (i : κ) (now : Instant)
  | read (i : κ) (samples : List PanelRow) (status : String)
  | record (i : κ) (now : Instant)
  | complete (i : κ) (now : Instant)
  /-- An exception, of a name. -/
  | raise (i : κ) (error : String)
  /-- The run is told to end, which is no `Exception`. -/
  | interrupt (i : κ)
  | fail (i : κ)
  | release (i : κ)
  /-- The process is gone, and nothing is released. -/
  | crash (i : κ)

/-- The collector whose step it is. -/
def CollectorStep.collector {κ : Type*} : CollectorStep κ → κ
  | .claim i _ _ => i
  | .load i _ _ _ => i
  | .heartbeat i _ => i
  | .read i _ _ => i
  | .record i _ => i
  | .complete i _ => i
  | .raise i _ => i
  | .interrupt i => i
  | .fail i => i
  | .release i => i
  | .crash i => i

namespace CollectorSystem

variable {κ : Type*} [DecidableEq κ] (digest : RowScope → String) (minimum : ℤ)
  (s : CollectorSystem κ) (i : κ)

def set (c : Collector) : CollectorSystem κ :=
  { s with collectors := Function.update s.collectors i c }

def setPhase (phase : CollectorPhase) : CollectorSystem κ :=
  s.set i { s.collectors i with phase := phase }

/-- `RuntimeError("Activity collector lease lost")`. -/
def leaseLost : CollectorSystem κ := s.setPhase i (.failing "RuntimeError")

def claimStep (token : String) (now : Instant) : CollectorSystem κ :=
  match (s.collectors i).phase with
  | .idle =>
      match s.row.claim token now with
      | some row =>
          { s.set i { phase := .claimed, token := token } with
            row := row
            used := token :: s.used }
      | none => s
  | _ => s

/-- `load_purchase_maps`, and the panels that are stored. -/
def loadStep (maps : List PurchaseMap) (orphans : List Source) (stored : List ℕ) :
    CollectorSystem κ :=
  match (s.collectors i).phase with
  | .claimed =>
      s.set i { s.collectors i with
        maps := maps
        orphans := orphans
        phase := .panels (stored.filter fun k => (panelIds maps).contains k) }
  | _ => s

/-- Where a heartbeat leads to. -/
def beat (now : Instant) (next : CollectorPhase) : CollectorSystem κ :=
  match s.row.heartbeat (s.collectors i).token now with
  | some row => { s.setPhase i next with row := row }
  | none => s.leaseLost i

def heartbeatStep (now : Instant) : CollectorSystem κ :=
  match (s.collectors i).phase with
  | .panels (panel :: left) => s.beat i now (.reading panel left)
  | .panels [] => s.beat i now (.recording (s.collectors i).maps)
  | .recorded left => s.beat i now (.recording left)
  | _ => s

/-- `read_panel`. -/
def readStep (samples : List PanelRow) (status : String) : CollectorSystem κ :=
  match (s.collectors i).phase with
  | .reading panel left =>
      s.set i { s.collectors i with
        rows := (s.collectors i).rows ++ samples
        panels := (s.collectors i).panels ++ [(panel, status)]
        phase := .panels left }
  | _ => s

/-- The observation of a purchase, from what the panels were read as. -/
def observation (c : Collector) (m : PurchaseMap) (now : Instant) : Observation :=
  let resolved := resolveMap digest c.maps c.orphans c.rows m
  { purchase := m
    rows := resolved.1
    reason := reasonOfPanels c.panels m resolved.2
    now := now }

/-- The transaction of one purchase, under the lock of the collector's row. -/
def recordNext (m : PurchaseMap) (left : List PurchaseMap) (now : Instant) : CollectorSystem κ :=
  let c := s.collectors i
  let o := observation digest c m now
  if s.row.isHeldBy c.token now then
    if o.raises then s.setPhase i (.failing "TypeError")
    else
      let recorder := recordStep minimum (s.recorders m.order.pk) o
      { s.set i { c with
          counts := c.counts ++ [recorder.activity.reason]
          phase := .recorded left } with
        recorders := Function.update s.recorders m.order.pk recorder }
  else s.leaseLost i

def recordPhase (now : Instant) : CollectorSystem κ :=
  match (s.collectors i).phase with
  | .recording (m :: left) => s.recordNext digest minimum i m left now
  | _ => s

def completeStep (now : Instant) : CollectorSystem κ :=
  match (s.collectors i).phase with
  | .recording [] =>
      let c := s.collectors i
      { s.setPhase i .releasing with
        row := s.row.updateWhere c.token fun row =>
          { row with
            completedAt := some now
            summary := .completed c.maps.length c.panels c.counts } }
  | _ => s

/-- An exception leads to the handler, and from there to the release. -/
def raiseStep (error : String) : CollectorSystem κ :=
  match (s.collectors i).phase with
  | .idle => s
  | .failing _ => s.setPhase i .releasing
  | .releasing => s.setPhase i .idle
  | _ => s.setPhase i (.failing error)

def interruptStep : CollectorSystem κ :=
  match (s.collectors i).phase with
  | .idle => s
  | .releasing => s.setPhase i .idle
  | _ => s.setPhase i .releasing

def failStep : CollectorSystem κ :=
  match (s.collectors i).phase with
  | .failing error =>
      { s.setPhase i .releasing with
        row := s.row.updateWhere (s.collectors i).token fun row =>
          { row with summary := .error error } }
  | _ => s

def releaseStep : CollectorSystem κ :=
  match (s.collectors i).phase with
  | .releasing =>
      { s.setPhase i .idle with
        row := s.row.updateWhere (s.collectors i).token fun row => { row with leaseUntil := none } }
  | _ => s

def step : CollectorStep κ → CollectorSystem κ
  | .claim i token now => s.claimStep i token now
  | .load i maps orphans stored => s.loadStep i maps orphans stored
  | .heartbeat i now => s.heartbeatStep i now
  | .read i samples status => s.readStep i samples status
  | .record i now => s.recordPhase digest minimum i now
  | .complete i now => s.completeStep i now
  | .raise i error => s.raiseStep i error
  | .interrupt i => s.interruptStep i
  | .fail i => s.failStep i
  | .release i => s.releaseStep i
  | .crash i => s.setPhase i .idle

/-- A token is drawn once. -/
def Draws : CollectorStep κ → Prop
  | .claim _ token _ => token ∉ s.used
  | _ => True

instance : DecidablePred s.Draws
  | .claim _ token _ => inferInstanceAs (Decidable (token ∉ s.used))
  | .load .. | .heartbeat .. | .read .. | .record .. | .complete .. | .raise .. | .interrupt _
  | .fail _ | .release _ | .crash _ => inferInstanceAs (Decidable True)

/-- No collector runs yet. -/
def start (κ : Type*) (row : ActivityCollector) : CollectorSystem κ where
  row := row
  used := [row.token]

end CollectorSystem

end Qasedak.CustomerActivity
