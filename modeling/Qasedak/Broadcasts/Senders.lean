import Qasedak.Broadcasts.Model
import Mathlib.Logic.Function.Basic

/-! The queue workers of `process_broadcast_queue`, the calls of `send_campaign` and those of
`create_campaign_recipients` on one campaign. Each query, each write and each message is a step of
its own, and the steps come in any order. -/

namespace Qasedak.Broadcasts

open Foundation Store

/-- Which code a sender runs. -/
inductive Mode where
  /-- `_process_campaign`, with the most recipients that it takes. -/
  | queue (resumeFailed : Bool) (selectedLimit : ℕ)
  /-- `send_campaign`. -/
  | direct
  /-- `create_campaign_recipients`. -/
  | recreate
  deriving DecidableEq, Repr

/-- What comes next. -/
inductive Phase where
  | idle
  | begun
  | failing (error : String)
  /-- The campaign may be sent, and a queue worker looks for its recipients. -/
  | checked
  | creating
  /-- The transaction of `create_campaign_recipients` is open. -/
  | committing (write : Regeneration)
  | resuming
  | resetting (pks : List ℕ)
  | opening
  | listing
  | looping (left : List BroadcastRecipient)
  | sending (r : BroadcastRecipient) (left : List BroadcastRecipient)
  | marking (r : BroadcastRecipient) (status : RecipientStatus) (error : String)
      (left : List BroadcastRecipient)
  | ending
  /-- `refresh_campaign_counts`, with the numbers read so far; the status may be written after. -/
  | counting (read : List ℕ) (writes : Bool)
  | deciding
  | closing (status : CampaignStatus)
  deriving DecidableEq, Repr

/-- The variables of a sender: `campaign` is its copy of the row. -/
structure Sender where
  mode : Mode := .direct
  phase : Phase := .idle
  campaign : BroadcastMessage := { messageText := "", channel := .telegram }
  transientFailures : ℕ := 0
  deriving DecidableEq, Repr

/-- A message that was sent. -/
structure Delivery (κ : Type*) where
  sender : κ
  pk : ℕ
  customer : ℕ
  channel : Channel
  deriving DecidableEq, Repr

/-- The campaign's row, its recipients, the senders and the messages sent, the last one first;
`locked` are the recipients that an open transaction deletes. -/
structure BroadcastSystem (κ : Type*) where
  campaign : BroadcastMessage
  recipients : Recipients := .empty
  locked : List ℕ := []
  senders : κ → Sender := fun _ => {}
  delivered : List (Delivery κ) := []

inductive BroadcastStep (κ : Type*) where
  /-- A queue worker picks the campaign at a time. -/
  | select (i : κ) (resumeFailed : Bool) (selectedLimit : ℕ) (now : Instant)
  /-- `send_campaign` is called with a campaign that was just read. -/
  | call (i : κ)
  | recreate (i : κ)
  | advance (i : κ) (e : Surroundings)
  /-- An operator commits the cancellation. -/
  | cancel

namespace BroadcastSystem

variable {κ : Type*} [DecidableEq κ] (py : TextFunctions) (s : BroadcastSystem κ) (i : κ)

def set (k : Sender) : BroadcastSystem κ := { s with senders := Function.update s.senders i k }

def setPhase (phase : Phase) : BroadcastSystem κ :=
  s.set i { s.senders i with phase := phase }

@[simp] theorem set_senders_self {s : BroadcastSystem κ} {i : κ} (k : Sender) :
    (s.set i k).senders i = k := by
  simp [set]

theorem set_senders_of_ne {s : BroadcastSystem κ} {i j : κ} (k : Sender) (h : j ≠ i) :
    (s.set i k).senders j = s.senders j := by
  simp [set, h]

@[simp] theorem set_campaign (k : Sender) : (s.set i k).campaign = s.campaign := rfl

@[simp] theorem set_recipients (k : Sender) : (s.set i k).recipients = s.recipients := rfl

@[simp] theorem set_delivered (k : Sender) : (s.set i k).delivered = s.delivered := rfl

/-- The sender's copy is changed, and what was changed is saved. -/
def saveStatus (phase : Phase) (change : BroadcastMessage → BroadcastMessage) :
    BroadcastSystem κ :=
  { s.set i { s.senders i with
      phase := phase
      campaign := change (s.senders i).campaign } with
    campaign := change s.campaign }

/-- The status with an error in the `metadata`. -/
def failedWith (error : String) (c : BroadcastMessage) : BroadcastMessage :=
  { c with
    status := .failed
    error := some error }

def broadcastDisabled : String := "Broadcast is disabled for this store."

def textRequired : String := "Message text is required."

/-- `SETUP_NOT_READY_MESSAGE`. -/
def setupNotReady : String :=
  "فروشگاه هنوز کامل راه‌اندازی نشده است. لطفاً بعد از تکمیل setup دوباره تلاش کنید."

/-! ## Before the recipients -/

/-- A queue worker reads the campaign again. -/
def beginQueue (e : Surroundings) : BroadcastSystem κ :=
  let k := { s.senders i with campaign := s.campaign }
  if s.campaign.status = .cancelled then s.set i { k with phase := .idle }
  else if s.campaign.messageText = "" then s.set i { k with phase := .failing textRequired }
  else if e.broadcastEnabled = false then s.set i { k with phase := .failing broadcastDisabled }
  else s.set i { k with phase := .checked }

/-- `send_campaign` trusts the copy of its caller. -/
def beginDirect (e : Surroundings) : BroadcastSystem κ :=
  let c := (s.senders i).campaign
  if c.status = .cancelled then s.setPhase i (.counting [] false)
  else if c.messageText = "" then s.saveStatus i .idle (failedWith textRequired)
  else if e.sellable = false then s.saveStatus i (.counting [] false) (failedWith setupNotReady)
  else if e.broadcastEnabled = false then
    s.saveStatus i (.counting [] false) (failedWith broadcastDisabled)
  else s.saveStatus i .creating fun c => { c with status := .sending }

/-- The transaction of `create_campaign_recipients` runs up to its commit; it waits for another
one that deletes the same recipients. -/
def openRegeneration (e : Surroundings) : BroadcastSystem κ :=
  match regenerate (s.senders i).campaign.channel e s.recipients with
  | some write =>
      if write.deleted.any s.locked.contains then s
      else { s.setPhase i (.committing write) with locked := write.deleted ++ s.locked }
  | none => s.setPhase i .idle

def afterRegeneration : Mode → Phase
  | .queue _ _ => .resuming
  | .direct => .listing
  | .recreate => .idle

def commitRegeneration (write : Regeneration) : BroadcastSystem κ :=
  let k := s.senders i
  { s.set i { k with
      phase := afterRegeneration k.mode
      campaign := k.campaign.withCounts write.counts } with
    campaign := s.campaign.withCounts write.counts
    recipients := write.apply s.recipients
    locked := s.locked.filter fun pk => !write.deleted.contains pk }

/-- The recipients that `_resume_retryable_failed` finds. -/
def retryableIds : List ℕ :=
  (s.recipients.rows.filter fun r =>
    r.status = .failed && isRetryableDeliveryError py r.errorMessage).map (·.pk)

def resetToPending (r : BroadcastRecipient) : BroadcastRecipient :=
  { r with
    status := .pending
    errorMessage := ""
    sentAt := none }

def resetRecipients (pks : List ℕ) : BroadcastSystem κ :=
  { s.setPhase i .opening with
    recipients := s.recipients.modify (fun r => pks.contains r.pk) resetToPending fun _ => rfl }

/-- The pending recipients, of which a queue worker takes some. -/
def listPending : BroadcastSystem κ :=
  let pending := s.recipients.rows.filter fun r => r.status = .pending
  match (s.senders i).mode with
  | .queue _ selectedLimit => s.setPhase i (.looping (pending.take selectedLimit))
  | _ => s.setPhase i (.looping pending)

/-! ## One recipient -/

/-- Before each recipient a queue worker reads the campaign's status, and `send_campaign` the
recipient; one that is gone is an exception. -/
def nextRecipient (r : BroadcastRecipient) (left : List BroadcastRecipient) : BroadcastSystem κ :=
  let k := s.senders i
  match k.mode with
  | .queue _ _ =>
      s.set i { k with
        campaign := { k.campaign with status := s.campaign.status }
        phase := if s.campaign.status = .cancelled then .ending else .sending r left }
  | _ =>
      match s.recipients.get? r.pk with
      | none => s.setPhase i .idle
      | some r =>
          s.setPhase i (if k.campaign.status = .cancelled then .ending else .sending r left)

/-- After which failures a queue worker stops. -/
def afterMark (k : Sender) (status : RecipientStatus) (error : String)
    (left : List BroadcastRecipient) : Sender :=
  match k.mode with
  | .queue _ _ =>
      if status = .failed then
        if classifyDeliveryError py error = .rateLimited then { k with phase := .ending }
        else if classifyDeliveryError py error = .timeoutNetwork then
          { k with
            transientFailures := k.transientFailures + 1
            phase := if 3 ≤ k.transientFailures + 1 then .ending else .looping left }
        else
          { k with
            transientFailures := 0
            phase := .looping left }
      else
        { k with
          transientFailures := 0
          phase := .looping left }
  | _ => { k with phase := .looping left }

/-- What a message comes to is marked next. -/
def afterSend (r : BroadcastRecipient) (left : List BroadcastRecipient) :
    SendOutcome → Mode → Phase
  | .sent, _ => .marking r .sent "" left
  | .refused error, _ => .marking r .failed (normalizeDeliveryError py error) left
  | .raised error, .queue _ _ =>
      .marking r .failed (cutOr (normalizeDeliveryError py error) "Unknown delivery error.") left
  | .raised _, _ => .idle

/-- `send_message_to_customer`, up to the mark; the text was looked at before. -/
def sendMessage (r : BroadcastRecipient) (left : List BroadcastRecipient) (e : Surroundings) :
    BroadcastSystem κ :=
  if r.targetIdentifier = "" then
    if r.status = .skipped then s.set i (afterMark py (s.senders i) .skipped "" left)
    else
      s.setPhase i
        (.marking r .skipped "No target identifier was resolved for this recipient." left)
  else if (e.chats r.customer r.channel).contains r.targetIdentifier = false then
    s.setPhase i (.marking r .skipped "Bot user target is no longer active." left)
  else
    { s.setPhase i (afterSend py r left e.outcome (s.senders i).mode) with
      delivered :=
        if e.outcome = .sent then ⟨i, r.pk, r.customer, r.channel⟩ :: s.delivered
        else s.delivered }

def markedAs (status : RecipientStatus) (error : String) (now : Instant)
    (r : BroadcastRecipient) : BroadcastRecipient :=
  { r with
    status := status
    errorMessage := error
    sentAt := if status = .sent then some now else none }

/-- `_mark_recipient`, which waits for a transaction that deletes the row: the update of a row that
is gone is an exception, and so is the one that records the exception. -/
def markRecipient (r : BroadcastRecipient) (status : RecipientStatus) (error : String)
    (left : List BroadcastRecipient) (e : Surroundings) : BroadcastSystem κ :=
  if s.locked.contains r.pk then s
  else match s.recipients.get? r.pk with
  | none => s.setPhase i .idle
  | some _ =>
      { s.set i (afterMark py (s.senders i) status error left) with
        recipients := s.recipients.modify (fun x => x.pk = r.pk) (markedAs status error e.now)
          fun _ => rfl }

/-! ## After the recipients -/

/-- A queue worker reads the campaign again. -/
def endLoop : BroadcastSystem κ :=
  let k := s.senders i
  match k.mode with
  | .queue _ _ =>
      s.set i { k with
        campaign := s.campaign
        phase := .counting [] (s.campaign.status ≠ .cancelled) }
  | _ => s.setPhase i (.counting [] true)

def afterCounts (writes : Bool) (k : Sender) : Phase :=
  if writes then
    match k.mode with
    | .queue _ _ => .deciding
    | _ => .closing (if k.campaign.status = .cancelled then .cancelled else .sent)
  else .idle

/-- One query of `refresh_campaign_counts`, or the update of the row. -/
def count (read : List ℕ) (writes : Bool) : BroadcastSystem κ :=
  let n := countsOf s.recipients.rows
  match read with
  | [] => s.setPhase i (.counting [n.total] writes)
  | [total] => s.setPhase i (.counting [total, n.success] writes)
  | [total, success] => s.setPhase i (.counting [total, success, n.failed] writes)
  | total :: success :: failed :: _ =>
      let k := s.senders i
      let n : Counts := ⟨total, success, failed⟩
      { s.set i { k with
          phase := afterCounts writes k
          campaign := k.campaign.withCounts n } with
        campaign := s.campaign.withCounts n }

/-- The status that `_finalize_campaign` writes. -/
def settle : BroadcastSystem κ :=
  let c := (s.senders i).campaign
  if s.recipients.rows.any fun r => r.status = .pending then s.setPhase i (.closing .queued)
  else if c.successCount = 0 ∧ c.failedCount ≠ 0 then s.setPhase i (.closing .failed)
  else s.setPhase i (.closing .sent)

def sendsAt (mode : Mode) (status : CampaignStatus) : Bool :=
  match mode with
  | .queue _ _ => status = .sent
  | _ => true

def close (status : CampaignStatus) (e : Surroundings) : BroadcastSystem κ :=
  s.saveStatus i .idle fun c =>
    { c with
      status := status
      sentAt := if sendsAt (s.senders i).mode status then some e.now else c.sentAt }

/-! ## Steps -/

/-- The next step of a sender. -/
def advance (e : Surroundings) : BroadcastSystem κ :=
  match (s.senders i).phase with
  | .idle => s
  | .begun =>
      match (s.senders i).mode with
      | .queue _ _ => s.beginQueue i e
      | .direct => s.beginDirect i e
      | .recreate => s.setPhase i .creating
  | .failing error => s.saveStatus i .idle (failedWith error)
  | .checked => s.setPhase i (if s.recipients.rows = [] then .creating else .resuming)
  | .creating => s.openRegeneration i e
  | .committing write => s.commitRegeneration i write
  | .resuming =>
      match (s.senders i).mode with
      | .queue true _ => s.setPhase i (.resetting (s.retryableIds py))
      | _ => s.setPhase i .opening
  | .resetting pks => s.resetRecipients i pks
  | .opening => s.saveStatus i .listing fun c => { c with status := .sending }
  | .listing => s.listPending i
  | .looping [] => s.setPhase i .ending
  | .looping (r :: left) => s.nextRecipient i r left
  | .sending r left => s.sendMessage py i r left e
  | .marking r status error left => s.markRecipient py i r status error left e
  | .ending => s.endLoop i
  | .counting read writes => s.count i read writes
  | .deciding => s.settle i
  | .closing status => s.close i status e

/-- The campaign is one that the queue processes. -/
def isDue (c : BroadcastMessage) (now : Instant) : Bool :=
  (c.status = .queued || c.status = .sending) && c.scheduledAt.all fun t => t ≤ now

/-- A sender that is free begins with the campaign as it is stored. -/
def beginWith (mode : Mode) : BroadcastSystem κ :=
  if (s.senders i).phase = .idle then
    s.set i { mode := mode, phase := .begun, campaign := s.campaign }
  else s

def step : BroadcastStep κ → BroadcastSystem κ
  | .select i resumeFailed selectedLimit now =>
      if isDue s.campaign now then s.beginWith i (.queue resumeFailed selectedLimit) else s
  | .call i => s.beginWith i .direct
  | .recreate i => s.beginWith i .recreate
  | .advance i e => s.advance py i e
  | .cancel => { s with campaign := { s.campaign with status := .cancelled } }

/-- A campaign of which nothing was done yet. -/
def start (κ : Type*) (text : String) (channel : Channel) (status : CampaignStatus)
    (scheduledAt : Option Instant) : BroadcastSystem κ where
  campaign :=
    { messageText := text
      channel := channel
      status := status
      scheduledAt := scheduledAt }

end BroadcastSystem

end Qasedak.Broadcasts
