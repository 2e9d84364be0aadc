import Mathlib
import Qasedak.Foundation.Serial
import Qasedak.Store.Model

/-! `store/broadcast_services.py`: broadcast campaigns, their recipients and what a delivery that
fails is recorded as. -/

namespace Qasedak.Broadcasts

open Foundation Store

inductive Channel where
  | telegram
  | bale
  | allAvailable
  deriving DecidableEq, Repr

inductive CampaignStatus where
  | draft
  | queued
  | sending
  | sent
  | failed
  | cancelled
  deriving DecidableEq, Repr

inductive RecipientStatus where
  | pending
  | sent
  | failed
  | skipped
  deriving DecidableEq, Repr

/-- `BroadcastMessage`; the text is stripped when it is saved, and `error` is the one of the
`metadata`. -/
structure BroadcastMessage where
  messageText : String
  channel : Channel
  status : CampaignStatus := .queued
  scheduledAt : Option Instant := none
  sentAt : Option Instant := none
  totalRecipients : ℕ := 0
  successCount : ℕ := 0
  failedCount : ℕ := 0
  error : Option String := none
  deriving DecidableEq, Repr

/-- `BroadcastRecipient`, of the one campaign. -/
structure BroadcastRecipient where
  pk : ℕ
  customer : ℕ
  channel : Channel
  targetIdentifier : String
  status : RecipientStatus
  errorMessage : String
  sentAt : Option Instant := none
  deriving DecidableEq, Repr

abbrev Recipients := Serial BroadcastRecipient.pk

/-- What `send_message` of a bot comes to. -/
inductive SendOutcome where
  | sent
  /-- `BotDeliveryError`. -/
  | refused (error : String)
  /-- Another exception. -/
  | raised (error : String)
  deriving DecidableEq, Repr

/-- What the database and the world outside say when a step is taken. -/
structure Surroundings where
  /-- `get_customers_for_audience`. -/
  audience : List ℕ
  /-- The chats of a customer's active bot users on a channel, the last seen first. -/
  chats : ℕ → Channel → List String
  broadcastEnabled : Bool := true
  sellable : Bool := true
  outcome : SendOutcome := .sent
  now : Instant := 0

/-! ## Recipients -/

/-- `_campaign_channels`. -/
def campaignChannels : Channel → List Channel
  | .allAvailable => [.telegram, .bale]
  | channel => [channel]

/-- A row of `resolve_campaign_recipients`, which is a recipient without a key. -/
structure ResolvedRow where
  customer : ℕ
  channel : Channel
  targetIdentifier : String
  status : RecipientStatus
  errorMessage : String
  deriving DecidableEq, Repr

/-- The rows of one customer. -/
def resolveCustomer (channel : Channel) (e : Surroundings) (customer : ℕ) : List ResolvedRow :=
  let deliverable := (campaignChannels channel).filterMap fun c =>
    (e.chats customer c).head?.map fun chat => ⟨customer, c, chat, .pending, ""⟩
  if deliverable = [] then
    [⟨customer, channel, "", .skipped, "No active bot user target was found for this channel."⟩]
  else deliverable

/-- `resolve_campaign_recipients`. -/
def resolveCampaignRecipients (channel : Channel) (e : Surroundings) : List ResolvedRow :=
  e.audience.flatMap (resolveCustomer channel e)

def BroadcastRecipient.isFor (r : BroadcastRecipient) (row : ResolvedRow) : Bool :=
  r.customer = row.customer && r.channel = row.channel

/-- A pending or a skipped recipient, which is resolved again. -/
def BroadcastRecipient.renewable (r : BroadcastRecipient) : Bool :=
  r.status = .pending || r.status = .skipped

/-- `get_or_create` of a row after the renewable recipients are gone: a row for a recipient that
is kept is dropped, and one for a recipient of this transaction replaces it. -/
def addRow (kept : List BroadcastRecipient) (created : List ResolvedRow) (row : ResolvedRow) :
    List ResolvedRow :=
  if kept.any (·.isFor row) then created
  else if created.any fun c => c.customer = row.customer && c.channel = row.channel then
    created.map fun c =>
      if c.customer = row.customer && c.channel = row.channel then row else c
  else created ++ [row]

def ResolvedRow.toRecipient (row : ResolvedRow) (pk : ℕ) : BroadcastRecipient where
  pk := pk
  customer := row.customer
  channel := row.channel
  targetIdentifier := row.targetIdentifier
  status := row.status
  errorMessage := row.errorMessage

/-- The numbers of `refresh_campaign_counts`: all recipients, the sent and the failed ones. -/
structure Counts where
  total : ℕ
  success : ℕ
  failed : ℕ
  deriving DecidableEq, Repr

def countStatus (rows : List BroadcastRecipient) (status : RecipientStatus) : ℕ :=
  rows.countP fun r => r.status = status

def countsOf (rows : List BroadcastRecipient) : Counts where
  total := rows.length
  success := countStatus rows .sent
  failed := countStatus rows .failed

def BroadcastMessage.withCounts (c : BroadcastMessage) (n : Counts) : BroadcastMessage :=
  { c with
    totalRecipients := n.total
    successCount := n.success
    failedCount := n.failed }

/-- What the transaction of `create_campaign_recipients` is to write. -/
structure Regeneration where
  deleted : List ℕ
  created : List ResolvedRow
  counts : Counts
  deriving DecidableEq, Repr

/-- `create_campaign_recipients`, as far as its commit; a recipient that is there twice is an
exception. -/
def regenerate (channel : Channel) (e : Surroundings) (recipients : Recipients) :
    Option Regeneration :=
  let rows := resolveCampaignRecipients channel e
  let kept := recipients.rows.filter fun r => !r.renewable
  if rows.any fun row => 1 < (kept.filter (·.isFor row)).length then none
  else
    let created := rows.foldl (addRow kept) []
    some
      { deleted := (recipients.rows.filter (·.renewable)).map (·.pk)
        created := created
        counts := countsOf (kept ++ created.map (·.toRecipient 0)) }

/-- The commit. -/
def Regeneration.apply (write : Regeneration) (recipients : Recipients) : Recipients :=
  (recipients.remove fun r => write.deleted.contains r.pk).appendAll ResolvedRow.toRecipient
    (fun _ _ => rfl) write.created

/-! ## Errors of a delivery -/

/-- `str.strip` and `str.lower`. -/
structure TextFunctions where
  strip : String → String
  lower : String → String

/-- `term in text`. -/
def occursIn (text term : String) : Bool := decide (term.toList <:+: text.toList)

def targetInvalidTerms : List String :=
  ["chat not found", "invalid chat", "invalid_chat_id", "target invalid", "telegram_target_invalid"]

def blockedTerms : List String := ["blocked", "forbidden"]

def rateLimitTerms : List String :=
  ["429", "too many requests", "retry after", "rate limit", "rate_limited"]

def transientTerms : List String :=
  ["timeout", "timed out", "read timed out", "temporarily unavailable", "connection aborted",
    "connection reset", "connection refused", "remote disconnected", "502", "503", "504"]

/-- `text[:1000] or default`. -/
def cutOr (text default : String) : String :=
  let cut := String.ofList (text.toList.take 1000)
  if cut = "" then default else cut

/-- `normalize_delivery_error`. -/
def normalizeDeliveryError (py : TextFunctions) (error : String) : String :=
  let message := py.strip error
  let lowered := py.lower message
  if occursIn lowered "chat not found" then "chat not found"
  else if occursIn lowered "blocked" then "bot blocked"
  else if occursIn lowered "forbidden" then "forbidden"
  else if occursIn lowered "timeout" || occursIn lowered "timed out" then "timeout"
  else cutOr message "Unknown delivery error."

inductive ErrorCategory where
  | none
  | noTarget
  | targetInvalid
  | blocked
  | rateLimited
  | timeoutNetwork
  | apiError
  deriving DecidableEq, Repr

/-- `classify_delivery_error`. -/
def classifyDeliveryError (py : TextFunctions) (error : String) : ErrorCategory :=
  let lowered := py.lower (py.strip error)
  if lowered = "" then .none
  else if occursIn lowered "no active bot user" || occursIn lowered "no target identifier" ||
      occursIn lowered "no botuser" then .noTarget
  else if targetInvalidTerms.any (occursIn lowered) then .targetInvalid
  else if blockedTerms.any (occursIn lowered) then .blocked
  else if rateLimitTerms.any (occursIn lowered) then .rateLimited
  else if transientTerms.any (occursIn lowered) then .timeoutNetwork
  else .apiError

/-- `is_retryable_delivery_error`. -/
def isRetryableDeliveryError (py : TextFunctions) (error : String) : Bool :=
  classifyDeliveryError py error = .rateLimited || classifyDeliveryError py error = .timeoutNetwork

end Qasedak.Broadcasts
