import Mathlib
import Qasedak.Subscriptions.Refill

/-! A feed renews its links from the subscription of a panel: a worker claims the feed with a
token and a lease, fetches the links, and writes what it got in one transaction. -/

namespace Qasedak.Subscriptions

open Foundation Store

/-! ## What a fetch brings -/

structure ParsedNativeConfig where
  rawLink : String
  protocol : String := ""
  security : String := "none"
  transport : String := "tcp"
  remark : String := ""
  hasPbk : Bool := false
  valid : Bool := true
  deriving DecidableEq, Repr

structure NativeConfigFilterResult where
  policy : FilterPolicy
  upstreamCount : ℕ
  filteredCount : ℕ
  selectedConfigs : List ParsedNativeConfig
  deriving DecidableEq, Repr

namespace NativeConfigFilterResult

def selectedCount (result : NativeConfigFilterResult) : ℕ := result.selectedConfigs.length

def rawLinks (result : NativeConfigFilterResult) : List String :=
  result.selectedConfigs.map (·.rawLink)

end NativeConfigFilterResult

structure ExternalSubscriptionRefreshSummary where
  feed : ℕ
  ok : Bool
  status : FeedStatus
  skipped : Bool := false
  keptLastGood : Bool := false
  errorCode : String := ""
  selectedCount : ℕ := 0
  currentItemCount : ℕ := 0
  deriving DecidableEq, Repr

/-- `DROP_PROTECTION_MIN_PREVIOUS_COUNT`. -/
def dropProtectionMinPreviousCount : ℕ := 5

/-- The float `DROP_PROTECTION_RATIO`, in units of `2 ^ -52`. -/
def dropProtectionRatio : ℕ := 3152519739159347

/-- `FEED_ERROR_THRESHOLD`. -/
def feedErrorThreshold : ℕ := 2

/-- The seconds that a claim holds a feed. -/
def refreshLease : Instant := 90000000

/-! ## Changes of the feed's own row -/

namespace ExternalSubscriptionFeed

/-- The token of a worker is the stored one and its lease runs. -/
def isHeldBy (token : String) (now : Instant) (f : ExternalSubscriptionFeed) : Bool :=
  f.refreshToken = token && f.refreshLeaseUntil.any fun expiry => now < expiry

/-- One of the fields that a fetch relies on has changed since. -/
def sourceChanged (original f : ExternalSubscriptionFeed) : Bool :=
  f.cup ≠ original.cup || f.panel ≠ original.panel || f.vpnClient ≠ original.vpnClient ||
    f.protectedSubscriptionUrl ≠ original.protectedSubscriptionUrl ||
    f.resolvedFilterPolicy ≠ original.resolvedFilterPolicy

def claimed (token : String) (now : Instant) (f : ExternalSubscriptionFeed) :
    ExternalSubscriptionFeed :=
  { f with
    refreshToken := token
    refreshLeaseUntil := some (now + refreshLease)
    lastAttemptAt := some now }

def released (token : String) (f : ExternalSubscriptionFeed) : ExternalSubscriptionFeed :=
  if f.refreshToken = token then { f with refreshToken := "", refreshLeaseUntil := none } else f

/-- The fields that `_mark_feed_failure` writes. -/
def failed (code : String) (result : Option NativeConfigFilterResult) (now : Instant)
    (f : ExternalSubscriptionFeed) : ExternalSubscriptionFeed :=
  { f with
    lastAttemptAt := some now
    consecutiveFailures := f.consecutiveFailures + 1
    status := if feedErrorThreshold ≤ f.consecutiveFailures + 1 then .error else .degraded
    lastErrorCode :=
      ((if code = "" then "external_subscription_refresh_failed" else code).take 80).toString
    lastSeenUpstreamCount := (result.map (·.upstreamCount)).getD f.lastSeenUpstreamCount
    lastFilteredCount := (result.map (·.filteredCount)).getD f.lastFilteredCount }

/-- The fields that `_reconcile_success` writes. -/
def succeeded (result : NativeConfigFilterResult) (now : Instant) (f : ExternalSubscriptionFeed) :
    ExternalSubscriptionFeed :=
  { f with
    status := .healthy
    active := true
    lastAttemptAt := some now
    lastSuccessAt := some now
    consecutiveFailures := 0
    lastErrorCode := ""
    lastGoodConfigCount := result.selectedCount
    lastSeenUpstreamCount := result.upstreamCount
    lastFilteredCount := result.filteredCount
    refreshIntervalHours := result.policy.refreshIntervalHours }

@[simp] theorem claimed_pk (token : String) (now : Instant) (f : ExternalSubscriptionFeed) :
    (f.claimed token now).pk = f.pk := rfl

@[simp] theorem failed_pk (code : String) (result : Option NativeConfigFilterResult)
    (now : Instant) (f : ExternalSubscriptionFeed) : (f.failed code result now).pk = f.pk := rfl

@[simp] theorem succeeded_pk (result : NativeConfigFilterResult) (now : Instant)
    (f : ExternalSubscriptionFeed) : (f.succeeded result now).pk = f.pk := rfl

@[simp] theorem released_pk (token : String) (f : ExternalSubscriptionFeed) :
    (f.released token).pk = f.pk := by
  unfold released
  split <;> rfl

/-- What a link of the feed is written with. -/
def content (f : ExternalSubscriptionFeed) (parsed : ParsedNativeConfig) : LinkContent where
  rawLink := parsed.rawLink
  sourceType := some .externalSubscription
  sourcePanel := f.panel
  vpnClient := f.vpnClient
  externalFeed := some (some f.pk)
  metadata := some {}

end ExternalSubscriptionFeed

/-! ## Writes -/

namespace CupDb

variable (db : CupDb)

def modifyFeed (pk : ℕ) (change : ExternalSubscriptionFeed → ExternalSubscriptionFeed)
    (hchange : ∀ f, (change f).pk = f.pk) : CupDb :=
  { db with feeds := db.feeds.modify pk change hchange }

/-- The items of a feed in its cup, in order. -/
def itemsOf (f : ExternalSubscriptionFeed) : List CupItem :=
  listed (db.items.rows.filter fun x => x.cup = f.cup && db.feedOf x = some f.pk)

/-- The largest position among the active items of the cup that are not the feed's. -/
def maxOtherPosition (f : ExternalSubscriptionFeed) : ℕ :=
  ((db.items.rows.filter fun x => x.cup = f.cup && x.isActive && db.feedOf x ≠ some f.pk).map
    (·.position)).foldr max 0

/-- The position from which the links of a feed are written. -/
def basePosition (f : ExternalSubscriptionFeed) : ℕ :=
  ((db.itemsOf f).map (·.position)).min?.getD (db.maxOtherPosition f + 1)

def reusableItems (f : ExternalSubscriptionFeed) : Reusable :=
  (db.itemsOf f).map fun x => (x, db.rawLink x)

def dropItem (stale : List CupItem) (x : CupItem) : CupItem :=
  if x.pk ∈ stale.map (·.pk) then { x with isActive := false } else x

def dropLink (f : ExternalSubscriptionFeed) (stale : List CupItem) (l : ConfigLink) : ConfigLink :=
  if l.pk ∈ stale.map (·.configLink) ∧ l.externalFeed = some f.pk
  then { l with isActive := false } else l

@[simp] theorem dropItem_pk (stale : List CupItem) (x : CupItem) :
    (dropItem stale x).pk = x.pk := by
  unfold dropItem
  split <;> rfl

@[simp] theorem dropLink_pk (f : ExternalSubscriptionFeed) (stale : List CupItem)
    (l : ConfigLink) : (dropLink f stale l).pk = l.pk := by
  unfold dropLink
  split <;> rfl

/-- The items of a feed that are left over go, and their links with them. -/
def dropItems (f : ExternalSubscriptionFeed) (stale : List CupItem) : CupDb :=
  { db with
    items := db.items.map (dropItem stale) (dropItem_pk stale)
    links := db.links.map (dropLink f stale) (dropLink_pk f stale) }

/-- The selected links are written into items of the feed. -/
def refillOf (f : ExternalSubscriptionFeed) (configs : List ParsedNativeConfig) :
    CupDb × List CupItem :=
  refill f.cup (db.basePosition f) (configs.map f.content) (db.reusableItems f) db

/-- The items of the feed that are left over. -/
def staleItems (f : ExternalSubscriptionFeed) (configs : List ParsedNativeConfig) :
    List CupItem :=
  (db.itemsOf f).filter fun x => decide (x.pk ∉ (db.refillOf f configs).2.map (·.pk))

/-- The writes of `_reconcile_success` to items and links. -/
def writeConfigs (f : ExternalSubscriptionFeed) (configs : List ParsedNativeConfig) : CupDb :=
  (db.refillOf f configs).1.dropItems f (db.staleItems f configs)

/-- `_summary_from_filter`. -/
def summaryFromFilter (f : ExternalSubscriptionFeed) (result : Option NativeConfigFilterResult)
    (summary : ExternalSubscriptionRefreshSummary) : ExternalSubscriptionRefreshSummary :=
  { summary with
    feed := f.pk
    selectedCount := (result.map (·.selectedCount)).getD 0
    currentItemCount := db.sourceOwnedCupItemCount f }

/-- The answer of a write that is refused. -/
def refused (f : ExternalSubscriptionFeed) (result : Option NativeConfigFilterResult)
    (errorCode : String) : ExternalSubscriptionRefreshSummary :=
  db.summaryFromFilter f result
    { feed := f.pk
      ok := false
      status := f.status
      skipped := true
      keptLastGood := true
      errorCode := errorCode }

theorem get?_modifyFeed {db : CupDb} {pk : ℕ}
    {change : ExternalSubscriptionFeed → ExternalSubscriptionFeed}
    {hchange : ∀ f, (change f).pk = f.pk} (k : ℕ) :
    (db.modifyFeed pk change hchange).feeds.get? k =
      (db.feeds.get? k).map fun f => if k = pk then change f else f :=
  Table.get?_modify _ _ _ _ hchange

end CupDb

/-! ## The transactions of a refresh -/

/-- The claim at the start of `refresh_external_subscription_feed`; none is a row that is not
there. The clock is read once before the transaction and again in it. -/
def claimFeed (feed : ℕ) (force : Bool) (minIntervalSeconds : ℕ) (token : String)
    (now clock : Instant) (db : CupDb) :
    Option (Except ExternalSubscriptionRefreshSummary CupDb) := do
  let f ← db.feeds.get? feed
  let cup ← db.cups.get? f.cup
  let unavailable := !cup.isAccessible clock || !force && f.isDisabled ||
    f.refreshLeaseUntil.any (fun expiry => now < expiry) ||
    minIntervalSeconds ≠ 0 &&
      f.lastAttemptAt.any fun attempt => now - minIntervalSeconds * 1000000 < attempt
  if unavailable then
    some (.error
      { feed := f.pk
        ok := false
        status := f.status
        skipped := true
        keptLastGood := true
        currentItemCount := db.sourceOwnedCupItemCount f
        errorCode := "refresh_not_available" })
  else some (.ok (db.modifyFeed feed (·.claimed token now)
    (ExternalSubscriptionFeed.claimed_pk token now)))

/-- The release at its end. -/
def releaseFeed (feed : ℕ) (token : String) (db : CupDb) : CupDb :=
  db.modifyFeed feed (·.released token) (ExternalSubscriptionFeed.released_pk token)

/-- `_mark_feed_failure`. -/
def markFeedFailure (original : ExternalSubscriptionFeed) (code : String)
    (result : Option NativeConfigFilterResult) (token : Option String) (now clock : Instant)
    (db : CupDb) : Option (ExternalSubscriptionRefreshSummary × CupDb) := do
  let f ← db.feeds.get? original.pk
  let cup ← db.cups.get? f.cup
  if token.any fun t => !f.isHeldBy t now then
    some (db.refused f result "refresh_superseded", db)
  else if !cup.isAccessible clock || !original.isDisabled && f.isDisabled then
    some (db.refused f result "external_feed_disabled", db)
  else
    let failed := f.failed code result now
    some (db.summaryFromFilter f result
      { feed := f.pk
        ok := false
        status := failed.status
        keptLastGood := true
        errorCode := failed.lastErrorCode },
      db.modifyFeed f.pk (·.failed code result now)
        (ExternalSubscriptionFeed.failed_pk code result now))

/-- `_reconcile_success`. -/
def reconcileSuccess (original : ExternalSubscriptionFeed) (result : NativeConfigFilterResult)
    (token : Option String) (allowDisabled : Bool) (now clock : Instant) (db : CupDb) :
    Option (ExternalSubscriptionRefreshSummary × CupDb) := do
  let f ← db.feeds.get? original.pk
  let cup ← db.cups.get? f.cup
  if token.any fun t => !f.isHeldBy t now then
    some (db.refused f (some result) "refresh_superseded", db)
  else if f.sourceChanged original then
    some (db.refused f (some result) "refresh_source_changed", db)
  else if !cup.isAccessible clock || f.isDisabled && !allowDisabled then
    some (db.refused f (some result) "external_feed_disabled", db)
  else
    let written := (db.writeConfigs f result.selectedConfigs).modifyFeed f.pk
      (·.succeeded result now) (ExternalSubscriptionFeed.succeeded_pk result now)
    some (written.summaryFromFilter f (some result) { feed := f.pk, ok := true, status := .healthy },
      written)

/-! ## The decision between them -/

/-- The product of a count and the ratio, as the float that it is rounded to: the nearest number
of 53 bits, and the even one of two. -/
def dropProtectionLimit (previous : ℕ) : ℕ :=
  let product := previous * dropProtectionRatio
  let unit := 2 ^ (product.log2 - 52)
  let quotient := product / unit
  let remainder := product % unit
  let up := unit < 2 * remainder ∨ unit = 2 * remainder ∧ quotient % 2 = 1
  (if up then quotient + 1 else quotient) * unit

/-- `lost_count > previous_count * DROP_PROTECTION_RATIO`. -/
def isMassiveDrop (previous selected : ℕ) : Bool :=
  (dropProtectionLimit previous : ℤ) < ((previous : ℤ) - selected) * 2 ^ 52

/-- `_should_block_massive_drop`. -/
def shouldBlockMassiveDrop (db : CupDb) (f : ExternalSubscriptionFeed)
    (result : NativeConfigFilterResult) (force : Bool) : Bool :=
  let previous :=
    if f.lastGoodConfigCount ≠ 0 then f.lastGoodConfigCount else db.sourceOwnedCupItemCount f
  !force && !(previous < dropProtectionMinPreviousCount) &&
    isMassiveDrop previous result.selectedCount

/-- What a worker is about to write. -/
inductive RefreshWrite where
  | failure (code : String) (result : Option NativeConfigFilterResult)
  | success (result : NativeConfigFilterResult)
  deriving DecidableEq, Repr

/-- The part of `_refresh_claimed_feed` between the fetch and the write; a fetch that fails has
an error code. -/
def judgeFetch (filterNativeConfigs : List String → FilterPolicy → NativeConfigFilterResult)
    (f : ExternalSubscriptionFeed) (fetched : Except String (List String)) (force : Bool)
    (db : CupDb) : RefreshWrite :=
  match fetched with
  | .error code => .failure code none
  | .ok links =>
      let result := filterNativeConfigs links f.resolvedFilterPolicy
      if result.selectedCount = 0 then
        .failure (if result.upstreamCount = 0 then "upstream_empty" else "filter_result_empty")
          (some result)
      else if shouldBlockMassiveDrop db f result force then
        .failure "suspicious_config_drop" (some result)
      else .success result

/-- The write of `_refresh_claimed_feed`. -/
def writeRefresh (original : ExternalSubscriptionFeed) (write : RefreshWrite) (force : Bool)
    (token : Option String) (now clock : Instant) (db : CupDb) :
    Option (ExternalSubscriptionRefreshSummary × CupDb) :=
  match write with
  | .failure code result => markFeedFailure original code result token now clock db
  | .success result =>
      reconcileSuccess original result token (force && original.isDisabled) now clock db

/-- The readings of the clock in a refresh: for the claim before its transaction and in it, and
for the write. -/
structure RefreshTimes where
  claimNow : Instant
  claimClock : Instant
  writeNow : Instant
  writeClock : Instant
  deriving DecidableEq, Repr

/-- `_refresh_claimed_feed` in a database that stays alone with it; none is an exception. -/
def refreshClaimedFeed
    (filterNativeConfigs : List String → FilterPolicy → NativeConfigFilterResult) (feed : ℕ)
    (force : Bool) (token : String) (fetched : Except String (List String)) (times : RefreshTimes)
    (db : CupDb) : Option (ExternalSubscriptionRefreshSummary × CupDb) := do
  let f ← db.feeds.get? feed
  if f.isDisabled && !force then
    some (
      { feed := f.pk
        ok := false
        status := .disabled
        skipped := true
        currentItemCount := db.sourceOwnedCupItemCount f
        errorCode := "external_feed_disabled" }, db)
  else
    writeRefresh f (judgeFetch filterNativeConfigs f fetched force db) force (some token)
      times.writeNow times.writeClock db

/-- `refresh_external_subscription_feed` without `dry_run`. -/
def refreshExternalSubscriptionFeed
    (filterNativeConfigs : List String → FilterPolicy → NativeConfigFilterResult) (feed : ℕ)
    (force : Bool) (minIntervalSeconds : ℕ) (token : String)
    (fetched : Except String (List String)) (times : RefreshTimes) (db : CupDb) :
    Option ExternalSubscriptionRefreshSummary × CupDb :=
  match claimFeed feed force minIntervalSeconds token times.claimNow times.claimClock db with
  | none => (none, db)
  | some (.error summary) => (some summary, db)
  | some (.ok claimed) =>
      match refreshClaimedFeed filterNativeConfigs feed force token fetched times claimed with
      | none => (none, releaseFeed feed token claimed)
      | some (summary, written) => (some summary, releaseFeed feed token written)

end Qasedak.Subscriptions
