import Qasedak.Store.PlanDelivery
import Qasedak.Store.Naming
import Mathlib.Data.List.Sort

/-! The rows of a subscription cup in full: its items with their positions, the config links
that they show, and the feeds that renew some of the links from a panel. -/

namespace Qasedak.Subscriptions

open Foundation Store

/-! ## Rows -/

/-- `ConfigLink.SourceType`. -/
inductive LinkSourceType where
  | panelGenerated
  | manual
  | importedSubscription
  | externalSubscription
  | unknown
  deriving DecidableEq, Repr

/-- The keys of `ConfigLink.metadata` that are read. -/
structure LinkMetadata where
  /-- `plan_delivery_source_ids` with `plan_delivery_source_id`. -/
  deliverySources : List ℕ := []
  allocation : Option ℕ := none
  deriving DecidableEq, Repr

structure ConfigLink where
  pk : ℕ
  rawLink : String
  sourceType : LinkSourceType := .unknown
  sourcePanel : Option ℕ := none
  sourceInbound : Option ℕ := none
  vpnClient : Option ℕ := none
  externalFeed : Option ℕ := none
  isActive : Bool := true
  metadata : LinkMetadata := {}
  deriving DecidableEq, Repr

structure CupItem where
  pk : ℕ
  cup : ℕ
  configLink : ℕ
  position : ℕ := 0
  isActive : Bool := true
  deriving DecidableEq, Repr

inductive CupStatus where
  | active
  | disabled
  | expired
  deriving DecidableEq, Repr

structure SubscriptionCup where
  pk : ℕ
  customer : Option ℕ := none
  order : Option ℕ := none
  plan : Option ℕ := none
  vpnClient : Option ℕ := none
  token : String := ""
  status : CupStatus := .active
  expiresAt : Option Instant := none
  deriving DecidableEq, Repr

inductive FeedStatus where
  | healthy
  | degraded
  | error
  | disabled
  deriving DecidableEq, Repr

/-- `normalize_external_subscription_filter_policy`; an absent maximum is none. -/
structure FilterPolicy where
  protocols : List String
  security : List String
  transport : List String
  remarkInclude : String := ""
  remarkExclude : String := ""
  requireRealityPbk : Bool := true
  maxConfigs : Option ℕ := none
  deduplicateExact : Bool := true
  refreshIntervalHours : ℕ := 1
  deriving DecidableEq, Repr

structure ExternalSubscriptionFeed where
  pk : ℕ
  provider : String
  active : Bool := true
  cup : ℕ
  deliverySource : Option ℕ := none
  panel : Option ℕ := none
  vpnClient : Option ℕ := none
  protectedSubscriptionUrl : String := ""
  resolvedFilterPolicy : FilterPolicy
  refreshIntervalHours : ℕ := 1
  lastAttemptAt : Option Instant := none
  refreshToken : String := ""
  refreshLeaseUntil : Option Instant := none
  lastSuccessAt : Option Instant := none
  consecutiveFailures : ℕ := 0
  status : FeedStatus := .healthy
  lastGoodConfigCount : ℕ := 0
  lastSeenUpstreamCount : ℕ := 0
  lastFilteredCount : ℕ := 0
  lastErrorCode : String := ""
  deriving DecidableEq, Repr

abbrev ConfigLinks := Table ConfigLink.pk
abbrev CupItems := Table CupItem.pk
abbrev SubscriptionCups := Table SubscriptionCup.pk
abbrev Feeds := Table ExternalSubscriptionFeed.pk

/-- The tables that the cups are made from. -/
structure CupDb where
  cups : SubscriptionCups
  items : CupItems := .empty
  links : ConfigLinks := .empty
  feeds : Feeds := .empty
  clients : Clients := .empty
  orders : Orders := .empty
  panels : Panels := .empty
  inbounds : Inbounds := .empty
  deliverySources : DeliverySources := .empty
  deliveryConfigs : DeliveryConfigs := .empty

/-- `SubscriptionCup.is_accessible`. -/
def SubscriptionCup.isAccessible (now : Instant) (c : SubscriptionCup) : Bool :=
  c.status = .active && !(c.expiresAt.any fun e => e ≤ now)

/-- `not feed.active or feed.status == "disabled"`. -/
def ExternalSubscriptionFeed.isDisabled (f : ExternalSubscriptionFeed) : Bool :=
  !f.active || f.status = .disabled

/-! ## The order of the items -/

/-- `order_by("position", "pk")`. -/
def CupItem.Before (a b : CupItem) : Prop :=
  a.position < b.position ∨ a.position = b.position ∧ a.pk ≤ b.pk

instance (a b : CupItem) : Decidable (a.Before b) := inferInstanceAs (Decidable (_ ∨ _))

theorem CupItem.before_total (a b : CupItem) : a.Before b ∨ b.Before a := by
  unfold CupItem.Before
  omega

theorem CupItem.Before.trans {a b c : CupItem} (h : a.Before b) (h' : b.Before c) : a.Before c := by
  unfold CupItem.Before at *
  omega

def listed (items : List CupItem) : List CupItem :=
  items.insertionSort fun a b => a.Before b

theorem perm_listed (items : List CupItem) : (listed items).Perm items :=
  List.perm_insertionSort _ items

theorem mem_listed {items : List CupItem} {x : CupItem} : x ∈ listed items ↔ x ∈ items :=
  List.mem_insertionSort _

theorem pairwise_listed (items : List CupItem) : (listed items).Pairwise CupItem.Before := by
  have htotal : Std.Total (fun a b : CupItem => a.Before b) := ⟨CupItem.before_total⟩
  have htrans : IsTrans CupItem (fun a b => a.Before b) := ⟨fun _ _ _ => CupItem.Before.trans⟩
  exact List.pairwise_insertionSort _ items

theorem CupItem.Before.antisymm {a b : CupItem} (h : a.Before b) (h' : b.Before a) :
    a.position = b.position ∧ a.pk = b.pk := by
  unfold CupItem.Before at *
  omega

theorem nodup_listed_pk {items : List CupItem} (h : (items.map (·.pk)).Nodup) :
    ((listed items).map (·.pk)).Nodup :=
  ((perm_listed items).map _).nodup_iff.mpr h

/-- Items in order are determined by which they are. -/
theorem eq_of_mem_iff {items items' : List CupItem} (hmem : ∀ x, x ∈ items ↔ x ∈ items')
    (hsorted : items.Pairwise CupItem.Before) (hsorted' : items'.Pairwise CupItem.Before)
    (hkeys : (items.map (·.pk)).Nodup) (hkeys' : (items'.map (·.pk)).Nodup) : items = items' := by
  have hperm : items.Perm items' :=
    (List.perm_ext_iff_of_nodup (.of_map _ hkeys) (.of_map _ hkeys')).mpr hmem
  refine hperm.eq_of_pairwise ?_ hsorted hsorted'
  intro a b ha hb hab hba
  exact List.inj_on_of_nodup_map hkeys' (hperm.subset ha) hb (hab.antisymm hba).2

/-! ## What a cup shows -/

namespace CupDb

variable (db : CupDb)

/-- `item.config_link.raw_link`. -/
def rawLink (x : CupItem) : String := ((db.links.get? x.configLink).map (·.rawLink)).getD ""

/-- `config_link__external_feed` of an item. -/
def feedOf (x : CupItem) : Option ℕ := (db.links.get? x.configLink).bind (·.externalFeed)

/-- The item and its link are active. -/
def isLive (x : CupItem) : Bool := x.isActive && (db.links.get? x.configLink).any (·.isActive)

/-- The items of a cup that are shown, in order. -/
def liveItems (cup : ℕ) : List CupItem :=
  listed (db.items.rows.filter fun x => x.cup = cup && db.isLive x)

/-- `active_cup_links`. -/
def activeCupLinks (cup : ℕ) : List String :=
  ((db.liveItems cup).map fun x => strip (db.rawLink x)).filter (· ≠ "")

/-- The items of a feed in its cup that are shown, in order. -/
def liveItemsOf (cup : ℕ) (feed : Option ℕ) : List CupItem :=
  (db.liveItems cup).filter fun x => db.feedOf x = feed

/-- `source_owned_cup_item_count`. -/
def sourceOwnedCupItemCount (f : ExternalSubscriptionFeed) : ℕ :=
  db.items.rows.countP fun x => x.cup = f.cup && db.isLive x && db.feedOf x = some f.pk

theorem mem_liveItems {cup : ℕ} {x : CupItem} :
    x ∈ db.liveItems cup ↔ x ∈ db.items.rows ∧ x.cup = cup ∧ db.isLive x = true := by
  unfold liveItems
  rw [mem_listed]
  simp

theorem nodup_liveItems_pk (cup : ℕ) : ((db.liveItems cup).map (·.pk)).Nodup :=
  nodup_listed_pk ((List.filter_sublist.map _).nodup db.items.keys_nodup)

/-- Items that are shown are listed in order, whatever they are called up by. -/
theorem filter_liveItems_eq {cup : ℕ} {p : CupItem → Bool} {items : List CupItem}
    (hmem : ∀ x, x ∈ items ↔ x ∈ db.items.rows ∧ x.cup = cup ∧ db.isLive x = true ∧ p x = true)
    (hsorted : items.Pairwise CupItem.Before) (hkeys : (items.map (·.pk)).Nodup) :
    (db.liveItems cup).filter p = items := by
  refine eq_of_mem_iff (fun x => ?_) ((pairwise_listed _).filter _) hsorted
    ((List.filter_sublist.map _).nodup (db.nodup_liveItems_pk cup)) hkeys
  rw [List.mem_filter, mem_liveItems, hmem]
  simp [and_assoc]

theorem mem_liveItemsOf {cup : ℕ} {feed : Option ℕ} {x : CupItem} :
    x ∈ db.liveItemsOf cup feed ↔
      x ∈ db.items.rows ∧ x.cup = cup ∧ db.isLive x = true ∧ db.feedOf x = feed := by
  unfold liveItemsOf
  rw [List.mem_filter, mem_liveItems]
  simp [and_assoc]

/-- Every item shows a link that is there. -/
def Linked : Prop := ∀ x ∈ db.items.rows, (db.links.get? x.configLink).isSome

instance : Decidable db.Linked := inferInstanceAs (Decidable (∀ _ ∈ _, _))

end CupDb

theorem exists_link_of_feedOf {db : CupDb} {x : CupItem} {k : ℕ} (h : db.feedOf x = some k) :
    ∃ l, db.links.get? x.configLink = some l ∧ l.externalFeed = some k := by
  unfold CupDb.feedOf at h
  cases hl : db.links.get? x.configLink with
  | none => simp [hl] at h
  | some l => exact ⟨l, rfl, by simpa [hl] using h⟩

end Qasedak.Subscriptions
