import Qasedak.Subscriptions.Sync

/-! A cup is rebuilt from the links of a service. What feeds manage is left to them. -/

namespace Qasedak.Subscriptions

open Foundation Store

/-- A link of `config_entries_for_vpn_client` or `config_entries_for_order`. -/
structure CupEntry where
  rawLink : String
  sourceInbound : Option ℕ := none
  sourcePanel : Option ℕ := none
  deriving DecidableEq, Repr

/-- An entry of `xui_raw["bundle_inbound_results"]`. -/
structure BundleResult where
  directLink : String := ""
  sourceInboundPk : Option ℕ := none
  inboundPk : Option ℕ := none
  deriving DecidableEq, Repr

/-- The keys of `xui_raw` that are read; a result that is no object is none. -/
structure BundleRaw where
  inboundPks : List ℕ := []
  inboundResults : List (Option BundleResult) := []
  deriving DecidableEq, Repr

namespace CupDb

variable (db : CupDb)

def panelForInbound (inbound : Option ℕ) : Option ℕ :=
  (inbound.bind db.inbounds.get?).map (·.panel)

/-- The entry of a result; the index counts from one. -/
def bundleEntry (client : VPNClient) (raw : BundleRaw) (index : ℕ) (result : BundleResult) :
    Option CupEntry :=
  let link := strip result.directLink
  if link = "" then none
  else
    let pk := result.sourceInboundPk <|> result.inboundPk <|> raw.inboundPks[index - 1]?
    let known := raw.inboundPks ++ raw.inboundResults.reduceOption.filterMap fun r =>
      r.sourceInboundPk <|> r.inboundPk
    let inbound := (pk.filter fun k => k ∈ known && (db.inbounds.get? k).isSome) <|> client.inbound
    some { rawLink := link, sourceInbound := inbound, sourcePanel := db.panelForInbound inbound }

/-- `config_entries_for_vpn_client`. -/
def configEntriesForVpnClient (client : VPNClient) (raw : BundleRaw) : List CupEntry :=
  let entries := (raw.inboundResults.zipIdx 1).filterMap fun (result, index) =>
    result.bind (db.bundleEntry client raw index)
  if entries = [] && client.directLink ≠ "" then
    [{ rawLink := client.directLink
       sourceInbound := client.inbound
       sourcePanel := db.panelForInbound client.inbound }]
  else entries

/-! ## The cup itself -/

/-- The filter of `_get_cup_for_target`. -/
def isCupFor (order vpnClient : Option ℕ) (c : SubscriptionCup) : Bool :=
  match vpnClient with
  | some client => c.vpnClient = some client
  | none => c.order = order && c.vpnClient = none

/-- `_get_cup_for_target`. -/
def cupForTarget (order vpnClient : Option ℕ) : Option SubscriptionCup :=
  (db.cups.rows.filter (isCupFor order vpnClient)).argmin (·.pk)

/-- The fields of `_update_cup`. -/
def updatedCup (order vpnClient : Option ℕ) (forceActive : Bool) (c : SubscriptionCup) :
    SubscriptionCup :=
  let client := vpnClient.bind db.clients.get?
  let orderRow := order.bind db.orders.get?
  { c with
    customer := orderRow.bind (·.customer)
    order := order
    plan := (client.bind (·.plan)) <|> orderRow.map (·.plan)
    vpnClient := vpnClient
    expiresAt := client.bind (·.expiresAt)
    status := if forceActive then .active else c.status }

@[simp] theorem updatedCup_pk (order vpnClient : Option ℕ) (forceActive : Bool)
    (c : SubscriptionCup) : (db.updatedCup order vpnClient forceActive c).pk = c.pk := rfl

/-- The row of a cup that is not there yet. -/
def newCup (order vpnClient : Option ℕ) (forceActive : Bool) (token : String) : SubscriptionCup :=
  db.updatedCup order vpnClient forceActive { pk := db.cups.nextKey, token := token }

/-- The cup of a target is found or made, and updated. -/
def withCup (order vpnClient : Option ℕ) (forceActive : Bool) (token : String) : ℕ × CupDb :=
  match db.cupForTarget order vpnClient with
  | some c =>
      (c.pk,
        { db with
          cups := db.cups.modify c.pk (db.updatedCup order vpnClient forceActive)
            (db.updatedCup_pk order vpnClient forceActive) })
  | none =>
      (db.cups.nextKey,
        { db with
          cups := db.cups.insert (db.newCup order vpnClient forceActive token) rfl })

/-! ## The items -/

/-- `cup.items.filter(config_link__external_feed__isnull=True)`, in order. -/
def unmanagedItems (cup : ℕ) : List CupItem :=
  listed (db.items.rows.filter fun x => x.cup = cup && db.feedOf x = none)

/-- The entries whose panel and client no feed of the cup is for. -/
def unmanagedEntries (cup : ℕ) (vpnClient : Option ℕ) (entries : List CupEntry) : List CupEntry :=
  entries.filter fun e =>
    !(db.feeds.rows.any fun f => f.cup = cup && f.panel = e.sourcePanel && f.vpnClient = vpnClient)

end CupDb

/-- What the link of an entry is written with. -/
def CupEntry.content (vpnClient : Option ℕ) (e : CupEntry) : LinkContent where
  rawLink := e.rawLink
  sourceType := some .panelGenerated
  sourcePanel := e.sourcePanel
  sourceInbound := e.sourceInbound
  vpnClient := vpnClient
  metadata := some {}

/-- The item goes, unless it is one of those that were written. -/
def retireItem (placed : List CupItem) (managed : CupItem → Bool) (cup : ℕ) (x : CupItem) :
    CupItem :=
  if x.cup = cup ∧ managed x = false ∧ x.pk ∉ placed.map (·.pk) then { x with isActive := false }
  else x

@[simp] theorem retireItem_pk (placed : List CupItem) (managed : CupItem → Bool) (cup : ℕ)
    (x : CupItem) : (retireItem placed managed cup x).pk = x.pk := by
  unfold retireItem
  split <;> rfl

namespace CupDb

variable (db : CupDb)

/-- The entries are written into the items of the cup that no feed manages. -/
def refillUnmanaged (cup : ℕ) (vpnClient : Option ℕ) (entries : List CupEntry) :
    CupDb × List CupItem :=
  refill cup 1 (entries.map (·.content vpnClient))
    ((db.unmanagedItems cup).map fun x => (x, db.rawLink x)) db

/-- The writes of `_rebuild_cup` to items and links. -/
def rebuildItems (cup : ℕ) (vpnClient : Option ℕ) (entries : List CupEntry) : CupDb :=
  let filled := db.refillUnmanaged cup vpnClient entries
  { filled.1 with
    items := filled.1.items.map
      (retireItem filled.2 (fun x => (filled.1.feedOf x).isSome) cup)
      (retireItem_pk filled.2 (fun x => (filled.1.feedOf x).isSome) cup) }

end CupDb

/-- `_rebuild_cup`; the token is for a cup that is made. -/
def rebuildCup (env : SyncEnv) (order vpnClient : Option ℕ) (entries : List CupEntry)
    (forceActive : Bool) (token : String) (clock : Instant) (db : CupDb) : ℕ × CupDb :=
  let order := order <|> (vpnClient.bind db.clients.get?).bind (·.order)
  let target := db.withCup order vpnClient forceActive token
  let rebuilt := target.2.rebuildItems target.1 vpnClient
    (target.2.unmanagedEntries target.1 vpnClient entries)
  (target.1,
    ((ensurePasarguardFeedsForCup env target.1 clock rebuilt).map (·.1)).getD rebuilt)

end Qasedak.Subscriptions
