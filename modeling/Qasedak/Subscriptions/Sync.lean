import Qasedak.Subscriptions.Feeds
import Mathlib.Data.List.MinMax
import Mathlib.Data.List.DropRight

/-! A cup adopts the links of its own PasarGuard services: they are put under feeds, one for each
panel and client, which renew them from then on. -/

namespace Qasedak.Subscriptions

open Foundation Store

structure UrlParts where
  scheme : String
  hostname : Option String
  path : String
  deriving DecidableEq, Repr

/-- What the adoption calls: `urlsplit`, where none is its `ValueError`, and
`resolved_filter_policy_for_source`. -/
structure SyncEnv where
  urlsplit : String → Option UrlParts
  resolvedFilterPolicy : Option ℕ → FilterPolicy

structure AdoptionReport where
  created : ℕ := 0
  adoptedItems : ℕ := 0
  ambiguousOwnership : ℕ := 0
  missingUpstreamUrl : ℕ := 0
  feedDisabled : ℕ := 0
  deriving DecidableEq, Repr

/-- An entry of `groups`. -/
structure AdoptionGroup where
  panel : ℕ
  client : ℕ
  url : String
  items : List CupItem
  deriving DecidableEq, Repr

namespace CupDb

variable (db : CupDb)

/-- `_owned_client`. -/
def ownedClient (cup : SubscriptionCup) (client : VPNClient) (panel : Panel) : Bool :=
  match client.inbound.bind db.inbounds.get? with
  | none => false
  | some inbound =>
      let clientOrder := client.order.bind db.orders.get?
      if inbound.panel ≠ panel.pk then false
      else if panel.store.isSome && panel.store ≠ client.store then false
      else match cup.order.bind db.orders.get? <|> clientOrder with
        | none => false
        | some order =>
            if !(order.status = .completed || order.status = .confirmed) ||
                order.verificationStatus ≠ .verified then false
            else if order.store ≠ client.store ||
                cup.customer.isSome && cup.customer ≠ order.customer then false
            else if cup.order.isSome && client.order ≠ cup.order &&
                (!(clientOrder.any fun o => o.customer = order.customer) ||
                  order.metadata.renewalClientPk ≠ some client.pk) then false
            else client.status ≠ .deleted

/-- `_upstream_url`. -/
def upstreamUrl (env : SyncEnv) (cup : SubscriptionCup) (client : VPNClient) : String :=
  let url := strip client.subLink
  match env.urlsplit url with
  | none => ""
  | some parts =>
      let path := parts.path.toList.rdropWhile (· = '/')
      if !(parts.scheme = "http" || parts.scheme = "https") || !(parts.hostname.any (· ≠ "")) ||
          ("/sub/" ++ cup.token).toList.isSuffixOf path then ""
      else url

/-- The items whose links may be adopted, in order. -/
def adoptableItems (cup : ℕ) : List CupItem :=
  (db.liveItems cup).filter fun x => (db.links.get? x.configLink).any fun l =>
    l.externalFeed = none &&
      (l.sourceType = .panelGenerated || l.sourceType = .externalSubscription)

/-- An item of another cup shows the link, too. -/
def isShared (cup : ℕ) (link : ℕ) : Bool :=
  db.items.rows.any fun x => x.configLink = link && x.cup ≠ cup

/-- The panel of a link: its own, the one of its inbound, or the one of the client. -/
def panelOfLink (l : ConfigLink) (client : Option VPNClient) : Option Panel :=
  (l.sourcePanel.bind db.panels.get?) <|>
    ((l.sourceInbound.bind db.inbounds.get?).bind fun i => db.panels.get? i.panel) <|>
    ((client.bind fun c => c.inbound.bind db.inbounds.get?).bind fun i => db.panels.get? i.panel)

/-- `link.vpn_client or cup.vpn_client`. -/
def namedClient (cup : SubscriptionCup) (l : ConfigLink) : Option VPNClient :=
  (l.vpnClient.bind db.clients.get?) <|> (cup.vpnClient.bind db.clients.get?)

/-- The client of the cup's order on a panel, if it is the only one there. -/
def onlyClientOf (cup : SubscriptionCup) (panel : Panel) : Option VPNClient :=
  match cup.order with
  | none => none
  | some order =>
      match db.clients.rows.filter fun c => c.order = some order &&
          (c.inbound.bind db.inbounds.get?).any fun i => i.panel = panel.pk with
      | [c] => some c
      | _ => none

end CupDb

/-- What becomes of an item. -/
inductive ItemFate where
  | ignored
  | ambiguousOwnership
  | missingUpstreamUrl
  | grouped (panel : ℕ) (client : ℕ) (url : String)
  deriving DecidableEq, Repr

/-- One turn of the loop over the items. -/
def itemFate (env : SyncEnv) (db : CupDb) (cup : SubscriptionCup) (x : CupItem) : ItemFate :=
  match db.links.get? x.configLink with
  | none => .ignored
  | some l =>
      match db.panelOfLink l (db.namedClient cup l) with
      | none => .ignored
      | some panel =>
          if panel.family ≠ .pasarguard then .ignored
          else match db.namedClient cup l <|> db.onlyClientOf cup panel with
            | none => .ambiguousOwnership
            | some client =>
                if db.isShared cup.pk l.pk || !db.ownedClient cup client panel then
                  .ambiguousOwnership
                else
                  let url := CupDb.upstreamUrl env cup client
                  if url = "" then .missingUpstreamUrl else .grouped panel.pk client.pk url

/-- `groups.setdefault(…)["items"].append(item)`. -/
def addToGroup (panel client : ℕ) (url : String) (x : CupItem) :
    List AdoptionGroup → List AdoptionGroup
  | [] => [{ panel := panel, client := client, url := url, items := [x] }]
  | g :: groups =>
      if g.panel = panel ∧ g.client = client then { g with items := g.items ++ [x] } :: groups
      else g :: addToGroup panel client url x groups

/-- The loop over the items. -/
def groupItems (env : SyncEnv) (db : CupDb) (cup : SubscriptionCup) (items : List CupItem) :
    List AdoptionGroup × AdoptionReport :=
  items.foldl (fun (groups, report) x =>
    match itemFate env db cup x with
    | .ignored => (groups, report)
    | .ambiguousOwnership =>
        (groups, { report with ambiguousOwnership := report.ambiguousOwnership + 1 })
    | .missingUpstreamUrl =>
        (groups, { report with missingUpstreamUrl := report.missingUpstreamUrl + 1 })
    | .grouped panel client url => (addToGroup panel client url x groups, report)) ([], {})

/-- The feed of a cup for a panel and a client. -/
def CupDb.feedFor (db : CupDb) (cup panel client : ℕ) : Option ExternalSubscriptionFeed :=
  (db.feeds.rows.filter fun f => f.cup = cup && f.panel = some panel &&
    f.vpnClient = some client && f.provider = "pasarguard").argmin (·.pk)

/-- The delivery source that the links of a group came from. -/
def CupDb.sourceFor (db : CupDb) (cup : SubscriptionCup) (g : AdoptionGroup) :
    Option DeliverySource :=
  let ids := g.items.flatMap fun x =>
    ((db.links.get? x.configLink).map (·.metadata.deliverySources)).getD []
  (db.deliverySources.rows.filter fun s => s.pk ∈ ids && s.panel = some g.panel &&
    (db.deliveryConfigs.get? s.deliveryConfig).any fun c => some c.plan = cup.plan).argmin (·.pk)

/-- The feed that is created for a group. -/
def newFeed (env : SyncEnv) (db : CupDb) (cup : SubscriptionCup) (g : AdoptionGroup) :
    ExternalSubscriptionFeed :=
  let source := (db.sourceFor cup g).map (·.pk)
  { pk := db.feeds.nextKey
    provider := "pasarguard"
    cup := cup.pk
    deliverySource := source
    panel := some g.panel
    vpnClient := some g.client
    protectedSubscriptionUrl := g.url
    resolvedFilterPolicy := env.resolvedFilterPolicy source
    lastGoodConfigCount := g.items.length }

theorem newFeed_pk (env : SyncEnv) (db : CupDb) (cup : SubscriptionCup) (g : AdoptionGroup) :
    (newFeed env db cup g).pk = db.feeds.nextKey := rfl

/-- The links of a group are put under a feed, unless they are under one. -/
def adoptLink (g : AdoptionGroup) (feed : ℕ) (l : ConfigLink) : ConfigLink :=
  if l.pk ∈ g.items.map (·.configLink) ∧ l.externalFeed = none then
    { l with externalFeed := some feed, vpnClient := some g.client }
  else l

@[simp] theorem adoptLink_pk (g : AdoptionGroup) (feed : ℕ) (l : ConfigLink) :
    (adoptLink g feed l).pk = l.pk := by
  unfold adoptLink
  split <;> rfl

def CupDb.adopt (db : CupDb) (g : AdoptionGroup) (feed : ℕ) : CupDb :=
  { db with links := db.links.map (adoptLink g feed) (adoptLink_pk g feed) }

/-- One turn of the loop over the groups. -/
def adoptGroup (env : SyncEnv) (cup : SubscriptionCup) (g : AdoptionGroup) :
    CupDb × AdoptionReport → CupDb × AdoptionReport
  | (db, report) =>
      match db.feedFor cup.pk g.panel g.client with
      | some f =>
          if f.isDisabled then
            (db, { report with feedDisabled := report.feedDisabled + g.items.length })
          else
            (db.adopt g f.pk, { report with adoptedItems := report.adoptedItems + g.items.length })
      | none =>
          let created : CupDb :=
            { db with feeds := db.feeds.insert (newFeed env db cup g) (newFeed_pk env db cup g) }
          (created.adopt g db.feeds.nextKey,
            { report with
              created := report.created + 1
              adoptedItems := report.adoptedItems + g.items.length })

/-- `ensure_pasarguard_feeds_for_cup`; none is a cup that is not there. -/
def ensurePasarguardFeedsForCup (env : SyncEnv) (cup : ℕ) (clock : Instant) (db : CupDb) :
    Option (CupDb × AdoptionReport) :=
  (db.cups.get? cup).map fun row =>
    if row.isAccessible clock then
      let grouped := groupItems env db row (db.adoptableItems cup)
      grouped.1.foldl (fun state g => adoptGroup env row g state) (db, grouped.2)
    else (db, {})

end Qasedak.Subscriptions
