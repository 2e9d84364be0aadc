import Qasedak.Orders.PlanDelivery

/-! `fulfill_order_with_recipe`: the delivery of a plan into a subscription cup, rule by
rule of its recipe. -/

namespace Qasedak.Orders

open Foundation Store Panels

variable (platform : Platform)

/-! ## Recipes -/

/-- `get_active_recipe_for_plan`. -/
def getActiveRecipeForPlan (db : Db) (plan : ℕ) : Option Recipe :=
  let active := db.recipes.rows.filter fun r => r.plan = plan ∧ r.isActive
  (active.insertionSort fun r s =>
    r.priority < s.priority ∨ r.priority = s.priority ∧ r.pk ≤ s.pk).head?

/-- The active rules of a recipe, by `("position", "pk")`. -/
def recipeRules (db : Db) (recipe : ℕ) : List FillerRule :=
  let active := db.rules.rows.filter fun r => r.recipe = recipe ∧ r.isActive
  active.insertionSort fun r s =>
    r.position < s.position ∨ r.position = s.position ∧ r.pk ≤ s.pk

/-- `_panel_rule_inbounds`. -/
def panelRuleInbounds (db : Db) (rule : FillerRule) : List Inbound :=
  let inbounds := (rule.inbounds.dedup.insertionSort (· ≤ ·)).filterMap db.inbounds.get?
  match inbounds, rule.panel.bind db.panels.get? with
  | [], some p =>
      let usable := db.inbounds.rows.filter fun i =>
        i.panel = p.pk ∧ i.isActive ∧ i.availableForNewOrders
      (usable.insertionSort fun i j => i.pk ≤ j.pk).take 1
  | inbounds, _ => inbounds

/-- `rule.panel or inbounds[0].panel`. -/
def rulePanel (db : Db) (rule : FillerRule) (inbounds : List Inbound) : Option Panel :=
  (rule.panel.bind db.panels.get?) <|> inbounds.head?.bind fun i => db.panels.get? i.panel

/-- `report.supports_create_client`. -/
def supportsCreateClient (p : Panel) : Bool :=
  p.family = .pasarguard ||
    p.family = .xui && (p.capabilityProfile = .legacySingleNode || usesModernClientApi p)

/-- `report.supports_multi_inbound_create`. -/
def supportsMultiInboundCreate (p : Panel) : Bool :=
  p.family = .pasarguard || p.family = .xui && p.capabilityProfile = .modernMultiNode

/-- `_inbound_missing_reality_pbk`. -/
def inboundMissingRealityPbk (p : Panel) (i : Inbound) : Bool :=
  p.family ≠ .pasarguard && i.isReality && strip i.pbk = ""

/-- The checks of `_create_panel_links_for_rule`. -/
def checkPanelRule (panel : Option Panel) (inbounds : List Inbound) : Except String Panel :=
  match panel, inbounds with
  | none, _ | _, [] => .error "Panel rule requires a panel and at least one inbound."
  | some p, inbounds =>
      if inbounds.any (·.panel ≠ p.pk) then
        .error "Panel rule contains an inbound from a different panel."
      else if inbounds.any (inboundMissingRealityPbk p) then
        .error "Reality inbound is missing public key; source was not provisioned."
      else if ¬ supportsCreateClient p then
        .error "Panel does not currently support create_client."
      else if 1 < inbounds.length ∧ ¬ supportsMultiInboundCreate p then
        .error "Panel does not currently support multi-inbound create."
      else .ok p

/-- The request of a rule; an unlimited plan asks for the defaults. -/
def ruleRequest (plan : Plan) (identity : ClientIdentity) : ClientRequest where
  identity := identity
  totalBytes := if plan.trafficLimitBytes = 0 then 1024 ^ 3 else plan.trafficLimitBytes
  durationDays := if plan.durationDays = 0 then 30 else plan.durationDays
  limitIp := if plan.deviceLimit = 0 then 2 else plan.deviceLimit

/-! ## Panel rules -/

/-- `_direct_link_entries` of the clients of an X-UI panel. -/
def directLinkEntries (results : List ClientResult) : List String :=
  results.map fun r => strip r.directLink

/-- `_direct_link_entries` of a PasarGuard user. -/
def userLinkEntries (result : ClientResult) (links : List String) : List String :=
  let raw := (links.map strip).filter (· ≠ "")
  if raw = [] then directLinkEntries [result] else raw

/-- The creation by the adapter of the panel; it answers with the direct links. -/
def createRuleClient (now : Instant) (p : Panel) (inbounds : List Inbound)
    (request : ClientRequest) : ShopM (List String) :=
  if p.family = .pasarguard then do
    let (result, links) ← createPasarguardUser platform now p inbounds request
    return userLinkEntries result links
  else Prog.onError (match inbounds with
    | [i] => do
        let result ← createEnabledClient platform now p i request
        return directLinkEntries [result]
    | inbounds => do
        let results ← createEnabledMultiInboundClient platform now p inbounds request
        return directLinkEntries results)
    fun _ => Prog.raise "ساخت client روی پنل X-UI ناموفق بود."

/-- The client of a rule on its inbounds: an earlier attempt made it, or this one does. -/
def ruleClientLinks (now : Instant) (o : Order) (p : Panel) (inbounds : List Inbound)
    (plan : Plan) (identity : ClientIdentity) : ShopM (List String) :=
  if 1 < o.provisioningAttempts ∧ p.family ≠ .pasarguard then do
    let found ← lookupBundle platform p inbounds identity
    if found.all (·.isSome) then return directLinkEntries found.reduceOption
    else if found.any (·.isSome) then
      Prog.raise "ساخت چنداینباندی ناقص است؛ نتیجه پنل باید بررسی شود و ساخت تکراری انجام نشد."
    else createRuleClient platform now p inbounds (ruleRequest plan identity)
  else createRuleClient platform now p inbounds (ruleRequest plan identity)

/-- A link of a rule in the cup. -/
def addCupItem (rule : ℕ) (link : DeliveredLink) (c : Cup) : Cup :=
  { c with items := c.items ++
      [{ link := link.rawLink, rule := some rule, allocation := link.allocation }] }

theorem addCupItem_pk (rule : ℕ) (link : DeliveredLink) (c : Cup) :
    (addCupItem rule link c).pk = c.pk := rfl

/-- A rule puts links into the cup; the count goes on. -/
def addCupItems (cup : ℕ) (rule : ℕ) (links : List DeliveredLink) (count : ℕ) : ShopM ℕ :=
  Prog.forEach links count fun link count => do
    Prog.writeDb (·.setCup cup (addCupItem rule link) (addCupItem_pk rule link))
    return count + 1

/-- What a rule has done so far: the links it created, and the error that stopped it. -/
structure RuleProgress where
  createdLinkCount : ℕ := 0
  error : Option String := none
  deriving DecidableEq, Repr

def ruleResult (rule : FillerRule) (progress : RuleProgress) : RuleResult where
  rule := rule.pk
  required := rule.required
  success := progress.error.isNone
  createdLinkCount := progress.createdLinkCount
  errors := progress.error.toList

/-- One client of a panel rule; after an error the others are left out. -/
def fillRuleClient (now : Instant) (o : Order) (p : Panel) (inbounds : List Inbound)
    (plan : Plan) (cup : ℕ) (rule : FillerRule) (identity : ClientIdentity)
    (progress : RuleProgress) : ShopM RuleProgress :=
  if progress.error.isSome then return progress
  else do
    let links ← Prog.caught (ruleClientLinks platform now o p inbounds plan identity)
    match links with
    | .error e => return { progress with error := some e }
    | .ok links =>
        if "" ∈ links then
          return { progress with
            error := some "Panel created a client but did not return all direct links." }
        else do
          let count ← addCupItems cup rule.pk (links.map fun link => { rawLink := link })
            progress.createdLinkCount
          return { progress with createdLinkCount := count }

/-- `_create_panel_links_for_rule`. -/
def createPanelLinksForRule (now : Instant) (o : Order) (cup : ℕ) (rule : FillerRule) :
    ShopM RuleResult := do
  let db ← Prog.readDb id
  let inbounds := panelRuleInbounds db rule
  match checkPanelRule (rulePanel db rule inbounds) inbounds with
  | .error e => return ruleResult rule { error := some e }
  | .ok p => do
      let plan ← getPlan o.plan
      let progress ← Prog.forEach (List.range' 1 (max rule.quantity 1)) {} fun index progress =>
        fillRuleClient platform now o p inbounds plan cup rule
          (multiInboundOrderIdentity platform db o inbounds (rule.pk * 1000 + index)) progress
      return ruleResult rule progress

/-! ## Inventory rules -/

/-- `metadata["recipe_rule_id"]` of an allocation. -/
def labelRule (rule : ℕ) (a : ConfigAllocation) : ConfigAllocation :=
  { a with recipeRule := some rule }

theorem labelRule_pk (rule : ℕ) (a : ConfigAllocation) : (labelRule rule a).pk = a.pk := rfl

/-- The allocations of `_create_inventory_links_for_rule`. -/
def ruleAllocations (now : Instant) (order cup : ℕ) (rule : FillerRule) :
    ShopM (List ConfigAllocation) := do
  let db ← Prog.readDb id
  if (rule.inventoryPool.bind db.pools.get?).isNone then
    Prog.raise "Inventory rule requires an inventory pool."
  else
    topUpAllocations now rule.inventoryPool rule.quantity (some cup) (some order)
      rule.allocationMode
      (fun a => a.order = some order ∧ a.cup = some cup ∧ a.recipeRule = some rule.pk ∧ a.isActive)
      (labelRule rule.pk) (labelRule_pk rule.pk)

/-- `_create_inventory_links_for_rule`. -/
def createInventoryLinksForRule (now : Instant) (o : Order) (cup : ℕ) (rule : FillerRule) :
    ShopM RuleResult := do
  let outcome ← Prog.caught (ruleAllocations now o.pk cup rule)
  match outcome with
  | .error e => return ruleResult rule { error := some e }
  | .ok allocations => do
      let db ← Prog.readDb id
      let links := allocations.map fun a =>
        { rawLink := strip (((db.assets.get? a.asset).map (·.rawLink)).getD "")
          allocation := some a.pk }
      let count ← addCupItems cup rule.pk links 0
      return ruleResult rule { createdLinkCount := count }

/-! ## The order -/

/-- The result of an earlier attempt, where it succeeded and its links are in the cup. -/
def completedBefore (db : Db) (o : Order) (cup : ℕ) (rule : FillerRule) : Option RuleResult :=
  let filled := (db.cups.get? cup).any fun c =>
    c.items.any fun item => item.isActive && item.rule = some rule.pk
  if filled then o.metadata.ruleResults.find? fun r => r.rule = rule.pk ∧ r.success else none

/-- `_run_rule`. -/
def runRule (now : Instant) (o : Order) (cup : ℕ) (rule : FillerRule) : ShopM RuleResult := do
  let db ← Prog.readDb id
  match completedBefore db o cup rule with
  | some completed =>
      return ruleResult rule { createdLinkCount := completed.createdLinkCount }
  | none =>
      match rule.sourceType with
      | .panelInbound => createPanelLinksForRule platform now o cup rule
      | .inventoryPool => createInventoryLinksForRule now o cup rule

/-- A required rule failed. -/
def requiredFailed (results : List RuleResult) : Bool :=
  results.any fun r => r.required && r.errors ≠ []

/-- The rules in turn; under the strict policy a required failure is the last. -/
def runRules (now : Instant) (o : Order) (cup : ℕ) (strict : Bool) (rules : List FillerRule) :
    ShopM (List RuleResult) :=
  Prog.forEach rules [] fun rule results =>
    if strict ∧ requiredFailed results then return results
    else do
      let result ← runRule platform now o cup rule
      return results ++ [result]

def createdLinkCount (results : List RuleResult) : ℕ := (results.map (·.createdLinkCount)).sum

/-- The errors of the recipe: of its required rules, or that it has no rules. -/
def recipeErrors (rules : List FillerRule) (results : List RuleResult) : List String :=
  (if rules = [] then ["Fulfillment recipe has no active rules."] else []) ++
    (results.filter (·.required)).flatMap (·.errors)

/-- The recipe delivered enough for its policy. -/
def recipeDelivers (policy : FailurePolicy) (results : List RuleResult) : Bool :=
  createdLinkCount results ≠ 0 && (!requiredFailed results || policy = .partialAllowed)

/-- `_cup_expires_at`. -/
def cupExpiresAt (now : Instant) (days : ℕ) : Option Instant :=
  if days = 0 then none else some (afterDays now days)

/-- A cup that is reused keeps its expiry. -/
def reuseCup (expiresAt : Option Instant) (c : Cup) : Cup :=
  { c with
    isDisabled := false
    expiresAt := c.expiresAt <|> expiresAt }

theorem reuseCup_pk (expiresAt : Option Instant) (c : Cup) : (reuseCup expiresAt c).pk = c.pk := rfl

/-- `_create_or_reuse_order_cup`. -/
def createOrReuseOrderCup (now : Instant) (order : ℕ) : ShopM ℕ := do
  let cup ← ensureCup order
  let expiresAt ← Prog.readDb fun db => cupExpiresAt now (orderDays db order)
  Prog.writeDb (·.setCup cup (reuseCup expiresAt) (reuseCup_pk expiresAt))
  return cup

/-- The order's attempts, counted before the rules. -/
def countAttempt (o : Order) : Order := { o with provisioningAttempts := o.provisioningAttempts + 1 }

/-- What the recipe leaves in the metadata. -/
def recipeMetadata (delivers : Bool) (results : List RuleResult) (m : OrderMetadata) :
    OrderMetadata :=
  { m with
    cupFulfillmentPartial := delivers && requiredFailed results
    ruleResults := results
    createdLinkCount := createdLinkCount results
    panelProvisioningDeferred := false }

/-- The order after its recipe. -/
def finishRecipe (now : Instant) (actor : Option ℕ) (delivers : Bool) (safeError : String)
    (results : List RuleResult) (o : Order) : Order :=
  if delivers then
    { o.markPaymentVerified actor now with
      metadata := recipeMetadata delivers results o.metadata
      provisioningStatus := .provisioned
      lastProvisioningError := ""
      provisionedAt := some now }
  else
    { o with
      metadata := recipeMetadata delivers results o.metadata
      isPaid := true
      verificationStatus := .verified
      status := if o.status = .completed then .completed else .confirmed
      provisioningStatus := .failed
      lastProvisioningError := orElseText safeError "Cup fulfillment recipe failed." }

@[simp] theorem countAttempt_pk (o : Order) : (countAttempt o).pk = o.pk := rfl

@[simp] theorem finishRecipe_pk (now : Instant) (actor : Option ℕ) (delivers : Bool)
    (safeError : String) (results : List RuleResult) (o : Order) :
    (finishRecipe now actor delivers safeError results o).pk = o.pk := by
  cases delivers <;> rfl

def recipeSuccess : ProvisioningResult where
  ok := true
  message := "سفارش تایید شد و Subscription Cup از recipe پلن تکمیل شد."

def recipeFailure (errors : List String) : ProvisioningResult where
  ok := false
  message := "تکمیل Subscription Cup برای این پلن ناموفق بود. سفارش قابل retry است."
  safeError := joinErrors errors

/-- The allocations of the cup that name no order. -/
def adoptAllocation (order cup : ℕ) (a : ConfigAllocation) : ConfigAllocation :=
  if a.cup = some cup ∧ a.order = none then { a with order := some order } else a

theorem adoptAllocation_pk (order cup : ℕ) (a : ConfigAllocation) :
    (adoptAllocation order cup a).pk = a.pk := by
  rw [adoptAllocation]
  split <;> rfl

def Db.adoptAllocations (db : Db) (order cup : ℕ) : Db :=
  { db with
    allocations := db.allocations.map (adoptAllocation order cup) (adoptAllocation_pk order cup) }

/-- `fulfill_order_with_recipe`, for a plan with a recipe. -/
def fulfillOrderWithRecipe (now : Instant) (actor : Option ℕ) (order : ℕ) (recipe : Recipe) :
    ShopM ProvisioningResult :=
  Prog.atomic do
    saveOrder now order countAttempt countAttempt_pk
    let o ← getOrder order
    let cup ← createOrReuseOrderCup now order
    let db ← Prog.readDb id
    let rules := recipeRules db recipe.pk
    let results ← runRules platform now o cup (recipe.failurePolicy = .strict) rules
    let delivers := recipeDelivers recipe.failurePolicy results
    let errors := recipeErrors rules results
    saveOrder now order (finishRecipe now actor delivers (joinErrors errors) results)
      (finishRecipe_pk now actor delivers (joinErrors errors) results)
    Prog.writeDb (·.adoptAllocations order cup)
    return if delivers then recipeSuccess else recipeFailure errors

end Qasedak.Orders
