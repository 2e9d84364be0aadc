import Qasedak.Orders.Delivery
import Qasedak.Orders.DeliveryRetries

/-! `resolve_plan_delivery_configuration` for a plan with an active delivery configuration:
what the shop tells its sellers about the sources of the plan. -/

namespace Qasedak.Orders

open Foundation Store Panels

inductive ReadinessStatus where
  | ready
  | warning
  | incomplete
  | conflict
  deriving DecidableEq, Repr

/-- The errors and the warnings of a check. -/
structure Issues where
  errors : List String := []
  warnings : List String := []
  deriving DecidableEq, Repr

namespace Issues

def append (a b : Issues) : Issues :=
  { errors := a.errors ++ b.errors, warnings := a.warnings ++ b.warnings }

/-- `list(dict.fromkeys(errors + warnings))`. -/
def all (a : Issues) : List String := (a.errors ++ a.warnings).reverse.dedup.reverse

def status (a : Issues) : ReadinessStatus :=
  if a.errors ≠ [] then .incomplete else if a.warnings ≠ [] then .warning else .ready

theorem errors_of_status {a : Issues} (h : a.status = .ready) : a.errors = [] := by
  by_contra hne
  rw [status, if_pos hne] at h
  cases h

end Issues

/-- What the readiness of a plan takes from other services. -/
structure SalesRules where
  /-- `source_sellability_issues`. -/
  sourceSellabilityIssues : Inbound → Issues
  /-- `_fallback_state`. -/
  fallbackState : Db → Option ℕ → ℕ × Bool
  /-- The plan has an active route. -/
  hasActiveRoutes : ℕ → Bool

variable (rules : SalesRules)

/-! ## Inbounds -/

/-- The part of `sales_inbound_issues` about the panel. -/
def salesPanelIssues (db : Db) (store : Option ℕ) (i : Inbound) : Issues :=
  match db.panels.get? i.panel with
  | none => { errors := ["Inbound has no panel."] }
  | some p =>
      if ¬ p.isActive then { errors := ["Inbound panel is inactive."] }
      else if store.isSome ∧ p.store.isSome ∧ p.store ≠ store then
        { errors := ["Inbound belongs to a different store."] }
      else if p.family = .pasarguard then
        Issues.append { warnings := ["PasarGuard route uses native raw subscription delivery; local direct link reconstruction is bypassed."] }
          (rules.sourceSellabilityIssues i)
      else if p.capabilityProfile = .unknownSafe then
        { errors := ["X-UI compatibility is unknown; run compatibility audit before selling on this inbound."] }
      else if p.capabilityProfile = .modernSingleNode ∨ p.capabilityProfile = .modernMultiNode then
        { warnings := ["Modern 3X-UI route uses deferred paid provisioning; no disabled client is created at checkout."] }
      else {}

/-- `sales_inbound_issues`. -/
def salesInboundIssues (db : Db) (store : Option ℕ) : Option Inbound → Issues
  | none => { errors := ["Inbound is required."] }
  | some i =>
      let inbound : Issues :=
        { errors := (if i.isActive then [] else ["Inbound is inactive."]) ++
            (if i.availableForNewOrders then [] else ["Inbound is not available for new orders."]) ++
              if strip i.legacyNote = "" then [] else ["Inbound is marked as legacy."] }
      let node : Issues :=
        { errors :=
            if i.isSynchronizedNode ∧ strip i.xuiNodeId = "" then
              ["Synchronized node inbound is missing node identity."]
            else []
          warnings :=
            (if i.healthMonitorEnabled then []
              else ["Selected inbound is excluded from the health monitor."]) ++
              if i.maxClients.any (· ≤ i.currentUsers) then
                ["Selected inbound capacity is currently full."]
              else [] }
      (inbound.append (salesPanelIssues rules db store i)).append node

/-! ## Sources -/

/-- `_source_readiness`; the number is what the source is expected to deliver. -/
def sourceReadiness (db : Db) (now : Instant) (store : Option ℕ) (source : DeliverySource) :
    Issues × ℕ :=
  match source.sourceType with
  | .panelInbound =>
      (salesInboundIssues rules db store (sourceInbound db source),
        if source.inbound.isSome then 1 else 0)
  | .inventoryPool =>
      match source.inventoryPool.bind db.pools.get? with
      | none => ({ errors := ["Inventory source requires a pool."] }, 0)
      | some pool =>
          let summary := getPoolStockSummary db now pool
          let inactive := if pool.isActive then [] else ["Inventory pool is inactive."]
          let low :=
            if summary.availableCapacity.any (· < DeliverySource.units source) then
              ["Inventory pool capacity is lower than requested quantity."]
            else []
          ({ errors := inactive ++ low }, DeliverySource.units source)

/-- The issues of all sources, in their order. -/
def sourceIssues (db : Db) (now : Instant) (store : Option ℕ) (sources : List DeliverySource) :
    Issues where
  errors := sources.flatMap fun source => (sourceReadiness rules db now store source).1.errors
  warnings := sources.flatMap fun source => (sourceReadiness rules db now store source).1.warnings

/-! ## Plans -/

/-- The fields of `PlanDeliveryConfiguration` that an active configuration fills in. -/
structure PlanDeliveryConfiguration where
  planId : ℕ
  effectiveMode : DeliveryMode
  deliveryConfigId : ℕ
  failurePolicy : FailurePolicy
  sourceCount : ℕ := 0
  panelSourceCount : ℕ := 0
  inventorySourceCount : ℕ := 0
  requiredSourceCount : ℕ := 0
  fallbackSourceCount : ℕ := 0
  expectedOutputCount : ℕ := 0
  globalFallbackAvailable : Bool := false
  salesReadyInboundCount : ℕ := 0
  readinessStatus : ReadinessStatus := .incomplete
  warnings : List String := []
  legacyIgnored : Bool := false
  deriving DecidableEq, Repr

/-- `_legacy_warning`: routes or a recipe that the configuration overrules. -/
def legacyIgnored (db : Db) (plan : ℕ) : Bool :=
  rules.hasActiveRoutes plan || db.recipes.rows.any fun r => r.plan = plan && r.isActive

/-- `_v2_readiness`, with the rest of the configuration. -/
def v2Readiness (db : Db) (now : Instant) (plan : ℕ) (store : Option ℕ) (config : DeliveryConfig) :
    PlanDeliveryConfiguration :=
  let fallback := rules.fallbackState db store
  let base : PlanDeliveryConfiguration :=
    { planId := plan
      effectiveMode := config.deliveryMode
      deliveryConfigId := config.pk
      failurePolicy := config.failurePolicy
      globalFallbackAvailable := fallback.2
      salesReadyInboundCount := fallback.1 }
  if config.deliveryMode = .globalFallback then
    { base with
      expectedOutputCount := if fallback.2 then 1 else 0
      readinessStatus := if fallback.2 then .ready else .incomplete
      warnings :=
        if fallback.2 then []
        else ["هیچ اینباند آماده فروش برای fallback فروشگاه وجود ندارد."] }
  else
    let sources := activeDeliverySources db config.pk
    let missing : Issues :=
      { errors :=
          if sources = [] then ["برای این روش تحویل حداقل یک منبع سرویس لازم است."] else [] }
    let issues := (sourceIssues rules db now store sources).append missing
    { base with
      sourceCount := sources.length
      panelSourceCount := (sources.filter (·.sourceType = .panelInbound)).length
      inventorySourceCount := (sources.filter (·.sourceType = .inventoryPool)).length
      requiredSourceCount := (sources.filter (·.required)).length
      fallbackSourceCount := (sources.filter (·.isFallback)).length
      expectedOutputCount := (sources.map fun source =>
        (sourceReadiness rules db now store source).2).sum
      readinessStatus := issues.status
      warnings := issues.all }

/-- The text of `_legacy_warning`. -/
def legacyWarning : String :=
  "Legacy route/recipe configuration exists but is ignored because PlanDeliveryConfig is active."

/-- `resolve_plan_delivery_configuration`; none where the plan has no active configuration. -/
def resolvePlanDeliveryConfiguration (db : Db) (now : Instant) (plan : ℕ) (store : Option ℕ) :
    Option PlanDeliveryConfiguration :=
  (activeDeliveryConfigForPlan db plan).map fun config =>
    let readiness := v2Readiness rules db now plan store config
    let ignored := legacyIgnored rules db plan
    { readiness with
      legacyIgnored := ignored
      warnings := (readiness.warnings ++ if ignored then [legacyWarning] else []).reverse.dedup.reverse }

/-! ## What a ready configuration says -/

variable {rules} {db : Db} {now : Instant} {plan : ℕ} {store : Option ℕ} {config : DeliveryConfig}

theorem readinessStatus_of_resolve (hconfig : activeDeliveryConfigForPlan db plan = some config)
    {c : PlanDeliveryConfiguration}
    (hc : resolvePlanDeliveryConfiguration rules db now plan store = some c) :
    c.readinessStatus = (v2Readiness rules db now plan store config).readinessStatus := by
  rw [resolvePlanDeliveryConfiguration, hconfig] at hc
  obtain rfl := Option.some.inj hc
  rfl

/-- A source of a ready configuration has no error. -/
theorem errors_of_ready (hmode : config.deliveryMode ≠ .globalFallback)
    (hready : (v2Readiness rules db now plan store config).readinessStatus = .ready)
    {source : DeliverySource} (hsource : source ∈ activeDeliverySources db config.pk) :
    (sourceReadiness rules db now store source).1.errors = [] := by
  rw [v2Readiness, if_neg hmode] at hready
  have hnone := Issues.errors_of_status hready
  rw [Issues.append, List.append_eq_nil_iff] at hnone
  exact List.flatMap_eq_nil_iff.mp hnone.1 source hsource

/-- A panel source without errors has a panel. -/
theorem sourcePanel_of_ready {source : DeliverySource} (htype : source.sourceType = .panelInbound)
    (herrors : (sourceReadiness rules db now store source).1.errors = []) :
    (sourcePanel db source).isSome = true := by
  rw [sourceReadiness, htype] at herrors
  dsimp only at herrors
  cases hi : sourceInbound db source with
  | none =>
      rw [hi] at herrors
      cases herrors
  | some i =>
      rw [hi, salesInboundIssues] at herrors
      simp only [Issues.append, List.append_eq_nil_iff] at herrors
      have hpanel := herrors.1.2
      rw [salesPanelIssues] at hpanel
      cases hp : db.panels.get? i.panel with
      | none =>
          rw [hp] at hpanel
          cases hpanel
      | some p =>
          rw [sourcePanel, hi]
          cases source.panel.bind db.panels.get? <;> simp [hp]

end Qasedak.Orders
