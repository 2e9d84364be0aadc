import Qasedak.PlanRoutes.Model

/-! `store/plan_route_services.py`: routes of many plans at once, as they would be changed and as
they are changed. -/

namespace Qasedak.PlanRoutes

open Foundation Store

/-! ## Requests and results -/

inductive RouteStrategy where
  | skipExisting
  | updateExisting
  | addNew
  | replaceActive
  | unknown (name : String)
  deriving DecidableEq, Repr

/-- The arguments of both functions. A priority or weight that is no number is none. -/
structure RouteRequest where
  store : Option ℕ := none
  inbound : Option ℕ := none
  inbounds : List (Option ℕ) := []
  multiInboundBundle : Bool := false
  operator : Option ℕ := none
  selectedPlanIds : List ℤ := []
  allActive : Bool := false
  priority : Option ℤ := some 100
  weight : Option ℤ := some 1
  strategy : RouteStrategy := .updateExisting
  note : String := ""
  deriving DecidableEq, Repr

structure PlanResult where
  plan : ℕ
  label : String
  status : String
  message : String
  deriving DecidableEq, Repr

/-- `new_bulk_route_result`. -/
structure RouteResult where
  plansCount : ℕ := 0
  toCreate : ℕ := 0
  toUpdate : ℕ := 0
  toSkip : ℕ := 0
  toDeactivate : ℕ := 0
  created : ℕ := 0
  updated : ℕ := 0
  skipped : ℕ := 0
  deactivated : ℕ := 0
  errors : List String := []
  warnings : List String := []
  planResults : List PlanResult := []
  selectedPlanIds : List ℕ := []
  deriving DecidableEq, Repr

/-- `add_plan_result`. -/
def RouteResult.addPlan (res : RouteResult) (p : RoutePlan) (status message : String) :
    RouteResult :=
  { res with planResults := res.planResults ++ [⟨p.pk, p.label, status, message⟩] }

/-! ## Inputs -/

/-- `normalize_plan_ids`. -/
def normalizePlanIds (ids : List ℤ) : List ℕ :=
  ((ids.filter (0 < ·)).map Int.toNat).reverse.dedup.reverse

/-- `models.Q(store=store) | models.Q(store__isnull=True)`, where there is a store. -/
def InScope (store owner : Option ℕ) : Prop :=
  store = none ∨ owner = store ∨ owner = none

instance (store owner : Option ℕ) : Decidable (InScope store owner) :=
  inferInstanceAs (Decidable (_ ∨ _ ∨ _))

section Inputs

variable (cat : Catalog) (req : RouteRequest)

def planBefore (a b : ℕ) : Bool :=
  let p := cat.plans a
  let q := cat.plans b
  p.sortOrder < q.sortOrder || p.sortOrder = q.sortOrder &&
    (p.price < q.price || p.price = q.price && a ≤ b)

/-- `get_bulk_route_target_plans`. -/
def targetPlans : List ℕ :=
  let ids := normalizePlanIds req.selectedPlanIds
  let plans := cat.planKeys.filter fun k =>
    (cat.plans k).isActive ∧ InScope req.store (cat.plans k).store
  if ids ≠ [] then (plans.filter (· ∈ ids)).mergeSort (planBefore cat)
  else if req.allActive then plans.mergeSort (planBefore cat)
  else []

/-- `normalize_inbound_bundle`. -/
def bundleInbounds : List ℕ := (req.inbounds.filterMap id).reverse.dedup.reverse

/-- `source_sellability_issues`. -/
def sellabilityIssues (inbound : RouteInbound) : List String × List String :=
  if ¬ inbound.requiresVerification then ([], [])
  else
    match inbound.verificationStatus with
    | .verifiedSellable =>
        ([], if inbound.isStale then ["Sellability verification is older than 7 days."] else [])
    | .verificationFailed =>
        let code := if inbound.lastVerificationErrorCode = "" then "verification_failed"
          else inbound.lastVerificationErrorCode
        (["PasarGuard source verification failed: " ++ code ++ "."], [])
    | .unverified =>
        (["PasarGuard source is unverified; run Verify for Sale before enabling new sales."], [])

/-- What `sales_inbound_issues` says of the panel of an inbound. -/
def panelIssues (store : Option ℕ) (inbound : RouteInbound) : List String × List String :=
  let panel := cat.panels inbound.panel
  if ¬ panel.isActive then (["Inbound panel is inactive."], [])
  else if Mismatch store panel.store then (["Inbound belongs to a different store."], [])
  else if panel.family = .pasarguard then
    let (errors, warnings) := sellabilityIssues inbound
    (errors, "PasarGuard route uses native raw subscription delivery; local direct link reconstruction is bypassed."
      :: warnings)
  else
    match panel.capabilityProfile with
    | .unknownSafe =>
        (["X-UI compatibility is unknown; run compatibility audit before selling on this inbound."], [])
    | .modernSingleNode | .modernMultiNode =>
        ([], ["Modern 3X-UI route uses deferred paid provisioning; no disabled client is created at checkout."])
    | _ => ([], [])

/-- `sales_inbound_issues`. -/
def salesInboundIssues (store : Option ℕ) (inbound : Option ℕ) : List String × List String :=
  match inbound with
  | none => (["Inbound is required."], [])
  | some k =>
      let inbound := cat.inbounds k
      let (panelErrors, panelWarnings) := panelIssues cat store inbound
      ((if ¬ inbound.isActive then ["Inbound is inactive."] else []) ++
        (if ¬ inbound.availableForNewOrders then ["Inbound is not available for new orders."]
          else []) ++
        (if strip inbound.legacyNote ≠ "" then ["Inbound is marked as legacy."] else []) ++
        panelErrors ++
        (if inbound.isSynchronizedNode ∧ strip inbound.xuiNodeId = "" then
          ["Synchronized node inbound is missing node identity."] else []),
        panelWarnings ++
        (if ¬ inbound.healthMonitorEnabled then
          ["Selected inbound is excluded from the health monitor."] else []) ++
        if inbound.maxClients.any (· ≤ inbound.currentUsers) then
          ["Selected inbound capacity is currently full."] else [])

def numbered (k : ℕ) (message : String) : String := "Inbound #" ++ toString k ++ ": " ++ message

/-- `sales_inbound_bundle_issues`. -/
def salesInboundBundleIssues (store : Option ℕ) (inbounds : List ℕ) : List String × List String :=
  match inbounds with
  | first :: _ :: _ =>
      let panel := cat.panels (cat.inbounds first).panel
      let issues := inbounds.map fun k => (k, salesInboundIssues cat store (some k))
      ((if inbounds.any fun k => (cat.inbounds k).panel ≠ (cat.inbounds first).panel then
          ["All bundle inbounds must belong to the same panel."] else []) ++
        (if panel.family ≠ .pasarguard ∧ panel.capabilityProfile ≠ .modernMultiNode then
          ["Multi-inbound bundle requires a modern multi-node 3X-UI panel."] else []) ++
        issues.flatMap fun i => i.2.1.map (numbered i.1),
        issues.flatMap fun i => i.2.2.map (numbered i.1))
  | _ => (["Select at least two inbounds for a multi-inbound bundle."], [])

/-- What is wrong with the inbounds of a request. -/
def inboundIssues : List String × List String :=
  if req.multiInboundBundle then
    let (errors, warnings) := salesInboundBundleIssues cat req.store (bundleInbounds req)
    (errors ++
      (if req.strategy ≠ .replaceActive ∧ req.strategy ≠ .updateExisting then
        ["Multi-inbound bundle can only replace/update active routes."] else []), warnings)
  else salesInboundIssues cat req.store req.inbound

def numberError (value : Option ℤ) (least : ℤ) (small none : String) : List String :=
  match value with
  | some n => if n < least then [small] else []
  | .none => [none]

/-- The errors of `validate_bulk_route_inputs`. -/
def inputErrors : List String :=
  (match req.strategy with
    | .unknown name => ["Unknown route strategy: " ++ name]
    | _ => []) ++
  (if ¬ req.allActive ∧ normalizePlanIds req.selectedPlanIds = [] then
    ["Select at least one active plan or choose all active plans."] else []) ++
  numberError req.priority 0 "Priority must be zero or greater." "Priority must be a number." ++
  numberError req.weight 1 "Weight must be at least 1." "Weight must be a number." ++
  (inboundIssues cat req).1

def inputWarnings : List String :=
  let ids := normalizePlanIds req.selectedPlanIds
  let missing := ids.length - (targetPlans cat req).length
  (if ids ≠ [] ∧ (targetPlans cat req).length ≠ ids.length then
    [toString missing ++
      " selected plan(s) were ignored because they are inactive or outside this store."]
    else []) ++ (inboundIssues cat req).2

/-- The result before the first plan. -/
def startResult : RouteResult where
  plansCount := (targetPlans cat req).length
  errors := inputErrors cat req
  warnings := inputWarnings cat req
  selectedPlanIds := targetPlans cat req

end Inputs

/-! ## Routes of a plan -/

section Routes

variable (cat : Catalog) (req : RouteRequest) (rows : List PlanInboundRoute) (plan : ℕ)

/-- `plan_accepts_operator`; none is accepted. -/
def PlanAccepts : Prop :=
  ∀ o ∈ req.operator, o ∈ (cat.plans plan).operators ∧ (cat.operators o).isActive = true ∧
    InScope req.store (cat.operators o).store

instance : Decidable (PlanAccepts cat req plan) :=
  inferInstanceAs (Decidable (∀ o ∈ req.operator, _))

/-- A route of `active_routes_for_plan_operator`. -/
def IsActiveRoute (r : PlanInboundRoute) : Prop :=
  r.plan = plan ∧ r.isActive = true ∧ r.operator = req.operator ∧ InScope req.store r.store ∧
    InScope req.store (cat.panels (cat.inbounds r.inbound).panel).store

instance (r : PlanInboundRoute) : Decidable (IsActiveRoute cat req plan r) :=
  inferInstanceAs (Decidable (_ ∧ _))

def routeBefore (a b : PlanInboundRoute) : Bool :=
  let storePriority (r : PlanInboundRoute) : ℕ :=
    if req.store ≠ none ∧ r.store = req.store then 0 else 1
  storePriority a < storePriority b || storePriority a = storePriority b &&
    (a.priority < b.priority || a.priority = b.priority && a.pk ≤ b.pk)

/-- `active_routes_for_plan_operator`. -/
def activeRoutes : List PlanInboundRoute :=
  (rows.filter (IsActiveRoute cat req plan ·)).mergeSort (routeBefore req)

/-- `first_route_for_same_inbound`. There is one at most, whatever the order. -/
def sameInboundRoute (inbound : ℕ) : Option PlanInboundRoute :=
  rows.find? fun r => r.plan = plan ∧ r.inbound = inbound ∧ r.operator = req.operator

/-- `build_new_route`. -/
def newRoute (inbound : ℕ) (priority weight : ℤ) : RouteFields where
  store := req.store
  plan := plan
  operator := req.operator
  inbound := inbound
  priority := priority
  weight := weight
  note := req.note

/-- `update_route_fields`, without a store and an activity. -/
def updatedRoute (r : RouteFields) (inbound : ℕ) (priority weight : ℤ) : RouteFields :=
  { r with
    inbound := inbound
    priority := priority
    weight := weight
    note := req.note }

/-- `update_route_fields`, with the store of the request and active. -/
def reusedRoute (r : RouteFields) (inbound : ℕ) (priority weight : ℤ) : RouteFields :=
  { updatedRoute req r inbound priority weight with
    store := if req.store = none then r.store else req.store
    isActive := true }

def deactivatedRoute (r : RouteFields) : RouteFields := { r with isActive := false }

/-- The route of the inbound that a bundle uses again. -/
def bundleRoute (inbound : ℕ) : Option PlanInboundRoute :=
  ((activeRoutes cat req rows plan).find? (·.inbound = inbound)).orElse fun _ =>
    sameInboundRoute req rows plan inbound

end Routes

/-! ## The preview -/

section Preview

variable (cat : Catalog) (req : RouteRequest) (rows : List PlanInboundRoute) (plan : ℕ)

def formatValidationError (errors : FieldErrors) : String :=
  "; ".intercalate (errors.map fun e => e.1 ++ ": " ++ e.2)

/-- `validate_candidate_route`. -/
def validateCandidate (action : String) (self : Option ℕ) (r : RouteFields) (res : RouteResult) :
    RouteResult :=
  let errors := fullClean cat r rows self
  if errors = [] then res
  else
    { res with errors := res.errors ++ ["Plan #" ++ toString plan ++ " " ++ (cat.plans plan).name ++
        ": cannot " ++ action ++ " route: " ++ formatValidationError errors] }

/-- The result of a route that is valid where nothing was wrong with it. -/
def ifValid (action : String) (self : Option ℕ) (r : RouteFields) (res : RouteResult)
    (done : RouteResult → RouteResult) : RouteResult :=
  let validated := validateCandidate cat rows plan action self r res
  if validated.errors.length = res.errors.length then done validated else validated

def skipped (res : RouteResult) (message : String) : RouteResult :=
  res.addPlan (cat.plans plan) "skipped" message

/-- What is said of an operator that the plan does not have. -/
def operatorMessage (operator : ℕ) : String :=
  "Operator #" ++ toString operator ++ " is not enabled on this plan."

def operatorWarning : String :=
  "Plan #" ++ toString plan ++ " skipped: operator is not enabled on the plan."

def duplicateWarning (inbound : ℕ) : String :=
  "Plan #" ++ toString plan ++ " skipped: a route to inbound #" ++ toString inbound ++
    " already exists and cannot be duplicated."

/-- One inbound of `preview_multi_plan_route_operation`, the `offset`-th of its bundle. -/
def previewBundleInbound (priority weight : ℤ) (acc : RouteResult × ℕ × ℕ) (inbound offset : ℕ) :
    RouteResult × ℕ × ℕ :=
  let (res, toCreate, toUpdate) := acc
  match bundleRoute cat req rows plan inbound with
  | some r =>
      (validateCandidate cat rows plan "update" (some r.pk)
        (reusedRoute req r.toRouteFields inbound (priority + offset) weight) res,
        toCreate, toUpdate + 1)
  | none =>
      (validateCandidate cat rows plan "create" none
        (newRoute req plan inbound (priority + offset) weight) res, toCreate + 1, toUpdate)

/-- `preview_multi_plan_route_operation`. -/
def previewBundle (priority weight : ℤ) (res : RouteResult) : RouteResult :=
  let inbounds := bundleInbounds req
  let (validated, toCreate, toUpdate) := inbounds.zipIdx.foldl
    (fun acc i => previewBundleInbound cat req rows plan priority weight acc i.1 i.2) (res, 0, 0)
  let toDeactivate :=
    ((activeRoutes cat req rows plan).filter fun r => r.inbound ∉ inbounds).length
  if validated.errors.length ≠ res.errors.length then validated
  else
    { validated.addPlan (cat.plans plan) "bundle"
        (toString inbounds.length ++ " inbound bundle will be active; " ++ toString toCreate ++
          " create, " ++ toString toUpdate ++ " update, " ++ toString toDeactivate ++
          " deactivate.") with
      toCreate := validated.toCreate + toCreate
      toUpdate := validated.toUpdate + toUpdate
      toDeactivate := validated.toDeactivate + toDeactivate }

/-- `preview_plan_route_operation` for an operator that the plan accepts, and one inbound. -/
def previewSingle (inbound : ℕ) (priority weight : ℤ) (res : RouteResult) : RouteResult :=
  let active := activeRoutes cat req rows plan
  let same := sameInboundRoute req rows plan inbound
  let create (res : RouteResult) : RouteResult :=
    ifValid cat rows plan "create" none (newRoute req plan inbound priority weight) res fun res =>
      { res.addPlan (cat.plans plan) "create" "A new active route will be created." with
        toCreate := res.toCreate + 1 }
  match req.strategy, active, same with
  | .skipExisting, _ :: _, _ =>
      { skipped cat plan res "Active route already exists." with toSkip := res.toSkip + 1 }
  | .addNew, _, some _ =>
      { skipped cat plan res "A route to the selected inbound already exists." with
        toSkip := res.toSkip + 1
        warnings := res.warnings ++ [duplicateWarning plan inbound] }
  | .updateExisting, r :: _, _ =>
      ifValid cat rows plan "update" (some r.pk)
        (updatedRoute req r.toRouteFields inbound priority weight) res fun res =>
          { res.addPlan (cat.plans plan) "update"
              ("Route #" ++ toString r.pk ++ " will be updated.") with
            toUpdate := res.toUpdate + 1 }
  | .replaceActive, _, some r =>
      let deactivated := (active.filter (·.pk ≠ r.pk)).length
      ifValid cat rows plan "update" (some r.pk)
        (reusedRoute req r.toRouteFields inbound priority weight) res fun res =>
          { res.addPlan (cat.plans plan) "update"
              ("Route #" ++ toString r.pk ++ " will be reused and " ++ toString deactivated ++
                " active route(s) will be deactivated.") with
            toUpdate := res.toUpdate + 1
            toDeactivate := res.toDeactivate + deactivated }
  | .replaceActive, _, none =>
      ifValid cat rows plan "create" none (newRoute req plan inbound priority weight) res
        fun res =>
          { res.addPlan (cat.plans plan) "replace"
              (toString active.length ++ " active route(s) will be deactivated.") with
            toCreate := res.toCreate + 1
            toDeactivate := res.toDeactivate + active.length }
  | _, _, _ => create res

/-- `preview_plan_route_operation`. A request whose inputs are valid has its numbers, and an
inbound where it asks for no bundle. -/
def previewPlan (res : RouteResult) : RouteResult :=
  if ¬ PlanAccepts cat req plan then
    { skipped cat plan res (operatorMessage (req.operator.getD 0)) with
      toSkip := res.toSkip + 1
      warnings := res.warnings ++ [operatorWarning plan] }
  else
    let priority := req.priority.getD 0
    let weight := req.weight.getD 0
    if req.multiInboundBundle then previewBundle cat req rows plan priority weight res
    else previewSingle cat req rows plan (req.inbound.getD 0) priority weight res

/-- `preview_bulk_plan_routes`. -/
def previewBulk : RouteResult :=
  let res := startResult cat req
  if res.errors ≠ [] then res
  else (targetPlans cat req).foldl (fun res plan => previewPlan cat req rows plan res) res

end Preview

/-! ## The application -/

section Apply

variable (cat : Catalog) (req : RouteRequest)

/-- The tables and the result while the routes are changed. -/
abbrev Applied := RouteDb × RouteResult

/-- `full_clean` and `save` of a route that is there. -/
def saveRoute (pk : ℕ) (r : RouteFields) (db : RouteDb) : Except FieldErrors RouteDb :=
  match fullClean cat r db.routes.rows (some pk) with
  | [] => db.update pk r
  | errors => .error errors

/-- `full_clean` and `save` of a new route. -/
def createRoute (r : RouteFields) (db : RouteDb) : Except FieldErrors RouteDb :=
  match fullClean cat r db.routes.rows none with
  | [] => db.insert r
  | errors => .error errors

def deactivate (routes : List PlanInboundRoute) (db : RouteDb) : Except FieldErrors RouteDb :=
  routes.foldlM (fun db r => saveRoute cat r.pk (deactivatedRoute r.toRouteFields) db) db

variable (plan : ℕ)

/-- One inbound of `apply_multi_plan_route_operation`. The routes that were active when it began
are found in `active`, the others in the table. -/
def applyBundleInbound (active : List PlanInboundRoute) (priority weight : ℤ)
    (acc : RouteDb × ℕ × ℕ) (inbound offset : ℕ) : Except FieldErrors (RouteDb × ℕ × ℕ) := do
  let (db, created, updated) := acc
  match (active.find? (·.inbound = inbound)).orElse fun _ =>
      sameInboundRoute req db.routes.rows plan inbound with
  | some r =>
      let db ← saveRoute cat r.pk
        (reusedRoute req r.toRouteFields inbound (priority + offset) weight) db
      return (db, created, updated + 1)
  | none =>
      let db ← createRoute cat (newRoute req plan inbound (priority + offset) weight) db
      return (db, created + 1, updated)

/-- `apply_multi_plan_route_operation`. -/
def applyBundle (priority weight : ℤ) (s : Applied) : Except FieldErrors Applied := do
  let (db, res) := s
  let inbounds := bundleInbounds req
  let active := activeRoutes cat req db.routes.rows plan
  let stray := active.filter fun r => r.inbound ∉ inbounds
  let db ← deactivate cat stray (db.setBundle plan true)
  let (db, created, updated) ← inbounds.zipIdx.foldlM
    (fun acc i => applyBundleInbound cat req plan active priority weight acc i.1 i.2) (db, 0, 0)
  return (db,
    { res.addPlan (cat.plans plan) "bundle"
        (toString inbounds.length ++ " inbound bundle active; " ++ toString created ++
          " created, " ++ toString updated ++ " updated, " ++ toString stray.length ++
          " deactivated.") with
      created := res.created + created
      updated := res.updated + updated
      deactivated := res.deactivated + stray.length })

/-- `apply_plan_route_operation` for an operator that the plan accepts, and one inbound. -/
def applySingle (inbound : ℕ) (priority weight : ℤ) (s : Applied) : Except FieldErrors Applied :=
  let (db, res) := s
  let active := activeRoutes cat req db.routes.rows plan
  let same := sameInboundRoute req db.routes.rows plan inbound
  let single := db.setBundle plan false
  let create : Except FieldErrors Applied := do
    let db' ← createRoute cat (newRoute req plan inbound priority weight) single
    return (db', { res.addPlan (cat.plans plan) "created"
      ("Route #" ++ toString single.routes.next ++ " created.") with created := res.created + 1 })
  match req.strategy, active, same with
  | .skipExisting, _ :: _, _ =>
      .ok (db, { skipped cat plan res "Active route already exists." with
        skipped := res.skipped + 1 })
  | .addNew, _, some _ =>
      .ok (db, { skipped cat plan res "A route to the selected inbound already exists." with
        skipped := res.skipped + 1
        warnings := res.warnings ++ [duplicateWarning plan inbound] })
  | .updateExisting, r :: _, _ => do
      let db' ← saveRoute cat r.pk (updatedRoute req r.toRouteFields inbound priority weight) single
      return (db', { res.addPlan (cat.plans plan) "updated"
        ("Route #" ++ toString r.pk ++ " updated.") with updated := res.updated + 1 })
  | .replaceActive, _, some r => do
      let others := active.filter (·.pk ≠ r.pk)
      let db' ← deactivate cat others single
      let db' ← saveRoute cat r.pk (reusedRoute req r.toRouteFields inbound priority weight) db'
      return (db', { res.addPlan (cat.plans plan) "updated"
        ("Route #" ++ toString r.pk ++ " reused; " ++ toString others.length ++
          " active route(s) deactivated.") with
        updated := res.updated + 1
        deactivated := res.deactivated + others.length })
  | .replaceActive, _, none => do
      let db' ← deactivate cat active single
      let db'' ← createRoute cat (newRoute req plan inbound priority weight) db'
      return (db'', { res.addPlan (cat.plans plan) "created"
        ("Route #" ++ toString db'.routes.next ++ " created after replacement.") with
        created := res.created + 1
        deactivated := res.deactivated + active.length })
  | _, _, _ => create

/-- `apply_plan_route_operation`. -/
def applyPlan (s : Applied) : Except FieldErrors Applied :=
  if ¬ PlanAccepts cat req plan then
    .ok (s.1, { skipped cat plan s.2 (operatorMessage (req.operator.getD 0)) with
      skipped := s.2.skipped + 1
      warnings := s.2.warnings ++ [operatorWarning plan] })
  else
    let priority := req.priority.getD 0
    let weight := req.weight.getD 0
    if req.multiInboundBundle then applyBundle cat req plan priority weight s
    else applySingle cat req plan (req.inbound.getD 0) priority weight s

/-- What comes of `apply_bulk_plan_routes`. -/
inductive ApplyOutcome where
  | returned (res : RouteResult)
  | raised (errors : FieldErrors)
  deriving DecidableEq, Repr

/-- `apply_bulk_plan_routes`. The plans are changed in one transaction. -/
def applyBulk (db : RouteDb) : RouteDb × ApplyOutcome :=
  let preview := previewBulk cat req db.routes.rows
  if preview.errors ≠ [] then (db, .returned preview)
  else
    let res := startResult cat req
    if res.errors ≠ [] then (db, .raised (res.errors.map fun e => ("__all__", e)))
    else
      match (targetPlans cat req).foldlM (fun s plan => applyPlan cat req plan s) (db, res) with
      | .error errors => (db, .raised errors)
      | .ok (db', res) => (db', .returned res)

end Apply

end Qasedak.PlanRoutes
