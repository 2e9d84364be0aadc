import Mathlib
import Qasedak.PlanRoutes.Model
import Qasedak.Foundation.Table
import Qasedak.Foundation.Ranking

/-! The selection of the inbounds that new clients of a plan are created on: the checks of one
inbound, the routes of the plan in their order, and the fallback without them. -/

namespace Qasedak.PlanRoutes

open Foundation Store

/-! ## Rows -/

/-- The fields of a store that a selection reads. -/
structure SellingStore where
  pk : ℕ
  isActive : Bool := true
  /-- `setup_status` is `READY`. -/
  isReady : Bool := true
  planInboundRoutingEnabled : Bool := true
  allowGlobalInboundFallback : Bool := true
  deriving DecidableEq, Repr

structure SellingPlan where
  pk : ℕ
  store : Option SellingStore := none
  multiInboundBundle : Bool := false
  deriving DecidableEq, Repr

structure SalesTables where
  routes : Table PlanInboundRoute.pk
  inbounds : Table Inbound.pk
  panels : Table Panel.pk

/-- What a selection is for: the store, the clients that are needed, and whether a panel with
modern clients will do. -/
structure Demand where
  store : Option SellingStore := none
  requiredSlots : ℕ := 1
  allowModernDeferred : Bool := false
  deriving DecidableEq, Repr

/-- `store_is_sellable`. -/
def SellingStore.isSellable (s : SellingStore) : Bool := s.isActive && s.isReady

/-- `store_allows_plan_inbound_routing`. -/
def storeAllowsPlanInboundRouting (store : Option SellingStore) : Bool :=
  store.any (·.planInboundRoutingEnabled)

/-- `store_allows_global_inbound_fallback`. -/
def storeAllowsGlobalInboundFallback (store : Option SellingStore) : Bool :=
  store.all (·.allowGlobalInboundFallback)

def planInboundRouteMissingMessage : String :=
  "برای این پلن مسیر سرور/اینباند تعریف نشده است. لطفاً با پشتیبانی تماس بگیرید."

def panelModernInactiveCreateMessage : String :=
  "API جدید 3X-UI ساخت کلاینت غیرفعال را به‌صورت امن پشتیبانی نمی‌کند؛ این مسیر فقط با deferred/direct create-enabled provisioning مجاز است."

/-! ## One inbound -/

/-- `available_capacity < required_slots`, where the inbound has a limit. -/
def lacksCapacity (i : Inbound) (requiredSlots : ℕ) : Bool :=
  i.maxClients.any fun most => most - i.currentUsers < requiredSlots

/-- `validate_inbound_for_order`. -/
def validateInboundForOrder (t : SalesTables) (d : Demand) (inbound : Option Inbound) :
    Except String Inbound :=
  match inbound with
  | none => .error "سرور فعالی برای ساخت کانفیگ پیدا نشد."
  | some i =>
      if ¬ i.isActive then
        .error "اینباند انتخاب‌شده غیرفعال است و نمی‌تواند برای سفارش جدید استفاده شود."
      else if ¬ i.availableForNewOrders then
        .error "اینباند انتخاب‌شده برای فروش یا ساخت کانفیگ جدید مجاز نیست."
      else
        match t.panels.get? i.panel with
        | none => .error "اینباند انتخاب‌شده به هیچ پنل معتبری وصل نیست. لطفاً تنظیمات سرور را بررسی کن."
        | some p =>
            if ¬ p.isActive then
              .error "پنل متصل به اینباند غیرفعال است و نمی‌تواند برای سفارش جدید استفاده شود."
            else if d.store.any fun s => p.store.any (· ≠ s.pk) then
              .error "اینباند انتخاب‌شده به فروشگاه دیگری وصل است."
            else if p.family ≠ .pasarguard ∧ i.isSynchronizedNode ∧ strip i.xuiNodeId = "" then
              .error "اینباند sync شده از node هویت node ندارد و برای ساخت کانفیگ جدید امن نیست."
            else if p.family = .pasarguard ∧ ¬ d.allowModernDeferred then
              .error panelModernInactiveCreateMessage
            else if p.capabilityProfile = .unknownSafe then
              .error "سازگاری پنل X-UI نامشخص است. ابتدا audit سازگاری پنل را اجرا کن."
            else if (p.capabilityProfile = .modernSingleNode ∨
                p.capabilityProfile = .modernMultiNode) ∧ ¬ d.allowModernDeferred then
              .error panelModernInactiveCreateMessage
            else if lacksCapacity i (max d.requiredSlots 1) then
              .error "ظرفیت اینباند انتخاب‌شده برای تعداد کانفیگ درخواستی کافی نیست."
            else .ok i

/-- The inbound is sold for the demand. -/
def Demand.Accepts (d : Demand) (t : SalesTables) (i : Inbound) : Prop :=
  validateInboundForOrder t d (some i) = .ok i

instance (d : Demand) (t : SalesTables) (i : Inbound) : Decidable (d.Accepts t i) :=
  decidable_of_iff ((validateInboundForOrder t d (some i)).toOption = some i) (by
    rw [Demand.Accepts]
    cases validateInboundForOrder t d (some i) <;> simp [Except.toOption])

/-! ## The fallback -/

/-- The rows that the query of `get_available_inbound` asks for. -/
def isOnSale (t : SalesTables) (store : Option SellingStore) (i : Inbound) : Bool :=
  i.isActive && i.availableForNewOrders &&
    (t.panels.get? i.panel).any fun p =>
      p.isActive && store.all fun s => p.store = some s.pk || p.store = none

/-- The order of the fallback. -/
def inboundRank (i : Inbound) : ℕ ×ₗ ℕ := toLex (i.currentUsers, i.pk)

/-- `get_available_inbound`. -/
def getAvailableInbound (t : SalesTables) (d : Demand) : Option Inbound :=
  if d.store.any (!·.isSellable) then none
  else
    ((t.inbounds.rows.filter (isOnSale t d.store)).insertionSort
      fun i j => inboundRank i ≤ inboundRank j).find? fun i =>
        decide (d.Accepts t i) && !lacksCapacity i (max d.requiredSlots 1)

/-! ## Routes -/

/-- A route of `base_routes` for the store. -/
def isBaseRoute (t : SalesTables) (plan : ℕ) (s : SellingStore) (r : PlanInboundRoute) : Bool :=
  r.plan = plan && r.isActive && (r.store = some s.pk || r.store = none) &&
    (t.inbounds.get? r.inbound).any (isOnSale t (some s))

/-- The order of the routes: those of the store first, then by priority, load and key. -/
def routeRank (t : SalesTables) (s : SellingStore) (r : PlanInboundRoute) : ℕ ×ₗ ℤ ×ₗ ℕ ×ₗ ℕ :=
  toLex (if r.store = some s.pk then 0 else 1,
    toLex (r.priority, toLex (((t.inbounds.get? r.inbound).map (·.currentUsers)).getD 0, r.pk)))

/-- The routes of a candidate set in their order. -/
def candidateRoutes (t : SalesTables) (plan : ℕ) (s : SellingStore) (operator : Option ℕ) :
    List PlanInboundRoute :=
  (t.routes.rows.filter fun r => isBaseRoute t plan s r && r.operator = operator).insertionSort
    fun r q => routeRank t s r ≤ routeRank t s q

/-- What `validate_inbound_for_order` returns of the inbound of a route. -/
def validInbound (t : SalesTables) (d : Demand) (r : PlanInboundRoute) : Option Inbound :=
  (validateInboundForOrder t d (t.inbounds.get? r.inbound)).toOption

/-- `_first_valid_route_inbound`. -/
def firstValidRouteInbound (t : SalesTables) (d : Demand) (routes : List PlanInboundRoute) :
    Option Inbound :=
  routes.findSome? (validInbound t d)

/-- The loop of `_valid_route_inbounds`, with the keys that were seen. -/
def validRouteInboundsGo (t : SalesTables) (d : Demand) (seen : List ℕ) :
    List PlanInboundRoute → List Inbound
  | [] => []
  | r :: routes =>
      match validInbound t d r with
      | none => validRouteInboundsGo t d seen routes
      | some i =>
          if i.pk ∈ seen then validRouteInboundsGo t d seen routes
          else i :: validRouteInboundsGo t d (i.pk :: seen) routes

/-- `_valid_route_inbounds`. -/
def validRouteInbounds (t : SalesTables) (d : Demand) (routes : List PlanInboundRoute) :
    List Inbound :=
  validRouteInboundsGo t d [] routes

/-- The operators of the candidate sets, in their order. -/
def candidateOperators (operator : Option ℕ) : List (Option ℕ) :=
  (operator.map some).toList ++ [none]

/-- The demand of a call, for the store or the one of the plan. -/
def callDemand (plan : SellingPlan) (store : Option SellingStore) (quantity : ℤ)
    (allowModernDeferred : Bool) : Demand where
  store := store.orElse fun _ => plan.store
  requiredSlots := (max quantity 1).toNat
  allowModernDeferred := allowModernDeferred

/-- `select_inbound_for_plan`. -/
def selectInboundForPlan (t : SalesTables) (plan : SellingPlan) (store : Option SellingStore)
    (operator : Option ℕ) (quantity : ℤ) (allowModernDeferred : Bool) :
    Except String (Option Inbound) :=
  let d := callDemand plan store quantity allowModernDeferred
  match d.store.filter (·.planInboundRoutingEnabled) with
  | none => .ok (getAvailableInbound t d)
  | some s =>
      match (candidateOperators operator).findSome? fun op =>
          firstValidRouteInbound t d (candidateRoutes t plan.pk s op) with
      | some i => .ok (some i)
      | none =>
          if storeAllowsGlobalInboundFallback d.store then .ok (getAvailableInbound t d)
          else .error planInboundRouteMissingMessage

/-- The checks of a bundle that is not empty. -/
def checkBundle (t : SalesTables) (inbounds : List Inbound) : Except String (List (Option Inbound)) :=
  if 1 < (inbounds.map (·.panel)).dedup.length then
    .error "همه اینباندهای bundle باید روی یک پنل باشند."
  else if ((inbounds.head?.bind fun i => t.panels.get? i.panel).any fun p =>
      p.family ≠ .pasarguard && p.capabilityProfile ≠ .modernMultiNode) then
    .error "bundle چند اینباند فقط برای پنل modern multi-node مجاز است."
  else .ok (inbounds.map some)

/-- `select_inbounds_for_plan`. -/
def selectInboundsForPlan (t : SalesTables) (plan : SellingPlan) (store : Option SellingStore)
    (operator : Option ℕ) (quantity : ℤ) (allowModernDeferred : Bool) :
    Except String (List (Option Inbound)) :=
  if ¬ plan.multiInboundBundle then
    (selectInboundForPlan t plan store operator quantity allowModernDeferred).map fun i => [i]
  else
    let d := callDemand plan store quantity true
    match d.store.filter (·.planInboundRoutingEnabled) with
    | none => .ok ((getAvailableInbound t d).map some).toList
    | some s =>
        match ((candidateOperators operator).map fun op =>
            validRouteInbounds t d (candidateRoutes t plan.pk s op)).find? (· ≠ []) with
        | some inbounds => checkBundle t inbounds
        | none =>
            if storeAllowsGlobalInboundFallback d.store then
              .ok ((getAvailableInbound t d).map some).toList
            else .error planInboundRouteMissingMessage

variable {t : SalesTables} {d : Demand} {s : SellingStore} {i : Inbound} {plan : ℕ}
  {operator op : Option ℕ} {r : PlanInboundRoute}

/-! ## Valid routes -/

/-- An active route of the plan for the store, in the set of an operator. -/
structure IsOffered (plan : ℕ) (s : SellingStore) (operator : Option ℕ) (r : PlanInboundRoute) :
    Prop where
  plan : r.plan = plan
  isActive : r.isActive = true
  store : r.store = some s.pk ∨ r.store = none
  operator : r.operator = operator

/-- A route in scope whose inbound is sold for the demand. -/
structure ValidRoute (t : SalesTables) (d : Demand) (plan : ℕ) (s : SellingStore)
    (operator : Option ℕ) (r : PlanInboundRoute) (i : Inbound) : Prop where
  row : r ∈ t.routes.rows
  offered : IsOffered plan s operator r
  inbound : t.inbounds.get? r.inbound = some i
  accepted : d.Accepts t i

def HasRoute (t : SalesTables) (d : Demand) (plan : ℕ) (s : SellingStore) (operator : Option ℕ) :
    Prop :=
  ∃ r i, ValidRoute t d plan s operator r i

theorem validate_eq_ok {inbound : Option Inbound}
    (h : validateInboundForOrder t d inbound = .ok i) : inbound = some i := by
  cases inbound with
  | none => cases h
  | some j =>
      simp only [validateInboundForOrder] at h
      split at h
      · cases h
      split at h
      · cases h
      cases hp : t.panels.get? j.panel with
      | none =>
          rw [hp] at h
          cases h
      | some p =>
          simp only [hp] at h
          iterate 7
            split at h
            · cases h
          exact congrArg some (Except.ok.inj h)

/-- What is sold stands in the query, and has the capacity. -/
theorem Demand.Accepts.onSale (h : d.Accepts t i) :
    isOnSale t d.store i = true ∧ lacksCapacity i (max d.requiredSlots 1) = false := by
  simp only [Demand.Accepts, validateInboundForOrder] at h
  split at h
  · cases h
  split at h
  · cases h
  rename_i hactive hsold
  cases hp : t.panels.get? i.panel with
  | none =>
      rw [hp] at h
      cases h
  | some p =>
      simp only [hp] at h
      split at h
      · cases h
      split at h
      · cases h
      rename_i hpanel hstore
      iterate 4
        split at h
        · cases h
      split at h
      · cases h
      rename_i hcapacity
      refine ⟨?_, by simpa using hcapacity⟩
      rw [isOnSale, hp]
      have hactive : i.isActive = true := by simpa using hactive
      have hsold : i.availableForNewOrders = true := by simpa using hsold
      have hpanel : p.isActive = true := by simpa using hpanel
      rw [hactive, hsold, Option.any_some, hpanel]
      cases hd : d.store with
      | none => rfl
      | some s =>
          rw [hd] at hstore
          cases hs : p.store with
          | none => simp
          | some k =>
              rw [hs] at hstore
              have hk : k = s.pk := by simpa using hstore
              simp [hk]

theorem validInbound_eq_some :
    validInbound t d r = some i ↔ t.inbounds.get? r.inbound = some i ∧ d.Accepts t i := by
  rw [validInbound]
  constructor
  · intro h
    cases hv : validateInboundForOrder t d (t.inbounds.get? r.inbound) with
    | error e =>
        rw [hv] at h
        cases h
    | ok j =>
        rw [hv] at h
        obtain rfl : j = i := Option.some.inj h
        have hrow := validate_eq_ok hv
        rw [hrow] at hv
        exact ⟨hrow, hv⟩
  · rintro ⟨hrow, haccepts⟩
    rw [hrow, haccepts]
    rfl

/-- The valid ones among the routes of a candidate set. -/
theorem mem_candidateRoutes (hs : d.store = some s) :
    (r ∈ candidateRoutes t plan s op ∧ validInbound t d r = some i) ↔
      ValidRoute t d plan s op r i := by
  rw [validInbound_eq_some, candidateRoutes, List.mem_insertionSort, List.mem_filter, isBaseRoute]
  constructor
  · rintro ⟨⟨hrow, hbase⟩, hinbound, haccepts⟩
    simp only [Bool.and_eq_true, Bool.or_eq_true, decide_eq_true_eq] at hbase
    exact ⟨hrow, ⟨hbase.1.1.1.1, hbase.1.1.1.2, hbase.1.1.2, hbase.2⟩, hinbound, haccepts⟩
  · rintro ⟨hrow, hoffered, hinbound, haccepts⟩
    refine ⟨⟨hrow, ?_⟩, hinbound, haccepts⟩
    have hsale := haccepts.onSale.1
    rw [hs] at hsale
    simp [hoffered.plan, hoffered.isActive, hoffered.store, hoffered.operator, hinbound, hsale]

/-! ## The fallback -/

/-- The answer of the fallback: the least loaded inbound that is sold, none where nothing is. -/
structure FallsBack (t : SalesTables) (d : Demand) (answer : Option Inbound) : Prop where
  least : ∀ i, answer = some i → (∀ s, d.store = some s → s.isSellable = true) ∧
    i ∈ t.inbounds.rows ∧ d.Accepts t i ∧
      ∀ j ∈ t.inbounds.rows, d.Accepts t j → inboundRank i ≤ inboundRank j
  none : answer = none → (∃ s, d.store = some s ∧ s.isSellable = false) ∨
    ∀ i ∈ t.inbounds.rows, ¬ d.Accepts t i

theorem fallsBack_getAvailableInbound (t : SalesTables) (d : Demand) :
    FallsBack t d (getAvailableInbound t d) := by
  have hfound (i : Inbound) : (decide (d.Accepts t i) &&
      !lacksCapacity i (max d.requiredSlots 1)) = true ↔ d.Accepts t i := by
    constructor
    · intro h
      simp only [Bool.and_eq_true, decide_eq_true_eq] at h
      exact h.1
    · intro h
      simp [h, h.onSale.2]
  rw [getAvailableInbound]
  by_cases hsellable : d.store.any (!·.isSellable) = true
  · rw [if_pos hsellable]
    constructor
    · rintro i ⟨⟩
    · intro _
      left
      obtain ⟨s, hs, hclosed⟩ := (Option.any_eq_true _ _).mp hsellable
      exact ⟨s, hs, by simpa using hclosed⟩
  · rw [if_neg hsellable, List.find?_eq_findSome?_guard]
    constructor
    · intro i hi
      obtain ⟨j, hj, hij, hleast⟩ := findSome?_insertionSort hi
      obtain ⟨rfl, haccepted⟩ := Option.guard_eq_some_iff.mp hij
      rw [hfound] at haccepted
      rw [List.mem_filter] at hj
      refine ⟨?_, hj.1, haccepted, ?_⟩
      · intro s hs
        rw [hs] at hsellable
        simpa using hsellable
      · intro k hk haccepts
        refine hleast k (List.mem_filter.mpr ⟨hk, haccepts.onSale.1⟩) ?_
        rw [Option.isSome_guard]
        exact (hfound k).mpr haccepts
    · intro hnone
      right
      intro i hi haccepts
      have hi := findSome?_insertionSort_eq_none.mp hnone i
        (List.mem_filter.mpr ⟨hi, haccepts.onSale.1⟩)
      rw [Option.guard_eq_none_iff, (hfound i).mpr haccepts] at hi
      cases hi

/-! ## One inbound -/

/-- The candidate set that is used: the one of the operator if it has a valid route, else the
general one. -/
structure Prevails (has : Option ℕ → Prop) (operator op : Option ℕ) : Prop where
  valid : has op
  candidate : op = operator ∨ op = none
  first : op = none → ∀ o, operator = some o → ¬ has (some o)

/-- A valid route that comes before all others of its set. -/
structure LeastRoute (t : SalesTables) (d : Demand) (plan : ℕ) (s : SellingStore)
    (operator : Option ℕ) (r : PlanInboundRoute) (i : Inbound) : Prop where
  valid : ValidRoute t d plan s operator r i
  least : ∀ q j, ValidRoute t d plan s operator q j → routeRank t s r ≤ routeRank t s q

/-- What a selection of one inbound comes to. -/
structure SelectsInbound (t : SalesTables) (d : Demand) (plan : ℕ) (operator : Option ℕ)
    (result : Except String (Option Inbound)) : Prop where
  unrouted : (∀ s, d.store = some s → s.planInboundRoutingEnabled = false) →
    ∃ answer, result = .ok answer ∧ FallsBack t d answer
  routed : ∀ s op, d.store = some s → s.planInboundRoutingEnabled = true →
    Prevails (HasRoute t d plan s) operator op →
      ∃ r i, LeastRoute t d plan s op r i ∧ result = .ok (some i)
  fallback : ∀ s, d.store = some s → s.planInboundRoutingEnabled = true →
    (∀ op, ¬ Prevails (HasRoute t d plan s) operator op) →
      (s.allowGlobalInboundFallback = true → ∃ answer, result = .ok answer ∧ FallsBack t d answer) ∧
      (s.allowGlobalInboundFallback = false → result = .error planInboundRouteMissingMessage)

/-- What the candidate sets give in their order. -/
theorem findSome?_candidateOperators {β : Type*} {has : Option ℕ → Prop}
    {f : Option ℕ → Option β} (hf : ∀ o, has o ↔ f o ≠ none) :
    (∀ op, Prevails has operator op → (candidateOperators operator).findSome? f = f op) ∧
      ((∀ op, ¬ Prevails has operator op) → (candidateOperators operator).findSome? f = none) := by
  cases operator with
  | none =>
      constructor
      · rintro op ⟨-, rfl | rfl, -⟩ <;> simp [candidateOperators]
      · intro hnever
        have hnone : f none = none := by
          by_contra hsome
          exact hnever none ⟨(hf none).mpr hsome, .inl rfl, by simp⟩
        simp [candidateOperators, hnone]
  | some o =>
      by_cases hown : has (some o)
      · obtain ⟨b, hb⟩ := Option.ne_none_iff_exists'.mp ((hf (some o)).mp hown)
        constructor
        · rintro op ⟨-, rfl | rfl, hfirst⟩
          · simp [candidateOperators, hb]
          · exact absurd hown (hfirst rfl o rfl)
        · intro hnever
          exact absurd ⟨hown, .inl rfl, by simp⟩ (hnever (some o))
      · have hnone : f (some o) = none := by
          by_contra hsome
          exact hown ((hf (some o)).mpr hsome)
        constructor
        · rintro op ⟨hhas, rfl | rfl, -⟩
          · exact absurd hhas hown
          · simp [candidateOperators, hnone]
        · intro hnever
          have hgeneral : f none = none := by
            by_contra hsome
            refine hnever none ⟨(hf none).mpr hsome, .inr rfl, ?_⟩
            rintro - _ ⟨⟩
            exact hown
          simp [candidateOperators, hnone, hgeneral]

theorem firstValid_eq_some (hs : d.store = some s)
    (h : firstValidRouteInbound t d (candidateRoutes t plan s op) = some i) :
    ∃ r, LeastRoute t d plan s op r i := by
  have hmem (r : PlanInboundRoute) (j : Inbound) := @mem_candidateRoutes t d s j plan op r hs
  simp only [candidateRoutes, List.mem_insertionSort] at hmem
  obtain ⟨r, hr, hi, hleast⟩ := findSome?_insertionSort h
  refine ⟨r, (hmem r i).mp ⟨hr, hi⟩, fun q j hq => ?_⟩
  obtain ⟨hq, hj⟩ := (hmem q j).mpr hq
  exact hleast q hq (by rw [hj]; rfl)

theorem hasRoute_iff (hs : d.store = some s) :
    HasRoute t d plan s op ↔ firstValidRouteInbound t d (candidateRoutes t plan s op) ≠ none := by
  rw [firstValidRouteInbound, Ne, List.findSome?_eq_none_iff]
  constructor
  · rintro ⟨r, i, hr⟩ hnone
    obtain ⟨hr, hi⟩ := (mem_candidateRoutes hs).mpr hr
    rw [hnone r hr] at hi
    cases hi
  · intro hsome
    push Not at hsome
    obtain ⟨r, hr, hvalid⟩ := hsome
    obtain ⟨i, hi⟩ := Option.ne_none_iff_exists'.mp hvalid
    exact ⟨r, i, (mem_candidateRoutes hs).mp ⟨hr, hi⟩⟩

theorem filter_routing (hs : d.store = some s) (hrouting : s.planInboundRoutingEnabled = true) :
    d.store.filter (·.planInboundRoutingEnabled) = some s := by
  rw [hs, Option.filter_some, if_pos hrouting]

theorem filter_unrouted (h : ∀ s, d.store = some s → s.planInboundRoutingEnabled = false) :
    d.store.filter (·.planInboundRoutingEnabled) = none := by
  cases hs : d.store with
  | none => rfl
  | some s => rw [Option.filter_some, h s hs]; rfl

theorem allowsFallback_of_store (hs : d.store = some s) :
    storeAllowsGlobalInboundFallback d.store = s.allowGlobalInboundFallback := by
  rw [storeAllowsGlobalInboundFallback, hs, Option.all_some]

theorem selectsInbound (t : SalesTables) (plan : SellingPlan) (store : Option SellingStore)
    (operator : Option ℕ) (quantity : ℤ) (allowModernDeferred : Bool) :
    SelectsInbound t (callDemand plan store quantity allowModernDeferred) plan.pk operator
      (selectInboundForPlan t plan store operator quantity allowModernDeferred) := by
  rw [selectInboundForPlan]
  generalize callDemand plan store quantity allowModernDeferred = d
  constructor
  · intro hrouting
    rw [filter_unrouted hrouting]
    exact ⟨_, rfl, fallsBack_getAvailableInbound t d⟩
  · intro s op hs hrouting hprevails
    rw [filter_routing hs hrouting]
    have hfound := (findSome?_candidateOperators fun o => @hasRoute_iff t d s plan.pk o hs).1 op
      hprevails
    obtain ⟨i, hi⟩ := Option.ne_none_iff_exists'.mp ((hasRoute_iff hs).mp hprevails.valid)
    obtain ⟨r, hr⟩ := firstValid_eq_some hs hi
    dsimp only
    rw [hfound, hi]
    exact ⟨r, i, hr, rfl⟩
  · intro s hs hrouting hnever
    rw [filter_routing hs hrouting]
    have hnone := (findSome?_candidateOperators fun o => @hasRoute_iff t d s plan.pk o hs).2 hnever
    dsimp only
    rw [hnone, allowsFallback_of_store hs]
    constructor
    · intro hfallback
      exact ⟨_, if_pos hfallback, fallsBack_getAvailableInbound t d⟩
    · intro hfallback
      simp [hfallback]

/-! ## Bundles -/

/-- A valid route of an inbound that comes before all others of this inbound. -/
structure OwnRoute (t : SalesTables) (d : Demand) (plan : ℕ) (s : SellingStore)
    (operator : Option ℕ) (r : PlanInboundRoute) (i : Inbound) : Prop where
  valid : ValidRoute t d plan s operator r i
  least : ∀ q, ValidRoute t d plan s operator q i → routeRank t s r ≤ routeRank t s q

/-- The inbounds of the valid routes of a set, each once, in the order of their routes. -/
structure Bundle (t : SalesTables) (d : Demand) (plan : ℕ) (s : SellingStore)
    (operator : Option ℕ) (inbounds : List Inbound) : Prop where
  nodup : inbounds.Nodup
  mem : ∀ i, i ∈ inbounds ↔ ∃ r, ValidRoute t d plan s operator r i
  ordered : ∃ routes : List PlanInboundRoute, List.Forall₂ (OwnRoute t d plan s operator) routes inbounds ∧
    routes.Pairwise fun r q => routeRank t s r ≤ routeRank t s q

/-- The inbounds stand on one panel, and this panel takes a client on several of them. -/
structure OnePanel (t : SalesTables) (inbounds : List Inbound) : Prop where
  same : ∀ i ∈ inbounds, ∀ j ∈ inbounds, i.panel = j.panel
  suitable : ∀ i ∈ inbounds, ∀ p, t.panels.get? i.panel = some p →
    p.family = .pasarguard ∨ p.capabilityProfile = .modernMultiNode

/-- What the selection of a bundle comes to. -/
structure SelectsBundle (t : SalesTables) (d : Demand) (plan : ℕ) (operator : Option ℕ)
    (result : Except String (List (Option Inbound))) : Prop where
  unrouted : (∀ s, d.store = some s → s.planInboundRoutingEnabled = false) →
    ∃ answer, result = .ok (answer.map some).toList ∧ FallsBack t d answer
  routed : ∀ s op, d.store = some s → s.planInboundRoutingEnabled = true →
    Prevails (HasRoute t d plan s) operator op →
      ∃ inbounds, Bundle t d plan s op inbounds ∧
        (OnePanel t inbounds → result = .ok (inbounds.map some)) ∧
        (¬ OnePanel t inbounds → ∃ e, result = .error e)
  fallback : ∀ s, d.store = some s → s.planInboundRoutingEnabled = true →
    (∀ op, ¬ Prevails (HasRoute t d plan s) operator op) →
      (s.allowGlobalInboundFallback = true →
        ∃ answer, result = .ok (answer.map some).toList ∧ FallsBack t d answer) ∧
      (s.allowGlobalInboundFallback = false → result = .error planInboundRouteMissingMessage)

/-- The first route of an inbound that was not seen. -/
structure Collects (t : SalesTables) (d : Demand) (s : SellingStore)
    (routes : List PlanInboundRoute) (seen : List ℕ) (r : PlanInboundRoute) (i : Inbound) :
    Prop where
  row : r ∈ routes
  valid : validInbound t d r = some i
  fresh : i.pk ∉ seen
  least : ∀ q ∈ routes, validInbound t d q = some i → routeRank t s r ≤ routeRank t s q

/-- What the loop over sorted routes collects, with the keys that were seen before. -/
structure Collected (t : SalesTables) (d : Demand) (s : SellingStore)
    (routes : List PlanInboundRoute) (seen : List ℕ) (inbounds : List Inbound) : Prop where
  nodup : inbounds.Nodup
  mem : ∀ i, i ∈ inbounds ↔ i.pk ∉ seen ∧ ∃ r ∈ routes, validInbound t d r = some i
  ordered : ∃ rs : List PlanInboundRoute, rs.Sublist routes ∧
    List.Forall₂ (Collects t d s routes seen) rs inbounds

theorem eq_of_pk {q : PlanInboundRoute} {j : Inbound} (hi : validInbound t d r = some i)
    (hj : validInbound t d q = some j) (hpk : i.pk = j.pk) : i = j := by
  have hi := Table.mem_of_get? (validInbound_eq_some.mp hi).1
  have hj := Table.mem_of_get? (validInbound_eq_some.mp hj).1
  exact List.inj_on_of_nodup_map t.inbounds.keys_nodup hi.1 hj.1 hpk

/-- A route whose inbound was seen, or is not sold, adds nothing. -/
theorem Collected.skip {routes : List PlanInboundRoute} {seen : List ℕ} {inbounds : List Inbound}
    (hc : Collected t d s routes seen inbounds)
    (hr : ∀ i, validInbound t d r = some i → i.pk ∈ seen) :
    Collected t d s (r :: routes) seen inbounds := by
  obtain ⟨rs, hsub, hrs⟩ := hc.ordered
  refine ⟨hc.nodup, fun i => ?_, rs, hsub.cons r, hrs.imp fun q i hq => ?_⟩
  · rw [hc.mem]
    constructor
    · rintro ⟨hseen, q, hq, hi⟩
      exact ⟨hseen, q, List.mem_cons_of_mem r hq, hi⟩
    · rintro ⟨hseen, q, hq, hi⟩
      rcases List.mem_cons.mp hq with rfl | hq
      · exact absurd (hr i hi) hseen
      · exact ⟨hseen, q, hq, hi⟩
  · refine ⟨List.mem_cons_of_mem r hq.row, hq.valid, hq.fresh, fun q' hq' hi => ?_⟩
    rcases List.mem_cons.mp hq' with rfl | hq'
    · exact absurd (hr i hi) hq.fresh
    · exact hq.least q' hq' hi

/-- A route before all others with an inbound that was not seen puts it in front. -/
theorem Collected.take {routes : List PlanInboundRoute} {seen : List ℕ} {inbounds : List Inbound}
    (hc : Collected t d s routes (i.pk :: seen) inbounds)
    (hleast : ∀ q ∈ routes, routeRank t s r ≤ routeRank t s q)
    (hr : validInbound t d r = some i) (hfresh : i.pk ∉ seen) :
    Collected t d s (r :: routes) seen (i :: inbounds) := by
  obtain ⟨rs, hsub, hrs⟩ := hc.ordered
  have hother : i ∉ inbounds := fun hi => ((hc.mem i).mp hi).1 List.mem_cons_self
  refine ⟨List.nodup_cons.mpr ⟨hother, hc.nodup⟩, fun j => ?_, r :: rs, hsub.cons_cons r, ?_⟩
  · rw [List.mem_cons, hc.mem, List.mem_cons, not_or]
    constructor
    · rintro (rfl | ⟨⟨-, hseen⟩, q, hq, hj⟩)
      · exact ⟨hfresh, r, List.mem_cons_self, hr⟩
      · exact ⟨hseen, q, List.mem_cons_of_mem r hq, hj⟩
    · rintro ⟨hseen, q, hq, hj⟩
      by_cases hpk : j.pk = i.pk
      · exact .inl (eq_of_pk hj hr hpk)
      · rcases List.mem_cons.mp hq with rfl | hq
        · rw [hr] at hj
          exact absurd (congrArg Inbound.pk (Option.some.inj hj).symm) hpk
        · exact .inr ⟨⟨hpk, hseen⟩, q, hq, hj⟩
  · refine .cons ⟨List.mem_cons_self, hr, hfresh, fun q hq _ => ?_⟩ (hrs.imp fun q j hq => ?_)
    · rcases List.mem_cons.mp hq with rfl | hq
      · exact le_refl _
      · exact hleast q hq
    · have hpk : j.pk ≠ i.pk := fun heq => hq.fresh (heq ▸ List.mem_cons_self)
      refine ⟨List.mem_cons_of_mem r hq.row, hq.valid,
        fun hmem => hq.fresh (List.mem_cons_of_mem _ hmem), fun q' hq' hj => ?_⟩
      rcases List.mem_cons.mp hq' with rfl | hq'
      · rw [hr] at hj
        exact absurd (congrArg Inbound.pk (Option.some.inj hj).symm) hpk
      · exact hq.least q' hq' hj

theorem collected_go {routes : List PlanInboundRoute} (seen : List ℕ)
    (hsorted : routes.Pairwise fun r q => routeRank t s r ≤ routeRank t s q) :
    Collected t d s routes seen (validRouteInboundsGo t d seen routes) := by
  induction routes generalizing seen with
  | nil => exact ⟨List.nodup_nil, by simp [validRouteInboundsGo], [], List.Sublist.refl _, .nil⟩
  | cons r routes ih =>
      obtain ⟨hleast, hrest⟩ := List.pairwise_cons.mp hsorted
      rw [validRouteInboundsGo]
      cases hr : validInbound t d r with
      | none =>
          refine (ih seen hrest).skip fun i hi => ?_
          rw [hr] at hi
          cases hi
      | some i =>
          dsimp only
          by_cases hseen : i.pk ∈ seen
          · rw [if_pos hseen]
            refine (ih seen hrest).skip fun j hj => ?_
            rw [hr] at hj
            exact Option.some.inj hj ▸ hseen
          · rw [if_neg hseen]
            exact (ih (i.pk :: seen) hrest).take hleast hr hseen

theorem bundle_validRouteInbounds (hs : d.store = some s) :
    Bundle t d plan s op (validRouteInbounds t d (candidateRoutes t plan s op)) := by
  have hmem (r : PlanInboundRoute) (i : Inbound) := @mem_candidateRoutes t d s i plan op r hs
  have hsorted : (candidateRoutes t plan s op).Pairwise fun r q =>
      routeRank t s r ≤ routeRank t s q := pairwise_insertionSort_le (routeRank t s) _
  have hc : Collected t d s (candidateRoutes t plan s op) []
      (validRouteInbounds t d (candidateRoutes t plan s op)) := collected_go [] hsorted
  obtain ⟨rs, hsub, hrs⟩ := hc.ordered
  refine ⟨hc.nodup, fun i => ?_, rs, ?_, hsorted.sublist hsub⟩
  · rw [hc.mem]
    constructor
    · rintro ⟨-, r, hr, hi⟩
      exact ⟨r, (hmem r i).mp ⟨hr, hi⟩⟩
    · rintro ⟨r, hr⟩
      exact ⟨List.not_mem_nil, r, (hmem r i).mpr hr⟩
  · refine hrs.imp fun r i hr => ⟨(hmem r i).mp ⟨hr.row, hr.valid⟩, fun q hq => ?_⟩
    obtain ⟨hrow, hi⟩ := (hmem q i).mpr hq
    exact hr.least q hrow hi

theorem bundle_ne_nil (hs : d.store = some s) :
    HasRoute t d plan s op ↔ validRouteInbounds t d (candidateRoutes t plan s op) ≠ [] := by
  have hbundle := @bundle_validRouteInbounds t d s plan op hs
  constructor
  · rintro ⟨r, i, hr⟩ hnil
    have hi := (hbundle.mem i).mpr ⟨r, hr⟩
    rw [hnil] at hi
    cases hi
  · intro hne
    obtain ⟨i, hi⟩ := List.exists_mem_of_ne_nil _ hne
    obtain ⟨r, hr⟩ := (hbundle.mem i).mp hi
    exact ⟨r, i, hr⟩

/-- Some keys are all the same. -/
theorem dedup_length_le_one {ks : List ℕ} :
    ¬ 1 < ks.dedup.length ↔ ∀ a ∈ ks, ∀ b ∈ ks, a = b := by
  constructor
  · intro hlength a ha b hb
    rw [← List.mem_dedup] at ha hb
    cases hks : ks.dedup with
    | nil =>
        rw [hks] at ha
        cases ha
    | cons k rest =>
        have hrest : rest = [] := by
          rw [hks, List.length_cons] at hlength
          exact List.eq_nil_of_length_eq_zero (by omega)
        rw [hks, hrest, List.mem_singleton] at ha hb
        rw [ha, hb]
  · intro hsame hlength
    have hnodup := List.nodup_dedup ks
    cases hks : ks.dedup with
    | nil => simp [hks] at hlength
    | cons a rest =>
        cases rest with
        | nil => simp [hks] at hlength
        | cons b rest =>
            have ha : a ∈ ks := List.mem_dedup.mp (by simp [hks])
            have hb : b ∈ ks := List.mem_dedup.mp (by simp [hks])
            rw [hks, hsame a ha b hb] at hnodup
            simp at hnodup

theorem checkBundle_spec {inbounds : List Inbound} (hne : inbounds ≠ []) :
    (OnePanel t inbounds → checkBundle t inbounds = .ok (inbounds.map some)) ∧
      (¬ OnePanel t inbounds → ∃ e, checkBundle t inbounds = .error e) := by
  obtain ⟨i, rest, rfl⟩ := List.exists_cons_of_ne_nil hne
  have hpanels : ¬ 1 < (((i :: rest).map (·.panel)).dedup).length ↔
      ∀ a ∈ i :: rest, ∀ b ∈ i :: rest, a.panel = b.panel := by
    rw [dedup_length_le_one]
    simp only [List.forall_mem_map]
  have hhead : (((i :: rest).head?.bind fun i => t.panels.get? i.panel).any fun p =>
      p.family ≠ .pasarguard && p.capabilityProfile ≠ .modernMultiNode) = true ↔
      ∃ p, t.panels.get? i.panel = some p ∧ p.family ≠ .pasarguard ∧
        p.capabilityProfile ≠ .modernMultiNode := by
    simp [Option.any_eq_true]
  rw [checkBundle]
  constructor
  · intro hone
    rw [if_neg (hpanels.mpr hone.same), if_neg]
    rw [hhead]
    rintro ⟨p, hp, hfamily, hprofile⟩
    rcases hone.suitable i List.mem_cons_self p hp with h | h
    · exact hfamily h
    · exact hprofile h
  · intro hmixed
    by_cases hsame : 1 < (((i :: rest).map (·.panel)).dedup).length
    · exact ⟨_, if_pos hsame⟩
    · rw [if_neg hsame]
      refine ⟨_, if_pos ?_⟩
      rw [hhead]
      by_contra hsuitable
      push Not at hsuitable
      refine hmixed ⟨hpanels.mp hsame, fun j hj p hp => ?_⟩
      rw [hpanels.mp hsame j hj i List.mem_cons_self] at hp
      by_cases hfamily : p.family = .pasarguard
      · exact .inl hfamily
      · exact .inr (hsuitable p hp hfamily)

theorem selectsBundle (t : SalesTables) {plan : SellingPlan} (store : Option SellingStore)
    (operator : Option ℕ) (quantity : ℤ) (allowModernDeferred : Bool)
    (hbundle : plan.multiInboundBundle = true) :
    SelectsBundle t (callDemand plan store quantity true) plan.pk operator
      (selectInboundsForPlan t plan store operator quantity allowModernDeferred) := by
  rw [selectInboundsForPlan, if_neg (by simp [hbundle])]
  generalize callDemand plan store quantity true = d
  have hfind (s : SellingStore) : ((candidateOperators operator).map fun op =>
      validRouteInbounds t d (candidateRoutes t plan.pk s op)).find? (· ≠ []) =
      (candidateOperators operator).findSome? fun op =>
        Option.guard (· ≠ []) (validRouteInbounds t d (candidateRoutes t plan.pk s op)) := by
    rw [List.find?_eq_findSome?_guard, List.findSome?_map]
    rfl
  have hhas (s : SellingStore) (hs : d.store = some s) (o : Option ℕ) : HasRoute t d plan.pk s o ↔
      Option.guard (· ≠ []) (validRouteInbounds t d (candidateRoutes t plan.pk s o)) ≠ none := by
    rw [bundle_ne_nil hs]
    simp
  constructor
  · intro hrouting
    dsimp only
    rw [filter_unrouted hrouting]
    exact ⟨_, rfl, fallsBack_getAvailableInbound t d⟩
  · intro s op hs hrouting hprevails
    dsimp only
    rw [filter_routing hs hrouting]
    have hfound := (findSome?_candidateOperators (hhas s hs)).1 op hprevails
    have hne := (bundle_ne_nil hs).mp hprevails.valid
    dsimp only
    rw [hfind, hfound, Option.guard_eq_ite, if_pos (by simpa using hne)]
    exact ⟨_, bundle_validRouteInbounds hs, checkBundle_spec hne⟩
  · intro s hs hrouting hnever
    dsimp only
    rw [filter_routing hs hrouting]
    have hnone := (findSome?_candidateOperators (hhas s hs)).2 hnever
    dsimp only
    rw [hfind, hnone, allowsFallback_of_store hs]
    constructor
    · intro hfallback
      exact ⟨_, if_pos hfallback, fallsBack_getAvailableInbound t d⟩
    · intro hfallback
      simp [hfallback]

/-! ## Nothing that is not sold -/

theorem FallsBack.accepted {answer : Option Inbound} (h : FallsBack t d answer)
    (hi : answer = some i) : i ∈ t.inbounds.rows ∧ d.Accepts t i :=
  ⟨(h.least i hi).2.1, (h.least i hi).2.2.1⟩

theorem ValidRoute.accepts (h : ValidRoute t d plan s operator r i) :
    i ∈ t.inbounds.rows ∧ d.Accepts t i :=
  ⟨(Table.mem_of_get? h.inbound).1, h.accepted⟩

/-- A set prevails, or none does. -/
theorem routed_cases (d : Demand) :
    (∀ s, d.store = some s → s.planInboundRoutingEnabled = false) ∨
      ∃ s, d.store = some s ∧ s.planInboundRoutingEnabled = true := by
  cases hd : d.store with
  | none => exact .inl (by simp)
  | some s =>
      cases hs : s.planInboundRoutingEnabled with
      | false => exact .inl (by simp [hs])
      | true => exact .inr ⟨s, rfl, hs⟩

theorem SelectsInbound.accepted {result : Except String (Option Inbound)}
    (h : SelectsInbound t d plan operator result) (hi : result = .ok (some i)) :
    i ∈ t.inbounds.rows ∧ d.Accepts t i := by
  have hanswer (hback : ∃ answer, result = .ok answer ∧ FallsBack t d answer) :
      i ∈ t.inbounds.rows ∧ d.Accepts t i := by
    obtain ⟨answer, heq, hback⟩ := hback
    rw [hi] at heq
    exact hback.accepted (Except.ok.inj heq).symm
  rcases routed_cases d with hrouting | ⟨s, hs, hrouting⟩
  · exact hanswer (h.unrouted hrouting)
  by_cases hprevails : ∃ op, Prevails (HasRoute t d plan s) operator op
  · obtain ⟨op, hprevails⟩ := hprevails
    obtain ⟨r, j, hr, heq⟩ := h.routed s op hs hrouting hprevails
    rw [hi] at heq
    obtain rfl : i = j := Option.some.inj (Except.ok.inj heq)
    exact hr.valid.accepts
  · obtain ⟨hfallback, hclosed⟩ := h.fallback s hs hrouting (not_exists.mp hprevails)
    cases hs : s.allowGlobalInboundFallback with
    | true => exact hanswer (hfallback hs)
    | false =>
        rw [hclosed hs] at hi
        cases hi

theorem SelectsBundle.accepted {result : Except String (List (Option Inbound))}
    {inbounds : List (Option Inbound)} (h : SelectsBundle t d plan operator result)
    (hi : result = .ok inbounds) (hmem : some i ∈ inbounds) :
    i ∈ t.inbounds.rows ∧ d.Accepts t i := by
  have hanswer (hback : ∃ answer, result = .ok (answer.map some).toList ∧ FallsBack t d answer) :
      i ∈ t.inbounds.rows ∧ d.Accepts t i := by
    obtain ⟨answer, heq, hback⟩ := hback
    rw [hi] at heq
    rw [Except.ok.inj heq] at hmem
    exact hback.accepted (by simpa using hmem)
  rcases routed_cases d with hrouting | ⟨s, hs, hrouting⟩
  · exact hanswer (h.unrouted hrouting)
  by_cases hprevails : ∃ op, Prevails (HasRoute t d plan s) operator op
  · obtain ⟨op, hprevails⟩ := hprevails
    obtain ⟨is, hbundle, hone, hmixed⟩ := h.routed s op hs hrouting hprevails
    by_cases hpanel : OnePanel t is
    · rw [hi] at hone
      rw [Except.ok.inj (hone hpanel)] at hmem
      obtain ⟨j, hj, heq⟩ := List.mem_map.mp hmem
      obtain rfl : j = i := Option.some.inj heq
      obtain ⟨r, hr⟩ := (hbundle.mem j).mp hj
      exact hr.accepts
    · obtain ⟨e, he⟩ := hmixed hpanel
      rw [hi] at he
      cases he
  · obtain ⟨hfallback, hclosed⟩ := h.fallback s hs hrouting (not_exists.mp hprevails)
    cases hs : s.allowGlobalInboundFallback with
    | true => exact hanswer (hfallback hs)
    | false =>
        rw [hclosed hs] at hi
        cases hi

/-! ## The selections -/

/-- What the selections come to: of one inbound, of the inbounds of a plan, and that nothing is
returned that is not sold. -/
structure SelectsBest (t : SalesTables) (plan : SellingPlan) (store : Option SellingStore)
    (operator : Option ℕ) (quantity : ℤ) (allowModernDeferred : Bool) : Prop where
  single : SelectsInbound t (callDemand plan store quantity allowModernDeferred) plan.pk operator
    (selectInboundForPlan t plan store operator quantity allowModernDeferred)
  one : plan.multiInboundBundle = false →
    selectInboundsForPlan t plan store operator quantity allowModernDeferred =
      (selectInboundForPlan t plan store operator quantity allowModernDeferred).map fun i => [i]
  bundle : plan.multiInboundBundle = true →
    SelectsBundle t (callDemand plan store quantity true) plan.pk operator
      (selectInboundsForPlan t plan store operator quantity allowModernDeferred)
  sold : ∀ i, selectInboundForPlan t plan store operator quantity allowModernDeferred =
      .ok (some i) →
    i ∈ t.inbounds.rows ∧ (callDemand plan store quantity allowModernDeferred).Accepts t i
  bundleSold : ∀ inbounds i, plan.multiInboundBundle = true →
    selectInboundsForPlan t plan store operator quantity allowModernDeferred = .ok inbounds →
      some i ∈ inbounds → i ∈ t.inbounds.rows ∧ (callDemand plan store quantity true).Accepts t i

/-- The selections are those of the least valid route of the set that prevails; a store without
routing, and one without a valid route, has the fallback. -/
theorem selections_best (t : SalesTables) (plan : SellingPlan) (store : Option SellingStore)
    (operator : Option ℕ) (quantity : ℤ) (allowModernDeferred : Bool) :
    SelectsBest t plan store operator quantity allowModernDeferred where
  single := selectsInbound t plan store operator quantity allowModernDeferred
  one hsingle := by rw [selectInboundsForPlan, if_pos (by simp [hsingle])]
  bundle hbundle := selectsBundle t store operator quantity allowModernDeferred hbundle
  sold _ hi := (selectsInbound t plan store operator quantity allowModernDeferred).accepted hi
  bundleSold _ _ hbundle hi hmem :=
    (selectsBundle t store operator quantity allowModernDeferred hbundle).accepted hi hmem

/-- A plan whose only route leads to the second inbound. -/
def unroutedTables : SalesTables where
  routes := Table.empty.put { pk := 1, store := none, plan := 1, operator := none, inbound := 2 }
  inbounds := (Table.empty.put { pk := 1, panel := 1, inboundId := 1 }).put
    { pk := 2, panel := 1, inboundId := 2, currentUsers := 5 }
  panels := Table.empty.put { pk := 1 }

def unroutedStore : SellingStore := { pk := 1, planInboundRoutingEnabled := false }

/-- In a store without routing the valid route of a plan is passed over: the least loaded inbound
is returned. -/
theorem route_passed_over :
    HasRoute unroutedTables (callDemand { pk := 1 } (some unroutedStore) 1 false) 1 unroutedStore
        none ∧
      ¬ ∃ r i, LeastRoute unroutedTables (callDemand { pk := 1 } (some unroutedStore) 1 false) 1
          unroutedStore none r i ∧
        selectInboundForPlan unroutedTables { pk := 1 } (some unroutedStore) none 1 false =
          .ok (some i) := by
  constructor
  · refine ⟨{ pk := 1, store := none, plan := 1, operator := none, inbound := 2 },
      { pk := 2, panel := 1, inboundId := 2, currentUsers := 5 }, ⟨?_, ?_, ?_, ?_⟩⟩
    · simp [unroutedTables, Table.put, Table.empty]
    · exact ⟨rfl, rfl, .inr rfl, rfl⟩
    · decide
    · decide
  · rintro ⟨r, i, hr, hi⟩
    have hinbound : r.inbound = 2 := by
      have hrow := hr.valid.row
      simp only [unroutedTables, Table.put, Table.empty] at hrow
      simp at hrow
      rw [hrow]
    have hget := hr.valid.inbound
    rw [hinbound] at hget
    have hpk : i.pk = 2 := (Table.mem_of_get? hget).2
    have hchosen : selectInboundForPlan unroutedTables { pk := 1 } (some unroutedStore) none 1 false =
        .ok (some { pk := 1, panel := 1, inboundId := 1 }) := by decide
    rw [hchosen] at hi
    rw [← Option.some.inj (Except.ok.inj hi)] at hpk
    cases hpk

end Qasedak.PlanRoutes
