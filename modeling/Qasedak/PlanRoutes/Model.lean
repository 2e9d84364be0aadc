import Qasedak.Foundation.Serial
import Qasedak.Store.Naming
import Mathlib.Data.List.Sort

/-! The routes of plans to inbounds, and what the model of a route accepts. -/

namespace Qasedak.PlanRoutes

open Foundation Store

/-! ## Rows -/

structure RouteOperator where
  pk : ℕ
  store : Option ℕ := none
  isActive : Bool := true
  deriving DecidableEq, Repr

structure RoutePlan where
  pk : ℕ
  name : String := ""
  /-- `str(plan)`. -/
  label : String := ""
  store : Option ℕ := none
  isActive : Bool := true
  sortOrder : ℕ := 0
  price : ℕ := 0
  operators : List ℕ := []
  deriving DecidableEq, Repr

/-- `Inbound.VerificationStatus`. -/
inductive VerificationStatus where
  | unverified
  | verifiedSellable
  | verificationFailed
  deriving DecidableEq, Repr

structure RouteInbound extends Inbound where
  /-- `requires_sellability_verification`. -/
  requiresVerification : Bool := false
  verificationStatus : VerificationStatus := .unverified
  lastVerificationErrorCode : String := ""
  /-- `source_sellability_is_stale`. -/
  isStale : Bool := false
  deriving DecidableEq, Repr

/-- The rows that routes refer to, found by their keys, and the largest number of a column. -/
structure Catalog where
  planKeys : List ℕ
  planKeys_nodup : planKeys.Nodup
  plans : ℕ → RoutePlan
  operators : ℕ → RouteOperator
  panels : ℕ → Panel
  inbounds : ℕ → RouteInbound
  fieldMax : ℤ

structure RouteFields where
  store : Option ℕ
  plan : ℕ
  operator : Option ℕ
  inbound : ℕ
  isActive : Bool := true
  priority : ℤ := 100
  weight : ℤ := 1
  note : String := ""
  deriving DecidableEq, Repr

structure PlanInboundRoute extends RouteFields where
  pk : ℕ
  deriving DecidableEq, Repr

/-- The constraints `unique_plan_operator_inbound_route` and `unique_plan_default_inbound_route`. -/
def SameTarget (a b : RouteFields) : Prop :=
  a.plan = b.plan ∧ a.operator = b.operator ∧ a.inbound = b.inbound

instance (a b : RouteFields) : Decidable (SameTarget a b) :=
  inferInstanceAs (Decidable (_ ∧ _ ∧ _))

structure RouteDb where
  routes : Serial PlanInboundRoute.pk := .empty
  unique : ∀ r ∈ routes.rows, ∀ q ∈ routes.rows, SameTarget r.toRouteFields q.toRouteFields → r = q
  /-- `multi_inbound_bundle` of a plan. -/
  bundles : ℕ → Bool := fun _ => false

/-! ## Validation -/

/-- The errors of a model, each with its field. -/
abbrev FieldErrors := List (String × String)

/-- `errors[field] = message`. -/
def setError (errors : FieldErrors) (field message : String) : FieldErrors :=
  if errors.any (·.1 = field) then
    errors.map fun e => if e.1 = field then (field, message) else e
  else errors ++ [(field, message)]

@[simp] theorem setError_ne_nil (errors : FieldErrors) (field message : String) :
    setError errors field message ≠ [] := by
  simp only [setError]
  split
  · rename_i h
    intro hnil
    rw [List.map_eq_nil_iff] at hnil
    rw [hnil] at h
    cases h
  · simp

section Clean

variable (cat : Catalog) (r : RouteFields)

/-- `clean_fields`. -/
def fieldErrors : FieldErrors :=
  (if r.priority < 0 then
      [("priority", "Ensure this value is greater than or equal to 0.")]
    else if cat.fieldMax < r.priority then
      [("priority", "Ensure this value is less than or equal to " ++ toString cat.fieldMax ++ ".")]
    else []) ++
    if r.weight < 1 then [("weight", "Ensure this value is greater than or equal to 1.")]
    else if cat.fieldMax < r.weight then
      [("weight", "Ensure this value is less than or equal to " ++ toString cat.fieldMax ++ ".")]
    else []

/-- Two rows belong to different stores. -/
def Mismatch (a b : Option ℕ) : Prop := ∃ s ∈ a, ∃ s' ∈ b, s' ≠ s

instance (a b : Option ℕ) : Decidable (Mismatch a b) :=
  inferInstanceAs (Decidable (∃ s ∈ a, ∃ s' ∈ b, s' ≠ s))

/-- The part of `clean` that every route has to pass. -/
def storeErrors : FieldErrors :=
  let planStore := (cat.plans r.plan).store
  let panelStore := (cat.panels (cat.inbounds r.inbound).panel).store
  let operatorStore := r.operator.bind fun o => (cat.operators o).store
  let errors : FieldErrors := []
  let errors := if Mismatch r.store planStore then
    setError errors "store" "فروشگاه route باید با فروشگاه پلن یکی باشد." else errors
  let errors := if Mismatch r.store operatorStore then
    setError errors "operator" "اپراتور انتخاب‌شده به فروشگاه route تعلق ندارد." else errors
  let errors := if Mismatch r.store panelStore then
    setError errors "inbound" "Inbound انتخاب‌شده به فروشگاه route تعلق ندارد." else errors
  if Mismatch planStore panelStore then
    setError errors "inbound" "Inbound انتخاب‌شده به فروشگاه پلن تعلق ندارد." else errors

/-- What is wrong with the inbound of an active route. -/
def activeInboundError : Option String :=
  let inbound := cat.inbounds r.inbound
  if ¬ inbound.isActive then some "Inbound route فعال باید فعال باشد."
  else if ¬ inbound.availableForNewOrders then
    some "Inbound legacy یا خارج از فروش جدید نمی‌تواند route فعال داشته باشد."
  else if inbound.requiresVerification ∧ inbound.verificationStatus ≠ .verifiedSellable then
    some "Remote source must be verified for sale before it can be used in an active route."
  else if ¬ (cat.panels inbound.panel).isActive then
    some "Inbound route فعال نمی‌تواند به پنل غیرفعال وصل باشد."
  else none

def activeOperatorError : Option String :=
  match r.operator with
  | none => none
  | some operator =>
      if ¬ (cat.operators operator).isActive then some "اپراتور route فعال باید فعال باشد."
      else if operator ∉ (cat.plans r.plan).operators then
        some "این اپراتور جزو اپراتورهای مجاز پلن نیست."
      else none

/-- `PlanInboundRoute.clean`. -/
def cleanErrors : FieldErrors :=
  let errors := storeErrors cat r
  if ¬ r.isActive then errors
  else
    let errors := match activeInboundError cat r with
      | none => errors
      | some message => setError errors "inbound" message
    match activeOperatorError cat r with
    | none => errors
    | some message => setError errors "operator" message

/-- Another route has the same target. -/
def Taken (rows : List PlanInboundRoute) (self : Option ℕ) : Prop :=
  ∃ q ∈ rows, some q.pk ≠ self ∧ SameTarget q.toRouteFields r

instance (rows : List PlanInboundRoute) (self : Option ℕ) : Decidable (Taken r rows self) :=
  inferInstanceAs (Decidable (∃ q ∈ rows, _))

def constraintName : String :=
  if r.operator = none then "unique_plan_default_inbound_route"
  else "unique_plan_operator_inbound_route"

/-- `full_clean` of a route that has the key `self`, or none yet. The constraints are not looked
at where their fields have errors. -/
def fullClean (rows : List PlanInboundRoute) (self : Option ℕ) : FieldErrors :=
  let errors := fieldErrors cat r ++ cleanErrors cat r
  if errors.all (fun e => e.1 ≠ "inbound" ∧ e.1 ≠ "operator") ∧ Taken r rows self then
    errors ++ [("__all__", "Constraint “" ++ constraintName r ++ "” is violated.")]
  else errors

/-- A route passes its validation where none of its fields is wrong and its target is free. -/
theorem fullClean_eq_nil_iff {rows : List PlanInboundRoute} {self : Option ℕ} :
    fullClean cat r rows self = [] ↔
      fieldErrors cat r = [] ∧ cleanErrors cat r = [] ∧ ¬ Taken r rows self := by
  simp only [fullClean]
  constructor
  · intro h
    split at h
    · simp at h
    · rename_i hno
      obtain ⟨hfield, hclean⟩ := List.append_eq_nil_iff.mp h
      refine ⟨hfield, hclean, fun htaken => hno ⟨?_, htaken⟩⟩
      simp [hfield, hclean]
  · rintro ⟨hfield, hclean, hfree⟩
    rw [if_neg fun h => hfree h.2, hfield, hclean]
    rfl

end Clean

/-! ## Writes -/

namespace RouteDb

variable (db : RouteDb)

def setBundle (plan : ℕ) (bundle : Bool) : RouteDb :=
  { db with bundles := Function.update db.bundles plan bundle }

/-- `save` of a new route. -/
def insert (r : RouteFields) : Except FieldErrors RouteDb :=
  if h : Taken r db.routes.rows none then .error [("__all__", "UNIQUE constraint failed")]
  else
    .ok
      { db with
        routes := db.routes.append (fun pk => { r with pk := pk }) fun _ => rfl
        unique := by
          have hfree (q : PlanInboundRoute) (hq : q ∈ db.routes.rows) :
              ¬ SameTarget q.toRouteFields r := fun hsame => h ⟨q, hq, by simp, hsame⟩
          intro x hx y hy hsame
          rcases List.mem_append.mp hx with hx | hx
          · rcases List.mem_append.mp hy with hy | hy
            · exact db.unique x hx y hy hsame
            · rw [List.mem_singleton.mp hy] at hsame
              exact absurd hsame (hfree x hx)
          · rcases List.mem_append.mp hy with hy | hy
            · rw [List.mem_singleton.mp hx] at hsame
              exact absurd ⟨hsame.1.symm, hsame.2.1.symm, hsame.2.2.symm⟩ (hfree y hy)
            · rw [List.mem_singleton.mp hx, List.mem_singleton.mp hy] }

/-- `save` of the route with the key `pk`. -/
def update (pk : ℕ) (r : RouteFields) : Except FieldErrors RouteDb :=
  if h : Taken r db.routes.rows (some pk) then .error [("__all__", "UNIQUE constraint failed")]
  else
    .ok
      { db with
        routes := db.routes.modify (·.pk = pk) (fun x => { r with pk := x.pk }) fun _ => rfl
        unique := by
          have hfree (q : PlanInboundRoute) (hq : q ∈ db.routes.rows) (hpk : q.pk ≠ pk) :
              ¬ SameTarget q.toRouteFields r := fun hsame => h ⟨q, hq, by simpa using hpk, hsame⟩
          intro x hx y hy hsame
          rw [Serial.rows_modify] at hx hy
          obtain ⟨a, ha, rfl⟩ := List.mem_map.mp hx
          obtain ⟨b, hb, rfl⟩ := List.mem_map.mp hy
          by_cases hapk : a.pk = pk
          · by_cases hbpk : b.pk = pk
            · rw [Serial.eq_of_key_eq ha hb (hapk.trans hbpk.symm)]
            · simp only [hapk, hbpk, decide_true, decide_false, if_true, Bool.false_eq_true,
                if_false] at hsame
              exact absurd ⟨hsame.1.symm, hsame.2.1.symm, hsame.2.2.symm⟩ (hfree b hb hbpk)
          · by_cases hbpk : b.pk = pk
            · simp only [hapk, hbpk, decide_true, decide_false, if_true, Bool.false_eq_true,
                if_false] at hsame
              exact absurd hsame (hfree a ha hapk)
            · simp only [hapk, hbpk, decide_false, Bool.false_eq_true, if_false] at hsame ⊢
              exact db.unique a ha b hb hsame }

end RouteDb

end Qasedak.PlanRoutes
