import Qasedak.PlanRoutes.Preview
import Qasedak.PlanRoutes.Application

/-! When the application does what the preview said. -/

namespace Qasedak.PlanRoutes

open Foundation Store

variable {cat : Catalog} {req : RouteRequest} {db : RouteDb} {plan : ℕ}

/-! ## Plans beside each other -/

theorem filter_of_filter {ρ : Type*} {l l' : List ρ} {p q : ρ → Bool} (hpq : ∀ x, q x → p x)
    (h : l'.filter p = l.filter p) : l'.filter q = l.filter q := by
  have hboth (l : List ρ) : (l.filter p).filter q = l.filter q := by
    rw [List.filter_filter]
    apply List.filter_congr
    intro x _
    by_cases hx : q x = true
    · simp [hx, hpq x hx]
    · simp [hx]
  rw [← hboth l', h, hboth]

section Rows

variable {rows rows' : List PlanInboundRoute}
  (h : rows'.filter (·.plan = plan) = rows.filter (·.plan = plan))
include h

theorem planChange_congr : planChange cat req plan rows' = planChange cat req plan rows := by
  have hactive : activeRoutes cat req rows' plan = activeRoutes cat req rows plan := by
    rw [activeRoutes, activeRoutes, filter_of_filter _ h]
    intro x hx
    exact decide_eq_true (of_decide_eq_true hx).1
  have htarget (inbound : ℕ) : rows'.filter (OnTarget req plan inbound ·.toRouteFields) =
      rows.filter (OnTarget req plan inbound ·.toRouteFields) := by
    apply filter_of_filter _ h
    intro x hx
    exact decide_eq_true (of_decide_eq_true hx).1
  have hwrite (priority weight : ℤ) (inbound : ℕ) :
      targetWrite req rows' plan priority weight inbound =
        targetWrite req rows plan priority weight inbound := targetWrite_congr (htarget inbound)
  have hsame (inbound : ℕ) : sameInboundRoute req rows' plan inbound =
      sameInboundRoute req rows plan inbound := sameInboundRoute_congr (htarget inbound)
  simp only [planChange, bundleChange, singleChange, hactive, hwrite, hsame]

theorem change_valid_congr {ch : Change} (hplan : ∀ w ∈ ch.writes, w.fields.plan = plan) :
    ch.Valid cat rows' ↔ ch.Valid cat rows := by
  have hvalid : ∀ w ∈ ch.writes, (w.Valid cat rows' ↔ w.Valid cat rows) := by
    intro w hw
    have hclean : fullClean cat w.fields rows' w.self = fullClean cat w.fields rows w.self := by
      apply fullClean_congr
      apply filter_of_filter _ h
      intro x hx
      exact decide_eq_true ((of_decide_eq_true hx).1.trans (hplan w hw))
    simp only [RouteWrite.Valid, hclean]
  exact forall₂_congr hvalid

end Rows

theorem singleChange_plan {rows : List PlanInboundRoute} {inbound : ℕ} {priority weight : ℤ} :
    ∀ w ∈ (singleChange cat req plan rows inbound priority weight).writes,
      w.fields.plan = plan := by
  intro w hw
  unfold singleChange at hw
  dsimp only at hw
  split at hw
  · cases hw
  · cases hw
  · rename_i r active _ hactive
    have hr := mem_activeRoutes.mp (hactive ▸ @List.mem_cons_self _ r active)
    rw [List.mem_singleton.mp hw]
    exact hr.2.1
  · rw [List.mem_singleton.mp hw]
    exact onTarget_targetWrite.1
  · rw [List.mem_singleton.mp hw]
    exact onTarget_targetWrite.1
  · rw [List.mem_singleton.mp hw]
    rfl

theorem planChange_plan {rows : List PlanInboundRoute} :
    ∀ w ∈ (planChange cat req plan rows).writes, w.fields.plan = plan := by
  intro w hw
  unfold planChange at hw
  split at hw
  · cases hw
  · split at hw
    · obtain ⟨i, _, rfl⟩ := List.mem_map.mp hw
      exact onTarget_targetWrite.1
    · exact singleChange_plan w hw

/-! ## All plans -/

/-- Every route that the request deactivates can be saved. -/
def AllRetirable (cat : Catalog) (req : RouteRequest) (rows : List PlanInboundRoute)
    (plans : List ℕ) : Prop :=
  ∀ plan ∈ plans, (planChange cat req plan rows).Retirable cat

/-- The plans of a list whose changes were made. -/
structure AppliedPlans (cat : Catalog) (req : RouteRequest) (plans : List ℕ) (s s' : Applied) :
    Prop where
  errors : s'.2.errors = s.2.errors
  counts : s'.2.created = s.2.created + total cat req s.1.routes.rows plans Change.creates ∧
    s'.2.updated = s.2.updated + total cat req s.1.routes.rows plans Change.updates ∧
    s'.2.skipped = s.2.skipped + total cat req s.1.routes.rows plans Change.skips ∧
    s'.2.deactivated = s.2.deactivated + total cat req s.1.routes.rows plans (·.retires.length)
  kept : ∀ p : PlanInboundRoute → Bool, (∀ x, x.plan ∈ plans → p x = false) →
    s'.1.routes.rows.filter p = s.1.routes.rows.filter p
  settled : ∀ plan ∈ plans, PlanAccepts cat req plan → Settled cat req s'.1.routes.rows plan

/-- After the changes of a plan those of the others are what they were. -/
theorem AppliedPlan.others {plans : List ℕ} {s s' : Applied}
    (h : AppliedPlan cat req plan (planChange cat req plan s.1.routes.rows) s s')
    (hplan : plan ∉ plans) :
    (AllValid cat req s'.1.routes.rows plans ↔ AllValid cat req s.1.routes.rows plans) ∧
      (AllRetirable cat req s'.1.routes.rows plans ↔
        AllRetirable cat req s.1.routes.rows plans) ∧
      ∀ count, total cat req s'.1.routes.rows plans count =
        total cat req s.1.routes.rows plans count := by
  have hkept (other : ℕ) (hother : other ∈ plans) :
      s'.1.routes.rows.filter (·.plan = other) = s.1.routes.rows.filter (·.plan = other) := by
    apply h.kept
    intro x hx
    rw [hx]
    exact decide_eq_false fun heq => hplan (heq ▸ hother)
  have hchange (other : ℕ) (hother : other ∈ plans) :
      planChange cat req other s'.1.routes.rows = planChange cat req other s.1.routes.rows :=
    planChange_congr (hkept other hother)
  refine ⟨?_, ?_, ?_⟩
  · apply forall₂_congr
    intro other hother
    rw [hchange other hother]
    exact change_valid_congr (hkept other hother) planChange_plan
  · apply forall₂_congr
    intro other hother
    rw [hchange other hother]
  · intro count
    rw [total, total]
    congr 1
    apply List.map_congr_left
    intro other hother
    rw [hchange other hother]

theorem applyPlan_fold_applied (plans : List ℕ) (hnd : plans.Nodup) (s : Applied)
    (hvalid : AllValid cat req s.1.routes.rows plans)
    (hretire : AllRetirable cat req s.1.routes.rows plans) :
    ∃ s', plans.foldlM (fun s plan => applyPlan cat req plan s) s = .ok s' ∧
      AppliedPlans cat req plans s s' := by
  induction plans generalizing s with
  | nil => exact ⟨s, rfl, rfl, ⟨rfl, rfl, rfl, rfl⟩, fun _ _ => rfl, by simp⟩
  | cons plan plans ih =>
      obtain ⟨hnot, hnd⟩ := List.nodup_cons.mp hnd
      obtain ⟨s₁, hstep, hplan⟩ := applyPlan_applied s.2 (hvalid plan List.mem_cons_self)
        (hretire plan List.mem_cons_self)
      have ⟨hvalids, hretires, htotals⟩ := hplan.others hnot
      obtain ⟨s', hrun, hplans⟩ := ih hnd s₁
        (hvalids.mpr fun p hp => hvalid p (List.mem_cons_of_mem _ hp))
        (hretires.mpr fun p hp => hretire p (List.mem_cons_of_mem _ hp))
      refine ⟨s', ?_, ?_, ?_, ?_, ?_⟩
      · rw [List.foldlM_cons]
        have hstep' : applyPlan cat req plan s = .ok s₁ := hstep
        rw [hstep']
        exact hrun
      · rw [hplans.errors, hplan.errors]
      · have hfirst := hplan.counts
        have hrest := hplans.counts
        simp only [htotals] at hrest
        simp only [total, List.map_cons, List.sum_cons] at hrest ⊢
        dsimp only at hfirst
        omega
      · intro p hp
        rw [hplans.kept p fun x hx => hp x (List.mem_cons_of_mem _ hx)]
        exact hplan.kept p fun x hx => hp x (by simp [hx])
      · intro q hq haccepts
        rcases List.mem_cons.mp hq with rfl | hq
        · refine (hplan.settled haccepts).congr (hplans.kept _ fun x hx => ?_)
          exact decide_eq_false fun heq => hnot (heq ▸ hx)
        · exact hplans.settled q hq haccepts

theorem applyPlan_fold_raises (plans : List ℕ) (hnd : plans.Nodup) (s : Applied)
    (hvalid : AllValid cat req s.1.routes.rows plans)
    (hretire : ¬ AllRetirable cat req s.1.routes.rows plans) :
    ∃ errors, plans.foldlM (fun s plan => applyPlan cat req plan s) s = .error errors := by
  induction plans generalizing s with
  | nil => exact absurd (by simp [AllRetirable]) hretire
  | cons plan plans ih =>
      obtain ⟨hnot, hnd⟩ := List.nodup_cons.mp hnd
      rw [List.foldlM_cons]
      by_cases hfirst : (planChange cat req plan s.1.routes.rows).Retirable cat
      · obtain ⟨s₁, hstep, hplan⟩ := applyPlan_applied s.2 (hvalid plan List.mem_cons_self) hfirst
        have ⟨hvalids, hretires, _⟩ := hplan.others hnot
        have hstep' : applyPlan cat req plan s = .ok s₁ := hstep
        rw [hstep']
        apply ih hnd s₁ (hvalids.mpr fun p hp => hvalid p (List.mem_cons_of_mem _ hp))
        intro hrest
        apply hretire
        intro p hp
        rcases List.mem_cons.mp hp with rfl | hp
        · exact hfirst
        · exact hretires.mp hrest p hp
      · obtain ⟨errors, hstep⟩ := applyPlan_raises s.2 hfirst
        have hstep' : applyPlan cat req plan s = .error errors := hstep
        rw [hstep']
        exact ⟨errors, rfl⟩

/-! ## The whole request -/

/-- An application that shows or raises an error. -/
def ApplyOutcome.Failed : ApplyOutcome → Prop
  | .returned res => res.errors ≠ []
  | .raised _ => True

/-- The application does what the preview said. -/
structure AsPreviewed (cat : Catalog) (req : RouteRequest) (db : RouteDb) : Prop where
  errors : (previewBulk cat req db.routes.rows).errors ≠ [] ↔ (applyBulk cat req db).2.Failed
  refused : (previewBulk cat req db.routes.rows).errors ≠ [] →
    (applyBulk cat req db).2 = .returned (previewBulk cat req db.routes.rows)
  counts : ∀ res, (applyBulk cat req db).2 = .returned res → res.errors = [] →
    res.created = (previewBulk cat req db.routes.rows).toCreate ∧
      res.updated = (previewBulk cat req db.routes.rows).toUpdate ∧
      res.skipped = (previewBulk cat req db.routes.rows).toSkip ∧
      res.deactivated = (previewBulk cat req db.routes.rows).toDeactivate
  unchanged : (applyBulk cat req db).2.Failed → (applyBulk cat req db).1 = db
  settled : ¬ (applyBulk cat req db).2.Failed → ∀ plan ∈ targetPlans cat req,
    PlanAccepts cat req plan → Settled cat req (applyBulk cat req db).1.routes.rows plan

/-- The request is valid, and so is every route that it stores. -/
def Applicable (cat : Catalog) (req : RouteRequest) (rows : List PlanInboundRoute) : Prop :=
  inputErrors cat req = [] ∧ AllValid cat req rows (targetPlans cat req)

theorem targetPlans_nodup : (targetPlans cat req).Nodup := by
  have hsorted (l : List ℕ) (h : l.Nodup) : (l.mergeSort (planBefore cat)).Nodup :=
    (List.mergeSort_perm _ _).nodup_iff.mpr h
  have hplans := cat.planKeys_nodup
  unfold targetPlans
  dsimp only
  split
  · exact hsorted _ ((hplans.filter _).filter _)
  · split
    · exact hsorted _ (hplans.filter _)
    · exact List.nodup_nil

theorem previewBulk_eq_nil_iff :
    (previewBulk cat req db.routes.rows).errors = [] ↔ Applicable cat req db.routes.rows := by
  by_cases hinput : inputErrors cat req = []
  · have hstart : (startResult cat req).errors = [] := hinput
    rw [previewBulk, if_neg (not_not_intro hstart),
      (previewPlan_fold (targetPlans cat req) (startResult cat req)).1]
    simp [Applicable, hinput, hstart]
  · have hstart : (startResult cat req).errors ≠ [] := hinput
    rw [previewBulk, if_pos hstart]
    exact ⟨fun h => absurd h hstart, fun h => absurd h.1 hinput⟩

theorem previewBulk_counts (h : Applicable cat req db.routes.rows) :
    let preview := previewBulk cat req db.routes.rows
    let total := total cat req db.routes.rows (targetPlans cat req)
    preview.toCreate = total Change.creates ∧ preview.toUpdate = total Change.updates ∧
      preview.toSkip = total Change.skips ∧ preview.toDeactivate = total (·.retires.length) := by
  have hstart : (startResult cat req).errors = [] := h.1
  dsimp only
  rw [previewBulk, if_neg (not_not_intro hstart)]
  simpa [startResult] using
    (previewPlan_fold (targetPlans cat req) (startResult cat req)).2 h.2

theorem applyBulk_of_applicable (h : Applicable cat req db.routes.rows) :
    applyBulk cat req db =
      match (targetPlans cat req).foldlM (fun s plan => applyPlan cat req plan s)
        (db, startResult cat req) with
      | .error errors => (db, .raised errors)
      | .ok (db', res) => (db', .returned res) := by
  have hstart : (startResult cat req).errors = [] := h.1
  rw [applyBulk, if_neg (not_not_intro (previewBulk_eq_nil_iff.mpr h))]
  exact if_neg (not_not_intro hstart)

theorem applyBulk_raises (h : Applicable cat req db.routes.rows)
    (hretire : ¬ AllRetirable cat req db.routes.rows (targetPlans cat req)) :
    ∃ errors, applyBulk cat req db = (db, .raised errors) := by
  obtain ⟨errors, hrun⟩ := applyPlan_fold_raises (targetPlans cat req) targetPlans_nodup
    (db, startResult cat req) h.2 hretire
  rw [applyBulk_of_applicable h, hrun]
  exact ⟨errors, rfl⟩

theorem AsPreviewed.of_not_applicable (h : ¬ Applicable cat req db.routes.rows) :
    AsPreviewed cat req db := by
  have hpreview : (previewBulk cat req db.routes.rows).errors ≠ [] :=
    fun herrors => h (previewBulk_eq_nil_iff.mp herrors)
  have happly : applyBulk cat req db = (db, .returned (previewBulk cat req db.routes.rows)) :=
    if_pos hpreview
  have hfailed : (applyBulk cat req db).2.Failed := by
    rw [happly]
    exact hpreview
  constructor
  · exact ⟨fun _ => hfailed, fun _ => hpreview⟩
  · intro _
    rw [happly]
  · intro res hres herrors
    rw [happly] at hres
    obtain rfl := ApplyOutcome.returned.inj hres
    exact absurd herrors hpreview
  · intro _
    rw [happly]
  · intro hno
    exact absurd hfailed hno

theorem AsPreviewed.of_retirable (h : Applicable cat req db.routes.rows)
    (hretire : AllRetirable cat req db.routes.rows (targetPlans cat req)) :
    AsPreviewed cat req db := by
  obtain ⟨⟨db', res⟩, hrun, hdone⟩ := applyPlan_fold_applied (targetPlans cat req)
    targetPlans_nodup (db, startResult cat req) h.2 hretire
  have hpreview := previewBulk_eq_nil_iff.mpr h
  have happly : applyBulk cat req db = (db', .returned res) := by
    rw [applyBulk_of_applicable h, hrun]
  have hsuccess : ¬ (applyBulk cat req db).2.Failed := by
    rw [happly]
    exact not_not_intro (hdone.errors.trans h.1)
  constructor
  · exact ⟨fun herrors => absurd hpreview herrors, fun hfailed => absurd hfailed hsuccess⟩
  · intro herrors
    exact absurd hpreview herrors
  · intro res' hres _
    rw [happly] at hres
    obtain rfl := ApplyOutcome.returned.inj hres
    have hcounts := previewBulk_counts h
    have hdoneCounts := hdone.counts
    simp only [startResult] at hcounts hdoneCounts
    omega
  · intro hfailed
    exact absurd hfailed hsuccess
  · intro _
    rw [happly]
    exact hdone.settled

/-- The application does what the preview said if and only if every route that an otherwise valid
request deactivates could be saved as an inactive one: the preview does not look at these. -/
theorem asPreviewed_iff (cat : Catalog) (req : RouteRequest) (db : RouteDb) :
    AsPreviewed cat req db ↔
      (Applicable cat req db.routes.rows →
        AllRetirable cat req db.routes.rows (targetPlans cat req)) := by
  constructor
  · intro h happlicable
    by_contra hretire
    obtain ⟨errors, happly⟩ := applyBulk_raises happlicable hretire
    have hfailed : (applyBulk cat req db).2.Failed := by
      rw [happly]
      trivial
    exact h.errors.mpr hfailed (previewBulk_eq_nil_iff.mpr happlicable)
  · intro h
    by_cases happlicable : Applicable cat req db.routes.rows
    · exact AsPreviewed.of_retirable happlicable (h happlicable)
    · exact AsPreviewed.of_not_applicable happlicable

/-- A plan of all stores, and the panel of a store that now belongs to another one. -/
def movedPanelCatalog : Catalog where
  planKeys := [1]
  planKeys_nodup := List.nodup_singleton 1
  plans k := { pk := k }
  operators k := { pk := k }
  panels k := { pk := k, store := if k = 1 then some 2 else none }
  inbounds k := { pk := k, panel := if k = 5 then 1 else 2, inboundId := k }
  fieldMax := 2147483647

/-- The plan's route to the panel is still the route of the first store. -/
def movedPanelDb : RouteDb where
  routes :=
    { rows := [{ pk := 1, store := some 1, plan := 1, operator := none, inbound := 5 }]
      next := 2
      keys_nodup := List.nodup_singleton 1
      keys_lt := by simp }
  unique := by
    intro r hr q hq _
    rw [List.mem_singleton.mp hr, List.mem_singleton.mp hq]

def replaceRequest : RouteRequest where
  inbound := some 6
  selectedPlanIds := [1]
  strategy := .replaceActive

/-- The preview promises a replacement that the application cannot make. -/
theorem not_asPreviewed_movedPanel : ¬ AsPreviewed movedPanelCatalog replaceRequest movedPanelDb := by
  intro h
  have hpreview :
      (previewBulk movedPanelCatalog replaceRequest movedPanelDb.routes.rows).errors = [] := by
    decide +kernel
  have happly : (applyBulk movedPanelCatalog replaceRequest movedPanelDb).2 =
      .raised [("inbound", "Inbound انتخاب‌شده به فروشگاه route تعلق ندارد.")] := by
    decide +kernel
  have hfailed := h.errors
  rw [happly] at hfailed
  exact hfailed.mpr trivial hpreview

end Qasedak.PlanRoutes
