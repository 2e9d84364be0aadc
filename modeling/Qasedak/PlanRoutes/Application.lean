import Qasedak.PlanRoutes.Changes
import Mathlib.Data.List.Dedup

/-! The application makes the changes of every plan, where the routes that it deactivates can be
saved. -/

namespace Qasedak.PlanRoutes

open Foundation Store

variable {cat : Catalog} {req : RouteRequest} {db : RouteDb} {plan inbound : ℕ}

/-! ## The routes that a request leaves -/

/-- One active route is left for the plan and the operator. -/
def OneActive (cat : Catalog) (req : RouteRequest) (rows : List PlanInboundRoute) (plan : ℕ) :
    Prop :=
  ∃ x ∈ rows, IsActiveRoute cat req plan x ∧ ∀ y ∈ rows, IsActiveRoute cat req plan y → y = x

/-- The active routes of the plan and the operator lead to the selected inbounds, and to no others. -/
def BundleActive (cat : Catalog) (req : RouteRequest) (rows : List PlanInboundRoute) (plan : ℕ) :
    Prop :=
  ∀ inbound, (∃ x ∈ rows, IsActiveRoute cat req plan x ∧ x.inbound = inbound) ↔
    inbound ∈ bundleInbounds req

structure Settled (cat : Catalog) (req : RouteRequest) (rows : List PlanInboundRoute) (plan : ℕ) :
    Prop where
  single : req.multiInboundBundle = false → req.strategy = .replaceActive →
    OneActive cat req rows plan
  bundle : req.multiInboundBundle = true → BundleActive cat req rows plan

/-- The routes of a plan alone decide whether it is settled. -/
theorem Settled.congr {rows rows' : List PlanInboundRoute}
    (h : rows'.filter (·.plan = plan) = rows.filter (·.plan = plan))
    (hs : Settled cat req rows plan) : Settled cat req rows' plan := by
  have hmem (x : PlanInboundRoute) (hx : IsActiveRoute cat req plan x) : x ∈ rows' ↔ x ∈ rows := by
    have hiff : x ∈ rows'.filter (·.plan = plan) ↔ x ∈ rows.filter (·.plan = plan) := by rw [h]
    simpa [List.mem_filter, hx.1] using hiff
  constructor
  · intro hbundle hstrategy
    obtain ⟨x, hx, hactive, honly⟩ := hs.single hbundle hstrategy
    exact ⟨x, (hmem x hactive).mpr hx, hactive,
      fun y hy hyactive => honly y ((hmem y hyactive).mp hy) hyactive⟩
  · intro hbundle inbound
    rw [← hs.bundle hbundle inbound]
    constructor
    · rintro ⟨x, hx, hactive, hin⟩
      exact ⟨x, (hmem x hactive).mp hx, hactive, hin⟩
    · rintro ⟨x, hx, hactive, hin⟩
      exact ⟨x, (hmem x hactive).mpr hx, hactive, hin⟩

/-- A plan whose changes were made. -/
structure AppliedPlan (cat : Catalog) (req : RouteRequest) (plan : ℕ) (ch : Change)
    (s s' : Applied) : Prop where
  errors : s'.2.errors = s.2.errors
  counts : s'.2.created = s.2.created + ch.creates ∧ s'.2.updated = s.2.updated + ch.updates ∧
    s'.2.skipped = s.2.skipped + ch.skips ∧ s'.2.deactivated = s.2.deactivated + ch.retires.length
  kept : ∀ p : PlanInboundRoute → Bool, (∀ x, x.plan = plan → p x = false) →
    s'.1.routes.rows.filter p = s.1.routes.rows.filter p
  settled : PlanAccepts cat req plan → Settled cat req s'.1.routes.rows plan

/-! ## Bundles -/

section Bundle

variable {priority weight : ℤ}

theorem applyBundleInbound_of_valid {active : List PlanInboundRoute} {offset : ℕ}
    (created updated : ℕ)
    (hactive : ∀ r ∈ active, r.inbound = inbound → r ∈ db.routes.rows ∧ r.plan = plan ∧
      r.operator = req.operator)
    (hvalid : (targetWrite req db.routes.rows plan (priority + offset) weight inbound).Valid cat
      db.routes.rows) :
    let w := targetWrite req db.routes.rows plan (priority + offset) weight inbound
    ∃ db', applyBundleInbound cat req plan active priority weight (db, created, updated) inbound
        offset = .ok (db', created + [w].countP (·.self = none),
          updated + [w].countP (·.self ≠ none)) ∧ Written w db db' := by
  obtain ⟨db', hrun, hwritten⟩ := RouteWrite.run_of_valid hvalid fun pk hpk =>
    have ⟨x, hx, hxpk, _⟩ := targetWrite_self pk hpk
    ⟨x, hx, hxpk⟩
  refine ⟨db', ?_, hwritten⟩
  simp only [applyBundleInbound, orElse_sameInboundRoute hactive]
  cases hsame : sameInboundRoute req db.routes.rows plan inbound with
  | none =>
      simp only [targetWrite, hsame, RouteWrite.run] at hrun ⊢
      rw [hrun]
      rfl
  | some r =>
      simp only [targetWrite, hsame, RouteWrite.run] at hrun ⊢
      rw [hrun]
      rfl

/-- The inbounds of a bundle get their routes one after the other, each beside the others. -/
theorem applyBundleInbound_fold {active : List PlanInboundRoute} (l : List (ℕ × ℕ))
    (hnd : (l.map (·.1)).Nodup) (created updated : ℕ)
    (hactive : ∀ r ∈ active, r.inbound ∈ l.map (·.1) → r ∈ db.routes.rows ∧ r.plan = plan ∧
      r.operator = req.operator)
    (hvalid : ∀ i ∈ l, (targetWrite req db.routes.rows plan (priority + i.2) weight i.1).Valid cat
      db.routes.rows) :
    let writes := l.map fun i => targetWrite req db.routes.rows plan (priority + i.2) weight i.1
    ∃ db', l.foldlM (fun acc i =>
        applyBundleInbound cat req plan active priority weight acc i.1 i.2)
          (db, created, updated) =
            .ok (db', created + writes.countP (·.self = none),
              updated + writes.countP (·.self ≠ none)) ∧
      (∀ p : PlanInboundRoute → Bool,
        (∀ i ∈ l, ∀ x, OnTarget req plan i.1 x.toRouteFields → p x = false) →
          db'.routes.rows.filter p = db.routes.rows.filter p) ∧
      ∀ i ∈ l, ∃ x ∈ db'.routes.rows, IsActiveRoute cat req plan x ∧ x.inbound = i.1 := by
  induction l generalizing db created updated with
  | nil => exact ⟨db, rfl, fun _ _ => rfl, by simp⟩
  | cons i l ih =>
      have hi := hvalid i List.mem_cons_self
      obtain ⟨db₁, hstep, hwritten⟩ := applyBundleInbound_of_valid created updated
        (fun r hr hin => hactive r hr (by simp [hin])) hi
      have hother : ∀ j ∈ l, j.1 ≠ i.1 := by
        intro j hj hji
        rw [List.map_cons, List.nodup_cons] at hnd
        exact hnd.1 (List.mem_map.mpr ⟨j, hj, hji⟩)
      -- The rows of the other inbounds are as before, so their routes are found and valid as before.
      have hkept : ∀ j ∈ l,
          db₁.routes.rows.filter (OnTarget req plan j.1 ·.toRouteFields) =
            db.routes.rows.filter (OnTarget req plan j.1 ·.toRouteFields) := by
        intro j hj
        apply hwritten.kept_onTarget
        intro x hx
        apply decide_eq_false
        intro hxj
        exact hother j hj (hxj.2.1.symm.trans hx.2.1)
      have hwrites : (l.map fun j =>
          targetWrite req db₁.routes.rows plan (priority + j.2) weight j.1) =
            l.map fun j => targetWrite req db.routes.rows plan (priority + j.2) weight j.1 :=
        List.map_congr_left fun j hj => targetWrite_congr (hkept j hj)
      have hactive₁ : ∀ r ∈ active, r.inbound ∈ l.map (·.1) → r ∈ db₁.routes.rows ∧ r.plan = plan ∧
          r.operator = req.operator := by
        intro r hr hin
        have h := hactive r hr (List.mem_cons_of_mem _ hin)
        obtain ⟨j, hj, hjr⟩ := List.mem_map.mp hin
        have hmem : r ∈ db₁.routes.rows.filter (OnTarget req plan j.1 ·.toRouteFields) := by
          rw [hkept j hj]
          exact List.mem_filter.mpr ⟨h.1, decide_eq_true ⟨h.2.1, hjr.symm, h.2.2⟩⟩
        exact ⟨List.mem_of_mem_filter hmem, h.2⟩
      have hvalid₁ : ∀ j ∈ l, (targetWrite req db₁.routes.rows plan (priority + j.2) weight
          j.1).Valid cat db₁.routes.rows := by
        intro j hj
        rw [valid_congr onTarget_targetWrite (hkept j hj), targetWrite_congr (hkept j hj)]
        exact hvalid j (List.mem_cons_of_mem _ hj)
      obtain ⟨db', hrun, hrest, hdone⟩ := ih (List.nodup_cons.mp hnd).2 _ _ hactive₁ hvalid₁
      refine ⟨db', ?_, ?_, ?_⟩
      · rw [List.foldlM_cons, hstep]
        refine Eq.trans hrun ?_
        have hcount (p : RouteWrite → Bool) (w : RouteWrite) (ws : List RouteWrite) :
            (w :: ws).countP p = [w].countP p + ws.countP p := @List.countP_append _ p [w] ws
        rw [hwrites, List.map_cons, hcount _ _ (l.map _), hcount _ _ (l.map _), Nat.add_assoc,
          Nat.add_assoc]
      · intro p hp
        rw [hrest p fun j hj => hp j (List.mem_cons_of_mem _ hj)]
        exact hwritten.kept_onTarget fun x hx => hp i List.mem_cons_self x hx
      · intro j hj
        rcases List.mem_cons.mp hj with rfl | hj
        · obtain ⟨x, hx, hfields, _⟩ := hwritten.row
          have hxactive := isActiveRoute_of_valid hi hfields
          have hxin : x.inbound = j.1 := by
            rw [hfields]
            exact onTarget_targetWrite.2.1
          refine ⟨x, ?_, hxactive, hxin⟩
          -- The rows of this inbound are not among those that are stored later.
          have hlater := hrest (· = x) fun k hk y hy => decide_eq_false fun hyx => by
            rw [hyx] at hy
            exact hother k hk (hy.2.1.symm.trans hxin)
          have hmem : x ∈ db₁.routes.rows.filter (· = x) := List.mem_filter.mpr ⟨hx, by simp⟩
          rw [← hlater] at hmem
          exact List.mem_of_mem_filter hmem
        · exact hdone j hj

theorem bundleInbounds_nodup : (bundleInbounds req).Nodup :=
  List.nodup_reverse.mpr (List.nodup_dedup _)

theorem applyBundle_of_ok {db₁ db' : RouteDb} {created updated : ℕ} (res : RouteResult)
    (hdeactivate : deactivate cat (bundleChange cat req plan db.routes.rows priority weight).retires
      (db.setBundle plan true) = .ok db₁)
    (hrun : (bundleInbounds req).zipIdx.foldlM (fun acc i => applyBundleInbound cat req plan
      (activeRoutes cat req db.routes.rows plan) priority weight acc i.1 i.2) (db₁, 0, 0) =
        .ok (db', created, updated)) :
    ∃ res', applyBundle cat req plan priority weight (db, res) = .ok (db', res') ∧
      res'.errors = res.errors ∧ res'.created = res.created + created ∧
      res'.updated = res.updated + updated ∧ res'.skipped = res.skipped ∧
      res'.deactivated = res.deactivated +
        (bundleChange cat req plan db.routes.rows priority weight).retires.length := by
  simp only [applyBundle]
  simp only [bundleChange] at hdeactivate
  rw [hdeactivate]
  simp only [bind, Except.bind] at hrun ⊢
  rw [hrun]
  exact ⟨_, rfl, rfl, rfl, rfl, rfl, rfl⟩

theorem applyBundle_applied (hbundle : req.multiInboundBundle = true) (res : RouteResult)
    (hvalid : (bundleChange cat req plan db.routes.rows priority weight).Valid cat db.routes.rows)
    (hretire : (bundleChange cat req plan db.routes.rows priority weight).Retirable cat) :
    ∃ s', applyBundle cat req plan priority weight (db, res) = .ok s' ∧
      AppliedPlan cat req plan (bundleChange cat req plan db.routes.rows priority weight) (db, res)
        s' := by
  let stray := (activeRoutes cat req db.routes.rows plan).filter (·.inbound ∉ bundleInbounds req)
  have hstray (r : PlanInboundRoute) (hr : r ∈ stray) :
      r ∈ activeRoutes cat req db.routes.rows plan ∧ r.inbound ∉ bundleInbounds req := by
    simpa [stray] using hr
  obtain ⟨db₁, hdeactivate, hrows₁⟩ := @deactivate_of_retiresCleanly cat (db.setBundle plan true)
    stray (fun r hr => (mem_activeRoutes.mp (hstray r hr).1).1) (activeRoutes_nodup.filter _) hretire
  have hrows : db₁.routes.rows = deactivatedRows stray db.routes.rows := hrows₁
  have hmem (i : ℕ × ℕ) (hi : i ∈ (bundleInbounds req).zipIdx) : i.1 ∈ bundleInbounds req :=
    List.fst_mem_of_mem_zipIdx hi
  have hkept (i : ℕ × ℕ) (hi : i ∈ (bundleInbounds req).zipIdx) :
      db₁.routes.rows.filter (OnTarget req plan i.1 ·.toRouteFields) =
        db.routes.rows.filter (OnTarget req plan i.1 ·.toRouteFields) := by
    rw [hrows]
    apply filter_deactivatedRows
    intro x hx
    have hne : x.inbound ≠ i.1 := fun h => (hstray x hx).2 (by rw [h]; exact hmem i hi)
    simp [OnTarget, hne]
  have hnd : ((bundleInbounds req).zipIdx.map (·.1)).Nodup := by
    rw [List.zipIdx_map_fst]
    exact bundleInbounds_nodup
  have hactive : ∀ r ∈ activeRoutes cat req db.routes.rows plan,
      r.inbound ∈ (bundleInbounds req).zipIdx.map (·.1) →
        r ∈ db₁.routes.rows ∧ r.plan = plan ∧ r.operator = req.operator := by
    intro r hr hin
    rw [List.zipIdx_map_fst] at hin
    have h := mem_activeRoutes.mp hr
    refine ⟨?_, h.2.1, h.2.2.2.1⟩
    rw [hrows]
    exact List.mem_map.mpr ⟨r, h.1, if_neg fun hmem => (hstray r hmem).2 hin⟩
  have hvalid₁ : ∀ i ∈ (bundleInbounds req).zipIdx, (targetWrite req db₁.routes.rows plan
      (priority + i.2) weight i.1).Valid cat db₁.routes.rows := by
    intro i hi
    rw [valid_congr onTarget_targetWrite (hkept i hi), targetWrite_congr (hkept i hi)]
    exact hvalid _ (List.mem_map.mpr ⟨i, hi, rfl⟩)
  obtain ⟨db', hrun, hothers, hdone⟩ := applyBundleInbound_fold _ hnd 0 0 hactive hvalid₁
  have hwrites : ((bundleInbounds req).zipIdx.map fun i =>
      targetWrite req db₁.routes.rows plan (priority + i.2) weight i.1) =
        (bundleChange cat req plan db.routes.rows priority weight).writes :=
    List.map_congr_left fun i hi => targetWrite_congr (hkept i hi)
  rw [hwrites] at hrun
  obtain ⟨res', happly, herrors, hcreated, hupdated, hskipped, hdeactivated⟩ :=
    applyBundle_of_ok res hdeactivate hrun
  refine ⟨(db', res'), happly, herrors, ⟨?_, ?_, hskipped, hdeactivated⟩, ?_, ?_⟩
  · rw [hcreated, Nat.zero_add]
    rfl
  · rw [hupdated, Nat.zero_add]
    rfl
  · intro p hp
    rw [hothers p fun i _ x hx => hp x hx.1, hrows]
    apply filter_deactivatedRows
    intro x hx
    have hplan := (mem_activeRoutes.mp (hstray x hx).1).2.1
    exact ⟨hp x hplan, hp _ hplan⟩
  · intro _
    constructor
    · intro hsingle
      rw [hbundle] at hsingle
      cases hsingle
    · intro _ inbound
      constructor
      · rintro ⟨x, hx, hxactive, hxin⟩
        by_contra hout
        -- A route to another inbound is as the deactivation left it.
        have hlater := hothers (· = x) fun i hi y hy => decide_eq_false fun hyx => by
          rw [hyx] at hy
          exact hout (by rw [← hxin, hy.2.1]; exact hmem i hi)
        have hx₁ : x ∈ db'.routes.rows.filter (· = x) := List.mem_filter.mpr ⟨hx, by simp⟩
        rw [hlater, hrows] at hx₁
        have hold := mem_of_isActive_deactivatedRows (List.mem_of_mem_filter hx₁) hxactive.2.1
        apply hold.2
        simp only [stray, List.mem_filter, decide_eq_true_eq]
        exact ⟨mem_activeRoutes.mpr ⟨hold.1, hxactive⟩, by rw [hxin]; exact hout⟩
      · intro hin
        obtain ⟨i, hi, hiin⟩ := List.mem_map.mp (by rwa [List.zipIdx_map_fst] :
          inbound ∈ (bundleInbounds req).zipIdx.map (·.1))
        obtain ⟨x, hx, hxactive, hxin⟩ := hdone i hi
        exact ⟨x, hx, hxactive, hxin.trans hiin⟩

theorem applyBundle_raises (res : RouteResult)
    (hretire : ¬ (bundleChange cat req plan db.routes.rows priority weight).Retirable cat) :
    ∃ errors, applyBundle cat req plan priority weight (db, res) = .error errors := by
  obtain ⟨errors, hdeactivate⟩ := @deactivate_of_not_retiresCleanly cat (db.setBundle plan true)
    (bundleChange cat req plan db.routes.rows priority weight).retires
    (fun r hr => (mem_activeRoutes.mp (List.mem_of_mem_filter hr)).1) (activeRoutes_nodup.filter _)
    (by simpa [Change.Retirable] using hretire)
  simp only [bundleChange] at hdeactivate
  simp only [applyBundle]
  rw [hdeactivate]
  exact ⟨errors, rfl⟩

end Bundle

/-! ## Single inbounds -/

section Single

variable {priority weight : ℤ}

/-- The routes that a replacement deactivates are the active ones to other inbounds. -/
def Replaces (cat : Catalog) (req : RouteRequest) (rows : List PlanInboundRoute)
    (plan inbound : ℕ) (l : List PlanInboundRoute) : Prop :=
  ∀ x, x ∈ l ↔ x ∈ activeRoutes cat req rows plan ∧ ¬ OnTarget req plan inbound x.toRouteFields

theorem replaces_active
    (hsame : sameInboundRoute req db.routes.rows plan inbound = none) :
    Replaces cat req db.routes.rows plan inbound (activeRoutes cat req db.routes.rows plan) := by
  intro x
  constructor
  · intro hx
    refine ⟨hx, fun ht => ?_⟩
    rw [sameInboundRoute_of_mem (mem_activeRoutes.mp hx).1 ht] at hsame
    cases hsame
  · intro hx
    exact hx.1

theorem replaces_others {r : PlanInboundRoute}
    (hsame : sameInboundRoute req db.routes.rows plan inbound = some r) :
    Replaces cat req db.routes.rows plan inbound
      ((activeRoutes cat req db.routes.rows plan).filter (·.pk ≠ r.pk)) := by
  have hr := of_sameInboundRoute hsame
  intro x
  rw [List.mem_filter, decide_eq_true_eq]
  constructor
  · rintro ⟨hx, hpk⟩
    refine ⟨hx, fun ht => hpk ?_⟩
    rw [db.unique x (mem_activeRoutes.mp hx).1 r hr.1 (ht.sameTarget hr.2)]
  · rintro ⟨hx, ht⟩
    refine ⟨hx, fun hpk => ht ?_⟩
    rw [Serial.eq_of_key_eq (mem_activeRoutes.mp hx).1 hr.1 hpk]
    exact hr.2

/-- The routes to other inbounds are deactivated first, which neither makes the route to the inbound
another one nor takes its validity. -/
theorem replace_of_valid {l : List PlanInboundRoute} {bundle : Bool}
    (hl : Replaces cat req db.routes.rows plan inbound l) (hnd : l.Nodup)
    (hvalid : (targetWrite req db.routes.rows plan priority weight inbound).Valid cat
      db.routes.rows)
    (hclean : ∀ x ∈ l, RetiresCleanly cat x.toRouteFields) :
    ∃ db₁ db', deactivate cat l (db.setBundle plan bundle) = .ok db₁ ∧
      (targetWrite req db.routes.rows plan priority weight inbound).run cat db₁ = .ok db' ∧
      (∀ p : PlanInboundRoute → Bool, (∀ x, x.plan = plan → p x = false) →
        db'.routes.rows.filter p = db.routes.rows.filter p) ∧
      OneActive cat req db'.routes.rows plan := by
  obtain ⟨db₁, hdeactivate, hrows₁⟩ := @deactivate_of_retiresCleanly cat
    (db.setBundle plan bundle) l (fun x hx => (mem_activeRoutes.mp ((hl x).mp hx).1).1) hnd hclean
  have hrows : db₁.routes.rows = deactivatedRows l db.routes.rows := hrows₁
  have hkept : db₁.routes.rows.filter (OnTarget req plan inbound ·.toRouteFields) =
      db.routes.rows.filter (OnTarget req plan inbound ·.toRouteFields) := by
    rw [hrows]
    apply filter_deactivatedRows
    intro x hx
    have ht := ((hl x).mp hx).2
    exact ⟨decide_eq_false ht, decide_eq_false ht⟩
  have hsame := @targetWrite_congr req plan inbound _ _ priority weight hkept
  have hvalid₁ : (targetWrite req db₁.routes.rows plan priority weight inbound).Valid cat
      db₁.routes.rows := by
    rw [valid_congr onTarget_targetWrite hkept, hsame]
    exact hvalid
  obtain ⟨db', hrun, hwritten⟩ := RouteWrite.run_of_valid hvalid₁ fun pk hpk =>
    have ⟨x, hx, hxpk, _⟩ := targetWrite_self pk hpk
    ⟨x, hx, hxpk⟩
  refine ⟨db₁, db', hdeactivate, hsame ▸ hrun, ?_, ?_⟩
  · intro p hp
    rw [hwritten.kept_onTarget fun x hx => hp x hx.1, hrows]
    apply filter_deactivatedRows
    intro x hx
    have hplan := (mem_activeRoutes.mp ((hl x).mp hx).1).2.1
    exact ⟨hp x hplan, hp _ hplan⟩
  · obtain ⟨x, hx, hfields, hpk⟩ := hwritten.row
    refine ⟨x, hx, isActiveRoute_of_valid hvalid₁ hfields, ?_⟩
    intro y hy hyactive
    rcases hwritten.eq_or_mem hx hy hfields hpk with heq | hold
    · exact heq
    · rw [hrows] at hold
      have hbefore := mem_of_isActive_deactivatedRows hold hyactive.2.1
      have hyt : OnTarget req plan inbound y.toRouteFields := by
        by_contra ht
        exact hbefore.2 ((hl y).mpr ⟨mem_activeRoutes.mpr ⟨hbefore.1, hyactive⟩, ht⟩)
      apply db'.unique y hy x hx
      rw [hfields]
      exact hyt.sameTarget onTarget_targetWrite

/-- A request that neither replaces nor bundles settles nothing. -/
theorem settled_of_ne {rows : List PlanInboundRoute} (hbundle : req.multiInboundBundle = false)
    (hstrategy : req.strategy ≠ .replaceActive) : Settled cat req rows plan := by
  constructor
  · intro _ h
    exact absurd h hstrategy
  · intro h
    rw [hbundle] at h
    cases h

theorem settled_of_oneActive {rows : List PlanInboundRoute}
    (hbundle : req.multiInboundBundle = false) (h : OneActive cat req rows plan) :
    Settled cat req rows plan := by
  constructor
  · intro _ _
    exact h
  · intro hb
    rw [hbundle] at hb
    cases hb

theorem Written.kept_plan {w : RouteWrite} {db' : RouteDb} (h : Written w db db')
    (hplan : w.fields.plan = plan)
    (hself : ∀ x ∈ db.routes.rows, some x.pk = w.self → x.plan = plan)
    (p : PlanInboundRoute → Bool) (hp : ∀ x, x.plan = plan → p x = false) :
    db'.routes.rows.filter p = db.routes.rows.filter p := by
  apply h.kept p
  · intro x hx
    apply hp
    rw [hx]
    exact hplan
  · intro x hx hxself
    exact hp x (hself x hx hxself)

theorem applySingle_applied (hbundle : req.multiInboundBundle = false) (res : RouteResult)
    (hvalid : (singleChange cat req plan db.routes.rows inbound priority weight).Valid cat
      db.routes.rows)
    (hretire : (singleChange cat req plan db.routes.rows inbound priority weight).Retirable cat) :
    ∃ s', applySingle cat req plan inbound priority weight (db, res) = .ok s' ∧
      AppliedPlan cat req plan (singleChange cat req plan db.routes.rows inbound priority weight)
        (db, res) s' := by
  -- A new route beside the others.
  have hcreate (hstrategy : req.strategy ≠ .replaceActive)
      (hnew : RouteWrite.Valid cat ⟨none, newRoute req plan inbound priority weight⟩
        db.routes.rows) :
      ∃ db', createRoute cat (newRoute req plan inbound priority weight) (db.setBundle plan false) =
          .ok db' ∧ ∀ res', res'.errors = res.errors → res'.created = res.created + 1 →
            res'.updated = res.updated → res'.skipped = res.skipped →
            res'.deactivated = res.deactivated →
            AppliedPlan cat req plan
              { writes := [⟨none, newRoute req plan inbound priority weight⟩] } (db, res)
              (db', res') := by
    obtain ⟨db', hrun, hwritten⟩ := @RouteWrite.run_of_valid cat (db.setBundle plan false)
      ⟨none, newRoute req plan inbound priority weight⟩ hnew (by simp)
    exact ⟨db', hrun, fun res' herrors hcreated hupdated hskipped hdeactivated =>
      ⟨herrors, ⟨hcreated, hupdated, hskipped, hdeactivated⟩,
        hwritten.kept_plan rfl (by simp), fun _ => settled_of_ne hbundle hstrategy⟩⟩
  cases hstrategy : req.strategy with
  | skipExisting =>
      have hne : req.strategy ≠ .replaceActive := by simp [hstrategy]
      cases hactive : activeRoutes cat req db.routes.rows plan with
      | nil =>
          simp only [applySingle, singleChange, hstrategy, hactive] at hvalid ⊢
          obtain ⟨db', hrun, hdone⟩ := hcreate hne (hvalid _ List.mem_cons_self)
          rw [hrun]
          exact ⟨_, rfl, hdone _ rfl rfl rfl rfl rfl⟩
      | cons r active =>
          simp only [applySingle, singleChange, hstrategy, hactive]
          exact ⟨_, rfl, rfl, ⟨rfl, rfl, rfl, rfl⟩, fun _ _ => rfl,
            fun _ => settled_of_ne hbundle hne⟩
  | updateExisting =>
      have hne : req.strategy ≠ .replaceActive := by simp [hstrategy]
      cases hactive : activeRoutes cat req db.routes.rows plan with
      | nil =>
          simp only [applySingle, singleChange, hstrategy, hactive] at hvalid ⊢
          obtain ⟨db', hrun, hdone⟩ := hcreate hne (hvalid _ List.mem_cons_self)
          rw [hrun]
          exact ⟨_, rfl, hdone _ rfl rfl rfl rfl rfl⟩
      | cons r active =>
          have hr := mem_activeRoutes.mp (hactive ▸ @List.mem_cons_self _ r active)
          simp only [applySingle, singleChange, hstrategy, hactive] at hvalid ⊢
          obtain ⟨db', hrun, hwritten⟩ := @RouteWrite.run_of_valid cat (db.setBundle plan false)
            ⟨some r.pk, updatedRoute req r.toRouteFields inbound priority weight⟩
            (hvalid _ List.mem_cons_self) fun pk hpk => ⟨r, hr.1, Option.mem_some.mp hpk⟩
          have hsave : saveRoute cat r.pk (updatedRoute req r.toRouteFields inbound priority weight)
            (db.setBundle plan false) = .ok db' := hrun
          rw [hsave]
          refine ⟨_, rfl, rfl, ⟨rfl, rfl, rfl, rfl⟩, hwritten.kept_plan hr.2.1 ?_,
            fun _ => settled_of_ne hbundle hne⟩
          intro x hx hself
          rw [Serial.eq_of_key_eq hx hr.1 (Option.some_injective _ hself)]
          exact hr.2.1
  | addNew =>
      have hne : req.strategy ≠ .replaceActive := by simp [hstrategy]
      cases hsame : sameInboundRoute req db.routes.rows plan inbound with
      | none =>
          simp only [applySingle, singleChange, hstrategy, hsame] at hvalid ⊢
          obtain ⟨db', hrun, hdone⟩ := hcreate hne (hvalid _ List.mem_cons_self)
          rw [hrun]
          exact ⟨_, rfl, hdone _ rfl rfl rfl rfl rfl⟩
      | some r =>
          simp only [applySingle, singleChange, hstrategy, hsame]
          exact ⟨_, rfl, rfl, ⟨rfl, rfl, rfl, rfl⟩, fun _ _ => rfl,
            fun _ => settled_of_ne hbundle hne⟩
  | replaceActive =>
      cases hsame : sameInboundRoute req db.routes.rows plan inbound with
      | none =>
          simp only [applySingle, singleChange, hstrategy, hsame] at hvalid hretire ⊢
          obtain ⟨db₁, db', hdeactivate, hrun, hkept, hone⟩ := @replace_of_valid cat req db plan
            inbound priority weight _ false (replaces_active hsame) activeRoutes_nodup
            (hvalid _ List.mem_cons_self) hretire
          simp only [targetWrite, hsame, RouteWrite.run] at hrun ⊢
          rw [hdeactivate]
          simp only [bind, Except.bind]
          rw [hrun]
          exact ⟨_, rfl, rfl, ⟨rfl, rfl, rfl, rfl⟩, hkept,
            fun _ => settled_of_oneActive hbundle hone⟩
      | some r =>
          simp only [applySingle, singleChange, hstrategy, hsame] at hvalid hretire ⊢
          obtain ⟨db₁, db', hdeactivate, hrun, hkept, hone⟩ := @replace_of_valid cat req db plan
            inbound priority weight _ false (replaces_others hsame) (activeRoutes_nodup.filter _)
            (hvalid _ List.mem_cons_self) hretire
          simp only [targetWrite, hsame, RouteWrite.run] at hrun ⊢
          rw [hdeactivate]
          simp only [bind, Except.bind]
          rw [hrun]
          exact ⟨_, rfl, rfl, ⟨rfl, rfl, rfl, rfl⟩, hkept,
            fun _ => settled_of_oneActive hbundle hone⟩
  | unknown name =>
      have hne : req.strategy ≠ .replaceActive := by simp [hstrategy]
      simp only [applySingle, singleChange, hstrategy] at hvalid ⊢
      obtain ⟨db', hrun, hdone⟩ := hcreate hne (hvalid _ List.mem_cons_self)
      rw [hrun]
      exact ⟨_, rfl, hdone _ rfl rfl rfl rfl rfl⟩

theorem applySingle_raises (res : RouteResult)
    (hretire : ¬ (singleChange cat req plan db.routes.rows inbound priority weight).Retirable cat) :
    ∃ errors, applySingle cat req plan inbound priority weight (db, res) = .error errors := by
  by_cases hstrategy : req.strategy = .replaceActive
  · cases hsame : sameInboundRoute req db.routes.rows plan inbound with
    | none =>
        simp only [applySingle, singleChange, hstrategy, hsame] at hretire ⊢
        obtain ⟨errors, hdeactivate⟩ := @deactivate_of_not_retiresCleanly cat
          (db.setBundle plan false) (activeRoutes cat req db.routes.rows plan)
          (fun r hr => (mem_activeRoutes.mp hr).1) activeRoutes_nodup
          (by simpa [Change.Retirable] using hretire)
        rw [hdeactivate]
        exact ⟨errors, rfl⟩
    | some r =>
        simp only [applySingle, singleChange, hstrategy, hsame] at hretire ⊢
        obtain ⟨errors, hdeactivate⟩ := @deactivate_of_not_retiresCleanly cat
          (db.setBundle plan false) ((activeRoutes cat req db.routes.rows plan).filter (·.pk ≠ r.pk))
          (fun x hx => (mem_activeRoutes.mp (List.mem_of_mem_filter hx)).1)
          (activeRoutes_nodup.filter _) (by simpa [Change.Retirable, and_assoc] using hretire)
        rw [hdeactivate]
        exact ⟨errors, rfl⟩
  · -- The other strategies deactivate nothing.
    exfalso
    apply hretire
    have hnone : (singleChange cat req plan db.routes.rows inbound priority weight).retires = [] := by
      unfold singleChange
      dsimp only
      split
      all_goals first | rfl | exact absurd ‹_› hstrategy
    intro r hr
    rw [hnone] at hr
    cases hr

end Single

/-! ## All plans -/

theorem applyPlan_applied (res : RouteResult)
    (hvalid : (planChange cat req plan db.routes.rows).Valid cat db.routes.rows)
    (hretire : (planChange cat req plan db.routes.rows).Retirable cat) :
    ∃ s', applyPlan cat req plan (db, res) = .ok s' ∧
      AppliedPlan cat req plan (planChange cat req plan db.routes.rows) (db, res) s' := by
  by_cases haccepts : PlanAccepts cat req plan
  · simp only [applyPlan, planChange, haccepts, not_true_eq_false, if_false] at hvalid hretire ⊢
    cases hbundle : req.multiInboundBundle with
    | true =>
        simp only [hbundle, if_true] at hvalid hretire ⊢
        exact applyBundle_applied hbundle res hvalid hretire
    | false =>
        simp only [hbundle, Bool.false_eq_true, if_false] at hvalid hretire ⊢
        exact applySingle_applied hbundle res hvalid hretire
  · simp only [applyPlan, planChange, haccepts, not_false_eq_true, if_true]
    exact ⟨_, rfl, rfl, ⟨rfl, rfl, rfl, rfl⟩, fun _ _ => rfl, fun h => absurd h haccepts⟩

theorem applyPlan_raises (res : RouteResult)
    (hretire : ¬ (planChange cat req plan db.routes.rows).Retirable cat) :
    ∃ errors, applyPlan cat req plan (db, res) = .error errors := by
  by_cases haccepts : PlanAccepts cat req plan
  · simp only [applyPlan, planChange, haccepts, not_true_eq_false, if_false] at hretire ⊢
    cases hbundle : req.multiInboundBundle with
    | true =>
        simp only [hbundle, if_true] at hretire ⊢
        exact applyBundle_raises res hretire
    | false =>
        simp only [hbundle, Bool.false_eq_true, if_false] at hretire ⊢
        exact applySingle_raises res hretire
  · simp only [planChange, haccepts, not_false_eq_true, if_true] at hretire
    exact absurd (by simp [Change.Retirable]) hretire

end Qasedak.PlanRoutes
