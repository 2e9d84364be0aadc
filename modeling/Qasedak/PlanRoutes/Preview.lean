import Mathlib
import Qasedak.PlanRoutes.Changes

/-! The preview counts the changes of every plan, and has errors where a changed route has. -/

namespace Qasedak.PlanRoutes

open Foundation Store

variable {cat : Catalog} {req : RouteRequest} {db : RouteDb} {plan : ℕ}

/-! ## One route -/

section Candidate

variable {rows : List PlanInboundRoute} {action : String} {w : RouteWrite} {res : RouteResult}

theorem validateCandidate_of_valid (h : w.Valid cat rows) :
    validateCandidate cat rows plan action w.self w.fields res = res := if_pos h

theorem validateCandidate_of_not_valid (h : ¬ w.Valid cat rows) :
    res.errors.length <
      (validateCandidate cat rows plan action w.self w.fields res).errors.length := by
  have hne : ¬ fullClean cat w.fields rows w.self = [] := h
  simp only [validateCandidate, if_neg hne, List.length_append, List.length_singleton]
  omega

theorem ifValid_of_valid {done : RouteResult → RouteResult} (h : w.Valid cat rows) :
    ifValid cat rows plan action w.self w.fields res done = done res := by
  rw [ifValid, validateCandidate_of_valid h]
  exact if_pos rfl

theorem ifValid_of_not_valid {done : RouteResult → RouteResult} (h : ¬ w.Valid cat rows) :
    (ifValid cat rows plan action w.self w.fields res done).errors ≠ [] := by
  have hlt := @validateCandidate_of_not_valid cat plan rows action w res h
  rw [ifValid, if_neg (by omega)]
  exact List.ne_nil_of_length_pos (by omega)

end Candidate

/-! ## One plan -/

/-- The preview of a plan: nothing is counted where a route is not valid. -/
structure Previewed (cat : Catalog) (rows : List PlanInboundRoute) (ch : Change)
    (res res' : RouteResult) : Prop where
  errors : res'.errors = [] ↔ res.errors = [] ∧ ch.Valid cat rows
  counts : ch.Valid cat rows → res'.toCreate = res.toCreate + ch.creates ∧
    res'.toUpdate = res.toUpdate + ch.updates ∧ res'.toSkip = res.toSkip + ch.skips ∧
      res'.toDeactivate = res.toDeactivate + ch.retires.length

theorem Previewed.of_ifValid {rows : List PlanInboundRoute} {w : RouteWrite} {ch : Change}
    {action : String} {res : RouteResult} {done : RouteResult → RouteResult}
    (hw : ch.writes = [w]) (hskips : ch.skips = 0)
    (herrors : (done res).errors = res.errors)
    (hcreate : (done res).toCreate = res.toCreate + ch.creates)
    (hupdate : (done res).toUpdate = res.toUpdate + ch.updates)
    (hskip : (done res).toSkip = res.toSkip)
    (hdeactivate : (done res).toDeactivate = res.toDeactivate + ch.retires.length) :
    Previewed cat rows ch res (ifValid cat rows plan action w.self w.fields res done) := by
  have hall : ch.Valid cat rows ↔ w.Valid cat rows := by simp [Change.Valid, hw]
  by_cases hvalid : w.Valid cat rows
  · rw [ifValid_of_valid hvalid]
    constructor
    · rw [herrors]
      simp [hall, hvalid]
    · intro _
      rw [hskips]
      exact ⟨hcreate, hupdate, hskip, hdeactivate⟩
  · constructor
    · constructor
      · intro h
        exact absurd h (ifValid_of_not_valid hvalid)
      · intro h
        exact absurd (hall.mp h.2) hvalid
    · intro h
      exact absurd (hall.mp h) hvalid

theorem Previewed.skip {rows : List PlanInboundRoute} {res res' : RouteResult}
    (herrors : res'.errors = res.errors) (hcreate : res'.toCreate = res.toCreate)
    (hupdate : res'.toUpdate = res.toUpdate) (hskip : res'.toSkip = res.toSkip + 1)
    (hdeactivate : res'.toDeactivate = res.toDeactivate) :
    Previewed cat rows { skips := 1 } res res' := by
  constructor
  · rw [herrors]
    simp [Change.Valid]
  · intro _
    exact ⟨hcreate, hupdate, hskip, hdeactivate⟩

theorem previewSingle_previewed {inbound : ℕ} {priority weight : ℤ} (res : RouteResult) :
    Previewed cat db.routes.rows (singleChange cat req plan db.routes.rows inbound priority weight)
      res (previewSingle cat req db.routes.rows plan inbound priority weight res) := by
  have hcreate (res : RouteResult) : Previewed cat db.routes.rows
      { writes := [⟨none, newRoute req plan inbound priority weight⟩] } res
      (ifValid cat db.routes.rows plan "create" none (newRoute req plan inbound priority weight)
        res fun res =>
          { res.addPlan (cat.plans plan) "create" "A new active route will be created." with
            toCreate := res.toCreate + 1 }) :=
    @Previewed.of_ifValid cat plan _ ⟨none, _⟩ _ _ _ _ rfl rfl rfl rfl rfl rfl rfl
  cases hstrategy : req.strategy with
  | skipExisting =>
      cases hactive : activeRoutes cat req db.routes.rows plan with
      | nil =>
          simp only [previewSingle, singleChange, hstrategy, hactive]
          exact hcreate res
      | cons r active =>
          simp only [previewSingle, singleChange, hstrategy, hactive]
          exact Previewed.skip rfl rfl rfl rfl rfl
  | updateExisting =>
      cases hactive : activeRoutes cat req db.routes.rows plan with
      | nil =>
          simp only [previewSingle, singleChange, hstrategy, hactive]
          exact hcreate res
      | cons r active =>
          simp only [previewSingle, singleChange, hstrategy, hactive]
          exact @Previewed.of_ifValid cat plan _ ⟨some r.pk, _⟩ _ _ _ _ rfl rfl rfl rfl rfl rfl rfl
  | addNew =>
      cases hsame : sameInboundRoute req db.routes.rows plan inbound with
      | none =>
          simp only [previewSingle, singleChange, hstrategy, hsame]
          exact hcreate res
      | some r =>
          simp only [previewSingle, singleChange, hstrategy, hsame]
          exact Previewed.skip rfl rfl rfl rfl rfl
  | replaceActive =>
      cases hsame : sameInboundRoute req db.routes.rows plan inbound with
      | none =>
          simp only [previewSingle, singleChange, hstrategy, hsame, targetWrite]
          exact @Previewed.of_ifValid cat plan _ ⟨none, _⟩ _ _ _ _ rfl rfl rfl rfl rfl rfl rfl
      | some r =>
          simp only [previewSingle, singleChange, hstrategy, hsame, targetWrite]
          exact @Previewed.of_ifValid cat plan _ ⟨some r.pk, _⟩ _ _ _ _ rfl rfl rfl rfl rfl rfl rfl
  | unknown name =>
      simp only [previewSingle, singleChange, hstrategy]
      exact hcreate res

theorem previewBundleInbound_eq {priority weight : ℤ} (res : RouteResult)
    (toCreate toUpdate inbound offset : ℕ) :
    let w := targetWrite req db.routes.rows plan (priority + offset) weight inbound
    ∃ action, previewBundleInbound cat req db.routes.rows plan priority weight
      (res, toCreate, toUpdate) inbound offset =
        (validateCandidate cat db.routes.rows plan action w.self w.fields res,
          toCreate + [w].countP (·.self = none), toUpdate + [w].countP (·.self ≠ none)) := by
  have hroute : bundleRoute cat req db.routes.rows plan inbound =
      sameInboundRoute req db.routes.rows plan inbound := by
    apply orElse_sameInboundRoute
    intro r hr _
    have h := mem_activeRoutes.mp hr
    exact ⟨h.1, h.2.1, h.2.2.2.1⟩
  cases hsame : sameInboundRoute req db.routes.rows plan inbound with
  | none =>
      refine ⟨"create", ?_⟩
      simp [previewBundleInbound, hroute, hsame, targetWrite]
  | some r =>
      refine ⟨"update", ?_⟩
      simp [previewBundleInbound, hroute, hsame, targetWrite]

/-- The routes of a bundle are validated one after the other, and all against the same rows. -/
theorem previewBundleInbound_fold {priority weight : ℤ} (l : List (ℕ × ℕ)) (res : RouteResult)
    (toCreate toUpdate : ℕ) :
    let writes := l.map fun i => targetWrite req db.routes.rows plan (priority + i.2) weight i.1
    let done := l.foldl
      (fun acc i => previewBundleInbound cat req db.routes.rows plan priority weight acc i.1 i.2)
      (res, toCreate, toUpdate)
    done.2 = (toCreate + writes.countP (·.self = none), toUpdate + writes.countP (·.self ≠ none)) ∧
      ((∀ w ∈ writes, w.Valid cat db.routes.rows) → done.1 = res) ∧
        ((¬ ∀ w ∈ writes, w.Valid cat db.routes.rows) →
          res.errors.length < done.1.errors.length) := by
  induction l generalizing res toCreate toUpdate with
  | nil => simp
  | cons i l ih =>
      obtain ⟨action, hstep⟩ := @previewBundleInbound_eq cat req db plan priority weight res
        toCreate toUpdate i.1 i.2
      dsimp only at hstep ih ⊢
      rw [List.foldl_cons, hstep, List.map_cons, List.forall_mem_cons]
      generalize targetWrite req db.routes.rows plan (priority + i.2) weight i.1 = w
      have ⟨hcounts, hvalid, hnot⟩ := ih
        (validateCandidate cat db.routes.rows plan action w.self w.fields res)
        (toCreate + [w].countP (·.self = none)) (toUpdate + [w].countP (·.self ≠ none))
      refine ⟨?_, ?_, ?_⟩
      · have hcount (p : RouteWrite → Bool) (ws : List RouteWrite) :
            (w :: ws).countP p = [w].countP p + ws.countP p := @List.countP_append _ p [w] ws
        rw [hcounts, hcount _ (l.map _), hcount _ (l.map _), Nat.add_assoc, Nat.add_assoc]
      · intro h
        rw [hvalid h.2, validateCandidate_of_valid h.1]
      · intro h
        by_cases hw : w.Valid cat db.routes.rows
        · have hlt := hnot fun hl => h ⟨hw, hl⟩
          rw [validateCandidate_of_valid hw] at hlt ⊢
          exact hlt
        · have hlt := @validateCandidate_of_not_valid cat plan db.routes.rows action w res hw
          by_cases hl : ∀ w ∈ l.map fun i =>
              targetWrite req db.routes.rows plan (priority + i.2) weight i.1,
              w.Valid cat db.routes.rows
          · rw [hvalid hl]
            exact hlt
          · exact hlt.trans (hnot hl)

theorem previewBundle_previewed {priority weight : ℤ} (res : RouteResult) :
    Previewed cat db.routes.rows (bundleChange cat req plan db.routes.rows priority weight) res
      (previewBundle cat req db.routes.rows plan priority weight res) := by
  have ⟨hcounts, hvalid, hnot⟩ := @previewBundleInbound_fold cat req db plan priority weight
    (bundleInbounds req).zipIdx res 0 0
  simp only [previewBundle]
  generalize (bundleInbounds req).zipIdx.foldl _ (res, 0, 0) = done at hcounts hvalid hnot ⊢
  obtain ⟨validated, toCreate, toUpdate⟩ := done
  by_cases h : (bundleChange cat req plan db.routes.rows priority weight).Valid cat db.routes.rows
  · obtain rfl : validated = res := hvalid h
    rw [if_neg (not_not_intro rfl)]
    constructor
    · exact ⟨fun herrors => ⟨herrors, h⟩, fun herrors => herrors.1⟩
    · intro _
      simp only [Nat.zero_add, Prod.mk.injEq] at hcounts
      simp [Change.creates, Change.updates, bundleChange, RouteResult.addPlan, hcounts]
  · have hlt := hnot h
    rw [if_pos (by omega)]
    constructor
    · constructor
      · intro herrors
        rw [herrors] at hlt
        exact absurd hlt (Nat.not_lt_zero _)
      · intro herrors
        exact absurd herrors.2 h
    · intro hvalid
      exact absurd hvalid h

theorem previewPlan_previewed (res : RouteResult) :
    Previewed cat db.routes.rows (planChange cat req plan db.routes.rows) res
      (previewPlan cat req db.routes.rows plan res) := by
  unfold previewPlan planChange
  split
  · exact Previewed.skip rfl rfl rfl rfl rfl
  · split
    · exact previewBundle_previewed res
    · exact previewSingle_previewed res

/-! ## All plans -/

/-- Every route that the request stores is valid. -/
def AllValid (cat : Catalog) (req : RouteRequest) (rows : List PlanInboundRoute)
    (plans : List ℕ) : Prop :=
  ∀ plan ∈ plans, (planChange cat req plan rows).Valid cat rows

/-- A number that a request counts over its plans. -/
def total (cat : Catalog) (req : RouteRequest) (rows : List PlanInboundRoute) (plans : List ℕ)
    (count : Change → ℕ) : ℕ :=
  (plans.map fun plan => count (planChange cat req plan rows)).sum

theorem previewPlan_fold (plans : List ℕ) (res : RouteResult) :
    let res' := plans.foldl (fun res plan => previewPlan cat req db.routes.rows plan res) res
    let total := total cat req db.routes.rows plans
    (res'.errors = [] ↔ res.errors = [] ∧ AllValid cat req db.routes.rows plans) ∧
      (AllValid cat req db.routes.rows plans →
        res'.toCreate = res.toCreate + total Change.creates ∧
          res'.toUpdate = res.toUpdate + total Change.updates ∧
          res'.toSkip = res.toSkip + total Change.skips ∧
          res'.toDeactivate = res.toDeactivate + total (·.retires.length)) := by
  induction plans generalizing res with
  | nil => simp [AllValid, total]
  | cons plan plans ih =>
      have hplan := @previewPlan_previewed cat req db plan res
      have ⟨herrors, hcounts⟩ := ih (previewPlan cat req db.routes.rows plan res)
      have hall : AllValid cat req db.routes.rows (plan :: plans) ↔
          (planChange cat req plan db.routes.rows).Valid cat db.routes.rows ∧
            AllValid cat req db.routes.rows plans := List.forall_mem_cons
      dsimp only
      rw [List.foldl_cons, hall]
      constructor
      · rw [herrors, hplan.errors, and_assoc]
      · intro h
        have hstep := hplan.counts h.1
        have hrest := hcounts h.2
        simp only [total, List.map_cons, List.sum_cons] at hrest ⊢
        omega

end Qasedak.PlanRoutes
