import Qasedak.PlanRoutes.Operations

/-! What a save does to the table of routes, and which rows it leaves alone. -/

namespace Qasedak.PlanRoutes

open Foundation Store

variable {cat : Catalog} {req : RouteRequest} {db : RouteDb} {r : PlanInboundRoute}

/-! ## Validity and other rows -/

theorem filter_map_of_keep {ρ : Type*} {l : List ρ} {p : ρ → Bool} {f : ρ → ρ}
    (hkeep : ∀ x ∈ l, p x → f x = x) (hout : ∀ x ∈ l, ¬ p x → ¬ p (f x)) :
    (l.map f).filter p = l.filter p := by
  induction l with
  | nil => rfl
  | cons x l ih =>
      have htail := ih (fun y hy => hkeep y (List.mem_cons_of_mem _ hy))
        fun y hy => hout y (List.mem_cons_of_mem _ hy)
      rw [List.map_cons]
      by_cases hx : p x = true
      · rw [hkeep x List.mem_cons_self hx, List.filter_cons_of_pos hx,
          List.filter_cons_of_pos hx, htail]
      · rw [List.filter_cons_of_neg (hout x List.mem_cons_self hx),
          List.filter_cons_of_neg hx, htail]

/-- Only the rows with the same target decide whether a route is valid. -/
theorem fullClean_congr {rows rows' : List PlanInboundRoute} {fields : RouteFields}
    {self : Option ℕ}
    (h : rows'.filter (fun q => SameTarget q.toRouteFields fields) =
      rows.filter fun q => SameTarget q.toRouteFields fields) :
    fullClean cat fields rows' self = fullClean cat fields rows self := by
  have htaken (l : List PlanInboundRoute) : Taken fields l self ↔
      ∃ q ∈ l.filter (fun q => SameTarget q.toRouteFields fields), some q.pk ≠ self := by
    simp only [Taken, List.mem_filter, decide_eq_true_eq, and_comm, and_left_comm]
  have hsame : Taken fields rows' self ↔ Taken fields rows self := by
    rw [htaken, htaken, h]
  simp only [fullClean, hsame]

theorem storeErrors_of_cleanErrors {fields : RouteFields} (h : cleanErrors cat fields = []) :
    storeErrors cat fields = [] := by
  by_cases hactive : fields.isActive = true
  · rw [cleanErrors, if_neg (not_not_intro hactive)] at h
    cases hop : activeOperatorError cat fields with
    | some message => simp [hop] at h
    | none =>
        cases hin : activeInboundError cat fields with
        | some message => simp [hop, hin] at h
        | none => simpa [hop, hin] using h
  · rw [cleanErrors, if_pos hactive] at h
    exact h

/-- A route of a store leads to a panel of the store, or of none. -/
theorem panel_of_storeErrors {fields : RouteFields} (h : storeErrors cat fields = [])
    (hstore : fields.store ≠ none) :
    (cat.panels (cat.inbounds fields.inbound).panel).store = fields.store ∨
      (cat.panels (cat.inbounds fields.inbound).panel).store = none := by
  have hno : ¬ Mismatch fields.store (cat.panels (cat.inbounds fields.inbound).panel).store := by
    intro hmismatch
    simp only [storeErrors, if_pos hmismatch] at h
    split at h <;> exact setError_ne_nil _ _ _ h
  obtain ⟨s, hs⟩ := Option.ne_none_iff_exists'.mp hstore
  cases hpanel : (cat.panels (cat.inbounds fields.inbound).panel).store with
  | none => exact Or.inr rfl
  | some s' =>
      left
      rw [hs, hpanel] at hno
      rw [hs]
      by_contra hne
      exact hno ⟨s, rfl, s', rfl, fun h => hne (congrArg some h)⟩

/-- What an inactive route has to pass besides the constraints. -/
def RetiresCleanly (cat : Catalog) (r : RouteFields) : Prop :=
  fieldErrors cat r = [] ∧ storeErrors cat r = []

instance (cat : Catalog) (r : RouteFields) : Decidable (RetiresCleanly cat r) :=
  inferInstanceAs (Decidable (_ ∧ _))

/-- A stored route has its target for itself, so only its own fields can keep it from being
deactivated. -/
theorem fullClean_deactivatedRoute (hr : r ∈ db.routes.rows) :
    fullClean cat (deactivatedRoute r.toRouteFields) db.routes.rows (some r.pk) = [] ↔
      RetiresCleanly cat r.toRouteFields := by
  have hfree : ¬ Taken (deactivatedRoute r.toRouteFields) db.routes.rows (some r.pk) := by
    rintro ⟨q, hq, hne, hsame⟩
    have hqr : q = r := db.unique q hq r hr hsame
    exact hne (by rw [hqr])
  have hclean : cleanErrors cat (deactivatedRoute r.toRouteFields) =
      storeErrors cat r.toRouteFields := by
    rw [cleanErrors]
    exact if_pos Bool.false_ne_true
  have hfield : fieldErrors cat (deactivatedRoute r.toRouteFields) =
      fieldErrors cat r.toRouteFields := rfl
  rw [fullClean_eq_nil_iff, hclean, hfield]
  simp [RetiresCleanly, hfree]

/-! ## One route -/

/-- A route that is to be stored, under its key or as a new one. -/
structure RouteWrite where
  self : Option ℕ
  fields : RouteFields

namespace RouteWrite

variable (cat) (w : RouteWrite)

def Valid (rows : List PlanInboundRoute) : Prop := fullClean cat w.fields rows w.self = []

instance (rows : List PlanInboundRoute) : Decidable (w.Valid cat rows) :=
  inferInstanceAs (Decidable (_ = _))

def run (db : RouteDb) : Except FieldErrors RouteDb :=
  match w.self with
  | some pk => saveRoute cat pk w.fields db
  | none => createRoute cat w.fields db

end RouteWrite

/-- After a route was stored it is there, and every other row is as before. -/
structure Written (w : RouteWrite) (db db' : RouteDb) : Prop where
  row : ∃ x ∈ db'.routes.rows, x.toRouteFields = w.fields ∧ ∀ pk ∈ w.self, x.pk = pk
  kept : ∀ p : PlanInboundRoute → Bool, (∀ x, x.toRouteFields = w.fields → p x = false) →
    (∀ x ∈ db.routes.rows, some x.pk = w.self → p x = false) →
      db'.routes.rows.filter p = db.routes.rows.filter p

theorem saveRoute_of_valid {pk : ℕ} {fields : RouteFields}
    (hvalid : fullClean cat fields db.routes.rows (some pk) = []) :
    ∃ db', saveRoute cat pk fields db = .ok db' ∧
      db'.routes.rows = db.routes.rows.map fun x =>
        if x.pk = pk then { fields with pk := x.pk } else x := by
  have hfree := ((fullClean_eq_nil_iff cat fields).mp hvalid).2.2
  have hsave : saveRoute cat pk fields db = db.update pk fields := by
    simp only [saveRoute, hvalid]
  rw [hsave, RouteDb.update, dif_neg hfree]
  refine ⟨_, rfl, ?_⟩
  rw [Serial.rows_modify]
  simp only [decide_eq_true_eq]

theorem RouteWrite.run_of_valid {w : RouteWrite} (hvalid : w.Valid cat db.routes.rows)
    (hself : ∀ pk ∈ w.self, ∃ x ∈ db.routes.rows, x.pk = pk) :
    ∃ db', w.run cat db = .ok db' ∧ Written w db db' := by
  obtain ⟨self, fields⟩ := w
  cases self with
  | none =>
      have hfree := ((fullClean_eq_nil_iff cat fields).mp hvalid).2.2
      have hrun : RouteWrite.run cat ⟨none, fields⟩ db = db.insert fields := by
        simp only [RouteWrite.run, createRoute, show fullClean cat fields db.routes.rows none = []
          from hvalid]
      rw [hrun, RouteDb.insert, dif_neg hfree]
      refine ⟨_, rfl, ?_, ?_⟩
      · refine ⟨{ fields with pk := db.routes.next }, ?_, rfl, by simp⟩
        simp [Serial.append]
      · intro p hnew _
        have hlast : p { fields with pk := db.routes.next } = false := hnew _ rfl
        simp [Serial.append, List.filter_append, hlast]
  | some pk =>
      obtain ⟨db', hsave, hrows⟩ := saveRoute_of_valid hvalid
      refine ⟨db', hsave, ?_, ?_⟩
      · obtain ⟨x, hx, hpk⟩ := hself pk rfl
        refine ⟨{ fields with pk := x.pk }, ?_, rfl, ?_⟩
        · rw [hrows]
          exact List.mem_map.mpr ⟨x, hx, if_pos hpk⟩
        · intro k hk
          rw [← Option.mem_some.mp hk]
          exact hpk
      · intro p hnew hold
        rw [hrows]
        apply filter_map_of_keep
        · intro x hx hp
          rw [if_neg]
          intro hpk
          have hout := hold x hx (congrArg some hpk)
          rw [hout] at hp
          cases hp
        · intro x hx hp
          split
          · rw [hnew _ rfl]
            exact Bool.false_ne_true
          · exact hp

theorem RouteWrite.run_of_not_valid {w : RouteWrite} (h : ¬ w.Valid cat db.routes.rows) :
    ∃ errors, w.run cat db = .error errors := by
  obtain ⟨self, fields⟩ := w
  refine ⟨fullClean cat fields db.routes.rows self, ?_⟩
  cases self with
  | none =>
      simp only [RouteWrite.run, createRoute]
      split
      · exact absurd ‹_› h
      · rfl
  | some pk =>
      simp only [RouteWrite.run, saveRoute]
      split
      · exact absurd ‹_› h
      · rfl

/-- The stored route is the only one with its target. -/
theorem Written.eq_or_mem {w : RouteWrite} {db' : RouteDb} (h : Written w db db')
    {x y : PlanInboundRoute} (hx : x ∈ db'.routes.rows) (hy : y ∈ db'.routes.rows)
    (hfields : x.toRouteFields = w.fields) (hpk : ∀ pk ∈ w.self, x.pk = pk) :
    y = x ∨ y ∈ db.routes.rows := by
  by_cases hsame : y.toRouteFields = w.fields
  · left
    apply db'.unique y hy x hx
    rw [hsame, hfields]
    exact ⟨rfl, rfl, rfl⟩
  · by_cases hself : some y.pk = w.self
    · left
      exact Serial.eq_of_key_eq hy hx (hpk y.pk (Option.mem_def.mpr hself.symm)).symm
    · right
      let p : PlanInboundRoute → Bool := fun z => z.toRouteFields ≠ w.fields ∧ some z.pk ≠ w.self
      have hkept := h.kept p (fun z hz => by simp [p, hz]) fun z _ hz => by simp [p, hz]
      have hmem : y ∈ db'.routes.rows.filter p := List.mem_filter.mpr ⟨hy, by simp [p, hsame, hself]⟩
      rw [hkept] at hmem
      exact List.mem_of_mem_filter hmem

/-! ## Routes that are deactivated -/

/-- The table where the routes of a list have been deactivated. -/
def deactivatedRows (l rows : List PlanInboundRoute) : List PlanInboundRoute :=
  rows.map fun x => if x ∈ l then { x with isActive := false } else x

theorem filter_deactivatedRows {l rows : List PlanInboundRoute} {p : PlanInboundRoute → Bool}
    (hout : ∀ x ∈ l, p x = false ∧ p { x with isActive := false } = false) :
    (deactivatedRows l rows).filter p = rows.filter p := by
  apply filter_map_of_keep
  · intro x _ hp
    rw [if_neg]
    intro hmem
    rw [(hout x hmem).1] at hp
    cases hp
  · intro x _ hp
    split
    · rename_i hmem
      rw [(hout x hmem).2]
      exact Bool.false_ne_true
    · exact hp

theorem mem_of_isActive_deactivatedRows {l rows : List PlanInboundRoute} {x : PlanInboundRoute}
    (hx : x ∈ deactivatedRows l rows) (hactive : x.isActive = true) : x ∈ rows ∧ x ∉ l := by
  obtain ⟨y, hy, rfl⟩ := List.mem_map.mp hx
  split at hactive
  · cases hactive
  · rename_i hmem
    rw [if_neg hmem]
    exact ⟨hy, hmem⟩

/-- One route is deactivated, and the others are as before. -/
theorem saveRoute_deactivatedRoute (hr : r ∈ db.routes.rows)
    (hclean : RetiresCleanly cat r.toRouteFields) :
    ∃ db', saveRoute cat r.pk (deactivatedRoute r.toRouteFields) db = .ok db' ∧
      db'.routes.rows = deactivatedRows [r] db.routes.rows := by
  obtain ⟨db', hsave, hrows⟩ := saveRoute_of_valid ((fullClean_deactivatedRoute hr).mpr hclean)
  refine ⟨db', hsave, ?_⟩
  rw [hrows, deactivatedRows]
  apply List.map_congr_left
  intro x hx
  by_cases hpk : x.pk = r.pk
  · rw [Serial.eq_of_key_eq hx hr hpk]
    simp [deactivatedRoute]
  · have hne : x ≠ r := fun h => hpk (by rw [h])
    simp [hpk, hne]

theorem mem_deactivatedRows_of_cons {l rows : List PlanInboundRoute}
    (hl : ∀ x ∈ r :: l, x ∈ rows) (hnd : (r :: l).Nodup) :
    ∀ x ∈ l, x ∈ deactivatedRows [r] rows := by
  intro x hx
  refine List.mem_map.mpr ⟨x, hl x (List.mem_cons_of_mem _ hx), if_neg ?_⟩
  intro hxr
  rw [List.mem_singleton.mp hxr] at hx
  exact (List.nodup_cons.mp hnd).1 hx

theorem deactivate_of_retiresCleanly {l : List PlanInboundRoute} (hl : ∀ x ∈ l, x ∈ db.routes.rows)
    (hnd : l.Nodup) (hclean : ∀ x ∈ l, RetiresCleanly cat x.toRouteFields) :
    ∃ db', deactivate cat l db = .ok db' ∧
      db'.routes.rows = deactivatedRows l db.routes.rows := by
  induction l generalizing db with
  | nil => exact ⟨db, rfl, by simp [deactivatedRows]⟩
  | cons r l ih =>
      obtain ⟨db₁, hsave, hrows₁⟩ :=
        saveRoute_deactivatedRoute (hl r List.mem_cons_self) (hclean r List.mem_cons_self)
      have hl₁ : ∀ x ∈ l, x ∈ db₁.routes.rows := by
        rw [hrows₁]
        exact mem_deactivatedRows_of_cons hl hnd
      obtain ⟨db', hrun, hrows'⟩ := ih hl₁ (List.nodup_cons.mp hnd).2
        fun x hx => hclean x (List.mem_cons_of_mem _ hx)
      refine ⟨db', ?_, ?_⟩
      · rw [deactivate, List.foldlM_cons, hsave]
        exact hrun
      · rw [hrows', hrows₁, deactivatedRows, deactivatedRows, deactivatedRows, List.map_map]
        apply List.map_congr_left
        intro x hx
        by_cases hxr : x = r
        · subst x
          by_cases hmem : { r with isActive := false } ∈ l <;> simp [hmem]
        · simp [hxr]

theorem deactivate_of_not_retiresCleanly {l : List PlanInboundRoute}
    (hl : ∀ x ∈ l, x ∈ db.routes.rows) (hnd : l.Nodup)
    (h : ∃ x ∈ l, ¬ RetiresCleanly cat x.toRouteFields) :
    ∃ errors, deactivate cat l db = .error errors := by
  induction l generalizing db with
  | nil =>
      obtain ⟨x, hx, _⟩ := h
      cases hx
  | cons r l ih =>
      have hr : r ∈ db.routes.rows := hl r List.mem_cons_self
      rw [deactivate, List.foldlM_cons]
      by_cases hclean : RetiresCleanly cat r.toRouteFields
      · obtain ⟨db₁, hsave, hrows₁⟩ := saveRoute_deactivatedRoute hr hclean
        rw [hsave]
        apply ih
        · rw [hrows₁]
          exact mem_deactivatedRows_of_cons hl hnd
        · exact (List.nodup_cons.mp hnd).2
        · obtain ⟨x, hx, hxclean⟩ := h
          rcases List.mem_cons.mp hx with rfl | hx
          · exact absurd hclean hxclean
          · exact ⟨x, hx, hxclean⟩
      · obtain ⟨errors, hsave⟩ := @RouteWrite.run_of_not_valid cat db
          ⟨some r.pk, deactivatedRoute r.toRouteFields⟩
          fun hvalid => hclean ((fullClean_deactivatedRoute hr).mp hvalid)
        have hsave' : saveRoute cat r.pk (deactivatedRoute r.toRouteFields) db = .error errors :=
          hsave
        rw [hsave']
        exact ⟨errors, rfl⟩

end Qasedak.PlanRoutes

/-! What a request changes among the routes of one plan: the description that the preview and the
application share. -/

namespace Qasedak.PlanRoutes

open Foundation Store

variable {cat : Catalog} {req : RouteRequest} {db : RouteDb} {plan inbound : ℕ}

/-! ## The route to one inbound -/

/-- The plan, the operator and the inbound that a request connects. -/
def OnTarget (req : RouteRequest) (plan inbound : ℕ) (r : RouteFields) : Prop :=
  r.plan = plan ∧ r.inbound = inbound ∧ r.operator = req.operator

instance (r : RouteFields) : Decidable (OnTarget req plan inbound r) :=
  inferInstanceAs (Decidable (_ ∧ _))

theorem OnTarget.sameTarget {a b : RouteFields} (ha : OnTarget req plan inbound a)
    (hb : OnTarget req plan inbound b) : SameTarget a b :=
  ⟨ha.1.trans hb.1.symm, ha.2.2.trans hb.2.2.symm, ha.2.1.trans hb.2.1.symm⟩

theorem sameTarget_iff_onTarget {a b : RouteFields} (hb : OnTarget req plan inbound b) :
    SameTarget a b ↔ OnTarget req plan inbound a := by
  constructor
  · intro h
    exact ⟨h.1.trans hb.1, h.2.2.trans hb.2.1, h.2.1.trans hb.2.2⟩
  · intro ha
    exact ha.sameTarget hb

/-- The route of a request to an inbound: the one that is there is used again. -/
def targetWrite (req : RouteRequest) (rows : List PlanInboundRoute) (plan : ℕ)
    (priority weight : ℤ) (inbound : ℕ) : RouteWrite :=
  match sameInboundRoute req rows plan inbound with
  | some r => ⟨some r.pk, reusedRoute req r.toRouteFields inbound priority weight⟩
  | none => ⟨none, newRoute req plan inbound priority weight⟩

theorem of_sameInboundRoute {rows : List PlanInboundRoute} {r : PlanInboundRoute}
    (h : sameInboundRoute req rows plan inbound = some r) :
    r ∈ rows ∧ OnTarget req plan inbound r.toRouteFields :=
  ⟨List.mem_of_find?_eq_some h, by simpa [OnTarget] using List.find?_some h⟩

theorem sameInboundRoute_of_mem {r : PlanInboundRoute} (hr : r ∈ db.routes.rows)
    (ht : OnTarget req plan inbound r.toRouteFields) :
    sameInboundRoute req db.routes.rows plan inbound = some r := by
  cases h : sameInboundRoute req db.routes.rows plan inbound with
  | none =>
      have hno := List.find?_eq_none.mp h r hr
      exact absurd (decide_eq_true ht) hno
  | some q =>
      have hq := of_sameInboundRoute h
      rw [db.unique q hq.1 r hr (hq.2.sameTarget ht)]

theorem onTarget_targetWrite {rows : List PlanInboundRoute} {priority weight : ℤ} :
    OnTarget req plan inbound (targetWrite req rows plan priority weight inbound).fields := by
  unfold targetWrite
  split
  · rename_i r hr
    have ht := (of_sameInboundRoute hr).2
    exact ⟨ht.1, rfl, ht.2.2⟩
  · exact ⟨rfl, rfl, rfl⟩

theorem targetWrite_self {rows : List PlanInboundRoute} {priority weight : ℤ} :
    ∀ pk ∈ (targetWrite req rows plan priority weight inbound).self,
      ∃ x ∈ rows, x.pk = pk ∧ OnTarget req plan inbound x.toRouteFields := by
  intro pk hpk
  unfold targetWrite at hpk
  split at hpk
  · rename_i r hr
    have h := of_sameInboundRoute hr
    exact ⟨r, h.1, Option.mem_some.mp hpk, h.2⟩
  · cases hpk

theorem sameInboundRoute_congr {rows rows' : List PlanInboundRoute}
    (h : rows'.filter (OnTarget req plan inbound ·.toRouteFields) =
      rows.filter (OnTarget req plan inbound ·.toRouteFields)) :
    sameInboundRoute req rows' plan inbound = sameInboundRoute req rows plan inbound := by
  have hhead (l : List PlanInboundRoute) : sameInboundRoute req l plan inbound =
      (l.filter (OnTarget req plan inbound ·.toRouteFields)).head? := by
    rw [List.head?_filter]
    rfl
  rw [hhead, hhead, h]

/-- Only the rows with its target decide what the route to an inbound is. -/
theorem targetWrite_congr {rows rows' : List PlanInboundRoute} {priority weight : ℤ}
    (h : rows'.filter (OnTarget req plan inbound ·.toRouteFields) =
      rows.filter (OnTarget req plan inbound ·.toRouteFields)) :
    targetWrite req rows' plan priority weight inbound =
      targetWrite req rows plan priority weight inbound := by
  simp only [targetWrite, sameInboundRoute_congr h]

theorem valid_congr {rows rows' : List PlanInboundRoute} {w : RouteWrite}
    (hw : OnTarget req plan inbound w.fields)
    (h : rows'.filter (OnTarget req plan inbound ·.toRouteFields) =
      rows.filter (OnTarget req plan inbound ·.toRouteFields)) :
    w.Valid cat rows' ↔ w.Valid cat rows := by
  have hclean : fullClean cat w.fields rows' w.self = fullClean cat w.fields rows w.self := by
    apply fullClean_congr
    simpa only [sameTarget_iff_onTarget hw] using h
  simp only [RouteWrite.Valid, hclean]

theorem Written.kept_onTarget {db' : RouteDb} {priority weight : ℤ}
    (h : Written (targetWrite req db.routes.rows plan priority weight inbound) db db')
    {p : PlanInboundRoute → Bool}
    (hp : ∀ x, OnTarget req plan inbound x.toRouteFields → p x = false) :
    db'.routes.rows.filter p = db.routes.rows.filter p := by
  apply h.kept
  · intro x hx
    apply hp
    rw [hx]
    exact onTarget_targetWrite
  · intro x hx hself
    obtain ⟨y, hy, hpk, ht⟩ := targetWrite_self x.pk (Option.mem_def.mpr hself.symm)
    rw [Serial.eq_of_key_eq hx hy hpk.symm]
    exact hp y ht

/-- A valid route of the request is one of the active routes that the request is about. -/
theorem isActiveRoute_of_valid {rows : List PlanInboundRoute} {priority weight : ℤ}
    {x : PlanInboundRoute}
    (hvalid : (targetWrite req rows plan priority weight inbound).Valid cat rows)
    (hx : x.toRouteFields = (targetWrite req rows plan priority weight inbound).fields) :
    IsActiveRoute cat req plan x := by
  have ht : OnTarget req plan inbound x.toRouteFields := by
    rw [hx]
    exact onTarget_targetWrite
  have hclean := ((fullClean_eq_nil_iff cat _).mp hvalid).2.1
  rw [← hx] at hclean
  have hown : x.isActive = true ∧ (req.store ≠ none → x.store = req.store) := by
    have hfields : (targetWrite req rows plan priority weight inbound).fields.isActive = true ∧
        (req.store ≠ none →
          (targetWrite req rows plan priority weight inbound).fields.store = req.store) := by
      unfold targetWrite
      split
      · exact ⟨rfl, fun h => if_neg h⟩
      · exact ⟨rfl, fun _ => rfl⟩
    rw [← hx] at hfields
    exact hfields
  refine ⟨ht.1, hown.1, ht.2.2, ?_, ?_⟩
  · by_cases hstore : req.store = none
    · exact Or.inl hstore
    · exact Or.inr (Or.inl (hown.2 hstore))
  · by_cases hstore : req.store = none
    · exact Or.inl hstore
    · have hpanel := panel_of_storeErrors (storeErrors_of_cleanErrors hclean)
      rw [hown.2 hstore] at hpanel
      exact Or.inr (hpanel hstore)

/-! ## All routes of a plan -/

/-- The routes that are stored, then the routes that are deactivated; or that nothing is done. -/
structure Change where
  writes : List RouteWrite := []
  retires : List PlanInboundRoute := []
  skips : ℕ := 0

namespace Change

variable (ch : Change)

def creates : ℕ := ch.writes.countP (·.self = none)

def updates : ℕ := ch.writes.countP (·.self ≠ none)

def Valid (cat : Catalog) (rows : List PlanInboundRoute) : Prop :=
  ∀ w ∈ ch.writes, w.Valid cat rows

def Retirable (cat : Catalog) : Prop := ∀ r ∈ ch.retires, RetiresCleanly cat r.toRouteFields

end Change

section PlanChange

variable (cat req) (rows : List PlanInboundRoute) (plan)

def bundleChange (priority weight : ℤ) : Change where
  writes := (bundleInbounds req).zipIdx.map fun i =>
    targetWrite req rows plan (priority + i.2) weight i.1
  retires := (activeRoutes cat req rows plan).filter fun r => r.inbound ∉ bundleInbounds req

def singleChange (inbound : ℕ) (priority weight : ℤ) : Change :=
  let active := activeRoutes cat req rows plan
  let same := sameInboundRoute req rows plan inbound
  match req.strategy, active, same with
  | .skipExisting, _ :: _, _ => { skips := 1 }
  | .addNew, _, some _ => { skips := 1 }
  | .updateExisting, r :: _, _ =>
      { writes := [⟨some r.pk, updatedRoute req r.toRouteFields inbound priority weight⟩] }
  | .replaceActive, _, some r =>
      { writes := [targetWrite req rows plan priority weight inbound]
        retires := active.filter (·.pk ≠ r.pk) }
  | .replaceActive, _, none =>
      { writes := [targetWrite req rows plan priority weight inbound]
        retires := active }
  | _, _, _ => { writes := [⟨none, newRoute req plan inbound priority weight⟩] }

/-- What a request with valid inputs changes among the routes of a plan. -/
def planChange : Change :=
  if ¬ PlanAccepts cat req plan then { skips := 1 }
  else if req.multiInboundBundle then
    bundleChange cat req plan rows (req.priority.getD 0) (req.weight.getD 0)
  else singleChange cat req plan rows (req.inbound.getD 0) (req.priority.getD 0) (req.weight.getD 0)

end PlanChange

/-- A bundle uses the route again that leads to the inbound, whether it is active or not. -/
theorem orElse_sameInboundRoute {active : List PlanInboundRoute}
    (h : ∀ r ∈ active, r.inbound = inbound → r ∈ db.routes.rows ∧ r.plan = plan ∧
      r.operator = req.operator) :
    ((active.find? (·.inbound = inbound)).orElse fun _ =>
      sameInboundRoute req db.routes.rows plan inbound) =
        sameInboundRoute req db.routes.rows plan inbound := by
  cases hfind : active.find? (·.inbound = inbound) with
  | none => rfl
  | some r =>
      have hin : r.inbound = inbound := by simpa using List.find?_some hfind
      have hr := h r (List.mem_of_find?_eq_some hfind) hin
      rw [sameInboundRoute_of_mem hr.1 ⟨hr.2.1, hin, hr.2.2⟩]
      rfl

theorem mem_activeRoutes {rows : List PlanInboundRoute} {r : PlanInboundRoute} :
    r ∈ activeRoutes cat req rows plan ↔ r ∈ rows ∧ IsActiveRoute cat req plan r := by
  rw [activeRoutes, List.mem_mergeSort, List.mem_filter, decide_eq_true_eq]

theorem activeRoutes_nodup : (activeRoutes cat req db.routes.rows plan).Nodup := by
  rw [activeRoutes, (List.mergeSort_perm _ _).nodup_iff]
  exact (List.Nodup.of_map _ db.routes.keys_nodup).filter _

end Qasedak.PlanRoutes
