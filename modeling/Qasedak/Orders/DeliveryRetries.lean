import Qasedak.Foundation.Run
import Qasedak.Orders.ServiceFrames
import Qasedak.Orders.TopUp

/-! The inventory that a delivery draws over all its attempts: a source takes its quantity at
once and then keeps it, and a strict configuration completes with every required source. -/

namespace Qasedak.Orders

open Foundation Store Panels

/-- The active allocations of an order that were made for a source. -/
def sourceAllocations (db : Db) (order source : ℕ) : List ConfigAllocation :=
  db.allocations.rows.filter fun a =>
    a.order = some order ∧ a.deliverySource = some source ∧ a.isActive

/-- What a source takes for an order: `int(source.quantity or 1)`. -/
def DeliverySource.units (source : DeliverySource) : ℕ := max source.quantity 1

variable {platform : Platform} {now : Instant} {actor : Option ℕ} {k : ℕ} {o : Order}
  {config : DeliveryConfig} {source : DeliverySource} {sources : List DeliverySource} {s : Shop}

/-! ## One source -/

/-- Every source has what it had, or its whole quantity. -/
structure Draws (k : ℕ) (db db' : Db) : Prop where
  sources : db'.deliverySources = db.deliverySources
  units : ∀ source ∈ db.deliverySources.rows,
    (sourceAllocations db' k source.pk).length = (sourceAllocations db k source.pk).length ∨
      (sourceAllocations db k source.pk).length < DeliverySource.units source ∧
        (sourceAllocations db' k source.pk).length = DeliverySource.units source

namespace Draws

variable {db db' db'' : Db}

theorem refl (k : ℕ) (db : Db) : Draws k db db := ⟨rfl, fun _ _ => .inl rfl⟩

theorem trans (h : Draws k db db') (h' : Draws k db' db'') : Draws k db db'' where
  sources := h'.sources.trans h.sources
  units source hsource := by
    have hfirst := h.units source hsource
    have hsecond := h'.units source (h.sources ▸ hsource)
    omega

/-- A source keeps at least what it had. -/
theorem le (h : Draws k db db') (hsource : source ∈ db.deliverySources.rows) :
    (sourceAllocations db k source.pk).length ≤ (sourceAllocations db' k source.pk).length := by
  have hunits := h.units source hsource
  omega

end Draws

/-- Every source has what it had. -/
structure SameUnits (k : ℕ) (db db' : Db) : Prop where
  sources : db'.deliverySources = db.deliverySources
  units : ∀ n, (sourceAllocations db' k n).length = (sourceAllocations db k n).length

theorem SameUnits.draws {db db' : Db} (h : SameUnits k db db') : Draws k db db' :=
  ⟨h.sources, fun source _ => .inl (h.units source.pk)⟩

theorem SameUnits.of_withoutServices {db db' : Db}
    (h : db'.withoutServices = db.withoutServices) : SameUnits k db db' := by
  rw [eq_of_withoutServices h]
  exact ⟨rfl, fun _ => rfl⟩

theorem SameUnits.trans {db db' db'' : Db} (h : SameUnits k db db') (h' : SameUnits k db' db'') :
    SameUnits k db db'' :=
  ⟨h'.sources.trans h.sources, fun n => (h'.units n).trans (h.units n)⟩

/-- The units that a source takes are labelled with it, and the other sources have theirs. -/
theorem TopsUp.sourceAllocations {db db' : Db} {p : InventoryPool} {missing n : ℕ}
    {mode : AllocationMode} {added : List ConfigAllocation}
    (h : TopsUp db db' now p missing mode none (some k) (labelSource n) added) (m : ℕ) :
    (sourceAllocations db' k m).length =
      (sourceAllocations db k m).length + if m = n then missing else 0 := by
  unfold Orders.sourceAllocations
  rw [h.allocates.rows, List.filter_append, List.length_append]
  have hadded : (added.map (labelSource n)).filter (fun a =>
      a.order = some k ∧ a.deliverySource = some m ∧ a.isActive) =
        if m = n then added.map (labelSource n) else [] := by
    by_cases hm : m = n
    · rw [if_pos hm]
      refine List.filter_eq_self.mpr fun r hr => ?_
      obtain ⟨a, ha, rfl⟩ := List.mem_map.mp hr
      have hnew := h.new.new a ha
      simp [labelSource, hnew.order, hnew.active, hm]
    · rw [if_neg hm]
      refine List.filter_eq_nil_iff.mpr fun r hr => ?_
      obtain ⟨a, ha, rfl⟩ := List.mem_map.mp hr
      simp [labelSource, Ne.symm hm]
  rw [hadded]
  by_cases hm : m = n <;> simp [hm, h.length]

/-- A source that delivers has all its units; one that fails took nothing. -/
theorem nodup_activeDeliverySources (db : Db) (c : ℕ) :
    ((activeDeliverySources db c).map (·.pk)).Nodup := by
  have hperm := (List.perm_insertionSort (fun s t : DeliverySource =>
    s.priority < t.priority ∨ s.priority = t.priority ∧ s.pk ≤ t.pk)
    (db.deliverySources.rows.filter fun s => s.deliveryConfig = c ∧ s.active)).map (·.pk)
  rw [activeDeliverySources, hperm.nodup_iff]
  exact db.deliverySources.keys_nodup.sublist (List.filter_sublist.map _)

theorem wp_executeInventorySource (hsource : source ∈ s.db.deliverySources.rows) :
    Prog.wp (executeInventorySource now o source)
      (fun r s' => Draws o.pk s.db s'.db ∧ r.required = source.required ∧
        (r.ok = true → DeliverySource.units source ≤
          (sourceAllocations s'.db o.pk source.pk).length))
      (fun _ _ => False) s := by
  have hmissing : missingUnits s.db (fun a => a.order = some o.pk ∧
      a.deliverySource = some source.pk ∧ a.isActive) source.quantity =
        DeliverySource.units source - (sourceAllocations s.db o.pk source.pk).length := rfl
  rw [executeInventorySource, Prog.wp_bind, Prog.wp_caught, Prog.wp_bind]
  refine Prog.wp_mono wp_topUpAllocations ?_ ?_
  · rw [hmissing]
    rintro rows s' (⟨hzero, rfl, -⟩ | ⟨p, added, hpos, -, -, htops, -, -⟩)
    · rw [Prog.wp_bind, Prog.wp_readDb]
      refine ⟨Draws.refl o.pk _, rfl, fun _ => ?_⟩
      omega
    · have hunits := htops.sourceAllocations
      rw [Prog.wp_bind, Prog.wp_readDb]
      refine ⟨⟨?_, ?_⟩, rfl, fun _ => ?_⟩
      · rw [htops.allocates.frame]
        rfl
      · intro t ht
        rw [hunits t.pk]
        by_cases hpk : t.pk = source.pk
        · obtain rfl : t = source :=
            List.inj_on_of_nodup_map s.db.deliverySources.keys_nodup ht hsource hpk
          rw [if_pos rfl]
          omega
        · rw [if_neg hpk]
          exact .inl rfl
      · rw [hunits source.pk, if_pos rfl]
        omega
  · rintro h s' ⟨hraised, hsame, _⟩
    obtain ⟨e, rfl⟩ := hraised
    subst hsame
    exact ⟨Draws.refl o.pk _, rfl, fun hok => absurd hok (by simp [sourceResult])⟩

/-! ## All sources -/

/-- A result stands for the source; where it is in order, the source has all its units. -/
def Served (db : Db) (k : ℕ) (results : List SourceResult) (source : DeliverySource) : Prop :=
  ∃ r ∈ results, r.required = source.required ∧ (r.ok = true →
    DeliverySource.units source ≤ (sourceAllocations db k source.pk).length)

theorem Served.draws {db db' : Db} {results results' : List SourceResult}
    (h : Served db k results source) (hdraws : Draws k db db')
    (hsource : source ∈ db.deliverySources.rows) (hresults : results ⊆ results') :
    Served db' k results' source := by
  obtain ⟨r, hr, hrequired, hok⟩ := h
  exact ⟨r, hresults hr, hrequired, fun h => (hok h).trans (hdraws.le hsource)⟩

theorem wp_executeInventorySources {results : List SourceResult}
    (hsources : sources ⊆ s.db.deliverySources.rows) :
    Prog.wp (Prog.forEach sources results fun source results => do
        let result ← executeInventorySource now o source
        return results ++ [result])
      (fun rs s' => Draws o.pk s.db s'.db ∧ results ⊆ rs ∧
        ∀ source ∈ sources, Served s'.db o.pk rs source)
      (fun _ _ => True) s := by
  induction sources generalizing s results with
  | nil => exact ⟨Draws.refl o.pk _, List.Subset.refl _, by simp⟩
  | cons source sources ih =>
      have hsource := hsources List.mem_cons_self
      rw [Prog.forEach, Prog.wp_bind, Prog.wp_bind]
      refine Prog.wp_mono (wp_executeInventorySource hsource) ?_ fun _ _ h => h.elim
      rintro r s₁ ⟨hdraws, hrequired, hok⟩
      rw [Prog.wp_pure]
      have hrest : sources ⊆ s₁.db.deliverySources.rows := by
        rw [hdraws.sources]
        exact fun t ht => hsources (List.mem_cons_of_mem source ht)
      refine Prog.wp_mono (ih hrest) ?_ fun _ _ _ => trivial
      rintro rs s₂ ⟨hdraws', hresults, hserved⟩
      have hone : Served s₁.db o.pk (results ++ [r]) source := ⟨r, by simp, hrequired, hok⟩
      refine ⟨hdraws.trans hdraws', fun x hx => hresults (List.mem_append_left _ hx), ?_⟩
      intro t ht
      rcases List.mem_cons.mp ht with rfl | ht
      · exact hone.draws hdraws' (hdraws.sources ▸ hsource) hresults
      · exact hserved t ht

theorem wp_executeSources {dynamicSubscription : Bool}
    (hsources : sources ⊆ s.db.deliverySources.rows) :
    Prog.wp (executeSources platform now o dynamicSubscription sources)
      (fun rs s' => Draws o.pk s.db s'.db ∧
        ∀ source ∈ sources, source.sourceType = .inventoryPool → Served s'.db o.pk rs source)
      (fun _ _ => True) s := by
  have hpanels : Prog.Keeps Db.withoutServices (Prog.forEach
      (groupByPanel s.db (sources.filter (·.sourceType = .panelInbound))) []
        (executePanelGroup platform now o dynamicSubscription)) :=
    Prog.Keeps.forEach fun _ _ => keeps_executePanelGroup
  rw [executeSources, Prog.wp_bind, Prog.wp_readDb, Prog.wp_bind]
  refine Prog.wp_mono (hpanels s) ?_ fun _ _ _ => trivial
  intro results s₁ hkept
  have hdraws : Draws o.pk s.db s₁.db := (SameUnits.of_withoutServices hkept.view).draws
  have hinventory : sources.filter (·.sourceType = .inventoryPool) ⊆
      s₁.db.deliverySources.rows := by
    rw [hdraws.sources]
    exact fun t ht => hsources (List.mem_filter.mp ht).1
  refine Prog.wp_mono (wp_executeInventorySources hinventory) ?_ fun _ _ _ => trivial
  rintro rs s₂ ⟨hdraws', _, hserved⟩
  refine ⟨hdraws.trans hdraws', fun t ht htype => hserved t ?_⟩
  exact List.mem_filter.mpr ⟨ht, decide_eq_true htype⟩

theorem wp_executeConfiguredSources {dynamicSubscription : Bool}
    (hsources : sources ⊆ s.db.deliverySources.rows) :
    Prog.wp (executeConfiguredSources platform now o dynamicSubscription sources)
      (fun rs s' => Draws o.pk s.db s'.db ∧ ∀ source ∈ sources, source.isFallback = false →
        source.sourceType = .inventoryPool → Served s'.db o.pk rs source)
      (fun _ _ => True) s := by
  have hfilter : ∀ keep : DeliverySource → Bool, sources.filter keep ⊆
      s.db.deliverySources.rows := fun _ t ht => hsources (List.mem_filter.mp ht).1
  rw [executeConfiguredSources, Prog.wp_bind]
  refine Prog.wp_mono (wp_executeSources (hfilter _)) ?_ fun _ _ _ => trivial
  rintro results s₁ ⟨hdraws, hserved⟩
  have hprimary : ∀ source ∈ sources, source.isFallback = false →
      source.sourceType = .inventoryPool → Served s₁.db o.pk results source := by
    intro t ht hfallback htype
    exact hserved t (List.mem_filter.mpr ⟨ht, by simp [hfallback]⟩) htype
  rw [Prog.wp_ite]
  refine ⟨fun _ => ?_, fun _ => ⟨hdraws, hprimary⟩⟩
  rw [Prog.wp_bind]
  have hfallbacks : sources.filter (·.isFallback) ⊆ s₁.db.deliverySources.rows :=
    hdraws.sources ▸ hfilter _
  refine Prog.wp_mono (wp_executeSources hfallbacks) ?_ fun _ _ _ => trivial
  rintro more s₂ ⟨hdraws', _⟩
  refine ⟨hdraws.trans hdraws', fun t ht hfallback htype => ?_⟩
  exact (hprimary t ht hfallback htype).draws hdraws' (hdraws.sources ▸ hsources ht)
    (List.subset_append_left _ _)

/-! ## The order -/

/-- The database without all that sources write to. -/
def Db.withoutDeliveries (db : Db) : Db := db.withoutServices.withoutStock

theorem keeps_executeInventorySource :
    Prog.Keeps Db.withoutStock (executeInventorySource now o source) := by
  refine Prog.Keeps.bind (Prog.Keeps.caught ?_) fun _ => Prog.keeps_pure _
  exact keeps_topUpAllocations.bind fun _ => (Prog.keeps_readDb _).bind fun _ => Prog.keeps_pure _

theorem keeps_executeSources {dynamicSubscription : Bool} :
    Prog.Keeps Db.withoutDeliveries
      (executeSources platform now o dynamicSubscription sources) := by
  have hpanel : ∀ group results, Prog.Keeps Db.withoutDeliveries
      (executePanelGroup platform now o dynamicSubscription group results) := fun _ _ =>
    keeps_executePanelGroup.of_view fun _ _ h => congrArg Db.withoutStock h
  have hinventory : ∀ source, Prog.Keeps Db.withoutDeliveries
      (executeInventorySource now o source) := fun _ =>
    keeps_executeInventorySource.of_view fun _ _ h => congrArg Db.withoutServices h
  refine (Prog.keeps_readDb _).bind fun _ => Prog.Keeps.bind (Prog.Keeps.forEach hpanel) fun _ => ?_
  exact Prog.Keeps.forEach fun t _ => (hinventory t).bind fun _ => Prog.keeps_pure _

theorem keeps_executeConfiguredSources {dynamicSubscription : Bool} :
    Prog.Keeps Db.withoutDeliveries
      (executeConfiguredSources platform now o dynamicSubscription sources) := by
  refine keeps_executeSources.bind fun _ => Prog.Keeps.ite ?_ (Prog.keeps_pure _)
  exact keeps_executeSources.bind fun _ => Prog.keeps_pure _

theorem orders_of_withoutDeliveries {db db' : Db}
    (h : db'.withoutDeliveries = db.withoutDeliveries) : db'.orders = db.orders := by
  have horders : db'.withoutDeliveries.orders = db.withoutDeliveries.orders := by rw [h]
  exact horders

def Completed (k : ℕ) (db : Db) : Prop := ∃ o, db.orders.get? k = some o ∧ o.status = .completed

theorem Completed.of_setOrder {db : Db} {f : Order → Order} {hf : ∀ o, (f o).pk = o.pk}
    (h : Completed k (db.setOrder k f hf))
    (hstatus : ∀ o, (f o).status = .completed → o.status = .completed) : Completed k db := by
  obtain ⟨o', ho', hcompleted⟩ := h
  rw [Db.setOrder, Table.get?_modify] at ho'
  obtain ⟨o, ho, rfl⟩ := Option.map_eq_some_iff.mp ho'
  rw [if_pos rfl] at hcompleted
  exact ⟨o, ho, hstatus o hcompleted⟩

theorem save_completed {f : Order → Order} (h : ∀ o, (f o).status = .completed → o.status = .completed)
    (o : Order) : ((f o).save now).status = .completed → o.status = .completed := by
  rw [Order.save_status]
  split
  · exact fun hpending => absurd hpending (by simp)
  · exact h o

theorem SameUnits.setOrder {db : Db} {f : Order → Order} (hf : ∀ o, (f o).pk = o.pk) :
    SameUnits k db (db.setOrder k f hf) := ⟨rfl, fun _ => rfl⟩

theorem sourceAllocations_setAllocationCups (db : Db) (links : List DeliveredLink)
    (order cup n : ℕ) : (sourceAllocations (db.setAllocationCups links order cup) k n).length =
      (sourceAllocations db k n).length := by
  have hsame : ∀ a : ConfigAllocation, (setAllocationCup links order cup a).order = a.order ∧
      (setAllocationCup links order cup a).deliverySource = a.deliverySource ∧
        (setAllocationCup links order cup a).isActive = a.isActive := by
    intro a
    rw [setAllocationCup]
    split <;> exact ⟨rfl, rfl, rfl⟩
  have hrows : (db.setAllocationCups links order cup).allocations.rows =
      db.allocations.rows.map (setAllocationCup links order cup) := rfl
  rw [sourceAllocations, sourceAllocations, hrows, List.filter_map, List.length_map]
  congr 1
  refine List.filter_congr fun a _ => ?_
  obtain ⟨horder, hsource, hactive⟩ := hsame a
  simp only [Function.comp, horder, hsource, hactive]

/-- The cup of the order takes over the allocations, and draws none. -/
theorem wp_customerLinks {mode : DeliveryMode} {links : List DeliveredLink} :
    Prog.wp (customerLinks platform now k mode links) (fun _ s' => SameUnits k s.db s'.db)
      (fun _ _ => False) s := by
  have hfill : ∀ (s₁ : Shop) (cup : ℕ) (e : Instant), SameUnits k s.db s₁.db →
      SameUnits k s.db ((s₁.db.setCup cup (fillCup e links) (fillCup_pk e links)).setAllocationCups
        links k cup) := by
    intro s₁ cup e hsame
    refine hsame.trans ⟨rfl, fun n => ?_⟩
    rw [sourceAllocations_setAllocationCups]
    rfl
  rw [customerLinks, Prog.wp_ite]
  refine ⟨fun _ => ?_, fun _ => ⟨rfl, fun _ => rfl⟩⟩
  rw [Prog.wp_bind, ensureSubscriptionCup, Prog.wp_bind, ensureCup, Prog.wp_bind, Prog.wp_readDb]
  dsimp only [id]
  cases orderCup s.db k with
  | some cup => exact hfill s cup.pk _ ⟨rfl, fun _ => rfl⟩
  | none => exact hfill { s with db := s.db.addCup k } s.db.cups.nextKey _ ⟨rfl, fun _ => rfl⟩

/-- The end draws nothing; under a strict policy it completes only with every required result
in order. -/
theorem wp_finishPlanDelivery {results : List SourceResult} :
    Prog.wp (finishPlanDelivery platform now actor k config results)
      (fun _ s' => SameUnits k s.db s'.db ∧ (Completed k s'.db → Completed k s.db ∨
        (config.failurePolicy = .strict → ∀ r ∈ results, r.required = true → r.ok = true)))
      (fun _ _ => False) s := by
  rw [finishPlanDelivery, Prog.wp_ite]
  refine ⟨fun _ => ?_, fun hfine => ?_⟩
  · rw [Prog.wp_bind, saveOrder, Prog.wp_writeDb]
    refine ⟨SameUnits.setOrder _, fun hcompleted => .inl (hcompleted.of_setOrder ?_)⟩
    refine save_completed fun o hstatus => ?_
    by_contra hnot
    simp [finishFailedDelivery, hnot] at hstatus
  · rw [Prog.wp_bind]
    refine Prog.wp_mono wp_customerLinks ?_ fun _ _ h => h
    intro customer s₁ hsame
    rw [Prog.wp_bind, Prog.wp_readDb, Prog.wp_bind, saveOrder, Prog.wp_writeDb]
    refine ⟨hsame.trans (SameUnits.setOrder _), fun _ => .inr fun hstrict r hr hrequired => ?_⟩
    by_contra hnot
    refine hfine (.inr ⟨hstrict, List.any_eq_true.mpr ⟨r, hr, ?_⟩⟩)
    simpa [hrequired] using hnot

/-! ## One attempt -/

/-- A source has nothing or its whole quantity. A completed order of a strict configuration
has all of its required sources, apart from the fallbacks. -/
structure Stocked (k : ℕ) (config : DeliveryConfig) (db : Db) : Prop where
  units : ∀ source ∈ db.deliverySources.rows, (sourceAllocations db k source.pk).length = 0 ∨
    (sourceAllocations db k source.pk).length = DeliverySource.units source
  complete : Completed k db → config.failurePolicy = .strict →
    ∀ source ∈ activeDeliverySources db config.pk, source.sourceType = .inventoryPool →
      source.required = true → source.isFallback = false →
        (sourceAllocations db k source.pk).length = DeliverySource.units source

theorem mem_activeDeliverySources {db : Db} {c : ℕ} (h : source ∈ activeDeliverySources db c) :
    source ∈ db.deliverySources.rows := by
  rw [activeDeliverySources] at h
  exact (List.mem_filter.mp ((List.perm_insertionSort _ _).mem_iff.mp h)).1

theorem activeDeliverySources_eq {db db' : Db} (h : db'.deliverySources = db.deliverySources)
    (c : ℕ) : activeDeliverySources db' c = activeDeliverySources db c := by
  rw [activeDeliverySources, activeDeliverySources, h]

theorem Stocked.draws {db db' : Db} (h : Stocked k config db) (hdraws : Draws k db db')
    (hcomplete : Completed k db' → Completed k db ∨ (config.failurePolicy = .strict →
      ∀ source ∈ activeDeliverySources db config.pk, source.sourceType = .inventoryPool →
        source.required = true → source.isFallback = false →
          DeliverySource.units source ≤ (sourceAllocations db' k source.pk).length)) :
    Stocked k config db' where
  units source hsource := by
    rw [hdraws.sources] at hsource
    have hbefore := h.units source hsource
    have hafter := hdraws.units source hsource
    omega
  complete hcompleted hstrict source hsource htype hrequired hfallback := by
    rw [activeDeliverySources_eq hdraws.sources] at hsource
    have hrow := mem_activeDeliverySources hsource
    have hbefore := h.units source hrow
    have hafter := hdraws.units source hrow
    rcases hcomplete hcompleted with hold | hnew
    · have := h.complete hold hstrict source hsource htype hrequired hfallback
      omega
    · have := hnew hstrict source hsource htype hrequired hfallback
      omega

/-- An attempt keeps it so, however it ends. -/
theorem Stocked.wp_executePlanDelivery (h : Stocked k config s.db) :
    Prog.wp (executePlanDelivery platform now actor k config)
      (fun _ s' => Stocked k config s'.db) (fun _ s' => Stocked k config s'.db) s := by
  rw [executePlanDelivery, Prog.wp_atomic, Prog.wp_bind, Prog.wp_readDb]
  dsimp only [id]
  rw [Prog.wp_ite]
  refine ⟨fun _ => ?_, fun _ => ?_⟩
  · rw [Prog.wp_bind, saveOrder, Prog.wp_writeDb]
    refine h.draws (SameUnits.setOrder _).draws fun hcompleted => .inl (hcompleted.of_setOrder ?_)
    refine save_completed fun o hstatus => ?_
    by_contra hnot
    simp [finishFailedDelivery, hnot] at hstatus
  · rw [Prog.wp_bind, saveOrder, Prog.wp_writeDb, Prog.wp_bind, getOrder, Prog.wp_bind,
      Prog.wp_readDb, Prog.wp_orRaise]
    dsimp only
    set marked := s.db.setOrder k (fun o => (markOrderProvisioning o).save now) _ with hmarked
    cases ho : marked.orders.get? k with
    | none => exact h
    | some o =>
        dsimp only
        obtain rfl : o.pk = k := (Table.mem_of_get? ho).2
        have hrows : activeDeliverySources s.db config.pk ⊆ marked.deliverySources.rows :=
          fun t ht => mem_activeDeliverySources ht
        rw [Prog.wp_bind]
        refine Prog.wp_mono (keeps_executeConfiguredSources.wp_and
          (wp_executeConfiguredSources (s := { s with db := marked }) hrows)) ?_ fun _ _ _ => h
        rintro results s₁ ⟨⟨hdraws, hserved⟩, hkept⟩
        refine Prog.wp_mono wp_finishPlanDelivery ?_ fun _ _ h => h.elim
        rintro _ s₂ ⟨hsame, hcomplete⟩
        have hdraws' : Draws o.pk s₁.db s₂.db := hsame.draws
        have hstart : Draws o.pk s.db marked := (SameUnits.setOrder _).draws
        refine h.draws (hstart.trans (hdraws.trans hdraws')) fun hcompleted => ?_
        rcases hcomplete hcompleted with hold | hall
        · left
          have hbefore : Completed o.pk marked := by
            rw [Completed, ← orders_of_withoutDeliveries hkept.view]
            exact hold
          refine hbefore.of_setOrder (save_completed fun o hstatus => ?_)
          by_contra hnot
          simp [markOrderProvisioning, markProvisioning, hnot] at hstatus
        · right
          intro hstrict t ht htype hrequired hfallback
          obtain ⟨r, hr, hrequired', hok⟩ := hserved t ht hfallback htype
          have hunits := hok (hall hstrict r hr (hrequired'.trans hrequired))
          have hrow : t ∈ s₁.db.deliverySources.rows := hdraws.sources ▸ hrows ht
          exact hunits.trans (hdraws'.le hrow)

/-! ## All attempts -/

/-- An attempt to deliver the order, or what others do to the shop and its panels meanwhile. -/
inductive DeliveryOp
  | attempt (now : Instant) (actor : Option ℕ) (signals : List Signal)
  | meanwhile (db : Db) (remote : Remote)

def deliveryStep (platform : Platform) (config : DeliveryConfig) (k : ℕ) (s : Shop) :
    DeliveryOp → Shop
  | .attempt now actor signals =>
      (executePlanDelivery platform now actor k config { s with signals := signals }).2
  | .meanwhile db remote => { s with db := db, remote := remote }

/-- Others leave the sources, the order and its allocations alone. -/
structure LeftAlone (k : ℕ) (db db' : Db) : Prop where
  sources : db'.deliverySources = db.deliverySources
  order : db'.orders.get? k = db.orders.get? k
  allocations : ∀ n, sourceAllocations db' k n = sourceAllocations db k n

def ApartFrom (k : ℕ) (s : Shop) : DeliveryOp → Prop
  | .attempt _ _ _ => True
  | .meanwhile db _ => LeftAlone k s.db db

theorem Stocked.leftAlone {db db' : Db} (h : Stocked k config db) (hdb : LeftAlone k db db') :
    Stocked k config db' := by
  have hdraws : Draws k db db' :=
    ⟨hdb.sources, fun source _ => .inl (by rw [hdb.allocations])⟩
  refine h.draws hdraws fun hcompleted => .inl ?_
  rw [Completed, hdb.order] at hcompleted
  exact hcompleted

theorem stocked_deliveryStep {op : DeliveryOp} (h : Stocked k config s.db)
    (hop : ApartFrom k s op) : Stocked k config (deliveryStep platform config k s op).db := by
  cases op with
  | attempt now actor signals =>
      exact Prog.snd_of_wp (P := fun s' : Shop => Stocked k config s'.db)
        (Stocked.wp_executePlanDelivery (s := { s with signals := signals }) h)
  | meanwhile db remote => exact h.leftAlone hop

/-- Over all attempts a source draws nothing or its quantity, and a completed order of a
strict configuration has the quantity of every required source. -/
theorem sources_stocked_over_attempts {ops : List DeliveryOp}
    (hfresh : ∀ n, sourceAllocations s.db k n = []) (hopen : ¬ Completed k s.db)
    (hops : Guarded (deliveryStep platform config k) (ApartFrom k) s ops) :
    Stocked k config (run (deliveryStep platform config k) s ops).db := by
  have hstart : Stocked k config s.db :=
    { units := fun source _ => .inl (by rw [hfresh, List.length_nil])
      complete := fun hcompleted => absurd hcompleted hopen }
  exact @Guarded.invariant Shop DeliveryOp (deliveryStep platform config k) (ApartFrom k)
    (fun s => Stocked k config s.db) (fun _ _ hs hop => stocked_deliveryStep hs hop) s ops hops
    hstart

/-- An order of a plan that delivers from two pools; the second source may be missing. -/
def pooledOrder : Shop :=
  let stock := (sampleStock .exclusive).db
  { remote := {}
    db :=
      { stock with
        orders := Table.empty.put { pk := 7, plan := 3 }
        deliverySources := (Table.empty.put
            { pk := 21, deliveryConfig := 5, sourceType := .inventoryPool, inventoryPool := some 1 }).put
          { pk := 22, deliveryConfig := 5, sourceType := .inventoryPool, inventoryPool := some 2
            required := false } } }

/-- Two attempts, the first of which dies. -/
theorem sources_stocked_over_two_attempts :
    Stocked 7 { pk := 5, plan := 3, deliveryMode := .directLinks }
      (run (deliveryStep (.ofTables [] []) { pk := 5, plan := 3, deliveryMode := .directLinks } 7)
        pooledOrder [.attempt 0 none [.crashBefore], .attempt 1 none []]).db := by
  refine sources_stocked_over_attempts (fun n => rfl) ?_ ⟨trivial, trivial, trivial⟩
  rintro ⟨o, ho, hcompleted⟩
  obtain rfl := Option.some.inj ho
  cases hcompleted

/-- The order completes although its second source, which is optional, delivers nothing. -/
theorem optional_source_missing :
    let db := (run (deliveryStep (.ofTables [] [])
      { pk := 5, plan := 3, deliveryMode := .directLinks } 7) pooledOrder [.attempt 0 none []]).db
    (db.orders.get? 7).map (·.status) = some .completed ∧
      ∃ source ∈ activeDeliverySources db 5, source.sourceType = .inventoryPool ∧
        source.quantity = 1 ∧ (sourceAllocations db 7 source.pk).length = 0 := by
  decide +kernel

end Qasedak.Orders
