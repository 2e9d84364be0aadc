import Qasedak.Orders.Readiness
import Qasedak.Orders.StockFigures

/-! A delivery from a configuration that is ready. Readiness looks at each source alone; the
required sources get their units exactly if the figures last for the sources in turn. -/

namespace Qasedak.Orders

open Foundation Store Panels

/-! ## Figures -/

/-- The figure of an active pool; none is left of a pool that cannot be used. -/
def stockFigure (db : Db) (now : Instant) (k : ℕ) : Option ℕ :=
  match db.pools.get? k with
  | some p => if p.isActive then availableCapacity db now p else some 0
  | none => some 0

/-- The figures once so many units were drawn from a pool. -/
def drawFrom (figures : ℕ → Option ℕ) (k quantity : ℕ) : ℕ → Option ℕ :=
  Function.update figures k ((figures k).map (· - quantity))

/-- What a source has still to draw for the order. -/
def missingFor (db : Db) (k : ℕ) (source : DeliverySource) : ℕ :=
  DeliverySource.units source - (sourceAllocations db k source.pk).length

/-- The sources draw in turn what is missing, where the figure of their pool allows it; none
that is required goes short. -/
def Suffices (missing : DeliverySource → ℕ) (figures : ℕ → Option ℕ) :
    List DeliverySource → Prop
  | [] => True
  | source :: sources =>
      if missing source = 0 then Suffices missing figures sources
      else match source.inventoryPool with
        | none => source.required = false ∧ Suffices missing figures sources
        | some k =>
            if (figures k).all (missing source ≤ ·) then
              Suffices missing (drawFrom figures k (missing source)) sources
            else source.required = false ∧ Suffices missing figures sources

/-- The order has all units of the source. -/
def Satisfied (db : Db) (k : ℕ) (source : DeliverySource) : Prop :=
  DeliverySource.units source ≤ (sourceAllocations db k source.pk).length

variable {platform : Platform} {now : Instant} {actor : Option ℕ} {k : ℕ} {o : Order}
  {config : DeliveryConfig} {source : DeliverySource} {sources : List DeliverySource} {s : Shop}
  {db db' : Db}

theorem suffices_congr {missing missing' : DeliverySource → ℕ} {figures : ℕ → Option ℕ}
    (h : ∀ source ∈ sources, missing source = missing' source) :
    Suffices missing figures sources ↔ Suffices missing' figures sources := by
  induction sources generalizing figures with
  | nil => exact Iff.rfl
  | cons source sources ih =>
      have hrest := fun f => @ih f fun t ht => h t (List.mem_cons_of_mem source ht)
      rw [Suffices, Suffices, h source List.mem_cons_self]
      cases source.inventoryPool with
      | none => simp only [hrest]
      | some k => simp only [hrest]

/-- A pool has so many units exactly if its figure says so. -/
theorem inStock_iff {quantity : ℕ} (hquantity : 0 < quantity) :
    InStock db now (some k) quantity none ↔
      (stockFigure db now k).all (quantity ≤ ·) = true := by
  rw [stockFigure]
  have hfind : ∀ p, (some k).bind db.pools.get? = some p ↔ db.pools.get? k = some p := fun _ =>
    Iff.rfl
  cases hp : db.pools.get? k with
  | none =>
      constructor
      · rintro ⟨p, hget, _⟩
        rw [hfind, hp] at hget
        cases hget
      · intro hall
        simp at hall
        omega
  | some p =>
      dsimp only
      cases hactive : p.isActive with
      | false =>
          constructor
          · rintro ⟨q, hget, hq, _⟩
            rw [hfind, hp] at hget
            obtain rfl := Option.some.inj hget
            rw [hactive] at hq
            cases hq
          · intro hall
            simp at hall
            omega
      | true =>
          rw [if_pos rfl, Option.all_eq_true]
          simp only [decide_eq_true_eq]
          have hslots := @length_slots_iff db now p quantity
          constructor
          · rintro ⟨q, hget, _, _, henough⟩ capacity hcapacity
            rw [hfind, hp] at hget
            obtain rfl := Option.some.inj hget
            exact hslots.mp henough capacity hcapacity
          · intro hall
            exact ⟨p, (hfind p).mpr hp, hactive, hquantity,
              hslots.mpr fun capacity hcapacity => hall capacity hcapacity⟩

/-- A draw changes the figure of its own pool. -/
theorem stockFigure_draw {p : InventoryPool} {quantity : ℕ} (hp : db.pools.get? k = some p)
    (hactive : p.isActive = true) (hpools : db'.pools = db.pools)
    (hrows : db'.assets.rows = db.assets.rows.map
      (assignSelected (takenAssets db now p quantity p.allocationMode)))
    (hquantity : quantity ≤ (slots db now p quantity p.allocationMode).length) :
    stockFigure db' now = drawFrom (stockFigure db now) k quantity := by
  funext j
  rw [drawFrom]
  by_cases hj : j = k
  · subst hj
    rw [Function.update_self, stockFigure, stockFigure, hpools, hp]
    dsimp only
    rw [if_pos hactive, if_pos hactive, availableCapacity_draw hrows hquantity]
  · rw [Function.update_of_ne hj, stockFigure, stockFigure, hpools]
    cases hother : db.pools.get? j with
    | none => rfl
    | some other =>
        have hne : other.pk ≠ p.pk := by
          rw [(Table.mem_of_get? hother).2, (Table.mem_of_get? hp).2]
          exact hj
        dsimp only
        rw [availableCapacity_other hrows hne]

/-! ## One source -/

/-- What a source does in its turn. -/
inductive Turn (k : ℕ) (now : Instant) (source : DeliverySource) (db db' : Db) : Prop
  | idle (hmissing : missingFor db k source = 0) (hsame : db' = db)
  | drawn {j : ℕ} (hmissing : 0 < missingFor db k source) (hpool : source.inventoryPool = some j)
      (hfits : (stockFigure db now j).all (missingFor db k source ≤ ·) = true)
      (hserved : Satisfied db' k source)
      (hfigures : stockFigure db' now = drawFrom (stockFigure db now) j (missingFor db k source))
  | short (hmissing : 0 < missingFor db k source)
      (hshort : ∀ j, source.inventoryPool = some j →
        (stockFigure db now j).all (missingFor db k source ≤ ·) = false) (hsame : db' = db)

/-- A source takes its turn and leaves the units of the others alone. -/
theorem wp_turn (hsource : source ∈ s.db.deliverySources.rows) :
    Prog.wp (executeInventorySource now o source)
      (fun _ s' => Turn o.pk now source s.db s'.db ∧
        s'.db.deliverySources = s.db.deliverySources ∧
          ∀ n, n ≠ source.pk → (sourceAllocations s'.db o.pk n).length =
            (sourceAllocations s.db o.pk n).length)
      (fun _ _ => False) s := by
  have hmissing : missingUnits s.db (fun a => a.order = some o.pk ∧
      a.deliverySource = some source.pk ∧ a.isActive) source.quantity =
        missingFor s.db o.pk source := rfl
  rw [executeInventorySource, Prog.wp_bind, Prog.wp_caught, Prog.wp_bind]
  refine Prog.wp_mono wp_topUpAllocations ?_ ?_
  · rw [hmissing]
    rintro rows s' (⟨hzero, rfl, -⟩ | ⟨p, added, hpos, hpool, hstock, htops, -, -⟩)
    · exact ⟨.idle hzero rfl, rfl, fun _ _ => rfl⟩
    · have hunits := htops.sourceAllocations
      obtain ⟨j, hj, hget⟩ := Option.bind_eq_some_iff.mp hpool
      obtain ⟨q, hq, hactive, -, henough⟩ := hstock
      obtain rfl : q = p := Option.some.inj (hq.symm.trans hpool)
      have hframe := htops.allocates.frame
      have hfits : (stockFigure s.db now j).all (missingFor s.db o.pk source ≤ ·) = true := by
        rw [← inStock_iff hpos]
        exact ⟨q, hget, hactive, hpos, henough⟩
      rw [Prog.wp_bind, Prog.wp_readDb]
      refine ⟨.drawn hpos hj hfits ?_ ?_, ?_, ?_⟩
      · rw [Satisfied, hunits source.pk, if_pos rfl, missingFor]
        omega
      · refine stockFigure_draw hget hactive ?_ ?_ henough
        · rw [hframe]
          rfl
        · rw [hframe]
          rfl
      · rw [hframe]
        rfl
      · intro n hn
        rw [hunits n, if_neg hn, Nat.add_zero]
  · rintro h s' ⟨hraised, hsame, hpos, hstock⟩
    obtain ⟨e, rfl⟩ := hraised
    subst hsame
    rw [hmissing] at hpos hstock
    refine ⟨.short hpos (fun j hj => ?_) rfl, rfl, fun _ _ => rfl⟩
    rw [Bool.eq_false_iff]
    intro hfits
    rw [hj] at hstock
    exact hstock ((inStock_iff hpos).mpr hfits)

/-- Through its turn a source is served as the figures say, and the others come after it. -/
theorem Turn.iff_suffices (h : Turn k now source db db') {rest : List DeliverySource}
    (hsame : ∀ t ∈ rest, (sourceAllocations db' k t.pk).length =
      (sourceAllocations db k t.pk).length) :
    ((source.required = true → Satisfied db' k source) ∧
        Suffices (missingFor db' k) (stockFigure db' now) rest) ↔
      Suffices (missingFor db k) (stockFigure db now) (source :: rest) := by
  have hmissing : ∀ figures, Suffices (missingFor db' k) figures rest ↔
      Suffices (missingFor db k) figures rest := fun figures =>
    suffices_congr fun t ht => by rw [missingFor, missingFor, hsame t ht]
  rw [hmissing, Suffices]
  cases h with
  | idle hzero hdb =>
      have hserved : Satisfied db' k source := by
        rw [missingFor] at hzero
        rw [Satisfied, hdb]
        omega
      rw [if_pos hzero, hdb]
      exact and_iff_right fun _ => hdb ▸ hserved
  | drawn hpos hpool hfits hserved hfigures =>
      rw [if_neg (by omega), hpool]
      dsimp only
      rw [if_pos hfits, hfigures]
      exact and_iff_right fun _ => hserved
  | short hpos hshort hdb =>
      have hunserved : ¬ Satisfied db' k source := by
        rw [missingFor] at hpos
        rw [Satisfied, hdb]
        omega
      have hrequired : (source.required = true → Satisfied db' k source) ↔
          source.required = false := by
        cases source.required with
        | true => simp [hunserved]
        | false => simp
      rw [if_neg (by omega), hrequired, hdb]
      cases hpool : source.inventoryPool with
      | none => exact Iff.rfl
      | some j =>
          dsimp only
          rw [if_neg (by simp [hshort j hpool])]

/-! ## All sources -/

/-- The units of all other sources are as before. -/
structure Leaves (k : ℕ) (sources : List DeliverySource) (db db' : Db) : Prop where
  rows : db'.deliverySources = db.deliverySources
  units : ∀ n, n ∉ sources.map (·.pk) →
    (sourceAllocations db' k n).length = (sourceAllocations db k n).length

theorem wp_inventorySources {results : List SourceResult}
    (hsources : sources ⊆ s.db.deliverySources.rows) (hnodup : (sources.map (·.pk)).Nodup) :
    Prog.wp (Prog.forEach sources results fun source results => do
        let result ← executeInventorySource now o source
        return results ++ [result])
      (fun _ s' => ((∀ source ∈ sources, source.required = true → Satisfied s'.db o.pk source) ↔
        Suffices (missingFor s.db o.pk) (stockFigure s.db now) sources) ∧
          Leaves o.pk sources s.db s'.db)
      (fun _ _ => False) s := by
  induction sources generalizing s results with
  | nil => exact ⟨by simp [Suffices], rfl, fun _ _ => rfl⟩
  | cons source sources ih =>
      rw [List.map_cons, List.nodup_cons] at hnodup
      obtain ⟨hfirst, hrest⟩ := hnodup
      rw [Prog.forEach, Prog.wp_bind, Prog.wp_bind]
      refine Prog.wp_mono (wp_turn (hsources List.mem_cons_self)) ?_ fun _ _ h => h
      rintro r s₁ ⟨hturn, hrows, hothers⟩
      rw [Prog.wp_pure]
      have hsub : sources ⊆ s₁.db.deliverySources.rows := by
        rw [hrows]
        exact fun t ht => hsources (List.mem_cons_of_mem source ht)
      refine Prog.wp_mono (ih hsub hrest) ?_ fun _ _ h => h
      rintro _ s₂ ⟨hiff, hrows', hunits⟩
      have hsame : ∀ t ∈ sources, (sourceAllocations s₁.db o.pk t.pk).length =
          (sourceAllocations s.db o.pk t.pk).length := fun t ht =>
        hothers t.pk fun heq => hfirst (heq ▸ List.mem_map_of_mem ht)
      have hkept : Satisfied s₂.db o.pk source ↔ Satisfied s₁.db o.pk source := by
        rw [Satisfied, Satisfied, hunits source.pk hfirst]
      refine ⟨?_, hrows'.trans hrows, fun n hn => ?_⟩
      · rw [List.forall_mem_cons, hiff, hkept]
        exact hturn.iff_suffices hsame
      · rw [List.map_cons, List.mem_cons, not_or] at hn
        exact (hunits n hn.2).trans (hothers n hn.1)

/-! ## Panel sources -/

theorem sourcePanel_withoutServices (db : Db) (source : DeliverySource) :
    sourcePanel db source = sourcePanel db.withoutServices source := by
  have hinbound : sourceInbound db.withoutServices source =
      (sourceInbound db source).map unusedInbound := by
    rw [sourceInbound, sourceInbound]
    cases source.inbound with
    | none => rfl
    | some j => exact Table.get?_map db.inbounds unusedInbound unusedInbound_pk j
  have hpanels : db.withoutServices.panels = db.panels := rfl
  rw [sourcePanel, sourcePanel, hinbound, hpanels, Option.bind_map]
  rfl

/-- Every source has a panel. -/
def OnPanels (db : Db) (sources : List DeliverySource) : Prop :=
  ∀ source ∈ sources, (sourcePanel db source).isSome = true

theorem OnPanels.kept (h : OnPanels db sources)
    (hkept : db'.withoutServices = db.withoutServices) : OnPanels db' sources := by
  intro source hsource
  rw [sourcePanel_withoutServices, hkept, ← sourcePanel_withoutServices]
  exact h source hsource

/-- A group of sources that have their panel raises nothing. -/
theorem wp_executePanelGroup_raise {dynamicSubscription : Bool} {results : List SourceResult}
    (h : OnPanels s.db sources) :
    Prog.wp (executePanelGroup platform now o dynamicSubscription sources results)
      (fun _ _ => True) (fun h _ => h = .crashed) s := by
  cases sources with
  | nil => trivial
  | cons first rest =>
      obtain ⟨p, hp⟩ := Option.isSome_iff_exists.mp (h first List.mem_cons_self)
      rw [executePanelGroup, Prog.wp_bind, Prog.wp_readDb]
      dsimp only [id]
      rw [Prog.wp_bind, Prog.wp_orRaise, hp]
      dsimp only
      rw [Prog.wp_ite, Prog.wp_ite]
      refine ⟨fun _ => ?_, fun _ => ⟨fun _ => ?_, fun _ => ?_⟩⟩
      · rw [Prog.wp_bind]
        exact Prog.wp_caught_value fun _ _ => trivial
      · rw [Prog.wp_bind]
        exact Prog.wp_caught_value fun _ _ => trivial
      · refine Prog.wp_forEach (I := fun _ _ _ => True) trivial fun source _ _ s' _ => ?_
        rw [Prog.wp_bind]
        exact Prog.wp_caught_value fun _ _ => trivial

theorem mem_groupByPanel {group : List DeliverySource} (h : group ∈ groupByPanel db sources) :
    group ⊆ sources := by
  rw [groupByPanel] at h
  obtain ⟨key, -, rfl⟩ := List.mem_map.mp h
  exact fun t ht => (List.mem_filter.mp ht).1

theorem wp_panelGroups {dynamicSubscription : Bool} {groups : List (List DeliverySource)}
    {results : List SourceResult} {s₀ : Shop} (hcalm : Calm s₀.signals)
    (hgroups : ∀ group ∈ groups, OnPanels s₀.db group) (hkept : Prog.Kept Db.withoutServices s₀ s) :
    Prog.wp (Prog.forEach groups results (executePanelGroup platform now o dynamicSubscription))
      (fun _ s' => Prog.Kept Db.withoutServices s₀ s') (fun _ _ => False) s := by
  induction groups generalizing s results with
  | nil => exact hkept
  | cons group groups ih =>
      have hpanels := (hgroups group List.mem_cons_self).kept hkept.view
      rw [Prog.forEach, Prog.wp_bind]
      refine Prog.wp_mono (keeps_executePanelGroup.wp_returns (wp_executePanelGroup_raise hpanels)
        (hkept.calm hcalm)) ?_ fun _ _ h => h
      intro _ s₁ hkept'
      exact ih (fun g hg => hgroups g (List.mem_cons_of_mem group hg)) (hkept.trans hkept')

/-! ## The delivery -/

/-- The sources of a configuration that draw from pools before any fallback. -/
def primaryInventory (sources : List DeliverySource) : List DeliverySource :=
  (sources.filter (!·.isFallback)).filter (·.sourceType = .inventoryPool)

theorem mem_primaryInventory : source ∈ primaryInventory sources ↔
    source ∈ sources ∧ source.isFallback = false ∧ source.sourceType = .inventoryPool := by
  simp only [primaryInventory, List.mem_filter, Bool.not_eq_true', decide_eq_true_eq, and_assoc]

/-- Every panel source has its panel. -/
def PanelsKnown (db : Db) (sources : List DeliverySource) : Prop :=
  OnPanels db (sources.filter (·.sourceType = .panelInbound))

theorem PanelsKnown.filter (h : PanelsKnown db sources) (keep : DeliverySource → Bool) :
    PanelsKnown db (sources.filter keep) := by
  intro source hsource
  obtain ⟨hsource, htype⟩ := List.mem_filter.mp hsource
  exact h source (List.mem_filter.mpr ⟨(List.mem_filter.mp hsource).1, htype⟩)

theorem PanelsKnown.kept (h : PanelsKnown db sources)
    (hkept : db'.withoutDeliveries = db.withoutDeliveries) : PanelsKnown db' sources := by
  have hview : ∀ (d : Db) (source : DeliverySource),
      sourcePanel d source = sourcePanel d.withoutDeliveries source := fun d source =>
    sourcePanel_withoutServices d source
  intro source hsource
  rw [hview, hkept, ← hview]
  exact h source hsource

theorem wp_executeSources_iff {dynamicSubscription : Bool} (hcalm : Calm s.signals)
    (hpanels : PanelsKnown s.db sources) (hsources : sources ⊆ s.db.deliverySources.rows)
    (hnodup : (sources.map (·.pk)).Nodup) :
    Prog.wp (executeSources platform now o dynamicSubscription sources)
      (fun _ s' => (((∀ source ∈ sources.filter (·.sourceType = .inventoryPool),
          source.required = true → Satisfied s'.db o.pk source) ↔
            Suffices (missingFor s.db o.pk) (stockFigure s.db now)
              (sources.filter (·.sourceType = .inventoryPool))) ∧
          Leaves o.pk sources s.db s'.db) ∧ Prog.Kept Db.withoutDeliveries s s')
      (fun _ _ => False) s := by
  refine keeps_executeSources.wp_and ?_
  rw [executeSources, Prog.wp_bind, Prog.wp_readDb, Prog.wp_bind]
  dsimp only [id]
  have hgroups : ∀ group ∈ groupByPanel s.db (sources.filter (·.sourceType = .panelInbound)),
      OnPanels s.db group := fun group hgroup source hsource =>
    hpanels source (mem_groupByPanel hgroup hsource)
  refine Prog.wp_mono (wp_panelGroups hcalm hgroups (Prog.Kept.refl s)) ?_ fun _ _ h => h
  intro results s₁ hkept
  have hsame : SameUnits o.pk s.db s₁.db := .of_withoutServices hkept.view
  have hsub : sources.filter (·.sourceType = .inventoryPool) ⊆ s₁.db.deliverySources.rows := by
    rw [hsame.sources]
    exact fun t ht => hsources (List.mem_filter.mp ht).1
  refine Prog.wp_mono (wp_inventorySources hsub ((List.filter_sublist.map _).nodup hnodup)) ?_
    fun _ _ h => h
  rintro _ s₂ ⟨hiff, hleaves⟩
  have hfigures : stockFigure s₁.db now = stockFigure s.db now := by
    rw [eq_of_withoutServices hkept.view]
    rfl
  have hmissing : missingFor s₁.db o.pk = missingFor s.db o.pk := by
    funext t
    rw [missingFor, missingFor, hsame.units]
  rw [hfigures, hmissing] at hiff
  refine ⟨hiff, hleaves.rows.trans hsame.sources, fun n hn => ?_⟩
  refine (hleaves.units n fun hmem => hn ?_).trans (hsame.units n)
  exact (List.filter_sublist.map _).subset hmem

/-- The fallbacks come later, and leave the other sources alone. -/
theorem wp_executeConfiguredSources_iff {dynamicSubscription : Bool} (hcalm : Calm s.signals)
    (hpanels : PanelsKnown s.db sources) (hsources : sources ⊆ s.db.deliverySources.rows)
    (hnodup : (sources.map (·.pk)).Nodup) :
    Prog.wp (executeConfiguredSources platform now o dynamicSubscription sources)
      (fun _ s' => (∀ source ∈ primaryInventory sources,
          source.required = true → Satisfied s'.db o.pk source) ↔
            Suffices (missingFor s.db o.pk) (stockFigure s.db now) (primaryInventory sources))
      (fun _ _ => False) s := by
  have hfilter : ∀ keep : DeliverySource → Bool, sources.filter keep ⊆
      s.db.deliverySources.rows := fun _ t ht => hsources (List.mem_filter.mp ht).1
  have hnodups : ∀ keep : DeliverySource → Bool, ((sources.filter keep).map (·.pk)).Nodup :=
    fun _ => (List.filter_sublist.map _).nodup hnodup
  rw [executeConfiguredSources, Prog.wp_bind]
  refine Prog.wp_mono (wp_executeSources_iff hcalm (hpanels.filter _) (hfilter _) (hnodups _)) ?_
    fun _ _ h => h
  rintro results s₁ ⟨⟨hiff, hleaves⟩, hkept⟩
  rw [Prog.wp_ite]
  refine ⟨fun _ => ?_, fun _ => hiff⟩
  rw [Prog.wp_bind]
  have hrows : sources.filter (·.isFallback) ⊆ s₁.db.deliverySources.rows :=
    hleaves.rows ▸ hfilter _
  refine Prog.wp_mono (wp_executeSources_iff (hkept.calm hcalm)
    ((hpanels.kept hkept.view).filter _) hrows (hnodups _)) ?_ fun _ _ h => h
  rintro more s₂ ⟨⟨_, hleaves'⟩, _⟩
  have hsame : ∀ source ∈ primaryInventory sources,
      (Satisfied s₂.db o.pk source ↔ Satisfied s₁.db o.pk source) := by
    intro t ht
    obtain ⟨ht, hprimary, -⟩ := mem_primaryInventory.mp ht
    rw [Satisfied, Satisfied, hleaves'.units t.pk]
    intro hmem
    obtain ⟨u, hu, hpk⟩ := List.mem_map.mp hmem
    obtain ⟨hu, hfallback⟩ := List.mem_filter.mp hu
    obtain rfl : u = t := List.inj_on_of_nodup_map hnodup hu ht hpk
    rw [hprimary] at hfallback
    cases hfallback
  refine Iff.trans ?_ hiff
  exact forall₂_congr fun t ht => imp_congr_right fun _ => hsame t ht

theorem wp_executePlanDelivery_iff (ho : s.db.orders.get? k = some o) (hcalm : Calm s.signals)
    (hpanels : PanelsKnown s.db (activeDeliverySources s.db config.pk)) :
    Prog.wp (executePlanDelivery platform now actor k config)
      (fun _ s' => (∀ source ∈ primaryInventory (activeDeliverySources s.db config.pk),
          source.required = true → Satisfied s'.db k source) ↔
            Suffices (missingFor s.db k) (stockFigure s.db now)
              (primaryInventory (activeDeliverySources s.db config.pk)))
      (fun _ _ => False) s := by
  rw [executePlanDelivery, Prog.wp_atomic, Prog.wp_bind, Prog.wp_readDb]
  dsimp only [id]
  rw [Prog.wp_ite]
  refine ⟨fun hnone => ?_, fun _ => ?_⟩
  · rw [Prog.wp_bind, saveOrder, Prog.wp_writeDb, Prog.wp_pure, hnone]
    simp [primaryInventory, Suffices]
  · rw [Prog.wp_bind, saveOrder, Prog.wp_writeDb, Prog.wp_bind, getOrder, Prog.wp_bind,
      Prog.wp_readDb, Prog.wp_orRaise]
    dsimp only
    rw [Db.get?_setOrder_self _ ho]
    dsimp only
    obtain rfl : o.pk = k := (Table.mem_of_get? ho).2
    set marked := s.db.setOrder o.pk (fun o => (markOrderProvisioning o).save now) _
    have hrows : activeDeliverySources s.db config.pk ⊆ marked.deliverySources.rows :=
      fun t ht => mem_activeDeliverySources ht
    rw [Prog.wp_bind]
    refine Prog.wp_mono (wp_executeConfiguredSources_iff (s := { s with db := marked }) hcalm
      hpanels hrows
      (nodup_activeDeliverySources s.db config.pk)) ?_ fun _ _ h => h
    intro results s₁ hiff
    refine Prog.wp_mono wp_finishPlanDelivery ?_ fun _ _ h => h
    rintro _ s₂ ⟨hsame, _⟩
    refine Iff.trans ?_ hiff
    refine forall₂_congr fun t _ => imp_congr_right fun _ => ?_
    change Satisfied s₂.db o.pk t ↔ Satisfied s₁.db o.pk t
    rw [Satisfied, Satisfied, hsame.units]

variable {rules : SalesRules}

theorem panelsKnown_of_ready {checked : Instant} {plan : ℕ} {store : Option ℕ}
    (hmode : config.deliveryMode ≠ .globalFallback)
    (hready : (v2Readiness rules db checked plan store config).readinessStatus = .ready) :
    PanelsKnown db (activeDeliverySources db config.pk) := by
  intro source hsource
  obtain ⟨hsource, htype⟩ := List.mem_filter.mp hsource
  exact sourcePanel_of_ready (of_decide_eq_true htype) (errors_of_ready hmode hready hsource)

/-- A delivery from a ready configuration, which nothing kills, gives the order all units of
every required source exactly if the figures of the pools last for the sources in turn. -/
theorem ready_sources_satisfied_iff {checked : Instant} {store : Option ℕ}
    {c : PlanDeliveryConfiguration} (ho : s.db.orders.get? k = some o)
    (hconfig : activeDeliveryConfigForPlan s.db o.plan = some config)
    (hmode : config.deliveryMode ≠ .globalFallback)
    (hc : resolvePlanDeliveryConfiguration rules s.db checked o.plan store = some c)
    (hready : c.readinessStatus = .ready) (hcalm : Calm s.signals) :
    (∀ source ∈ primaryInventory (activeDeliverySources s.db config.pk), source.required = true →
        Satisfied (executePlanDelivery platform now actor k config s).2.db k source) ↔
      Suffices (missingFor s.db k) (stockFigure s.db now)
        (primaryInventory (activeDeliverySources s.db config.pk)) := by
  rw [readinessStatus_of_resolve hconfig hc] at hready
  have hpanels := panelsKnown_of_ready hmode hready
  exact Prog.snd_of_wp (P := fun s' : Shop =>
    (∀ source ∈ primaryInventory (activeDeliverySources s.db config.pk), source.required = true →
      Satisfied s'.db k source) ↔ _)
    (Prog.wp_mono (wp_executePlanDelivery_iff ho hcalm hpanels) (fun _ _ h => h) fun _ _ h => h.elim)

/-- Rules without warnings of other services. -/
def plainRules : SalesRules where
  sourceSellabilityIssues _ := {}
  fallbackState _ _ := (0, false)
  hasActiveRoutes _ := false

/-- An order of a plan with two sources that draw on one pool of two assets. -/
def sharedPoolOrder (quantity : ℕ) : Shop :=
  let stock := (sampleStock .exclusive).db
  { remote := {}
    db :=
      { stock with
        orders := Table.empty.put { pk := 7, plan := 3 }
        deliveryConfigs := Table.empty.put { pk := 5, plan := 3, deliveryMode := .directLinks }
        deliverySources := (Table.empty.put
            { pk := 21, deliveryConfig := 5, sourceType := .inventoryPool, inventoryPool := some 1
              quantity := quantity }).put
          { pk := 22, deliveryConfig := 5, sourceType := .inventoryPool, inventoryPool := some 1
            quantity := quantity } } }

/-- One unit for each source. -/
theorem ready_sources_satisfied_single :
    (∀ source ∈ primaryInventory (activeDeliverySources (sharedPoolOrder 1).db 5),
        source.required = true →
          Satisfied (executePlanDelivery (.ofTables [] []) 0 none 7
            { pk := 5, plan := 3, deliveryMode := .directLinks } (sharedPoolOrder 1)).2.db 7 source) ↔
      Suffices (missingFor (sharedPoolOrder 1).db 7) (stockFigure (sharedPoolOrder 1).db 0)
        (primaryInventory (activeDeliverySources (sharedPoolOrder 1).db 5)) := by
  have hready : (resolvePlanDeliveryConfiguration plainRules (sharedPoolOrder 1).db 0 3 none).map
      (·.readinessStatus) = some .ready := by decide +kernel
  obtain ⟨c, hc, hstatus⟩ := Option.map_eq_some_iff.mp hready
  have ho : (sharedPoolOrder 1).db.orders.get? 7 = some { pk := 7, plan := 3 } := rfl
  have hconfig : activeDeliveryConfigForPlan (sharedPoolOrder 1).db 3 =
      some { pk := 5, plan := 3, deliveryMode := .directLinks } := rfl
  exact ready_sources_satisfied_iff ho hconfig (by decide) hc hstatus (by simp [sharedPoolOrder, Calm])

/-- Two units for each source: the configuration is ready, and the second source gets none. -/
theorem ready_source_unsatisfied :
    (resolvePlanDeliveryConfiguration plainRules (sharedPoolOrder 2).db 0 3 none).map
        (·.readinessStatus) = some .ready ∧
      ∃ source ∈ activeDeliverySources (sharedPoolOrder 2).db 5, source.required = true ∧
        source.isFallback = false ∧ source.quantity = 2 ∧
          (sourceAllocations (executePlanDelivery (.ofTables [] []) 0 none 7
            { pk := 5, plan := 3, deliveryMode := .directLinks } (sharedPoolOrder 2)).2.db 7
              source.pk).length = 0 := by
  decide +kernel

end Qasedak.Orders
