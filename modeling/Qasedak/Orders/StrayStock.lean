import Qasedak.Orders.DeliveredStock
import Qasedak.Orders.RecipeRetries
import Qasedak.Orders.RefusedOrders

/-! What an order holds once it is refused or completed: after a refusal neither stock nor an
open cup, after its completion the allocations whose links the customer has. -/

namespace Qasedak.Orders

open Foundation Store Panels

/-! ## What the customer has -/

/-- `metadata["direct_delivery_links"]`. -/
def directLinks (db : Db) (order : ℕ) : List DeliveredLink :=
  ((db.orders.get? order).map (·.metadata.directDeliveryLinks)).getD []

/-- The items that `active_cup_links` renders. -/
def renderedItems (items : List CupItem) : List CupItem :=
  items.filter fun item => item.isActive ∧ strip item.link ≠ ""

/-- The allocations whose links the customer has, directly or in the order's cup. -/
def customerAllocations (db : Db) (order : ℕ) : List ℕ :=
  (directLinks db order).filterMap (·.allocation) ++
    (renderedItems (cupItems db order)).filterMap (·.allocation)

/-- The order has a cup that opens at that time. -/
def HasOpenCup (t : Instant) (k : ℕ) (db : Db) : Prop :=
  ∃ c ∈ db.cups.rows, c.order = some k ∧ c.isAccessible t = true

/-- No stock is astray at the order. -/
structure NoStrayStock (t : Instant) (k : ℕ) (db : Db) : Prop where
  refused : IsRefused k db → heldAllocations db k = [] ∧ ¬ HasOpenCup t k db
  completed : Completed k db →
    ∀ n, n ∈ (heldAllocations db k).map (·.pk) ↔ n ∈ customerAllocations db k

variable {platform : Platform} {now t : Instant} {actor : Option ℕ} {k : ℕ} {o : Order}
  {config : DeliveryConfig} {recipe : Recipe} {s : Shop} {db db' : Db}
  {results : List SourceResult} {links : List DeliveredLink}

theorem renderedItems_append (items items' : List CupItem) :
    renderedItems (items ++ items') = renderedItems items ++ renderedItems items' :=
  List.filter_append ..

theorem renderedItems_retired (items : List CupItem) :
    renderedItems (items.map retireItem) = [] := by
  refine List.filter_eq_nil_iff.mpr fun item hitem => ?_
  obtain ⟨old, -, rfl⟩ := List.mem_map.mp hitem
  simp [retireItem]

/-- The rendered items of new links are of the allocations that the links are of. -/
theorem renderedItems_delivered
    (hlinks : ∀ link ∈ links, link.allocation.isSome = true → strip link.rawLink ≠ "") :
    (renderedItems (links.map deliveredItem)).filterMap (·.allocation) =
      links.filterMap (·.allocation) := by
  induction links with
  | nil => rfl
  | cons link links ih =>
      have hrest := ih fun l hl => hlinks l (List.mem_cons_of_mem link hl)
      have hone : (renderedItems [deliveredItem link]).filterMap (·.allocation) =
          [link].filterMap (·.allocation) := by
        cases hallocation : link.allocation with
        | none =>
            by_cases hblank : strip link.rawLink = ""
            · simp [renderedItems, deliveredItem, hblank, hallocation]
            · simp [renderedItems, deliveredItem, hblank, hallocation]
        | some n =>
            have hfull := hlinks link List.mem_cons_self (by simp [hallocation])
            simp [renderedItems, deliveredItem, hfull, hallocation]
      rw [List.map_cons, ← List.singleton_append, renderedItems_append, List.filterMap_append, hrest,
        hone, ← List.filterMap_append, List.singleton_append]

/-- The filled cup renders the new links only. -/
theorem renderedItems_fillCup (e : Instant) (c : Cup) :
    renderedItems (fillCup e links c).items = renderedItems (links.map deliveredItem) := by
  rw [fillCup, renderedItems_append, renderedItems_retired, List.nil_append]

/-! ## Holdings -/

/-- What an allocation is of, apart from its cup. -/
def holding (a : ConfigAllocation) : ℕ × ℕ × Option ℕ := (a.pk, a.asset, a.deliverySource)

/-- The order holds what it held. -/
structure SameHoldings (k : ℕ) (db db' : Db) : Prop where
  assets : db'.assets = db.assets
  sources : db'.deliverySources = db.deliverySources
  held : (heldAllocations db' k).map holding = (heldAllocations db k).map holding

theorem sourceAllocations_eq_filter (db : Db) (k n : ℕ) :
    sourceAllocations db k n = (heldAllocations db k).filter (·.deliverySource = some n) := by
  rw [sourceAllocations, heldAllocations, List.filter_filter]
  refine List.filter_congr fun a _ => ?_
  simp only [Bool.decide_and, Bool.and_comm, Bool.and_left_comm, Bool.and_assoc]

namespace SameHoldings

theorem exists_held (h : SameHoldings k db db') {a : ConfigAllocation}
    (ha : a ∈ heldAllocations db' k) : ∃ b ∈ heldAllocations db k, holding b = holding a := by
  have hmem : holding a ∈ (heldAllocations db k).map holding := by
    rw [← h.held]
    exact List.mem_map_of_mem ha
  exact List.mem_map.mp hmem

theorem keys (h : SameHoldings k db db') :
    (heldAllocations db' k).map (·.pk) = (heldAllocations db k).map (·.pk) := by
  have hkeys : ∀ l : List ConfigAllocation, l.map (·.pk) = (l.map holding).map (·.1) := by
    intro l
    rw [List.map_map]
    rfl
  rw [hkeys, hkeys, h.held]

theorem units (h : SameHoldings k db db') (n : ℕ) :
    (sourceAllocations db' k n).length = (sourceAllocations db k n).length := by
  have hlength : ∀ l : List ConfigAllocation,
      (l.filter (·.deliverySource = some n)).length =
        ((l.map holding).filter (·.2.2 = some n)).length := by
    intro l
    rw [List.filter_map, List.length_map]
    rfl
  rw [sourceAllocations_eq_filter, sourceAllocations_eq_filter, hlength, hlength, h.held]

theorem sound (h : SameHoldings k db db') (hsound : SoundStock k db) : SoundStock k db' where
  linked := by
    rw [AssetsLinked, h.assets]
    exact hsound.linked
  backed a ha := by
    obtain ⟨b, hb, hsame⟩ := h.exists_held ha
    have hasset : b.asset = a.asset := congrArg (·.2.1) hsame
    rw [h.assets, ← hasset]
    exact hsound.backed b hb
  units source hsource := by
    rw [h.sources] at hsource
    rw [h.units]
    exact hsound.units source hsource

theorem drawn (h : SameHoldings k db db') {sources : List DeliverySource}
    (hdrawn : ∀ a ∈ heldAllocations db k, DrawnBy sources a) :
    ∀ a ∈ heldAllocations db' k, DrawnBy sources a := by
  intro a ha
  obtain ⟨b, hb, hsame⟩ := h.exists_held ha
  obtain ⟨t, ht, htype, hlabel⟩ := hdrawn b hb
  have hsource : b.deliverySource = a.deliverySource := congrArg (·.2.2) hsame
  exact ⟨t, ht, htype, hsource ▸ hlabel⟩

theorem setOrder {f : Order → Order} (hf : ∀ o, (f o).pk = o.pk) (j : ℕ) :
    SameHoldings k db (db.setOrder j f hf) := ⟨rfl, rfl, rfl⟩

theorem trans {db'' : Db} (h : SameHoldings k db db') (h' : SameHoldings k db' db'') :
    SameHoldings k db db'' :=
  ⟨h'.assets.trans h.assets, h'.sources.trans h.sources, h'.held.trans h.held⟩

/-- A cup takes over allocations of the order. -/
theorem setAllocationCups (db : Db) (links : List DeliveredLink) (order cup : ℕ) :
    SameHoldings k db (db.setAllocationCups links order cup) := by
  have hsame : ∀ a : ConfigAllocation, (setAllocationCup links order cup a).order = a.order ∧
      (setAllocationCup links order cup a).isActive = a.isActive ∧
        holding (setAllocationCup links order cup a) = holding a := by
    intro a
    rw [setAllocationCup]
    split <;> exact ⟨rfl, rfl, rfl⟩
  have hrows : (db.setAllocationCups links order cup).allocations.rows =
      db.allocations.rows.map (setAllocationCup links order cup) := rfl
  refine ⟨rfl, rfl, ?_⟩
  rw [heldAllocations, heldAllocations, hrows, List.filter_map, List.map_map]
  have hholding : holding ∘ setAllocationCup links order cup = holding := by
    funext a
    exact (hsame a).2.2
  rw [hholding]
  congr 1
  refine List.filter_congr fun a _ => ?_
  rw [Function.comp, (hsame a).1, (hsame a).2.1]

end SameHoldings

/-! ## The end of a delivery -/

/-- The results are enough for the order: there is a link, and no failure of a required source
under the strict policy. -/
def SourcesDeliver (config : DeliveryConfig) (results : List SourceResult) : Prop :=
  (results.filter (·.ok)).flatMap (·.links) ≠ [] ∧
    ¬ (config.failurePolicy = .strict ∧ results.any (fun r => r.required && !r.ok))

instance (config : DeliveryConfig) (results : List SourceResult) :
    Decidable (SourcesDeliver config results) := inferInstanceAs (Decidable (_ ∧ _))

theorem customerAllocations_eq (hdirect : directLinks db' k = directLinks db k)
    (hitems : cupItems db' k = cupItems db k) :
    customerAllocations db' k = customerAllocations db k := by
  rw [customerAllocations, customerAllocations, hdirect, hitems]

theorem directLinks_setOrder {f : Order → Order} (hf : ∀ o, (f o).pk = o.pk)
    (hlinks : ∀ o, (f o).metadata.directDeliveryLinks = o.metadata.directDeliveryLinks) :
    directLinks (db.setOrder k f hf) k = directLinks db k := by
  rw [directLinks, directLinks, Db.setOrder, Table.get?_modify]
  cases db.orders.get? k with
  | none => rfl
  | some o =>
      simp only [Option.map_some, if_pos, Option.getD_some]
      exact hlinks o

theorem wp_ensureSubscriptionCup :
    Prog.wp (ensureSubscriptionCup now k links)
      (fun _ s' => SameHoldings k s.db s'.db ∧ s'.db.orders = s.db.orders ∧
        renderedItems (cupItems s'.db k) = renderedItems (links.map deliveredItem))
      (fun _ _ => False) s := by
  rw [ensureSubscriptionCup, Prog.wp_bind]
  refine Prog.wp_mono wp_ensureCup ?_ fun _ _ h => h
  rintro key s₁ ⟨_, hcup, _, hframe⟩
  obtain ⟨c, hc, rfl⟩ := Option.map_eq_some_iff.mp hcup
  rw [Prog.wp_bind, Prog.wp_readDb, Prog.wp_bind, Prog.wp_writeDb, Prog.wp_bind, Prog.wp_writeDb,
    Prog.wp_pure]
  generalize afterDays now (orderDays s₁.db k) = e
  have hfilled : orderCup (s₁.db.setCup c.pk (fillCup e links) (fillCup_pk e links)) k =
      some (fillCup e links c) := orderCup_setCup _ (fun _ => ⟨rfl, rfl⟩) hc
  have hcups : SameHoldings k s.db
      (s₁.db.setCup c.pk (fillCup e links) (fillCup_pk e links)) := by
    rw [hframe]
    exact ⟨rfl, rfl, rfl⟩
  refine ⟨hcups.trans (.setAllocationCups _ links k c.pk), ?_, ?_⟩
  · rw [hframe]
    rfl
  · have hitems : cupItems ((s₁.db.setCup c.pk (fillCup e links)
        (fillCup_pk e links)).setAllocationCups links k c.pk) k = (fillCup e links c).items := by
      rw [cupItems]
      change ((orderCup (s₁.db.setCup c.pk (fillCup e links) (fillCup_pk e links)) k).map
        (·.items)).getD [] = _
      rw [hfilled]
      rfl
    rw [hitems, renderedItems_fillCup]

theorem wp_customerLinks_stock
    (hlinks : ∀ link ∈ links, link.allocation.isSome = true → strip link.rawLink ≠ "")
    (hdirect : config.deliveryMode ≠ .subscription → orderCup s.db k = none) :
    Prog.wp (customerLinks platform now k config.deliveryMode links)
      (fun r s' => SameHoldings k s.db s'.db ∧ s'.db.orders = s.db.orders ∧
        (config.deliveryMode ≠ .subscription → orderCup s'.db k = none) ∧
        r.directDeliveryLinks.filterMap (·.allocation) ++
            (renderedItems (cupItems s'.db k)).filterMap (·.allocation) =
          links.filterMap (·.allocation))
      (fun _ _ => False) s := by
  rw [customerLinks, Prog.wp_ite]
  refine ⟨fun hmode => ?_, fun hmode => ?_⟩
  · rw [Prog.wp_bind]
    refine Prog.wp_mono wp_ensureSubscriptionCup ?_ fun _ _ h => h
    rintro cup s₁ ⟨hsame, horders, hitems⟩
    refine ⟨hsame, horders, fun hnot => absurd hmode hnot, ?_⟩
    rw [hitems, renderedItems_delivered hlinks]
    rfl
  · refine ⟨⟨rfl, rfl, rfl⟩, rfl, hdirect, ?_⟩
    have hitems : cupItems s.db k = [] := by
      rw [cupItems, hdirect hmode]
      rfl
    rw [hitems]
    exact List.append_nil _

/-- The end of a delivery: the customer has what the results are of, or what it had. -/
theorem wp_finishPlanDelivery_stock (horder : (s.db.orders.get? k).isSome)
    (hlinks : StockRendered results)
    (hdirect : config.deliveryMode ≠ .subscription → orderCup s.db k = none) :
    Prog.wp (finishPlanDelivery platform now actor k config results)
      (fun _ s' => SameHoldings k s.db s'.db ∧
        (config.deliveryMode ≠ .subscription → orderCup s'.db k = none) ∧
        (SourcesDeliver config results → customerAllocations s'.db k = resultAllocations results) ∧
        (¬ SourcesDeliver config results → (Completed k s'.db → Completed k s.db) ∧
          customerAllocations s'.db k = customerAllocations s.db k))
      (fun _ _ => False) s := by
  rw [finishPlanDelivery, Prog.wp_ite]
  refine ⟨fun hfailed => ?_, fun hfine => ?_⟩
  · rw [Prog.wp_bind, saveOrder, Prog.wp_writeDb]
    refine ⟨.setOrder _ _, hdirect, fun hdeliver => ?_, fun _ => ⟨fun hcompleted => ?_, ?_⟩⟩
    · exact absurd hfailed (not_or.mpr hdeliver)
    · refine hcompleted.of_setOrder (save_completed fun o hstatus => ?_)
      by_contra hnot
      simp [finishFailedDelivery, hnot] at hstatus
    · exact customerAllocations_eq (directLinks_setOrder _ fun o => rfl) rfl
  · rw [Prog.wp_bind]
    have hrendered : ∀ link ∈ (results.filter (·.ok)).flatMap (·.links),
        link.allocation.isSome = true → strip link.rawLink ≠ "" := by
      intro link hlink
      obtain ⟨r, hr, hmem⟩ := List.mem_flatMap.mp hlink
      exact hlinks r (List.mem_filter.mp hr).1 link hmem
    refine Prog.wp_mono (wp_customerLinks_stock hrendered hdirect) ?_ fun _ _ h => h
    rintro customer s₁ ⟨hsame, horders, hdirect', hcustomer⟩
    rw [Prog.wp_bind, Prog.wp_readDb, Prog.wp_bind, saveOrder, Prog.wp_writeDb]
    refine ⟨hsame.trans (.setOrder _ _), hdirect', fun _ => ?_, fun hnot => ?_⟩
    · obtain ⟨o, ho⟩ := Option.isSome_iff_exists.mp horder
      rw [← horders] at ho
      rw [customerAllocations, directLinks, Db.get?_setOrder_self _ ho]
      exact hcustomer
    · exact absurd (not_or.mp hfine) hnot

/-! ## An attempt from sources -/

section Sources

variable (platform)

/-- The primary sources of an attempt, for the order as it is marked. -/
def executePrimaries (now : Instant) (config : DeliveryConfig) (order : ℕ) :
    ShopM (List SourceResult) := do
  let db ← Prog.readDb id
  saveOrder now order markOrderProvisioning markOrderProvisioning_pk
  let o ← getOrder order
  executeSources platform now o (config.deliveryMode = .subscription)
    ((activeDeliverySources db config.pk).filter (!·.isFallback))

/-- All the sources of an attempt. -/
def executeAttempt (now : Instant) (config : DeliveryConfig) (order : ℕ) :
    ShopM (List SourceResult) := do
  let db ← Prog.readDb id
  saveOrder now order markOrderProvisioning markOrderProvisioning_pk
  let o ← getOrder order
  executeConfiguredSources platform now o (config.deliveryMode = .subscription)
    (activeDeliverySources db config.pk)

/-- Where the primary sources deliver on their own, the order holds nothing of a fallback. -/
def FallbackUnused (now : Instant) (config : DeliveryConfig) (k : ℕ) (s : Shop) : Prop :=
  Prog.wp (executePrimaries platform now config k)
    (fun results _ => shouldUseFallback results = false → SourcesDeliver config results →
      ∀ a ∈ heldAllocations s.db k,
        ¬ DrawnBy ((activeDeliverySources s.db config.pk).filter (·.isFallback)) a)
    (fun _ _ => True) s

/-- A completed order draws nothing in an attempt whose sources do not deliver. -/
def DrawsNothingInVain (now : Instant) (config : DeliveryConfig) (k : ℕ) (s : Shop) : Prop :=
  Completed k s.db → Prog.wp (executeAttempt platform now config k)
    (fun results s' => ¬ SourcesDeliver config results →
      (heldAllocations s'.db k).map (·.pk) = (heldAllocations s.db k).map (·.pk))
    (fun _ _ => True) s

end Sources

/-- The stock of an order that is delivered from sources, between two attempts. -/
structure SourcesStock (k : ℕ) (config : DeliveryConfig) (db : Db) : Prop where
  sound : SoundStock k db
  drawn : ∀ a ∈ heldAllocations db k, DrawnBy (activeDeliverySources db config.pk) a
  direct : config.deliveryMode ≠ .subscription → orderCup db k = none

theorem cups_of_withoutDeliveries (h : db'.withoutDeliveries = db.withoutDeliveries) :
    db'.cups = db.cups := by
  have hcups : db'.withoutDeliveries.cups = db.withoutDeliveries.cups := by rw [h]
  exact hcups

theorem not_isRefused_setOrder {f : Order → Order} (hf : ∀ o, (f o).pk = o.pk)
    (hstatus : ∀ o, ¬ (f o).status.Refused) : ¬ IsRefused k (db.setOrder k f hf) := by
  intro h
  obtain ⟨o', ho', hrefused⟩ := h
  rw [Db.setOrder, Table.get?_modify] at ho'
  obtain ⟨o, -, rfl⟩ := Option.map_eq_some_iff.mp ho'
  rw [if_pos rfl] at hrefused
  exact hstatus o hrefused

theorem finishFailedDelivery_open (safeError : String) (now : Instant) (o : Order) :
    ¬ ((finishFailedDelivery safeError o).save now).status.Refused := by
  rw [Order.save_status, finishFailedDelivery]
  by_cases hcompleted : o.status = .completed
  · simp [hcompleted, OrderStatus.Refused]
  · simp [hcompleted, OrderStatus.Refused]

/-- A delivery ends with an order that is not refused. -/
theorem wp_finishPlanDelivery_open :
    Prog.wp (finishPlanDelivery platform now actor k config results)
      (fun _ s' => ¬ IsRefused k s'.db) (fun _ _ => True) s := by
  rw [finishPlanDelivery, Prog.wp_ite]
  refine ⟨fun _ => ?_, fun _ => ?_⟩
  · rw [Prog.wp_bind, saveOrder, Prog.wp_writeDb]
    exact not_isRefused_setOrder _ (finishFailedDelivery_open _ now)
  · refine Prog.wp_bind_of_forall fun customer s₁ => ?_
    rw [Prog.wp_bind, Prog.wp_readDb, Prog.wp_bind, saveOrder, Prog.wp_writeDb]
    refine not_isRefused_setOrder _ fun o => ?_
    rw [Order.save_status]
    simp [finishDelivery, Order.markPaymentVerified, OrderStatus.Refused]

/-- What a failed attempt without sources or with too few of them leaves as it was. -/
theorem completed_markOrderProvisioning (now : Instant)
    (h : Completed k (db.setOrder k (fun o => (markOrderProvisioning o).save now) fun o => by
      rw [Order.save_pk, markOrderProvisioning_pk])) : Completed k db := by
  refine h.of_setOrder (save_completed fun o hstatus => ?_)
  by_contra hnot
  simp [markOrderProvisioning, markProvisioning, hnot] at hstatus

theorem SourcesStock.same (h : SourcesStock k config db) (hsame : SameHoldings k db db')
    (hdirect : config.deliveryMode ≠ .subscription → orderCup db' k = none) :
    SourcesStock k config db' where
  sound := hsame.sound h.sound
  drawn := by
    rw [activeDeliverySources_eq hsame.sources]
    exact hsame.drawn h.drawn
  direct := hdirect

theorem NoStrayStock.of_same (h : NoStrayStock t k db) (hopen : ¬ IsRefused k db')
    (hcompleted : Completed k db' → Completed k db)
    (hheld : Completed k db →
      (heldAllocations db' k).map (·.pk) = (heldAllocations db k).map (·.pk))
    (hcustomer : customerAllocations db' k = customerAllocations db k) :
    NoStrayStock t k db' where
  refused hrefused := absurd hrefused hopen
  completed hdone n := by
    rw [hheld (hcompleted hdone), hcustomer]
    exact h.completed (hcompleted hdone) n

theorem DrawnBy.mono {sources more : List DeliverySource} {a : ConfigAllocation}
    (h : DrawnBy sources a) (hsub : sources ⊆ more) : DrawnBy more a := by
  obtain ⟨t, ht, hlabel⟩ := h
  exact ⟨t, hsub ht, hlabel⟩

/-- The customer has all that the order holds, where the sources that it holds were executed. -/
theorem Executed.keys {executed : List DeliverySource} (h : Executed k executed db db' results)
    (hall : ∀ a ∈ heldAllocations db' k, DrawnBy executed a) (n : ℕ) :
    n ∈ (heldAllocations db' k).map (·.pk) ↔ n ∈ resultAllocations results := by
  rw [h.delivered, List.mem_map]
  constructor
  · rintro ⟨a, ha, hpk⟩
    exact ⟨a, ha, hpk, hall a ha⟩
  · rintro ⟨a, ha, hpk, _⟩
    exact ⟨a, ha, hpk⟩

/-- The end of an attempt whose sources left the stock in order. -/
theorem SourcesStock.wp_finishPlanDelivery (h : SourcesStock k config s.db)
    (horder : (s.db.orders.get? k).isSome) (hrendered : StockRendered results)
    (hdelivers : SourcesDeliver config results → ∀ n,
      n ∈ (heldAllocations s.db k).map (·.pk) ↔ n ∈ resultAllocations results)
    (hfails : ¬ SourcesDeliver config results → Completed k s.db → ∀ n,
      n ∈ (heldAllocations s.db k).map (·.pk) ↔ n ∈ customerAllocations s.db k) :
    Prog.wp (finishPlanDelivery platform now actor k config results)
      (fun _ s' => SourcesStock k config s'.db ∧ NoStrayStock t k s'.db)
      (fun _ _ => False) s := by
  refine Prog.wp_mono (Prog.wp_and (wp_finishPlanDelivery_stock horder hrendered h.direct)
    wp_finishPlanDelivery_open) ?_ fun _ _ h => h.1
  rintro _ s' ⟨⟨hsame, hdirect, hdone, hfailed⟩, hopen⟩
  refine ⟨h.same hsame hdirect, fun hrefused => absurd hrefused hopen, fun hcompleted n => ?_⟩
  rw [hsame.keys]
  by_cases hdeliver : SourcesDeliver config results
  · rw [hdone hdeliver]
    exact hdelivers hdeliver n
  · rw [(hfailed hdeliver).2]
    exact hfails hdeliver ((hfailed hdeliver).1 hcompleted) n

/-- An attempt keeps the order's stock in order, and the customer has all of it once the order
is completed. -/
theorem SourcesStock.wp_executePlanDelivery (h : SourcesStock k config s.db)
    (hclean : NoStrayStock t k s.db) (hfallback : FallbackUnused platform now config k s)
    (hvain : DrawsNothingInVain platform now config k s) :
    Prog.wp (executePlanDelivery platform now actor k config)
      (fun _ s' => SourcesStock k config s'.db ∧ NoStrayStock t k s'.db)
      (fun _ s' => s'.db = s.db) s := by
  rw [executePlanDelivery, Prog.wp_atomic, Prog.wp_bind, Prog.wp_readDb]
  dsimp only [id]
  rw [Prog.wp_ite]
  refine ⟨fun _ => ?_, fun _ => ?_⟩
  · rw [Prog.wp_bind, saveOrder, Prog.wp_writeDb]
    refine ⟨h.same (.setOrder _ _) h.direct, hclean.of_same
      (not_isRefused_setOrder _ (finishFailedDelivery_open _ now)) (fun hcompleted => ?_)
      (fun _ => rfl) (customerAllocations_eq (directLinks_setOrder _ fun o => rfl) rfl)⟩
    refine hcompleted.of_setOrder (save_completed fun o hstatus => ?_)
    by_contra hnot
    simp [finishFailedDelivery, hnot] at hstatus
  · rw [Prog.wp_bind, saveOrder, Prog.wp_writeDb, Prog.wp_bind, getOrder, Prog.wp_bind,
      Prog.wp_readDb, Prog.wp_orRaise]
    rw [FallbackUnused, executePrimaries, Prog.wp_bind, Prog.wp_readDb, Prog.wp_bind, saveOrder,
      Prog.wp_writeDb, Prog.wp_bind, getOrder, Prog.wp_bind, Prog.wp_readDb, Prog.wp_orRaise]
      at hfallback
    rw [DrawsNothingInVain, executeAttempt, Prog.wp_bind, Prog.wp_readDb, Prog.wp_bind, saveOrder,
      Prog.wp_writeDb, Prog.wp_bind, getOrder, Prog.wp_bind, Prog.wp_readDb, Prog.wp_orRaise]
      at hvain
    dsimp only [id] at hfallback hvain ⊢
    set marked := s.db.setOrder k (fun o => (markOrderProvisioning o).save now) _ with hmarked
    cases ho : marked.orders.get? k with
    | none => rfl
    | some o =>
        rw [ho] at hfallback hvain
        dsimp only at hfallback hvain ⊢
        obtain rfl : o.pk = k := (Table.mem_of_get? ho).2
        have hmarkedStock : SourcesStock o.pk config marked := h.same (.setOrder _ _) h.direct
        have hrows : activeDeliverySources s.db config.pk ⊆ marked.deliverySources.rows :=
          fun t ht => mem_activeDeliverySources ht
        have hkeys : Prog.wp (executeConfiguredSources platform now o
            (config.deliveryMode = .subscription) (activeDeliverySources s.db config.pk))
            (fun results s' => Completed o.pk s.db → ¬ SourcesDeliver config results →
              (heldAllocations s'.db o.pk).map (·.pk) = (heldAllocations s.db o.pk).map (·.pk))
            (fun _ _ => True) { s with db := marked } := by
          by_cases hcompleted : Completed o.pk s.db
          · exact Prog.wp_mono (hvain hcompleted) (fun _ _ hkeys _ => hkeys) fun _ _ h => h
          · exact Prog.wp_of_forall (fun _ _ hdone => absurd hdone hcompleted) fun _ _ => trivial
        rw [Prog.wp_bind]
        refine Prog.wp_mono (keeps_executeConfiguredSources.wp_and (Prog.wp_and
          (Executed.of_executeConfiguredSources hmarkedStock.sound hrows
            (nodup_activeDeliverySources _ _) hfallback) hkeys)) ?_ fun _ _ _ => rfl
        rintro results s₁ ⟨⟨hexecuted, hkeys⟩, hkept⟩
        have horders : s₁.db.orders = marked.orders := orders_of_withoutDeliveries hkept.view
        have hcups : s₁.db.cups = marked.cups := cups_of_withoutDeliveries hkept.view
        have hcustomer : customerAllocations s₁.db o.pk = customerAllocations s.db o.pk := by
          refine customerAllocations_eq ?_ ?_
          · rw [directLinks, horders]
            exact directLinks_setOrder _ fun o => rfl
          · rw [cupItems, orderCup, hcups]
            rfl
        have hdirect : config.deliveryMode ≠ .subscription → orderCup s₁.db o.pk = none := by
          rw [orderCup, hcups]
          exact hmarkedStock.direct
        have hfails : ¬ SourcesDeliver config results → Completed o.pk s₁.db → ∀ n,
            n ∈ (heldAllocations s₁.db o.pk).map (·.pk) ↔
              n ∈ customerAllocations s₁.db o.pk := by
          intro hnot hcompleted n
          have hbefore : Completed o.pk s.db := by
            refine completed_markOrderProvisioning now ?_
            rw [Completed, ← horders]
            exact hcompleted
          rw [hkeys hbefore hnot, hcustomer]
          exact hclean.completed hbefore n
        have horder : (s₁.db.orders.get? o.pk).isSome := by
          rw [horders, ho]
          rfl
        rcases hexecuted with hall | ⟨hunused, hfree, hprimary⟩
        · have hdrawn : ∀ a ∈ heldAllocations s₁.db o.pk,
              DrawnBy (activeDeliverySources s.db config.pk) a := by
            intro a ha
            exact (hall.held ha).elim (hmarkedStock.drawn a) id
          have hstock : SourcesStock o.pk config s₁.db := by
            refine ⟨hall.sound, ?_, hdirect⟩
            rw [activeDeliverySources_eq hall.configured]
            exact hdrawn
          exact Prog.wp_mono (hstock.wp_finishPlanDelivery horder hall.rendered
            (fun _ => hall.keys hdrawn) hfails) (fun _ _ h => h) fun _ _ h => h.elim
        · have hstock : SourcesStock o.pk config s₁.db := by
            refine ⟨hprimary.sound, ?_, hdirect⟩
            rw [activeDeliverySources_eq hprimary.configured]
            intro a ha
            refine (hprimary.held ha).elim (hmarkedStock.drawn a) fun hdrawn => ?_
            exact hdrawn.mono fun t ht => (List.mem_filter.mp ht).1
          refine Prog.wp_mono (hstock.wp_finishPlanDelivery horder hprimary.rendered
            (fun hdeliver => hprimary.keys fun a ha => ?_) hfails) (fun _ _ h => h)
            fun _ _ h => h.elim
          -- What was held before is of no fallback source, and hence of a primary one.
          refine (hprimary.held ha).elim (fun hold => ?_) id
          obtain ⟨u, hu, htype, hlabel⟩ := hmarkedStock.drawn a hold
          have hnofallback : u.isFallback = false := by
            by_contra hfallbackSource
            refine hfree hunused hdeliver a hold ⟨u, List.mem_filter.mpr ⟨hu, ?_⟩, htype, hlabel⟩
            simpa using hfallbackSource
          exact ⟨u, List.mem_filter.mpr ⟨hu, by simp [hnofallback]⟩, htype, hlabel⟩

end Qasedak.Orders
