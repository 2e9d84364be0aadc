import Qasedak.Orders.RecipeStock

/-! The stock of an order over all attempts to deliver it, up to its completion or refusal. A
refusal releases nothing, and an attempt gives no thought to what earlier ones have drawn. -/

namespace Qasedak.Orders

open Foundation Store Panels

/-- How the order is delivered: from the sources of its plan, or by a recipe. -/
inductive Fulfilment where
  | sources (config : DeliveryConfig)
  | recipe (recipe : Recipe)

inductive FulfilmentOp where
  | attempt (now : Instant) (actor : Option ℕ) (signals : List Signal)
  | reject (now : Instant) (user : Option ℕ) (notify : Bool) (signals : List Signal)
  | cancel (now : Instant) (signals : List Signal)
  /-- What others do to the shop and its panels. -/
  | meanwhile (db : Db) (remote : Remote)

section Model

variable (platform : Platform)

def Fulfilment.execute (now : Instant) (actor : Option ℕ) (order : ℕ) :
    Fulfilment → ShopM ProvisioningResult
  | .sources config => executePlanDelivery platform now actor order config
  | .recipe r => fulfillOrderWithRecipe platform now actor order r

variable (f : Fulfilment) (k : ℕ)

def fulfilmentStep (s : Shop) : FulfilmentOp → Shop
  | .attempt now actor signals =>
      (f.execute platform now actor k { s with signals := signals }).2
  | .reject now user notify signals =>
      (rejectOrder now user notify k { s with signals := signals }).2
  | .cancel now signals => (cancelOrder now k { s with signals := signals }).2
  | .meanwhile db remote => { s with db := db, remote := remote }

/-- Others leave the order, its cups and its allocations alone, and the sources as configured;
no asset is without a link. -/
structure StockLeftAlone (db db' : Db) : Prop where
  order : db'.orders.get? k = db.orders.get? k
  cups : db'.cups.rows.filter (·.order = some k) = db.cups.rows.filter (·.order = some k)
  held : heldAllocations db' k = heldAllocations db k
  sources : db'.deliverySources = db.deliverySources
  linked : AssetsLinked db'
  backed : ∀ a ∈ heldAllocations db' k, ∃ asset ∈ db'.assets.rows, asset.pk = a.asset
  adopted : ∀ a ∈ db'.allocations.rows, a.order = none → a.cup ≠ some (cupKey db' k)

/-- What can happen until a time: an approval attempts nothing for a refused order. -/
def FulfilmentOp.Happens (t : Instant) (s : Shop) : FulfilmentOp → Prop
  | .attempt now _ _ => now ≤ t ∧ ¬ IsRefused k s.db
  | .reject now _ _ _ => now ≤ t
  | .cancel now _ => now ≤ t
  | .meanwhile db _ => StockLeftAlone k s.db db

/-- An order whose clients the panels delete holds no stock and no open cup. -/
def RefusedEmpty (now : Instant) (s : Shop) : Prop :=
  ∀ o, s.db.orders.get? k = some o →
    Prog.wp (deletePanelClients (deletionTargetsForOrder s.db o))
      (fun deleted _ => deleted = true → heldAllocations s.db k = [] ∧ ¬ HasOpenCup now k s.db)
      (fun _ _ => True) s

/-- The operation leaves no stock astray: a refused order is empty, and an attempt from sources
has no use for a fallback that it holds, nor draws for a completed order in vain. -/
def FulfilmentOp.Tidy (s : Shop) : FulfilmentOp → Prop
  | .attempt now _ signals =>
      match f with
      | .sources config =>
          FallbackUnused platform now config k { s with signals := signals } ∧
            DrawsNothingInVain platform now config k { s with signals := signals }
      | .recipe _ => True
  | .reject now _ _ signals =>
      ¬ Completed k s.db → RefusedEmpty k now { s with signals := signals }
  | .cancel now signals => RefusedEmpty k now { s with signals := signals }
  | .meanwhile _ _ => True

/-- An order before its first attempt. -/
structure FreshOrder (db : Db) : Prop where
  unfinished : ¬ Completed k db ∧ ¬ IsRefused k db
  nothing : ∀ a ∈ db.allocations.rows, a.order ≠ some k
  noCup : orderCup db k = none
  noLinks : directLinks db k = []
  linked : AssetsLinked db
  adopted : ∀ a ∈ db.allocations.rows, a.order = none → a.cup ≠ some (cupKey db k)

/-- The stock of the order is in order, whichever way it is delivered. -/
def StockInOrder (db : Db) : Fulfilment → Prop
  | .sources config => SourcesStock k config db
  | .recipe _ => RecipeStock k db

end Model

variable {platform : Platform} {f : Fulfilment} {k : ℕ} {t : Instant} {s : Shop} {db db' : Db}
  {o : Order}

theorem FreshOrder.held (h : FreshOrder k db) : heldAllocations db k = [] := by
  refine List.filter_eq_nil_iff.mpr fun a ha hheld => ?_
  exact h.nothing a ha (of_decide_eq_true hheld).1

theorem FreshOrder.customer (h : FreshOrder k db) : customerAllocations db k = [] := by
  rw [customerAllocations, h.noLinks, cupItems, h.noCup]
  rfl

theorem FreshOrder.stockInOrder (h : FreshOrder k db) : StockInOrder k db f := by
  cases f with
  | sources config =>
      refine ⟨⟨h.linked, ?_, fun source _ => .inl ?_⟩, ?_, fun _ => h.noCup⟩
      · simp [h.held]
      · simp [sourceAllocations_eq_filter, h.held]
      · simp [h.held]
  | recipe recipe =>
      refine ⟨h.linked, ?_, ?_, h.adopted⟩
      · simp [h.held]
      · simp [h.held, h.customer]

theorem FreshOrder.noStrayStock (h : FreshOrder k db) : NoStrayStock t k db where
  refused hrefused := absurd hrefused h.unfinished.2
  completed hcompleted := absurd hcompleted h.unfinished.1

/-! ## Refusals -/

theorem HasOpenCup.mono {now : Instant} (hle : now ≤ t) (h : HasOpenCup t k db) :
    HasOpenCup now k db := by
  obtain ⟨c, hc, horder, hopen⟩ := h
  refine ⟨c, hc, horder, ?_⟩
  rw [Cup.isAccessible, Bool.and_eq_true] at hopen ⊢
  refine ⟨hopen.1, ?_⟩
  cases hexpires : c.expiresAt with
  | none => rfl
  | some e =>
      rw [hexpires] at hopen
      have hlater : t < e := by simpa using hopen.2
      simpa using lt_of_le_of_lt hle hlater

/-- The order is refused, and nothing of its stock is touched. -/
structure StockKept (k : ℕ) (db db' : Db) : Prop where
  allocations : db'.allocations = db.allocations
  assets : db'.assets = db.assets
  cups : db'.cups = db.cups
  sources : db'.deliverySources = db.deliverySources
  links : directLinks db' k = directLinks db k

namespace StockKept

theorem held (h : StockKept k db db') : heldAllocations db' k = heldAllocations db k := by
  rw [heldAllocations, heldAllocations, h.allocations]

theorem orderCup (h : StockKept k db db') : orderCup db' k = orderCup db k := by
  rw [Orders.orderCup, Orders.orderCup, h.cups]

theorem cupKey (h : StockKept k db db') : cupKey db' k = cupKey db k := by
  rw [Orders.cupKey, Orders.cupKey, h.orderCup, h.cups]

theorem customer (h : StockKept k db db') : customerAllocations db' k = customerAllocations db k :=
  customerAllocations_eq h.links (by rw [cupItems, cupItems, h.orderCup])

theorem stockInOrder (h : StockKept k db db') (hstock : StockInOrder k db f) :
    StockInOrder k db' f := by
  cases f with
  | sources config =>
      have hsame : SameHoldings k db db' := ⟨h.assets, h.sources, by rw [h.held]⟩
      exact hstock.same hsame (by rw [h.orderCup]; exact hstock.direct)
  | recipe recipe =>
      refine ⟨?_, ?_, ?_, ?_⟩
      · rw [AssetsLinked, h.assets]
        exact hstock.linked
      · rw [h.held, h.assets]
        exact hstock.backed
      · rw [h.held, h.customer]
        exact hstock.placed
      · rw [h.allocations, h.cupKey]
        exact hstock.adopted

theorem openCup (h : StockKept k db db') : HasOpenCup t k db' ↔ HasOpenCup t k db := by
  rw [HasOpenCup, HasOpenCup, h.cups]

end StockKept

theorem directLinks_refused {g : Order → Order} (hg : ∀ o, (g o).pk = o.pk)
    (hlinks : ∀ o, (g o).metadata.directDeliveryLinks = o.metadata.directDeliveryLinks)
    (now : Instant) (targets : List DeletionTarget) :
    StockKept k db (decrementInboundUsers targets (suspendClients k
      (db.setOrder k (fun o => (g o).save now) fun o => by rw [Order.save_pk, hg]))) :=
  ⟨rfl, rfl, rfl, rfl, directLinks_setOrder _ fun o => by rw [Order.save_metadata, hlinks]⟩

/-- A refusal changes nothing of the order's stock; where it is carried out, the order is refused
and had none. -/
theorem wp_refuseOrder_stock {now : Instant} {g : Order → Order} {hg : ∀ o, (g o).pk = o.pk}
    {message : String} (ho : s.db.orders.get? o.pk = some o) (hempty : RefusedEmpty o.pk now s)
    (hlinks : ∀ o, (g o).metadata.directDeliveryLinks = o.metadata.directDeliveryLinks)
    (hrefuses : ∀ o, (g o).status.Refused) :
    Prog.wp (refuseOrder now o g hg message)
      (fun _ s' => s'.db = s.db ∨ StockKept o.pk s.db s'.db ∧ ¬ Completed o.pk s'.db ∧
        heldAllocations s.db o.pk = [] ∧ ¬ HasOpenCup now o.pk s.db)
      (fun _ s' => s'.db = s.db) s := by
  rw [refuseOrder, Prog.wp_bind, Prog.wp_readDb, Prog.wp_bind]
  dsimp only [id]
  refine Prog.wp_mono (Prog.wp_and (wp_deletePanelClients _) (hempty o ho)) ?_ fun _ _ h => h.1.db
  rintro deleted s₁ ⟨hdeletes, hnothing⟩
  rw [Prog.wp_ite]
  refine ⟨fun hdeleted => ?_, fun _ => .inl hdeletes.db⟩
  rw [Prog.wp_bind, saveOrder, Prog.wp_writeDb, Prog.wp_bind, Prog.wp_writeDb, Prog.wp_bind,
    Prog.wp_writeDb, Prog.wp_pure]
  dsimp only
  rw [hdeletes.db]
  refine .inr ⟨directLinks_refused hg hlinks now _, ?_, hnothing hdeleted⟩
  intro hcompleted
  have hsaved : Completed o.pk (s.db.setOrder o.pk (fun o => (g o).save now) fun o => by
      rw [Order.save_pk, hg]) := hcompleted
  obtain ⟨o', ho', hdone⟩ := hsaved
  rw [Db.get?_setOrder_self _ ho] at ho'
  obtain rfl := Option.some.inj ho'
  rw [Order.save_refused (hrefuses o)] at hdone
  have hnot := hrefuses o
  rw [hdone] at hnot
  rcases hnot with h | h
  · cases h
  · cases h

theorem noStrayStock_of_refusal {now : Instant} (hle : now ≤ t) (h : NoStrayStock t k db)
    (hstock : StockInOrder k db f)
    (hend : db' = db ∨ StockKept k db db' ∧ ¬ Completed k db' ∧
      heldAllocations db k = [] ∧ ¬ HasOpenCup now k db) :
    StockInOrder k db' f ∧ NoStrayStock t k db' := by
  rcases hend with rfl | ⟨hkept, hopen, hnothing, hclosed⟩
  · exact ⟨hstock, h⟩
  · refine ⟨hkept.stockInOrder hstock, fun _ => ⟨?_, fun hcup => ?_⟩, fun hcompleted => ?_⟩
    · rw [hkept.held, hnothing]
    · exact hclosed ((hkept.openCup.mp hcup).mono hle)
    · exact absurd hcompleted hopen

theorem wp_cancelOrder_stock {now : Instant} (hle : now ≤ t) (hstock : StockInOrder k s.db f)
    (h : NoStrayStock t k s.db) (hempty : RefusedEmpty k now s) :
    Prog.wp (cancelOrder now k) (fun _ s' => StockInOrder k s'.db f ∧ NoStrayStock t k s'.db)
      (fun _ s' => StockInOrder k s'.db f ∧ NoStrayStock t k s'.db) s := by
  rw [cancelOrder, Prog.wp_atomic, Prog.wp_bind, getOrder, Prog.wp_bind, Prog.wp_readDb,
    Prog.wp_orRaise]
  cases ho : s.db.orders.get? k with
  | none => exact ⟨hstock, h⟩
  | some o =>
      obtain rfl : o.pk = k := (Table.mem_of_get? ho).2
      refine Prog.wp_mono (wp_refuseOrder_stock ho hempty (fun _ => rfl) fun _ => .inr rfl) ?_
        fun _ _ _ => ⟨hstock, h⟩
      exact fun _ s' hend => noStrayStock_of_refusal hle h hstock hend

theorem wp_rejectOrder_stock {now : Instant} {user : Option ℕ} {notify : Bool} (hle : now ≤ t)
    (hstock : StockInOrder k s.db f) (h : NoStrayStock t k s.db)
    (hempty : ¬ Completed k s.db → RefusedEmpty k now s) :
    Prog.wp (rejectOrder now user notify k)
      (fun _ s' => StockInOrder k s'.db f ∧ NoStrayStock t k s'.db)
      (fun _ s' => StockInOrder k s'.db f ∧ NoStrayStock t k s'.db) s := by
  have htransaction : Prog.wp (rejectTransaction now user k)
      (fun _ s' => StockInOrder k s'.db f ∧ NoStrayStock t k s'.db)
      (fun _ s' => StockInOrder k s'.db f ∧ NoStrayStock t k s'.db) s := by
    rw [rejectTransaction, Prog.wp_atomic, Prog.wp_bind, getOrder, Prog.wp_bind, Prog.wp_readDb,
      Prog.wp_orRaise]
    cases ho : s.db.orders.get? k with
    | none => exact ⟨hstock, h⟩
    | some o =>
        obtain rfl : o.pk = k := (Table.mem_of_get? ho).2
        dsimp only
        rw [Prog.wp_ite]
        refine ⟨fun _ => ⟨hstock, h⟩, fun hopen => ?_⟩
        have hnot : ¬ Completed o.pk s.db := by
          intro hcompleted
          obtain ⟨o', ho', hdone⟩ := hcompleted
          obtain rfl := Option.some.inj (ho.symm.trans ho')
          exact hopen hdone
        refine Prog.wp_mono (wp_refuseOrder_stock ho (hempty hnot) (fun _ => rfl)
          fun _ => .inl rfl) ?_ fun _ _ _ => ⟨hstock, h⟩
        exact fun _ s' hend => noStrayStock_of_refusal hle h hstock hend
  rw [rejectOrder, Prog.wp_bind]
  refine Prog.wp_mono htransaction ?_ fun _ _ h => h
  intro result s₁ hend
  split
  · rw [Prog.wp_bind]
    exact Prog.wp_remoteRead (fun _ _ _ => hend) fun _ _ => hend
  · exact hend

/-! ## Runs -/

theorem StockLeftAlone.orderCup (h : StockLeftAlone k db db') : orderCup db' k = orderCup db k := by
  have hfind : ∀ d : Db, Orders.orderCup d k =
      (d.cups.rows.filter (·.order = some k)).find? fun c => c.vpnClient = none := by
    intro d
    rw [Orders.orderCup, List.find?_filter]
    simp
  rw [hfind, hfind, h.cups]

theorem StockLeftAlone.customer (h : StockLeftAlone k db db') :
    customerAllocations db' k = customerAllocations db k := by
  refine customerAllocations_eq ?_ ?_
  · rw [directLinks, directLinks, h.order]
  · rw [cupItems, cupItems, h.orderCup]

theorem StockLeftAlone.stockInOrder (h : StockLeftAlone k db db') (hstock : StockInOrder k db f) :
    StockInOrder k db' f := by
  cases f with
  | sources config =>
      refine ⟨⟨h.linked, h.backed, fun source hsource => ?_⟩, ?_, ?_⟩
      · rw [h.sources] at hsource
        rw [sourceAllocations_eq_filter, h.held, ← sourceAllocations_eq_filter]
        exact hstock.sound.units source hsource
      · rw [h.held, activeDeliverySources_eq h.sources]
        exact hstock.drawn
      · rw [h.orderCup]
        exact hstock.direct
  | recipe recipe =>
      refine ⟨h.linked, h.backed, ?_, h.adopted⟩
      rw [h.held, h.customer]
      exact hstock.placed

theorem StockLeftAlone.noStrayStock (h : StockLeftAlone k db db') (hclean : NoStrayStock t k db) :
    NoStrayStock t k db' := by
  refine ⟨fun hrefused => ?_, fun hcompleted => ?_⟩
  · rw [IsRefused, h.order] at hrefused
    obtain ⟨hnothing, hclosed⟩ := hclean.refused hrefused
    refine ⟨by rw [h.held, hnothing], fun hcup => hclosed ?_⟩
    obtain ⟨c, hc, horder, hopen⟩ := hcup
    have hmem : c ∈ db.cups.rows.filter (·.order = some k) := by
      rw [← h.cups]
      exact List.mem_filter.mpr ⟨hc, decide_eq_true horder⟩
    exact ⟨c, (List.mem_filter.mp hmem).1, horder, hopen⟩
  · rw [Completed, h.order] at hcompleted
    rw [h.held, h.customer]
    exact hclean.completed hcompleted

theorem noStrayStock_fulfilmentStep {op : FulfilmentOp} (hstock : StockInOrder k s.db f)
    (h : NoStrayStock t k s.db) (hhappens : op.Happens k t s) (htidy : op.Tidy platform f k s) :
    StockInOrder k (fulfilmentStep platform f k s op).db f ∧
      NoStrayStock t k (fulfilmentStep platform f k s op).db := by
  let P : Shop → Prop := fun s' => StockInOrder k s'.db f ∧ NoStrayStock t k s'.db
  cases op with
  | attempt now actor signals =>
      cases f with
      | sources config =>
          refine Prog.snd_of_wp (P := P) (Prog.wp_mono (SourcesStock.wp_executePlanDelivery
            (s := { s with signals := signals }) hstock h htidy.1 htidy.2) (fun _ _ h => h)
            fun _ s' hsame => ?_)
          change StockInOrder k s'.db _ ∧ NoStrayStock t k s'.db
          rw [hsame]
          exact ⟨hstock, h⟩
      | recipe recipe =>
          refine Prog.snd_of_wp (P := P) (Prog.wp_mono (RecipeStock.wp_fulfillOrderWithRecipe
            (s := { s with signals := signals }) hstock) (fun _ s' hend => ?_)
            fun _ s' hsame => ?_)
          · exact ⟨hend.1, fun hrefused => absurd hrefused hend.2, fun _ => hend.1.placed⟩
          · change StockInOrder k s'.db _ ∧ NoStrayStock t k s'.db
            rw [hsame]
            exact ⟨hstock, h⟩
  | reject now user notify signals =>
      exact Prog.snd_of_wp (P := P)
        (wp_rejectOrder_stock (s := { s with signals := signals }) hhappens hstock h htidy)
  | cancel now signals =>
      exact Prog.snd_of_wp (P := P)
        (wp_cancelOrder_stock (s := { s with signals := signals }) hhappens hstock h htidy)
  | meanwhile db remote => exact ⟨hhappens.stockInOrder hstock, hhappens.noStrayStock h⟩

/-- The delivery of a plan from the second pool, with the first one as a fallback. -/
def fallbackDelivery : Fulfilment :=
  .sources { pk := 5, plan := 3, deliveryMode := .directLinks }

/-- The second pool is empty. -/
def fallbackShop : Shop :=
  let stock := (sampleStock .exclusive).db
  { remote := {}
    db :=
      { stock with
        orders := Table.empty.put { pk := 7, plan := 3 }
        pools := stock.pools.put { pk := 2, allocationMode := .exclusive }
        deliverySources := (Table.empty.put
            { pk := 21, deliveryConfig := 5, sourceType := .inventoryPool
              inventoryPool := some 2 }).put
          { pk := 22, deliveryConfig := 5, sourceType := .inventoryPool
            inventoryPool := some 1, isFallback := true } } }

/-- The second pool is filled up. -/
def refilled (s : Shop) : Db :=
  { s.db with assets := s.db.assets.put { pk := 13, pool := 2, rawLink := "vless://c" } }

/-- The first attempt draws on the fallback and fails, the second one needs it no more. -/
def fallbackRun : List FulfilmentOp :=
  let first : FulfilmentOp := .attempt 0 none []
  let failed := fulfilmentStep (.ofTables [] []) fallbackDelivery 7 fallbackShop first
  [first, .meanwhile (refilled failed) {}, .attempt 1 none []]

theorem freshOrder_fallbackShop : FreshOrder 7 fallbackShop.db := by
  refine ⟨⟨?_, ?_⟩, by decide +kernel, by decide +kernel, by decide +kernel, ?_, by decide +kernel⟩
  · rintro ⟨o, ho, hcompleted⟩
    obtain rfl := Option.some.inj ho
    cases hcompleted
  · rintro ⟨o, ho, hrefused⟩
    obtain rfl := Option.some.inj ho
    revert hrefused
    decide
  · unfold AssetsLinked
    decide +kernel

/-- A failed attempt leaves a required source without stock and nothing to refuse. -/
def emptyRun : List FulfilmentOp := [.attempt 0 none [], .reject 1 none false []]

/-- The delivery of a plan from the second pool alone. -/
def emptyShop : Shop :=
  { fallbackShop with
    db := { fallbackShop.db with
      deliverySources := Table.empty.put
        { pk := 21, deliveryConfig := 5, sourceType := .inventoryPool, inventoryPool := some 2 } } }

theorem freshOrder_emptyShop : FreshOrder 7 emptyShop.db where
  unfinished := freshOrder_fallbackShop.unfinished
  nothing := freshOrder_fallbackShop.nothing
  noCup := freshOrder_fallbackShop.noCup
  noLinks := freshOrder_fallbackShop.noLinks
  linked := freshOrder_fallbackShop.linked
  adopted := freshOrder_fallbackShop.adopted

end Qasedak.Orders
