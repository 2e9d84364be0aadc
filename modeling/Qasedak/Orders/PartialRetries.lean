import Qasedak.Orders.CustomerView
import Qasedak.Orders.Readiness

/-! Retries of a partial delivery. A recipe adds to the cup, while an attempt from sources fills
it anew with what this attempt delivers. -/

namespace Qasedak.Orders

open Foundation Store Panels Prog

/-! ## What an attempt from sources gives back -/

/-- The links of the sources that succeeded. -/
def resultLinks (results : List SourceResult) : List DeliveredLink :=
  (results.filter (·.ok)).flatMap (·.links)

/-- The items that an attempt leaves in place: those of a cup that it does not fill. -/
def keptItems (config : DeliveryConfig) (db : Db) (k : ℕ) : List CupItem :=
  if config.deliveryMode = .subscription then [] else renderedItems (cupItems db k)

/-- The results have every link that the customer has and that is still alive, and something of
every source, apart from what stays in place. -/
structure GivesBack (alive : String → Prop) (config : DeliveryConfig) (k : ℕ) (db : Db)
    (results : List SourceResult) : Prop where
  links : ∀ link ∈ renderedLinks db k, alive link →
    link ∈ (shownLinks (resultLinks results)).map (strip ·.rawLink) ∨
      link ∈ (keptItems config db k).map (strip ·.link)
  origins : ∀ origin ∈ deliveredOrigins db k,
    origin ∈ (shownLinks (resultLinks results)).flatMap linkOrigins ∨
      origin ∈ (keptItems config db k).flatMap itemOrigins

variable {platform : Platform} {routing : Routing} {now : Instant} {actor : Option ℕ} {k : ℕ}
  {o : Order} {config : DeliveryConfig} {s : Shop} {db db' : Db} {alive : String → Prop}
  {links : List DeliveredLink} {results : List SourceResult}

theorem GivesBack.congr (h : GivesBack alive config k db results)
    (hitems : cupItems db' k = cupItems db k) (hdirect : directLinks db' k = directLinks db k) :
    GivesBack alive config k db' results where
  links link hlink := by
    rw [renderedLinks, hitems, hdirect] at hlink
    rw [keptItems, hitems]
    exact h.links link hlink
  origins origin horigin := by
    rw [deliveredOrigins, hitems, hdirect] at horigin
    rw [keptItems, hitems]
    exact h.origins origin horigin

/-- The items of new links render what the links show. -/
theorem renderedItems_deliveredItem :
    renderedItems (links.map deliveredItem) = (shownLinks links).map deliveredItem := by
  rw [renderedItems, shownLinks, List.filter_map]
  congr 1
  refine List.filter_congr fun link _ => ?_
  rw [Bool.eq_iff_iff]
  simp only [deliveredItem, Function.comp, true_and, decide_eq_true_eq]

theorem itemOrigins_deliveredItem (link : DeliveredLink) :
    itemOrigins (deliveredItem link) = linkOrigins link := by
  simp [itemOrigins, linkOrigins, deliveredItem]

/-- The database shows the links of an attempt, and what it left in place. -/
structure ShowsResults (config : DeliveryConfig) (k : ℕ) (db : Db)
    (delivered : List DeliveredLink) (db' : Db) : Prop where
  links : ∀ link, link ∈ (shownLinks delivered).map (strip ·.rawLink) ∨
    link ∈ (keptItems config db k).map (strip ·.link) → link ∈ renderedLinks db' k
  origins : ∀ origin, origin ∈ (shownLinks delivered).flatMap linkOrigins ∨
    origin ∈ (keptItems config db k).flatMap itemOrigins → origin ∈ deliveredOrigins db' k

/-- What `customerLinks` leaves in the cup and hands on to the order. -/
theorem wp_customerLinks_shown :
    wp (customerLinks platform now k config.deliveryMode links)
      (fun r s' => s'.db.orders = s.db.orders ∧
        (config.deliveryMode = .subscription ∧ r.directDeliveryLinks = [] ∧
            renderedItems (cupItems s'.db k) = (shownLinks links).map deliveredItem ∨
          config.deliveryMode ≠ .subscription ∧ r.directDeliveryLinks = links ∧
            cupItems s'.db k = cupItems s.db k))
      (fun _ _ => False) s := by
  rw [customerLinks, wp_ite]
  refine ⟨fun hmode => ?_, fun hmode => ⟨rfl, .inr ⟨hmode, rfl, rfl⟩⟩⟩
  rw [wp_bind]
  refine wp_mono wp_ensureSubscriptionCup ?_ fun _ _ h => h
  rintro cup s' ⟨_, horders, hitems⟩
  exact ⟨horders, .inl ⟨hmode, rfl, hitems.trans renderedItems_deliveredItem⟩⟩

/-- The end of an attempt: the customer's links are those of the results, or what they were. -/
theorem wp_finishPlanDelivery_shown (horder : (s.db.orders.get? k).isSome) :
    wp (finishPlanDelivery platform now actor k config results)
      (fun _ s' => (Completed k s.db → Completed k s'.db) ∧
        (SourcesDeliver config results →
          ShowsResults config k s.db (resultLinks results) s'.db) ∧
        (¬ SourcesDeliver config results →
          cupItems s'.db k = cupItems s.db k ∧ directLinks s'.db k = directLinks s.db k))
      (fun _ _ => False) s := by
  rw [finishPlanDelivery, wp_ite]
  refine ⟨fun hfailed => ?_, fun hfine => ?_⟩
  · rw [wp_bind, saveOrder, wp_writeDb]
    refine ⟨fun hdone => ?_, fun hdeliver => ?_, fun _ => ⟨rfl, ?_⟩⟩
    · obtain ⟨o, ho, hcompleted⟩ := hdone
      refine ⟨_, Db.get?_setOrder_self _ ho, save_status ?_⟩
      simp [finishFailedDelivery, hcompleted]
    · exact absurd hfailed (not_or.mpr hdeliver)
    · exact directLinks_setOrder _ fun o => rfl
  · rw [wp_bind]
    refine wp_mono wp_customerLinks_shown ?_ fun _ _ h => h
    rintro customer s₁ ⟨horders, hshown⟩
    rw [wp_bind, wp_readDb, wp_bind, saveOrder, wp_writeDb]
    obtain ⟨o, ho⟩ := Option.isSome_iff_exists.mp horder
    rw [← horders] at ho
    refine ⟨fun _ => ⟨_, Db.get?_setOrder_self _ ho, save_status rfl⟩, fun _ => ?_, fun hnot => ?_⟩
    · generalize hdb' : Db.setOrder s₁.db k _ _ = db'
      have hdirect : directLinks db' k = customer.directDeliveryLinks := by
        rw [← hdb', directLinks, Db.get?_setOrder_self _ ho]
        rfl
      have hitems : cupItems db' k = cupItems s₁.db k := by
        rw [← hdb']
        rfl
      rcases hshown with ⟨hmode, hlinks, hcup⟩ | ⟨hmode, hlinks, hcup⟩
      · have hkept : keptItems config s.db k = [] := if_pos hmode
        refine ⟨fun link h => ?_, fun origin h => ?_⟩
        · rw [hkept, List.map_nil, or_iff_left (by simp)] at h
          rw [renderedLinks, hitems, hcup, List.map_map]
          exact List.mem_append_right _ h
        · rw [hkept, List.flatMap_nil, or_iff_left (by simp)] at h
          rw [deliveredOrigins, hitems, hcup, List.flatMap_map]
          simp only [itemOrigins_deliveredItem]
          exact List.mem_append_right _ h
      · have hkept : keptItems config s.db k = renderedItems (cupItems s.db k) := if_neg hmode
        refine ⟨fun link h => ?_, fun origin h => ?_⟩
        · rw [renderedLinks, hdirect, hlinks, hitems, hcup, ← hkept]
          exact List.mem_append.mpr h
        · rw [deliveredOrigins, hdirect, hlinks, hitems, hcup, ← hkept]
          exact List.mem_append.mpr h
    · exact absurd (not_or.mp hfine) hnot

theorem ShowsResults.view (h : ShowsResults config k db (resultLinks results) db')
    (hback : GivesBack alive config k db results) (hcompleted : Completed k db → Completed k db') :
    customerView alive k db ≤ customerView alive k db' :=
  customerView_le (fun link hlink halive => h.links link (hback.links link hlink halive))
    (fun origin horigin => h.origins origin (hback.origins origin horigin)) hcompleted

theorem markOrderProvisioning_completed (h : o.status = .completed) :
    (markOrderProvisioning o).status = .completed := by
  simp [markOrderProvisioning, h]

/-- An attempt that gives everything back, or delivers nothing at all, takes nothing away. -/
theorem wp_executePlanDelivery_view
    (hback : wp (executeAttempt platform now config k)
      (fun results _ => SourcesDeliver config results → GivesBack alive config k s.db results)
      (fun _ _ => True) s) :
    wp (executePlanDelivery platform now actor k config)
      (fun _ s' => customerView alive k s.db ≤ customerView alive k s'.db)
      (fun _ s' => customerView alive k s.db ≤ customerView alive k s'.db) s := by
  rw [executePlanDelivery, wp_atomic, wp_bind, wp_readDb]
  dsimp only [id]
  rw [wp_ite]
  refine ⟨fun _ => ?_, fun _ => ?_⟩
  · rw [wp_bind, saveOrder, wp_writeDb]
    refine customerView_setOrder _ (fun o => ?_) fun o h => save_status ?_
    · rw [Order.save_metadata]
      rfl
    · simp [finishFailedDelivery, h]
  · rw [wp_bind, saveOrder, wp_writeDb, wp_bind, getOrder, wp_bind, wp_readDb, wp_orRaise]
    rw [executeAttempt, wp_bind, wp_readDb, wp_bind, saveOrder, wp_writeDb, wp_bind, getOrder,
      wp_bind, wp_readDb, wp_orRaise] at hback
    dsimp only [id] at hback ⊢
    set marked := s.db.setOrder k (fun o => (markOrderProvisioning o).save now) _ with hmarked
    have hview : customerView alive k s.db ≤ customerView alive k marked :=
      customerView_setOrder _ (fun o => by rw [Order.save_metadata]; rfl)
        fun o h => save_status (markOrderProvisioning_completed h)
    have hdirect : directLinks marked k = directLinks s.db k :=
      directLinks_setOrder _ fun o => by rw [Order.save_metadata]; rfl
    cases ho : marked.orders.get? k with
    | none => exact le_refl _
    | some o =>
        rw [ho] at hback
        dsimp only at hback ⊢
        rw [wp_bind]
        refine wp_mono (keeps_executeConfiguredSources.wp_and hback) ?_ fun _ _ _ => le_refl _
        rintro results s₁ ⟨hresults, hkept⟩
        have horders : s₁.db.orders = marked.orders := orders_of_withoutDeliveries hkept.view
        have hcups : s₁.db.cups = marked.cups := cups_of_withoutDeliveries hkept.view
        have hitems₁ : cupItems s₁.db k = cupItems s.db k := cupItems_congr hcups
        have hdirect₁ : directLinks s₁.db k = directLinks s.db k := by
          rw [directLinks, horders]
          exact hdirect
        have hview₁ : customerView alive k s.db ≤ customerView alive k s₁.db :=
          hview.trans (customerView_of_tables hcups horders)
        have horder : (s₁.db.orders.get? k).isSome := by
          rw [horders, ho]
          rfl
        refine wp_mono (wp_finishPlanDelivery_shown horder) ?_ fun _ _ h => h.elim
        rintro _ s' ⟨hcompleted, hdelivered, hfailed⟩
        refine hview₁.trans ?_
        by_cases hdeliver : SourcesDeliver config results
        · exact (hdelivered hdeliver).view ((hresults hdeliver).congr hitems₁ hdirect₁) hcompleted
        · exact customerView_congr (hfailed hdeliver).1 (hfailed hdeliver).2 hcompleted

/-! ## A retry -/

section Model

variable (platform : Platform) (routing : Routing)
  (assignAsset : Instant → ℕ → ℕ → ShopM (Option String)) (k : ℕ)

/-- A manual retry, or what others do to the shop and its panels meanwhile. -/
inductive RetryOp
  | retry (now : Instant) (actor : Option ℕ) (signals : List Signal)
  | meanwhile (db : Db) (remote : Remote)

def retryStep (s : Shop) : RetryOp → Shop
  | .retry now actor signals =>
      (retryOrderCompletion (shopDelivery platform routing assignAsset) now actor k
        { s with signals := signals }).2
  | .meanwhile db remote => { s with db := db, remote := remote }

/-- The plan is delivered from sources or by a recipe. -/
def DeliveryPath.IsFulfilment : DeliveryPath → Prop
  | .sources _ | .recipe _ => True
  | .modern | .legacy => False

/-- Others leave the order's cup, its links and its completion alone, and the plan goes on being
delivered from some sources or by some recipe. -/
def RetryOp.Happens (s : Shop) : RetryOp → Prop
  | .retry _ _ _ => ∀ o, s.db.orders.get? k = some o → (deliveryPath s.db o).IsFulfilment
  | .meanwhile db _ => cupItems db k = cupItems s.db k ∧ directLinks db k = directLinks s.db k ∧
      (Completed k s.db → Completed k db)

/-- The sources of a retry, for the order as the approval marks it. -/
def retriedAttempt (now : Instant) (config : DeliveryConfig) : ShopM (List SourceResult) := do
  let db ← Prog.readDb id
  saveOrder now k (noteAttempt (shopDelivery platform routing assignAsset) db) (fun _ => rfl)
  executeAttempt platform now config k

/-- A retry from sources that delivers gives back every link that is alive, and something of
every source. -/
def RetryOp.Regains (alive : Shop → String → Prop) (s : Shop) : RetryOp → Prop
  | .retry now _ signals => ∀ o config, s.db.orders.get? k = some o →
      deliveryPath s.db o = .sources config →
        wp (retriedAttempt platform routing assignAsset k now config)
          (fun results _ => SourcesDeliver config results →
            GivesBack (alive s) config k s.db results)
          (fun _ _ => True) { s with signals := signals }
  | .meanwhile _ _ => True

end Model

variable {assignAsset : Instant → ℕ → ℕ → ShopM (Option String)}

/-- The configuration in force and the recipe depend on the plan of the order. -/
theorem deliveryPath_congr {o' : Order} (hplan : o'.plan = o.plan)
    (hconfigs : db'.deliveryConfigs = db.deliveryConfigs) (hrecipes : db'.recipes = db.recipes)
    (h : (deliveryPath db o).IsFulfilment) : deliveryPath db' o' = deliveryPath db o := by
  have hconfig : activeDeliveryConfigForPlan db' o'.plan =
      activeDeliveryConfigForPlan db o.plan := by
    rw [activeDeliveryConfigForPlan, activeDeliveryConfigForPlan, hplan, hconfigs]
  have hrecipe : getActiveRecipeForPlan db' o'.plan = getActiveRecipeForPlan db o.plan := by
    rw [getActiveRecipeForPlan, getActiveRecipeForPlan, hplan, hrecipes]
  have hclient : ¬ (clientPath db o).IsFulfilment := by
    unfold clientPath
    split <;> exact id
  unfold deliveryPath at h ⊢
  rw [hconfig, hrecipe]
  cases hactive : activeDeliveryConfigForPlan db o.plan with
  | some config =>
      simp only [hactive] at h ⊢
      by_cases hmode : config.deliveryMode = .globalFallback
      · rw [if_pos hmode] at h
        exact absurd h hclient
      · rw [if_neg hmode, if_neg hmode]
  | none =>
      simp only [hactive] at h ⊢
      cases hfound : getActiveRecipeForPlan db o.plan with
      | some recipe => rfl
      | none =>
          simp only [hfound] at h
          exact absurd h hclient

theorem grows_rewardReferrer : Grows (customerView alive k) (rewardReferrer now k) := fun s =>
  wp_rewardReferrer_frame (s := s) fun referrals ledgers =>
    show _ ≤ customerView alive k { s.db with referrals := referrals, ledgers := ledgers } from
      customerView_of_tables rfl rfl

theorem grows_recordFailure {r : ProvisioningResult} :
    Grows (customerView alive k) (recordFailure now k r) :=
  (grows_of_id keeps_getOrder).bind fun _ => grows_saveOrder _ (fun _ => rfl) fun _ h => h

theorem keeps_notifyOrderEvent : Keeps id notifyOrderEvent := keeps_remoteRead _ _

/-- The delivery of a retry takes nothing from the customer. -/
theorem wp_deliverOrder_view (ho : s.db.orders.get? k = some o)
    (hpath : (deliveryPath s.db o).IsFulfilment)
    (hback : ∀ config, deliveryPath s.db o = .sources config →
      wp (executeAttempt platform now config k)
        (fun results _ => SourcesDeliver config results → GivesBack alive config k s.db results)
        (fun _ _ => True) s) :
    wp (deliverOrder platform routing now actor k)
      (fun _ s' => customerView alive k s.db ≤ customerView alive k s'.db)
      (fun _ s' => customerView alive k s.db ≤ customerView alive k s'.db) s := by
  rw [deliverOrder, wp_bind, getOrder, wp_bind, wp_readDb, wp_orRaise, ho]
  dsimp only
  rw [wp_bind, wp_readDb]
  dsimp only [id]
  cases hcase : deliveryPath s.db o with
  | sources config => exact wp_executePlanDelivery_view (hback config hcase)
  | recipe recipe => exact grows_fulfillOrderWithRecipe s
  | modern =>
      rw [hcase] at hpath
      exact hpath.elim
  | legacy =>
      rw [hcase] at hpath
      exact hpath.elim

variable {delivery : Delivery}

/-- The transaction of an approval that is no renewal. -/
theorem wp_approveTransaction_view (ho : s.db.orders.get? k = some o)
    (hrenewal : orderIsRenewal o = false)
    (hdeliver : ∀ db, db = s.db.setOrder k (fun o => (noteAttempt delivery s.db o).save now)
        (fun o => by rw [Order.save_pk]; rfl) →
      wp (delivery.deliver now actor k)
        (fun _ s' => customerView alive k db ≤ customerView alive k s'.db)
        (fun _ s' => customerView alive k db ≤ customerView alive k s'.db) { s with db := db })
    {source : Source} :
    wp (approveTransaction delivery now actor source k)
      (fun _ s' => customerView alive k s.db ≤ customerView alive k s'.db)
      (fun _ s' => customerView alive k s.db ≤ customerView alive k s'.db) s := by
  rw [approveTransaction, wp_atomic, wp_bind, getOrder, wp_bind, wp_readDb, wp_orRaise, ho]
  dsimp only
  rw [wp_bind, wp_readDb]
  dsimp only [id]
  split
  · exact le_refl _
  · rw [hrenewal, if_neg (by simp), wp_bind]
    unfold saveOrder
    rw [wp_writeDb, wp_bind]
    generalize hdb : Db.setOrder s.db k _ _ = db
    have hnoted : customerView alive k s.db ≤ customerView alive k db := by
      rw [← hdb]
      exact customerView_setOrder _ (fun o => by rw [Order.save_metadata]; rfl)
        fun o h => save_status h
    refine wp_mono (hdeliver db hdb.symm) (fun r s' h => hnoted.trans h) fun _ _ _ => le_refl _

theorem wp_approveOrder_view {source : Source} {notify : Bool}
    (h : wp (approveTransaction delivery now actor source k)
      (fun _ s' => customerView alive k s.db ≤ customerView alive k s'.db)
      (fun _ s' => customerView alive k s.db ≤ customerView alive k s'.db) s) :
    wp (approveOrder delivery now actor source notify k)
      (fun _ s' => customerView alive k s.db ≤ customerView alive k s'.db)
      (fun _ s' => customerView alive k s.db ≤ customerView alive k s'.db) s := by
  have hend : ∀ r : ProvisioningResult, Grows (customerView alive k) (do
      Prog.checkpoint
      if r.ok then do
        rewardReferrer now k
        if notify ∧ ¬ r.alreadyProvisioned then notifyOrderEvent
      else recordFailure now k r
      return r : ShopM ProvisioningResult) := by
    intro r
    refine (grows_of_id keeps_checkpoint).bind fun _ => ?_
    refine Grows.ite (grows_rewardReferrer.bind fun _ => ?_)
      (grows_recordFailure.bind fun _ => grows_pure _)
    exact Grows.ite ((grows_of_id keeps_notifyOrderEvent).bind fun _ => grows_pure _) (grows_pure _)
  rw [approveOrder, wp_bind]
  refine wp_mono h (fun outcome s' hs' => ?_) fun _ _ h => h
  cases outcome with
  | answered r => exact hs'
  | attempted r => exact (hend r).after hs'

/-- A retry of a completed order. -/
theorem wp_retryOrderCompletion_view (hcompleted : Completed k s.db)
    (hpath : ∀ o, s.db.orders.get? k = some o → (deliveryPath s.db o).IsFulfilment)
    (hback : ∀ o config, s.db.orders.get? k = some o → deliveryPath s.db o = .sources config →
      wp (retriedAttempt platform routing assignAsset k now config)
        (fun results _ => SourcesDeliver config results → GivesBack alive config k s.db results)
        (fun _ _ => True) s) :
    wp (retryOrderCompletion (shopDelivery platform routing assignAsset) now actor k)
      (fun _ s' => customerView alive k s.db ≤ customerView alive k s'.db)
      (fun _ s' => customerView alive k s.db ≤ customerView alive k s'.db) s := by
  obtain ⟨o, ho, hstatus⟩ := hcompleted
  rw [retryOrderCompletion, wp_bind, getOrder, wp_bind, wp_readDb, wp_orRaise, ho]
  dsimp only
  rw [wp_bind, wp_readDb, wp_ite]
  refine ⟨fun hretry => ?_, fun _ => le_refl _⟩
  have hpartial : orderHasPartialDelivery o = true := by
    simp [canRetryOrder, hstatus] at hretry
    exact hretry.1.1.2
  have hrenewal : orderIsRenewal o = false := by
    simp [orderHasPartialDelivery] at hpartial
    exact hpartial.1
  rw [approveAndProvisionOrder, wp_bind, getOrder, wp_bind, wp_readDb, wp_orRaise, ho]
  dsimp only
  rw [wp_ite]
  refine ⟨fun _ => ?_, fun _ => ?_⟩
  · -- The assignment of an asset answers a completed order at once.
    rw [completeInventoryAssignment, wp_bind, assignmentTransaction, wp_atomic, wp_bind, getOrder,
      wp_bind, wp_readDb, wp_orRaise, ho]
    dsimp only
    rw [wp_bind, wp_readDb, if_pos hstatus]
    exact le_refl _
  · rw [if_pos (by simp [hrenewal])]
    refine wp_approveOrder_view (wp_approveTransaction_view ho hrenewal fun db hdb => ?_)
    have hnoted : db.orders.get? k =
        some ((noteAttempt (shopDelivery platform routing assignAsset) s.db o).save now) := by
      rw [hdb]
      exact Db.get?_setOrder_self _ ho
    have hsame : deliveryPath db
        ((noteAttempt (shopDelivery platform routing assignAsset) s.db o).save now) =
          deliveryPath s.db o := by
      refine deliveryPath_congr rfl ?_ ?_ (hpath o ho)
      · rw [hdb]
        rfl
      · rw [hdb]
        rfl
    refine wp_deliverOrder_view (s := { s with db := db }) hnoted ?_ fun config hconfig => ?_
    · rw [hsame]
      exact hpath o ho
    · rw [hsame] at hconfig
      have hattempt := hback o config ho hconfig
      rw [retriedAttempt, wp_bind, wp_readDb, wp_bind] at hattempt
      unfold saveOrder at hattempt
      rw [wp_writeDb] at hattempt
      rw [hdb]
      refine wp_mono hattempt (fun results s' hresults hdeliver => ?_) fun _ _ h => h
      exact (hresults hdeliver).congr rfl (directLinks_setOrder _ fun o => by
        rw [Order.save_metadata]; rfl)

/-! ## Runs -/

/-- What a step leaves to the customer of a completed order. -/
theorem customerView_retryStep {alive : Shop → String → Prop} {op : RetryOp}
    (hcompleted : Completed k s.db) (hhappens : op.Happens k s)
    (hregains : op.Regains platform routing assignAsset k alive s) :
    customerView (alive s) k s.db ≤
      customerView (alive s) k (retryStep platform routing assignAsset k s op).db := by
  cases op with
  | retry now actor signals =>
      exact snd_of_wp (P := fun s' : Shop => customerView (alive s) k s.db ≤
        customerView (alive s) k s'.db) (wp_retryOrderCompletion_view
          (s := { s with signals := signals }) hcompleted hhappens hregains)
  | meanwhile db remote => exact customerView_congr hhappens.1 hhappens.2.1 hhappens.2.2

/-- A paid order of a plan with three sources: an inbound, a pool with one asset and an empty
pool. -/
def partialShop : Shop where
  db :=
    { orders := Table.empty.put
        { pk := 1, publicId := "o1", orderTrackingCode := "T1", plan := 3, isPaid := true }
      sms := .empty
      clients := .empty
      inbounds := Table.empty.put { pk := 5, panel := 4, inboundId := 7 }
      panels := Table.empty.put { pk := 4, capabilityProfile := .modernSingleNode }
      plans := Table.empty.put
        { pk := 3, price := 90, trafficLimitBytes := 1000, durationDays := 30, deviceLimit := 2 }
      stores := .empty
      automations := .empty
      deliveryConfigs := Table.empty.put
        { pk := 9, plan := 3, deliveryMode := .subscription, failurePolicy := .partialAllowed }
      deliverySources := ((Table.empty.put
        { pk := 11, deliveryConfig := 9, sourceType := .panelInbound, inbound := some 5 }).put
        { pk := 12, deliveryConfig := 9, sourceType := .inventoryPool, inventoryPool := some 1 }).put
        { pk := 13, deliveryConfig := 9, sourceType := .inventoryPool, inventoryPool := some 2 }
      pools := (Table.empty.put { pk := 1 }).put { pk := 2 }
      assets := Table.empty.put { pk := 21, pool := 1, rawLink := "vless://stock" } }
  remote := {}

def partialPlatform : Platform :=
  .ofTables
    [("qasedak|paid-provisioning|o1|T1|4|local|7|11001", "15f64200-d236-5153-ba35-9a021ecdca8a")]
    [("sub:qasedak|paid-provisioning|o1|T1|4|local|7|11001",
      "843f5be0d8a72d02633216ac65f7616bb03ef92b622f75eeed53adff08e29d78")]

def partialStep : Shop → RetryOp → Shop :=
  retryStep partialPlatform ⟨fun _ _ _ => .ok none⟩ (fun _ _ _ => return none) 1

/-- The order is completed without the third source. -/
def partlyDelivered : Shop := partialStep partialShop (.retry 0 none [])

/-- Its retry, while the panel is in reach. -/
def secondAttempt : ShopM (List SourceResult) :=
  retriedAttempt partialPlatform ⟨fun _ _ _ => .ok none⟩ (fun _ _ _ => return none) 1 1
    { pk := 9, plan := 3, deliveryMode := .subscription, failurePolicy := .partialAllowed }

theorem secondAttempt_givesBack {results : List SourceResult}
    (h : (secondAttempt { partlyDelivered with signals := [] }).1 = .ok results) :
    GivesBack (fun _ => True)
      { pk := 9, plan := 3, deliveryMode := .subscription, failurePolicy := .partialAllowed } 1
      partlyDelivered.db results := by
  have hall : (match (secondAttempt { partlyDelivered with signals := [] }).1 with
      | .ok results => decide ((∀ link ∈ renderedLinks partlyDelivered.db 1,
            link ∈ (shownLinks (resultLinks results)).map (strip ·.rawLink)) ∧
          ∀ origin ∈ deliveredOrigins partlyDelivered.db 1,
            origin ∈ (shownLinks (resultLinks results)).flatMap linkOrigins)
      | .error _ => true) = true := by decide +kernel
  rw [h] at hall
  obtain ⟨hlinks, horigins⟩ := of_decide_eq_true hall
  exact ⟨fun link hlink _ => .inl (hlinks link hlink), fun origin horigin =>
    .inl (horigins origin horigin)⟩

theorem completed_partlyDelivered : Completed 1 partlyDelivered.db := by
  have hstatus : (partlyDelivered.db.orders.get? 1).map (·.status) = some .completed := by
    decide +kernel
  exact Option.map_eq_some_iff.mp hstatus

theorem deliveryPath_partlyDelivered {o : Order} (ho : partlyDelivered.db.orders.get? 1 = some o) :
    deliveryPath partlyDelivered.db o = .sources
      { pk := 9, plan := 3, deliveryMode := .subscription, failurePolicy := .partialAllowed } := by
  have hpath : (partlyDelivered.db.orders.get? 1).map (deliveryPath partlyDelivered.db) =
      some (.sources
        { pk := 9, plan := 3, deliveryMode := .subscription, failurePolicy := .partialAllowed }) := by
    decide +kernel
  rw [ho] at hpath
  exact Option.some.inj hpath

end Qasedak.Orders
