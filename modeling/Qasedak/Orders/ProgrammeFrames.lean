import Qasedak.Orders.Delivery
import Qasedak.Orders.ReferralProgramme
import Qasedak.Orders.ServiceFrames

/-! What a delivery does to the order it is for, and that the referral programme sees nothing
else of it. -/

namespace Qasedak.Orders

open Foundation Store Panels Prog

variable {platform : Platform} {routing : Routing} {now : Instant} {p : Panel} {i : Inbound}
  {plan : Plan} {inbounds : List Inbound} {identity : ClientIdentity} {o : Order} {k : ℕ}

/-- What a delivery leaves alone: what the referral programme sees, and the reviews of order
automation. -/
def Db.books (db : Db) : Programme × Automations := (db.programme, db.automations)

theorem keepsBooks_of_services {α : Type} {q : ShopM α} (h : Keeps Db.withoutServices q) :
    Keeps Db.books q :=
  h.of_view fun db db' hdb =>
    (congrArg Db.books hdb : db.withoutServices.books = db'.withoutServices.books)

theorem keepsBooks_of_id {α : Type} {q : ShopM α} (h : Keeps id q) : Keeps Db.books q :=
  h.of_view fun _ _ hdb => congrArg Db.books hdb

theorem keepsProgramme_of_books {α : Type} {q : ShopM α} (h : Keeps Db.books q) :
    Keeps Db.programme q :=
  h.of_view fun _ _ hdb => congrArg Prod.fst hdb

/-! ## Orders -/

@[simp] theorem orderStanding_save (o : Order) (now : Instant) :
    orderStanding (o.save now) = orderStanding o := by
  by_cases h : o.status = .pending <;> simp [orderStanding, Order.save, h]

theorem programme_setOrder {f : Order → Order} {hf : ∀ o, (f o).pk = o.pk}
    (h : ∀ o, orderStanding (f o) = orderStanding o) (db : Db) :
    (db.setOrder k f hf).programme = db.programme := by
  have hrows : (db.setOrder k f hf).orders.rows.map orderStanding =
      db.orders.rows.map orderStanding := by
    rw [Db.setOrder, Table.rows_modify, List.map_map]
    refine List.map_congr_left fun o _ => ?_
    by_cases ho : o.pk = k <;> simp [ho, h]
  exact congrArg (fun rows => { db.programme with orders := rows }) hrows

theorem keepsBooks_saveOrder {f : Order → Order} {hf : ∀ o, (f o).pk = o.pk}
    (h : ∀ o, orderStanding (f o) = orderStanding o) : Keeps Db.books (saveOrder now k f hf) :=
  keeps_writeDb fun db => congrArg (fun p => (p, db.automations))
    (programme_setOrder (fun o => by rw [orderStanding_save, h]) db)

theorem keepsBooks_getOrder : Keeps Db.books (getOrder k) :=
  (keeps_readDb _).bind fun _ => keeps_orRaise _ _

theorem keepsBooks_getPlan : Keeps Db.books (getPlan k) :=
  keepsBooks_of_services keeps_getPlan

/-! ## Clients on panels -/

theorem keepsBooks_ensureAll {ι α β : Type} {ensure : ι → ShopM α} {record : ι → α → ShopM β}
    {indices : List ι} (hensure : ∀ j, Keeps Db.books (ensure j))
    (hrecord : ∀ j a, Keeps Db.books (record j a)) :
    Keeps Db.books (ensureAll ensure record indices) :=
  Keeps.forEach fun j _ => (hensure j).bind fun a => (hrecord j a).bind fun _ => keeps_pure _

theorem keepsBooks_ensureBundleClient :
    Keeps Db.books (ensureBundleClient platform now p inbounds plan identity) :=
  (keepsBooks_of_id keeps_ensureBundle).bind fun _ => keeps_orRaise _ _

theorem keepsBooks_ensureUser :
    Keeps Db.books (ensureUser platform now p inbounds plan identity) :=
  (keepsBooks_of_id keeps_ensureUserLinks).bind fun _ => keeps_pure _

theorem keepsBooks_createInactiveClientDetails {request : ClientRequest} :
    Keeps Db.books (createInactiveClientDetails platform now p i request) := by
  refine Keeps.onError (Keeps.bind ?_ fun _ => keeps_pure _) fun _ => keeps_pure _
  refine (keeps_readDb _).bind fun _ => (keeps_ofExcept _).bind fun _ => ?_
  refine (keeps_ofExcept _).bind fun _ => Keeps.ite (keeps_raise _) ?_
  exact (keeps_remoteWrite _ _ _).bind fun _ => (keeps_remoteRead _ _).bind fun _ => keeps_pure _

theorem keepsBooks_enableClient {c : VPNClient} : Keeps Db.books (enableClient now c) := by
  refine Keeps.onError (Keeps.bind ?_ fun _ => keeps_pure _) fun _ => keeps_pure _
  refine (keeps_readDb _).bind fun _ => (keeps_ofExcept _).bind fun ip => ?_
  refine (keeps_ofExcept _).bind fun _ => (keeps_remoteRead _ _).bind fun _ => ?_
  exact Keeps.ite (keeps_pure _) ((keeps_orRaise _ _).bind fun _ => keeps_remoteWrite _ _ _)

/-! ## Inventory and cups -/

theorem keepsBooks_writeAllocations {assets : List ℕ} {cup order : Option ℕ}
    {mode : AllocationMode} : Keeps Db.books (writeAllocations assets cup order mode) := by
  refine (keeps_writeDb (by exact fun _ => rfl)).bind fun _ => Keeps.forEach fun _ _ => ?_
  exact (keeps_readDb _).bind fun _ => (keeps_writeDb (by exact fun _ => rfl)).bind fun _ => keeps_pure _

theorem keepsBooks_topUpAllocations {pool : Option ℕ} {quantity : ℕ} {cup order : Option ℕ}
    {mode : Option AllocationMode} {has : ConfigAllocation → Bool}
    {label : ConfigAllocation → ConfigAllocation} {hlabel : ∀ a, (label a).pk = a.pk} :
    Keeps Db.books
      (topUpAllocations now pool quantity cup order mode has label hlabel) := by
  refine (keeps_readDb _).bind fun _ => Keeps.ite (keeps_pure _) (Keeps.bind ?_ fun _ => ?_)
  · refine (keeps_readDb _).bind fun _ => (keeps_orRaise _ _).bind fun _ => ?_
    refine Keeps.ite (keeps_raise _) (Keeps.ite (keeps_raise _) ?_)
    exact (keeps_ofExcept _).bind fun _ => keepsBooks_writeAllocations
  · exact (Keeps.forEach fun _ _ => keeps_writeDb (by exact fun _ => rfl)).bind fun _ => keeps_pure _

theorem keepsBooks_ensureCup : Keeps Db.books (ensureCup k) := by
  refine (keeps_readDb _).bind fun db => ?_
  split
  · exact keeps_pure _
  · exact (keeps_writeDb (by exact fun _ => rfl)).bind fun _ => keeps_pure _

theorem keepsBooks_customerLinks {mode : DeliveryMode} {links : List DeliveredLink} :
    Keeps Db.books (customerLinks platform now k mode links) := by
  refine Keeps.ite (Keeps.bind ?_ fun _ => keeps_pure _) (keeps_pure _)
  refine keepsBooks_ensureCup.bind fun _ => (keeps_readDb _).bind fun _ => ?_
  refine (keeps_writeDb (by exact fun _ => rfl)).bind fun _ => ?_
  exact (keeps_writeDb (by exact fun _ => rfl)).bind fun _ => keeps_pure _

theorem keepsBooks_createOrReuseOrderCup : Keeps Db.books (createOrReuseOrderCup now k) := by
  refine keepsBooks_ensureCup.bind fun _ => (keeps_readDb _).bind fun _ => ?_
  exact (keeps_writeDb (by exact fun _ => rfl)).bind fun _ => keeps_pure _

theorem keepsBooks_addCupItems {cup rule count : ℕ} {links : List DeliveredLink} :
    Keeps Db.books (addCupItems cup rule links count) :=
  Keeps.forEach fun _ _ => (keeps_writeDb (by exact fun _ => rfl)).bind fun _ => keeps_pure _

/-! ## Sources of a plan -/

theorem keepsBooks_executeInventorySource {source : DeliverySource} :
    Keeps Db.books (executeInventorySource now o source) := by
  refine Keeps.bind (Keeps.caught ?_) fun _ => keeps_pure _
  exact keepsBooks_topUpAllocations.bind fun _ => (keeps_readDb _).bind fun _ => keeps_pure _

theorem keepsBooks_executeSources {dynamicSubscription : Bool}
    {sources : List DeliverySource} :
    Keeps Db.books (executeSources platform now o dynamicSubscription sources) := by
  refine (keeps_readDb _).bind fun _ => Keeps.bind ?_ fun _ => ?_
  · exact Keeps.forEach fun _ _ => keepsBooks_of_services keeps_executePanelGroup
  · exact Keeps.forEach fun _ _ =>
      keepsBooks_executeInventorySource.bind fun _ => keeps_pure _

theorem keepsBooks_executeConfiguredSources {dynamicSubscription : Bool}
    {sources : List DeliverySource} :
    Keeps Db.books (executeConfiguredSources platform now o dynamicSubscription sources) :=
  keepsBooks_executeSources.bind fun _ =>
    Keeps.ite (keepsBooks_executeSources.bind fun _ => keeps_pure _) (keeps_pure _)

/-! ## Rules of a recipe -/

theorem keepsBooks_createRuleClient {request : ClientRequest} :
    Keeps Db.books (createRuleClient platform now p inbounds request) := by
  refine Keeps.ite ((keepsBooks_of_id keeps_createPasarguardUser).bind fun _ => keeps_pure _)
    (Keeps.onError ?_ fun _ => keeps_raise _)
  split
  · exact (keepsBooks_of_id keeps_createEnabledClient).bind fun _ => keeps_pure _
  · exact (keepsBooks_of_id keeps_createEnabledMultiInboundClient).bind fun _ => keeps_pure _

theorem keepsBooks_ruleClientLinks :
    Keeps Db.books (ruleClientLinks platform now o p inbounds plan identity) := by
  refine Keeps.ite (Keeps.bind ?_ fun _ => ?_) keepsBooks_createRuleClient
  · exact Keeps.forEach fun _ _ =>
      (keepsBooks_of_id keeps_lookupExistingRemoteClient).bind fun _ => keeps_pure _
  · exact Keeps.ite (keeps_pure _) (Keeps.ite (keeps_raise _) keepsBooks_createRuleClient)

theorem keepsBooks_fillRuleClient {cup : ℕ} {rule : FillerRule} {progress : RuleProgress} :
    Keeps Db.books
      (fillRuleClient platform now o p inbounds plan cup rule identity progress) := by
  refine Keeps.ite (keeps_pure _) (keepsBooks_ruleClientLinks.caught.bind fun outcome => ?_)
  cases outcome with
  | error e => exact keeps_pure _
  | ok links =>
      exact Keeps.ite (keeps_pure _) (keepsBooks_addCupItems.bind fun _ => keeps_pure _)

theorem keepsBooks_runRule {cup : ℕ} {rule : FillerRule} :
    Keeps Db.books (runRule platform now o cup rule) := by
  refine (keeps_readDb _).bind fun db => ?_
  split
  · exact keeps_pure _
  split
  · refine (keeps_readDb _).bind fun db => ?_
    dsimp only
    split
    · exact keeps_pure _
    · refine keepsBooks_getPlan.bind fun _ => Keeps.bind ?_ fun _ => keeps_pure _
      exact Keeps.forEach fun _ _ => keepsBooks_fillRuleClient
  · refine Keeps.bind (Keeps.caught ?_) fun outcome => ?_
    · exact (keeps_readDb _).bind fun _ =>
        Keeps.ite (keeps_raise _) keepsBooks_topUpAllocations
    · cases outcome with
      | error e => exact keeps_pure _
      | ok allocations =>
          exact (keeps_readDb _).bind fun _ =>
            keepsBooks_addCupItems.bind fun _ => keeps_pure _

theorem keepsBooks_runRules {cup : ℕ} {strict : Bool} {rules : List FillerRule} :
    Keeps Db.books (runRules platform now o cup strict rules) :=
  Keeps.forEach fun _ _ =>
    Keeps.ite (keeps_pure _) (keepsBooks_runRule.bind fun _ => keeps_pure _)

/-! ## Legacy panels -/

theorem keepsBooks_ensureLegacyOrderClient :
    Keeps Db.books (ensureLegacyOrderClient o plan) :=
  (keeps_readDb _).bind fun _ => Keeps.ite (keeps_pure _) (keeps_writeDb (by exact fun _ => rfl))

theorem orderStanding_syncOrderPrimaryClientFields (primary : Option VPNClient) (o : Order) :
    orderStanding (syncOrderPrimaryClientFields primary o) = orderStanding o := by
  cases primary <;> rfl

theorem keepsBooks_provisionOneClient {username : String} {index : ℕ} :
    Keeps Db.books (provisionOneClient platform now o plan p i username index) := by
  refine (keeps_readDb _).bind fun db => ?_
  refine (keepsBooks_of_id keeps_lookupExistingRemoteClient).caught.bind fun found => ?_
  cases found with
  | error e => exact keeps_pure _
  | ok found =>
      cases found with
      | some result =>
          refine (keeps_pure _).bind fun result => ?_
          cases result with
          | none =>
              exact (keepsBooks_saveOrder (by exact fun _ => rfl)).bind fun _ => keeps_pure _
          | some result =>
              exact (keeps_writeDb (by exact fun _ => rfl)).bind fun _ =>
                (keeps_writeDb (by exact fun _ => rfl)).bind fun _ => keeps_pure _
      | none =>
          refine keepsBooks_createInactiveClientDetails.bind fun result => ?_
          cases result with
          | none =>
              exact (keepsBooks_saveOrder (by exact fun _ => rfl)).bind fun _ => keeps_pure _
          | some result =>
              exact (keeps_writeDb (by exact fun _ => rfl)).bind fun _ =>
                (keeps_writeDb (by exact fun _ => rfl)).bind fun _ => keeps_pure _

theorem keepsBooks_provisionOn {missing : ℕ} :
    Keeps Db.books (provisionOn platform now k missing i) := by
  refine (keepsBooks_saveOrder (by exact fun _ => rfl)).bind fun _ => ?_
  refine keepsBooks_getOrder.bind fun o => (keeps_readDb _).bind fun _ => ?_
  refine keepsBooks_getPlan.bind fun _ => (keeps_orRaise _ _).bind fun _ => ?_
  refine Keeps.bind (Keeps.forEach fun _ failure => ?_) fun failure => ?_
  · cases failure with
    | some failure => exact keeps_pure _
    | none => exact keepsBooks_provisionOneClient
  · cases failure with
    | some failure => exact keeps_pure _
    | none =>
        refine (keeps_readDb _).bind fun _ => Keeps.bind ?_ fun _ => keeps_pure _
        exact keepsBooks_saveOrder (orderStanding_syncOrderPrimaryClientFields _)

theorem keepsBooks_provisionMissingPanelClient :
    Keeps Db.books (provisionMissingPanelClient platform routing now k) := by
  refine keepsBooks_getOrder.bind fun o => keepsBooks_getPlan.bind fun _ => ?_
  refine keepsBooks_ensureLegacyOrderClient.bind fun _ => (keeps_readDb _).bind fun db => ?_
  refine Keeps.ite (keeps_pure _) ?_
  split
  · exact keeps_pure _
  · exact keeps_pure _
  · exact keepsBooks_provisionOn

theorem keepsBooks_enableClients {clients : List VPNClient} :
    Keeps Db.books (enableClients now plan clients) := by
  refine Keeps.forEach fun c failure => ?_
  cases failure with
  | some failure => exact keeps_pure _
  | none =>
      refine (keeps_readDb _).bind fun _ => Keeps.ite (keeps_pure _) (Keeps.ite (keeps_pure _) ?_)
      refine keepsBooks_enableClient.bind fun _ => Keeps.ite ?_ (keeps_pure _)
      exact (keeps_writeDb (by exact fun _ => rfl)).bind fun _ => keeps_pure _

/-! ## Renewals -/

theorem keepsBooks_saveIntent {intent : RenewalIntent} :
    Keeps Db.books (saveIntent now k intent) :=
  keepsBooks_saveOrder (by exact fun _ => rfl)

theorem keepsBooks_postClientResetTraffic {email : String} :
    Keeps Db.books (postClientResetTraffic p i email) := by
  unfold postClientResetTraffic
  split
  · exact (keeps_remoteRead _ _).bind fun _ => keeps_remoteWrite _ _ _
  · exact (keeps_pure _).bind fun _ => keeps_remoteWrite _ _ _

theorem keepsBooks_renewClient {c : VPNClient} :
    Keeps Db.books (renewClient now c plan k) := by
  refine Keeps.onError (Keeps.bind ?_ fun _ => keeps_pure _) fun _ => keeps_pure _
  refine (keeps_readDb _).bind fun _ => (keeps_ofExcept _).bind fun ip => ?_
  refine (keeps_ofExcept _).bind fun _ => (keeps_remoteRead _ _).bind fun target => ?_
  refine keepsBooks_getOrder.bind fun o => (keeps_ofExcept _).bind fun intent => ?_
  refine Keeps.ite (keeps_raise _) (Keeps.ite (keeps_raise _) (Keeps.bind ?_ fun _ => keeps_pure _))
  refine keepsBooks_saveIntent.bind fun _ => Keeps.bind ?_ fun _ => ?_
  · exact Keeps.ite (keeps_pure _) (keeps_remoteWrite _ _ _)
  · refine Keeps.ite (keeps_pure _) (keepsBooks_saveIntent.bind fun _ => ?_)
    exact keepsBooks_postClientResetTraffic.bind fun _ => keepsBooks_saveIntent

end Qasedak.Orders
