import Qasedak.Services.Burial

/-! Every delivery of an order that is no renewal of a deleted client leaves the client alone,
unless it activates the legacy order of the client. -/

namespace Qasedak.Services

open Foundation Store Orders Panels Prog

variable {platform : Platform} {routing : Routing} {now : Instant} {actor : Option ℕ}
  {p : Panel} {i : Inbound} {plan : Plan} {inbounds : List Inbound} {identity : ClientIdentity}
  {o : Order} {k m : ℕ} {owner : Option ℕ} {done : Set ℕ} {atWork : Option ℕ}

/-! ## Clients on panels -/

theorem quiet_ensureAll {ι α β : Type} {ensure : ι → ShopM α} {record : ι → α → ShopM β}
    {indices : List ι} (hensure : ∀ j, Keeps id (ensure j))
    (hrecord : ∀ j a, Grows (Quiet k owner done atWork) (record j a)) :
    Grows (Quiet k owner done atWork) (ensureAll ensure record indices) :=
  Grows.forEach fun j _ => (quiet_of_id (hensure j)).bind fun a =>
    (hrecord j a).bind fun _ => grows_pure _

theorem quiet_provideClients {pasarguard : Bool} {indices : List ℕ}
    {ensure : ℕ → ShopM ClientResult} {record : ℕ → ClientResult → ShopM (ℕ × Bool)}
    (hensure : ∀ j, Keeps id (ensure j))
    (hrecord : ∀ j a, Grows (Quiet k owner done (some m)) (record j a)) :
    Grows (Quiet k owner done (some m))
      (provideClients now actor m pasarguard indices ensure record) := by
  refine (quiet_ensureAll hensure hrecord).caught.bind fun outcome => ?_
  cases outcome with
  | error e => exact (quiet_saveOrder (by exact fun _ => rfl)).bind fun _ => grows_pure _
  | ok rows =>
      refine (grows_readDb _).bind fun db => ?_
      exact (quiet_saveOrder (by exact fun _ => rfl)).bind fun _ => grows_pure _

theorem beginModern_renews {inbound : Inbound} {multiBundle : Bool} (o : Order) :
    (beginModern inbounds inbound multiBundle o).metadata.renewalClientPk =
      o.metadata.renewalClientPk := by
  cases multiBundle <;> rfl

theorem quiet_activateXuiOrder {inbound : Inbound} :
    Grows (Quiet k owner done (some m))
      (activateXuiOrder platform now actor m inbounds inbound p) := by
  refine quiet_getOrder fun _ unsaved _ _ => ?_
  refine (quiet_saveOrder beginModern_renews).bind fun _ => quiet_getOrder fun _ o _ _ => ?_
  refine (grows_readDb _).bind fun db => quiet_getPlan.bind fun plan => ?_
  refine quiet_provideClients (fun index => Keeps.ite ?_ keeps_ensureClient) fun _ _ => ?_
  · exact keeps_ensureBundle.bind fun _ => keeps_orRaise _ _
  · exact quiet_upsertLocalClient

theorem quiet_activatePasarguardOrder {inbound : Inbound} :
    Grows (Quiet k owner done (some m))
      (activatePasarguardOrder platform now actor m inbounds inbound p) := by
  refine (quiet_saveOrder beginModern_renews).bind fun _ => quiet_getOrder fun _ o _ _ => ?_
  refine (grows_readDb _).bind fun db => quiet_getPlan.bind fun plan => ?_
  refine quiet_provideClients (fun index => ?_) fun _ _ => quiet_recordUser
  exact keeps_ensureUserLinks.bind fun _ => keeps_pure _

theorem quiet_activateModernOrder :
    Grows (Quiet k owner done (some m)) (activateModernOrder platform now actor m) := by
  refine quiet_getOrder fun _ o _ _ => (grows_readDb _).bind fun db => ?_
  split
  · exact (quiet_saveOrder (by exact fun _ => rfl)).bind fun _ => grows_pure _
  · split
    · exact grows_pure _
    · exact Grows.ite quiet_activatePasarguardOrder quiet_activateXuiOrder

/-! ## Sources of a plan -/

theorem quiet_deliverClients {indices : List ℕ} {client : ℕ → ShopM (List DeliveredLink × ℕ)}
    (h : ∀ index, Grows (Quiet k owner done atWork) (client index)) :
    Grows (Quiet k owner done atWork) (deliverClients indices client) :=
  Grows.forEach fun index _ => (h index).bind fun _ => grows_pure _

theorem quiet_executePanelGroup {dynamicSubscription : Bool} {sources : List DeliverySource}
    {results : List SourceResult} : Grows (Quiet k owner done atWork)
      (executePanelGroup platform now o dynamicSubscription sources results) := by
  have hsingle : ∀ source, Grows (Quiet k owner done atWork)
      (executeSinglePanelSource platform now o source) := by
    intro source
    refine Grows.bind (Grows.caught ?_) fun _ => grows_pure _
    refine (grows_readDb _).bind fun db => quiet_ofExcept.bind fun i => ?_
    refine quiet_orRaise.bind fun p => quiet_getPlan.bind fun plan => ?_
    refine quiet_deliverClients fun index => (quiet_of_id keeps_ensureClient).bind fun _ => ?_
    exact quiet_upsertLocalClient.bind fun _ => grows_pure _
  have huser : ∀ first group, Grows (Quiet k owner done atWork)
      (executePasarguardPanelGroup platform now o dynamicSubscription first group) := by
    intro first group
    refine Grows.bind (Grows.caught ?_) fun _ => grows_pure _
    refine (grows_readDb _).bind fun db => quiet_orRaise.bind fun p => ?_
    refine quiet_ofExcept.bind fun _ => quiet_orRaise.bind fun inbound => ?_
    refine quiet_getPlan.bind fun plan => quiet_deliverClients fun index => ?_
    refine (quiet_of_id keeps_ensureUserLinks).bind fun _ => quiet_recordUser.bind fun _ => ?_
    exact quiet_ofExcept.bind fun _ => grows_pure _
  have hbundle : ∀ first group, Grows (Quiet k owner done atWork)
      (executeMultiPanelGroup platform now o first group) := by
    intro first group
    refine Grows.bind (Grows.caught ?_) fun _ => grows_pure _
    refine (grows_readDb _).bind fun db => quiet_ofExcept.bind fun inbounds => ?_
    refine quiet_orRaise.bind fun p => quiet_orRaise.bind fun inbound => ?_
    refine quiet_getPlan.bind fun plan => quiet_deliverClients fun index => ?_
    refine (quiet_of_id keeps_ensureBundle).bind fun _ => quiet_orRaise.bind fun _ => ?_
    exact quiet_upsertLocalClient.bind fun _ => grows_pure _
  refine (grows_readDb _).bind fun db => ?_
  cases sources with
  | nil => exact grows_pure _
  | cons first rest =>
      refine quiet_orRaise.bind fun p => Grows.ite ?_ (Grows.ite ?_ ?_)
      · exact (huser _ _).bind fun _ => grows_pure _
      · exact (hbundle _ _).bind fun _ => grows_pure _
      · exact Grows.forEach fun _ _ => (hsingle _).bind fun _ => grows_pure _

theorem quiet_executeConfiguredSources {dynamicSubscription : Bool}
    {sources : List DeliverySource} : Grows (Quiet k owner done atWork)
      (executeConfiguredSources platform now o dynamicSubscription sources) := by
  have hsources : ∀ sources, Grows (Quiet k owner done atWork)
      (executeSources platform now o dynamicSubscription sources) := by
    intro sources
    refine (grows_readDb _).bind fun _ => Grows.bind ?_ fun _ => ?_
    · exact Grows.forEach fun _ _ => quiet_executePanelGroup
    · exact Grows.forEach fun _ _ =>
        (quiet_of_withoutStock keeps_executeInventorySource).bind fun _ => grows_pure _
  exact (hsources _).bind fun _ => Grows.ite ((hsources _).bind fun _ => grows_pure _) (grows_pure _)

theorem quiet_ensureCup {order : ℕ} : Grows (Quiet k owner done atWork) (ensureCup order) := by
  refine (grows_readDb _).bind fun db => ?_
  split
  · exact grows_pure _
  · exact (grows_writeDb fun _ h => h.congr rfl rfl).bind fun _ => grows_pure _

theorem quiet_customerLinks {order : ℕ} {mode : DeliveryMode} {links : List DeliveredLink} :
    Grows (Quiet k owner done atWork) (customerLinks platform now order mode links) := by
  refine Grows.ite (Grows.bind ?_ fun _ => grows_pure _) (grows_pure _)
  refine quiet_ensureCup.bind fun _ => (grows_readDb _).bind fun _ => ?_
  refine (grows_writeDb fun _ h => h.congr rfl rfl).bind fun _ => ?_
  exact (grows_writeDb fun _ h => h.congr rfl rfl).bind fun _ => grows_pure _

theorem quiet_executePlanDelivery {config : DeliveryConfig} :
    Grows (Quiet k owner done (some m)) (executePlanDelivery platform now actor m config) := by
  refine Grows.atomic ((grows_readDb _).bind fun db => Grows.ite ?_ ?_)
  · exact (quiet_saveOrder (by exact fun _ => rfl)).bind fun _ => grows_pure _
  · refine (quiet_saveOrder (by exact fun _ => rfl)).bind fun _ => quiet_getOrder fun _ o _ _ => ?_
    refine quiet_executeConfiguredSources.bind fun results => Grows.ite ?_ ?_
    · exact (quiet_saveOrder (by exact fun _ => rfl)).bind fun _ => grows_pure _
    · refine quiet_customerLinks.bind fun _ => (grows_readDb _).bind fun db => ?_
      exact (quiet_saveOrder (by exact fun _ => rfl)).bind fun _ => grows_pure _

/-! ## Recipes -/

theorem quiet_addCupItems {cup rule count : ℕ} {links : List DeliveredLink} :
    Grows (Quiet k owner done atWork) (addCupItems cup rule links count) :=
  Grows.forEach fun _ _ => (grows_writeDb fun _ h => h.congr rfl rfl).bind fun _ => grows_pure _

theorem quiet_runRule {cup : ℕ} {rule : FillerRule} :
    Grows (Quiet k owner done atWork) (runRule platform now o cup rule) := by
  refine (grows_readDb _).bind fun db => ?_
  split
  · exact grows_pure _
  split
  · refine (grows_readDb _).bind fun db => ?_
    dsimp only
    split
    · exact grows_pure _
    · refine quiet_getPlan.bind fun _ => Grows.bind ?_ fun _ => grows_pure _
      refine Grows.forEach fun _ _ => Grows.ite (grows_pure _) ?_
      refine (quiet_of_id keeps_ruleClientLinks.caught).bind fun outcome => ?_
      cases outcome with
      | error e => exact grows_pure _
      | ok links => exact Grows.ite (grows_pure _) (quiet_addCupItems.bind fun _ => grows_pure _)
  · refine Grows.bind (Grows.caught ?_) fun outcome => ?_
    · exact (grows_readDb _).bind fun _ =>
        Grows.ite (grows_raise _) (quiet_of_withoutStock keeps_topUpAllocations)
    · cases outcome with
      | error e => exact grows_pure _
      | ok allocations =>
          exact (grows_readDb _).bind fun _ => quiet_addCupItems.bind fun _ => grows_pure _

theorem finishRecipe_renews {delivers : Bool} {safeError : String} {results : List RuleResult}
    (o : Order) : (finishRecipe now actor delivers safeError results o).metadata.renewalClientPk =
      o.metadata.renewalClientPk := by
  cases delivers <;> rfl

theorem quiet_fulfillOrderWithRecipe {recipe : Recipe} :
    Grows (Quiet k owner done (some m))
      (fulfillOrderWithRecipe platform now actor m recipe) := by
  refine Grows.atomic ((quiet_saveOrder (by exact fun _ => rfl)).bind fun _ => ?_)
  refine quiet_getOrder fun _ o _ _ => Grows.bind ?_ fun cup => (grows_readDb _).bind fun db => ?_
  · refine quiet_ensureCup.bind fun _ => (grows_readDb _).bind fun _ => ?_
    exact (grows_writeDb fun _ h => h.congr rfl rfl).bind fun _ => grows_pure _
  · refine Grows.bind ?_ fun results => (quiet_saveOrder finishRecipe_renews).bind fun _ => ?_
    · exact Grows.forEach fun _ _ =>
        Grows.ite (grows_pure _) (quiet_runRule.bind fun _ => grows_pure _)
    · exact (grows_writeDb fun _ h => h.congr rfl rfl).bind fun _ => grows_pure _

/-! ## Legacy panels -/

theorem quiet_ensureLegacyOrderClient :
    Grows (Quiet k owner done atWork) (ensureLegacyOrderClient o plan) :=
  (grows_readDb _).bind fun _ => Grows.ite (grows_pure _) (grows_writeDb fun _ h => h.addClient)

theorem syncOrderPrimaryClientFields_renews (primary : Option VPNClient) (o : Order) :
    (syncOrderPrimaryClientFields primary o).metadata.renewalClientPk =
      o.metadata.renewalClientPk := by
  cases primary <;> rfl

theorem finishLegacy_renews {primary : Option VPNClient} {inbound : Option Inbound} (o : Order) :
    (finishLegacy now actor primary inbound o).metadata.renewalClientPk =
      o.metadata.renewalClientPk := by
  cases primary <;> cases inbound <;> rfl

theorem keeps_createInactiveClientDetails {request : ClientRequest} :
    Keeps id (createInactiveClientDetails platform now p i request) := by
  refine Keeps.onError (Keeps.bind ?_ fun _ => keeps_pure _) fun _ => keeps_pure _
  refine (keeps_readDb _).bind fun _ => (keeps_ofExcept _).bind fun _ => ?_
  refine (keeps_ofExcept _).bind fun _ => Keeps.ite (keeps_raise _) ?_
  exact (keeps_remoteWrite _ _ _).bind fun _ => (keeps_remoteRead _ _).bind fun _ => keeps_pure _

theorem keeps_enableClient {c : VPNClient} : Keeps id (enableClient now c) := by
  refine Keeps.onError (Keeps.bind ?_ fun _ => keeps_pure _) fun _ => keeps_pure _
  refine (keeps_readDb _).bind fun _ => (keeps_ofExcept _).bind fun ip => ?_
  refine (keeps_ofExcept _).bind fun _ => (keeps_remoteRead _ _).bind fun _ => ?_
  exact Keeps.ite (keeps_pure _) ((keeps_orRaise _ _).bind fun _ => keeps_remoteWrite _ _ _)

theorem quiet_provisionOneClient {username : String} {index : ℕ} :
    Grows (Quiet k owner done atWork)
      (provisionOneClient platform now o plan p i username index) := by
  refine (grows_readDb _).bind fun db => ?_
  refine (quiet_of_id keeps_lookupExistingRemoteClient.caught).bind fun found => ?_
  cases found with
  | error e => exact grows_pure _
  | ok found =>
      cases found with
      | some result =>
          refine (grows_pure _).bind fun result => ?_
          cases result with
          | none =>
              exact (quiet_saveOrder_open (by exact fun _ => rfl) (by exact fun _ h => h)).bind
                fun _ => grows_pure _
          | some result =>
              refine (grows_writeDb fun _ h => h.addClient).bind fun _ => ?_
              exact (grows_writeDb fun _ h => h.congr rfl rfl).bind fun _ => grows_pure _
      | none =>
          refine (quiet_of_id keeps_createInactiveClientDetails).bind fun result => ?_
          cases result with
          | none =>
              exact (quiet_saveOrder_open (by exact fun _ => rfl) (by exact fun _ h => h)).bind
                fun _ => grows_pure _
          | some result =>
              refine (grows_writeDb fun _ h => h.addClient).bind fun _ => ?_
              exact (grows_writeDb fun _ h => h.congr rfl rfl).bind fun _ => grows_pure _

theorem quiet_provisionMissingPanelClient :
    Grows (Quiet k owner done (some m)) (provisionMissingPanelClient platform routing now m) := by
  refine quiet_getOrder fun _ o _ _ => quiet_getPlan.bind fun plan => ?_
  refine quiet_ensureLegacyOrderClient.bind fun _ => (grows_readDb _).bind fun db => ?_
  refine Grows.ite (grows_pure _) ?_
  split
  · exact grows_pure _
  · exact grows_pure _
  refine (quiet_saveOrder (by exact fun _ => rfl)).bind fun _ => quiet_getOrder fun _ o _ _ => ?_
  refine (grows_readDb _).bind fun _ => quiet_getPlan.bind fun _ => quiet_orRaise.bind fun _ => ?_
  refine Grows.bind (Grows.forEach fun _ failure => ?_) fun failure => ?_
  · cases failure with
    | some failure => exact grows_pure _
    | none => exact quiet_provisionOneClient
  · cases failure with
    | some failure => exact grows_pure _
    | none =>
        refine (grows_readDb _).bind fun _ => Grows.bind ?_ fun _ => grows_pure _
        exact quiet_saveOrder (syncOrderPrimaryClientFields_renews _)

/-- Clients are enabled, and the deleted one is not among them. -/
theorem quiet_enableClients {clients : List VPNClient} (h : ∀ c ∈ clients, c.pk ≠ k) :
    Grows (Quiet k owner done atWork) (enableClients now plan clients) := by
  refine Grows.forEach_of_mem fun c hc failure => ?_
  cases failure with
  | some failure => exact grows_pure _
  | none =>
      refine (grows_readDb _).bind fun _ => Grows.ite (grows_pure _) (Grows.ite (grows_pure _) ?_)
      refine (quiet_of_id keeps_enableClient).bind fun _ => Grows.ite ?_ (grows_pure _)
      exact (quiet_saveClient (h c hc)).bind fun _ => grows_pure _

theorem quiet_enableOrder (howner : owner ≠ some m) :
    Grows (Quiet k owner done (some m)) (enableOrder now actor m) := by
  refine quiet_getOrder fun _ o _ _ => quiet_getPlan.bind fun plan => ?_
  refine grows_readDb_bind fun db hdb => ?_
  have hothers : ∀ c ∈ db.vpnClients m, c.pk ≠ k := by
    intro c hc hk
    obtain ⟨hrow, horder⟩ := List.mem_filter.mp hc
    obtain ⟨b, hb, -, hbowner⟩ := hdb.client
    have hget : db.clients.get? k = some c := Table.get?_eq_some_iff.mpr ⟨hrow, hk⟩
    obtain rfl : b = c := Option.some.inj (hb.symm.trans hget)
    exact howner (hbowner.symm.trans (of_decide_eq_true horder))
  refine Grows.ite (grows_pure _) ((quiet_enableClients hothers).bind fun failure => ?_)
  cases failure with
  | some failure => exact grows_pure _
  | none => exact (quiet_saveOrder finishLegacy_renews).bind fun _ => grows_pure _

theorem quiet_activateLegacyOrder (howner : owner ≠ some m) :
    Grows (Quiet k owner done (some m)) (activateLegacyOrder platform routing now actor m) := by
  refine (quiet_saveOrder (by exact fun _ => rfl)).bind fun _ => quiet_getOrder fun _ o _ _ => ?_
  refine quiet_getPlan.bind fun plan => quiet_ensureLegacyOrderClient.bind fun _ => ?_
  refine (grows_readDb _).bind fun db => Grows.ite (quiet_enableOrder howner) ?_
  refine quiet_provisionMissingPanelClient.bind fun _ => ?_
  exact Grows.ite (quiet_enableOrder howner) (grows_pure _)

/-! ## The delivery of an order -/

variable {s : Shop}

theorem wp_deliverOrder_quiet
    (hlegacy : ∀ o, s.db.orders.get? m = some o → deliveryPath s.db o = .legacy → owner ≠ some m) :
    wp (deliverOrder platform routing now actor m)
      (fun _ s' => Quiet k owner done (some m) s.db → Quiet k owner done (some m) s'.db)
      (fun _ s' => Quiet k owner done (some m) s.db → Quiet k owner done (some m) s'.db) s := by
  rw [deliverOrder, wp_bind, getOrder, wp_bind, wp_readDb, wp_orRaise]
  cases ho : s.db.orders.get? m with
  | none => exact id
  | some o =>
      dsimp only
      rw [wp_bind, wp_readDb]
      dsimp only [id]
      cases hpath : deliveryPath s.db o with
      | sources config => exact quiet_executePlanDelivery s
      | recipe recipe => exact quiet_fulfillOrderWithRecipe s
      | modern => exact quiet_activateModernOrder s
      | legacy => exact quiet_activateLegacyOrder (hlegacy o ho hpath) s

end Qasedak.Services
