import Qasedak.Foundation.Frame
import Qasedak.Orders.PlanDelivery

/-! What the delivery from panels leaves alone: a request to a panel writes nothing, and the
record of a client writes to the clients and to the inbounds. -/

namespace Qasedak.Orders

open Foundation Store Panels Prog

variable {platform : Platform} {now : Instant} {p : Panel} {i : Inbound} {plan : Plan}
  {inbounds : List Inbound} {identity : ClientIdentity} {request : ClientRequest} {o : Order}

/-! ## Requests to X-UI panels -/

theorem keeps_lookupExistingRemoteClient {requireEnabled : Bool} :
    Keeps id (lookupExistingRemoteClient platform p i identity requireEnabled) :=
  keeps_remoteRead _ _

theorem keeps_createEnabledClient : Keeps id (createEnabledClient platform now p i request) := by
  refine (keeps_readDb _).bind fun _ => (keeps_ofExcept _).bind fun _ => ?_
  refine (keeps_ofExcept _).bind fun _ => (keeps_remoteWrite _ _ _).bind fun _ => ?_
  exact (keeps_remoteRead _ _).bind fun _ => keeps_pure _

theorem keeps_createEnabledClientDetails :
    Keeps id (createEnabledClientDetails platform now p i request) :=
  (keeps_createEnabledClient.bind fun _ => keeps_pure _).onError fun _ => keeps_pure _

theorem keeps_createEnabledMultiInboundClient :
    Keeps id (createEnabledMultiInboundClient platform now p inbounds request) := by
  refine (keeps_readDb _).bind fun _ => (keeps_orRaise _ _).bind fun _ => ?_
  refine Keeps.ite (keeps_raise _) ((keeps_ofExcept _).bind fun _ => ?_)
  refine Keeps.ite (keeps_raise _) ((keeps_remoteWrite _ _ _).bind fun _ => ?_)
  exact Keeps.forEach fun _ _ => (keeps_remoteRead _ _).bind fun _ => keeps_pure _

theorem keeps_createEnabledMultiInboundClientDetails :
    Keeps id (createEnabledMultiInboundClientDetails platform now p inbounds request) :=
  (keeps_createEnabledMultiInboundClient.bind fun _ => keeps_pure _).onError fun _ => keeps_pure _

theorem keeps_ensureClient : Keeps id (ensureClient platform now p i plan identity) := by
  refine keeps_lookupExistingRemoteClient.bind fun found => ?_
  cases found with
  | some result =>
      refine (keeps_pure _).bind fun result => ?_
      cases result with
      | none => exact keeps_raise _
      | some result => exact keeps_lookupExistingRemoteClient.bind fun _ => keeps_orRaise _ _
  | none =>
      refine keeps_createEnabledClientDetails.bind fun result => ?_
      cases result with
      | none => exact keeps_raise _
      | some result => exact keeps_lookupExistingRemoteClient.bind fun _ => keeps_orRaise _ _

theorem keeps_provideBundle : Keeps id (provideBundle platform now p inbounds plan identity) := by
  refine Keeps.bind ?_ fun found => Keeps.ite ?_ (Keeps.ite (keeps_pure _) ?_)
  · exact Keeps.forEach fun _ _ => keeps_lookupExistingRemoteClient.bind fun _ => keeps_pure _
  · refine Keeps.forEach fun x _ => ?_
    obtain ⟨_, existing⟩ := x
    cases existing with
    | some result => exact keeps_pure _
    | none =>
        exact keeps_createEnabledClientDetails.bind fun _ =>
          (keeps_orRaise _ _).bind fun _ => keeps_pure _
  · exact keeps_createEnabledMultiInboundClientDetails.bind fun _ => keeps_orRaise _ _

theorem keeps_ensureBundle : Keeps id (ensureBundle platform now p inbounds plan identity) := by
  refine keeps_provideBundle.bind fun _ => Keeps.ite (keeps_raise _) (Keeps.forEach fun _ _ => ?_)
  exact keeps_lookupExistingRemoteClient.bind fun _ => (keeps_orRaise _ _).bind fun _ => keeps_pure _

/-! ## Requests to PasarGuard panels -/

theorem keeps_getUserOrNone {username : String} : Keeps id (getUserOrNone p username) :=
  keeps_remoteRead _ _

theorem keeps_readUserLinks {user : PasarguardUser} {existing : Option PasarguardUser} :
    Keeps id (readUserLinks platform p user existing) := by
  have hlinks : ∀ url : String, Keeps id (if url = "" then
        raise "PasarGuard کاربر را ساخت اما subscription_url برنگرداند."
      else do
        let links ← remoteRead timedOut fun _ => .ok (platform.nativeLinks user)
        if links = [] then
          raise "خروجی native links پنل PasarGuard خالی بود یا کانفیگ قابل استفاده نداشت."
        else return (url, links) : ShopM (String × List String)) := fun url =>
    Keeps.ite (keeps_raise _)
      ((keeps_remoteRead _ _).bind fun _ => Keeps.ite (keeps_raise _) (keeps_pure _))
  refine Keeps.ite (keeps_getUserOrNone.bind fun _ => ?_) ((keeps_pure _).bind hlinks)
  exact (keeps_pure _).bind hlinks

theorem keeps_createPasarguardUser :
    Keeps id (createPasarguardUser platform now p inbounds request) := by
  refine (keeps_ofExcept _).bind fun groups => Keeps.bind ?_ fun _ => ?_
  · exact Keeps.forEach fun _ _ => keeps_remoteRead _ _
  · refine keeps_getUserOrNone.bind fun existing => ?_
    cases existing with
    | some u =>
        refine Keeps.ite (keeps_raise _) ((keeps_remoteWrite _ _ _).bind fun _ => ?_)
        exact keeps_readUserLinks.bind fun _ => keeps_pure _
    | none =>
        refine (keeps_remoteWrite _ _ _).bind fun _ => Keeps.bind ?_ fun _ => keeps_pure _
        refine keeps_readUserLinks.onError fun _ => Keeps.bind ?_ fun _ => keeps_raise _
        exact (keeps_remoteWrite _ _ _).onError fun _ => keeps_pure _

theorem keeps_ensureUserLinks {empty : String} :
    Keeps id (ensureUserLinks platform now p inbounds plan identity empty) := by
  refine keeps_createPasarguardUser.bind fun x => ?_
  obtain ⟨result, links⟩ := x
  cases h : rawLinksOf result links with
  | nil =>
      simp only [h]
      exact keeps_raise _
  | cons link raw =>
      simp only [h]
      exact keeps_pure _

/-! ## Records -/

/-- An inbound without a place taken. -/
def unusedInbound (i : Inbound) : Inbound := { i with currentUsers := 0 }

theorem unusedInbound_pk (i : Inbound) : (unusedInbound i).pk = i.pk := rfl

/-- The database without the services: the clients and the places they take. -/
def Db.withoutServices (db : Db) : Db :=
  { db with clients := .empty, inbounds := db.inbounds.map unusedInbound unusedInbound_pk }

/-- Where all but the services is as before, only they changed. -/
theorem eq_of_withoutServices {db db' : Db} (h : db'.withoutServices = db.withoutServices) :
    db' = { db with clients := db'.clients, inbounds := db'.inbounds } := by
  have hback : ∀ d : Db, d = { d.withoutServices with clients := d.clients, inbounds := d.inbounds } :=
    fun _ => rfl
  rw [hback db', h]
  rfl

theorem withoutServices_setInbound (db : Db) (k : ℕ) :
    (db.setInbound k useInbound useInbound_pk).withoutServices = db.withoutServices := by
  rw [Db.withoutServices, Db.setInbound]
  dsimp only
  rw [Table.map_modify]
  · rfl
  · exact fun _ => rfl

theorem keeps_of_id {α : Type} {q : ShopM α} (h : Keeps id q) : Keeps Db.withoutServices q :=
  h.of_view fun _ _ hdb => congrArg Db.withoutServices hdb

theorem keeps_upsertLocalClient {result : ClientResult} :
    Keeps Db.withoutServices (upsertLocalClient now o plan i result) := by
  refine (keeps_readDb _).bind fun db => ?_
  cases h : localOrderClientMatches db o i result with
  | nil =>
      dsimp only
      refine Keeps.bind (keeps_writeDb ?_) fun _ => Keeps.bind (keeps_writeDb ?_) fun _ =>
        Keeps.bind (keeps_writeDb ?_) fun _ => keeps_pure _
      · exact fun _ => rfl
      · exact fun d => withoutServices_setInbound d i.pk
      · exact fun _ => rfl
  | cons c cs =>
      cases cs with
      | nil =>
          dsimp only
          refine Keeps.bind (keeps_writeDb ?_) fun _ => keeps_pure _
          exact fun _ => rfl
      | cons d ds =>
          dsimp only
          exact keeps_raise _

theorem keeps_recordUser {result : ClientResult} :
    Keeps Db.withoutServices (recordUser now o plan inbounds i result) := by
  refine keeps_upsertLocalClient.bind fun x => ?_
  obtain ⟨k, created⟩ := x
  refine Keeps.ite ?_ (keeps_pure _)
  refine Keeps.bind (Keeps.forEach fun j _ => keeps_writeDb ?_) fun _ => keeps_pure _
  exact fun d => withoutServices_setInbound d j.pk

theorem keeps_getPlan {k : ℕ} : Keeps Db.withoutServices (getPlan k) :=
  (keeps_readDb _).bind fun _ => keeps_orRaise _ _

theorem keeps_deliverClients {indices : List ℕ} {client : ℕ → ShopM (List DeliveredLink × ℕ)}
    (h : ∀ index, Keeps Db.withoutServices (client index)) :
    Keeps Db.withoutServices (deliverClients indices client) :=
  Keeps.forEach fun index _ => (h index).bind fun _ => keeps_pure _

/-! ## Sources -/

variable {source first : DeliverySource} {sources : List DeliverySource}
  {dynamicSubscription : Bool}

theorem keeps_executeSinglePanelSource :
    Keeps Db.withoutServices (executeSinglePanelSource platform now o source) := by
  refine Keeps.bind (Keeps.caught ?_) fun _ => keeps_pure _
  refine (keeps_readDb _).bind fun db => (keeps_ofExcept _).bind fun i => ?_
  refine (keeps_orRaise _ _).bind fun p => keeps_getPlan.bind fun plan => ?_
  refine keeps_deliverClients fun index => (keeps_of_id keeps_ensureClient).bind fun _ => ?_
  exact keeps_upsertLocalClient.bind fun _ => keeps_pure _

theorem keeps_executePasarguardPanelGroup : Keeps Db.withoutServices
    (executePasarguardPanelGroup platform now o dynamicSubscription first sources) := by
  refine Keeps.bind (Keeps.caught ?_) fun _ => keeps_pure _
  refine (keeps_readDb _).bind fun db => (keeps_orRaise _ _).bind fun p => ?_
  refine (keeps_ofExcept _).bind fun _ => (keeps_orRaise _ _).bind fun inbound => ?_
  refine keeps_getPlan.bind fun plan => keeps_deliverClients fun index => ?_
  refine (keeps_of_id keeps_ensureUserLinks).bind fun _ => keeps_recordUser.bind fun _ => ?_
  exact (keeps_ofExcept _).bind fun _ => keeps_pure _

theorem keeps_executeMultiPanelGroup : Keeps Db.withoutServices
    (executeMultiPanelGroup platform now o first sources) := by
  refine Keeps.bind (Keeps.caught ?_) fun _ => keeps_pure _
  refine (keeps_readDb _).bind fun db => (keeps_ofExcept _).bind fun inbounds => ?_
  refine (keeps_orRaise _ _).bind fun p => (keeps_orRaise _ _).bind fun inbound => ?_
  refine keeps_getPlan.bind fun plan => keeps_deliverClients fun index => ?_
  refine (keeps_of_id keeps_ensureBundle).bind fun _ => (keeps_orRaise _ _).bind fun _ => ?_
  exact keeps_upsertLocalClient.bind fun _ => keeps_pure _

/-- Panel sources write to the services alone. -/
theorem keeps_executePanelGroup {results : List SourceResult} : Keeps Db.withoutServices
    (executePanelGroup platform now o dynamicSubscription sources results) := by
  refine (keeps_readDb _).bind fun db => ?_
  cases sources with
  | nil => exact keeps_pure _
  | cons first rest =>
      refine (keeps_orRaise _ _).bind fun p => Keeps.ite ?_ (Keeps.ite ?_ ?_)
      · exact keeps_executePasarguardPanelGroup.bind fun _ => keeps_pure _
      · exact keeps_executeMultiPanelGroup.bind fun _ => keeps_pure _
      · exact Keeps.forEach fun _ _ => keeps_executeSinglePanelSource.bind fun _ => keeps_pure _

end Qasedak.Orders
