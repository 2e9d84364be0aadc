import Qasedak.Foundation.Run
import Qasedak.Orders.Delivery
import Qasedak.Reconciliation.CleanupSafety
import Qasedak.Orders.DeliveryOutcomes
import Qasedak.Orders.PartialRetries

/-! The writers of a client's row: what a user, an administrator and the background jobs save
on it from objects that they read some time ago, and the transactions of an approval. -/

namespace Qasedak.Services

open Foundation Store Orders Panels Reconciliation

/-! ## What is saved -/

/-- The answer of `get_client_stats`. -/
structure ClientStats where
  panelAvailable : Bool := true
  isExpired : Bool := false
  isEnabled : Bool := false
  usedTrafficBytes : ℕ := 0
  totalTrafficBytes : ℕ := 0
  expiryAt : Option Instant := none

/-- `VPNClient.sync_usage_fields`. -/
def syncUsageFields (stats : ClientStats) (c : VPNClient) : VPNClient :=
  { c with
    usedTrafficBytes := stats.usedTrafficBytes
    trafficLimitBytes :=
      if stats.totalTrafficBytes = 0 then c.trafficLimitBytes else stats.totalTrafficBytes
    expiresAt := stats.expiryAt <|> c.expiresAt }

/-- The status that the panel shows. -/
def syncedStatus (stats : ClientStats) (status : ClientStatus) : ClientStatus :=
  if stats.isExpired then .expired
  else if stats.isEnabled then .active
  else if status = .active then .inactive
  else status

/-- The object that `sync_vpn_client_stats` saves; none where it saves nothing. -/
def syncVpnClientStats (stats : ClientStats) (c : VPNClient) : Option VPNClient :=
  if c.isDeleted ∨ c.inbound.isNone ∨ ¬ stats.panelAvailable then none
  else some { syncUsageFields stats c with status := syncedStatus stats c.status }

/-- The columns that `sync_vpn_client_stats` names. -/
def saveSynced (saved row : VPNClient) : VPNClient :=
  { row with
    usedTrafficBytes := saved.usedTrafficBytes
    trafficLimitBytes := saved.trafficLimitBytes
    expiresAt := saved.expiresAt
    status := saved.status }

/-- The answer of `get_client_config_details`. -/
structure ClientDetails where
  uuid : Option String := none
  email : Option String := none
  subId : Option String := none
  subLink : Option String := none
  directLink : Option String := none

/-- A column is written where the answer has a value that the held object has not. -/
def refreshField {α : Type} [DecidableEq α] (value : Option α) (held row : α) : α :=
  match value with
  | none => row
  | some v => if v = held then row else v

/-- What `refresh_vpn_client_links` makes of a row, or of the object itself. -/
def refreshedLinks (details : ClientDetails) (held row : VPNClient) : VPNClient :=
  { row with
    uuid := refreshField (details.uuid.map some) held.uuid row.uuid
    xuiEmail := refreshField details.email held.xuiEmail row.xuiEmail
    subId := refreshField details.subId held.subId row.subId
    subLink := refreshField details.subLink held.subLink row.subLink
    directLink := refreshField details.directLink held.directLink row.directLink }

/-- What it makes of the order's row, from the order object that it holds. -/
def refreshedOrderLinks (details : ClientDetails) (held row : Order) : Order :=
  { row with
    uuid := refreshField (details.uuid.map some) held.uuid row.uuid
    subLink := refreshField (details.subLink.map some) held.subLink row.subLink
    directLink := refreshField (details.directLink.map some) held.directLink row.directLink }

/-- `refresh_vpn_client_link_by_admin`, for a link that the panel returned. -/
def relinked (link email : String) (held row : VPNClient) : VPNClient :=
  { row with
    directLink := link
    xuiEmail := if email = "" then held.xuiEmail else email }

/-- The answer of `update_client_traffic_and_expiry`; no new total is zero. -/
structure RemoteUpdate where
  newTotalBytes : ℕ := 0
  newExpiryTime : Option Instant := none
  enabled : Option Bool := none

def RemoteUpdate.apply (result : RemoteUpdate) (status : ClientStatus) (row : VPNClient) :
    VPNClient :=
  { row with
    trafficLimitBytes :=
      if result.newTotalBytes = 0 then row.trafficLimitBytes else result.newTotalBytes
    expiresAt := result.newExpiryTime <|> row.expiresAt
    status := status }

/-- `sync_local_vpn_client_after_remote_update`, on the row as it is read under the lock. -/
def syncLocalVpnClientAfterRemoteUpdate (result : RemoteUpdate) (row : VPNClient) : VPNClient :=
  if row.isDeleted then row
  else match result.enabled with
    | some true => result.apply .active row
    | some false => result.apply (if row.status = .active then .inactive else row.status) row
    | none => result.apply row.status row

/-- `_sync_local_enabled_state`, on the row as it is read under the lock. -/
def syncLocalEnabledState (result : RemoteUpdate) (enabled : Bool) (row : VPNClient) : VPNClient :=
  if row.isDeleted then row
  else result.apply (if enabled then .active else .inactive) row

theorem saveSynced_pk (saved row : VPNClient) : (saveSynced saved row).pk = row.pk := rfl

theorem refreshedLinks_pk (details : ClientDetails) (held row : VPNClient) :
    (refreshedLinks details held row).pk = row.pk := rfl

theorem refreshedOrderLinks_pk (details : ClientDetails) (held row : Order) :
    (refreshedOrderLinks details held row).pk = row.pk := rfl

theorem relinked_pk (link email : String) (held row : VPNClient) :
    (relinked link email held row).pk = row.pk := rfl

theorem syncLocalVpnClientAfterRemoteUpdate_pk (result : RemoteUpdate) (row : VPNClient) :
    (syncLocalVpnClientAfterRemoteUpdate result row).pk = row.pk := by
  unfold syncLocalVpnClientAfterRemoteUpdate
  split
  · rfl
  · split <;> rfl

theorem syncLocalEnabledState_pk (result : RemoteUpdate) (enabled : Bool) (row : VPNClient) :
    (syncLocalEnabledState result enabled row).pk = row.pk := by
  unfold syncLocalEnabledState
  split <;> rfl

/-! ## Interleavings -/

/-- The shop, and the client object that each run holds. -/
structure Desk where
  shop : Shop
  held : ℕ → Option VPNClient := fun _ => none

/-- The statements and transactions of `approve_and_provision_order`. -/
inductive ApprovalPart where
  | claim (now : Instant) (order : ℕ)
  | attempt (now : Instant) (actor : Option ℕ) (source : Source) (order : ℕ)
  | reward (now : Instant) (order : ℕ)
  | failure (now : Instant) (order : ℕ) (r : ProvisioningResult)
  | finish (now : Instant) (order : ℕ)

/-- One statement, transaction or panel call. -/
inductive DeskStep where
  /-- A run reads a client. -/
  | read (run k : ℕ)
  /-- A panel call of any run, or something else that happens on a panel. -/
  | panel (remote : Remote)
  | placeOrder (o : Order)
  /-- `mark_local_vpn_client_deleted`, for the user, the administrator or the cleanup. -/
  | delete (run : ℕ)
  | sync (run : ℕ) (stats : ClientStats)
  | refresh (run : ℕ) (details : ClientDetails)
  | refreshOrder (run : ℕ) (order : Order) (details : ClientDetails)
  | refreshByAdmin (run : ℕ) (link email : String)
  | updateLimits (run : ℕ) (result : RemoteUpdate)
  | setEnabled (run : ℕ) (result : RemoteUpdate) (enabled : Bool)
  | approval (part : ApprovalPart) (signals : List Signal)

variable (delivery : Delivery)

def ApprovalPart.program : ApprovalPart → ShopM Unit
  | .claim now order => do
      let _ ← claimRenewal now order
      return
  | .attempt now actor source order => do
      let _ ← approveTransaction delivery now actor source order
      return
  | .reward now order => rewardReferrer now order
  | .failure now order r => recordFailure now order r
  | .finish now order => finishRenewal now order

namespace Desk

def setDb (d : Desk) (db : Db) : Desk := { d with shop := { d.shop with db := db } }

/-- The run saves `f` on the row of its object, which becomes `object`. -/
def save (d : Desk) (run : ℕ) (object : VPNClient) (f : VPNClient → VPNClient)
    (hf : ∀ c, (f c).pk = c.pk) : Desk where
  shop := { d.shop with db := d.shop.db.setClient object.pk f hf }
  held := Function.update d.held run (some object)

/-- What a run does with the object that it holds. -/
def withHeld (d : Desk) (run : ℕ) (act : VPNClient → Desk) : Desk :=
  match d.held run with
  | none => d
  | some c => act c

/-- The administrator's lookups find no deleted client, and the user's checks refuse one. -/
def withLive (d : Desk) (run : ℕ) (act : VPNClient → Desk) : Desk :=
  d.withHeld run fun c => if c.isDeleted then d else act c

def step (d : Desk) : DeskStep → Desk
  | .read run k => { d with held := Function.update d.held run (d.shop.db.clients.get? k) }
  | .panel remote => { d with shop := { d.shop with remote := remote } }
  | .placeOrder o =>
      if o.status = .completed then d
      else d.setDb { d.shop.db with orders := d.shop.db.orders.put o }
  | .delete run =>
      d.withLive run fun c =>
        match markLocalVpnClientDeleted c.pk d.shop.db with
        | none => d
        | some db => d.setDb db
  | .sync run stats =>
      d.withHeld run fun c =>
        match syncVpnClientStats stats c with
        | none => d
        | some saved => d.save run saved (saveSynced saved) (saveSynced_pk saved)
  | .refresh run details =>
      d.withHeld run fun c =>
        if c.inbound.isNone then d
        else d.save run (refreshedLinks details c c) (refreshedLinks details c)
          (refreshedLinks_pk details c)
  | .refreshOrder run order details =>
      d.withHeld run fun c =>
        match c.order with
        | none => d
        | some k => d.setDb (d.shop.db.setOrder k (refreshedOrderLinks details order)
            (refreshedOrderLinks_pk details order))
  | .refreshByAdmin run link email =>
      d.withLive run fun c =>
        if link = "" then d
        else d.save run (relinked link email c c) (relinked link email c) (relinked_pk link email c)
  | .updateLimits run result =>
      d.withLive run fun c =>
        d.setDb (d.shop.db.setClient c.pk (syncLocalVpnClientAfterRemoteUpdate result)
          (syncLocalVpnClientAfterRemoteUpdate_pk result))
  | .setEnabled run result enabled =>
      d.withLive run fun c =>
        d.setDb (d.shop.db.setClient c.pk (syncLocalEnabledState result enabled)
          (syncLocalEnabledState_pk result enabled))
  | .approval part signals =>
      { d with shop := (part.program delivery { d.shop with signals := signals }).2 }

end Desk

end Qasedak.Services

/-! The deliveries of the shop leave a deleted client alone, but for the activation of the
legacy order that it belongs to. -/

namespace Qasedak.Services

open Foundation Store Orders Panels Prog

/-- What `mark_deleted` leaves of a client. -/
structure Buried (c : VPNClient) : Prop where
  deletedAt : c.isSoftDeleted = true
  status : c.status = .deleted
  subLink : c.subLink = ""
  directLink : c.directLink = ""

/-- The order renews the client. -/
def Renews (k : ℕ) (o : Order) : Prop := o.metadata.renewalClientPk = some k

/-- The client is deleted and belongs to the owner, its completed renewals are among those of
the set, and the order at work, if there is one, is no renewal of it. -/
structure Quiet (k : ℕ) (owner : Option ℕ) (done : Set ℕ) (atWork : Option ℕ) (db : Db) :
    Prop where
  client : ∃ c, db.clients.get? k = some c ∧ Buried c ∧ c.order = owner
  renewals : ∀ o ∈ db.orders.rows, Renews k o → o.status = .completed → o.pk ∈ done
  own : ∀ o ∈ db.orders.rows, some o.pk = atWork → ¬ Renews k o

variable {k : ℕ} {owner : Option ℕ} {done : Set ℕ} {atWork : Option ℕ} {db db' : Db}

/-! ## Writes -/

theorem Quiet.congr (h : Quiet k owner done atWork db) (hclients : db'.clients = db.clients)
    (horders : db'.orders = db.orders) : Quiet k owner done atWork db' where
  client := hclients ▸ h.client
  renewals := horders ▸ h.renewals
  own := horders ▸ h.own

theorem Quiet.setClient (h : Quiet k owner done atWork db) {j : ℕ} {f : VPNClient → VPNClient}
    {hf : ∀ c, (f c).pk = c.pk} (hj : j ≠ k) : Quiet k owner done atWork (db.setClient j f hf) := by
  obtain ⟨c, hc, hburied, howner⟩ := h.client
  refine ⟨⟨c, ?_, hburied, howner⟩, h.renewals, h.own⟩
  rw [Db.setClient, Table.get?_modify, hc, Option.map_some, if_neg hj.symm]

theorem Quiet.ne_nextKey (h : Quiet k owner done atWork db) : db.clients.nextKey ≠ k := by
  obtain ⟨c, hc, -⟩ := h.client
  rintro rfl
  rw [Table.get?_nextKey] at hc
  cases hc

theorem Quiet.addClient (h : Quiet k owner done atWork db) {o : Order} {plan : Plan}
    {inbound : Option ℕ} {username : String} {result : ClientResult} {status : ClientStatus} :
    Quiet k owner done atWork (db.addClient o plan inbound username result status) := by
  obtain ⟨c, hc, hburied, howner⟩ := h.client
  refine ⟨⟨c, ?_, hburied, howner⟩, h.renewals, h.own⟩
  rw [Db.addClient, Table.get?_insert, if_neg h.ne_nextKey.symm, hc]

/-- A write to the order at work, or one that completes no order. -/
theorem Quiet.setOrder (h : Quiet k owner done atWork db) {j : ℕ} {f : Order → Order}
    {hf : ∀ o, (f o).pk = o.pk}
    (hrenews : ∀ o, (f o).metadata.renewalClientPk = o.metadata.renewalClientPk)
    (hopen : some j = atWork ∨ ∀ o, (f o).status = .completed → o.status = .completed) :
    Quiet k owner done atWork (db.setOrder j f hf) := by
  have hrow : ∀ o' ∈ (db.setOrder j f hf).orders.rows, ∃ o ∈ db.orders.rows,
      o' = if o.pk = j then f o else o := by
    intro o' ho'
    obtain ⟨o, ho, rfl⟩ := List.mem_map.mp ho'
    exact ⟨o, ho, rfl⟩
  refine ⟨h.client, ?_, ?_⟩
  · intro o' ho' hr hcompleted
    obtain ⟨o, ho, rfl⟩ := hrow o' ho'
    by_cases hj : o.pk = j
    · rw [if_pos hj] at hr hcompleted ⊢
      have hrenewal : Renews k o := (hrenews o).symm.trans hr
      rw [hf o]
      rcases hopen with hwork | hopen
      · exact absurd hrenewal (h.own o ho (by rw [hj, hwork]))
      · exact h.renewals o ho hrenewal (hopen o hcompleted)
    · rw [if_neg hj] at hr hcompleted ⊢
      exact h.renewals o ho hr hcompleted
  · intro o' ho' hwork
    obtain ⟨o, ho, rfl⟩ := hrow o' ho'
    by_cases hj : o.pk = j
    · rw [if_pos hj] at hwork ⊢
      rw [hf o] at hwork
      exact fun hr => h.own o ho hwork ((hrenews o).symm.trans hr)
    · rw [if_neg hj] at hwork ⊢
      exact h.own o ho hwork

/-! ## Programs -/

variable {platform : Platform} {routing : Routing} {now : Instant} {actor : Option ℕ}
  {p : Panel} {i : Inbound} {plan : Plan} {inbounds : List Inbound} {identity : ClientIdentity}
  {o : Order} {m : ℕ} {α : Type} {q : ShopM α}

theorem quiet_of_tables {γ : Type} {view : Db → γ} (hq : Keeps view q)
    (h : ∀ db db', view db' = view db → db'.clients = db.clients ∧ db'.orders = db.orders) :
    Grows (Quiet k owner done atWork) q :=
  hq.grows fun db db' hview hdb => hdb.congr (h db db' hview).1 (h db db' hview).2

theorem quiet_of_id (hq : Keeps id q) : Grows (Quiet k owner done atWork) q :=
  quiet_of_tables hq fun db db' h => by
    have hsame : db' = db := h
    rw [hsame]
    exact ⟨rfl, rfl⟩

theorem quiet_of_withoutStock (hq : Keeps Db.withoutStock q) :
    Grows (Quiet k owner done atWork) q :=
  quiet_of_tables hq fun db db' h => by
    have hclients : db'.withoutStock.clients = db.withoutStock.clients := by rw [h]
    have horders : db'.withoutStock.orders = db.withoutStock.orders := by rw [h]
    exact ⟨hclients, horders⟩

theorem quiet_getOrder {f : Order → ShopM α}
    (h : ∀ db o, Quiet k owner done atWork db → db.orders.get? m = some o →
      Grows (Quiet k owner done atWork) (f o)) :
    Grows (Quiet k owner done atWork) (getOrder m >>= f) := by
  have hread : Grows (Quiet k owner done atWork)
      (readDb (·.orders.get? m) >>= fun o =>
        orRaise "Order matching query does not exist." o >>= f) := by
    refine grows_readDb_bind fun db hdb => ?_
    cases ho : db.orders.get? m with
    | none => exact fun s => le_refl _
    | some o => exact h db o hdb ho
  intro s
  have hs := hread s
  simp only [wp_bind] at hs
  simpa only [getOrder, wp_bind] using hs

theorem quiet_getPlan : Grows (Quiet k owner done atWork) (getPlan m) :=
  quiet_of_id ((keeps_readDb _).bind fun _ => keeps_orRaise _ _)

theorem quiet_ofExcept {r : Except String α} :
    Grows (Quiet k owner done atWork) (ofExcept r : ShopM α) :=
  quiet_of_id (keeps_ofExcept r)

theorem quiet_orRaise {e : String} {r : Option α} :
    Grows (Quiet k owner done atWork) (orRaise e r : ShopM α) :=
  quiet_of_id (keeps_orRaise e r)

/-- A save of the order at work. -/
theorem quiet_saveOrder {f : Order → Order} {hf : ∀ o, (f o).pk = o.pk}
    (hrenews : ∀ o, (f o).metadata.renewalClientPk = o.metadata.renewalClientPk) :
    Grows (Quiet k owner done (some m)) (saveOrder now m f hf) :=
  grows_writeDb fun _ h => h.setOrder (fun o => by rw [Order.save_metadata, hrenews]) (.inl rfl)

/-- A save that completes no order. -/
theorem quiet_saveOrder_open {f : Order → Order} {hf : ∀ o, (f o).pk = o.pk}
    (hrenews : ∀ o, (f o).metadata.renewalClientPk = o.metadata.renewalClientPk)
    (hopen : ∀ o, (f o).status = .completed → o.status = .completed) :
    Grows (Quiet k owner done atWork) (saveOrder now m f hf) :=
  grows_writeDb fun _ h => h.setOrder (fun o => by rw [Order.save_metadata, hrenews])
    (.inr fun o ho => hopen o (save_status_completed ho))

theorem quiet_saveClient {j : ℕ} {f : VPNClient → VPNClient} {hf : ∀ c, (f c).pk = c.pk}
    (hj : j ≠ k) : Grows (Quiet k owner done atWork) (saveClient j f hf) :=
  grows_writeDb fun _ h => h.setClient hj

/-! ## Rows of delivered clients -/

/-- The lookup of a delivered client passes over deleted ones. -/
theorem ne_of_mem_localOrderClientMatches {result : ClientResult} {c : VPNClient}
    (h : Quiet k owner done atWork db) (hc : c ∈ localOrderClientMatches db o i result) :
    c.pk ≠ k := by
  intro hk
  obtain ⟨b, hb, hburied, -⟩ := h.client
  obtain ⟨hrow, hmatch⟩ := List.mem_filter.mp hc
  have hget : db.clients.get? k = some c := Table.get?_eq_some_iff.mpr ⟨hrow, hk⟩
  obtain rfl : b = c := Option.some.inj (hb.symm.trans hget)
  simp [hburied.status] at hmatch

theorem quiet_upsertLocalClient {result : ClientResult} :
    Grows (Quiet k owner done atWork) (upsertLocalClient now o plan i result) := by
  refine grows_readDb_bind fun db hdb => ?_
  dsimp only [id]
  cases hmatches : localOrderClientMatches db o i result with
  | nil =>
      refine (grows_writeDb fun _ h => h.addClient).bind fun _ => ?_
      refine (grows_writeDb fun _ h => h.congr rfl rfl).bind fun _ => ?_
      exact (quiet_saveClient hdb.ne_nextKey).bind fun _ => grows_pure _
  | cons c cs =>
      cases cs with
      | nil =>
          have hc : c.pk ≠ k := ne_of_mem_localOrderClientMatches hdb (hmatches ▸ List.mem_cons_self)
          exact (quiet_saveClient hc).bind fun _ => grows_pure _
      | cons c' cs => exact grows_raise _

theorem quiet_recordUser {result : ClientResult} :
    Grows (Quiet k owner done atWork) (recordUser now o plan inbounds i result) := by
  refine quiet_upsertLocalClient.bind fun x => Grows.ite (Grows.bind ?_ fun _ => grows_pure _)
    (grows_pure _)
  exact Grows.forEach fun _ _ => grows_writeDb fun _ h => h.congr rfl rfl

end Qasedak.Services
