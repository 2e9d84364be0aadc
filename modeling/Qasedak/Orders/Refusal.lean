import Qasedak.Orders.Approval

/-! `reject_order`, `cancel_order` and the clients that they delete. -/

namespace Qasedak.Orders

open Foundation Store Panels Payments

def clientTarget (c : VPNClient) : DeletionTarget :=
  { inbound := c.inbound, uuid := c.uuid, username := c.username, xuiEmail := c.xuiEmail }

def orderTarget (o : Order) : DeletionTarget :=
  { inbound := o.inbound, uuid := o.uuid, username := o.username }

/-- `deletion_targets_for_order`. -/
def deletionTargetsForOrder (db : Db) (o : Order) : List DeletionTarget :=
  if db.vpnClients o.pk ≠ [] then (db.vpnClients o.pk).map clientTarget
  else if o.inbound.isSome ∧ o.uuid.getD "" ≠ "" then [orderTarget o]
  else []

/-- The deletions in turn, up to the first that fails. -/
def deletePanelClients (targets : List DeletionTarget) : ShopM Bool :=
  Prog.forEach targets true fun t ok => if ok then deletePanelClient t else return false

/-- `decrement_inbound_users_for_targets`, on one inbound. -/
def releaseInbound (targets : List DeletionTarget) (i : Inbound) : Inbound :=
  { i with currentUsers := i.currentUsers - targets.countP (·.inbound = some i.pk) }

theorem releaseInbound_pk (targets : List DeletionTarget) (i : Inbound) :
    (releaseInbound targets i).pk = i.pk := rfl

def decrementInboundUsers (targets : List DeletionTarget) (db : Db) : Db :=
  { db with inbounds := db.inbounds.map (releaseInbound targets) (releaseInbound_pk targets) }

def suspendOf (order : ℕ) (c : VPNClient) : VPNClient :=
  if c.order = some order then c.markSuspended else c

theorem suspendOf_pk (order : ℕ) (c : VPNClient) : (suspendOf order c).pk = c.pk := by
  unfold suspendOf
  split <;> rfl

/-- `mark_suspended` on the clients of an order. -/
def suspendClients (order : ℕ) (db : Db) : Db :=
  { db with clients := db.clients.map (suspendOf order) (suspendOf_pk order) }

theorem suspendClients_of_nil {order : ℕ} {db : Db} (h : db.vpnClients order = []) :
    suspendClients order db = db := by
  have hrows : db.clients.rows.map (suspendOf order) = db.clients.rows := by
    conv_rhs => rw [← List.map_id db.clients.rows]
    refine List.map_congr_left fun c hc => ?_
    have hne : ¬ c.order = some order := by
      simpa using List.filter_eq_nil_iff.mp h c hc
    simp [suspendOf, hne]
  have hclients : db.clients.map (suspendOf order) (suspendOf_pk order) = db.clients := by
    cases hc : db.clients with
    | mk rows hnodup =>
        rw [hc] at hrows
        simpa [Table.map] using hrows
  rw [suspendClients, hclients]

/-- The body of both actions: the panel's clients are deleted, then the order is refused. -/
def refuseOrder (now : Instant) (o : Order) (f : Order → Order) (hf : ∀ o, (f o).pk = o.pk)
    (message : String) : ShopM OrderActionResult := do
  let db ← Prog.readDb id
  let deleted ← deletePanelClients (deletionTargetsForOrder db o)
  if deleted then do
    saveOrder now o.pk f hf
    Prog.writeDb (suspendClients o.pk)
    Prog.writeDb (decrementInboundUsers (deletionTargetsForOrder db o))
    return { success := true, message := message }
  else return { success := false, message := "Panel client deletion failed." }

def rejectedOrder (user : Option ℕ) (now : Instant) (o : Order) : Order :=
  { o.markPaymentRejected user now with
    provisioningStatus := .notRequired
    lastProvisioningError := "" }

def cancelledOrder (o : Order) : Order :=
  { o with
    status := .cancelled
    provisioningStatus := .notRequired
    lastProvisioningError := "" }

@[simp] theorem rejectedOrder_pk (user : Option ℕ) (now : Instant) (o : Order) :
    (rejectedOrder user now o).pk = o.pk := rfl

@[simp] theorem cancelledOrder_pk (o : Order) : (cancelledOrder o).pk = o.pk := rfl

/-- The transaction of `reject_order`. -/
def rejectTransaction (now : Instant) (user : Option ℕ) (order : ℕ) : ShopM OrderActionResult :=
  Prog.atomic do
    let o ← getOrder order
    if o.status = .completed then
      return { success := false, message := "Completed orders cannot be rejected." }
    else refuseOrder now o (rejectedOrder user now) (rejectedOrder_pk user now) "Order rejected."

/-- `reject_order`. -/
def rejectOrder (now : Instant) (user : Option ℕ) (notify : Bool) (order : ℕ) :
    ShopM OrderActionResult := do
  let result ← rejectTransaction now user order
  if result.success ∧ notify then notifyOrderEvent
  return result

/-- `cancel_order`. -/
def cancelOrder (now : Instant) (order : ℕ) : ShopM OrderActionResult :=
  Prog.atomic do
    let o ← getOrder order
    refuseOrder now o cancelledOrder cancelledOrder_pk "Order deleted from dashboard."

/-! ## What a deletion may change -/

/-- The database is as it was, and the panels were asked for deletions only. -/
structure DeletesOnly (s s' : Shop) : Prop where
  db : s'.db = s.db
  calls : ∃ new, s'.calls = new ++ s.calls ∧ ∀ c ∈ new, c.1.IsDelete = true

theorem DeletesOnly.refl (s : Shop) : DeletesOnly s s := ⟨rfl, [], rfl, by simp⟩

theorem DeletesOnly.trans {s s' s'' : Shop} (h : DeletesOnly s s') (h' : DeletesOnly s' s'') :
    DeletesOnly s s'' := by
  obtain ⟨new, hcalls, hnew⟩ := h.calls
  obtain ⟨new', hcalls', hnew'⟩ := h'.calls
  refine ⟨h'.db.trans h.db, new' ++ new, by rw [hcalls', hcalls, List.append_assoc], ?_⟩
  intro c hc
  rcases List.mem_append.mp hc with hc | hc
  · exact hnew' c hc
  · exact hnew c hc

theorem DeletesOnly.next (s : Shop) : DeletesOnly s s.next := ⟨rfl, [], rfl, by simp⟩

variable {s₀ s : Shop}

theorem DeletesOnly.wp_remoteWrite {call : RemoteCall}
    {apply : Remote → Except String (Remote × Unit)} (hcall : call.IsDelete = true)
    (h : DeletesOnly s₀ s) :
    Prog.wp (Prog.remoteWrite timedOut call apply : ShopM Unit) (fun _ s' => DeletesOnly s₀ s')
      (fun _ s' => DeletesOnly s₀ s') s := by
  refine Prog.wp_remoteWrite_frame fun s' hdb hcalls => h.trans ⟨hdb, ?_⟩
  rcases hcalls with hcalls | ⟨effect, hcalls⟩
  · exact ⟨[], hcalls, by simp⟩
  · exact ⟨[(call, effect)], hcalls, by simpa using hcall⟩

theorem DeletesOnly.wp_postClientDelete {p : Panel} {i : Inbound} {identifier email : String}
    (h : DeletesOnly s₀ s) :
    Prog.wp (postClientDelete p i identifier email) (fun _ s' => DeletesOnly s₀ s')
      (fun _ s' => DeletesOnly s₀ s') s := by
  have hwrite : ∀ s, DeletesOnly s₀ s → Prog.wp (Prog.onError
      (Prog.remoteWrite timedOut (.deleteClient i.panel i.inboundId identifier)
        (Remote.deleteClient (usesModernClientApi p) i.panel i.inboundId identifier (strip email)))
      fun e => if e = Remote.clientNotFound then return else Prog.raise e : ShopM Unit)
      (fun _ s' => DeletesOnly s₀ s') (fun _ s' => DeletesOnly s₀ s') s := by
    intro s h
    rw [Prog.wp_onError]
    refine Prog.wp_mono (h.wp_remoteWrite rfl) (fun _ _ h => h) fun e s' h' => ?_
    cases e with
    | crashed => exact h'
    | raised e =>
        dsimp only
        split
        · exact h'
        · exact h'
  unfold postClientDelete
  split
  case isFalse => exact hwrite s h
  case isTrue =>
  split
  case isTrue => exact h
  case isFalse =>
  unfold assertSingleAttachment
  simp only [Prog.wp_bind]
  exact Prog.wp_remoteRead (fun _ _ _ => hwrite s.next (h.trans (.next s)))
    (fun _ _ => h.trans (.next s))

theorem wp_findClientInInbound {i : Inbound} {identifier : String}
    {Q : RemoteClient → Shop → Prop} {X : Halt String → Shop → Prop}
    (hQ : ∀ c, s.signal = .acknowledged → Q c s.next) (hX : ∀ e, X e s)
    (hread : ∀ e, X e s.next) : Prog.wp (findClientInInbound i identifier) Q X s := by
  unfold findClientInInbound
  rw [Prog.wp_ite]
  exact ⟨fun _ => hX _, fun _ => Prog.wp_remoteRead (fun c _ hack => hQ c hack)
    (fun e _ => hread e)⟩

theorem DeletesOnly.wp_xuiDeleteClient {t : DeletionTarget} (h : DeletesOnly s₀ s) :
    Prog.wp (xuiDeleteClient t) (fun _ s' => DeletesOnly s₀ s')
      (fun _ s' => DeletesOnly s₀ s') s := by
  unfold xuiDeleteClient
  refine Prog.wp_catch ?_ fun _ _ h => h
  simp only [Prog.wp_bind, Prog.wp_readDb, Prog.wp_ofExcept, id_eq]
  split
  case h_2 => exact h
  split
  case h_2 => exact h
  split
  case isFalse =>
    rw [Prog.wp_bind]
    exact h.wp_postClientDelete
  case isTrue =>
  rw [Prog.wp_bind]
  refine wp_findClientInInbound (fun found _ => ?_) (fun _ => h) (fun _ => h.trans (.next s))
  rw [Prog.wp_bind]
  exact (h.trans (.next s)).wp_postClientDelete

theorem DeletesOnly.wp_deletePanelClient {t : DeletionTarget} (h : DeletesOnly s₀ s) :
    Prog.wp (deletePanelClient t) (fun _ s' => DeletesOnly s₀ s')
      (fun _ s' => DeletesOnly s₀ s') s := by
  unfold deletePanelClient
  simp only [Prog.wp_bind, Prog.wp_readDb, id_eq]
  split
  case h_2 => exact h.wp_xuiDeleteClient
  split
  case isFalse => exact h.wp_xuiDeleteClient
  case isTrue =>
  unfold deletePasarguardUser
  split
  case isTrue => exact h
  case isFalse =>
  refine Prog.wp_catch ?_ fun _ _ h => h
  rw [Prog.wp_bind]
  exact h.wp_remoteWrite rfl

theorem wp_deletePanelClients (targets : List DeletionTarget) :
    Prog.wp (deletePanelClients targets) (fun _ s' => DeletesOnly s s')
      (fun _ s' => DeletesOnly s s') s := by
  unfold deletePanelClients
  refine Prog.wp_forEach (I := fun _ _ s' => DeletesOnly s s') (DeletesOnly.refl s) ?_
  intro t rest ok s' h
  split
  · exact h.wp_deletePanelClient
  · exact h

/-- A refusal deletes clients and then writes the order, its clients and the inbounds; a
failed one writes nothing. -/
theorem wp_refuseOrder {now : Instant} {o : Order} {f : Order → Order}
    {hf : ∀ o, (f o).pk = o.pk} {message : String} {Q : OrderActionResult → Shop → Prop}
    {X : Halt String → Shop → Prop}
    (hfailed : ∀ r s', DeletesOnly s s' → r.success = false → Q r s')
    (hdone : ∀ s', DeletesOnly s s' → Q { success := true, message := message }
      { s' with db := decrementInboundUsers (deletionTargetsForOrder s.db o) (suspendClients o.pk
          (s.db.setOrder o.pk (fun o => (f o).save now) fun o => by rw [Order.save_pk, hf])) })
    (hX : ∀ e s', DeletesOnly s s' → X e s') :
    Prog.wp (refuseOrder now o f hf message) Q X s := by
  unfold refuseOrder
  simp only [Prog.wp_bind, Prog.wp_readDb, id_eq]
  refine Prog.wp_mono (wp_deletePanelClients _) ?_ hX
  intro deleted s' h
  split
  case isFalse => exact hfailed _ s' h rfl
  case isTrue =>
  have := hdone s' h
  unfold saveOrder
  simp only [Prog.wp_bind, Prog.wp_writeDb, h.db]
  exact this

end Qasedak.Orders
