import Qasedak.Foundation.Run
import Qasedak.Orders.Refusal

/-! A rejected or cancelled order is never delivered, whatever is done with it next. -/

namespace Qasedak.Orders

open Foundation Store Panels Payments

/-- The requests to create or renew a service, whether or not they took effect. -/
def provisioningCalls (s : Shop) : List (RemoteCall × Bool) :=
  s.calls.filter fun c => c.1.IsCreate || c.1.IsRenewal

/-- The order exists and was refused. -/
def IsRefused (k : ℕ) (db : Db) : Prop := ∃ o, db.orders.get? k = some o ∧ o.status.Refused

/-- Nothing was written, and no service was asked for. -/
structure Inert (s s' : Shop) : Prop where
  db : s'.db = s.db
  calls : provisioningCalls s' = provisioningCalls s

theorem Inert.refl (s : Shop) : Inert s s := ⟨rfl, rfl⟩

theorem Inert.trans {s s' s'' : Shop} (h : Inert s s') (h' : Inert s' s'') : Inert s s'' :=
  ⟨h'.db.trans h.db, h'.calls.trans h.calls⟩

theorem Inert.next (s : Shop) : Inert s s.next := ⟨rfl, rfl⟩

variable (delivery : Delivery) {k : ℕ} {s s₀ : Shop} {now : Instant} {actor : Option ℕ}
  {source : Source} {notify : Bool}

/-! ## Operations that do nothing -/

theorem wp_approveTransaction_of_refused (h : IsRefused k s.db)
    {Q : Approved → Shop → Prop} {X : Halt String → Shop → Prop} (hQ : ∀ r, Q (.answered r) s) :
    Prog.wp (approveTransaction delivery now actor source k) Q X s := by
  obtain ⟨o, ho, hrefused⟩ := h
  obtain ⟨r, hr⟩ := earlyAnswer_of_refused s.db source hrefused
  unfold approveTransaction getOrder
  simpa [Prog.wp_orRaise, ho, hr] using hQ r

theorem wp_approveOrder_of_refused (h : IsRefused k s.db) :
    Prog.wp (approveOrder delivery now actor source notify k) (fun _ s' => Inert s s')
      (fun _ s' => Inert s s') s := by
  unfold approveOrder
  rw [Prog.wp_bind]
  exact wp_approveTransaction_of_refused delivery h fun _ => Inert.refl s

theorem wp_assignmentTransaction_of_refused (h : IsRefused k s.db)
    {Q : Approved → Shop → Prop} {X : Halt String → Shop → Prop} (hQ : ∀ r, Q (.answered r) s) :
    Prog.wp (assignmentTransaction delivery now actor k) Q X s := by
  obtain ⟨o, ho, hrefused⟩ := h
  have hopen : o.status ≠ .completed := by rcases hrefused with h | h <;> simp [h]
  unfold assignmentTransaction getOrder
  simp only [Prog.wp_bind, Prog.wp_atomic, Prog.wp_readDb, Prog.wp_orRaise, ho, id_eq,
    if_neg hopen]
  split
  · exact hQ _
  · rw [if_pos (.inl hrefused)]
    exact hQ _

theorem wp_completeInventoryAssignment_of_refused (h : IsRefused k s.db) :
    Prog.wp (completeInventoryAssignment delivery now actor notify k) (fun _ s' => Inert s s')
      (fun _ s' => Inert s s') s := by
  unfold completeInventoryAssignment
  rw [Prog.wp_bind]
  exact wp_assignmentTransaction_of_refused delivery h fun _ => Inert.refl s

theorem wp_claimRenewal_of_refused (h : IsRefused k s.db)
    {Q : Except ProvisioningResult Bool → Shop → Prop} {X : Halt String → Shop → Prop}
    (hQ : Q (.ok false) s) : Prog.wp (claimRenewal now k) Q X s := by
  obtain ⟨o, ho, hrefused⟩ := h
  unfold claimRenewal getOrder
  simp only [Prog.wp_bind, Prog.wp_atomic, Prog.wp_readDb, Prog.wp_orRaise, ho]
  rw [if_pos (.inr hrefused)]
  exact hQ

theorem wp_approveAndProvisionOrder_of_refused (h : IsRefused k s.db) :
    Prog.wp (approveAndProvisionOrder delivery now actor source notify k)
      (fun _ s' => Inert s s') (fun _ s' => Inert s s') s := by
  have ⟨o, ho, _⟩ := h
  unfold approveAndProvisionOrder getOrder
  simp only [Prog.wp_bind, Prog.wp_readDb, Prog.wp_orRaise, ho]
  split
  · exact wp_completeInventoryAssignment_of_refused delivery h
  split
  · exact wp_approveOrder_of_refused delivery h
  · rw [Prog.wp_bind]
    exact wp_claimRenewal_of_refused h (wp_approveOrder_of_refused delivery h)

theorem wp_retryOrderCompletion_of_refused (h : IsRefused k s.db) :
    Prog.wp (retryOrderCompletion delivery now actor k) (fun _ s' => Inert s s')
      (fun _ s' => Inert s s') s := by
  have ⟨o, ho, _⟩ := h
  unfold retryOrderCompletion getOrder
  simp only [Prog.wp_bind, Prog.wp_readDb, Prog.wp_orRaise, ho]
  split
  · exact wp_approveAndProvisionOrder_of_refused delivery h
  · exact Inert.refl s

theorem wp_confirmOrderBySms_of_refused {sms : ℕ} (h : IsRefused k s.db) :
    Prog.wp (confirmOrderBySms delivery now actor sms k) (fun _ s' => Inert s s')
      (fun _ s' => Inert s s') s := by
  obtain ⟨o, ho, hrefused⟩ := h
  unfold confirmOrderBySms
  simp only [Prog.wp_bind, Prog.wp_readDb, id_eq]
  split
  case h_1 => exact Inert.refl s
  case h_2 => exact Inert.refl s
  case h_3 j payment hpaid =>
  -- A refused order is not paid by an SMS.
  obtain rfl : j = k := confirmTransaction_paid_explicit hpaid
  obtain ⟨-, o', -, -, ho', -, hopen, -⟩ := confirmTransaction_paid hpaid
  obtain rfl : o = o' := Option.some.inj (ho.symm.trans ho')
  exact absurd hrefused hopen

theorem wp_autoApproveOrder_of_refused (h : IsRefused k s.db) :
    Prog.wp (autoApproveOrder delivery now k) (fun _ s' => Inert s s')
      (fun _ s' => Inert s s') s := by
  obtain ⟨o, ho, hrefused⟩ := h
  have hreceipt : ∀ store, isPendingReceipt store o = false := by
    intro store
    rcases hrefused with h | h <;> simp [isPendingReceipt, h]
  unfold autoApproveOrder claimAutoApproval getOrder
  simp only [Prog.wp_bind, Prog.wp_atomic, Prog.wp_readDb, Prog.wp_orRaise, ho, id_eq]
  split
  case h_2 => exact Inert.refl s
  split
  case h_2 => exact Inert.refl s
  rw [if_pos (.inr (by simp [hreceipt]))]
  exact Inert.refl s

theorem wp_confirmAutoPayment_of_refused (h : IsRefused k s.db) :
    Prog.wp (confirmAutoPayment now actor k) (fun _ s' => Inert s s')
      (fun _ s' => Inert s s') s := by
  obtain ⟨o, ho, hrefused⟩ := h
  unfold confirmAutoPayment getOrder
  simp only [Prog.wp_bind, Prog.wp_atomic, Prog.wp_readDb, Prog.wp_orRaise, ho, id_eq]
  split
  case h_2 => exact Inert.refl s
  split
  · exact Inert.refl s
  · exact Inert.refl s

/-! ## Refusals -/

theorem DeletesOnly.inert {s' : Shop} (h : DeletesOnly s s') : Inert s s' := by
  obtain ⟨new, hcalls, hnew⟩ := h.calls
  refine ⟨h.db, ?_⟩
  have hnone : new.filter (fun c => c.1.IsCreate || c.1.IsRenewal) = [] := by
    refine List.filter_eq_nil_iff.mpr fun c hc => ?_
    have := hnew c hc
    cases hcall : c.1 <;> simp_all [RemoteCall.IsDelete, RemoteCall.IsCreate, RemoteCall.IsRenewal]
  rw [provisioningCalls, hcalls, List.filter_append, hnone, List.nil_append]
  rfl

theorem Order.save_refused {o : Order} (h : o.status.Refused) (now : Instant) :
    (o.save now).status = o.status :=
  Order.save_status_of_ne (by rcases h with h | h <;> simp [h]) now

/-- A refusal that is carried out leaves the order refused. -/
theorem wp_refuseOrder_of_refused {o : Order} {f : Order → Order} {hf : ∀ o, (f o).pk = o.pk}
    {message : String} (ho : s.db.orders.get? k = some o) (hrefused : IsRefused k s.db)
    (hfrefused : ∀ o, (f o).status.Refused) :
    Prog.wp (refuseOrder now o f hf message)
      (fun _ s' => IsRefused k s'.db ∧ provisioningCalls s' = provisioningCalls s)
      (fun _ s' => Inert s s') s := by
  obtain ⟨-, rfl⟩ := Table.mem_of_get? ho
  refine wp_refuseOrder (fun r s' h _ => ⟨h.inert.db ▸ hrefused, h.inert.calls⟩)
    (fun s' h => ⟨⟨(f o).save now, ?_, ?_⟩, h.inert.calls⟩) (fun _ _ h => h.inert)
  · exact Db.get?_setOrder_self _ ho
  · rw [Order.save_refused (hfrefused o)]
    exact hfrefused o

theorem wp_rejectOrder_of_refused (h : IsRefused k s.db) :
    Prog.wp (rejectOrder now actor notify k)
      (fun _ s' => IsRefused k s'.db ∧ provisioningCalls s' = provisioningCalls s)
      (fun _ s' => IsRefused k s'.db ∧ provisioningCalls s' = provisioningCalls s) s := by
  obtain ⟨o, ho, hrefused⟩ := id h
  have hopen : o.status ≠ .completed := by rcases hrefused with h | h <;> simp [h]
  unfold rejectOrder rejectTransaction getOrder
  simp only [Prog.wp_bind, Prog.wp_atomic, Prog.wp_readDb, Prog.wp_orRaise, ho, if_neg hopen]
  refine Prog.wp_mono (wp_refuseOrder_of_refused ho h fun _ => .inl rfl) ?_
    (fun _ s' hs' => ⟨h, hs'.calls⟩)
  rintro r s' ⟨h', hcalls⟩
  split
  · rw [Prog.wp_bind]
    exact Prog.wp_remoteRead (fun _ _ _ => ⟨h', hcalls⟩) (fun _ _ => ⟨h', hcalls⟩)
  · exact ⟨h', hcalls⟩

theorem wp_cancelOrder_of_refused (h : IsRefused k s.db) :
    Prog.wp (cancelOrder now k)
      (fun _ s' => IsRefused k s'.db ∧ provisioningCalls s' = provisioningCalls s)
      (fun _ s' => IsRefused k s'.db ∧ provisioningCalls s' = provisioningCalls s) s := by
  obtain ⟨o, ho, -⟩ := id h
  unfold cancelOrder getOrder
  simp only [Prog.wp_bind, Prog.wp_atomic, Prog.wp_readDb, Prog.wp_orRaise, ho]
  exact Prog.wp_mono (wp_refuseOrder_of_refused ho h fun _ => .inr rfl) (fun _ _ h => h)
    (fun _ s' hs' => ⟨h, hs'.calls⟩)

/-! ## Runs -/

inductive OrderOpKind where
  | approve (actor : Option ℕ) (source : Source) (notify : Bool)
  | retry (actor : Option ℕ)
  | autoApprove
  | confirmAuto (user : Option ℕ)
  | confirmSms (user : Option ℕ) (row : ℕ)
  | assignInventory (actor : Option ℕ) (notify : Bool)
  | reject (user : Option ℕ) (notify : Bool)
  | cancel
  deriving DecidableEq

/-- `reject_order` and `cancel_order`. -/
def OrderOpKind.Refuses : OrderOpKind → Bool
  | .reject .. | .cancel => true
  | _ => false

/-- An operation on the order, its time and the fate of its interactions. -/
structure OrderOp where
  kind : OrderOpKind
  now : Instant
  signals : List Signal

def OrderOpKind.program (now : Instant) (order : ℕ) : OrderOpKind → ShopM Unit
  | .approve actor source notify => do
      let _ ← approveAndProvisionOrder delivery now actor source notify order
      return
  | .retry actor => do
      let _ ← retryOrderCompletion delivery now actor order
      return
  | .autoApprove => do
      let _ ← autoApproveOrder delivery now order
      return
  | .confirmAuto user => confirmAutoPayment now user order
  | .confirmSms user row => confirmOrderBySms delivery now user row order
  | .assignInventory actor notify => do
      let _ ← completeInventoryAssignment delivery now actor notify order
      return
  | .reject user notify => do
      let _ ← rejectOrder now user notify order
      return
  | .cancel => do
      let _ ← cancelOrder now order
      return

/-- The shop after an operation on the order. -/
def orderStep (order : ℕ) (s : Shop) (a : OrderOp) : Shop :=
  (a.kind.program delivery a.now order { s with signals := a.signals }).2

/-- Everything but a refusal leaves a refused order, and the whole database, alone. -/
theorem orderStep_inert {a : OrderOp} (h : IsRefused k s.db) (ha : a.kind.Refuses = false) :
    Inert s (orderStep delivery k s a) := by
  obtain ⟨kind, now, signals⟩ := a
  have hsignals : Inert s { s with signals := signals } := ⟨rfl, rfl⟩
  refine hsignals.trans ?_
  apply Prog.snd_of_wp
  have h' : IsRefused k ({ s with signals := signals } : Shop).db := h
  cases kind <;> simp only [OrderOpKind.program, Prog.wp_bind]
  case approve => exact wp_approveAndProvisionOrder_of_refused delivery h'
  case retry => exact wp_retryOrderCompletion_of_refused delivery h'
  case autoApprove => exact wp_autoApproveOrder_of_refused delivery h'
  case confirmAuto => exact wp_confirmAutoPayment_of_refused h'
  case confirmSms => exact wp_confirmOrderBySms_of_refused delivery h'
  case assignInventory => exact wp_completeInventoryAssignment_of_refused delivery h'
  case reject => cases ha
  case cancel => cases ha

/-- A refused order stays refused, and no operation asks a panel for its service. -/
theorem orderStep_refused {a : OrderOp} (h : IsRefused k s.db) :
    IsRefused k (orderStep delivery k s a).db ∧
      provisioningCalls (orderStep delivery k s a) = provisioningCalls s := by
  cases ha : a.kind.Refuses with
  | false =>
      have hinert := orderStep_inert delivery h ha
      exact ⟨hinert.db ▸ h, hinert.calls⟩
  | true =>
      obtain ⟨kind, now, signals⟩ := a
      have h' : IsRefused k ({ s with signals := signals } : Shop).db := h
      change IsRefused k (kind.program delivery now k { s with signals := signals }).2.db ∧
        provisioningCalls (kind.program delivery now k { s with signals := signals }).2 =
          provisioningCalls { s with signals := signals }
      refine Prog.snd_of_wp (P := fun s' => IsRefused k s'.db ∧
        provisioningCalls s' = provisioningCalls { s with signals := signals }) ?_
      cases kind with
      | reject user notify =>
          rw [OrderOpKind.program, Prog.wp_bind]
          exact wp_rejectOrder_of_refused h'
      | cancel =>
          rw [OrderOpKind.program, Prog.wp_bind]
          exact wp_cancelOrder_of_refused h'
      | _ => cases ha

/-- A rejected or cancelled order stays one of the two in every run, is never completed and
never provisioned, and only `reject_order` and `cancel_order` write anything. -/
theorem refused_order_stays_refused (ops : List OrderOp) (h : IsRefused k s.db) :
    IsRefused k (run (orderStep delivery k) s ops).db ∧
      provisioningCalls (run (orderStep delivery k) s ops) = provisioningCalls s ∧
      ((∀ a ∈ ops, a.kind.Refuses = false) → (run (orderStep delivery k) s ops).db = s.db) := by
  induction ops generalizing s with
  | nil => exact ⟨h, rfl, fun _ => rfl⟩
  | cons a ops ih =>
      obtain ⟨h', hcalls⟩ := orderStep_refused delivery (a := a) h
      obtain ⟨hrun, hrunCalls, hrunDb⟩ := ih h'
      refine ⟨hrun, hrunCalls.trans hcalls, fun hops => ?_⟩
      have hinert := orderStep_inert delivery h (hops a (by simp))
      exact (hrunDb fun b hb => hops b (by simp [hb])).trans hinert.db

/-! ## A rejected order that its customer drops -/

/-- A shop with one order, whose payment was rejected. -/
def rejectedShop : Shop where
  db :=
    { orders := Table.empty.put
        { pk := 1, customer := some 9, plan := 3, status := .rejected
          verificationStatus := .rejected }
      sms := .empty
      clients := .empty
      inbounds := .empty
      panels := .empty
      plans := .empty
      stores := .empty
      automations := .empty }
  remote := {}

theorem rejectedShop_refused : IsRefused 1 rejectedShop.db := ⟨_, rfl, .inl rfl⟩

/-- The customer deletes a rejected order from the dashboard: it becomes a cancelled one. -/
theorem rejected_order_becomes_cancelled :
    (rejectedShop.db.orders.get? 1).map (·.status) = some .rejected ∧
      ((run (orderStep noDelivery 1) rejectedShop [⟨.cancel, 0, []⟩]).db.orders.get? 1).map
        (·.status) = some .cancelled :=
  ⟨rfl, rfl⟩

/-- An approval of the rejected order, and then its cancellation. -/
def laterOps : List OrderOp :=
  [⟨.approve none .manual true, 0, []⟩, ⟨.cancel, 0, []⟩]

theorem refused_order_stays_refused_laterOps :
    IsRefused 1 (run (orderStep noDelivery 1) rejectedShop laterOps).db ∧
      provisioningCalls (run (orderStep noDelivery 1) rejectedShop laterOps) =
        provisioningCalls rejectedShop ∧
      ((∀ a ∈ laterOps, a.kind.Refuses = false) →
        (run (orderStep noDelivery 1) rejectedShop laterOps).db = rejectedShop.db) :=
  refused_order_stays_refused noDelivery laterOps rejectedShop_refused

end Qasedak.Orders
