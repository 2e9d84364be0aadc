import Qasedak.Foundation.Run
import Qasedak.Orders.DeliveryOutcomes

/-! The package of an invited customer over approvals, automatic approvals and their later
reviews. An approval that completes an order while another of the customer's orders awaits
its review spoils the reward of both, where only a first order earns one; and an order that
is delivered from an assigned asset is never asked about. -/

namespace Qasedak.Orders

open Foundation Store Panels Prog

variable {platform : Platform} {routing : Routing}
  {assignAsset : Instant → ℕ → ℕ → ShopM (Option String)} {now : Instant} {actor : Option ℕ}
  {source : Source} {notify : Bool} {k customer : ℕ} {s s' s₀ : Shop} {o : Order}

/-- The customer takes part in the programme and is treated fairly. -/
structure FairTo (customer : ℕ) (db : Db) : Prop where
  fair : db.programme.Fair customer
  participates : db.programme.Participates customer

/-- No other order stands in the way of this one, unless the package was granted. -/
def Clear (customer k : ℕ) (db : Db) : Prop :=
  db.programme.rewards customer = 0 → db.programme.Uncontested customer k

instance (customer k : ℕ) (db : Db) : Decidable (Clear customer k db) :=
  inferInstanceAs (Decidable (_ = 0 → db.programme.Uncontested customer k))

theorem FairTo.of_programme {db db' : Db} (h : FairTo customer db)
    (hdb : db'.programme = db.programme) : FairTo customer db' :=
  ⟨hdb ▸ h.fair, hdb ▸ h.participates⟩

theorem Clear.of_programme {db db' : Db} (h : Clear customer k db)
    (hdb : db'.programme = db.programme) : Clear customer k db' := by
  rw [Clear, hdb]
  exact h

/-! ## One approval -/

theorem standing_eq {db : Db} (ho : db.orders.get? k = some o) {x : Standing}
    (hx : x ∈ db.programme.orders) (hk : x.order = k) : x = orderStanding o := by
  obtain ⟨o', ho', rfl⟩ := List.mem_map.mp hx
  obtain ⟨horder, hkey⟩ := Table.mem_of_get? ho
  rw [List.inj_on_of_nodup_map db.orders.keys_nodup ho' horder (hk.trans hkey.symm)]

/-- A delivery that failed leaves no more to be granted than there was. -/
theorem FairTo.of_failed (h : FairTo customer s.db) (ho : s.db.orders.get? k = some o)
    (hsound : o.status = .completed → o.verificationStatus = .verified)
    (hd : Delivered k false s s') : FairTo customer s'.db := by
  refine ⟨h.fair.of_alters hd.alters fun y hy hyk hsuccess => ?_, hd.alters.participates
    h.participates⟩
  have hcompleted : y.completed = true := (Bool.and_eq_true_iff.mp hsuccess).1
  obtain ⟨x, hx, horder, hcustomer, hstore, -⟩ := hd.alters.orders y hy
  obtain ⟨z, hz, hzk, hzcompleted⟩ := hd.done rfl ⟨y, hy, hyk, hcompleted⟩
  have hxo := standing_eq ho hx (horder.symm.trans hyk)
  have hzo := standing_eq ho hz hzk
  rw [hzo] at hzcompleted
  have hstatus : o.status = .completed := of_decide_eq_true hzcompleted
  have hsuccessful : isSuccessful o = true := by simp [isSuccessful, hstatus, hsound hstatus]
  exact ⟨x, hx, horder.symm, hcustomer.symm, hstore.symm, hxo ▸ hsuccessful⟩

/-- Where an approval goes on to deliver, a completed order is a verified one. -/
theorem verified_of_earlyAnswer {db : Db} (h : earlyAnswer db source o = none)
    (hcompleted : o.status = .completed) : o.verificationStatus = .verified := by
  by_contra hverified
  have hresend : canResendOrder o = false := by simp [canResendOrder, hverified]
  unfold earlyAnswer at h
  split at h
  · cases h
  rw [if_neg (by simp [hresend]), if_neg (by simp [hverified])] at h
  have hrefused : ¬ OrderStatus.completed.Refused := by decide
  obtain ⟨reason, hreason⟩ : ∃ reason, provisioningBlockReason o = some reason := by
    by_cases hrejected : o.verificationStatus = .rejected <;>
      simp [provisioningBlockReason, hcompleted, hrefused, hrejected]
  rw [hreason] at h
  cases h

theorem wp_approveTransaction_delivered (ho : s.db.orders.get? k = some o) :
    wp (approveTransaction (shopDelivery platform routing assignAsset) now actor source k)
      (fun outcome s' => match outcome with
        | .answered _ => s' = s
        | .attempted r => Delivered k r.ok s s' ∧
            (o.status = .completed → o.verificationStatus = .verified))
      (fun _ s' => s'.db = s.db) s := by
  unfold approveTransaction getOrder
  simp only [wp_atomic, wp_bind, wp_readDb, wp_orRaise, ho, id_eq]
  cases hearly : earlyAnswer s.db source o with
  | some r => exact rfl
  | none =>
      have hsound := verified_of_earlyAnswer hearly
      have hnote : Keeps Db.books (saveOrder now k
          (noteAttempt (shopDelivery platform routing assignAsset) s.db) fun _ => rfl) :=
        keepsBooks_saveOrder fun _ => rfl
      rw [wp_bind]
      refine wp_mono (hnote s) (fun _ s₁ hkept => ?_) fun _ _ _ => trivial
      have h₁ : Delivered k false s s₁ := .of_kept hkept
      cases hrenewal : orderIsRenewal o with
      | true =>
          rw [if_pos rfl, wp_bind]
          exact wp_mono Delivered.wp_activateRenewalOrderLocked
            (fun r s₂ h₂ => ⟨h₁.trans h₂, hsound⟩) fun _ _ h => h
      | false =>
          rw [if_neg (by simp), wp_bind]
          exact wp_mono Delivered.wp_deliverOrder (fun r s₂ h₂ => ⟨h₁.trans h₂, hsound⟩) fun _ _ h => h

/-- The call after a delivery settles what the order is due. -/
theorem wp_rewardReferrer_fair {Q : Unit → Shop → Prop} {X : Halt String → Shop → Prop}
    (hbut : s.db.programme.FairBut customer k) (hp : s.db.programme.Participates customer)
    (hQ : ∀ s', FairTo customer s'.db → Q () s') : wp (rewardReferrer now k) Q X s := by
  unfold rewardReferrer
  rw [wp_onError, wp_bind]
  cases ho : s.db.orders.get? k with
  | some o =>
      exact wp_mono (wp_createReferralRewardForOrder_granted customer ho)
        (fun _ s' hs' => hQ s' ⟨hbut.of_granted hp hs'.2, hs'.2.participates hp⟩)
        fun _ _ h => h.elim
  | none =>
      unfold createReferralRewardForOrder getOrder
      simp only [wp_atomic, wp_bind, wp_readDb, wp_orRaise, ho]
      refine hQ s ⟨hbut.of_absent fun x hx hxk => ?_, hp⟩
      obtain ⟨o, ho', rfl⟩ := List.mem_map.mp hx
      rw [Table.get?_eq_some_iff.mpr ⟨ho', hxk⟩] at ho
      cases ho

/-- FairTo, unless the process died at the end of an approval. -/
def FairOrDead (customer : ℕ) (s : Shop) (e : Halt String) (s' : Shop) : Prop :=
  FairTo customer s'.db ∨ e = .crashed ∧ ¬ Calm s.signals

theorem not_calm_of_crash (h : s.signal.Crashes) : ¬ Calm s.signals := fun hcalm =>
  hcalm.signal h

theorem keepsBooks_notifyOrderEvent : Keeps Db.books notifyOrderEvent :=
  keeps_remoteRead _ _

theorem keepsBooks_recordFailure {r : ProvisioningResult} :
    Keeps Db.books (recordFailure now k r) :=
  keepsBooks_getOrder.bind fun _ => keepsBooks_saveOrder fun _ => rfl

theorem FairTo.wp_keeps {α : Type} {q : ShopM α} (h : FairTo customer s.db)
    (hq : Keeps Db.programme q) {X : Halt String → Shop → Prop}
    (hX : ∀ e s', FairTo customer s'.db → X e s') :
    wp q (fun _ s' => FairTo customer s'.db) X s :=
  wp_mono (hq s) (fun _ _ hkept => h.of_programme hkept.view) fun e s' hkept =>
    hX e s' (h.of_programme hkept.1.view)

/-- `_approve_and_provision_order`. -/
theorem FairTo.wp_approveOrder (h : FairTo customer s.db) (hclear : Clear customer k s.db) :
    wp (approveOrder (shopDelivery platform routing assignAsset) now actor source notify k)
      (fun _ s' => FairTo customer s'.db) (FairOrDead customer s) s := by
  unfold approveOrder
  rw [wp_bind]
  cases ho : s.db.orders.get? k with
  | none =>
      unfold approveTransaction getOrder
      simp only [wp_atomic, wp_bind, wp_readDb, wp_orRaise, ho]
      exact .inl h
  | some o =>
      refine wp_mono (wp_approveTransaction_delivered ho) (fun outcome s₁ h₁ => ?_)
        fun _ s' hdb => .inl (h.of_programme (congrArg Db.programme hdb))
      cases outcome with
      | answered r =>
          obtain rfl : s₁ = s := h₁
          exact h
      | attempted r =>
          obtain ⟨hdelivered, hsound⟩ := h₁
          simp only [wp_bind]
          refine wp_checkpoint (fun _ => ?_) fun hcrash => .inr ⟨rfl, fun hcalm => ?_⟩
          swap
          · exact not_calm_of_crash hcrash (hdelivered.calm hcalm)
          cases hok : r.ok with
          | false =>
              rw [hok] at hdelivered
              have hfailed : FairTo customer s₁.db := h.of_failed ho hsound hdelivered
              exact FairTo.wp_keeps (s := s₁.next) hfailed
                (keepsProgramme_of_books (keepsBooks_recordFailure.bind fun _ => keeps_pure _))
                fun _ _ => .inl
          | true =>
              rw [if_pos rfl, wp_bind]
              have hbut : s₁.next.db.programme.FairBut customer k :=
                (h.fair.but hclear).of_alters hdelivered.alters
              refine wp_rewardReferrer_fair hbut (hdelivered.alters.participates h.participates)
                fun s₂ h₂ => ?_
              split
              · exact h₂.wp_keeps
                  (keepsProgramme_of_books (keepsBooks_notifyOrderEvent.bind fun _ => keeps_pure _))
                  fun _ _ => .inl
              · exact h₂

theorem keepsBooks_recordAttempt {status : AttemptStatus} :
    Keeps Db.books (recordAttempt now k status) :=
  keepsBooks_saveOrder fun _ => rfl

theorem keepsBooks_claimRenewal : Keeps Db.books (claimRenewal now k) := by
  refine Keeps.atomic (keepsBooks_getOrder.bind fun o => ?_)
  refine Keeps.ite (keeps_pure _) (Keeps.ite (keeps_pure _) ?_)
  exact keepsBooks_recordAttempt.bind fun _ => keeps_pure _

theorem keepsBooks_finishRenewal : Keeps Db.books (finishRenewal now k) :=
  (keepsBooks_getOrder.bind fun _ => keepsBooks_recordAttempt).atomic

/-- The order is not delivered from an assigned asset. -/
def Unassigned (k : ℕ) (db : Db) : Prop :=
  ∀ o, db.orders.get? k = some o → o.metadata.adminInventoryAssetId = none

instance (k : ℕ) (db : Db) : Decidable (Unassigned k db) :=
  decidable_of_iff ((db.orders.get? k).all fun o => o.metadata.adminInventoryAssetId = none) (by
    cases h : db.orders.get? k <;> simp [Unassigned, h])

/-- `approve_and_provision_order`. -/
theorem FairTo.wp_approveAndProvisionOrder (h : FairTo customer s.db)
    (hclear : Clear customer k s.db) (hasset : Unassigned k s.db) :
    wp (approveAndProvisionOrder (shopDelivery platform routing assignAsset) now actor source
        notify k)
      (fun _ s' => FairTo customer s'.db) (FairOrDead customer s) s := by
  unfold approveAndProvisionOrder getOrder
  simp only [wp_bind, wp_readDb, wp_orRaise]
  cases ho : s.db.orders.get? k with
  | none => exact .inl h
  | some o =>
      dsimp only
      rw [if_neg (by simp [hasset o ho])]
      split
      · exact h.wp_approveOrder hclear
      rw [wp_bind]
      refine wp_mono (keepsProgramme_of_books keepsBooks_claimRenewal s) (fun claim s₁ hkept => ?_)
        fun _ s' hkept => .inl (h.of_programme hkept.1.view)
      have h₁ : FairTo customer s₁.db := h.of_programme hkept.view
      have hclear₁ : Clear customer k s₁.db := hclear.of_programme hkept.view
      have hdead : ∀ e s', FairOrDead customer s₁ e s' → FairOrDead customer s e s' :=
        fun _ _ hX => hX.imp_right fun hcrash => ⟨hcrash.1, fun hcalm =>
          hcrash.2 (hkept.calm hcalm)⟩
      split
      · exact h₁
      · exact wp_mono (h₁.wp_approveOrder hclear₁) (fun _ _ h₂ => h₂) hdead
      · rw [wp_bind]
        refine wp_checkpoint (fun _ => ?_) fun _ => .inl h₁
        rw [wp_bind]
        refine wp_mono (FairTo.wp_approveOrder (s := s₁.next) h₁ hclear₁) (fun r s₂ h₂ => ?_)
          fun e s' hX => hdead e s' (hX.imp_right fun hcrash => ⟨hcrash.1, fun hcalm =>
            hcrash.2 hcalm.tail⟩)
        rw [wp_bind]
        refine wp_checkpoint (fun _ => ?_) fun _ => .inl h₂
        exact FairTo.wp_keeps (s := s₂.next) h₂
          (keepsProgramme_of_books (keepsBooks_finishRenewal.bind fun _ => keeps_pure _))
          fun _ _ => .inl

/-! ## Automatic approvals and their review -/

theorem awaitsReview_modify {db : Db} {f : OrderAutomation → OrderAutomation}
    {hf : ∀ a, (f a).order = a.order} {j : ℕ}
    (h : j = k → ∀ a, (f a).autoApprovedAt.isSome = a.autoApprovedAt.isSome ∧
      (f a).reviewStatus = a.reviewStatus) :
    awaitsReview { db with automations := db.automations.modify k f hf } j = awaitsReview db j := by
  unfold awaitsReview
  dsimp only
  rw [Table.get?_modify]
  cases db.automations.get? j with
  | none => rfl
  | some a =>
      by_cases hj : j = k
      · simp [hj, h hj a]
      · simp [hj]

theorem keepsProgramme_noteAutomationError {e : String} :
    Keeps Db.programme (noteAutomationError k e) := by
  refine keeps_writeDb fun db => ?_
  have hawaits : (fun j => awaitsReview { db with
      automations := db.automations.modify k (fun a => { a with lastError := e }) fun _ => rfl } j) =
      awaitsReview db := funext fun j => awaitsReview_modify fun _ _ => ⟨rfl, rfl⟩
  exact congrArg (fun awaits => { db.programme with awaits := awaits }) hawaits

/-- A claim makes the order await its review. -/
theorem reviews_of_claim {db db' : Db} (horders : db'.orders = db.orders)
    (hcustomers : db'.customers = db.customers) (hstores : db'.stores = db.stores)
    (hledgers : db'.ledgers = db.ledgers)
    (hothers : ∀ j, j ≠ k → db'.automations.get? j = db.automations.get? j) :
    Programme.Reviews k db.programme db'.programme where
  same := by
    unfold Db.programme
    simp [horders, hcustomers, hstores, hledgers]
  others j hj := by
    change awaitsReview db' j = awaitsReview db j
    rw [awaitsReview, awaitsReview, hothers j hj]

/-- A new claim changes no order, and leaves the order to be reviewed. -/
theorem wp_claimAutoApproval (h : FairTo customer s.db) :
    wp (claimAutoApproval now k)
      (fun _ s' => FairTo customer s'.db ∧ s'.db.orders = s.db.orders ∧
        (Clear customer k s.db → Clear customer k s'.db))
      (fun _ s' => s'.db = s.db) s := by
  have hwrite : ∀ db' : Db, db' = { s.db with automations := db'.automations } →
      (∀ j, j ≠ k → db'.automations.get? j = s.db.automations.get? j) →
      awaitsReview db' k = true →
      FairTo customer db' ∧ db'.orders = s.db.orders ∧
        (Clear customer k s.db → Clear customer k db') := by
    intro db' hdb hothers hawaits
    have hr : Programme.Reviews k s.db.programme db'.programme :=
      reviews_of_claim (by rw [hdb]) (by rw [hdb]) (by rw [hdb]) (by rw [hdb]) hothers
    refine ⟨⟨h.fair.of_reviews hr hawaits, ?_⟩, by rw [hdb], ?_⟩
    · rw [hr.same]
      exact ⟨h.participates.invited, h.participates.enabled⟩
    · intro hclear
      rw [Clear, hr.same]
      exact hclear
  unfold claimAutoApproval getOrder
  simp only [wp_atomic, wp_bind, wp_readDb, wp_orRaise, id_eq]
  cases ho : s.db.orders.get? k with
  | none => trivial
  | some o =>
      dsimp only
      cases hstore : o.store.bind s.db.stores.get? with
      | none => trivial
      | some store =>
          dsimp only
          split
          case h_2 => exact ⟨h, rfl, id⟩
          split
          · exact ⟨h, rfl, id⟩
          split
          · exact ⟨h, rfl, id⟩
          cases haudit : s.db.automations.get? k with
          | none =>
              have hself := Table.get?_put_self (r := ({ order := k, autoApprovedAt := some now
                                                         reviewStatus := .pending } :
                OrderAutomation)) haudit
              refine hwrite _ rfl (fun j hj => Table.get?_put_of_ne hj) ?_
              unfold awaitsReview
              rw [hself]
              rfl
          | some audit =>
              dsimp only
              split
              · exact ⟨h, rfl, id⟩
              · refine hwrite _ rfl (fun j hj => ?_) ?_
                · rw [Table.get?_modify]
                  cases s.db.automations.get? j <;> simp [hj]
                · unfold awaitsReview
                  rw [Table.get?_modify, haudit]
                  simp

/-- The transaction of an automatic approval. -/
theorem FairTo.wp_autoApprovalTransaction (h : FairTo customer s.db)
    (hclear : Clear customer k s.db) (hasset : Unassigned k s.db) :
    wp (autoApprovalTransaction (shopDelivery platform routing assignAsset) now k)
      (fun _ s' => FairTo customer s'.db) (fun _ s' => FairTo customer s'.db) s := by
  unfold autoApprovalTransaction
  rw [wp_atomic]
  change wp _ _ (fun _ _ => FairTo customer s.db) s
  rw [wp_bind]
  unfold getOrder
  simp only [wp_bind, wp_readDb, wp_orRaise]
  cases s.db.orders.get? k with
  | none => exact h
  | some o =>
      dsimp only
      refine wp_mono (h.wp_approveAndProvisionOrder hclear hasset) (fun r s₁ h₁ => ?_)
        fun _ _ _ => h
      cases s₁.db.orders.get? k with
      | none => exact h
      | some o =>
          dsimp only
          split
          · rw [wp_bind]
            exact h₁.wp_keeps
              (keepsProgramme_of_books (keepsBooks_notifyOrderEvent.onError fun _ => keeps_pure _))
              fun _ _ _ => h
          · exact h₁

/-- `auto_approve_order`. -/
theorem FairTo.wp_autoApproveOrder (h : FairTo customer s.db) (hclear : Clear customer k s.db)
    (hasset : Unassigned k s.db) :
    wp (autoApproveOrder (shopDelivery platform routing assignAsset) now k)
      (fun _ s' => FairTo customer s'.db) (fun _ s' => FairTo customer s'.db) s := by
  unfold autoApproveOrder
  rw [wp_bind]
  refine wp_mono (wp_claimAutoApproval h) (fun claimed s₁ h₁ => ?_)
    fun _ _ hdb => h.of_programme (congrArg Db.programme hdb)
  obtain ⟨h₁, horders, hclear₁⟩ := h₁
  split
  · exact h₁
  rw [wp_bind]
  refine wp_checkpoint (fun _ => ?_) fun _ => h₁
  have hasset₁ : Unassigned k s₁.next.db := fun o ho => hasset o (horders ▸ ho)
  rw [wp_onError]
  have hbody : wp (do
      let r ← autoApprovalTransaction (shopDelivery platform routing assignAsset) now k
      checkpoint
      if ¬ r.ok then
        noteAutomationError k "تحویل خودکار کامل نشد؛ نتیجه و خطای تحویل سفارش را بررسی کنید."
      return true : ShopM Bool) (fun _ s' => FairTo customer s'.db)
      (fun _ s' => FairTo customer s'.db) s₁.next := by
    rw [wp_bind]
    refine wp_mono (FairTo.wp_autoApprovalTransaction (s := s₁.next) h₁ (hclear₁ hclear) hasset₁)
      (fun r s₂ h₂ => ?_) fun _ _ h => h
    rw [wp_bind]
    refine wp_checkpoint (fun _ => ?_) fun _ => h₂
    split
    · exact FairTo.wp_keeps (s := s₂.next) h₂
        (keepsProgramme_noteAutomationError.bind fun _ => keeps_pure _) fun _ _ h => h
    · exact h₂
  refine wp_mono hbody (fun _ _ h => h) fun e s₂ h₂ => ?_
  cases e with
  | crashed => exact h₂
  | raised e =>
      exact h₂.wp_keeps (keepsProgramme_noteAutomationError.bind fun _ => keeps_pure _)
        fun _ _ h => h

/-- `confirm_auto_payment`. -/
theorem FairTo.wp_confirmAutoPayment (h : FairTo customer s.db) (hclear : Clear customer k s.db) :
    wp (confirmAutoPayment now actor k) (fun _ s' => FairTo customer s'.db)
      (fun _ s' => FairTo customer s'.db) s := by
  unfold confirmAutoPayment
  rw [wp_atomic]
  change wp _ _ (fun _ _ => FairTo customer s.db) s
  unfold getOrder
  simp only [wp_bind, wp_readDb, wp_orRaise, id_eq]
  cases ho : s.db.orders.get? k with
  | none => exact h
  | some o =>
  dsimp only
  cases s.db.automations.get? k with
  | none => exact h
  | some audit =>
  dsimp only
  split
  · exact h
  split
  · exact h
  split
  · exact h
  unfold saveOrder
  simp only [wp_bind, wp_writeDb]
  -- First the order is reviewed, then it is verified, and then its reward is asked for.
  let reviewed : Db := { s.db with
    automations := s.db.automations.modify k (fun a => { a with reviewStatus := .verified })
      fun _ => rfl }
  have hreviews : Programme.Reviews k s.db.programme reviewed.programme := by
    refine reviews_of_claim rfl rfl rfl rfl fun j hj => ?_
    dsimp only [reviewed]
    rw [Table.get?_modify]
    cases s.db.automations.get? j <;> simp [hj]
  have hbut : reviewed.programme.FairBut customer k := (h.fair.but hclear).of_reviews hreviews
  have hp : reviewed.programme.Participates customer := by
    rw [hreviews.same]
    exact ⟨h.participates.invited, h.participates.enabled⟩
  let verify : Order → Order := fun o => ({ o with
    verificationStatus := .verified
    isPaid := true
    verifiedBy := actor
    verifiedAt := o.verifiedAt.orElse fun _ => some now } : Order).save now
  have hverifies : Programme.Alters k reviewed.programme
      (reviewed.setOrder k verify fun _ => rfl).programme := alters_setOrder fun _ => ⟨rfl, rfl⟩
  have ho' : reviewed.orders.get? k = some o := ho
  have hrow := Db.get?_setOrder_self (f := verify) (fun _ => rfl) ho'
  refine wp_mono (wp_createReferralRewardForOrder_granted customer hrow) (fun _ s' hs' => ?_)
    fun _ _ h => h.elim
  have hp' := hverifies.participates hp
  exact ⟨(hbut.of_alters hverifies).of_granted hp' hs'.2, hs'.2.participates hp'⟩

/-! ## Runs -/

inductive ReviewKind where
  | approve (actor : Option ℕ) (source : Source) (notify : Bool)
  | autoApprove
  | confirm (user : Option ℕ)

/-- What is done with an order, when, and the fate of its interactions. -/
structure ReviewOp where
  kind : ReviewKind
  order : ℕ
  now : Instant
  signals : List Signal := []

def ReviewOp.program (delivery : Delivery) (a : ReviewOp) : ShopM Unit :=
  match a.kind with
  | .approve actor source notify => do
      let _ ← approveAndProvisionOrder delivery a.now actor source notify a.order
      return
  | .autoApprove => do
      let _ ← autoApproveOrder delivery a.now a.order
      return
  | .confirm user => confirmAutoPayment a.now user a.order

/-- The shop after an operation. -/
def reviewStep (delivery : Delivery) (s : Shop) (a : ReviewOp) : Shop :=
  (a.program delivery { s with signals := a.signals }).2

/-- The order is not contested, it is not delivered from an assigned asset, and no process
dies while a human approves it. -/
structure ReviewOp.Orderly (customer : ℕ) (s : Shop) (a : ReviewOp) : Prop where
  clear : Clear customer a.order s.db
  unassigned : Unassigned a.order s.db
  calm : ∀ actor source notify, a.kind = .approve actor source notify → Calm a.signals

theorem FairTo.reviewStep {a : ReviewOp} (h : FairTo customer s.db) (ha : a.Orderly customer s) :
    FairTo customer (reviewStep (shopDelivery platform routing assignAsset) s a).db := by
  apply snd_of_wp (P := fun s' => FairTo customer s'.db)
  have h' : FairTo customer { s with signals := a.signals }.db := h
  unfold ReviewOp.program
  cases hkind : a.kind with
  | approve actor source notify =>
      dsimp only
      rw [wp_bind]
      refine wp_mono (h'.wp_approveAndProvisionOrder ha.clear ha.unassigned) (fun _ _ h₁ => h₁) ?_
      intro e s' hs'
      exact hs'.resolve_right fun hcrash => hcrash.2 (ha.calm actor source notify hkind)
  | autoApprove =>
      dsimp only
      rw [wp_bind]
      exact h'.wp_autoApproveOrder ha.clear ha.unassigned
  | confirm user => exact h'.wp_confirmAutoPayment ha.clear

/-- A customer with a successful order that awaits no review. -/
def HasReviewedPurchase (customer : ℕ) (db : Db) : Prop :=
  ∃ o ∈ db.orders.rows, o.customer = some customer ∧ isSuccessful o ∧ ¬ awaitsReview db o.pk

instance (customer : ℕ) (db : Db) : Decidable (HasReviewedPurchase customer db) :=
  inferInstanceAs (Decidable (∃ o ∈ db.orders.rows, _ ∧ _ ∧ _))

/-- An invited customer before any purchase: the programme is open for all their orders, none
of which is completed, and there is no package yet. -/
structure Newcomer (customer : ℕ) (db : Db) : Prop where
  participates : db.programme.Participates customer
  orders : ∀ o ∈ db.orders.rows, o.customer = some customer → ¬ isSuccessful o
  ledgers : db.programme.rewards customer = 0

theorem Newcomer.fairTo {db : Db} (h : Newcomer customer db) : FairTo customer db := by
  refine ⟨.inr ⟨h.ledgers, fun x hx hc hs => ?_, fun x hx hc hs => ?_⟩, h.participates⟩ <;>
    obtain ⟨o, ho, rfl⟩ := List.mem_map.mp hx
  · exact absurd hs (h.orders o ho hc)
  · exact absurd hs (h.orders o ho hc)

/-- Whatever is approved, approved automatically and confirmed, in any order: a customer with
a reviewed purchase brought exactly one package, where no order was approved while another
successful one of theirs awaited its review. -/
theorem rewarded_exactly_once (platform : Platform) (routing : Routing)
    (assignAsset : Instant → ℕ → ℕ → ShopM (Option String)) (ops : List ReviewOp)
    (h : Newcomer customer s.db)
    (hops : Guarded (Orders.reviewStep (shopDelivery platform routing assignAsset))
      (fun s a => a.Orderly customer s) s ops)
    (hpurchase : HasReviewedPurchase customer
      (run (Orders.reviewStep (shopDelivery platform routing assignAsset)) s ops).db) :
    (run (Orders.reviewStep (shopDelivery platform routing assignAsset)) s ops).db.ledgers.rows.countP
      (fun l => l.invited = customer) = 1 := by
  have hfair : FairTo customer
      (run (Orders.reviewStep (shopDelivery platform routing assignAsset)) s ops).db :=
    @Guarded.invariant Shop ReviewOp _ _ (fun s => FairTo customer s.db)
      (fun _ _ hs ha => hs.reviewStep ha) _ _ hops h.fairTo
  rcases hfair.fair with hone | ⟨-, hundecided⟩
  · exact hone
  · obtain ⟨o, ho, hcustomer, hsuccess, hreviewed⟩ := hpurchase
    exact absurd (hundecided.awaits (orderStanding o) (List.mem_map_of_mem ho) hcustomer hsuccess)
      hreviewed

/-! ## Two orders of one customer -/

/-- An order of customer 9 with a receipt, whose client is ready. -/
def referredOrder (k : ℕ) : Order where
  pk := k
  customer := some 9
  store := some 2
  plan := 3
  status := .pendingVerification
  paymentSubmittedAt := some 0
  hasReceipt := true
  username := "ali"

def referredClient (k : ℕ) : VPNClient where
  pk := k
  order := some k
  plan := some 3
  inbound := some 5
  username := "ali"
  uuid := some "8c1f"
  status := .active

def referralStoreRow : StoreRow where
  pk := 2
  orderAutoApproveEnabled := true
  orderAutoApproveEnabledAt := some 0

/-- Customer 9 was invited by customer 8. -/
def referralShop : Shop where
  db :=
    { orders := (Table.empty.put (referredOrder 1)).put (referredOrder 2)
      sms := .empty
      clients := (Table.empty.put (referredClient 1)).put (referredClient 2)
      inbounds := Table.empty.put { pk := 5, panel := 4, inboundId := 1 }
      panels := Table.empty.put { pk := 4 }
      plans := Table.empty.put
        { pk := 3, price := 90, trafficLimitBytes := 1000, durationDays := 30, deviceLimit := 2 }
      stores := Table.empty.put referralStoreRow
      automations := .empty
      customers := (Table.empty.put { pk := 8, referralCode := "ALI8" }).put
        { pk := 9, referredBy := some 8, referralCodeUsed := "ALI8" } }
  remote := {}

def referralDelivery : Delivery :=
  shopDelivery (.ofTables [] []) ⟨fun _ _ _ => .ok none⟩ fun _ _ _ => return none

theorem referralShop_newcomer : Newcomer 9 referralShop.db where
  participates :=
    { invited := ⟨_, 8, rfl, rfl, by decide⟩
      enabled := by
        intro x hx _
        have hstore : ∀ x ∈ referralShop.db.programme.orders, x.store = some 2 := by decide
        rw [hstore x hx]
        exact ⟨referralStoreRow, rfl, rfl, by decide, by decide⟩ }
  orders := by decide
  ledgers := by decide

def autoApproveFirst : ReviewOp := { kind := .autoApprove, order := 1, now := minutes 5 }

def approveSecond : ReviewOp :=
  { kind := .approve none .manual false, order := 2, now := minutes 6 }

def confirmFirst : ReviewOp := { kind := .confirm none, order := 1, now := minutes 7 }

def packagesOf (customer : ℕ) (ops : List ReviewOp) : ℕ :=
  (run (reviewStep referralDelivery) referralShop ops).db.ledgers.rows.countP
    fun l => l.invited = customer

/-- The review of the first order comes after the approval of the second: no package. In the
other order there is one. -/
theorem reward_lost_by_late_review :
    Newcomer 9 referralShop.db ∧
      HasReviewedPurchase 9
        (run (reviewStep referralDelivery) referralShop
          [autoApproveFirst, approveSecond, confirmFirst]).db ∧
      packagesOf 9 [autoApproveFirst, approveSecond, confirmFirst] = 0 ∧
      packagesOf 9 [autoApproveFirst, confirmFirst, approveSecond] = 1 :=
  ⟨referralShop_newcomer, by decide +kernel, by decide +kernel, by decide +kernel⟩

theorem rewarded_exactly_once_confirmed :
    packagesOf 9 [autoApproveFirst, confirmFirst, approveSecond] = 1 := by
  have hfirst : autoApproveFirst.Orderly 9 referralShop :=
    ⟨by decide +kernel, by decide +kernel, fun _ _ _ h => by cases h⟩
  have hconfirm : confirmFirst.Orderly 9 (reviewStep referralDelivery referralShop autoApproveFirst) :=
    ⟨by decide +kernel, by decide +kernel, fun _ _ _ h => by cases h⟩
  have hsecond : approveSecond.Orderly 9
      (run (reviewStep referralDelivery) referralShop [autoApproveFirst, confirmFirst]) :=
    ⟨by decide +kernel, by decide +kernel, fun _ _ _ _ => by simp [approveSecond, Calm]⟩
  exact rewarded_exactly_once _ _ _ _ referralShop_newcomer ⟨hfirst, hconfirm, hsecond, trivial⟩
    (by decide +kernel)

end Qasedak.Orders
