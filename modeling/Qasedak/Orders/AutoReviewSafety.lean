import Qasedak.Orders.AutoReview
import Qasedak.Orders.ConcurrentApproval
import Qasedak.Orders.ReferralRewards

/-! The review of an order that was approved by the clock, over all interleavings of the calls
that work on it. -/

namespace Qasedak.Orders

open Foundation Store Panels Prog

variable {platform : Platform} {routing : Routing} {checkLink : LinkCheck} {now : Instant}
  {actor : Option ℕ} {source : Source} {notify : Bool} {k : ℕ} {s s' s₀ : Shop}

/-! ## Switching clients off -/

/-- The orders, and the audits of order automation. -/
def Db.records (db : Db) : Orders × Automations := (db.orders, db.automations)

theorem keepsRecords_findClientInInbound {i : Inbound} {identifier : String} :
    Keeps Db.records (findClientInInbound i identifier) :=
  Keeps.ite (keeps_raise _) (keeps_remoteRead _ _)

theorem keepsRecords_postClientUpdate {call : RemoteCall} {p : Panel} {i : Inbound}
    {identifier email : String} {payload : RemoteClient} :
    Keeps Db.records (postClientUpdate call p i identifier email payload) :=
  Keeps.ite (keeps_raise _) (keeps_remoteWrite _ _ _)

theorem keepsRecords_updateClientState {p : Panel} {i : Inbound} {identifier : String}
    {enabled : Bool} : Keeps Db.records (updateClientState p i identifier enabled) := by
  refine keepsRecords_findClientInInbound.bind fun _ => (keeps_readDb _).bind fun _ => ?_
  refine (keeps_ofExcept _).bind fun _ => keepsRecords_postClientUpdate.bind fun _ => ?_
  exact keepsRecords_findClientInInbound.bind fun _ =>
    Keeps.ite ((keeps_raise _).bind fun _ => keeps_pure _) (keeps_pure _)

theorem keepsRecords_setVpnClientEnabledByAdmin {l : ClientLookup} {enabled : Bool} :
    Keeps Db.records (setVpnClientEnabledByAdmin l enabled) := by
  refine (keeps_readDb _).bind fun db => (keeps_ofExcept _).bind fun x => ?_
  refine (keepsRecords_updateClientState.onError fun _ => keeps_raise _).bind fun verified => ?_
  split
  · exact keeps_pure _
  · exact keeps_writeDb (by exact fun _ => rfl)

/-- A client is recorded once it is off; where that fails, nothing is. -/
theorem wp_revokeClient {c : VPNClient} (hcalm : Calm s.signals) :
    wp (revokeClient k c)
      (fun _ s' => Calm s'.signals ∧ s'.db.orders = s.db.orders ∧
        s'.db.automations = s.db.automations.modify k
          (fun a => { a with revokedClientIds := a.revokedClientIds ++ [c.pk] }) (fun _ => rfl))
      (fun h s' => h ≠ .crashed ∧ Calm s'.signals ∧ s'.db.records = s.db.records) s := by
  unfold revokeClient
  simp only [wp_bind, wp_readDb, wp_orRaise, id_eq]
  cases c.inbound.bind s.db.inbounds.get? with
  | none => exact ⟨by simp, hcalm, trivial⟩
  | some i =>
      dsimp only
      cases s.db.panels.get? i.panel with
      | none => exact ⟨by simp, hcalm, trivial⟩
      | some p =>
          refine wp_mono (keepsRecords_setVpnClientEnabledByAdmin s) (fun _ s' hkept => ?_)
            fun h s' hkept => ⟨hkept.2 hcalm, hkept.1.calm hcalm, hkept.1.view⟩
          obtain ⟨horders, haudits⟩ := Prod.mk.inj hkept.view
          rw [setAudit, wp_writeDb]
          refine ⟨hkept.calm hcalm, horders, ?_⟩
          rw [haudits]

/-- The audit after an attempt that came so far. -/
def Revocation.mark (r : Revocation) (audit : OrderAutomation) : OrderAutomation :=
  { audit with
    revokedClientIds := audit.revokedClientIds ++ r.disabled
    reviewStatus := if r.complete then audit.reviewStatus else .cancelFailed
    lastError := if r.complete then audit.lastError else cancelIncomplete }

/-- An attempt has come so far, and switched off only clients that were not recorded. -/
structure Revoking (k : ℕ) (s₀ : Shop) (audit : OrderAutomation) (r : Revocation) (s : Shop) :
    Prop where
  calm : Calm s.signals
  orders : s.db.orders = s₀.db.orders
  found : s.db.automations.get? k = some (r.mark audit)
  nodup : r.disabled.Nodup
  others : ∀ c ∈ r.disabled, c ∉ audit.revokedClientIds

theorem Revoking.wp_revokeNext {audit : OrderAutomation} {c : VPNClient} {r : Revocation}
    (h : Revoking k s₀ audit r s) :
    wp (revokeNext k c r) (Revoking k s₀ audit) (fun _ _ => False) s := by
  have hrevoked : revokedClientIds s.db k = audit.revokedClientIds ++ r.disabled := by
    simp [revokedClientIds, h.found, Revocation.mark]
  unfold revokeNext
  simp only [wp_bind, wp_readDb, hrevoked]
  split
  · exact h
  rename_i hnext
  obtain ⟨hcomplete, hnew⟩ := not_or.mp hnext
  have hcomplete : r.complete = true := not_not.mp hcomplete
  obtain ⟨hold, hdisabled⟩ := not_or.mp (mt List.mem_append.mpr hnew)
  rw [wp_onError, wp_bind]
  refine wp_mono (wp_revokeClient h.calm) (fun _ s' hs' => ?_) fun e s' hs' => ?_
  · obtain ⟨hcalm, horders, haudits⟩ := hs'
    refine ⟨hcalm, horders.trans h.orders, ?_, ?_, ?_⟩
    · rw [haudits, Table.get?_modify, h.found]
      simp [Revocation.mark, hcomplete]
    · exact List.nodup_append.mpr ⟨h.nodup, List.nodup_singleton _, fun a ha b hb => by
        obtain rfl := List.mem_singleton.mp hb
        exact fun hab => hdisabled (hab ▸ ha)⟩
    · intro a ha
      rcases List.mem_append.mp ha with ha | ha
      · exact h.others a ha
      · exact List.mem_singleton.mp ha ▸ hold
  · obtain ⟨hcrash, hcalm, hrecords⟩ := hs'
    obtain ⟨horders, haudits⟩ := Prod.mk.inj hrecords
    cases e with
    | crashed => exact hcrash rfl
    | raised e =>
        rw [wp_bind, setAudit, wp_writeDb]
        refine ⟨hcalm, horders.trans h.orders, ?_, h.nodup, h.others⟩
        rw [Table.get?_modify, haudits, h.found]
        simp [Revocation.mark]

/-- The loop. -/
theorem Revoking.wp_revokeClients {audit : OrderAutomation} {clients : List VPNClient}
    (h : Revoking k s₀ audit {} s) :
    wp (revokeClients k clients) (Revoking k s₀ audit) (fun _ _ => False) s :=
  wp_forEach (I := fun _ r s => Revoking k s₀ audit r s) h fun _ _ _ _ hr => hr.wp_revokeNext

/-! ## What leaves the audits alone -/

theorem keepsAudits_of_books {α : Type} {q : ShopM α} (h : Keeps Db.books q) :
    Keeps Db.automations q :=
  h.of_view fun _ _ hdb => congrArg Prod.snd hdb

theorem keepsAudits_getOrder : Keeps Db.automations (getOrder k) :=
  keepsAudits_of_books keepsBooks_getOrder

theorem keepsAudits_saveOrder {f : Order → Order} {hf : ∀ o, (f o).pk = o.pk} :
    Keeps Db.automations (saveOrder now k f hf) :=
  keeps_writeDb (by exact fun _ => rfl)

theorem keepsAudits_assignmentTransaction :
    Keeps Db.automations (assignmentTransaction
      (shopDelivery platform routing (assignInventoryAsset checkLink)) now actor k) := by
  refine (keepsAudits_getOrder.bind fun o => (keeps_readDb _).bind fun db => ?_).atomic
  refine Keeps.ite (keeps_pure _) (Keeps.ite (keeps_pure _) (Keeps.ite (keeps_pure _) ?_))
  refine (keepsAudits_of_books (keepsBooks_assignInventoryAsset checkLink)).bind fun error => ?_
  cases error with
  | none => exact keepsAudits_saveOrder.bind fun _ => keeps_pure _
  | some e => exact keepsAudits_saveOrder.bind fun _ => keeps_pure _

theorem leavesAudits_approveTransaction :
    Prog.Leaves Db.automations (approveTransaction
      (shopDelivery platform routing (assignInventoryAsset checkLink)) now actor source k) := by
  intro s
  cases ho : s.db.orders.get? k with
  | none =>
      unfold approveTransaction getOrder
      simp [wp_orRaise, ho]
  | some o =>
      refine wp_mono (wp_approveTransaction_delivered ho) (fun outcome s' hs' => ?_)
        fun _ s' hs' => by rw [hs']
      cases outcome with
      | answered r => exact congrArg (fun s : Shop => s.db.automations) hs'
      | attempted r => exact hs'.1.reviews

theorem keepsAudits_createReferralRewardForOrder :
    Keeps Db.automations (createReferralRewardForOrder now k) := by
  refine (keepsAudits_getOrder.bind fun o => (keeps_readDb _).bind fun db => ?_).atomic
  have hrecord : ∀ (terms : RewardTerms) (db : Db),
      (db.recordPurchase now k terms).automations = db.automations := by
    intro terms db
    obtain ⟨referrals, hreferrals⟩ := recordPurchase_eq db now k terms
    rw [hreferrals]
  split
  · exact keeps_pure _
  split
  · exact keeps_pure _
  · refine (keeps_writeDb (hrecord _)).bind fun _ => (keeps_writeDb (by exact fun _ => rfl)).bind ?_
    exact fun _ => keeps_pure _

theorem leavesAudits_rewardReferrer : Prog.Leaves Db.automations (rewardReferrer now k) :=
  ((keepsAudits_createReferralRewardForOrder.bind fun _ => keeps_pure _).onError
    fun _ => keeps_pure _).leaves

theorem leavesAudits_approveOrder :
    Prog.Leaves Db.automations (approveOrder
      (shopDelivery platform routing (assignInventoryAsset checkLink)) now actor source notify k) := by
  refine leavesAudits_approveTransaction.bind fun outcome => ?_
  cases outcome with
  | answered r => exact (keeps_pure _).leaves
  | attempted r =>
      have hnotify : Prog.Leaves Db.automations notifyOrderEvent :=
        (keepsAudits_of_books keepsBooks_notifyOrderEvent).leaves
      have hfailure : Prog.Leaves Db.automations (recordFailure now k r) :=
        (keepsAudits_of_books keepsBooks_recordFailure).leaves
      refine keeps_checkpoint.leaves.bind fun _ => ?_
      refine Leaves.ite (leavesAudits_rewardReferrer.bind fun _ => ?_) ?_
      · exact Leaves.ite (hnotify.bind fun _ => (keeps_pure _).leaves) (keeps_pure _).leaves
      · exact hfailure.bind fun _ => (keeps_pure _).leaves

theorem leavesAudits_approveAndProvisionOrder :
    Prog.Leaves Db.automations (approveAndProvisionOrder
      (shopDelivery platform routing (assignInventoryAsset checkLink)) now actor source notify k) := by
  have hnotify : Prog.Leaves Db.automations notifyOrderEvent :=
    (keepsAudits_of_books keepsBooks_notifyOrderEvent).leaves
  have hclaim : Prog.Leaves Db.automations (claimRenewal now k) :=
    (keepsAudits_of_books keepsBooks_claimRenewal).leaves
  have hfinish : Prog.Leaves Db.automations (finishRenewal now k) :=
    (keepsAudits_of_books keepsBooks_finishRenewal).leaves
  refine keepsAudits_getOrder.leaves.bind fun o => Leaves.ite ?_ (Leaves.ite ?_ ?_)
  · refine keepsAudits_assignmentTransaction.leaves.bind fun outcome => ?_
    cases outcome with
    | answered r => exact (keeps_pure _).leaves
    | attempted r =>
        exact Leaves.ite (hnotify.bind fun _ => (keeps_pure _).leaves) (keeps_pure _).leaves
  · exact leavesAudits_approveOrder
  · refine hclaim.bind fun claim => ?_
    match claim with
    | .error r => exact (keeps_pure _).leaves
    | .ok false => exact leavesAudits_approveOrder
    | .ok true =>
        refine keeps_checkpoint.leaves.bind fun _ => leavesAudits_approveOrder.bind fun r => ?_
        exact keeps_checkpoint.leaves.bind fun _ => hfinish.bind fun _ => (keeps_pure _).leaves

theorem leavesAudits_autoApprovalTransaction :
    Prog.Leaves Db.automations (autoApprovalTransaction
      (shopDelivery platform routing (assignInventoryAsset checkLink)) now k) := by
  have hnotify : Prog.Leaves Db.automations (onError notifyOrderEvent fun _ => return) :=
    ((keepsAudits_of_books keepsBooks_notifyOrderEvent).onError fun _ => keeps_pure _).leaves
  refine (keepsAudits_getOrder.leaves.bind fun _ => ?_).atomic
  refine leavesAudits_approveAndProvisionOrder.bind fun r => ?_
  refine keepsAudits_getOrder.leaves.bind fun _ => ?_
  exact Leaves.ite (hnotify.bind fun _ => (keeps_pure _).leaves) (keeps_pure _).leaves

/-! ## Steps that the review does not see -/

/-- What a review depends on in the audit of an order. -/
def auditOf (db : Db) (k : ℕ) : Option OrderAutomation :=
  (db.automations.get? k).map fun a => { a with lastError := "" }

/-- The review is as before; an order that is withdrawn stays so, and is not delivered. -/
structure Unseen (k : ℕ) (s s' : Shop) : Prop where
  audit : auditOf s'.db k = auditOf s.db k
  withdrawn : IsWithdrawn k s.db → IsWithdrawn k s'.db ∧ Undelivered s s'

theorem Undelivered.refl (s : Shop) : Undelivered s s := ⟨rfl, rfl⟩

theorem Undelivered.trans {s s' s'' : Shop} (h : Undelivered s s') (h' : Undelivered s' s'') :
    Undelivered s s'' :=
  ⟨h'.deliveries.trans h.deliveries, h'.calls.trans h.calls⟩

theorem IsWithdrawn.refused {db : Db} (h : IsWithdrawn k db) : IsRefused k db := by
  obtain ⟨o, ho, hstatus, -⟩ := h
  exact ⟨o, ho, .inr hstatus⟩

theorem IsWithdrawn.of_inert (h : IsWithdrawn k s.db) (hinert : Inert s s') :
    IsWithdrawn k s'.db ∧ Undelivered s s' :=
  ⟨hinert.db ▸ h, congrArg Db.deliveries hinert.db, hinert.calls⟩

theorem wp_unseen {α : Type} {q : ShopM α} (haudits : Prog.Leaves Db.automations q)
    (hwithdrawn : IsWithdrawn k s.db →
      wp q (fun _ s' => IsWithdrawn k s'.db ∧ Undelivered s s')
        (fun _ s' => IsWithdrawn k s'.db ∧ Undelivered s s') s) :
    wp q (fun _ s' => Unseen k s s') (fun _ s' => Unseen k s s') s := by
  have haudit : ∀ s' : Shop, s'.db.automations = s.db.automations →
      auditOf s'.db k = auditOf s.db k := by
    intro s' h
    rw [auditOf, h, auditOf]
  by_cases h : IsWithdrawn k s.db
  · exact wp_mono (wp_and (haudits s) (hwithdrawn h)) (fun _ s' hs' => ⟨haudit s' hs'.1, fun _ => hs'.2⟩)
      fun _ s' hs' => ⟨haudit s' hs'.1, fun _ => hs'.2⟩
  · exact wp_mono (haudits s) (fun _ s' hs' => ⟨haudit s' hs', fun hw => absurd hw h⟩)
      fun _ s' hs' => ⟨haudit s' hs', fun hw => absurd hw h⟩

/-- A change of the order that neither revives it nor marks it as paid. -/
theorem IsWithdrawn.wp_saveOrder {f : Order → Order} {hf : ∀ o, (f o).pk = o.pk}
    (h : IsWithdrawn k s.db)
    (hsame : ∀ o, (f o).status = o.status ∧ (f o).isPaid = o.isPaid)
    {X : Halt String → Shop → Prop} :
    wp (saveOrder now k f hf) (fun _ s' => IsWithdrawn k s'.db ∧ Undelivered s s') X s := by
  obtain ⟨o, ho, hcancelled, hunpaid⟩ := h
  obtain ⟨hstatus, hpaid⟩ := hsame o
  have hopen : (f o).status ≠ .pending := by simp [hstatus, hcancelled]
  unfold saveOrder
  rw [wp_writeDb]
  refine ⟨⟨_, Db.get?_setOrder_self _ ho, ?_, ?_⟩, rfl, rfl⟩
  · rw [Order.save_status_of_ne hopen, hstatus, hcancelled]
  · change (f o).isPaid = false
    rw [hpaid, hunpaid]

theorem IsWithdrawn.wp_recordAttempt {status : AttemptStatus} (h : IsWithdrawn k s.db)
    {X : Halt String → Shop → Prop} :
    wp (recordAttempt now k status) (fun _ s' => IsWithdrawn k s'.db ∧ Undelivered s s') X s :=
  h.wp_saveOrder (by exact fun _ => ⟨rfl, rfl⟩)

theorem IsWithdrawn.wp_finishRenewal (h : IsWithdrawn k s.db) :
    wp (finishRenewal now k) (fun _ s' => IsWithdrawn k s'.db ∧ Undelivered s s')
      (fun _ s' => IsWithdrawn k s'.db ∧ Undelivered s s') s := by
  have ⟨o, ho, _, _⟩ := h
  unfold finishRenewal getOrder
  simp only [wp_atomic, wp_bind, wp_readDb, wp_orRaise, ho]
  exact h.wp_recordAttempt

theorem IsWithdrawn.wp_recordFailure {r : ProvisioningResult} (h : IsWithdrawn k s.db) :
    wp (recordFailure now k r) (fun _ s' => IsWithdrawn k s'.db ∧ Undelivered s s')
      (fun _ s' => IsWithdrawn k s'.db ∧ Undelivered s s') s := by
  have ⟨o, ho, _, _⟩ := h
  unfold recordFailure getOrder
  simp only [wp_bind, wp_readDb, wp_orRaise, ho]
  exact h.wp_saveOrder (by exact fun _ => ⟨rfl, rfl⟩)

/-- Every step of `approve_and_provision_order`. -/
theorem wp_approvalAdvance {phase : ApprovalPhase} :
    wp (phase.advance (shopDelivery platform routing (assignInventoryAsset checkLink)) now actor
        source notify k) (fun _ s' => Unseen k s s') (fun _ s' => Unseen k s s') s := by
  have hpure : ∀ next : Option ApprovalPhase,
      Prog.Leaves Db.automations (pure next : ShopM (Option ApprovalPhase)) :=
    fun _ => (keeps_pure _).leaves
  cases phase with
  | begun =>
      have hclaim : Prog.Leaves Db.automations (claimRenewal now k) :=
        (keepsAudits_of_books keepsBooks_claimRenewal).leaves
      refine wp_unseen (keepsAudits_getOrder.leaves.bind fun o => Leaves.ite ?_ (Leaves.ite ?_ ?_))
        fun h => ?_
      · exact keepsAudits_assignmentTransaction.leaves.bind fun _ => hpure _
      · exact hpure _
      · refine hclaim.bind fun claim => ?_
        cases claim with
        | error r => exact hpure _
        | ok claimed => exact hpure _
      · have ⟨o, ho, _, _⟩ := h
        unfold ApprovalPhase.advance getOrder
        simp only [wp_bind, wp_readDb, wp_orRaise, ho]
        split
        · rw [wp_bind]
          exact wp_assignmentTransaction_of_refused _ h.refused fun _ => h.of_inert (.refl s)
        split
        · exact h.of_inert (.refl s)
        · rw [wp_bind]
          exact wp_claimRenewal_of_refused h.refused (h.of_inert (.refl s))
  | approving claimed =>
      refine wp_unseen (leavesAudits_approveTransaction.bind fun outcome => ?_) fun h => ?_
      · cases outcome with
        | answered r => exact hpure _
        | attempted r => exact hpure _
      · unfold ApprovalPhase.advance
        rw [wp_bind]
        exact wp_approveTransaction_of_refused _ h.refused fun _ => h.of_inert (.refl s)
  | rewarding claimed r =>
      refine wp_unseen (leavesAudits_rewardReferrer.bind fun _ => Leaves.ite ?_ (hpure _))
        fun h => ?_
      · exact (keepsAudits_of_books keepsBooks_notifyOrderEvent).leaves.bind fun _ => hpure _
      · unfold ApprovalPhase.advance
        rw [wp_bind]
        refine wp_rewardReferrer_frame fun referrals ledgers => ?_
        have hrewarded : ∀ s' : Shop, s'.db = { s.db with referrals := referrals, ledgers := ledgers } →
            s'.calls = s.calls → IsWithdrawn k s'.db ∧ Undelivered s s' := by
          intro s' hdb hcalls
          refine ⟨hdb ▸ h, hdb ▸ rfl, ?_⟩
          rw [provisioningCalls, hcalls, provisioningCalls]
        refine (wp_ite _ _).mpr ⟨fun _ => ?_, fun _ => hrewarded _ rfl rfl⟩
        rw [wp_bind]
        exact wp_remoteRead (fun _ _ _ => hrewarded _ rfl rfl) fun _ _ => hrewarded _ rfl rfl
  | failing claimed r =>
      have hfailure : Prog.Leaves Db.automations (recordFailure now k r) :=
        (keepsAudits_of_books keepsBooks_recordFailure).leaves
      refine wp_unseen (hfailure.bind fun _ => hpure _) fun h => ?_
      unfold ApprovalPhase.advance
      rw [wp_bind]
      exact h.wp_recordFailure
  | finishing =>
      have hfinish : Prog.Leaves Db.automations (finishRenewal now k) :=
        (keepsAudits_of_books keepsBooks_finishRenewal).leaves
      refine wp_unseen (hfinish.bind fun _ => hpure _) fun h => ?_
      unfold ApprovalPhase.advance
      rw [wp_bind]
      exact h.wp_finishRenewal

/-! ## What a step does to the review -/

/-- What one step of a call does: whether it claims the order for an automatic approval, and
which clients it switches off. -/
inductive ReviewStep (k : ℕ) (now : Instant) (s s' : Shop) : Bool → List ℕ → Prop
  | unseen (h : Unseen k s s') : ReviewStep k now s s' false []
  | claimed (audit : OrderAutomation) (due : Instant) (hnew : auditOf s'.db k = some audit)
      (hold : ∀ a, auditOf s.db k = some a → a.autoApprovedAt = none)
      (happroved : audit.autoApprovedAt = some now) (hstatus : audit.reviewStatus = .pending)
      (hrevoked : audit.revokedClientIds = revokedClientIds s.db k)
      (hdue : autoApprovalDue s.db k = some due) (hle : due ≤ now) :
      ReviewStep k now s s' true []
  | confirmed (audit : OrderAutomation) (hold : auditOf s.db k = some audit)
      (hpending : audit.reviewStatus = .pending)
      (hnew : auditOf s'.db k = some { audit with reviewStatus := .verified }) :
      ReviewStep k now s s' false []
  | cancelled (audit audit' : OrderAutomation) (disabled : List ℕ)
      (hold : auditOf s.db k = some audit) (hnew : auditOf s'.db k = some audit')
      (hopen : audit.reviewStatus ≠ .cancelled) (happroved : audit.autoApprovedAt ≠ none)
      (hkept : audit'.autoApprovedAt = audit.autoApprovedAt)
      (hstatus : audit'.reviewStatus = .cancelFailed ∨
        audit'.reviewStatus = .cancelled ∧ IsWithdrawn k s'.db)
      (hrevoked : audit'.revokedClientIds = audit.revokedClientIds ++ disabled)
      (hnodup : disabled.Nodup) (hothers : ∀ c ∈ disabled, c ∉ audit.revokedClientIds) :
      ReviewStep k now s s' false disabled

theorem Unseen.refl (k : ℕ) (s : Shop) : Unseen k s s := ⟨rfl, fun h => ⟨h, .refl s⟩⟩

theorem ReviewStep.refl : ReviewStep k now s s false [] := .unseen (.refl k s)

theorem auditOf_of_get? {db : Db} {audit : OrderAutomation} (h : db.automations.get? k = some audit) :
    auditOf db k = some { audit with lastError := "" } := by
  rw [auditOf, h]
  rfl

theorem revokedClientIds_congr {db db' : Db} (h : auditOf db' k = auditOf db k) :
    revokedClientIds db' k = revokedClientIds db k := by
  have hmap : ∀ db : Db, revokedClientIds db k = ((auditOf db k).map (·.revokedClientIds)).getD [] := by
    intro db
    unfold auditOf revokedClientIds
    cases db.automations.get? k <;> rfl
  rw [hmap, h, hmap]

theorem revokedClientIds_of_auditOf {db : Db} {audit : OrderAutomation} (h : auditOf db k = some audit) :
    revokedClientIds db k = audit.revokedClientIds := by
  obtain ⟨a, ha, rfl⟩ := Option.map_eq_some_iff.mp h
  rw [revokedClientIds, ha]
  rfl

theorem hasReview_iff {db : Db} {status : ReviewStatus} :
    HasReview k status db ↔ ∃ a, auditOf db k = some a ∧ a.reviewStatus = status := by
  unfold HasReview auditOf
  cases db.automations.get? k <;> simp

theorem hasReview_of_auditOf {db : Db} {audit : OrderAutomation} (h : auditOf db k = some audit)
    (status : ReviewStatus) : HasReview k status db ↔ audit.reviewStatus = status := by
  simp [hasReview_iff, h]

theorem autoApprovalDue_eq {db : Db} {o : Order} {store : StoreRow} {submittedAt enabledAt : Instant}
    (ho : db.orders.get? k = some o) (hsubmitted : o.paymentSubmittedAt = some submittedAt)
    (hstore : o.store.bind db.stores.get? = some store)
    (henabled : store.orderAutoApproveEnabledAt = some enabledAt) :
    autoApprovalDue db k = some (max submittedAt enabledAt + autoApproveDelay) := by
  simp [autoApprovalDue, ho, hsubmitted, hstore, henabled]

/-- A claim is made once, and not before it is due. -/
theorem ReviewStep.wp_claimAutoApproval :
    wp (claimAutoApproval now k) (fun claimed s' => ReviewStep k now s s' claimed [])
      (fun _ s' => ReviewStep k now s s' false []) s := by
  unfold claimAutoApproval getOrder
  simp only [wp_atomic, wp_bind, wp_readDb, wp_orRaise, id_eq]
  cases ho : s.db.orders.get? k with
  | none => exact .refl
  | some o =>
  dsimp only
  cases hstore : o.store.bind s.db.stores.get? with
  | none => exact .refl
  | some store =>
  dsimp only
  split
  case h_2 => exact .refl
  case h_1 enabledAt submittedAt henabled hsubmitted =>
  split
  · exact .refl
  split
  · exact .refl
  rename_i hready
  have hle : max submittedAt enabledAt + autoApproveDelay ≤ now :=
    not_lt.mp (not_or.mp hready).1
  have hdue := autoApprovalDue_eq ho hsubmitted hstore henabled
  cases haudit : s.db.automations.get? k with
  | none =>
      have hnone : auditOf s.db k = none := by rw [auditOf, haudit]; rfl
      have hnew := Table.get?_put_self (r := ({ order := k, autoApprovedAt := some now
                                                reviewStatus := .pending } :
        OrderAutomation)) haudit
      refine .claimed _ _ (auditOf_of_get? hnew) (fun a ha => ?_) rfl rfl ?_ hdue hle
      · rw [hnone] at ha
        cases ha
      · simp [revokedClientIds, haudit]
  | some audit =>
      dsimp only
      split
      · exact .refl
      rename_i hclaimed
      refine .claimed _ _ (@auditOf_of_get? _ _ ({ audit with
        autoApprovedAt := some now, reviewStatus := .pending }) ?_) (fun a ha => ?_) rfl rfl ?_ hdue hle
      · simp [Table.get?_modify, haudit]
      · rw [auditOf_of_get? haudit] at ha
        obtain rfl := Option.some.inj ha
        simpa using hclaimed
      · simp [revokedClientIds, haudit]

theorem IsWithdrawn.wp_autoApprovalTransaction (h : IsWithdrawn k s.db) (delivery : Delivery) :
    wp (autoApprovalTransaction delivery now k) (fun _ s' => IsWithdrawn k s'.db ∧ Undelivered s s')
      (fun _ s' => IsWithdrawn k s'.db ∧ Undelivered s s') s := by
  have ⟨o, ho, _, _⟩ := h
  have hundone : ∀ s₁ : Shop, Inert s s₁ → Inert s { s₁ with db := s.db } :=
    fun _ h₁ => ⟨rfl, h₁.calls⟩
  unfold autoApprovalTransaction getOrder
  simp only [wp_atomic, wp_bind, wp_readDb, wp_orRaise, ho]
  refine wp_mono (wp_approveAndProvisionOrder_of_refused delivery h.refused) (fun r s₁ h₁ => ?_)
    fun _ s₁ h₁ => h.of_inert (hundone s₁ h₁)
  have ho₁ : s₁.db.orders.get? k = some o := h₁.db ▸ ho
  simp only [ho₁]
  refine (wp_ite _ _).mpr ⟨fun _ => ?_, fun _ => h.of_inert h₁⟩
  have hnext : Inert s s₁.next := h₁.trans (.next s₁)
  rw [wp_bind, wp_onError]
  refine wp_remoteRead (fun _ _ _ => h.of_inert hnext) fun e _ => ?_
  cases e with
  | crashed => exact h.of_inert (hundone _ hnext)
  | raised e => exact h.of_inert hnext

theorem ReviewStep.wp_autoDelivering :
    wp (AuditCall.advance (shopDelivery platform routing (assignInventoryAsset checkLink)) now k
        .autoDelivering)
      (fun a s' => ReviewStep k now s s' a.autoApproved a.disabled)
      (fun _ s' => ReviewStep k now s s' false []) s := by
  have htransaction : wp (autoApprovalTransaction
      (shopDelivery platform routing (assignInventoryAsset checkLink)) now k)
      (fun _ s' => Unseen k s s') (fun _ s' => Unseen k s s') s :=
    wp_unseen leavesAudits_autoApprovalTransaction fun h => h.wp_autoApprovalTransaction _
  unfold AuditCall.advance
  rw [wp_onError, wp_bind]
  refine wp_mono htransaction (fun r s' h => .unseen h) fun e s' h => ?_
  cases e with
  | crashed => exact .unseen h
  | raised e => exact .unseen h

/-- A note changes the last error alone. -/
theorem ReviewStep.wp_noteAutomationError {e : String} :
    wp (noteAutomationError k e) (fun _ s' => ReviewStep k now s s' false [])
      (fun _ s' => ReviewStep k now s s' false []) s := by
  unfold noteAutomationError
  rw [wp_writeDb]
  refine .unseen ⟨?_, fun h => ⟨h, rfl, rfl⟩⟩
  unfold auditOf
  rw [Table.get?_modify]
  cases s.db.automations.get? k <;> simp

theorem ReviewStep.wp_confirmAutoPayment :
    wp (confirmAutoPayment now actor k) (fun _ s' => ReviewStep k now s s' false [])
      (fun _ s' => ReviewStep k now s s' false []) s := by
  by_cases hwithdrawn : IsWithdrawn k s.db
  · refine wp_mono (wp_confirmAutoPayment_of_refused hwithdrawn.refused) (fun _ s' hs' => ?_)
      fun _ s' hs' => ?_
    · exact .unseen ⟨congrArg (auditOf · k) hs'.db, fun h => h.of_inert hs'⟩
    · exact .unseen ⟨congrArg (auditOf · k) hs'.db, fun h => h.of_inert hs'⟩
  unfold confirmAutoPayment getOrder
  simp only [wp_atomic, wp_bind, wp_readDb, wp_orRaise, id_eq]
  cases ho : s.db.orders.get? k with
  | none => exact .refl
  | some o =>
  dsimp only
  cases haudit : s.db.automations.get? k with
  | none => exact .refl
  | some audit =>
  dsimp only
  split
  · exact .refl
  rename_i hreviewed
  split
  · exact .refl
  split
  · exact .refl
  rename_i hverified
  have hpending : audit.reviewStatus = .pending := by
    by_contra hpending
    exact (not_or.mp hreviewed).2 ⟨hpending, hverified⟩
  have haudits : Prog.Leaves Db.automations (do
      saveOrder now k (fun o => { o with
        verificationStatus := .verified
        isPaid := true
        verifiedBy := actor
        verifiedAt := o.verifiedAt.orElse fun _ => some now }) (fun _ => rfl)
      let _ ← createReferralRewardForOrder now k) :=
    (keepsAudits_saveOrder.bind fun _ => keepsAudits_createReferralRewardForOrder.bind fun _ =>
      keeps_pure _).leaves
  rw [wp_bind, wp_writeDb]
  refine wp_mono (haudits _) (fun _ s' hs' => ?_) fun _ s' _ =>
    .unseen ⟨rfl, fun h => absurd h hwithdrawn⟩
  refine .confirmed _ (auditOf_of_get? haudit) hpending ?_
  rw [auditOf, hs', Table.get?_modify, haudit]
  simp

/-- A cancellation switches off clients that are not recorded, and records them. -/
theorem ReviewStep.wp_cancelTransaction (hcalm : Calm s.signals) :
    wp (cancelTransaction now k) (fun r s' => ReviewStep k now s s' false r.disabled)
      (fun _ s' => ReviewStep k now s s' false []) s := by
  unfold cancelTransaction getOrder
  simp only [wp_atomic, wp_bind, wp_readDb, wp_orRaise, id_eq]
  cases ho : s.db.orders.get? k with
  | none => exact .refl
  | some o =>
  dsimp only
  cases haudit : s.db.automations.get? k with
  | none => exact .refl
  | some audit =>
  dsimp only
  cases happroved : audit.autoApprovedAt with
  | none => exact .refl
  | some approvedAt =>
  dsimp only
  split
  · exact .refl
  rename_i hopen
  rw [wp_bind]
  refine wp_check (fun clients _ => ?_) fun _ _ => .refl
  simp only [setAudit, wp_bind, wp_writeDb]
  have hstart : ∀ s₁ : Shop, s₁.signals = s.signals → s₁.db.automations.get? k = some { audit with
      reviewStatus := .cancelling, lastError := "" } →
      Revoking k s₁ { audit with reviewStatus := .cancelling, lastError := "" } {} s₁ := by
    intro s₁ hsignals hfound
    exact ⟨hsignals ▸ hcalm, rfl, by simpa [Revocation.mark] using hfound, List.nodup_nil, by simp⟩
  refine wp_mono (hstart _ ?_ ?_).wp_revokeClients (fun r s₁ h₁ => ?_) fun _ _ => False.elim
  · rfl
  · simp [Table.get?_modify, haudit]
  have hmark : auditOf s₁.db k = some { audit with
      reviewStatus := if r.complete then .cancelling else .cancelFailed
      lastError := ""
      revokedClientIds := audit.revokedClientIds ++ r.disabled } :=
    auditOf_of_get? h₁.found
  have hold := auditOf_of_get? haudit
  have happroved : audit.autoApprovedAt ≠ none := by simp [happroved]
  refine (wp_ite _ _).mpr ⟨fun hcomplete => ?_, fun hcomplete => ?_⟩
  · have ho₁ : s₁.db.orders.get? k = some o := h₁.orders ▸ ho
    simp only [wp_bind, saveOrder, wp_writeDb]
    refine .cancelled _ { audit with
        reviewStatus := .cancelled
        lastError := ""
        revokedClientIds := audit.revokedClientIds ++ r.disabled } _ hold ?_ hopen happroved rfl
      (.inr ⟨rfl, _, Db.get?_setOrder_self _ ho₁, ?_, rfl⟩) rfl h₁.nodup h₁.others
    · unfold auditOf
      simp [Db.setOrder, Table.get?_modify, h₁.found, Revocation.mark]
    · exact Order.save_status_of_ne (by simp [cancelUnpaid]) now
  · rw [if_neg hcomplete] at hmark
    exact .cancelled _ _ _ hold hmark hopen happroved rfl (.inl rfl) rfl h₁.nodup h₁.others

/-- A step of any call. -/
theorem ReviewStep.wp_advance {c : AuditCall} (hcalm : ∀ reason, c = .cancelling reason → Calm s.signals) :
    wp (c.advance (shopDelivery platform routing (assignInventoryAsset checkLink)) now k)
      (fun a s' => ReviewStep k now s s' a.autoApproved a.disabled)
      (fun _ s' => ReviewStep k now s s' false []) s := by
  cases c with
  | autoApproving =>
      unfold AuditCall.advance
      rw [wp_bind]
      exact ReviewStep.wp_claimAutoApproval
  | autoDelivering => exact ReviewStep.wp_autoDelivering
  | noting e =>
      unfold AuditCall.advance
      rw [wp_bind]
      exact ReviewStep.wp_noteAutomationError
  | approving actor source notify phase =>
      unfold AuditCall.advance
      rw [wp_bind]
      refine wp_mono wp_approvalAdvance (fun phase s' h => ?_) fun _ s' h => .unseen h
      cases phase <;> exact .unseen h
  | confirming user =>
      unfold AuditCall.advance
      rw [wp_bind]
      exact ReviewStep.wp_confirmAutoPayment
  | cancelling reason =>
      unfold AuditCall.advance cancelAutoApprovedOrder
      rw [wp_bind]
      split
      · exact .refl
      · exact ReviewStep.wp_cancelTransaction (hcalm reason rfl)
  | ended => exact .refl

/-! ## Runs -/

/-- What holds of the review at any time. -/
structure AuditRace.Sound (k : ℕ) (r : AuditRace) : Prop where
  once : r.approvals.length ≤ 1
  due : ∀ a ∈ r.approvals, ∃ due, a.due = some due ∧ due ≤ a.time
  claimed : r.approvals ≠ [] → ∃ a, auditOf r.shop.db k = some a ∧ a.autoApprovedAt ≠ none
  opened : ∀ a, auditOf r.shop.db k = some a → a.reviewStatus ≠ .none → a.autoApprovedAt ≠ none
  withdrawn : HasReview k .cancelled r.shop.db → IsWithdrawn k r.shop.db
  nodup : r.disabled.Nodup
  recorded : ∀ c ∈ r.disabled, c ∈ revokedClientIds r.shop.db k

theorem Sound.of_fresh {r : AuditRace} (h : r.Fresh k) : r.Sound k := by
  have hfresh : ∀ a, auditOf r.shop.db k = some a → a.autoApprovedAt = none ∧ a.reviewStatus = .none := by
    intro a ha
    obtain ⟨a', ha', rfl⟩ := Option.map_eq_some_iff.mp ha
    exact h.unreviewed a' ha'
  refine ⟨by simp [h.approvals], by simp [h.approvals], by simp [h.approvals], ?_, ?_,
    by simp [h.disabled], by simp [h.disabled]⟩
  · intro a ha hstatus
    exact absurd (hfresh a ha).2 hstatus
  · intro hreview
    obtain ⟨a, ha, hstatus⟩ := hasReview_iff.mp hreview
    rw [(hfresh a ha).2] at hstatus
    cases hstatus

/-- What a step does to the review keeps it sound. -/
theorem AuditRace.Sound.after {r : AuditRace} {j : ℕ} {a : Advance} (h : r.Sound k)
    (hdb : s.db = r.shop.db) (hstep : ReviewStep k now s s' a.autoApproved a.disabled) :
    (r.after k j now a s').Sound k := by
  obtain ⟨honce, hdue, hclaimed, hopened, hwithdrawn, hnodup, hrecorded⟩ := h
  rw [← hdb] at hclaimed hopened hwithdrawn hrecorded
  obtain ⟨next, approved, disabled⟩ := a
  cases hstep with
  | unseen hu =>
      have hreview : HasReview k .cancelled s'.db → HasReview k .cancelled s.db := by
        rw [hasReview_iff, hu.audit, ← hasReview_iff]
        exact id
      refine ⟨honce, hdue, fun hr => hu.audit ▸ hclaimed hr, fun a ha => hopened a (hu.audit ▸ ha),
        fun hs' => (hu.withdrawn (hwithdrawn (hreview hs'))).1, ?_, fun c hc => ?_⟩
      · simpa [AuditRace.after] using hnodup
      · change c ∈ revokedClientIds s'.db k
        rw [revokedClientIds_congr hu.audit]
        exact hrecorded c (by simpa [AuditRace.after] using hc)
  | claimed audit due hnew hold happroved hstatus hrevoked hdue' hle =>
      -- An earlier approval would show in the audit.
      have hnone : r.approvals = [] := by
        by_contra hr
        obtain ⟨a, ha, happroved⟩ := hclaimed hr
        exact happroved (hold a ha)
      refine ⟨by simp [AuditRace.after, hnone], fun a ha => ?_,
        fun _ => ⟨audit, hnew, by simp [happroved]⟩, fun a ha _ => ?_, fun hs' => ?_, ?_,
        fun c hc => ?_⟩
      · simp only [AuditRace.after, hnone, ← hdb, hdue'] at ha
        obtain rfl : a = _ := by simpa using ha
        exact ⟨due, rfl, hle⟩
      · obtain rfl := Option.some.inj (hnew.symm.trans ha)
        simp [happroved]
      · have hcancelled := (hasReview_of_auditOf hnew .cancelled).mp hs'
        rw [hstatus] at hcancelled
        cases hcancelled
      · simpa [AuditRace.after] using hnodup
      · change c ∈ revokedClientIds s'.db k
        rw [revokedClientIds_of_auditOf hnew, hrevoked]
        exact hrecorded c (by simpa [AuditRace.after] using hc)
  | confirmed audit hold hpending hnew =>
      have happroved : audit.autoApprovedAt ≠ none := hopened audit hold (by simp [hpending])
      refine ⟨honce, hdue, fun _ => ⟨_, hnew, happroved⟩, fun a ha _ => ?_, fun hs' => ?_, ?_,
        fun c hc => ?_⟩
      · obtain rfl := Option.some.inj (hnew.symm.trans ha)
        exact happroved
      · cases (hasReview_of_auditOf hnew .cancelled).mp hs'
      · simpa [AuditRace.after] using hnodup
      · change c ∈ revokedClientIds s'.db k
        have hc : c ∈ revokedClientIds s.db k := hrecorded c (by simpa [AuditRace.after] using hc)
        rw [revokedClientIds_of_auditOf hold] at hc
        rw [revokedClientIds_of_auditOf hnew]
        exact hc
  | cancelled audit audit' _ hold hnew hopen happroved hkept hstatus hrevoked hfresh hothers =>
      have happroved' : audit'.autoApprovedAt ≠ none := hkept ▸ happroved
      rw [revokedClientIds_of_auditOf hold] at hrecorded
      refine ⟨honce, hdue, fun _ => ⟨_, hnew, happroved'⟩, fun a ha _ => ?_, fun hs' => ?_, ?_,
        fun c hc => ?_⟩
      · obtain rfl := Option.some.inj (hnew.symm.trans ha)
        exact happroved'
      · have hcancelled := (hasReview_of_auditOf hnew .cancelled).mp hs'
        rcases hstatus with hfailed | ⟨-, hwithdrawn'⟩
        · rw [hfailed] at hcancelled
          cases hcancelled
        · exact hwithdrawn'
      · exact List.nodup_append.mpr ⟨hnodup, hfresh, fun c hc d hd hcd =>
          hothers d hd (hcd ▸ hrecorded c hc)⟩
      · change c ∈ revokedClientIds s'.db k
        rw [revokedClientIds_of_auditOf hnew, hrevoked]
        rcases List.mem_append.mp hc with hc | hc
        · exact List.mem_append_left _ (hrecorded c hc)
        · exact List.mem_append_right _ hc

theorem cancellationRecorded_iff {db : Db} :
    cancellationRecorded db k = true ↔ ∃ a, auditOf db k = some a ∧ a.reviewStatus.Cancelling := by
  unfold cancellationRecorded auditOf
  cases db.automations.get? k <;> simp

theorem ReviewStep.keeps_cancellation {approved : Bool} {disabled : List ℕ}
    (hstep : ReviewStep k now s s' approved disabled)
    (hopened : ∀ a, auditOf s.db k = some a → a.reviewStatus ≠ .none → a.autoApprovedAt ≠ none)
    (hwithdrawn : HasReview k .cancelled s.db → IsWithdrawn k s.db) :
    (cancellationRecorded s.db k = true → cancellationRecorded s'.db k = true) ∧
      (HasReview k .cancelled s.db → HasReview k .cancelled s'.db ∧ Undelivered s s') := by
  cases hstep with
  | unseen hu =>
      simp only [cancellationRecorded_iff, hasReview_iff, hu.audit]
      refine ⟨id, fun hreview => ⟨hreview, (hu.withdrawn (hwithdrawn ?_)).2⟩⟩
      exact hasReview_iff.mpr hreview
  | claimed audit due hnew hold =>
      -- A review that was opened is not claimed again.
      have hnone : ∀ a, auditOf s.db k = some a → a.reviewStatus = .none := by
        intro a ha
        by_contra hstatus
        exact hopened a ha hstatus (hold a ha)
      refine ⟨fun hrecorded => ?_, fun hreview => ?_⟩
      · obtain ⟨a, ha, hcancelling⟩ := cancellationRecorded_iff.mp hrecorded
        rw [hnone a ha] at hcancelling
        simp [ReviewStatus.Cancelling] at hcancelling
      · obtain ⟨a, ha, hcancelled⟩ := hasReview_iff.mp hreview
        rw [hnone a ha] at hcancelled
        cases hcancelled
  | confirmed audit hold hpending hnew =>
      refine ⟨fun hrecorded => ?_, fun hreview => ?_⟩
      · obtain ⟨a, ha, hcancelling⟩ := cancellationRecorded_iff.mp hrecorded
        obtain rfl := Option.some.inj (hold.symm.trans ha)
        rw [hpending] at hcancelling
        simp [ReviewStatus.Cancelling] at hcancelling
      · rw [hasReview_of_auditOf hold, hpending] at hreview
        cases hreview
  | cancelled audit audit' _ hold hnew hopen happroved hkept hstatus =>
      refine ⟨fun _ => cancellationRecorded_iff.mpr ⟨audit', hnew, ?_⟩, fun hreview => ?_⟩
      · rcases hstatus with hstatus | ⟨hstatus, -⟩ <;> simp [ReviewStatus.Cancelling, hstatus]
      · exact absurd ((hasReview_of_auditOf hold .cancelled).mp hreview) hopen

/-- A recorded cancellation stays recorded; once it is complete, nothing is delivered. -/
structure AuditRace.Safe (k : ℕ) (r r' : AuditRace) : Prop where
  sound : r'.Sound k
  recorded : cancellationRecorded r.shop.db k = true → cancellationRecorded r'.shop.db k = true
  cancelled : HasReview k .cancelled r.shop.db →
    HasReview k .cancelled r'.shop.db ∧ Undelivered r.shop r'.shop

theorem AuditRace.Safe.refl {r : AuditRace} (h : r.Sound k) : r.Safe k r :=
  ⟨h, id, fun hreview => ⟨hreview, .refl _⟩⟩

theorem AuditRace.Safe.trans {r r' r'' : AuditRace} (h : r.Safe k r') (h' : r'.Safe k r'') :
    r.Safe k r'' := by
  refine ⟨h'.sound, h'.recorded ∘ h.recorded, fun hreview => ?_⟩
  obtain ⟨hreview', hundelivered⟩ := h.cancelled hreview
  obtain ⟨hreview'', hundelivered'⟩ := h'.cancelled hreview'
  exact ⟨hreview'', hundelivered.trans hundelivered'⟩

theorem AuditRace.Sound.safe_after {r : AuditRace} {j : ℕ} {a : Advance} {signals : List Signal}
    (h : r.Sound k) (hstep : ReviewStep k now { r.shop with signals := signals } s' a.autoApproved
      a.disabled) : r.Safe k (r.after k j now a s') := by
  obtain ⟨hrecorded, hcancelled⟩ := hstep.keeps_cancellation h.opened h.withdrawn
  have hdb : ({ r.shop with signals := signals } : Shop).db = r.shop.db := rfl
  refine ⟨h.after hdb hstep, hrecorded, fun hreview => ?_⟩
  obtain ⟨hreview', hundelivered⟩ := hcancelled hreview
  exact ⟨hreview', hundelivered.deliveries, hundelivered.calls⟩

/-- A step of the race. -/
theorem AuditRace.Sound.step {r : AuditRace} {op : AuditOp} (h : r.Sound k) (hop : Survives r op) :
    r.Safe k (auditStep (shopDelivery platform routing (assignInventoryAsset checkLink)) k r op) := by
  have hcall : ∀ c, r.Safe k (r.call c) := by
    intro c
    obtain ⟨honce, hdue, hclaimed, hopened, hwithdrawn, hnodup, hrecorded⟩ := h
    exact ⟨⟨honce, hdue, hclaimed, hopened, hwithdrawn, hnodup, hrecorded⟩, id,
      fun hreview => ⟨hreview, .refl _⟩⟩
  cases op with
  | autoApprove => exact hcall _
  | approve actor source notify => exact hcall _
  | confirm user => exact hcall _
  | cancel reason => exact hcall _
  | advance j now signals =>
      cases hc : r.calls[j]? with
      | none =>
          simp only [auditStep, hc]
          exact .refl h
      | some c =>
          have hcalm : ∀ reason, c = .cancelling reason →
              Calm ({ r.shop with signals := signals } : Shop).signals := by
            intro reason hreason
            exact hop reason (hreason ▸ hc)
          have hstep : wp (c.advance
              (shopDelivery platform routing (assignInventoryAsset checkLink)) now k) _ _ _ :=
            ReviewStep.wp_advance hcalm
          simp only [auditStep, hc, AuditRace.advance]
          unfold wp at hstep
          cases houtcome : c.advance
              (shopDelivery platform routing (assignInventoryAsset checkLink)) now k
              { r.shop with signals := signals } with
          | mk result s' =>
              rw [houtcome] at hstep
              cases result with
              | ok a => exact h.safe_after hstep
              | error e => exact h.safe_after (a := {}) hstep

/-- Runs. -/
theorem AuditRace.Sound.run {r : AuditRace} {ops : List AuditOp} (h : r.Sound k)
    (hops : Guarded (auditStep (shopDelivery platform routing (assignInventoryAsset checkLink)) k)
      Survives r ops) :
    r.Safe k (run (auditStep (shopDelivery platform routing (assignInventoryAsset checkLink)) k)
      r ops) := by
  induction ops generalizing r with
  | nil => exact .refl h
  | cons op ops ih =>
      have hop : r.Safe k (auditStep
          (shopDelivery platform routing (assignInventoryAsset checkLink)) k r op) := h.step hops.1
      exact hop.trans (ih hop.sound hops.2)

/-- An order is approved by the clock at most once, and not before the delay has passed since
its submission and since the approvals were switched on; no client is switched off twice.
Once a cancellation has begun the payment is never confirmed; once it is complete the order
is cancelled and unpaid, and it is never delivered again. -/
theorem auto_review_safe (platform : Platform) (routing : Routing) (checkLink : LinkCheck) (k : ℕ)
    (start : AuditRace) (ops later : List AuditOp) (hstart : start.Fresh k)
    (hops : Guarded (auditStep (shopDelivery platform routing (assignInventoryAsset checkLink)) k)
      Survives start (ops ++ later)) :
    let step := auditStep (shopDelivery platform routing (assignInventoryAsset checkLink)) k
    let r := run step start ops
    let r' := run step r later
    r.approvals.length ≤ 1 ∧
      (∀ a ∈ r.approvals, ∃ due, a.due = some due ∧ due ≤ a.time) ∧
      r.disabled.Nodup ∧
      (HasReview k .cancelled r.shop.db →
        IsWithdrawn k r.shop.db ∧ HasReview k .cancelled r'.shop.db ∧
          Undelivered r.shop r'.shop) ∧
      (cancellationRecorded r.shop.db k = true → ¬ HasReview k .verified r'.shop.db) := by
  obtain ⟨hops, hlater⟩ := guarded_append.mp hops
  have hr := (Sound.of_fresh hstart).run hops
  have hr' := hr.sound.run hlater
  refine ⟨hr.sound.once, hr.sound.due, hr.sound.nodup, fun hreview => ?_, fun hrecorded => ?_⟩
  · exact ⟨hr.sound.withdrawn hreview, hr'.cancelled hreview⟩
  · obtain ⟨a, ha, hcancelling⟩ := cancellationRecorded_iff.mp (hr'.recorded hrecorded)
    intro hverified
    rw [hasReview_of_auditOf ha] at hverified
    rw [hverified] at hcancelling
    simp [ReviewStatus.Cancelling] at hcancelling

/-! ## A confirmed payment that is cancelled later -/

/-- An order with a receipt, in a shop that approves by the clock. -/
def reviewShop : Shop where
  db :=
    { raceShop.db with
      orders := Table.empty.put
        { pk := 1, publicId := "o1", orderTrackingCode := "T1", plan := 3, store := some 8
          paymentSubmittedAt := some 0, hasReceipt := true, status := .pendingVerification
          inbound := some 5, username := "ali" }
      stores := Table.empty.put
        { pk := 8, orderAutoApproveEnabled := true, orderAutoApproveEnabledAt := some 0 } }
  remote := {}

def plainLinks : LinkCheck := fun _ => .ok ()

def reviewRun (ops : List AuditOp) : AuditRace :=
  run (auditStep (shopDelivery racePlatform ⟨fun _ _ _ => .ok none⟩
    (assignInventoryAsset plainLinks)) 1) { shop := reviewShop } ops

/-- The order is approved by the clock and delivered, and its payment is confirmed. -/
def confirmedOps : List AuditOp :=
  [.autoApprove, .advance 0 (minutes 5) [], .advance 0 (minutes 5) [], .confirm (some 7),
    .advance 1 (minutes 6) []]

/-- The panel is out of reach for the first attempt to cancel the order. -/
def cancelledOps : List AuditOp :=
  [.cancel "unpaid", .advance 2 (minutes 7) [.acknowledged, .notApplied], .cancel "unpaid",
    .advance 3 (minutes 8) []]

def reviewStatusOf (r : AuditRace) : Option ReviewStatus :=
  (r.shop.db.automations.get? 1).map (·.reviewStatus)

/-- The review of the order was confirmed, and then cancelled. -/
theorem confirmed_review_cancelled :
    reviewStatusOf (reviewRun confirmedOps) = some .verified ∧
      reviewStatusOf (reviewRun (confirmedOps ++ cancelledOps)) = some .cancelled := by
  decide +kernel

/-- The order is approved once more after it was cancelled. -/
def approvedAgainOps : List AuditOp :=
  [.approve none .manual true, .advance 4 (minutes 9) [], .advance 4 (minutes 9) []]

theorem auto_review_safe_cancelled :
    let step := auditStep (shopDelivery racePlatform ⟨fun _ _ _ => .ok none⟩
      (assignInventoryAsset plainLinks)) 1
    let r := run step { shop := reviewShop } (confirmedOps ++ cancelledOps)
    let r' := run step r approvedAgainOps
    r.approvals.length ≤ 1 ∧
      (∀ a ∈ r.approvals, ∃ due, a.due = some due ∧ due ≤ a.time) ∧
      r.disabled.Nodup ∧
      (HasReview 1 .cancelled r.shop.db →
        IsWithdrawn 1 r.shop.db ∧ HasReview 1 .cancelled r'.shop.db ∧
          Undelivered r.shop r'.shop) ∧
      (cancellationRecorded r.shop.db 1 = true → ¬ HasReview 1 .verified r'.shop.db) := by
  have hfresh : AuditRace.Fresh 1 { shop := reviewShop } := by
    refine ⟨fun a ha => ?_, rfl, rfl, rfl⟩
    cases ha
  refine auto_review_safe racePlatform ⟨fun _ _ _ => .ok none⟩ plainLinks 1
    { shop := reviewShop } (confirmedOps ++ cancelledOps) approvedAgainOps hfresh ?_
  refine Guarded.of_forall (fun op hop r => ?_) _
  simp only [confirmedOps, cancelledOps, approvedAgainOps, List.cons_append, List.nil_append,
    List.mem_cons, List.not_mem_nil, or_false] at hop
  rcases hop with rfl | rfl | rfl | rfl | rfl | rfl | rfl | rfl | rfl | rfl | rfl | rfl <;>
    simp [Survives, Calm, Signal.Crashes]

end Qasedak.Orders
