import Mathlib.Data.List.MinMax
import Qasedak.Foundation.Run
import Qasedak.Orders.RenewalRefusal

/-! `finalize_bot_renewal` in `store/telegram_bot/order_finalizers.py`: the pending check, the order
and the payment submission of a renewal are steps of a run, and runs interleave. -/

namespace Qasedak.Orders

open Foundation Store

/-- The statuses that the pending check asks for. -/
def pendingRenewalStatuses : List OrderStatus :=
  [.pendingPayment, .pendingVerification, .confirmed]

/-- A renewal order of the client that waits for its payment or for its execution. -/
def PendingRenewal (client : ℕ) (o : Order) : Prop :=
  o.metadata.renewalClientPk = some client ∧ o.status ∈ pendingRenewalStatuses

instance (client : ℕ) (o : Order) : Decidable (PendingRenewal client o) :=
  inferInstanceAs (Decidable (_ ∧ _))

/-- `pending_renewal_order`: the latest that the customer has. -/
def pendingRenewalOrder (db : Db) (customer : Option ℕ) (client : ℕ) : Option Order :=
  if customer = none then none
  else (db.orders.rows.filter fun o => o.customer = customer ∧ PendingRenewal client o).argmax
    (·.createdAt)

/-- `get_bot_client`, by the key that the public id stands for. -/
def getBotClient (db : Db) (customer : Option ℕ) (client : ℕ) : Option VPNClient :=
  if customer = none then none
  else (db.clients.get? client).filter fun c =>
    ((c.order.bind db.orders.get?).any (·.customer = customer)) && !c.isDeleted

/-- What the bot user and the message give to the submission. -/
structure RenewalPayment where
  senderCardName : String
  paymentDate : ℤ
  paymentTime : ℕ
  hasReceipt : Bool
  deriving DecidableEq, Repr

/-- `Order.submit_manual_payment`, once the submission is clean. -/
def submitManualPayment (p : RenewalPayment) (now : Instant) (o : Order) : Order :=
  { o with
    paymentMethod := .manualCard
    senderCardName := p.senderCardName
    senderCardLast4 := ""
    paymentDate := some p.paymentDate
    paymentTime := some p.paymentTime
    hasReceipt := o.hasReceipt || p.hasReceipt
    isPaid := true
    paymentSubmittedAt := some now
    status := .pendingVerification
    verificationStatus := .pending }

/-- What a run holds between two of its steps: copies of rows as it read or wrote them. -/
inductive RenewalStage where
  | idle
  | checked (customer : Option ℕ) (c : VPNClient)
  | created (o : Order)
  | submitted (o : Order)
  /-- The user is shown this pending order with the button that cancels it. -/
  | shown (o : Order)

/-- What a run holds of an order that it created. -/
def RenewalStage.copy : RenewalStage → Option Order
  | .created o => some o
  | .submitted o => some o
  | _ => none

structure BotRenewals where
  db : Db
  stage : ℕ → RenewalStage

inductive RenewalStep where
  /-- The lookup of the client and the pending check. -/
  | start (run : ℕ) (customer : Option ℕ) (client : ℕ)
  /-- A step of the run fails, or its process dies. -/
  | fail (run : ℕ)
  | create (run : ℕ) (publicId trackingCode : String) (currentStore : Option ℕ) (discount : ℕ)
      (now : Instant)
  | submit (run : ℕ) (payment : RenewalPayment) (now : Instant)
  /-- The last save, of the metadata. -/
  | tidy (run : ℕ)
  /-- `user:order_cancel`; `deleted` says whether the panel deletes what the order names. -/
  | cancel (customer : Option ℕ) (order : ℕ) (deleted : Bool)
  /-- A review of a waiting order gives it this status. -/
  | review (order : ℕ) (status : OrderStatus)

namespace BotRenewals

def setStage (s : BotRenewals) (run : ℕ) (stage : RenewalStage) : BotRenewals :=
  { s with stage := fun r => if r = run then stage else s.stage r }

/-- The order is created with the flag of the bot in its metadata. -/
def markSuppressed (o : Order) : Order :=
  { o with metadata := { o.metadata with suppressNewOrderNotification := true } }

/-- `order.save()` writes every field of the run's own copy. -/
def overwrite (copy o : Order) : Order := { copy with pk := o.pk }

/-- `order.save(update_fields=["metadata", ...])` of the run's own copy. -/
def overwriteMetadata (copy o : Order) : Order :=
  { o with metadata := { copy.metadata with suppressNewOrderNotification := false } }

/-- The row after the cancellation by its owner. -/
def cancelledBy (customer : Option ℕ) (deleted : Bool) (o : Order) : Order :=
  if o.customer = customer ∧ o.status ≠ .completed ∧ deleted then cancelledOrder o else o

theorem cancelledBy_pk (customer : Option ℕ) (deleted : Bool) (o : Order) :
    (cancelledBy customer deleted o).pk = o.pk := by
  unfold cancelledBy
  split <;> rfl

def reviewed (status : OrderStatus) (o : Order) : Order :=
  if o.status ∈ pendingRenewalStatuses then { o with status := status } else o

theorem reviewed_pk (status : OrderStatus) (o : Order) : (reviewed status o).pk = o.pk := by
  unfold reviewed
  split <;> rfl

/-- One step of `finalize_bot_renewal`, or of what happens beside it. -/
def step (s : BotRenewals) : RenewalStep → BotRenewals
  | .start run customer client =>
      match getBotClient s.db customer client with
      | none => s.setStage run .idle
      | some c =>
          match pendingRenewalOrder s.db customer c.pk with
          | some o => s.setStage run (.shown o)
          | none => s.setStage run (.checked customer c)
  | .fail run => s.setStage run .idle
  | .create run publicId trackingCode currentStore discount now =>
      match s.stage run with
      | .checked customer c =>
          match createRenewalPaymentOrder publicId trackingCode currentStore customer discount now c
              s.db with
          | .error _ => s.setStage run .idle
          | .ok (k, db) =>
              let db := db.setOrder k markSuppressed fun _ => rfl
              match db.orders.get? k with
              | some o => { s with db := db }.setStage run (.created o)
              | none => s.setStage run .idle
      | _ => s
  | .submit run payment now =>
      match s.stage run with
      | .created o =>
          let copy := (submitManualPayment payment now o).save now
          { s with db := s.db.setOrder o.pk (overwrite copy) fun _ => rfl }.setStage run
            (.submitted copy)
      | _ => s
  | .tidy run =>
      match s.stage run with
      | .submitted o =>
          { s with db := s.db.setOrder o.pk (overwriteMetadata o) fun _ => rfl }.setStage run .idle
      | _ => s
  | .cancel customer order deleted =>
      let hpk := cancelledBy_pk customer deleted
      { s with db := s.db.setOrder order (cancelledBy customer deleted) hpk }
  | .review order status =>
      { s with db := s.db.setOrder order (reviewed status) (reviewed_pk status) }

/-! ## One renewal at a time -/

/-- What is promised for a client: one of its renewal orders waits at a time, the owner's next run
finds it and shows it with the button that cancels it, and once it is cancelled the pending check
finds no other. -/
structure OneAtATime (client : ℕ) (db : Db) : Prop where
  single : ∀ o ∈ db.orders.rows, ∀ o' ∈ db.orders.rows,
    PendingRenewal client o → PendingRenewal client o' → o = o'
  shown : ∀ o ∈ db.orders.rows, PendingRenewal client o →
    pendingRenewalOrder db o.customer client = some o
  released : ∀ o ∈ db.orders.rows, PendingRenewal client o →
    ∀ o' ∈ (db.setOrder o.pk (cancelledBy o.customer true)
      (cancelledBy_pk o.customer true)).orders.rows, ¬ PendingRenewal client o'

/-- A renewal order is created while none of the client waits, and submitted while no other of the
client waits. -/
def InTurn (client : ℕ) (s : BotRenewals) : RenewalStep → Prop
  | .create run .. => ∀ customer c, s.stage run = .checked customer c → c.pk = client →
      ∀ o ∈ s.db.orders.rows, ¬ PendingRenewal client o
  | .submit run _ _ => ∀ copy, s.stage run = .created copy →
      copy.metadata.renewalClientPk = some client →
        ∀ o ∈ s.db.orders.rows, PendingRenewal client o → o.pk = copy.pk
  | _ => True

/-- A copy of an order that is there, for the same client and customer. -/
structure CopyOf (db : Db) (copy : Order) : Prop where
  row : ∃ o, db.orders.get? copy.pk = some o ∧
    o.metadata.renewalClientPk = copy.metadata.renewalClientPk
  customer : copy.customer ≠ none

structure InOrder (client : ℕ) (s : BotRenewals) : Prop where
  single : ∀ k k' o o', s.db.orders.get? k = some o → s.db.orders.get? k' = some o' →
    PendingRenewal client o → PendingRenewal client o' → k = k'
  owned : ∀ k o, s.db.orders.get? k = some o → PendingRenewal client o → o.customer ≠ none
  copies : ∀ run copy, (s.stage run).copy = some copy → CopyOf s.db copy
  customers : ∀ run customer c, s.stage run = .checked customer c → customer ≠ none

variable {client k : ℕ} {s : BotRenewals} {o copy : Order}

theorem get?_of_mem {db : Db} (h : o ∈ db.orders.rows) : db.orders.get? o.pk = some o :=
  Table.get?_eq_some_iff.mpr ⟨h, rfl⟩

theorem get?_setOrder {db : Db} (k j : ℕ) (f : Order → Order) (hf : ∀ o, (f o).pk = o.pk) :
    (db.setOrder k f hf).orders.get? j =
      (db.orders.get? j).map fun o => if j = k then f o else o :=
  Table.get?_modify db.orders k j f hf

/-- A change of one row that lets no second order of the client wait. -/
theorem InOrder.setOrder (h : InOrder client s) {f : Order → Order} (hf : ∀ o, (f o).pk = o.pk)
    (hclient : ∀ o, s.db.orders.get? k = some o →
      (f o).metadata.renewalClientPk = o.metadata.renewalClientPk)
    (hpending : ∀ o, s.db.orders.get? k = some o → PendingRenewal client (f o) →
      (f o).customer ≠ none ∧
        ∀ k' o', s.db.orders.get? k' = some o' → PendingRenewal client o' → k' = k) :
    InOrder client { s with db := s.db.setOrder k f hf } where
  single := by
    intro i j oi oj hi hj hpi hpj
    simp only [get?_setOrder, Option.map_eq_some_iff] at hi hj
    obtain ⟨ri, hri, rfl⟩ := hi
    obtain ⟨rj, hrj, rfl⟩ := hj
    by_cases hik : i = k
    · subst hik
      rw [if_pos rfl] at hpi
      by_cases hjk : j = i
      · exact hjk.symm
      · rw [if_neg hjk] at hpj
        exact ((hpending ri hri hpi).2 j rj hrj hpj).symm
    · rw [if_neg hik] at hpi
      by_cases hjk : j = k
      · subst hjk
        rw [if_pos rfl] at hpj
        exact (hpending rj hrj hpj).2 i ri hri hpi
      · rw [if_neg hjk] at hpj
        exact h.single i j ri rj hri hrj hpi hpj
  owned := by
    intro j oj hj hpj
    simp only [get?_setOrder, Option.map_eq_some_iff] at hj
    obtain ⟨rj, hrj, rfl⟩ := hj
    by_cases hjk : j = k
    · subst hjk
      rw [if_pos rfl] at hpj ⊢
      exact (hpending rj hrj hpj).1
    · rw [if_neg hjk] at hpj ⊢
      exact h.owned j rj hrj hpj
  copies := by
    intro run copy hcopy
    obtain ⟨⟨r, hr, hsame⟩, hcustomer⟩ := h.copies run copy hcopy
    refine ⟨?_, hcustomer⟩
    simp only [get?_setOrder, hr, Option.map_some, Option.some.injEq, exists_eq_left']
    by_cases hk : copy.pk = k
    · rw [if_pos hk, hclient r (hk ▸ hr), hsame]
    · rw [if_neg hk, hsame]
  customers := h.customers

theorem InOrder.setStage (h : InOrder client s) {stage : RenewalStage} (run : ℕ)
    (hcopy : ∀ copy, stage.copy = some copy → CopyOf s.db copy)
    (hcustomer : ∀ customer c, stage = .checked customer c → customer ≠ none) :
    InOrder client (s.setStage run stage) where
  single := h.single
  owned := h.owned
  copies := by
    intro r copy hr
    simp only [BotRenewals.setStage] at hr
    split at hr
    · exact hcopy copy hr
    · exact h.copies r copy hr
  customers := by
    intro r customer c hr
    simp only [BotRenewals.setStage] at hr
    split at hr
    · exact hcustomer customer c hr
    · exact h.customers r customer c hr

/-- What `create_renewal_payment_order` adds. -/
theorem createRenewalPaymentOrder_ok {publicId trackingCode : String} {currentStore : Option ℕ}
    {customer : Option ℕ} {discount : ℕ} {now : Instant} {c : VPNClient} {db db' : Db}
    (h : createRenewalPaymentOrder publicId trackingCode currentStore customer discount now c db =
      .ok (k, db')) :
    k = db.orders.nextKey ∧ ∃ o : Order, o.metadata.renewalClientPk = some c.pk ∧
      o.customer = customer ∧
      ∀ j, db'.orders.get? j = if j = k then some o else db.orders.get? j := by
  unfold createRenewalPaymentOrder at h
  split at h
  · cases h
  split at h
  · cases h
  rename_i plan hplan
  split at h
  · cases h
  rename_i delivered hdelivered
  split at h
  · cases h
  cases h
  refine ⟨rfl, renewalPaymentOrder db.orders.nextKey publicId trackingCode customer
    (c.store <|> delivered.store <|> plan.store <|> currentStore) plan discount now c, rfl, rfl, ?_⟩
  intro j
  exact Table.get?_insert db.orders _ (renewalPaymentOrder_pk ..) j

theorem getBotClient_customer {db : Db} {customer : Option ℕ} {c : VPNClient}
    (h : getBotClient db customer client = some c) : customer ≠ none := by
  intro hnone
  simp [getBotClient, hnone] at h

theorem InOrder.created (h : InOrder client s) {customer : Option ℕ} {c : VPNClient} {db : Db}
    {publicId trackingCode : String} {currentStore : Option ℕ} {discount : ℕ} {now : Instant}
    (hcustomer : customer ≠ none)
    (hcreate : createRenewalPaymentOrder publicId trackingCode currentStore customer discount now c
      s.db = .ok (k, db))
    (hturn : c.pk = client → ∀ o ∈ s.db.orders.rows, ¬ PendingRenewal client o) :
    InOrder client { s with db := db } := by
  obtain ⟨hk, new, hclient, howner, hget⟩ := createRenewalPaymentOrder_ok hcreate
  have hother : PendingRenewal client new →
      ∀ j o, s.db.orders.get? j = some o → ¬ PendingRenewal client o := by
    intro hpending j o hj
    have hc : c.pk = client := Option.some.inj (hclient.symm.trans hpending.1)
    exact hturn hc o (Table.mem_of_get? hj).1
  refine ⟨?_, ?_, ?_, h.customers⟩
  · intro i j oi oj hi hj hpi hpj
    simp only [hget] at hi hj
    split at hi
    · rename_i hik
      cases hi
      split at hj
      · rename_i hjk
        exact hik.trans hjk.symm
      · exact absurd hpj (hother hpi j oj hj)
    · split at hj
      · cases hj
        exact absurd hpi (hother hpj i oi hi)
      · exact h.single i j oi oj hi hj hpi hpj
  · intro j oj hj hpj
    simp only [hget] at hj
    split at hj
    · cases hj
      rw [howner]
      exact hcustomer
    · exact h.owned j oj hj hpj
  · intro run copy hcopy
    obtain ⟨⟨r, hr, hsame⟩, hcopyOwner⟩ := h.copies run copy hcopy
    refine ⟨⟨r, ?_, hsame⟩, hcopyOwner⟩
    have hne : copy.pk ≠ k := by
      intro heq
      rw [heq, hk, Table.get?_nextKey] at hr
      cases hr
    simp only [hget, if_neg hne, hr]

theorem InOrder.step (h : InOrder client s) {a : RenewalStep} (ha : InTurn client s a) :
    InOrder client (s.step a) := by
  cases a with
  | start run customer target =>
      simp only [BotRenewals.step]
      split
      · exact h.setStage run (by simp [RenewalStage.copy]) (by simp)
      rename_i c hc
      split
      · exact h.setStage run (by simp [RenewalStage.copy]) (by simp)
      · refine h.setStage run (by simp [RenewalStage.copy]) ?_
        intro customer' c' heq
        cases heq
        exact getBotClient_customer hc
  | fail run => exact h.setStage run (by simp [RenewalStage.copy]) (by simp)
  | create run publicId trackingCode currentStore discount now =>
      simp only [BotRenewals.step]
      split
      · rename_i customer c hstage
        split
        · exact h.setStage run (by simp [RenewalStage.copy]) (by simp)
        · rename_i key db hcreate
          have hcustomer := h.customers run customer c hstage
          have hcreated := h.created hcustomer hcreate (ha customer c hstage)
          have hmarked := hcreated.setOrder (k := key) (f := markSuppressed) (fun _ => rfl)
            (fun _ _ => rfl) fun o ho hpending =>
              ⟨hcreated.owned key o ho hpending, fun k' o' ho' hpending' =>
                hcreated.single k' key o' o ho' ho hpending' hpending⟩
          obtain ⟨hkey, new, hclient, howner, hget⟩ := createRenewalPaymentOrder_ok hcreate
          have hself : (db.setOrder key markSuppressed fun _ => rfl).orders.get? key =
              some (markSuppressed new) := by
            have hset := @get?_setOrder db key key markSuppressed fun _ => rfl
            rw [hget, if_pos rfl, Option.map_some, if_pos rfl] at hset
            exact hset
          simp only [hself]
          refine hmarked.setStage run ?_ (by simp)
          intro copy hcopy
          cases hcopy
          have hpk : (markSuppressed new).pk = key := (Table.mem_of_get? hself).2
          refine ⟨⟨markSuppressed new, by rw [hpk]; exact hself, rfl⟩, ?_⟩
          exact howner ▸ hcustomer
      · exact h
  | submit run payment now =>
      simp only [BotRenewals.step]
      split
      · rename_i copy hstage
        have hcopy := h.copies run copy (by rw [hstage]; rfl)
        obtain ⟨⟨row, hrow, hsame⟩, hcustomer⟩ := hcopy
        have hset := h.setOrder (k := copy.pk)
          (f := overwrite ((submitManualPayment payment now copy).save now)) (fun _ => rfl) ?_ ?_
        · refine hset.setStage run ?_ (by simp)
          intro copy' hcopy'
          cases hcopy'
          refine ⟨⟨overwrite ((submitManualPayment payment now copy).save now) row, ?_, rfl⟩,
            hcustomer⟩
          have hget := @get?_setOrder s.db copy.pk copy.pk
            (overwrite ((submitManualPayment payment now copy).save now)) fun _ => rfl
          rw [hrow, Option.map_some, if_pos rfl] at hget
          exact hget
        · intro o ho
          rw [hrow] at ho
          cases ho
          exact hsame.symm
        · intro o ho hpending
          refine ⟨hcustomer, ?_⟩
          intro k' o' ho' hpending'
          obtain ⟨hmem, rfl⟩ := Table.mem_of_get? ho'
          exact ha copy hstage hpending.1 o' hmem hpending'
      · exact h
  | tidy run =>
      simp only [BotRenewals.step]
      split
      · rename_i copy hstage
        obtain ⟨⟨row, hrow, hsame⟩, hcustomer⟩ := h.copies run copy (by rw [hstage]; rfl)
        refine (h.setOrder (k := copy.pk) (f := overwriteMetadata copy) (fun _ => rfl) ?_
          ?_).setStage run (by simp [RenewalStage.copy]) (by simp)
        · intro o ho
          rw [hrow] at ho
          cases ho
          exact hsame.symm
        · intro o ho hpending
          rw [hrow] at ho
          cases ho
          have hwas : PendingRenewal client row := ⟨hsame.trans hpending.1, hpending.2⟩
          exact ⟨h.owned _ row hrow hwas, fun k' o' ho' hpending' =>
            h.single k' _ o' row ho' hrow hpending' hwas⟩
      · exact h
  | cancel customer order deleted =>
      refine h.setOrder (k := order) (f := cancelledBy customer deleted) _ ?_ ?_
      · intro o _
        unfold cancelledBy
        split <;> rfl
      · intro o ho hpending
        have hwas : PendingRenewal client o ∧ (cancelledBy customer deleted o) = o := by
          unfold cancelledBy at hpending ⊢
          split at hpending
          · exact absurd hpending.2 (by simp [cancelledOrder, pendingRenewalStatuses])
          · rename_i hnot
            exact ⟨hpending, if_neg hnot⟩
        rw [hwas.2]
        exact ⟨h.owned _ o ho hwas.1, fun k' o' ho' hpending' =>
          h.single k' _ o' o ho' ho hpending' hwas.1⟩
  | review order status =>
      refine h.setOrder (k := order) (f := reviewed status) _ ?_ ?_
      · intro o _
        unfold reviewed
        split <;> rfl
      · intro o ho hpending
        have hwas : PendingRenewal client o ∧ (reviewed status o).customer = o.customer := by
          unfold reviewed at hpending ⊢
          split at hpending
          · rename_i hwaits
            exact ⟨⟨hpending.1, hwaits⟩, by rw [if_pos hwaits]⟩
          · rename_i hnot
            exact ⟨hpending, by rw [if_neg hnot]⟩
        rw [hwas.2]
        exact ⟨h.owned _ o ho hwas.1, fun k' o' ho' hpending' =>
          h.single k' _ o' o ho' ho hpending' hwas.1⟩

theorem InOrder.oneAtATime (h : InOrder client s) : OneAtATime client s.db := by
  have hsingle : ∀ o ∈ s.db.orders.rows, ∀ o' ∈ s.db.orders.rows,
      PendingRenewal client o → PendingRenewal client o' → o = o' := by
    intro o ho o' ho' hpending hpending'
    have hpk := h.single o.pk o'.pk o o' (get?_of_mem ho) (get?_of_mem ho') hpending hpending'
    exact List.inj_on_of_nodup_map s.db.orders.keys_nodup ho ho' hpk
  refine ⟨hsingle, ?_, ?_⟩
  · intro o ho hpending
    have hcustomer := h.owned o.pk o (get?_of_mem ho) hpending
    unfold pendingRenewalOrder
    rw [if_neg hcustomer]
    have hmem : o ∈ s.db.orders.rows.filter fun r =>
        r.customer = o.customer ∧ PendingRenewal client r :=
      List.mem_filter.mpr ⟨ho, by simpa using hpending⟩
    cases hfound : (s.db.orders.rows.filter fun r =>
        r.customer = o.customer ∧ PendingRenewal client r).argmax (·.createdAt) with
    | none =>
        rw [List.argmax_eq_none.mp hfound] at hmem
        cases hmem
    | some o' =>
        obtain ⟨ho', hother⟩ := List.mem_filter.mp (List.argmax_mem hfound)
        have hpending' : PendingRenewal client o' := (of_decide_eq_true hother).2
        rw [hsingle o' ho' o ho hpending' hpending]
  · intro o ho hpending o' ho' hpending'
    have hget := get?_of_mem ho'
    rw [get?_setOrder, Option.map_eq_some_iff] at hget
    obtain ⟨r, hr, hrow⟩ := hget
    have hmem := Table.mem_of_get? hr
    split at hrow
    · rename_i hpk
      rw [hpk, get?_of_mem ho] at hr
      cases hr
      have hcompleted : o.status ≠ .completed := by
        intro heq
        simp [PendingRenewal, pendingRenewalStatuses, heq] at hpending
      rw [cancelledBy, if_pos ⟨rfl, hcompleted, rfl⟩] at hrow
      rw [← hrow] at hpending'
      simp [PendingRenewal, pendingRenewalStatuses, cancelledOrder] at hpending'
    · rename_i hpk
      subst hrow
      exact hpk (congrArg Order.pk (hsingle r hmem.1 o ho hpending' hpending))

/-- The shop of one delivered service, before any message of its owner. -/
def quietBot : BotRenewals := ⟨liveShop.db, fun _ => .idle⟩

def cardPayment : RenewalPayment := ⟨"ali", 20000, 600, true⟩

end BotRenewals

end Qasedak.Orders
