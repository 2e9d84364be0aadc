import Qasedak.Orders.OrderAutomation

/-! Which due orders a run of the automation reaches. The rows it reads are limited before it is
looked at whether they are due, so that rows which are not can take the places. -/

namespace Qasedak.Orders.Automation

open Foundation Store Orders

/-! ## Orders of the rows -/

theorem submittedBefore_total (a b : Order) : SubmittedBefore a b ∨ SubmittedBefore b a := by
  unfold SubmittedBefore
  omega

theorem submittedBefore_trans (a b c : Order) (h : SubmittedBefore a b)
    (h' : SubmittedBefore b c) : SubmittedBefore a c := by
  unfold SubmittedBefore at *
  omega

theorem pk_eq_of_submittedBefore {a b : Order} (h : SubmittedBefore a b)
    (h' : SubmittedBefore b a) : b.pk = a.pk := by
  unfold SubmittedBefore at *
  omega

variable {db : Db}

theorem remindedBefore_total (a b : Order) : RemindedBefore db a b ∨ RemindedBefore db b a := by
  have h := submittedBefore_total a b
  unfold RemindedBefore
  cases lastReminded db a with
  | none =>
      cases lastReminded db b with
      | none => exact h
      | some u => exact .inl trivial
  | some t =>
      cases lastReminded db b with
      | none => exact .inr trivial
      | some u =>
          simp only
          rcases h with h | h <;> by_cases htu : t = u
          · exact .inl (.inr ⟨htu, h⟩)
          · omega
          · exact .inr (.inr ⟨htu.symm, h⟩)
          · omega

theorem remindedBefore_trans (a b c : Order) (h : RemindedBefore db a b)
    (h' : RemindedBefore db b c) : RemindedBefore db a c := by
  unfold RemindedBefore at *
  cases ha : lastReminded db a <;> cases hb : lastReminded db b <;>
    cases hc : lastReminded db c <;> rw [ha, hb] at h <;> rw [hb, hc] at h' <;>
    simp only at h h' ⊢
  · exact submittedBefore_trans a b c h h'
  · rcases h with h | ⟨htu, h⟩ <;> rcases h' with h' | ⟨huv, h'⟩
    · exact .inl (h.trans h')
    · exact .inl (huv ▸ h)
    · exact .inl (htu ▸ h')
    · exact .inr ⟨htu.trans huv, submittedBefore_trans a b c h h'⟩

theorem pk_eq_of_remindedBefore {a b : Order} (h : RemindedBefore db a b)
    (h' : RemindedBefore db b a) : b.pk = a.pk := by
  unfold RemindedBefore at *
  cases ha : lastReminded db a <;> cases hb : lastReminded db b <;>
    rw [ha, hb] at h <;> rw [ha, hb] at h' <;> simp only at h h'
  · exact pk_eq_of_submittedBefore h h'
  · rcases h with h | ⟨htu, h⟩ <;> rcases h' with h' | ⟨hut, h'⟩
    · omega
    · omega
    · omega
    · exact pk_eq_of_submittedBefore h h'

theorem eq_of_pk {xs : List Order} (hsub : xs.Sublist db.orders.rows) {a b : Order}
    (ha : a ∈ xs) (hb : b ∈ xs) (h : b.pk = a.pk) : b = a :=
  List.inj_on_of_nodup_map db.orders.keys_nodup (hsub.subset hb) (hsub.subset ha) h

theorem nodup_of_sublist {xs : List Order} (hsub : xs.Sublist db.orders.rows) : xs.Nodup :=
  ((hsub.map _).nodup db.orders.keys_nodup).of_map _

/-! ## Approvals -/

/-- `auto_approve_order` would claim the order now. -/
def wouldAccept (now : Instant) (s : Shop) (o : Order) : Bool :=
  match (claimAutoApproval now o.pk s).1 with
  | .ok claimed => claimed
  | .error _ => false

/-- The orders of the shop that are due for an approval by the clock. -/
def acceptedOrders (now : Instant) (s : Shop) : List Order :=
  s.db.orders.rows.filter (wouldAccept now s)

variable {s : Shop} {now : Instant} {o : Order}

theorem wp_claimAutoApproval_candidate (ho : s.db.orders.get? o.pk = some o) :
    Prog.wp (claimAutoApproval now o.pk) (fun claimed _ => claimed = true → isCandidate s.db o = true)
      (fun _ _ => True) s := by
  unfold claimAutoApproval getOrder
  simp only [Prog.wp_atomic, Prog.wp_bind, Prog.wp_readDb, Prog.wp_orRaise, id_eq, ho]
  cases hstore : o.store.bind s.db.stores.get? with
  | none => trivial
  | some store =>
      simp only
      split
      case h_2 => exact fun h => absurd h (by decide)
      split
      · exact fun h => absurd h (by decide)
      next hreceipt =>
      split
      · exact fun h => absurd h (by decide)
      have hpending : (isPendingReceipt store o && store.orderAutoApproveEnabled) = true := by
        simp only [not_or, Bool.not_eq_true, Bool.not_eq_false] at hreceipt
        simp [hreceipt.1, hreceipt.2]
      cases haudit : s.db.automations.get? o.pk with
      | none => exact fun _ => by simp [isCandidate, hstore, haudit, hpending]
      | some audit =>
          simp only
          split
          · exact fun h => absurd h (by decide)
          next hfree =>
            intro _
            simp only [isCandidate, hstore, haudit, Option.any_some, Option.all_some, hpending]
            simpa using hfree

theorem mem_candidates_of_accepted (h : o ∈ acceptedOrders now s) : o ∈ candidates s.db := by
  obtain ⟨hrow, haccept⟩ := List.mem_filter.mp h
  have hwp := @wp_claimAutoApproval_candidate s now o (Table.get?_eq_some_iff.mpr ⟨hrow, rfl⟩)
  refine List.mem_filter.mpr ⟨hrow, ?_⟩
  simp only [wouldAccept] at haccept
  unfold Prog.wp at hwp
  rcases hrun : claimAutoApproval now o.pk s with ⟨r, s'⟩
  rw [hrun] at hwp haccept
  cases r with
  | ok claimed => exact hwp haccept
  | error e => exact nomatch haccept

theorem mem_approvalCandidates_iff (ho : o ∈ candidates s.db) (limit : ℕ) :
    o.pk ∈ approvalCandidates s.db limit ↔
      (before SubmittedBefore (candidates s.db) o).length < limit := by
  have hsub : (candidates s.db).Sublist s.db.orders.rows := List.filter_sublist
  rw [← mem_take_insertionSort_iff submittedBefore_total submittedBefore_trans
    (nodup_of_sublist hsub) (fun a ha b hb h h' => eq_of_pk hsub ha hb (pk_eq_of_submittedBefore h h'))
    ho limit, approvalCandidates]
  constructor
  · intro h
    obtain ⟨o', ho', hpk⟩ := List.mem_map.mp h
    have hmem := (List.perm_insertionSort SubmittedBefore _).mem_iff.mp (List.mem_of_mem_take ho')
    rwa [eq_of_pk hsub ho hmem hpk] at ho'
  · exact fun h => List.mem_map_of_mem h

/-- The run reaches every order that it would approve, when there are no more than it may. -/
def ApprovesDue (now : Instant) (limit : ℕ) (s : Shop) : Prop :=
  (acceptedOrders now s).length ≤ limit →
    ∀ o ∈ acceptedOrders now s, o.pk ∈ approvalCandidates s.db limit

/-- Fewer rows than the limit come before each of them, due or not. -/
def ApprovalsFit (now : Instant) (limit : ℕ) (s : Shop) : Prop :=
  (acceptedOrders now s).length ≤ limit →
    ∀ o ∈ acceptedOrders now s, (before SubmittedBefore (candidates s.db) o).length < limit

theorem approvesDue_iff (now : Instant) (limit : ℕ) (s : Shop) :
    ApprovesDue now limit s ↔ ApprovalsFit now limit s := by
  refine forall_congr' fun _ => forall_congr' fun o => forall_congr' fun ho => ?_
  exact mem_approvalCandidates_iff (mem_candidates_of_accepted ho) limit

/-! ## Reminders -/

/-- The receipts of a store that its admins are to be reminded of. -/
def dueReceipts (now : Instant) (db : Db) (store : StoreRow) : List Order :=
  (receipts db store).filter (wantsReminder db now)

theorem mem_receiptsToReview_iff {store : StoreRow} (ho : o ∈ receipts db store) :
    o ∈ receiptsToReview db store ↔
      (before (RemindedBefore db) (receipts db store) o).length < 100 := by
  have hsub : (receipts db store).Sublist db.orders.rows := List.filter_sublist
  exact mem_take_insertionSort_iff remindedBefore_total remindedBefore_trans
    (nodup_of_sublist hsub)
    (fun a ha b hb h h' => eq_of_pk hsub ha hb (pk_eq_of_remindedBefore h h')) ho 100

/-- Audit rows may be added, but they say nothing new. -/
structure SameAudits (db db' : Db) : Prop where
  read : ∀ k, auditOf db' k = auditOf db k
  kept : ∀ k a, db.automations.get? k = some a → db'.automations.get? k = some a

theorem SameAudits.refl (db : Db) : SameAudits db db := ⟨fun _ => rfl, fun _ _ h => h⟩

theorem SameAudits.trans {db' db'' : Db} (h : SameAudits db db') (h' : SameAudits db' db'') :
    SameAudits db db'' where
  read k := (h'.read k).trans (h.read k)
  kept k a ha := h'.kept k a (h.kept k a ha)

theorem sameAudits_ensureAudit (db : Db) (k : ℕ) : SameAudits db (ensureAudit db k) := by
  have hget : ∀ j, (ensureAudit db k).automations.get? j =
      if j = k then some (auditOf db k) else db.automations.get? j := by
    intro j
    by_cases hj : j = k
    · rw [if_pos hj, hj]
      cases hold : db.automations.get? k with
      | some a =>
          have hmem := Table.get?_eq_some_iff.mp hold
          have hput : db.automations.put { order := k } = db.automations :=
            dif_pos (List.mem_map.mpr ⟨a, hmem.1, hmem.2⟩)
          rw [ensureAudit, hput, hold, auditOf, hold, Option.getD_some]
      | none =>
          rw [auditOf, hold, Option.getD_none]
          exact Table.get?_put_self (r := ({ order := k } : OrderAutomation)) hold
    · rw [if_neg hj]
      exact Table.get?_put_of_ne hj
  constructor
  · intro j
    by_cases hj : j = k
    · rw [auditOf, hget, if_pos hj, Option.getD_some, hj]
    · rw [auditOf, hget, if_neg hj, auditOf]
  · intro j a ha
    by_cases hj : j = k
    · rw [hget, if_pos hj, auditOf, ← hj, ha, Option.getD_some]
    · rw [hget, if_neg hj, ha]

theorem wantsReminder_congr {db' : Db} (h : SameAudits db db') (now : Instant) (o : Order) :
    wantsReminder db' now o = wantsReminder db now o := by
  simp only [wantsReminder, h.read]

/-- The loop finds the first ten due orders among its rows. -/
theorem collectDue_spec (now : Instant) (orders due : List Order) (db : Db)
    (hdue : due.length < 10) :
    (collectDue now orders due db).1 = (due ++ orders.filter (wantsReminder db now)).take 10 ∧
      SameAudits db (collectDue now orders due db).2 := by
  induction orders generalizing due db with
  | nil =>
      rw [collectDue, List.filter_nil, List.append_nil, List.take_of_length_le hdue.le]
      exact ⟨rfl, .refl db⟩
  | cons o rest ih =>
      rw [collectDue]
      by_cases hsuppressed : o.metadata.suppressNewOrderNotification = true
      · have hskip : wantsReminder db now o = false := by simp [wantsReminder, hsuppressed]
        rw [if_pos hsuppressed, List.filter_cons_of_neg (by simp [hskip])]
        exact ih due db hdue
      · rw [if_neg hsuppressed]
        have hsame := sameAudits_ensureAudit db o.pk
        simp only [wantsReminder_congr hsame]
        by_cases hwants : wantsReminder db now o = true
        · rw [if_pos hwants, List.filter_cons_of_pos hwants]
          have hlength : (due ++ [o]).length = due.length + 1 := by simp
          have happend : due ++ o :: rest.filter (wantsReminder db now) =
              (due ++ [o]) ++ rest.filter (wantsReminder db now) := by simp
          rw [happend]
          split
          next hfull =>
            have hten : (due ++ [o]).length = 10 := by omega
            refine ⟨?_, hsame⟩
            rw [List.take_append_of_le_length hten.ge, List.take_of_length_le hten.le]
          next hroom =>
            obtain ⟨hresult, hkept⟩ := ih (due ++ [o]) (ensureAudit db o.pk) (by omega)
            refine ⟨?_, hsame.trans hkept⟩
            rw [hresult, List.filter_congr fun x _ => wantsReminder_congr hsame now x]
        · rw [if_neg hwants, List.filter_cons_of_neg hwants, if_neg (by omega)]
          obtain ⟨hresult, hkept⟩ := ih due (ensureAudit db o.pk) hdue
          refine ⟨?_, hsame.trans hkept⟩
          rw [hresult, List.filter_congr fun x _ => wantsReminder_congr hsame now x]

/-- The stage of no audit row decreases. -/
def StagesKept (db db' : Db) : Prop :=
  ∀ k a, db.automations.get? k = some a →
    ∃ a', db'.automations.get? k = some a' ∧ a.reminderStage ≤ a'.reminderStage

theorem SameAudits.stagesKept {db' : Db} (h : SameAudits db db') : StagesKept db db' :=
  fun k a ha => ⟨a, h.kept k a ha, le_rfl⟩

theorem StagesKept.trans {db' db'' : Db} (h : StagesKept db db') (h' : StagesKept db' db'') :
    StagesKept db db'' := by
  intro k a ha
  obtain ⟨a', ha', hle⟩ := h k a ha
  obtain ⟨a'', ha'', hle'⟩ := h' k a' ha'
  exact ⟨a'', ha'', hle.trans hle'⟩

theorem stagesKept_remind (now : Instant) (db : Db) (o : Order) :
    StagesKept db (remind now db o) := by
  intro k a ha
  have hget : (remind now db o).automations.get? k =
      some (if k = o.pk then markReminded now o a else a) := by
    rw [remind, Table.get?_modify, ha, Option.map_some]
  refine ⟨_, hget, ?_⟩
  by_cases hk : k = o.pk
  · rw [if_pos hk]
    exact le_max_left _ _
  · rw [if_neg hk]

theorem stagesKept_foldl (now : Instant) (orders : List Order) (db : Db) :
    StagesKept db (orders.foldl (remind now) db) := by
  induction orders generalizing db with
  | nil => exact (SameAudits.refl db).stagesKept
  | cons o orders ih => exact (stagesKept_remind now db o).trans (ih (remind now db o))

/-- The due orders that a call finds among its rows. -/
def foundDue (now : Instant) (db : Db) (row : StoreRow) : List Order :=
  ((receiptsToReview db row).filter (wantsReminder db now)).take 10

variable {sent : Except String ℕ} {store : ℕ}

/-- A call ends without a message, or with one about the orders that it found. -/
inductive CallEnds (now : Instant) (sent : Except String ℕ) (store : ℕ) (db : Db)
    (ids : List ℕ) (db' : Db) : Prop where
  | quiet (hids : ids = []) (hsame : SameAudits db db')
      (hwhy : ∀ row n, db.stores.get? store = some row → row.isActive = true →
        row.orderReviewRemindersEnabled = true → sent = .ok (n + 1) → foundDue now db row = [])
  | reminded (row : StoreRow) (n : ℕ) (hrow : db.stores.get? store = some row)
      (hactive : row.isActive = true) (henabled : row.orderReviewRemindersEnabled = true)
      (hsent : sent = .ok (n + 1)) (hids : ids = (foundDue now db row).map (·.pk))
      (hfound : foundDue now db row ≠ []) (hstages : StagesKept db db')

theorem wp_sendReceiptReminders :
    Prog.wp (sendReceiptReminders now sent store)
      (fun ids s' => CallEnds now sent store s.db ids s'.db)
      (fun _ s' => CallEnds now sent store s.db [] s'.db) s := by
  unfold sendReceiptReminders
  simp only [Prog.wp_atomic, Prog.wp_bind, Prog.wp_readDb, Prog.wp_orRaise, id_eq]
  cases hrow : s.db.stores.get? store with
  | none => exact .quiet rfl (.refl _) fun row n hrow' => by simp [hrow] at hrow'
  | some row =>
      simp only
      obtain ⟨hresult, hsame⟩ := collectDue_spec now (receiptsToReview s.db row) [] s.db (by simp)
      have hfound : (collectDue now (receiptsToReview s.db row) [] s.db).1 =
          foundDue now s.db row := hresult
      split
      next hoff =>
        refine .quiet rfl (.refl _) fun row' n hrow' hactive henabled => ?_
        rw [hrow] at hrow'
        obtain rfl : row = row' := Option.some.inj hrow'
        simp [hactive, henabled] at hoff
      next hon =>
        simp only [not_or, not_not] at hon
        rw [Prog.wp_bind, Prog.wp_writeDb, hfound]
        split
        next hnone =>
          refine .quiet rfl hsame fun row' n hrow' _ _ _ => ?_
          rw [hrow] at hrow'
          obtain rfl : row = row' := Option.some.inj hrow'
          exact hnone
        next hsome =>
          rw [Prog.wp_bind, Prog.wp_ofExcept]
          cases hsent : sent with
          | error e => exact .quiet rfl (.refl _) fun row n _ _ _ h => absurd h (by simp)
          | ok m =>
              simp only
              cases m with
              | zero => exact .quiet rfl hsame fun row n _ _ _ h => by simp at h
              | succ n =>
                  rw [if_neg (Nat.succ_ne_zero n), Prog.wp_bind, Prog.wp_writeDb]
                  exact .reminded row n hrow hon.1 hon.2 rfl rfl hsome
                    (hsame.stagesKept.trans (stagesKept_foldl now _ _))

/-- The orders that the message of a call is about; none where it sends none. -/
def remindedOrders (now : Instant) (sent : Except String ℕ) (store : ℕ) (s : Shop) : List ℕ :=
  match (sendReceiptReminders now sent store s).1 with
  | .ok ids => ids
  | .error _ => []

theorem callEnds (now : Instant) (sent : Except String ℕ) (store : ℕ) (s : Shop) :
    CallEnds now sent store s.db (remindedOrders now sent store s)
      (sendReceiptReminders now sent store s).2.db := by
  have hwp := @wp_sendReceiptReminders s now sent store
  unfold Prog.wp at hwp
  unfold remindedOrders
  rcases hrun : sendReceiptReminders now sent store s with ⟨r, s'⟩
  rw [hrun] at hwp
  cases r with
  | ok ids => exact hwp
  | error e => exact hwp

/-- A message that is sent names every due order, when there are at most ten. -/
def RemindsOfDue (now : Instant) (sent : Except String ℕ) (store : ℕ) (s : Shop) : Prop :=
  remindedOrders now sent store s ≠ [] → ∀ row, s.db.stores.get? store = some row →
    (dueReceipts now s.db row).length ≤ 10 →
      ∀ o ∈ dueReceipts now s.db row, o.pk ∈ remindedOrders now sent store s

/-- When a message is sent at all, fewer than a hundred receipts come before each due one. -/
def RemindersFit (now : Instant) (sent : Except String ℕ) (store : ℕ) (s : Shop) : Prop :=
  ∀ row n, s.db.stores.get? store = some row → row.isActive = true →
    row.orderReviewRemindersEnabled = true → sent = .ok (n + 1) →
      (dueReceipts now s.db row).length ≤ 10 →
        (∃ o ∈ dueReceipts now s.db row,
          (before (RemindedBefore s.db) (receipts s.db row) o).length < 100) →
        ∀ o ∈ dueReceipts now s.db row,
          (before (RemindedBefore s.db) (receipts s.db row) o).length < 100

/-- With at most ten due orders the call finds those among its rows. -/
theorem mem_foundDue_iff {row : StoreRow} (hfew : (dueReceipts now db row).length ≤ 10)
    (ho : o ∈ dueReceipts now db row) : o ∈ foundDue now db row ↔
      (before (RemindedBefore db) (receipts db row) o).length < 100 := by
  obtain ⟨hreceipt, hwants⟩ := List.mem_filter.mp ho
  have hperm := (List.perm_insertionSort (RemindedBefore db) (receipts db row)).filter
    (wantsReminder db now)
  have hle : ((receiptsToReview db row).filter (wantsReminder db now)).length ≤ 10 :=
    (((List.take_sublist _ _).filter _).length_le.trans hperm.length_eq.le).trans hfew
  rw [foundDue, List.take_of_length_le hle, List.mem_filter, mem_receiptsToReview_iff hreceipt]
  exact and_iff_left hwants

theorem mem_dueReceipts_of_found {row : StoreRow} (ho : o ∈ foundDue now db row) :
    o ∈ dueReceipts now db row := by
  obtain ⟨hrow, hwants⟩ := List.mem_filter.mp (List.mem_of_mem_take ho)
  have hmem := (List.perm_insertionSort (RemindedBefore db) _).mem_iff.mp (List.mem_of_mem_take hrow)
  exact List.mem_filter.mpr ⟨hmem, hwants⟩

theorem remindsOfDue_iff (now : Instant) (sent : Except String ℕ) (store : ℕ) (s : Shop) :
    RemindsOfDue now sent store s ↔ RemindersFit now sent store s := by
  cases callEnds now sent store s with
  | quiet hids hsame hwhy =>
      refine iff_of_true (fun h => absurd hids h) ?_
      intro row n hrow hactive henabled hsent hfew ⟨o, ho, hfit⟩
      have hmem := (mem_foundDue_iff hfew ho).mpr hfit
      rw [hwhy row n hrow hactive henabled hsent] at hmem
      exact absurd hmem List.not_mem_nil
  | reminded row n hrow hactive henabled hsent hids hfound hstages =>
      have hpk : ∀ o ∈ dueReceipts now s.db row,
          (o.pk ∈ remindedOrders now sent store s ↔ o ∈ foundDue now s.db row) := by
        intro o ho
        rw [hids]
        constructor
        · intro h
          obtain ⟨o', ho', hpk⟩ := List.mem_map.mp h
          have hdue := mem_dueReceipts_of_found ho'
          have hsub : (dueReceipts now s.db row).Sublist s.db.orders.rows :=
            List.filter_sublist.trans List.filter_sublist
          rwa [eq_of_pk hsub ho hdue hpk] at ho'
        · exact fun h => List.mem_map_of_mem h
      have hsentMessage : remindedOrders now sent store s ≠ [] := by
        rw [hids]
        simpa using hfound
      constructor
      · intro h row' n' hrow' _ _ _ hfew _ o ho
        rw [hrow] at hrow'
        obtain rfl : row = row' := Option.some.inj hrow'
        exact (mem_foundDue_iff hfew ho).mp ((hpk o ho).mp (h hsentMessage row hrow hfew o ho))
      · intro h _ row' hrow' hfew o ho
        rw [hrow] at hrow'
        obtain rfl : row = row' := Option.some.inj hrow'
        obtain ⟨o', hfound'⟩ := List.exists_mem_of_ne_nil _ hfound
        have hdue := mem_dueReceipts_of_found hfound'
        have hfit := h row n hrow hactive henabled hsent hfew
          ⟨o', hdue, (mem_foundDue_iff hfew hdue).mp hfound'⟩ o ho
        exact (hpk o ho).mpr ((mem_foundDue_iff hfew ho).mpr hfit)

/-- A call that sends nothing leaves every audit row as it is. -/
def QuietCallKeeps (now : Instant) (sent : Except String ℕ) (store : ℕ) (s : Shop) : Prop :=
  remindedOrders now sent store s = [] → ∀ k a, s.db.automations.get? k = some a →
    (sendReceiptReminders now sent store s).2.db.automations.get? k = some a

theorem quietCallKeeps (now : Instant) (sent : Except String ℕ) (store : ℕ) (s : Shop) :
    QuietCallKeeps now sent store s := by
  intro hquiet
  cases callEnds now sent store s with
  | quiet hids hsame hwhy => exact hsame.kept
  | reminded row n hrow hactive henabled hsent hids hfound hstages =>
      rw [hids, List.map_eq_nil_iff] at hquiet
      exact absurd hquiet hfound

theorem stagesKept (now : Instant) (sent : Except String ℕ) (store : ℕ) (s : Shop) :
    StagesKept s.db (sendReceiptReminders now sent store s).2.db := by
  cases callEnds now sent store s with
  | quiet hids hsame hwhy => exact hsame.stagesKept
  | reminded row n hrow hactive henabled hsent hids hfound hstages => exact hstages

/-! ## Runs -/

variable {delivery : Delivery} {limit : ℕ} {sents : ℕ → Except String ℕ}

theorem wp_attemptApproval {order : ℕ} {summary : AutomationSummary} :
    Prog.wp (attemptApproval delivery now order summary)
      (fun summary' _ => summary'.attempted = summary.attempted ++ [order]) (fun _ _ => True) s := by
  rw [attemptApproval, Prog.wp_onError, Prog.wp_bind]
  refine Prog.wp_mono (Q := fun _ _ => True) (X := fun _ _ => True) ?_ (fun _ _ _ => rfl) ?_
  · unfold Prog.wp
    split <;> trivial
  · intro h s' _
    cases h with
    | crashed => trivial
    | raised e => rfl

theorem wp_attemptApprovals (ids : List ℕ) (summary : AutomationSummary) :
    Prog.wp (Prog.forEach ids summary (attemptApproval delivery now))
      (fun summary' _ => summary'.attempted = summary.attempted ++ ids) (fun _ _ => True) s := by
  induction ids generalizing summary s with
  | nil => exact (List.append_nil _).symm
  | cons id ids ih =>
      rw [Prog.forEach, Prog.wp_bind]
      refine Prog.wp_mono wp_attemptApproval (fun summary' s' h => ?_) fun _ _ _ => trivial
      refine Prog.wp_mono (ih summary') (fun summary'' _ h' => ?_) fun _ _ _ => trivial
      rw [h', h, List.append_assoc, List.singleton_append]

theorem wp_remindStores (ids : List ℕ) (summary : AutomationSummary) :
    Prog.wp (Prog.forEach ids summary (remindStore now sents))
      (fun summary' _ => summary'.attempted = summary.attempted) (fun _ _ => True) s := by
  induction ids generalizing summary s with
  | nil => rfl
  | cons id ids ih =>
      rw [Prog.forEach, Prog.wp_bind, remindStore, Prog.wp_onError, Prog.wp_bind]
      refine Prog.wp_mono (Q := fun _ _ => True) (X := fun _ _ => True) ?_ (fun _ _ _ => ih _) ?_
      · unfold Prog.wp
        split <;> trivial
      · intro h s' _
        cases h with
        | crashed => trivial
        | raised e => exact ih _

/-- A run attempts the approval of the candidates, whatever happens on the way. -/
theorem wp_processOrderAutomation :
    Prog.wp (processOrderAutomation delivery now limit sents)
      (fun summary _ => summary.attempted = approvalCandidates s.db limit) (fun _ _ => True) s := by
  rw [processOrderAutomation, Prog.wp_bind, Prog.wp_readDb, Prog.wp_bind]
  refine Prog.wp_mono (wp_attemptApprovals _ _) (fun summary s' h => ?_) fun _ _ _ => trivial
  rw [Prog.wp_bind, Prog.wp_readDb]
  refine Prog.wp_mono (wp_remindStores _ _) (fun summary' _ h' => ?_) fun _ _ _ => trivial
  rw [h', h, List.nil_append]

/-- A run and a call for reminders miss no due order, raise no stage backwards and leave the
audit alone when nothing is sent, exactly when no due order is crowded out of the rows that they
read: fewer than the limit come before it. -/
theorem due_orders_reached_iff (delivery : Delivery) (now : Instant) (limit : ℕ)
    (sents : ℕ → Except String ℕ) (sent : Except String ℕ) (store : ℕ) (s : Shop) :
    (Prog.wp (processOrderAutomation delivery now limit sents)
        (fun summary _ => summary.attempted = approvalCandidates s.db limit) (fun _ _ => True) s ∧
      ApprovesDue now limit s ∧ RemindsOfDue now sent store s ∧
      StagesKept s.db (sendReceiptReminders now sent store s).2.db ∧
      QuietCallKeeps now sent store s) ↔
    ApprovalsFit now limit s ∧ RemindersFit now sent store s := by
  rw [approvesDue_iff, remindsOfDue_iff]
  constructor
  · exact fun h => ⟨h.2.1, h.2.2.1⟩
  · exact fun h => ⟨wp_processOrderAutomation, h.1, h.2, stagesKept now sent store s,
      quietCallKeeps now sent store s⟩

/-! ## A crowded queue -/

/-- A receipt of a store that approves by the clock. -/
def receiptOf (pk : ℕ) (submitted : Instant) (suppressed : Bool) : Order where
  pk := pk
  store := some 1
  plan := 3
  paymentSubmittedAt := some submitted
  hasReceipt := true
  metadata := { suppressNewOrderNotification := suppressed }

/-- A suppressed receipt, and one that is due. -/
def crowdedShop : Shop where
  db :=
    { orders := (Table.empty.put (receiptOf 1 0 true)).put (receiptOf 2 1 false)
      sms := .empty
      clients := .empty
      inbounds := .empty
      panels := .empty
      plans := .empty
      stores := Table.empty.put
        { pk := 1, orderAutoApproveEnabled := true, orderAutoApproveEnabledAt := some 0 }
      automations := .empty }
  remote := {}

/-- With room for one order, a run attempts the suppressed receipt for ever. -/
theorem due_order_crowded_out :
    (acceptedOrders (minutes 60) crowdedShop).map (·.pk) = [2] ∧
      approvalCandidates crowdedShop.db 1 = [1] ∧ ¬ ApprovesDue (minutes 60) 1 crowdedShop := by
  have hdue : (acceptedOrders (minutes 60) crowdedShop).map (·.pk) = [2] := by decide +kernel
  have htaken : approvalCandidates crowdedShop.db 1 = [1] := by decide +kernel
  refine ⟨hdue, htaken, fun h => ?_⟩
  have hlength : (acceptedOrders (minutes 60) crowdedShop).length = 1 := by
    simpa using congrArg List.length hdue
  obtain ⟨o, ho, hpk⟩ : ∃ o ∈ acceptedOrders (minutes 60) crowdedShop, o.pk = 2 :=
    List.mem_map.mp (hdue ▸ List.mem_singleton.mpr rfl)
  have hmem := h hlength.le o ho
  rw [htaken, hpk] at hmem
  exact absurd hmem (by decide)

end Qasedak.Orders.Automation
