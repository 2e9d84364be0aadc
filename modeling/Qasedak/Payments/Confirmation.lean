import Qasedak.Payments.Matching
import Qasedak.Foundation.Run
import Mathlib.Data.Finset.Card
import Mathlib.Tactic.Choose

/-! `payments/views.py`: the webhook that stores a row for every SMS it accepts. -/

namespace Qasedak.Payments

open Foundation Store

/-- A delivery as the view reads it: the state of the token settings, the text it
extracts from the body, and the clock of the payment timezone. -/
structure WebhookRequest where
  tokenConfigured : Bool := true
  tokenAccepted : Bool := true
  text : List Char
  clock : JalaliClock

inductive WebhookResponse where
  /-- 503: "SMS webhook token is not configured." -/
  | notConfigured
  /-- 403: "Invalid webhook token." -/
  | invalidToken
  /-- 400: "SMS text was not provided." -/
  | noText
  /-- 400, with the message of the parse error. -/
  | unparsable (e : SMSParseError)
  /-- 200, with the key of the new row. -/
  | stored (sms : ℕ)
  deriving DecidableEq, Repr

/-- The row that a delivery creates. -/
def newSms (db : PaymentDb) (text : List Char) (parsed : ParsedPaymentSMS) : IncomingPaymentSMS :=
  { pk := db.sms.nextKey
    rawText := text
    amount := parsed.amount
    balance := parsed.balance
    smsDatetime := parsed.smsDatetime }

@[simp] theorem newSms_pk (db : PaymentDb) (text : List Char) (parsed : ParsedPaymentSMS) :
    (newSms db text parsed).pk = db.sms.nextKey := rfl

/-- `smsforwarder_webhook`. No step looks for an earlier row of the same text. -/
def smsforwarderWebhook (db : PaymentDb) (req : WebhookRequest) : WebhookResponse × PaymentDb :=
  if ¬ req.tokenConfigured then (.notConfigured, db)
  else if ¬ req.tokenAccepted then (.invalidToken, db)
  else if req.text = [] then (.noText, db)
  else match parsePaymentSms req.clock req.text with
    | .error e => (.unparsable e, db)
    | .ok parsed =>
        (.stored db.sms.nextKey,
          processIncomingPaymentSms
            { db with sms := db.sms.insert (newSms db req.text parsed) (newSms_pk ..) } db.sms.nextKey)

/-- A delivery that is not stored leaves the tables as they were. -/
theorem smsforwarderWebhook_refused {db : PaymentDb} {req : WebhookRequest}
    (h : ∀ k, (smsforwarderWebhook db req).1 ≠ .stored k) :
    (smsforwarderWebhook db req).2 = db := by
  unfold smsforwarderWebhook at h ⊢
  split_ifs at h ⊢ <;> try rfl
  cases hp : parsePaymentSms req.clock req.text with
  | error e => rfl
  | ok parsed =>
      rw [hp] at h
      exact absurd rfl (h db.sms.nextKey)

/-- A delivery that is stored adds one row under a fresh key, and changes no other. -/
theorem smsforwarderWebhook_stored {db : PaymentDb} {req : WebhookRequest} {k : ℕ}
    (h : (smsforwarderWebhook db req).1 = .stored k) :
    k = db.sms.nextKey ∧ (smsforwarderWebhook db req).2.orders = db.orders ∧
      ∀ j, j ≠ k → (smsforwarderWebhook db req).2.sms.get? j = db.sms.get? j := by
  unfold smsforwarderWebhook at h ⊢
  split_ifs at h ⊢
  cases hp : parsePaymentSms req.clock req.text with
  | error e => rw [hp] at h; cases h
  | ok parsed =>
      rw [hp] at h
      obtain rfl : db.sms.nextKey = k := by simpa using h
      refine ⟨rfl, rfl, fun j hj => ?_⟩
      simp only [processIncomingPaymentSms, Table.get?_modify, if_neg hj, Option.map_id']
      rw [Table.get?_insert, if_neg hj]

/-- An operation on the payment tables, in the order the requests arrive. -/
inductive PaymentOp where
  | deliver (req : WebhookRequest)
  | process (sms : ℕ)
  /-- `afterwards` is what the provisioning hook makes of the orders. -/
  | confirm (sms : ℕ) (order user : Option ℕ) (now : Instant) (afterwards : Orders → Orders)
  | dismiss (sms : ℕ)
  /-- The matched orders of a row are edited by hand. -/
  | editMatches (sms : ℕ) (orders : Finset ℕ)
  /-- Anything else the shop does to its orders. -/
  | shop (f : Orders → Orders)

/-- The payment tables with two journals: the rows that deliveries created, with their
text, and the orders that confirmations marked as paid, with the row they were for. -/
structure Ledger where
  db : PaymentDb
  received : List (ℕ × List Char) := []
  paid : List (ℕ × ℕ) := []

def step (l : Ledger) : PaymentOp → Ledger
  | .deliver req =>
      match smsforwarderWebhook l.db req with
      | (.stored k, db) => { l with db := db, received := (k, req.text) :: l.received }
      | (_, db) => { l with db := db }
  | .process sms => { l with db := processIncomingPaymentSms l.db sms }
  | .confirm sms order user now afterwards =>
      match confirmTransaction l.db sms order user now with
      | .error _ => l
      | .ok (.already _, db) => { l with db := db }
      | .ok (.paid k, db) =>
          { l with
            db := { db with orders := afterwards db.orders }
            paid := (sms, k) :: l.paid }
  | .dismiss sms => { l with db := dismissIncomingPaymentSms l.db sms }
  | .editMatches sms orders =>
      { l with
        db := { l.db with
          sms := l.db.sms.modify sms (fun s => { s with matchedOrders := orders }) (fun _ => rfl) } }
  | .shop f => { l with db := { l.db with orders := f l.db.orders } }

/-- The row exists and is `CONFIRMED`. -/
def IsConfirmed (t : Table IncomingPaymentSMS.pk) (sms : ℕ) : Prop :=
  ∃ s, t.get? sms = some s ∧ s.status = .confirmed

/-- At most one order was paid on behalf of the row. -/
def Ledger.PaysOneOrder (l : Ledger) (sms : ℕ) : Prop :=
  ∀ k k', (sms, k) ∈ l.paid → (sms, k') ∈ l.paid → k = k'

/-- The operation is no dismissal of a confirmed row. -/
def KeepsConfirmed (l : Ledger) (op : PaymentOp) : Prop :=
  ∀ sms, op = .dismiss sms → ¬ IsConfirmed l.db.sms sms

/-! ## Confirmed rows -/

/-- An update that turns no confirmed row into another status keeps a row confirmed. -/
theorem IsConfirmed.modify {t : Table IncomingPaymentSMS.pk} {sms j : ℕ}
    {f : IncomingPaymentSMS → IncomingPaymentSMS} (hf : ∀ s, (f s).pk = s.pk)
    (hkeep : ∀ s, s.status = .confirmed → (f s).status = .confirmed) (h : IsConfirmed t j) :
    IsConfirmed (t.modify sms f hf) j := by
  obtain ⟨s, hs, hst⟩ := h
  refine ⟨if j = sms then f s else s, ?_, ?_⟩
  · simp [Table.get?_modify, hs]
  · split
    · exact hkeep s hst
    · exact hst

theorem IsConfirmed.modify_ne {t : Table IncomingPaymentSMS.pk} {sms j : ℕ}
    {f : IncomingPaymentSMS → IncomingPaymentSMS} (hf : ∀ s, (f s).pk = s.pk) (hne : j ≠ sms)
    (h : IsConfirmed t j) : IsConfirmed (t.modify sms f hf) j := by
  obtain ⟨s, hs, hst⟩ := h
  exact ⟨s, by simp [Table.get?_modify, hs, hne], hst⟩

theorem IsConfirmed.smsforwarderWebhook {db : PaymentDb} {j : ℕ} (req : WebhookRequest)
    (h : IsConfirmed db.sms j) : IsConfirmed (smsforwarderWebhook db req).2.sms j := by
  cases hw : (Payments.smsforwarderWebhook db req).1 with
  | stored k =>
      obtain ⟨hk, -, hrest⟩ := smsforwarderWebhook_stored hw
      obtain ⟨s, hs, hst⟩ := h
      have hlt : j < db.sms.nextKey := by
        obtain ⟨hmem, rfl⟩ := Table.mem_of_get? hs
        exact Table.lt_nextKey hmem
      exact ⟨s, by rw [hrest j (by omega), hs], hst⟩
  | _ => rwa [smsforwarderWebhook_refused (by simp [hw])]

theorem IsConfirmed.confirmTransaction {db db' : PaymentDb} {sms j : ℕ}
    {order user : Option ℕ} {now : Instant} {c : Confirmation}
    (hc : confirmTransaction db sms order user now = .ok (c, db'))
    (h : IsConfirmed db.sms j) : IsConfirmed db'.sms j := by
  cases c with
  | already k =>
      rw [confirmTransaction_already hc]
      exact h
  | paid k =>
      obtain ⟨-, -, -, -, -, -, -, -, hsms⟩ := confirmTransaction_paid hc
      rw [hsms]
      exact h.modify _ (fun _ _ => rfl)

/-- The tables of SMS rows and the journal of paid orders after a confirmation. -/
theorem step_confirm (l : Ledger) (sms : ℕ) (order user : Option ℕ) (now : Instant)
    (afterwards : Orders → Orders) :
    step l (.confirm sms order user now afterwards) = l ∨
      (∃ k db, confirmTransaction l.db sms order user now = .ok (.already k, db) ∧
        step l (.confirm sms order user now afterwards) = { l with db := db }) ∨
      ∃ k db, confirmTransaction l.db sms order user now = .ok (.paid k, db) ∧
        step l (.confirm sms order user now afterwards) =
          { l with
            db := { db with orders := afterwards db.orders }
            paid := (sms, k) :: l.paid } := by
  cases hc : confirmTransaction l.db sms order user now with
  | error e => exact .inl (by simp [step, hc])
  | ok r =>
      obtain ⟨c, db⟩ := r
      cases c with
      | already k => exact .inr (.inl ⟨k, db, rfl, by simp [step, hc]⟩)
      | paid k => exact .inr (.inr ⟨k, db, rfl, by simp [step, hc]⟩)

/-- The tables after a delivery, whatever the answer of the webhook. -/
theorem step_deliver (l : Ledger) (req : WebhookRequest) :
    (step l (.deliver req)).db = (smsforwarderWebhook l.db req).2 ∧
      (step l (.deliver req)).paid = l.paid := by
  rcases h : smsforwarderWebhook l.db req with ⟨response, db⟩
  cases response <;> simp [step, h]

/-- Every operation but the dismissal of a row keeps it confirmed. -/
theorem step_isConfirmed {l : Ledger} {op : PaymentOp} (hop : KeepsConfirmed l op) {j : ℕ}
    (h : IsConfirmed l.db.sms j) : IsConfirmed (step l op).db.sms j := by
  cases op with
  | deliver req =>
      rw [(step_deliver l req).1]
      exact h.smsforwarderWebhook req
  | process sms =>
      refine h.modify (processRow_pk l.db.orders) fun s hs => ?_
      rw [processRow_of_confirmed hs, hs]
  | confirm sms order user now afterwards =>
      rcases step_confirm l sms order user now afterwards with
        hst | ⟨k, db, hc, hst⟩ | ⟨k, db, hc, hst⟩
      · rwa [hst]
      · rw [hst]
        exact h.confirmTransaction hc
      · rw [hst]
        change IsConfirmed db.sms j
        exact h.confirmTransaction hc
  | dismiss sms =>
      have hne : j ≠ sms := fun hj => hop sms rfl (hj ▸ h)
      exact h.modify_ne (f := fun s => { s with status := .dismissed }) (fun _ => rfl) hne
  | editMatches sms orders =>
      exact h.modify (f := fun s => { s with matchedOrders := orders }) (fun _ => rfl)
        (fun _ hs => hs)
  | shop f => exact h

/-! ## The invariant -/

/-- A row that paid for an order is confirmed, and paid for no second one. -/
structure Ledger.Sound (l : Ledger) : Prop where
  confirmed : ∀ sms k, (sms, k) ∈ l.paid → IsConfirmed l.db.sms sms
  single : ∀ sms, l.PaysOneOrder sms

theorem Ledger.sound_of_paid_nil {l : Ledger} (h : l.paid = []) : l.Sound where
  confirmed := by simp [h]
  single := by simp [Ledger.PaysOneOrder, h]

/-- An operation pays for at most one order, on behalf of a row that was not confirmed. -/
theorem step_paid (l : Ledger) (op : PaymentOp) :
    (step l op).paid = l.paid ∨
      ∃ sms k, (step l op).paid = (sms, k) :: l.paid ∧ ¬ IsConfirmed l.db.sms sms ∧
        IsConfirmed (step l op).db.sms sms := by
  cases op with
  | deliver req => exact .inl (step_deliver l req).2
  | confirm sms order user now afterwards =>
      rcases step_confirm l sms order user now afterwards with
        hst | ⟨k, db, hc, hst⟩ | ⟨k, db, hc, hst⟩
      · exact .inl (by rw [hst])
      · exact .inl (by rw [hst])
      · obtain ⟨s, o, hs, hnew, -, -, -, -, hsms⟩ := confirmTransaction_paid hc
        refine .inr ⟨sms, k, by rw [hst], ?_, ?_⟩
        · rintro ⟨s', hs', hst'⟩
          obtain rfl : s = s' := by simpa [hs] using hs'
          exact hnew hst'
        · rw [hst]
          exact ⟨{ s with status := .confirmed, matchedOrders := insert k s.matchedOrders },
            by rw [hsms, Table.get?_modify, hs]; simp, rfl⟩
  | _ => exact .inl rfl

theorem step_sound {l : Ledger} {op : PaymentOp} (h : l.Sound) (hop : KeepsConfirmed l op) :
    (step l op).Sound := by
  rcases step_paid l op with hpaid | ⟨sms, k, hpaid, hnew, hnow⟩
  · refine ⟨fun j i hj => ?_, fun j => ?_⟩
    · rw [hpaid] at hj
      exact step_isConfirmed hop (h.confirmed j i hj)
    · simpa only [Ledger.PaysOneOrder, hpaid] using h.single j
  · refine ⟨fun j i hj => ?_, fun j a b ha hb => ?_⟩
    · rw [hpaid, List.mem_cons, Prod.mk.injEq] at hj
      rcases hj with ⟨rfl, rfl⟩ | hj
      · exact hnow
      · exact step_isConfirmed hop (h.confirmed j i hj)
    · rw [hpaid, List.mem_cons, Prod.mk.injEq] at ha hb
      -- The new entry is for a row that no earlier entry can be for.
      have hfresh : ∀ i, (sms, i) ∉ l.paid := fun i hi => hnew (h.confirmed sms i hi)
      rcases ha with ⟨rfl, rfl⟩ | ha <;> rcases hb with ⟨hjb, rfl⟩ | hb
      · rfl
      · exact absurd hb (hfresh b)
      · exact absurd (hjb ▸ ha) (hfresh a)
      · exact h.single j a b ha hb

theorem run_sound {l : Ledger} {ops : List PaymentOp} (hl : l.paid = [])
    (hops : Guarded step KeepsConfirmed l ops) : (run step l ops).Sound :=
  hops.invariant (fun _ _ h hop => step_sound h hop) (Ledger.sound_of_paid_nil hl)

/-! ## One row pays for one order -/

/-- In a run that dismisses no confirmed row, every row pays for at most one order,
whatever is matched, chosen, reprocessed and edited in between. -/
theorem sms_pays_one_order {l : Ledger} {ops : List PaymentOp} (hl : l.paid = [])
    (hops : Guarded step KeepsConfirmed l ops) (sms : ℕ) :
    (run step l ops).PaysOneOrder sms :=
  (run_sound hl hops).single sms

/-- Two orders of one amount, and an unprocessed SMS that matches both. -/
def twoOrders : PaymentDb where
  orders := ⟨[{ pk := 1, plan := 1, amount := 4830000 }, { pk := 2, plan := 1, amount := 4830000 }],
    by decide⟩
  sms := ⟨[{ pk := 1, rawText := [], amount := 4830000, balance := 0, smsDatetime := 0 }], by decide⟩

theorem sms_pays_one_order_twoOrders :
    (run step { db := twoOrders }
      [.process 1, .confirm 1 (some 1) none 0 id, .process 1, .confirm 1 (some 2) none 0 id]).PaysOneOrder 1 :=
  sms_pays_one_order rfl (by simp [KeepsConfirmed]) 1

/-- A dismissal reopens a confirmed row: the next confirmation pays for a second order. -/
theorem dismissed_sms_pays_again :
    ¬ ∀ (l : Ledger) (ops : List PaymentOp) (sms : ℕ), l.paid = [] →
      (run step l ops).PaysOneOrder sms := by
  intro h
  have h12 := h { db := twoOrders }
    [.process 1, .confirm 1 (some 1) none 0 id, .dismiss 1, .confirm 1 (some 2) none 0 id] 1 rfl
    1 2 (by decide) (by decide)
  omega

/-! ## Redelivery -/

/-- The orders that rows delivered with this text have paid for. -/
def Ledger.ordersPaidBy (l : Ledger) (text : List Char) : Finset ℕ :=
  ((l.paid.filter fun p => (p.1, text) ∈ l.received).map Prod.snd).toFinset

/-- The operation delivers this text. -/
def delivers (text : List Char) : PaymentOp → Bool
  | .deliver req => req.text = text
  | _ => false

theorem step_received (l : Ledger) (op : PaymentOp) (text : List Char) :
    ((step l op).received.filter (·.2 = text)).length ≤
      (l.received.filter (·.2 = text)).length + if delivers text op then 1 else 0 := by
  cases op with
  | deliver req =>
      rcases h : smsforwarderWebhook l.db req with ⟨response, db⟩
      by_cases ht : req.text = text <;>
        cases response <;> simp [step, h, delivers, ht]
  | confirm sms order user now afterwards =>
      rcases step_confirm l sms order user now afterwards with
        hst | ⟨k, db, -, hst⟩ | ⟨k, db, -, hst⟩ <;> rw [hst] <;> simp [delivers]
  | _ => simp [step, delivers]

theorem run_received (l : Ledger) (ops : List PaymentOp) (text : List Char) :
    ((run step l ops).received.filter (·.2 = text)).length ≤
      (l.received.filter (·.2 = text)).length + ops.countP (delivers text) := by
  induction ops generalizing l with
  | nil => simp
  | cons op ops ih =>
      rw [run_cons, List.countP_cons]
      have hstep := step_received l op text
      have hrest := ih (step l op)
      omega

/-- Rows pay for one order each, so the orders paid by a text are no more than its rows. -/
theorem Ledger.Sound.card_ordersPaidBy_le {l : Ledger} (h : l.Sound) (text : List Char) :
    (l.ordersPaidBy text).card ≤ (l.received.filter (·.2 = text)).length := by
  -- Each order paid is named by the row that paid for it.
  have hrows : ∀ k ∈ l.ordersPaidBy text,
      ∃ sms, (sms, k) ∈ l.paid ∧ (sms, text) ∈ l.received := by
    intro k hk
    simp only [Ledger.ordersPaidBy, List.mem_toFinset, List.mem_map, List.mem_filter,
      decide_eq_true_eq] at hk
    obtain ⟨⟨sms, k'⟩, ⟨hpaid, hrec⟩, rfl⟩ := hk
    exact ⟨sms, hpaid, hrec⟩
  choose! row hrow using hrows
  have hinj : Set.InjOn row (l.ordersPaidBy text) := by
    intro a ha b hb hab
    have hb' := (hrow b hb).1
    rw [← hab] at hb'
    exact h.single _ a b (hrow a ha).1 hb'
  have hmaps : ∀ k ∈ l.ordersPaidBy text,
      row k ∈ ((l.received.filter (·.2 = text)).map Prod.fst).toFinset := by
    intro k hk
    simp only [List.mem_toFinset, List.mem_map, List.mem_filter, decide_eq_true_eq]
    exact ⟨(row k, text), ⟨(hrow k hk).2, rfl⟩, rfl⟩
  calc (l.ordersPaidBy text).card
      ≤ ((l.received.filter (·.2 = text)).map Prod.fst).toFinset.card :=
        Finset.card_le_card_of_injOn row hmaps hinj
    _ ≤ ((l.received.filter (·.2 = text)).map Prod.fst).length := List.toFinset_card_le _
    _ = (l.received.filter (·.2 = text)).length := by rw [List.length_map]

/-- Deliveries of one text pay for at most one order each. -/
theorem redelivery_pays_once_per_row {l : Ledger} {ops : List PaymentOp} (hl : l.paid = [])
    (hrec : l.received = []) (hops : Guarded step KeepsConfirmed l ops) (text : List Char) :
    ((run step l ops).ordersPaidBy text).card ≤ ops.countP (delivers text) := by
  refine (run_sound hl hops).card_ordersPaidBy_le text |>.trans ?_
  simpa [hrec] using run_received l ops text

/-- A deposit SMS as the bank sends it. -/
def sampleSms : List Char :=
  "بلو\nواریز پول\nمشتری عزیز، 4,830,000 ریال به حساب شما نشست.\nموجودی: 109,609,358 ریال\n۱۸:۵۶\n۱۴۰۵.۰۲.۱۴".toList

/-- The minute that `sampleSms` names, in Tehran. -/
def sampleClock : JalaliClock := fun year month day hour minute =>
  if year = 1405 ∧ month = 2 ∧ day = 14 ∧ hour = 18 ∧ minute = 56 then some 1777908360000000
  else none

/-- Two orders of the deposited amount, created ten minutes before it. -/
def ordersBefore : PaymentDb where
  orders := ⟨[{ pk := 1, plan := 1, amount := 4830000, createdAt := 1777907760000000 },
    { pk := 2, plan := 1, amount := 4830000, createdAt := 1777907760000001 }], by decide⟩
  sms := Table.empty

/-- Two deliveries of the SMS, and a confirmation of each row with an order of its own. -/
def redelivery : List PaymentOp :=
  [.deliver { text := sampleSms, clock := sampleClock },
    .deliver { text := sampleSms, clock := sampleClock },
    .confirm 0 (some 1) none 0 id, .confirm 1 (some 2) none 0 id]

theorem redelivery_pays_once_per_row_sampleSms :
    ((run step { db := ordersBefore } redelivery).ordersPaidBy sampleSms).card ≤
      redelivery.countP (delivers sampleSms) :=
  redelivery_pays_once_per_row rfl rfl (by simp [redelivery, KeepsConfirmed]) sampleSms

/-- Two deliveries of one SMS pay for two orders. -/
theorem redelivered_sms_pays_twice :
    ¬ ∀ (l : Ledger) (ops : List PaymentOp) (text : List Char), l.paid = [] → l.received = [] →
      Guarded step KeepsConfirmed l ops → ((run step l ops).ordersPaidBy text).card ≤ 1 := by
  intro h
  have hone := h { db := ordersBefore } redelivery sampleSms rfl rfl
    (by simp [redelivery, KeepsConfirmed])
  have htwo : ((run step { db := ordersBefore } redelivery).ordersPaidBy sampleSms).card = 2 := by
    decide +kernel
  omega

end Qasedak.Payments
