import Qasedak.Foundation.Run
import Qasedak.Orders.Checkout

/-! The quota of a discount code over all checkouts: every use is that of an order, or of a call
that still holds it. -/

namespace Qasedak.Orders

open Foundation Store Panels

/-! ## The books of a code -/

/-- `used_count` of a code. -/
def usedCount (db : Db) (code : ℕ) : ℕ := ((db.discounts.get? code).map (·.usedCount)).getD 0

/-- The orders that were committed with a code. -/
def ordersWith (db : Db) (code : ℕ) : ℕ := db.orders.rows.countP (·.discountCode = some code)

/-- A call holds a use of the code. -/
def Reserves (reservation : Option Reservation) (code : ℕ) : Bool :=
  reservation.any (·.code = code)

def ManualPhase.reservation : ManualPhase → Option Reservation
  | .preparing reservation | .placing reservation _ => reservation
  | _ => none

def RenewalPhase.reservation : RenewalPhase → Option Reservation
  | .placing _ _ _ reservation => reservation
  | _ => none

def CheckoutCall.reservation : CheckoutCall → Option Reservation
  | .manual _ phase => phase.reservation
  | .renewal _ phase => phase.reservation

/-- The uses that calls in flight hold. -/
def usesHeld (calls : List CheckoutCall) (code : ℕ) : ℕ :=
  calls.countP fun c => Reserves c.reservation code

variable {platform : Platform} {now : Instant} {e : Event} {db db' db'' : Db} {n : ℕ}
  {before after reservation : Option Reservation}

/-- One step of a call moves a use: from the code to the call, from the call to its order, or
back to the code. -/
structure MovesUse (db db' : Db) (before after : Option Reservation) : Prop where
  balance : ∀ n, usedCount db' n + ordersWith db n + (Reserves before n).toNat =
    usedCount db n + ordersWith db' n + (Reserves after n).toNat
  orders : ∀ n, ordersWith db n ≤ ordersWith db' n
  limit : ∀ n d', db'.discounts.get? n = some d' → ∃ d, db.discounts.get? n = some d ∧
    d'.maxUsage = d.maxUsage ∧
      (d'.usedCount ≤ d.usedCount ∨ ∀ m, d.maxUsage = some m → d'.usedCount ≤ m)

theorem MovesUse.refl (db : Db) (reservation : Option Reservation) :
    MovesUse db db reservation reservation :=
  ⟨fun _ => rfl, fun _ => le_rfl, fun _ d hd => ⟨d, hd, rfl, .inl le_rfl⟩⟩

theorem usedCount_setDiscount {d : DiscountCode} (hd : d ∈ db.discounts.rows)
    (f : DiscountCode → DiscountCode) (hf : ∀ d, (f d).pk = d.pk) (n : ℕ) :
    usedCount (db.setDiscount d.pk f hf) n =
      if n = d.pk then (f d).usedCount else usedCount db n := by
  have hrow : db.discounts.get? d.pk = some d := Table.get?_eq_some_iff.mpr ⟨hd, rfl⟩
  rw [usedCount, usedCount, Db.setDiscount, Table.get?_modify]
  by_cases hn : n = d.pk
  · subst hn
    simp [hrow]
  · simp [hn]

theorem limit_setDiscount {d : DiscountCode} {f : DiscountCode → DiscountCode}
    (hf : ∀ d, (f d).pk = d.pk) (hd : d ∈ db.discounts.rows)
    (hmax : (f d).maxUsage = d.maxUsage)
    (hused : (f d).usedCount ≤ d.usedCount ∨ ∀ m, d.maxUsage = some m → (f d).usedCount ≤ m)
    (n : ℕ) (d' : DiscountCode)
    (hd' : (db.setDiscount d.pk f hf).discounts.get? n = some d') :
    ∃ c, db.discounts.get? n = some c ∧ d'.maxUsage = c.maxUsage ∧
      (d'.usedCount ≤ c.usedCount ∨ ∀ m, c.maxUsage = some m → d'.usedCount ≤ m) := by
  rw [Db.setDiscount, Table.get?_modify] at hd'
  obtain ⟨c, hc, rfl⟩ := Option.map_eq_some_iff.mp hd'
  refine ⟨c, hc, ?_⟩
  by_cases hn : n = d.pk
  · obtain rfl : c = d :=
      List.inj_on_of_nodup_map db.discounts.keys_nodup (Table.mem_of_get? hc).1 hd
        ((Table.mem_of_get? hc).2.trans hn)
    rw [if_pos hn]
    exact ⟨hmax, hused⟩
  · rw [if_neg hn]
    exact ⟨rfl, .inl le_rfl⟩

/-- A reservation takes a use, within the limit. -/
theorem MovesUse.of_reserve {plan : Plan} {code : String} {customer : Option ℕ} {quantity : ℕ}
    (h : reserveDiscountUsage now plan code customer quantity db = .ok (reservation, db')) :
    MovesUse db db' none reservation := by
  rcases reserveDiscountUsage_ok h with ⟨rfl, rfl⟩ | ⟨d, r, rfl, hcode, hd, husage, rfl⟩
  · exact MovesUse.refl db' none
  · refine ⟨fun n => ?_, fun _ => le_rfl, limit_setDiscount _ hd rfl (.inr fun m hm => ?_)⟩
    · have hsame : ordersWith (db.setDiscount d.pk DiscountCode.reserved
          DiscountCode.reserved_pk) n = ordersWith db n := rfl
      have hrow : db.discounts.get? d.pk = some d := Table.get?_eq_some_iff.mpr ⟨hd, rfl⟩
      rw [usedCount_setDiscount hd, hsame]
      by_cases hn : n = d.pk
      · have hused : usedCount db d.pk = d.usedCount := by simp [usedCount, hrow]
        subst hn
        simp [Reserves, hcode, hused, DiscountCode.reserved]
        omega
      · have hother : ¬ d.pk = n := fun heq => hn heq.symm
        simp [Reserves, hcode, hn, hother]
    · rw [DiscountCode.hasUsageAvailable, hm] at husage
      exact of_decide_eq_true husage

/-- A release gives the use of a call back. -/
theorem MovesUse.of_release
    (hpos : ∀ r, reservation = some r → 0 < usedCount db r.code) :
    MovesUse db (releaseDiscountUsage db reservation) reservation none := by
  cases reservation with
  | none => exact MovesUse.refl db none
  | some r =>
      have hused := hpos r rfl
      cases hrow : db.discounts.get? r.code with
      | none => simp [usedCount, hrow] at hused
      | some d =>
          obtain ⟨hd, hpk⟩ := Table.mem_of_get? hrow
          have hcount : usedCount db d.pk = d.usedCount := by simp [usedCount, hpk, hrow]
          rw [← hpk, hcount] at hused
          have hrelease : releaseDiscountUsage db (some r) =
              db.setDiscount d.pk DiscountCode.released DiscountCode.released_pk := by
            rw [hpk]
            rfl
          rw [hrelease]
          refine ⟨fun n => ?_, fun _ => le_rfl,
            limit_setDiscount _ hd rfl (.inl (Nat.sub_le _ _))⟩
          have hsame : ordersWith (db.setDiscount d.pk DiscountCode.released
              DiscountCode.released_pk) n = ordersWith db n := rfl
          rw [usedCount_setDiscount hd, hsame]
          by_cases hn : n = d.pk
          · subst hn
            simp [Reserves, ← hpk, hcount, DiscountCode.released]
            omega
          · have hother : ¬ r.code = n := fun heq => hn (heq.symm.trans hpk.symm)
            simp [Reserves, hn, hother]

/-- An order that is committed takes the use of its call over. -/
theorem MovesUse.of_order {o : Order} (hdiscounts : db'.discounts = db.discounts)
    (horders : db'.orders.rows = db.orders.rows ++ [o])
    (ho : o.discountCode = reservation.map (·.code)) : MovesUse db db' reservation none := by
  have hcount : ∀ n, ordersWith db' n = ordersWith db n + (Reserves reservation n).toNat := by
    intro n
    rw [ordersWith, horders, List.countP_append, ← ordersWith, List.countP_singleton, ho]
    cases reservation with
    | none => simp [Reserves]
    | some r => by_cases hn : r.code = n <;> simp [Reserves, hn]
  have hused : ∀ n, usedCount db' n = usedCount db n := fun n => by
    rw [usedCount, hdiscounts, usedCount]
  refine ⟨fun n => ?_, fun n => ?_, fun n d' hd' => ?_⟩
  · rw [hcount, hused]
    simp [Reserves]
    omega
  · rw [hcount]
    omega
  · rw [hdiscounts] at hd'
    exact ⟨d', hd', rfl, .inl le_rfl⟩

theorem markCustomerRewardUsed_discounts (db : Db) (customer : Option ℕ)
    (reservation : Option Reservation) :
    (markCustomerRewardUsed db customer reservation).discounts = db.discounts ∧
      (markCustomerRewardUsed db customer reservation).orders = db.orders := by
  unfold markCustomerRewardUsed
  split <;> exact ⟨rfl, rfl⟩

theorem addInactiveClient_discounts (db : Db) (o : Order) (r : PaymentRequest) (p : Prepared) :
    (db.addInactiveClient o r p).discounts = db.discounts ∧
      (db.addInactiveClient o r p).orders = db.orders := by
  unfold Db.addInactiveClient
  cases p.clientResult with
  | none => exact ⟨rfl, rfl⟩
  | some result => cases p.inbound <;> exact ⟨rfl, rfl⟩

theorem MovesUse.placeManualOrder (r : PaymentRequest) (p : Prepared) :
    MovesUse db (placeManualOrder now r p reservation db) reservation none := by
  rw [Orders.placeManualOrder]
  set o := manualPaymentOrder db.orders.nextKey now r p reservation with ho
  have hreward := markCustomerRewardUsed_discounts ((db.addOrder o rfl).addInactiveClient o r p)
    r.customer reservation
  have hclient := addInactiveClient_discounts (db.addOrder o rfl) o r p
  refine MovesUse.of_order (o := o) ?_ ?_ rfl
  · rw [hreward.1, hclient.1]
    rfl
  · rw [hreward.2, hclient.2]
    rfl

theorem MovesUse.placeRenewalOrder (p : Prepared) (r : RenewalRequest) (plan : Plan)
    (delivered : Order) (store : Option ℕ) :
    MovesUse db (placeRenewalOrder now p r plan delivered store reservation db) reservation
      none := by
  rw [Orders.placeRenewalOrder]
  set o := renewalCheckoutOrder db.orders.nextKey now p r plan delivered store reservation with ho
  have hreward := markCustomerRewardUsed_discounts (db.addOrder o rfl) r.customer reservation
  refine MovesUse.of_order (o := o) ?_ ?_ rfl
  · rw [hreward.1]
    rfl
  · rw [hreward.2]
    rfl

/-! ## One step of a call -/

/-- The step loses track of a use: an exception that no handler of the function takes back, the
death of the process, or an exception in the hooks of a commit. -/
def ManualPhase.LosesUse (e : Event) : ManualPhase → Prop
  | .preparing (some _) => e.outcome = .storageFailed ∨ e.outcome = .raised ∨ e.outcome = .died
  | .placing (some _) _ => e.outcome = .died
  | .notifying (some _) _ => e.outcome ≠ .done ∧ e.outcome ≠ .died
  | _ => False

def RenewalPhase.LosesUse (e : Event) : RenewalPhase → Prop
  | .placing _ _ _ (some _) => e.outcome = .died
  | .notifying (some _) _ => e.outcome ≠ .done ∧ e.outcome ≠ .died
  | _ => False

def CheckoutCall.LosesUse (e : Event) : CheckoutCall → Prop
  | .manual _ phase => phase.LosesUse e
  | .renewal _ phase => phase.LosesUse e

/-- A step that is done loses no use. -/
theorem not_losesUse_of_done (h : e.outcome = .done) (c : CheckoutCall) : ¬ c.LosesUse e := by
  intro hloses
  cases c with
  | manual r phase =>
      cases phase with
      | preparing reservation =>
          cases reservation <;> simp [CheckoutCall.LosesUse, ManualPhase.LosesUse, h] at hloses
      | placing reservation p =>
          cases reservation <;> simp [CheckoutCall.LosesUse, ManualPhase.LosesUse, h] at hloses
      | notifying reservation order =>
          cases reservation <;> simp [CheckoutCall.LosesUse, ManualPhase.LosesUse, h] at hloses
      | _ => exact hloses
  | renewal r phase =>
      cases phase with
      | placing plan delivered store reservation =>
          cases reservation <;> simp [CheckoutCall.LosesUse, RenewalPhase.LosesUse, h] at hloses
      | notifying reservation order =>
          cases reservation <;> simp [CheckoutCall.LosesUse, RenewalPhase.LosesUse, h] at hloses
      | _ => exact hloses

variable {d : Desk}

theorem leaveManual_moves {outcome : Outcome} (hdone : outcome ≠ .done) (hdied : outcome ≠ .died)
    (hpos : ∀ r, reservation = some r → 0 < usedCount d.db r.code) :
    MovesUse d.db (leaveManual d reservation outcome).2.db reservation
      (leaveManual d reservation outcome).1.reservation := by
  cases outcome with
  | done => exact absurd rfl hdone
  | died => exact absurd rfl hdied
  | invalid message => exact MovesUse.of_release hpos
  | storageFailed => exact MovesUse.of_release hpos
  | raised => exact MovesUse.of_release hpos

/-- A step of a manual checkout that loses no use moves it. -/
theorem manualStep_moves {r : PaymentRequest} {phase : ManualPhase} (hkeeps : ¬ phase.LosesUse e)
    (hpos : ∀ r, phase.reservation = some r → 0 < usedCount d.db r.code) :
    MovesUse d.db (manualStep platform now e r d phase).2.db phase.reservation
      (manualStep platform now e r d phase).1.reservation := by
  have hsame := MovesUse.refl d.db none
  cases phase with
  | looking =>
      unfold manualStep
      cases e.outcome <;> cases findSimilarPendingOrder now r d.db <;> exact hsame
  | locking =>
      unfold manualStep
      cases e.outcome with
      | done =>
          dsimp only
          split <;> exact hsame
      | _ => exact hsame
  | rechecking =>
      unfold manualStep
      cases e.outcome <;> cases findSimilarPendingOrder now r d.db <;> exact hsame
  | reserving =>
      unfold manualStep
      cases e.outcome with
      | done =>
          dsimp only
          cases hreserve : reserveDiscountUsage now r.plan r.discountCode r.customer r.quantity
              d.db with
          | error message => exact hsame
          | ok reserved => exact MovesUse.of_reserve hreserve
      | _ => exact hsame
  | preparing reservation =>
      cases reservation with
      | none =>
          unfold manualStep
          cases e.outcome <;> exact hsame
      | some held =>
          rw [ManualPhase.LosesUse, not_or, not_or] at hkeeps
          unfold manualStep
          cases houtcome : e.outcome with
          | done => exact MovesUse.refl d.db _
          | invalid message => exact MovesUse.of_release hpos
          | storageFailed => exact absurd houtcome hkeeps.1
          | raised => exact absurd houtcome hkeeps.2.1
          | died => exact absurd houtcome hkeeps.2.2
  | placing reservation prepared =>
      unfold manualStep
      cases houtcome : e.outcome with
      | done => exact MovesUse.placeManualOrder r prepared
      | died =>
          cases reservation with
          | none => exact hsame
          | some held => exact absurd houtcome hkeeps
      | _ => exact leaveManual_moves (by simp) (by simp) hpos
  | notifying reservation order =>
      cases reservation with
      | none =>
          unfold manualStep
          cases e.outcome <;> exact hsame
      | some held =>
          rw [ManualPhase.LosesUse, not_and_not_right] at hkeeps
          unfold manualStep
          by_cases hdone : e.outcome = .done
          · rw [hdone]
            exact hsame
          · rw [hkeeps hdone]
            exact hsame
  | leaving result =>
      unfold manualStep
      cases e.outcome <;> exact hsame
  | «over» result => exact hsame
  | dead => exact hsame

theorem leaveRenewal_moves {outcome : Outcome} (hdone : outcome ≠ .done) (hdied : outcome ≠ .died)
    (hpos : ∀ r, reservation = some r → 0 < usedCount d.db r.code) :
    MovesUse d.db (leaveRenewal d reservation outcome).2.db reservation
      (leaveRenewal d reservation outcome).1.reservation := by
  cases outcome with
  | done => exact absurd rfl hdone
  | died => exact absurd rfl hdied
  | invalid message => exact MovesUse.of_release hpos
  | storageFailed => exact MovesUse.of_release hpos
  | raised => exact MovesUse.of_release hpos

theorem renewalStep_moves {r : RenewalRequest} {phase : RenewalPhase} (hkeeps : ¬ phase.LosesUse e)
    (hpos : ∀ r, phase.reservation = some r → 0 < usedCount d.db r.code) :
    MovesUse d.db (renewalStep now e r d phase).2.db phase.reservation
      (renewalStep now e r d phase).1.reservation := by
  have hsame := MovesUse.refl d.db none
  cases phase with
  | checking =>
      unfold renewalStep
      cases e.outcome <;> cases renewalTerms r d.db <;> exact hsame
  | reserving plan delivered store =>
      unfold renewalStep
      cases e.outcome with
      | done =>
          dsimp only
          cases hreserve : reserveDiscountUsage now plan r.discountCode r.customer 1 d.db with
          | error message => exact hsame
          | ok reserved => exact MovesUse.of_reserve hreserve
      | _ => exact hsame
  | placing plan delivered store reservation =>
      unfold renewalStep
      cases houtcome : e.outcome with
      | done => exact MovesUse.placeRenewalOrder e.prepared r plan delivered store
      | died =>
          cases reservation with
          | none => exact hsame
          | some held => exact absurd houtcome hkeeps
      | _ => exact leaveRenewal_moves (by simp) (by simp) hpos
  | notifying reservation order =>
      cases reservation with
      | none =>
          unfold renewalStep
          cases e.outcome <;> exact hsame
      | some held =>
          rw [RenewalPhase.LosesUse, not_and_not_right] at hkeeps
          unfold renewalStep
          by_cases hdone : e.outcome = .done
          · rw [hdone]
            exact hsame
          · rw [hkeeps hdone]
            exact hsame
  | «over» result => exact hsame
  | dead => exact hsame

theorem callStep_moves {c : CheckoutCall} (hkeeps : ¬ c.LosesUse e)
    (hpos : ∀ r, c.reservation = some r → 0 < usedCount d.db r.code) :
    MovesUse d.db (c.step platform now e d).2.db c.reservation
      (c.step platform now e d).1.reservation := by
  cases c with
  | manual r phase => exact manualStep_moves hkeeps hpos
  | renewal r phase => exact renewalStep_moves hkeeps hpos

/-! ## All checkouts -/

/-- The books of all codes since the state `s₀`. -/
structure QuotaExact (s₀ s : Checkouts) : Prop where
  exact : ∀ code, usedCount s.desk.db code + ordersWith s₀.desk.db code =
    usedCount s₀.desk.db code + ordersWith s.desk.db code + usesHeld s.calls code
  within : ∀ code d, s.desk.db.discounts.get? code = some d → ∀ m, d.maxUsage = some m →
    d.usedCount ≤ max m (usedCount s₀.desk.db code)

/-- The invariant: the books are in order, orders stay, and no code changes its limit. -/
structure QuotaKept (s₀ s : Checkouts) : Prop extends QuotaExact s₀ s where
  orders : ∀ code, ordersWith s₀.desk.db code ≤ ordersWith s.desk.db code

/-- No step loses track of a use. -/
def KeepsUses (s : Checkouts) : CheckoutOp → Prop
  | .manualPayment _ | .renewal _ => True
  | .advance j _ e => ∀ c, s.calls[j]? = some c → ¬ c.LosesUse e

theorem QuotaKept.newCall {s₀ s : Checkouts} {c : CheckoutCall} (h : QuotaKept s₀ s)
    (hc : c.reservation = none) : QuotaKept s₀ { s with calls := s.calls ++ [c] } where
  exact code := by
    have hheld : usesHeld (s.calls ++ [c]) code = usesHeld s.calls code := by
      simp [usesHeld, hc, Reserves]
    change _ = _ + usesHeld (s.calls ++ [c]) code
    rw [hheld]
    exact h.exact code
  within := h.within
  orders := h.orders

theorem quotaKept_checkoutStep {s₀ s : Checkouts} {op : CheckoutOp} (h : QuotaKept s₀ s)
    (hop : KeepsUses s op) : QuotaKept s₀ (checkoutStep platform s op) := by
  cases op with
  | manualPayment r => exact h.newCall rfl
  | renewal r => exact h.newCall rfl
  | advance j now e =>
      rw [checkoutStep]
      cases hc : s.calls[j]? with
      | none => exact h
      | some c =>
          have hmem : c ∈ s.calls := List.mem_of_getElem? hc
          have hpos : ∀ r, c.reservation = some r → 0 < usedCount s.desk.db r.code := by
            intro r hr
            have hheld : 0 < usesHeld s.calls r.code :=
              List.countP_pos_iff.mpr ⟨c, hmem, by simp [hr, Reserves]⟩
            have hexact := h.exact r.code
            have horders := h.orders r.code
            omega
          have hmoves : MovesUse s.desk.db (c.step platform now e s.desk).2.db c.reservation
              (c.step platform now e s.desk).1.reservation := callStep_moves (hop c hc) hpos
          dsimp only
          refine ⟨⟨fun code => ?_, fun code d' hd' m hm => ?_⟩, fun code => ?_⟩
          · have hset : usesHeld (s.calls.set j (c.step platform now e s.desk).1) code +
                (Reserves c.reservation code).toNat = usesHeld s.calls code +
                  (Reserves (c.step platform now e s.desk).1.reservation code).toNat :=
              countP_set_add (fun c : CheckoutCall => Reserves c.reservation code) hc
            have hbalance := hmoves.balance code
            have hexact := h.exact code
            dsimp only
            omega
          · obtain ⟨d, hd, hmax, hused⟩ := hmoves.limit code d' hd'
            rcases hused with hused | hused
            · exact hused.trans (h.within code d hd m (hmax ▸ hm))
            · exact (hused m (hmax ▸ hm)).trans (le_max_left _ _)
          · exact (h.orders code).trans (hmoves.orders code)

/-- Over every run of checkouts that loses no use, the uses of a code are those it had before,
one for each order that was committed with it since, and those of the calls in flight; and
they exceed its limit only as far as they did before. -/
theorem quota_exact {s₀ : Checkouts} {ops : List CheckoutOp} (hcalls : s₀.calls = [])
    (hops : Guarded (checkoutStep platform) KeepsUses s₀ ops) :
    QuotaExact s₀ (run (checkoutStep platform) s₀ ops) := by
  have hstart : QuotaKept s₀ s₀ := by
    refine ⟨⟨fun code => ?_, fun code d hd m _ => ?_⟩, fun _ => le_rfl⟩
    · rw [hcalls, usesHeld, List.countP_nil, Nat.add_zero]
    · refine le_max_of_le_right ?_
      rw [usedCount, hd]
      rfl
  have hend := @Guarded.invariant Checkouts CheckoutOp (checkoutStep platform) KeepsUses
    (QuotaKept s₀) (fun _ _ h hop => quotaKept_checkoutStep h hop) s₀ ops hops hstart
  exact hend.toQuotaExact

/-- A shop with one code, which can be used once. -/
def singleUseShop : Checkouts where
  desk :=
    { db :=
        { orders := .empty
          sms := .empty
          clients := .empty
          inbounds := .empty
          panels := .empty
          plans := .empty
          stores := .empty
          automations := .empty
          discounts := Table.empty.put { pk := 8, code := "NOWRUZ", value := 20, maxUsage := some 1 } } }

def codePurchase : PaymentRequest where
  customer := some 9
  plan := { pk := 3, price := 90, trafficLimitBytes := 1000, durationDays := 30, deviceLimit := 2 }
  discountCode := "NOWRUZ"

/-- A purchase to its end, and a second one that is refused. -/
def codePurchases : List CheckoutOp :=
  [.manualPayment codePurchase, .advance 0 0 {}, .advance 0 0 {}, .advance 0 0 {}, .advance 0 0 {},
    .advance 0 0 {}, .advance 0 0 {}, .advance 0 0 {}, .manualPayment codePurchase,
    .advance 1 (minutes 20) {}, .advance 1 (minutes 20) {}, .advance 1 (minutes 20) {}]

theorem quota_exact_single_use :
    QuotaExact singleUseShop (run (checkoutStep (.ofTables [] [])) singleUseShop codePurchases) := by
  have hops : Guarded (checkoutStep (.ofTables [] [])) KeepsUses singleUseShop codePurchases := by
    refine Guarded.of_forall (fun op hop s => ?_) singleUseShop
    have hdone : ∀ j now e, op = .advance j now e → e.outcome = .done := by
      rintro j now e rfl
      simp only [codePurchases, List.mem_cons, List.not_mem_nil, or_false, reduceCtorEq,
        CheckoutOp.advance.injEq, false_or] at hop
      rcases hop with h | h | h | h | h | h | h | h | h | h <;> rw [h.2.2]
    cases op with
    | manualPayment r => trivial
    | renewal r => trivial
    | advance j now e => exact fun c _ => not_losesUse_of_done (hdone j now e rfl) c
  exact quota_exact rfl hops

/-- The choice of a route fails with an exception, and the only use of the code is gone. -/
theorem use_lost_without_order :
    let s := run (checkoutStep (.ofTables [] [])) singleUseShop
      [.manualPayment codePurchase, .advance 0 0 {}, .advance 0 0 {}, .advance 0 0 {},
        .advance 0 0 { outcome := .raised }, .advance 0 0 {}]
    s.calls = [.manual codePurchase (.over .raised)] ∧ s.desk.db.orders.rows = [] ∧
      usedCount singleUseShop.desk.db 8 = 0 ∧ usedCount s.desk.db 8 = 1 := by
  decide +kernel

end Qasedak.Orders
