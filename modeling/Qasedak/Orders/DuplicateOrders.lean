import Qasedak.Foundation.Run
import Qasedak.Orders.Checkout

/-! Identical submissions of a payment. Each looks for a similar order, takes the lock, commits
its order and gives the lock back; the others do their steps in between. -/

namespace Qasedak.Orders

open Foundation Store Panels

/-! ## What a call holds and answers -/

/-- The lock is the call's. -/
def ManualPhase.holds : ManualPhase → Bool
  | .reserving | .preparing _ | .placing _ _ | .notifying _ _ | .leaving _ => true
  | _ => false

/-- The call is on its way to an order. -/
def ManualPhase.works : ManualPhase → Bool
  | .reserving | .preparing _ | .placing _ _ => true
  | _ => false

def ManualPhase.answer : ManualPhase → Option CallResult
  | .notifying _ order => some (.created order)
  | .leaving result | .over result => some result
  | _ => none

def CheckoutCall.holds : CheckoutCall → Bool
  | .manual _ phase => phase.holds
  | .renewal _ _ => false

def CheckoutCall.works : CheckoutCall → Bool
  | .manual _ phase => phase.works
  | .renewal _ _ => false

def CheckoutCall.answer : CheckoutCall → Option CallResult
  | .manual _ phase => phase.answer
  | .renewal _ _ => none

/-- The calls that have the lock. -/
def holders (calls : List CheckoutCall) : ℕ := calls.countP (·.holds)

/-- The calls on their way to an order. -/
def workers (calls : List CheckoutCall) : ℕ := calls.countP (·.works)

theorem workers_le_holders (calls : List CheckoutCall) : workers calls ≤ holders calls := by
  refine List.countP_mono_left fun c _ hworks => ?_
  cases c with
  | manual r phase => cases phase <;> first | rfl | cases hworks
  | renewal r phase => cases hworks

theorem holders_set {calls : List CheckoutCall} {j : ℕ} {r : PaymentRequest} {phase : ManualPhase}
    (phase' : ManualPhase) (hc : calls[j]? = some (.manual r phase)) :
    holders (calls.set j (.manual r phase')) + phase.holds.toNat =
      holders calls + phase'.holds.toNat :=
  countP_set_add _ hc

theorem workers_set {calls : List CheckoutCall} {j : ℕ} {r : PaymentRequest} {phase : ManualPhase}
    (phase' : ManualPhase) (hc : calls[j]? = some (.manual r phase)) :
    workers (calls.set j (.manual r phase')) + phase.works.toNat =
      workers calls + phase'.works.toNat :=
  countP_set_add _ hc

variable {platform : Platform} {r : PaymentRequest} {smooth : Prop} {s₀ s : Checkouts}
  {rows placed : List Order} {j : ℕ} {phase phase' : ManualPhase} {desk : Desk}

/-- What a call may answer: the new order, an order that is similar, or the error of a
duplicate; it fails only where something went wrong in it. -/
def Answers (r : PaymentRequest) (smooth : Prop) (rows placed : List Order) : CallResult → Prop
  | .created k => ∃ o ∈ placed, o.pk = k
  | .duplicate k => ∃ o ∈ rows, o.pk = k ∧ ∃ now, SimilarTo now r o = true
  | .stillPending => True
  | .refused _ | .raised => ¬ smooth

theorem Answers.append {result : CallResult} (h : Answers r smooth rows placed result)
    (o : Order) : Answers r smooth (rows ++ [o]) (placed ++ [o]) result := by
  cases result with
  | created k =>
      obtain ⟨o', ho', hpk⟩ := h
      exact ⟨o', List.mem_append_left _ ho', hpk⟩
  | duplicate k =>
      obtain ⟨o', ho', hpk, hsimilar⟩ := h
      exact ⟨o', List.mem_append_left _ ho', hpk, hsimilar⟩
  | stillPending => exact h
  | refused message => exact h
  | raised => exact h

/-- At most one of the calls has the lock, and none that has it works towards a second order. -/
structure SingleOrder (platform : Platform) (r : PaymentRequest) (smooth : Prop)
    (s₀ s : Checkouts) (placed : List Order) : Prop where
  rows : s.desk.db.orders.rows = s₀.desk.db.orders.rows ++ placed
  single : placed.length ≤ 1
  same : ∀ c ∈ s.calls, ∃ phase, c = .manual r phase
  one_holder : holders s.calls ≤ 1
  locked : 0 < holders s.calls →
    ∃ lock ∈ s.desk.locks, lock.1 = buildDuplicateOrderKey platform r
  finished : placed ≠ [] → workers s.calls = 0
  answers : ∀ c ∈ s.calls, ∀ result, c.answer = some result →
    Answers r smooth s.desk.db.orders.rows placed result

/-- A step that neither commits an order nor takes or gives back the lock. -/
theorem SingleOrder.quiet (h : SingleOrder platform r smooth s₀ s placed)
    (hc : s.calls[j]? = some (.manual r phase))
    (horders : desk.db.orders = s.desk.db.orders) (hlocks : desk.locks = s.desk.locks)
    (hholds : phase'.holds = true → phase.holds = true)
    (hworks : phase'.works = true → phase.works = true)
    (hanswer : ∀ result, phase'.answer = some result →
      Answers r smooth s.desk.db.orders.rows placed result) :
    SingleOrder platform r smooth s₀ ⟨desk, s.calls.set j (.manual r phase')⟩ placed := by
  have hhold := holders_set phase' hc
  have hwork := workers_set phase' hc
  have hle : (phase'.holds).toNat ≤ (phase.holds).toNat := by
    cases h' : phase'.holds with
    | false => exact Nat.zero_le _
    | true => rw [hholds h']
  have hle' : (phase'.works).toNat ≤ (phase.works).toNat := by
    cases h' : phase'.works with
    | false => exact Nat.zero_le _
    | true => rw [hworks h']
  exact
    { rows := by rw [horders, h.rows]
      single := h.single
      same := fun c hmem => (List.mem_or_eq_of_mem_set hmem).elim (h.same c) fun heq => ⟨phase', heq⟩
      one_holder := by
        have hone := h.one_holder
        dsimp only
        omega
      locked := by
        intro hpos
        rw [hlocks]
        refine h.locked ?_
        dsimp only at hpos
        omega
      finished := by
        intro hplaced
        have hfinished := h.finished hplaced
        dsimp only
        omega
      answers := by
        intro c hmem result hresult
        rw [horders]
        rcases List.mem_or_eq_of_mem_set hmem with hold | rfl
        · exact h.answers c hold result hresult
        · exact hanswer result hresult }

/-- A call takes the lock while nobody has it and there is no order. -/
theorem SingleOrder.lock {now : Instant} (h : SingleOrder platform r smooth s₀ s placed)
    (hc : s.calls[j]? = some (.manual r .locking)) (hplaced : placed = [])
    (hfree : holders s.calls = 0) :
    SingleOrder platform r smooth s₀
      ⟨s.desk.lock now (buildDuplicateOrderKey platform r), s.calls.set j (.manual r .reserving)⟩
      placed := by
  have hhold := holders_set .reserving hc
  simp only [ManualPhase.holds, Bool.toNat_true, Bool.toNat_false] at hhold
  exact
    { rows := h.rows
      single := h.single
      same := fun c hmem => (List.mem_or_eq_of_mem_set hmem).elim (h.same c) fun heq => ⟨_, heq⟩
      one_holder := by
        dsimp only
        omega
      locked := fun _ => ⟨_, List.mem_append_right _ (List.mem_singleton_self _), rfl⟩
      finished := fun hsome => absurd hplaced hsome
      answers := by
        intro c hmem result hresult
        rcases List.mem_or_eq_of_mem_set hmem with hold | rfl
        · exact h.answers c hold result hresult
        · cases hresult }

/-- The call that has the lock commits its order. -/
theorem SingleOrder.place {o : Order} {reservation : Option Reservation} {prepared : Prepared}
    (h : SingleOrder platform r smooth s₀ s placed)
    (hc : s.calls[j]? = some (.manual r (.placing reservation prepared)))
    (hrows : desk.db.orders.rows = s.desk.db.orders.rows ++ [o]) (hlocks : desk.locks = s.desk.locks) :
    SingleOrder platform r smooth s₀
      ⟨desk, s.calls.set j (.manual r (.notifying reservation o.pk))⟩ (placed ++ [o]) := by
  have hhold := holders_set (.notifying reservation o.pk) hc
  have hwork := workers_set (.notifying reservation o.pk) hc
  simp only [ManualPhase.holds, ManualPhase.works, Bool.toNat_true, Bool.toNat_false] at hhold hwork
  have hle := workers_le_holders s.calls
  have hone := h.one_holder
  have hnone : placed = [] := by
    by_contra hsome
    have hfinished := h.finished hsome
    omega
  exact
    { rows := by rw [hrows, h.rows, List.append_assoc]
      single := by rw [hnone, List.nil_append, List.length_singleton]
      same := fun c hmem => (List.mem_or_eq_of_mem_set hmem).elim (h.same c) fun heq => ⟨_, heq⟩
      one_holder := by
        dsimp only
        omega
      locked := by
        intro hpos
        rw [hlocks]
        refine h.locked ?_
        dsimp only at hpos
        omega
      finished := by
        intro _
        dsimp only
        omega
      answers := by
        intro c hmem result hresult
        rw [hrows]
        rcases List.mem_or_eq_of_mem_set hmem with hold | rfl
        · exact (h.answers c hold result hresult).append o
        · cases hresult
          exact ⟨o, List.mem_append_right _ (List.mem_singleton_self _), rfl⟩ }

/-- A call gives its lock back. -/
theorem SingleOrder.unlock {result : CallResult} (h : SingleOrder platform r smooth s₀ s placed)
    (hc : s.calls[j]? = some (.manual r (.leaving result))) :
    SingleOrder platform r smooth s₀
      ⟨s.desk.unlock (buildDuplicateOrderKey platform r), s.calls.set j (.manual r (.over result))⟩
      placed := by
  have hhold := holders_set (.over result) hc
  have hwork := workers_set (.over result) hc
  simp only [ManualPhase.holds, ManualPhase.works, Bool.toNat_true, Bool.toNat_false] at hhold hwork
  have hone := h.one_holder
  exact
    { rows := h.rows
      single := h.single
      same := fun c hmem => (List.mem_or_eq_of_mem_set hmem).elim (h.same c) fun heq => ⟨_, heq⟩
      one_holder := by
        dsimp only
        omega
      locked := by
        intro hpos
        dsimp only at hpos
        omega
      finished := by
        intro hplaced
        have hfinished := h.finished hplaced
        dsimp only
        omega
      answers := by
        intro c hmem answer hanswer
        rcases List.mem_or_eq_of_mem_set hmem with hold | rfl
        · exact h.answers c hold answer hanswer
        · exact h.answers _ (List.mem_of_getElem? hc) answer hanswer }

/-! ## All calls -/

/-- A submission of the payment, or a step of one. A call takes the lock only while no order was
committed since the start, and no lock runs out under the call that has it. -/
def Unraced (platform : Platform) (r : PaymentRequest) (s₀ s : Checkouts) : CheckoutOp → Prop
  | .manualPayment r' => r' = r
  | .renewal _ => False
  | .advance j now _ =>
      (s.calls[j]? = some (.manual r .locking) →
        s.desk.locked now (buildDuplicateOrderKey platform r) = false →
          s.desk.db.orders.rows = s₀.desk.db.orders.rows) ∧
        (0 < holders s.calls → ∀ lock ∈ s.desk.locks,
          lock.1 = buildDuplicateOrderKey platform r → now < lock.2)

instance (platform : Platform) (r : PaymentRequest) (s₀ s : Checkouts) :
    (op : CheckoutOp) → Decidable (Unraced platform r s₀ s op)
  | .manualPayment r' => inferInstanceAs (Decidable (r' = r))
  | .renewal _ => inferInstanceAs (Decidable False)
  | .advance _ _ _ => inferInstanceAs (Decidable (_ ∧ _))

/-- Every part that the model leaves open succeeds, and there is no code that could be refused. -/
def Smooth (r : PaymentRequest) (ops : List CheckoutOp) : Prop :=
  (∀ j now e, .advance j now e ∈ ops → e.outcome = .done) ∧ r.discountCode = "" ∧
    0 < r.quantity ∧ r.quantity ≤ maxOrderQuantity

theorem similar_of_findSimilarPendingOrder {now : Instant} {db : Db} {o : Order}
    (h : findSimilarPendingOrder now r db = some o) :
    o ∈ db.orders.rows ∧ SimilarTo now r o = true := by
  rw [findSimilarPendingOrder] at h
  have hmem := List.mem_of_mem_head? h
  rw [List.mem_insertionSort, List.mem_filter, Bool.and_assoc, Bool.and_eq_true] at hmem
  exact ⟨hmem.1, hmem.2.1⟩

theorem findSimilar_answers {now : Instant} {o : Order}
    (h : findSimilarPendingOrder now r s.desk.db = some o) :
    Answers r smooth s.desk.db.orders.rows placed (.duplicate o.pk) := by
  obtain ⟨ho, hsimilar⟩ := similar_of_findSimilarPendingOrder h
  exact ⟨o, ho, rfl, now, hsimilar⟩

theorem release_orders (d : Desk) (reservation : Option Reservation) :
    (d.release reservation).db.orders = d.db.orders ∧ (d.release reservation).locks = d.locks := by
  cases reservation <;> exact ⟨rfl, rfl⟩

theorem reserve_orders {now : Instant} {plan : Plan} {code : String} {customer : Option ℕ}
    {quantity : ℕ} {db db' : Db} {reservation : Option Reservation}
    (h : reserveDiscountUsage now plan code customer quantity db = .ok (reservation, db')) :
    db'.orders = db.orders := by
  rcases reserveDiscountUsage_ok h with ⟨-, rfl⟩ | ⟨d, _, -, -, -, -, rfl⟩
  · rfl
  · rfl

theorem placeManualOrder_rows (now : Instant) (r : PaymentRequest) (p : Prepared)
    (reservation : Option Reservation) (db : Db) :
    (placeManualOrder now r p reservation db).orders.rows =
      db.orders.rows ++ [manualPaymentOrder db.orders.nextKey now r p reservation] := by
  have hreward : ∀ db : Db, (markCustomerRewardUsed db r.customer reservation).orders =
      db.orders := fun db => by
    unfold markCustomerRewardUsed
    split <;> rfl
  have hclient : ∀ (db : Db) (o : Order), (db.addInactiveClient o r p).orders = db.orders :=
    fun db o => by
      unfold Db.addInactiveClient
      cases p.clientResult with
      | none => rfl
      | some result => cases p.inbound <;> rfl
  rw [placeManualOrder, hreward, hclient]
  rfl

/-- A call that fails in its transaction, or after it, gives up. -/
theorem SingleOrder.leave {outcome : Outcome} {reservation : Option Reservation}
    (h : SingleOrder platform r smooth s₀ s placed) (hc : s.calls[j]? = some (.manual r phase))
    (hholds : phase.holds = true) (hfails : ¬ smooth) :
    SingleOrder platform r smooth s₀
      ⟨(leaveManual s.desk reservation outcome).2,
        s.calls.set j (.manual r (leaveManual s.desk reservation outcome).1)⟩ placed := by
  have hrelease := release_orders s.desk reservation
  have hrefused : ∀ result, Answers r smooth s.desk.db.orders.rows placed result →
      SingleOrder platform r smooth s₀
        ⟨s.desk.release reservation, s.calls.set j (.manual r (.leaving result))⟩ placed := by
    intro result hanswers
    refine h.quiet hc hrelease.1 hrelease.2 (fun _ => hholds) (by simp [ManualPhase.works]) ?_
    intro result' heq
    cases heq
    exact hanswers
  have hdead : SingleOrder platform r smooth s₀ ⟨s.desk, s.calls.set j (.manual r .dead)⟩ placed :=
    h.quiet hc rfl rfl (by simp [ManualPhase.holds]) (by simp [ManualPhase.works])
      (by simp [ManualPhase.answer])
  cases outcome with
  | invalid message => exact hrefused _ hfails
  | storageFailed => exact hrefused _ hfails
  | raised => exact hrefused _ hfails
  | done => exact hdead
  | died => exact hdead

/-- A step of one of the calls. -/
theorem SingleOrder.advance {now : Instant} {e : Event}
    (h : SingleOrder platform r smooth s₀ s placed) (hc : s.calls[j]? = some (.manual r phase))
    (hop : Unraced platform r s₀ s (.advance j now e)) (hdone : smooth → e.outcome = .done)
    (hsmooth : smooth → r.discountCode = "" ∧ 0 < r.quantity ∧ r.quantity ≤ maxOrderQuantity) :
    ∃ placed', SingleOrder platform r smooth s₀
      ⟨(manualStep platform now e r s.desk phase).2,
        s.calls.set j (.manual r (manualStep platform now e r s.desk phase).1)⟩ placed' := by
  have hquiet : ∀ phase' : ManualPhase, (phase'.holds = true → phase.holds = true) →
      (phase'.works = true → phase.works = true) →
      (∀ result, phase'.answer = some result →
        Answers r smooth s.desk.db.orders.rows placed result) →
      ∃ placed', SingleOrder platform r smooth s₀ ⟨s.desk, s.calls.set j (.manual r phase')⟩
        placed' :=
    fun phase' hholds hworks hanswer => ⟨placed, h.quiet hc rfl rfl hholds hworks hanswer⟩
  have hdead := hquiet .dead (by simp [ManualPhase.holds]) (by simp [ManualPhase.works])
    (by simp [ManualPhase.answer])
  have hover : ∀ result, Answers r smooth s.desk.db.orders.rows placed result →
      ∃ placed', SingleOrder platform r smooth s₀
        ⟨s.desk, s.calls.set j (.manual r (.over result))⟩ placed' := by
    intro result hanswers
    refine hquiet (.over result) (by simp [ManualPhase.holds]) (by simp [ManualPhase.works]) ?_
    intro result' heq
    cases heq
    exact hanswers
  have hraised : e.outcome ≠ .done → ∃ placed', SingleOrder platform r smooth s₀
      ⟨s.desk, s.calls.set j (.manual r (.over .raised))⟩ placed' :=
    fun hfails => hover .raised fun hsm => hfails (hdone hsm)
  cases phase with
  | looking =>
      unfold manualStep
      dsimp only
      cases houtcome : e.outcome with
      | done =>
          cases hfound : findSimilarPendingOrder now r s.desk.db with
          | some o => exact hover _ (findSimilar_answers hfound)
          | none =>
              exact hquiet .locking (by simp [ManualPhase.holds]) (by simp [ManualPhase.works])
                (by simp [ManualPhase.answer])
      | died => exact hdead
      | _ => exact hraised (by rw [houtcome]; simp)
  | locking =>
      unfold manualStep
      dsimp only
      cases houtcome : e.outcome with
      | done =>
          dsimp only
          cases hlocked : s.desk.locked now (buildDuplicateOrderKey platform r) with
          | true =>
              exact hquiet .rechecking (by simp [ManualPhase.holds]) (by simp [ManualPhase.works])
                (by simp [ManualPhase.answer])
          | false =>
              -- Nobody has the lock: it would be in the cache, and not run out.
              have hfree : holders s.calls = 0 := by
                by_contra hheld
                have hpos := Nat.pos_of_ne_zero hheld
                obtain ⟨lock, hlock, hkey⟩ := h.locked hpos
                have hexpires := hop.2 hpos lock hlock hkey
                have hin : s.desk.locked now (buildDuplicateOrderKey platform r) = true :=
                  List.any_eq_true.mpr ⟨lock, hlock, by simp [hkey, hexpires]⟩
                rw [hlocked] at hin
                cases hin
              have hnone : placed = [] := by
                have hrows := hop.1 hc hlocked
                rw [h.rows] at hrows
                simpa using hrows
              exact ⟨placed, h.lock hc hnone hfree⟩
      | died => exact hdead
      | _ => exact hraised (by rw [houtcome]; simp)
  | rechecking =>
      unfold manualStep
      dsimp only
      cases houtcome : e.outcome with
      | done =>
          cases hfound : findSimilarPendingOrder now r s.desk.db with
          | some o => exact hover _ (findSimilar_answers hfound)
          | none => exact hover .stillPending trivial
      | died => exact hdead
      | _ => exact hraised (by rw [houtcome]; simp)
  | reserving =>
      have hleaving : ∀ result, ¬ smooth → Answers r smooth s.desk.db.orders.rows placed result →
          ∃ placed', SingleOrder platform r smooth s₀
            ⟨s.desk, s.calls.set j (.manual r (.leaving result))⟩ placed' := by
        intro result _ hanswers
        refine hquiet (.leaving result) (fun _ => rfl) (by simp [ManualPhase.works]) ?_
        intro result' heq
        cases heq
        exact hanswers
      have hnot : e.outcome ≠ .done → ¬ smooth := fun hfails hsm => hfails (hdone hsm)
      unfold manualStep
      dsimp only
      cases houtcome : e.outcome with
      | done =>
          dsimp only
          cases hreserve : reserveDiscountUsage now r.plan r.discountCode r.customer r.quantity
              s.desk.db with
          | error message =>
              have hfails : ¬ smooth := by
                intro hsm
                obtain ⟨hcode, hpos, hmax⟩ := hsmooth hsm
                have hquantity : ¬ (r.quantity = 0 ∨ maxOrderQuantity < r.quantity) := by omega
                rw [reserveDiscountUsage, if_neg hquantity, if_pos hcode] at hreserve
                cases hreserve
              exact hleaving _ hfails hfails
          | ok reserved =>
              exact ⟨placed, h.quiet hc (reserve_orders hreserve) rfl (fun _ => rfl) (fun _ => rfl)
                (by simp [ManualPhase.answer])⟩
      | died => exact hdead
      | _ =>
          have hfails := hnot (by rw [houtcome]; simp)
          exact hleaving _ hfails hfails
  | preparing reservation =>
      have hnot : e.outcome ≠ .done → ¬ smooth := fun hfails hsm => hfails (hdone hsm)
      have hrelease := release_orders s.desk reservation
      unfold manualStep
      dsimp only
      cases houtcome : e.outcome with
      | done =>
          exact hquiet (.placing reservation e.prepared) (fun _ => rfl) (fun _ => rfl)
            (by simp [ManualPhase.answer])
      | died => exact hdead
      | invalid message =>
          have hfails := hnot (by rw [houtcome]; simp)
          refine ⟨placed, h.quiet hc hrelease.1 hrelease.2 (fun _ => rfl)
            (by simp [ManualPhase.works]) ?_⟩
          intro result heq
          cases heq
          exact hfails
      | _ =>
          have hfails := hnot (by rw [houtcome]; simp)
          refine hquiet (.leaving .raised) (fun _ => rfl) (by simp [ManualPhase.works]) ?_
          intro result heq
          cases heq
          exact hfails
  | placing reservation prepared =>
      have hnot : e.outcome ≠ .done → ¬ smooth := fun hfails hsm => hfails (hdone hsm)
      unfold manualStep
      dsimp only
      cases houtcome : e.outcome with
      | done =>
          let desk : Desk :=
            { s.desk with db := placeManualOrder now r prepared reservation s.desk.db }
          have hrows : desk.db.orders.rows = s.desk.db.orders.rows ++
              [manualPaymentOrder s.desk.db.orders.nextKey now r prepared reservation] :=
            placeManualOrder_rows now r prepared reservation s.desk.db
          have hlocks : desk.locks = s.desk.locks := rfl
          exact ⟨_, h.place hc hrows hlocks⟩
      | _ => exact ⟨placed, h.leave hc rfl (hnot (by rw [houtcome]; simp))⟩
  | notifying reservation order =>
      have hnot : e.outcome ≠ .done → ¬ smooth := fun hfails hsm => hfails (hdone hsm)
      have hanswers := h.answers _ (List.mem_of_getElem? hc) (.created order) rfl
      unfold manualStep
      dsimp only
      cases houtcome : e.outcome with
      | done =>
          refine hquiet (.leaving (.created order)) (fun _ => rfl) (by simp [ManualPhase.works]) ?_
          intro result heq
          cases heq
          exact hanswers
      | _ => exact ⟨placed, h.leave hc rfl (hnot (by rw [houtcome]; simp))⟩
  | leaving result =>
      unfold manualStep
      dsimp only
      cases houtcome : e.outcome with
      | done => exact ⟨placed, h.unlock hc⟩
      | died => exact hdead
      | _ => exact hraised (by rw [houtcome]; simp)
  | «over» result => exact hover result (h.answers _ (List.mem_of_getElem? hc) result rfl)
  | dead => exact hdead

theorem singleOrder_checkoutStep {op : CheckoutOp}
    (h : ∃ placed, SingleOrder platform r smooth s₀ s placed) (hop : Unraced platform r s₀ s op)
    (hdone : smooth → ∀ j now e, op = .advance j now e → e.outcome = .done)
    (hsmooth : smooth → r.discountCode = "" ∧ 0 < r.quantity ∧ r.quantity ≤ maxOrderQuantity) :
    ∃ placed, SingleOrder platform r smooth s₀ (checkoutStep platform s op) placed := by
  obtain ⟨placed, h⟩ := h
  cases op with
  | renewal r' => exact hop.elim
  | manualPayment r' =>
      obtain rfl : r' = r := hop
      have hholders : holders (s.calls ++ [.manual r' .looking]) = holders s.calls := by
        simp [holders, CheckoutCall.holds, ManualPhase.holds]
      have hworkers : workers (s.calls ++ [.manual r' .looking]) = workers s.calls := by
        simp [workers, CheckoutCall.works, ManualPhase.works]
      refine ⟨placed,
        { rows := h.rows
          single := h.single
          same := ?_
          one_holder := hholders ▸ h.one_holder
          locked := fun hpos => h.locked (hholders ▸ hpos)
          finished := fun hplaced => hworkers.trans (h.finished hplaced)
          answers := ?_ }⟩
      · intro c hmem
        rcases List.mem_append.mp hmem with hold | hnew
        · exact h.same c hold
        · exact ⟨.looking, List.mem_singleton.mp hnew⟩
      · intro c hmem result hresult
        rcases List.mem_append.mp hmem with hold | hnew
        · exact h.answers c hold result hresult
        · rw [List.mem_singleton.mp hnew] at hresult
          cases hresult
  | advance j now e =>
      rw [checkoutStep]
      cases hc : s.calls[j]? with
      | none => exact ⟨placed, h⟩
      | some c =>
          obtain ⟨phase, rfl⟩ := h.same c (List.mem_of_getElem? hc)
          exact h.advance hc hop (fun hsm => hdone hsm j now e rfl) hsmooth

/-- What identical submissions come to: at most one order, and the same answer for all. -/
structure OneOrder (r : PaymentRequest) (smooth : Prop) (s₀ s : Checkouts) : Prop where
  order : ∃ placed, s.desk.db.orders.rows = s₀.desk.db.orders.rows ++ placed ∧ placed.length ≤ 1 ∧
    ∀ phase result, .manual r phase ∈ s.calls → phase.answer = some result →
      Answers r smooth s.desk.db.orders.rows placed result

/-- A customer without orders. -/
def emptyDesk : Checkouts where
  desk :=
    { db :=
        { orders := .empty
          sms := .empty
          clients := .empty
          inbounds := .empty
          panels := .empty
          plans := .empty
          stores := .empty
          automations := .empty } }

def tappedPayment : PaymentRequest where
  customer := some 9
  plan := { pk := 3, price := 90, trafficLimitBytes := 1000, durationDays := 30, deviceLimit := 2 }
  senderCardLast4 := "1234"

/-- Two taps: both look for a similar order before the first call is done. -/
def doubleTap : List CheckoutOp :=
  [.manualPayment tappedPayment, .manualPayment tappedPayment, .advance 0 0 {}, .advance 1 0 {},
    .advance 0 0 {}]

end Qasedak.Orders
