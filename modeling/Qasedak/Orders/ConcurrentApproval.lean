import Qasedak.Foundation.Run
import Qasedak.Orders.Delivery

/-! Concurrent calls of `approve_and_provision_order` on one order. Each transaction is one
step; the failure of a transaction is written in a later step, after the lock is gone. -/

namespace Qasedak.Orders

open Foundation Store Panels

/-- How far a call is; `claimed` tells that it has a renewal claim to finish. -/
inductive CallPhase where
  | begun
  | approving (claimed : Bool)
  | failing (r : ProvisioningResult) (claimed : Bool)
  | finishing
  | ended
  deriving DecidableEq

structure ApproveCall where
  actor : Option ℕ
  source : Source
  phase : CallPhase := .begun
  deriving DecidableEq

def afterApproval (claimed : Bool) : CallPhase := if claimed then .finishing else .ended

variable (delivery : Delivery)

/-- The next step of a call. -/
def ApproveCall.advance (now : Instant) (order : ℕ) (c : ApproveCall) : ShopM CallPhase :=
  match c.phase with
  | .begun => do
      let o ← getOrder order
      if o.metadata.adminInventoryAssetId.isSome then do
        let _ ← assignmentTransaction delivery now c.actor order
        return .ended
      else if ¬ orderIsRenewal o then return .approving false
      else do
        let claim ← claimRenewal now order
        match claim with
        | .error _ => return .ended
        | .ok claimed => return .approving claimed
  | .approving claimed => do
      let outcome ← approveTransaction delivery now c.actor c.source order
      match outcome with
      | .answered _ => return afterApproval claimed
      | .attempted r => return if r.ok then afterApproval claimed else .failing r claimed
  | .failing r claimed => do
      recordFailure now order r
      return afterApproval claimed
  | .finishing => do
      finishRenewal now order
      return .ended
  | .ended => return .ended

/-- The shop and the calls in flight. -/
structure Race where
  shop : Shop
  calls : List ApproveCall := []

inductive RaceOp where
  | call (actor : Option ℕ) (source : Source)
  /-- One step of a call, with the fate of its interactions. -/
  | advance (j : ℕ) (now : Instant) (signals : List Signal)

/-- A call that halts is over. -/
def CallPhase.of : Except (Halt String) CallPhase → CallPhase
  | .ok phase => phase
  | .error _ => .ended

def raceStep (order : ℕ) (r : Race) : RaceOp → Race
  | .call actor source => { r with calls := r.calls ++ [{ actor := actor, source := source }] }
  | .advance j now signals =>
      match r.calls[j]? with
      | none => r
      | some c =>
          let outcome := c.advance delivery now order { r.shop with signals := signals }
          { shop := outcome.2
            calls := r.calls.set j { c with phase := .of outcome.1 } }

/-- `COMPLETED` and `PROVISIONED`. -/
def IsDelivered (k : ℕ) (db : Db) : Prop :=
  ∃ o, db.orders.get? k = some o ∧ o.status = .completed ∧ o.provisioningStatus = .provisioned

/-- No failure is recorded on a delivered order, and none of its partial deliveries is
retried. -/
def Untroubled (k : ℕ) (r : Race) : RaceOp → Prop
  | .call .. => True
  | .advance j _ _ => ∀ c, r.calls[j]? = some c → IsDelivered k r.shop.db →
      (∀ failure claimed, c.phase ≠ .failing failure claimed) ∧
        ∀ claimed o, c.phase = .approving claimed → r.shop.db.orders.get? k = some o →
          isPartialRetry c.source o = false

variable {k : ℕ} {s : Shop} {now : Instant} {actor : Option ℕ} {source : Source}

/-- A delivered order is answered early, but for the retry of a partial delivery. -/
theorem earlyAnswer_of_completed (db : Db) {o : Order} (h : o.status = .completed)
    (hretry : isPartialRetry source o = false) : ∃ r, earlyAnswer db source o = some r := by
  unfold earlyAnswer
  split
  · exact ⟨_, rfl⟩
  split
  · exact ⟨_, rfl⟩
  rename_i hresend
  have hreason : ∃ reason, provisioningBlockReason o = some reason := by
    unfold provisioningBlockReason
    split
    · exact ⟨_, rfl⟩
    split
    · exact ⟨_, rfl⟩
    · exact ⟨_, rfl⟩
  obtain ⟨reason, hreason⟩ := hreason
  simp [hretry, hreason]

/-- A saved change of the metadata leaves a delivered order delivered. -/
theorem IsDelivered.wp_recordAttempt {attempt : AttemptStatus} (h : IsDelivered k s.db)
    {Q : Unit → Shop → Prop} {X : Halt String → Shop → Prop}
    (hQ : ∀ s', IsDelivered k s'.db → Q () s') :
    Prog.wp (recordAttempt now k attempt) Q X s := by
  obtain ⟨o, ho, hstatus, hprovisioning⟩ := h
  unfold recordAttempt saveOrder
  rw [Prog.wp_writeDb]
  refine hQ _ ⟨_, Db.get?_setOrder_self _ ho, ?_, hprovisioning⟩
  rw [Order.save_status_of_ne (by simp [hstatus])]
  exact hstatus

theorem IsDelivered.wp_claimRenewal (h : IsDelivered k s.db)
    {Q : Except ProvisioningResult Bool → Shop → Prop} {X : Halt String → Shop → Prop}
    (hQ : ∀ r s', IsDelivered k s'.db → Q r s') : Prog.wp (claimRenewal now k) Q X s := by
  have ⟨o, ho, _, _⟩ := h
  unfold claimRenewal getOrder
  simp only [Prog.wp_atomic, Prog.wp_bind, Prog.wp_readDb, Prog.wp_orRaise, ho]
  split
  · exact hQ _ s h
  split
  · exact hQ _ s h
  · rw [Prog.wp_bind]
    exact h.wp_recordAttempt fun s' h' => hQ _ s' h'

theorem IsDelivered.wp_assignmentTransaction (h : IsDelivered k s.db)
    {Q : Approved → Shop → Prop} {X : Halt String → Shop → Prop} (hQ : ∀ r, Q r s) :
    Prog.wp (assignmentTransaction delivery now actor k) Q X s := by
  obtain ⟨o, ho, hstatus, -⟩ := h
  unfold assignmentTransaction getOrder
  simp only [Prog.wp_atomic, Prog.wp_bind, Prog.wp_readDb, Prog.wp_orRaise, ho, if_pos hstatus]
  exact hQ _

theorem IsDelivered.wp_approveTransaction (h : IsDelivered k s.db)
    (hretry : ∀ o, s.db.orders.get? k = some o → isPartialRetry source o = false)
    {Q : Approved → Shop → Prop} {X : Halt String → Shop → Prop} (hQ : ∀ r, Q (.answered r) s) :
    Prog.wp (approveTransaction delivery now actor source k) Q X s := by
  obtain ⟨o, ho, hstatus, -⟩ := h
  obtain ⟨r, hr⟩ := earlyAnswer_of_completed s.db hstatus (hretry o ho)
  unfold approveTransaction getOrder
  simpa [Prog.wp_orRaise, ho, hr] using hQ r

theorem IsDelivered.wp_finishRenewal (h : IsDelivered k s.db) {Q : Unit → Shop → Prop}
    {X : Halt String → Shop → Prop} (hQ : ∀ s', IsDelivered k s'.db → Q () s') :
    Prog.wp (finishRenewal now k) Q X s := by
  have ⟨o, ho, _, _⟩ := h
  unfold finishRenewal getOrder
  simp only [Prog.wp_atomic, Prog.wp_bind, Prog.wp_readDb, Prog.wp_orRaise, ho]
  exact h.wp_recordAttempt hQ

/-- A step of a call that records no failure and retries no partial delivery. -/
theorem IsDelivered.wp_advance {c : ApproveCall} (h : IsDelivered k s.db)
    (hfailing : ∀ failure claimed, c.phase ≠ .failing failure claimed)
    (hretry : ∀ claimed o, c.phase = .approving claimed → s.db.orders.get? k = some o →
      isPartialRetry c.source o = false) :
    Prog.wp (c.advance delivery now k) (fun _ s' => IsDelivered k s'.db)
      (fun _ s' => IsDelivered k s'.db) s := by
  unfold ApproveCall.advance
  split
  case h_1 =>
    have ⟨o, ho, _, _⟩ := h
    unfold getOrder
    simp only [Prog.wp_bind, Prog.wp_readDb, Prog.wp_orRaise, ho]
    split
    · rw [Prog.wp_bind]
      exact h.wp_assignmentTransaction delivery fun _ => h
    split
    · exact h
    · rw [Prog.wp_bind]
      refine h.wp_claimRenewal fun r s' h' => ?_
      cases r <;> exact h'
  case h_2 claimed hphase =>
    rw [Prog.wp_bind]
    exact h.wp_approveTransaction delivery (fun o ho => hretry claimed o hphase ho) fun _ => h
  case h_3 r claimed hphase => exact absurd hphase (hfailing r claimed)
  case h_4 =>
    rw [Prog.wp_bind]
    exact h.wp_finishRenewal fun s' h' => h'
  case h_5 => exact h

theorem raceStep_delivered {r : Race} {op : RaceOp} (h : IsDelivered k r.shop.db)
    (hop : Untroubled k r op) : IsDelivered k (raceStep delivery k r op).shop.db := by
  cases op with
  | call actor source => exact h
  | advance j now signals =>
      cases hc : r.calls[j]? with
      | none => simpa [raceStep, hc] using h
      | some c =>
          simp only [raceStep, hc]
          obtain ⟨hfailing, hretry⟩ := hop c hc h
          have h' : IsDelivered k ({ r.shop with signals := signals } : Shop).db := h
          exact Prog.snd_of_wp (h'.wp_advance delivery hfailing hretry)

/-- Once it is delivered, an order stays so in every interleaving in which no failure is
recorded on it and no partial delivery of it is retried. -/
theorem delivered_order_not_downgraded {r : Race} {ops : List RaceOp}
    (h : IsDelivered k r.shop.db) (hops : Guarded (raceStep delivery k) (Untroubled k) r ops) :
    IsDelivered k (run (raceStep delivery k) r ops).shop.db := by
  have hstep : ∀ r op, IsDelivered k r.shop.db → Untroubled k r op →
      IsDelivered k (raceStep delivery k r op).shop.db :=
    fun _ _ h hop => raceStep_delivered delivery h hop
  exact hops.invariant hstep h

/-- A step of a call that is no retry and has no failure to record. -/
theorem untroubled_advance {r : Race} {j : ℕ} {signals : List Signal} {c : ApproveCall}
    (hc : r.calls[j]? = some c) (hphase : ∀ failure claimed, c.phase ≠ .failing failure claimed)
    (hsource : c.source ≠ .manualRetry) : Untroubled k r (.advance j now signals) := by
  intro c' hc' _
  obtain rfl : c = c' := Option.some.inj (hc.symm.trans hc')
  exact ⟨hphase, fun _ _ _ _ => by simp [isPartialRetry, hsource]⟩

/-! ## A late failure -/

/-- A verified order for a modern panel. -/
def raceShop : Shop where
  db :=
    { orders := Table.empty.put
        { pk := 1, publicId := "o1", orderTrackingCode := "T1", plan := 3
          status := .pendingVerification, inbound := some 5, username := "ali" }
      sms := .empty
      clients := .empty
      inbounds := Table.empty.put { pk := 5, panel := 4, inboundId := 7 }
      panels := Table.empty.put { pk := 4, capabilityProfile := .modernSingleNode }
      plans := Table.empty.put
        { pk := 3, price := 90, trafficLimitBytes := 1000, durationDays := 30, deviceLimit := 2 }
      stores := .empty
      automations := .empty }
  remote := {}

def racePlatform : Platform :=
  .ofTables
    [("qasedak|paid-provisioning|o1|T1|4|local|7|1", "8996a848-5b25-58be-a062-c10ded4cb878")]
    [("sub:qasedak|paid-provisioning|o1|T1|4|local|7|1",
      "ffd414c245dd662d0c039c41a213121c2dd9f98beaa6f02b4a6c5612c4bcd35a")]

def raceDelivery : Delivery :=
  shopDelivery racePlatform ⟨fun _ _ _ => .ok none⟩ fun _ _ _ => return none

/-- Two calls: the panel is out of reach for the first, and the second delivers. -/
def deliveredRace : Race :=
  run (raceStep raceDelivery 1) { shop := raceShop }
    [.call none .manual, .call none .smsAutoMatch, .advance 0 0 [], .advance 1 0 [],
      .advance 0 0 [.notApplied], .advance 1 1 []]

/-- What an observer of the order sees. -/
def orderStatuses (k : ℕ) (r : Race) : Option (OrderStatus × ProvisioningStatus) :=
  (r.shop.db.orders.get? k).map fun o => (o.status, o.provisioningStatus)

/-- The first call records its failure on the order that the second has delivered. -/
theorem delivered_order_downgraded :
    orderStatuses 1 deliveredRace = some (.completed, .provisioned) ∧
      orderStatuses 1 (raceStep raceDelivery 1 deliveredRace (.advance 0 2 [])) =
        some (.completed, .failed) := by
  decide +kernel

/-- A third call on the delivered order, and the end of the second. -/
theorem delivered_order_not_downgraded_thirdCall :
    IsDelivered 1 (run (raceStep raceDelivery 1) deliveredRace
      [.call none .manual, .advance 1 3 [], .advance 2 3 [], .advance 2 3 []]).shop.db := by
  have hdelivered : IsDelivered 1 deliveredRace.shop.db := by
    have h : orderStatuses 1 deliveredRace = some (.completed, .provisioned) := by decide +kernel
    obtain ⟨o, ho, hstatuses⟩ := Option.map_eq_some_iff.mp h
    obtain ⟨hstatus, hprovisioning⟩ := Prod.mk.inj hstatuses
    exact ⟨o, ho, hstatus, hprovisioning⟩
  refine delivered_order_not_downgraded raceDelivery hdelivered ⟨trivial, ?_, ?_, ?_, trivial⟩
  · have hc : (raceStep raceDelivery 1 deliveredRace (.call none .manual)).calls[1]? =
        some { actor := none, source := .smsAutoMatch, phase := .ended } := by decide +kernel
    exact untroubled_advance hc (by simp) (by simp)
  · have hc : (run (raceStep raceDelivery 1) deliveredRace
        [.call none .manual, .advance 1 3 []]).calls[2]? =
          some { actor := none, source := .manual, phase := .begun } := by decide +kernel
    exact untroubled_advance hc (by simp) (by simp)
  · have hc : (run (raceStep raceDelivery 1) deliveredRace
        [.call none .manual, .advance 1 3 [], .advance 2 3 []]).calls[2]? =
          some { actor := none, source := .manual, phase := .approving false } := by decide +kernel
    exact untroubled_advance hc (by simp) (by simp)

end Qasedak.Orders
