import Qasedak.Orders.AssignedOnce
import Qasedak.Orders.ReadyDelivery

/-! A confirmation is executed once: whatever calls carry its id, one of them creates the order
and does the work, and the others find the order. -/

namespace Qasedak.Orders.AdminGrants

open Foundation Store Orders Panels

/-! ## What a phase carries -/

/-- A reservation is made of its call. -/
structure Reservation.FromCall (r : Reservation) (call : GrantCall) : Prop where
  requestId : r.requestId = call.requestId
  customer : r.customer = call.customer
  plan : r.plan.pk = call.plan

/-- The call that an order names as its creator, and the customer and the plan of that call. -/
structure Confirmation.FromCall (c : Confirmation) (call : GrantCall) : Prop where
  requestId : c.requestId = call.requestId
  customer : c.customer = call.customer
  plan : c.plan = call.plan

/-- The order of a call's id, when it is the call itself that created it. -/
def Created (orders : List Confirmation) (n : ℕ) (call : GrantCall) (k : ℕ) : Prop :=
  ∃ c ∈ orders, c.order = k ∧ c.requestId = call.requestId ∧ c.createdBy = n

/-- The order of a call's id. -/
def Found (orders : List Confirmation) (call : GrantCall) (k : ℕ) : Prop :=
  ∃ c ∈ orders, c.order = k ∧ c.requestId = call.requestId

def AnswerOf (orders : List Confirmation) (n : ℕ) (call : GrantCall) : GrantAnswer → Prop
  | .refused _ => True
  | .reported k _ => Found orders call k
  | .finished k _ => Created orders n call k
  | .crashed => True

/-- What call `n` carries from one step to the next. -/
def PhaseOf (orders : List Confirmation) (n : ℕ) (call : GrantCall) : GrantPhase → Prop
  | .assigning c => call = .assign c
  | .granting g =>
      g.requestId = call.requestId ∧ g.customer = call.customer ∧ g.plan.pk = call.plan
  | .reserving r => r.FromCall call
  | .failing k _ => Created orders n call k
  | .working c => c ∈ orders ∧ c.createdBy = n ∧ c.requestId = call.requestId
  | .ended a => AnswerOf orders n call a

variable {orders : List Confirmation} {n : ℕ} {call : GrantCall}

/-- Orders are only added. -/
theorem PhaseOf.mono {orders' : List Confirmation} (hsub : ∀ c ∈ orders, c ∈ orders')
    {phase : GrantPhase} (h : PhaseOf orders n call phase) : PhaseOf orders' n call phase := by
  cases phase with
  | assigning c => exact h
  | granting g => exact h
  | reserving r => exact h
  | failing k error =>
      obtain ⟨c, hc, hrest⟩ := h
      exact ⟨c, hsub c hc, hrest⟩
  | working c => exact ⟨hsub c h.1, h.2⟩
  | ended a =>
      cases a with
      | refused message => trivial
      | crashed => trivial
      | reported k ok =>
          obtain ⟨c, hc, hrest⟩ := h
          exact ⟨c, hsub c hc, hrest⟩
      | finished k ok =>
          obtain ⟨c, hc, hrest⟩ := h
          exact ⟨c, hsub c hc, hrest⟩

theorem phaseOf_start (call : GrantCall) : PhaseOf orders n call call.start := by
  cases call with
  | assign c => rfl
  | grant g => exact ⟨rfl, rfl, rfl⟩

theorem find_none {s : Grants} {id : String} (h : s.find id = none) :
    id ∉ s.confirmations.map (·.requestId) := by
  simpa [Grants.find] using h

theorem mem_of_find {s : Grants} {id : String} {c : Confirmation} (h : s.find id = some c) :
    c ∈ s.confirmations ∧ c.requestId = id :=
  ⟨List.mem_of_find?_eq_some h, by simpa using List.find?_some h⟩

theorem found_of_find {s : Grants} {id : String} {c : Confirmation} (h : s.find id = some c)
    (hid : id = call.requestId) : Found s.confirmations call c.order :=
  ⟨c, (mem_of_find h).1, rfl, (mem_of_find h).2.trans hid⟩

theorem phaseOf_checkAssignment (now : Instant) (s : Grants) (c : AssignCall) :
    PhaseOf s.confirmations n (.assign c) (checkAssignment now s c) := by
  simp only [checkAssignment]
  split
  · trivial
  split
  next hfind =>
    split
    · trivial
    · exact found_of_find hfind rfl
  split
  · trivial
  split
  · exact ⟨rfl, rfl, rfl⟩
  · split
    · exact ⟨rfl, rfl, rfl⟩
    · trivial
  · trivial

theorem phaseOf_checkGrant {s : Grants} {g : FreeGrant}
    (h : PhaseOf s.confirmations n call (.granting g)) (preflight : Preflight) :
    PhaseOf s.confirmations n call (checkGrant preflight s g) := by
  obtain ⟨hid, hcustomer, hplan⟩ := h
  simp only [checkGrant]
  split
  · trivial
  split
  next hfind =>
    split
    · trivial
    · exact found_of_find hfind hid
  · exact ⟨hid, hcustomer, hplan⟩

/-! ## The invariant -/

/-- The call is about to do the work of its order. -/
def Working (s : Grants) (n : ℕ) (c : Confirmation) : Prop :=
  ∃ r, s.runs n = some r ∧ r.phase = .working c

/-- One order for an id, and one piece of work for an order. -/
structure Once (s : Grants) : Prop where
  unique : (s.confirmations.map (·.requestId)).Nodup
  created : ∀ c ∈ s.confirmations, ∃ r, s.runs c.createdBy = some r ∧ c.FromCall r.call
  phases : ∀ n r, s.runs n = some r → PhaseOf s.confirmations n r.call r.phase
  fresh : ∀ n c, Working s n c → c.requestId ∉ s.works.map (·.requestId)
  worked : (s.works.map (·.requestId)).Nodup
  confirmed : ∀ w ∈ s.works, w.requestId ∈ s.confirmations.map (·.requestId)
  assignments : ∀ w ∈ s.works, w.existing → w.allocated ≤ 1 ∧ w.requests = 0

theorem once_start (shop : Shop) : Once { shop := shop } where
  unique := List.nodup_nil
  created _ h := nomatch h
  phases _ _ h := nomatch h
  fresh _ _ h := nomatch h.choose_spec.1
  worked := List.nodup_nil
  confirmed _ h := nomatch h
  assignments _ h := nomatch h

variable {s : Grants} {run : GrantRun}

/-- The shop is no part of it. -/
theorem Once.withShop (h : Once s) (shop : Shop) : Once { s with shop := shop } :=
  ⟨h.unique, h.created, h.phases, h.fresh, h.worked, h.confirmed, h.assignments⟩

@[simp] theorem works_setPhase (phase : GrantPhase) : (s.setPhase n run phase).works = s.works := rfl

theorem runs_setPhase (phase : GrantPhase) (m : ℕ) : (s.setPhase n run phase).runs m =
    if m = n then some { run with phase := phase } else s.runs m :=
  Function.update_apply _ _ _ _

/-- A call moves on; if it moves on to some work, that work was not done before. -/
theorem Once.setPhase (h : Once s) (hrun : s.runs n = some run) {phase : GrantPhase}
    (hphase : PhaseOf s.confirmations n run.call phase)
    (hfresh : ∀ c, phase = .working c → c.requestId ∉ s.works.map (·.requestId)) :
    Once (s.setPhase n run phase) where
  unique := h.unique
  created c hc := by
    obtain ⟨r, hr, hfrom⟩ := h.created c hc
    rw [runs_setPhase]
    by_cases hn : c.createdBy = n
    · rw [hn, hrun] at hr
      obtain rfl : run = r := Option.some.inj hr
      exact ⟨_, if_pos hn, hfrom⟩
    · exact ⟨r, (if_neg hn).trans hr, hfrom⟩
  phases m r hr := by
    rw [runs_setPhase] at hr
    split at hr
    next hm =>
      obtain rfl : { run with phase := phase } = r := Option.some.inj hr
      exact hm ▸ hphase
    next => exact h.phases m r hr
  fresh m c := by
    rintro ⟨r, hr, hc⟩
    rw [runs_setPhase] at hr
    split at hr
    · obtain rfl : { run with phase := phase } = r := Option.some.inj hr
      exact hfresh c hc
    · exact h.fresh m c ⟨r, hr, hc⟩
  worked := h.worked
  confirmed := h.confirmed
  assignments := h.assignments

/-- A call ends. -/
theorem Once.finish (h : Once s) (hrun : s.runs n = some run) {a : GrantAnswer}
    (ha : AnswerOf s.confirmations n run.call a) : Once (s.setPhase n run (.ended a)) :=
  h.setPhase hrun ha fun _ hc => nomatch hc

theorem checkAssignment_idle (now : Instant) (s : Grants) (a : AssignCall) (c : Confirmation) :
    checkAssignment now s a ≠ .working c := by
  simp only [checkAssignment]
  split
  · simp
  split
  · split <;> simp
  split
  · simp
  split
  · simp
  · split <;> simp
  · simp

theorem checkGrant_idle (preflight : Preflight) (s : Grants) (g : FreeGrant) (c : Confirmation) :
    checkGrant preflight s g ≠ .working c := by
  simp only [checkGrant]
  split
  · simp
  split
  · split <;> simp
  · simp

/-! ## Creation -/

/-- The system when a call has created the order of its id. -/
def Grants.created (s : Grants) (now : Instant) (r : Reservation) (n : ℕ) : Grants :=
  { s with
    shop := { s.shop with db := reserveOrder now r s.shop.db }
    confirmations := s.confirmations ++ [r.confirmation s.shop.db.orders.nextKey n] }

theorem Once.create (h : Once s) (hrun : s.runs n = some run) {now : Instant} {r : Reservation}
    (hfrom : r.FromCall run.call) (hfree : s.find r.requestId = none) :
    Once (s.created now r n) where
  unique := by
    simpa [Grants.created, List.nodup_append, h.unique, Reservation.confirmation]
      using find_none hfree
  created c hc := by
    rcases List.mem_append.mp hc with hc | hc
    · exact h.created c hc
    · obtain rfl := List.mem_singleton.mp hc
      exact ⟨run, hrun, ⟨hfrom.requestId, hfrom.customer, hfrom.plan⟩⟩
  phases m r' hr := (h.phases m r' hr).mono fun c hc => List.mem_append_left _ hc
  fresh := h.fresh
  worked := h.worked
  confirmed w hw := by
    rw [Grants.created, List.map_append]
    exact List.mem_append_left _ (h.confirmed w hw)
  assignments := h.assignments

theorem Once.reserve (h : Once s) (hrun : s.runs n = some run) (now : Instant) {r : Reservation}
    (hfrom : r.FromCall run.call) : Once (reserve now s n run r) := by
  simp only [AdminGrants.reserve]
  split
  next previous hfind =>
    split
    · exact h.finish hrun (found_of_find hfind hfrom.requestId)
    · exact h.finish hrun trivial
  next hfree =>
    have hcreated : Once (s.created now r n) := h.create hrun hfrom hfree
    have hnew : r.confirmation s.shop.db.orders.nextKey n ∈ (s.created now r n).confirmations :=
      List.mem_append_right _ (List.mem_singleton.mpr rfl)
    split
    · refine hcreated.setPhase hrun ⟨_, hnew, rfl, hfrom.requestId, rfl⟩ fun _ hc => nomatch hc
    · refine hcreated.setPhase hrun ⟨hnew, rfl, hfrom.requestId⟩ fun c hc hmem => ?_
      -- Whatever was worked for has an order, and this id had none.
      obtain rfl : r.confirmation s.shop.db.orders.nextKey n = c := GrantPhase.working.inj hc
      obtain ⟨w, hw, hid⟩ := List.mem_map.mp hmem
      have hold : r.requestId ∈ s.confirmations.map (·.requestId) := by
        simpa [← show w.requestId = r.requestId from hid] using h.confirmed w hw
      exact find_none hfree hold

/-! ## Work -/

variable (platform : Platform) (routing : Routing) (checkLink : LinkCheck)

/-- The assignment of an existing configuration. -/
theorem workDone_existing {c : Confirmation} (hc : c.existing = true) (now : Instant)
    (shop : Shop) (signals : List Signal) :
    let outcome := c.work platform routing checkLink now { shop with signals := signals }
    (workDone c shop outcome.2).allocated ≤ 1 ∧ (workDone c shop outcome.2).requests = 0 := by
  simp only [Confirmation.work, hc, if_pos]
  set before : Shop := { shop with signals := signals }
  have hone : AllocatesOne (completeInventoryAssignment
      (shopDelivery platform routing (assignInventoryAsset checkLink)) now c.grantedBy true c.order) :=
    allocatesOne_completeInventoryAssignment fun _ _ _ => allocatesOne_assignInventoryAsset checkLink
  have hsilent : Prog.Silent (completeInventoryAssignment
      (shopDelivery platform routing (assignInventoryAsset checkLink)) now c.grantedBy true c.order) :=
    silent_completeInventoryAssignment fun _ _ _ => silent_assignInventoryAsset checkLink
  have hcount := Prog.snd_of_wp (hone before)
  have hcalls := Prog.snd_of_wp (hsilent before)
  exact ⟨Nat.sub_le_iff_le_add'.mpr hcount, Nat.sub_eq_zero_of_le (congrArg List.length hcalls).le⟩

theorem Once.work (h : Once s) (hrun : s.runs n = some run) {c : Confirmation}
    (hc : run.phase = .working c) (e : GrantEvent) :
    Once (s.advance platform routing checkLink n run e) := by
  obtain ⟨hmem, hby, hid⟩ : c ∈ s.confirmations ∧ c.createdBy = n ∧
      c.requestId = run.call.requestId := by
    have := h.phases n run hrun
    rwa [hc] at this
  have hfresh := h.fresh n c ⟨run, hrun, hc⟩
  simp only [Grants.advance, hc]
  set outcome := c.work platform routing checkLink e.now { s.shop with signals := e.signals }
    with houtcome
  set phase : GrantPhase := .ended (workAnswer c.order outcome.1) with hphase
  -- The call ends first, so that nobody works any more for this id.
  have hanswer : AnswerOf s.confirmations n run.call (workAnswer c.order outcome.1) := by
    cases outcome.1 with
    | ok r => exact ⟨c, hmem, rfl, hid, hby⟩
    | error e =>
        cases e with
        | raised e => trivial
        | crashed => trivial
  have hended : Once (s.setPhase n run phase) := h.finish hrun hanswer
  refine ⟨hended.unique, hended.created, hended.phases, fun m c' hworking hin => ?_, ?_,
    fun w hw => ?_, fun w hw hexisting => ?_⟩
  · have hold : Working (s.setPhase n run phase) m c' := hworking
    rw [works_setPhase, List.map_append, List.mem_append] at hin
    rcases hin with hin | hin
    · exact hended.fresh m c' hold hin
    · -- Another call that works for this id created the same order.
      obtain ⟨r, hr, hrc⟩ := hold
      have hmem' : c' ∈ s.confirmations ∧ c'.createdBy = m ∧
          c'.requestId = r.call.requestId := by
        have := hended.phases m r hr
        rwa [hrc] at this
      have hsame : c' = c := List.inj_on_of_nodup_map h.unique hmem'.1 hmem
        (by simpa [workDone] using hin)
      have hm : m = n := by rw [← hmem'.2.1, hsame, hby]
      rw [runs_setPhase, if_pos hm] at hr
      rw [← Option.some.inj hr] at hrc
      exact nomatch hrc
  · rw [works_setPhase, List.map_append]
    exact h.worked.append (List.nodup_singleton _) (by simpa [workDone] using hfresh)
  · rcases List.mem_append.mp hw with hw | hw
    · exact h.confirmed w hw
    · rw [List.mem_singleton.mp hw]
      exact List.mem_map_of_mem hmem
  · rcases List.mem_append.mp hw with hw | hw
    · exact h.assignments w hw hexisting
    · rw [List.mem_singleton.mp hw] at hexisting ⊢
      exact workDone_existing platform routing checkLink hexisting e.now s.shop e.signals

/-! ## Runs -/

theorem Once.advance (h : Once s) (hrun : s.runs n = some run) (e : GrantEvent) :
    Once (s.advance platform routing checkLink n run e) := by
  have hphase := h.phases n run hrun
  cases hp : run.phase with
  | assigning c =>
      rw [hp] at hphase
      simp only [Grants.advance, hp]
      refine h.setPhase hrun ?_ fun c' hc' => absurd hc' (checkAssignment_idle e.now s c c')
      rw [show run.call = .assign c from hphase]
      exact phaseOf_checkAssignment e.now s c
  | granting g =>
      rw [hp] at hphase
      simp only [Grants.advance, hp]
      refine h.setPhase hrun (phaseOf_checkGrant hphase e.preflight) fun c' hc' => ?_
      exact absurd hc' (checkGrant_idle e.preflight s g c')
  | reserving r =>
      rw [hp] at hphase
      simp only [Grants.advance, hp]
      exact h.reserve hrun e.now hphase
  | failing k error =>
      rw [hp] at hphase
      simp only [Grants.advance, hp]
      generalize s.shop.db.setOrder k (recordPreflightError error)
        (recordPreflightError_pk error) = db
      have hsame := h.withShop { s.shop with db := db }
      exact hsame.finish hrun hphase
  | working c => exact h.work platform routing checkLink hrun hp e
  | ended a =>
      simp only [Grants.advance, hp]
      exact h

theorem Once.step (h : Once s) (op : GrantStep) :
    Once (s.step platform routing checkLink op) := by
  cases op with
  | begin m call =>
      cases hm : s.runs m with
      | some r =>
          simp only [Grants.step, hm]
          exact h
      | none =>
          simp only [Grants.step, hm]
          refine ⟨h.unique, fun c hc => ?_, fun j r hr => ?_, fun j c hworking => ?_, h.worked,
            h.confirmed, h.assignments⟩
          · obtain ⟨r, hr, hfrom⟩ := h.created c hc
            refine ⟨r, ?_, hfrom⟩
            dsimp only
            rw [Function.update_of_ne, hr]
            intro hby
            rw [hby, hm] at hr
            exact nomatch hr
          · dsimp only at hr
            rw [Function.update_apply] at hr
            split at hr
            · rw [← Option.some.inj hr]
              exact phaseOf_start call
            · exact h.phases j r hr
          · obtain ⟨r, hr, hc⟩ := hworking
            dsimp only at hr
            rw [Function.update_apply] at hr
            split at hr
            · rw [← Option.some.inj hr] at hc
              cases call <;> exact nomatch hc
            · exact h.fresh j c ⟨r, hr, hc⟩
  | advance m e =>
      cases hm : s.runs m with
      | some r =>
          simp only [Grants.step, hm]
          exact h.advance platform routing checkLink hm e
      | none =>
          simp only [Grants.step, hm]
          exact h
  | crash m =>
      cases hm : s.runs m with
      | some r =>
          simp only [Grants.step, hm]
          exact h.finish hm trivial
      | none =>
          simp only [Grants.step, hm]
          exact h
  | meanwhile shop => exact h.withShop shop

/-! ## The other calls -/

/-- A call that answers with an error, or that reports an order. -/
def Reports (k : ℕ) : GrantAnswer → Prop
  | .refused _ => True
  | .reported j _ => j = k
  | .finished _ _ => False
  | .crashed => True

/-- A call that has nothing to do with an order but to report it: its next step changes nothing,
and when it has answered, it named the order or failed. -/
structure Bystander (c : Confirmation) (s : Grants) (n : ℕ) (run : GrantRun) : Prop where
  shop : ∀ e, (s.advance platform routing checkLink n run e).shop = s.shop
  confirmations : ∀ e,
    (s.advance platform routing checkLink n run e).confirmations = s.confirmations
  works : ∀ e, (s.advance platform routing checkLink n run e).works = s.works
  answer : ∀ a, run.phase = .ended a → Reports c.order a

theorem Once.order_unique (h : Once s) {c c' : Confirmation} (hc : c ∈ s.confirmations)
    (hc' : c' ∈ s.confirmations) (hid : c'.requestId = c.requestId) : c' = c :=
  List.inj_on_of_nodup_map h.unique hc' hc hid

theorem Once.bystander (h : Once s) {c : Confirmation} (hc : c ∈ s.confirmations)
    (hrun : s.runs n = some run) (hid : run.call.requestId = c.requestId)
    (hother : n ≠ c.createdBy) : Bystander platform routing checkLink c s n run := by
  have hphase := h.phases n run hrun
  have hcreated : ∀ k, ¬ Created s.confirmations n run.call k := by
    rintro k ⟨c', hc', _, hid', hby⟩
    rw [h.order_unique hc hc' (hid'.trans hid)] at hby
    exact hother hby.symm
  cases hp : run.phase with
  | assigning a => constructor <;> simp [Grants.advance, hp, Grants.setPhase]
  | granting g => constructor <;> simp [Grants.advance, hp, Grants.setPhase]
  | reserving r =>
      rw [hp] at hphase
      cases hfind : s.find r.requestId with
      | some previous =>
          constructor <;> simp [Grants.advance, hp, Grants.setPhase, AdminGrants.reserve, hfind]
      | none =>
          have hmem := find_none hfind
          rw [hphase.requestId, hid] at hmem
          exact absurd (List.mem_map_of_mem hc) hmem
  | failing k error =>
      rw [hp] at hphase
      exact absurd hphase (hcreated k)
  | working c' =>
      rw [hp] at hphase
      exact absurd ⟨c', hphase.1, rfl, hphase.2.2, hphase.2.1⟩ (hcreated c'.order)
  | ended a =>
      rw [hp] at hphase
      refine ⟨?_, ?_, ?_, fun a' ha' => ?_⟩
      · simp [Grants.advance, hp]
      · simp [Grants.advance, hp]
      · simp [Grants.advance, hp]
      · obtain rfl : a = a' := GrantPhase.ended.inj (hp.symm.trans ha')
        cases a with
        | refused message => trivial
        | crashed => trivial
        | reported k ok =>
            obtain ⟨c', hc', hk, hid'⟩ := hphase
            rw [h.order_unique hc hc' (hid'.trans hid)] at hk
            exact hk.symm
        | finished k ok => exact absurd hphase (hcreated k)

theorem length_filter_le_one {β : Type} {f : β → String} {xs : List β} (h : (xs.map f).Nodup)
    (id : String) : (xs.filter fun x => f x = id).length ≤ 1 := by
  have hcount := List.nodup_iff_count_le_one.mp h id
  rwa [List.count, List.countP_map, List.countP_eq_length_filter] at hcount

/-- At most one order has the id, for the customer and the plan of the call that created it;
that call alone works for it, and once. The assignment of an existing configuration allocates
one asset at most and sends nothing to a panel. All other calls report the order or fail, and
change nothing. -/
theorem confirmation_executed_once (shop : Shop) (ops : List GrantStep) (id : String) :
    let s := Foundation.run (Grants.step platform routing checkLink) { shop := shop } ops
    (s.confirmations.filter (·.requestId = id)).length ≤ 1 ∧
      (∀ c ∈ s.confirmations, c.requestId = id →
        (∃ r, s.runs c.createdBy = some r ∧ c.FromCall r.call) ∧
          ∀ n r, s.runs n = some r → r.call.requestId = id → n ≠ c.createdBy →
            Bystander platform routing checkLink c s n r) ∧
      (s.works.filter (·.requestId = id)).length ≤ 1 ∧
      ∀ w ∈ s.works, w.requestId = id → w.existing → w.allocated ≤ 1 ∧ w.requests = 0 := by
  intro s
  have h : Once s := Foundation.run_invariant
    (fun s op hs => hs.step platform routing checkLink op) ops (once_start shop)
  refine ⟨length_filter_le_one h.unique id, fun c hc hid => ⟨h.created c hc, ?_⟩,
    length_filter_le_one h.worked id, fun w hw _ => h.assignments w hw⟩
  intro n r hrun hcall hother
  exact h.bystander platform routing checkLink hc hrun (hcall.trans hid.symm) hother

/-! ## A plan of two sources -/

def twoSourcePlan : Plan where
  pk := 3
  price := 100
  trafficLimitBytes := 0
  durationDays := 30
  deviceLimit := 1

/-- A plan whose delivery draws on two sources of inventory. -/
def twoSourceShop : Shop :=
  let shop := sharedPoolOrder 1
  let db := { shop.db with
    orders := Table.empty
    plans := Table.empty.put twoSourcePlan }
  { shop with db := db }

/-- A call that grants the plan, from its start to its end. -/
def freeGrantSteps : List GrantStep :=
  [.begin 0 (.grant { requestId := "g", customer := 1, plan := twoSourcePlan, store := none }),
    .advance 0 { now := 0 }, .advance 0 { now := 0 }, .advance 0 { now := 0 }]

/-- One confirmation of a new service takes an asset of each source. -/
theorem confirmation_two_assets :
    let s := Foundation.run
      (Grants.step (.ofTables [] []) ⟨fun _ _ _ => .ok none⟩ fun _ => .ok ())
      { shop := twoSourceShop } freeGrantSteps
    ∃ w ∈ s.works, w.requestId = "g" ∧ w.allocated = 2 := by
  decide +kernel

end Qasedak.Orders.AdminGrants
