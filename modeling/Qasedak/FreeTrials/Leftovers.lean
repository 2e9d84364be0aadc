import Qasedak.FreeTrials.Requests

/-! What a trial that failed leaves behind: nothing in the shop, and nothing on the panel unless the
deletion there failed. -/

namespace Qasedak.FreeTrials

open Foundation Store
open Subscriptions (SubscriptionCup ConfigLink)

variable {κ : Type*} [DecidableEq κ] {shop : TrialShop}

/-! ## What is saved -/

/-- What `saveTrial` adds. -/
structure Saved (settings : TrialSettings shop) (client : TrialClient) (db db' : TrialDb) : Prop where
  unique : ∀ x ∈ db.clients.rows, x.uuid ≠ some client.uuid
  clients : ∃ x : VPNClient, db'.clients.rows = db.clients.rows ++ [x] ∧
    x.pk = db.clients.next ∧ x.uuid = some client.uuid ∧ x.xuiEmail = client.email ∧
    x.inbound = some settings.inbound
  cups : ∃ cup : SubscriptionCup, db'.cups.rows = db.cups.rows ++ [cup] ∧
    cup.pk = db.cups.next ∧ cup.vpnClient = some db.clients.next
  links : ∀ link ∈ db'.links.rows, link ∈ db.links.rows ∨ link.vpnClient = some db.clients.next
  items : ∀ item ∈ db'.items.rows, item ∈ db.items.rows ∨ item.cup = db.cups.next
  currentUsers : db'.currentUsers =
    Function.update db.currentUsers settings.inbound (db.currentUsers settings.inbound + 1)

theorem saved_of_saveTrial {settings : TrialSettings shop} {r : FreeTrialRequest}
    {client : TrialClient} {db db' : TrialDb} (h : saveTrial shop db settings r client = .ok db') :
    Saved settings client db db' := by
  simp only [saveTrial] at h
  split at h
  · cases h
  · rename_i hunique
    split at h
    · cases h
    · rename_i links _
      cases h
      exact {
        unique := by
          intro x hx huuid
          exact hunique (List.any_eq_true.mpr ⟨x, hx, decide_eq_true huuid⟩)
        clients := ⟨_, rfl, rfl, rfl, rfl, rfl⟩
        cups := ⟨_, rfl, rfl, rfl⟩
        links := by
          intro link hlink
          apply (Serial.of_mem_rows_appendAll hlink).imp_right
          rintro ⟨_, _, _, hlink⟩
          rw [hlink]
          rfl
        items := by
          intro item hitem
          apply (Serial.of_mem_rows_appendAll hitem).imp_right
          rintro ⟨_, _, _, hitem⟩
          rw [hitem]
          rfl
        currentUsers := rfl }

/-! ## The local rows -/

/-- The row of a client belongs to a trial that was delivered. -/
def OfDelivered (rows : List FreeTrialRequest) (client : Option ℕ) : Prop :=
  ∃ r ∈ rows, r.status = .delivered ∧ client ≠ none ∧ r.vpnClient = client

/-- The trials that were delivered on an inbound. -/
def deliveredOn (rows : List FreeTrialRequest) (inbound : ℕ) : ℕ :=
  rows.countP fun r => r.status = .delivered && r.inbound = inbound

/-- Every row that the calls added belongs to a trial that was delivered, and every such trial counts
once for its inbound. -/
structure Accounted (s₀ s : TrialSystem shop κ) : Prop where
  unlinked : ∀ r ∈ s.requests.rows, s₀.requests.next ≤ r.pk → r.status ≠ .delivered →
    r.vpnClient = none
  clients : ∀ x ∈ s.db.clients.rows, x ∈ s₀.db.clients.rows ∨
    OfDelivered s.requests.rows (some x.pk)
  cups : ∀ cup ∈ s.db.cups.rows, cup ∈ s₀.db.cups.rows ∨
    OfDelivered s.requests.rows cup.vpnClient
  links : ∀ link ∈ s.db.links.rows, link ∈ s₀.db.links.rows ∨
    OfDelivered s.requests.rows link.vpnClient
  items : ∀ item ∈ s.db.items.rows, item ∈ s₀.db.items.rows ∨
    ∃ cup ∈ s.db.cups.rows, item.cup = cup.pk ∧ OfDelivered s.requests.rows cup.vpnClient
  currentUsers : ∀ b, s.db.currentUsers b + deliveredOn s₀.requests.rows b =
    s₀.db.currentUsers b + deliveredOn s.requests.rows b

section Rows

variable {s₀ s s' : TrialSystem shop κ} {i : κ} {c : Call shop} {o : Outcome}

theorem OfDelivered.mono {rows rows' : List FreeTrialRequest} {client : Option ℕ}
    (h : OfDelivered rows client) (hrows : ∀ r ∈ rows, r.status = .delivered → r ∈ rows') :
    OfDelivered rows' client := by
  obtain ⟨r, hr, hstatus, hrest⟩ := h
  exact ⟨r, hrows r hr hstatus, hstatus, hrest⟩

omit [DecidableEq κ] in
/-- The local rows stay, and no trial is delivered. -/
theorem Accounted.keeps (h : Accounted s₀ s) (hdb : s'.db = s.db)
    (hrows : ∀ r ∈ s.requests.rows, r.status = .delivered → r ∈ s'.requests.rows)
    (hunlinked : ∀ r ∈ s'.requests.rows, s₀.requests.next ≤ r.pk → r.status ≠ .delivered →
      r.vpnClient = none)
    (hcount : ∀ b, deliveredOn s'.requests.rows b = deliveredOn s.requests.rows b) :
    Accounted s₀ s' where
  unlinked := hunlinked
  clients x hx := by
    rw [hdb] at hx
    exact (h.clients x hx).imp_right fun hd => hd.mono hrows
  cups x hx := by
    rw [hdb] at hx
    exact (h.cups x hx).imp_right fun hd => hd.mono hrows
  links x hx := by
    rw [hdb] at hx
    exact (h.links x hx).imp_right fun hd => hd.mono hrows
  items x hx := by
    rw [hdb] at hx ⊢
    exact (h.items x hx).imp_right fun ⟨cup, hcup, hpk, hd⟩ => ⟨cup, hcup, hpk, hd.mono hrows⟩
  currentUsers b := by
    rw [hdb, hcount]
    exact h.currentUsers b

omit [DecidableEq κ] in
theorem Accounted.of_requests_eq (h : Accounted s₀ s) (hdb : s'.db = s.db)
    (hrequests : s'.requests = s.requests) : Accounted s₀ s' := by
  apply h.keeps hdb
  · intro r hr _
    rwa [hrequests]
  · rw [hrequests]
    exact h.unlinked
  · intro b
    rw [hrequests]

omit [DecidableEq κ] in
/-- A change of the call's own request keeps those that were delivered. -/
theorem mem_of_delivered {r : FreeTrialRequest} (hr : r ∈ s.requests.rows)
    (hcreated : r.status = .created) (f : FreeTrialRequest → FreeTrialRequest) :
    ∀ q ∈ s.requests.rows, q.status = .delivered →
      q ∈ s.requests.rows.map fun x => if x.pk = r.pk then f x else x := by
  intro q hq hdelivered
  have hne : q.pk ≠ r.pk := by
    intro hpk
    obtain rfl := Serial.eq_of_key_eq hq hr hpk
    rw [hcreated] at hdelivered
    cases hdelivered
  exact List.mem_map.mpr ⟨q, hq, if_neg hne⟩

omit [DecidableEq κ] in
theorem deliveredOn_map {r : FreeTrialRequest} (hr : r ∈ s.requests.rows)
    (hcreated : r.status = .created) (f : FreeTrialRequest → FreeTrialRequest) (b : ℕ) :
    deliveredOn (s.requests.rows.map fun x => if x.pk = r.pk then f x else x) b =
      deliveredOn s.requests.rows b +
        if (f r).status = .delivered ∧ (f r).inbound = b then 1 else 0 := by
  have hcount := Serial.countP_modify hr f fun x => x.status = .delivered && x.inbound = b
  simpa [hcreated, deliveredOn] using hcount

omit [DecidableEq κ] in
theorem deliveredOn_append (rows : List FreeTrialRequest) {r : FreeTrialRequest}
    (hcreated : r.status = .created) (b : ℕ) :
    deliveredOn (rows ++ [r]) b = deliveredOn rows b := by
  simp [deliveredOn, List.countP_append, hcreated]

omit [DecidableEq κ] in
theorem Accounted.inserts (h : Accounted s₀ s) {r : FreeTrialRequest} (hdb : s'.db = s.db)
    (hrows : s'.requests.rows = s.requests.rows ++ [r]) (hcreated : r.status = .created)
    (hlink : r.vpnClient = none) : Accounted s₀ s' := by
  apply h.keeps hdb
  · intro q hq _
    rw [hrows]
    exact List.mem_append_left _ hq
  · intro q hq
    rw [hrows] at hq
    rcases List.mem_append.mp hq with hq | hq
    · exact h.unlinked q hq
    · intro _ _
      rw [List.mem_singleton.mp hq]
      exact hlink
  · intro b
    rw [hrows]
    exact deliveredOn_append _ hcreated b

omit [DecidableEq κ] in
theorem Accounted.fails (h : Accounted s₀ s) {r : FreeTrialRequest} (hr : r ∈ s.requests.rows)
    (hcreated : r.status = .created) {f : FreeTrialRequest → FreeTrialRequest} (hdb : s'.db = s.db)
    (hrows : s'.requests.rows = s.requests.rows.map fun x => if x.pk = r.pk then f x else x)
    (hfailed : (f r).status = .failed) (hlink : ∀ x, (f x).vpnClient = x.vpnClient)
    (hpk : ∀ x, (f x).pk = x.pk) : Accounted s₀ s' := by
  apply h.keeps hdb
  · rw [hrows]
    exact mem_of_delivered hr hcreated f
  · intro x hx hnew hstatus
    rw [hrows] at hx
    obtain ⟨q, hq, rfl⟩ := List.mem_map.mp hx
    by_cases hk : q.pk = r.pk
    · obtain rfl := Serial.eq_of_key_eq hq hr hk
      simp only [if_true, hlink, hpk] at hnew ⊢
      apply h.unlinked q hq hnew
      rw [hcreated]
      decide
    · simp only [if_neg hk] at hnew hstatus ⊢
      exact h.unlinked q hq hnew hstatus
  · intro b
    rw [hrows, deliveredOn_map hr hcreated, hfailed]
    simp

omit [DecidableEq κ] in
theorem Accounted.delivers (h : Accounted s₀ s) {r : FreeTrialRequest} (hr : r ∈ s.requests.rows)
    (hcreated : r.status = .created) {client : TrialClient} {settings : TrialSettings shop}
    (hinbound : r.inbound = settings.inbound) (hsaved : Saved settings client s.db s'.db)
    {now : Instant} (hrows : s'.requests.rows = s.requests.rows.map fun x =>
      if x.pk = r.pk then TrialSystem.delivered client s.db.clients.next now x else x) :
    Accounted s₀ s' := by
  have hkept {rowClient : Option ℕ} (hd : OfDelivered s.requests.rows rowClient) :
      OfDelivered s'.requests.rows rowClient := by
    rw [hrows]
    exact hd.mono (mem_of_delivered hr hcreated _)
  have hnew : OfDelivered s'.requests.rows (some s.db.clients.next) := by
    refine ⟨TrialSystem.delivered client s.db.clients.next now r, ?_, rfl, by simp, rfl⟩
    rw [hrows]
    exact List.mem_map.mpr ⟨r, hr, if_pos rfl⟩
  exact {
    unlinked := by
      intro x hx hfirst hstatus
      rw [hrows] at hx
      obtain ⟨q, hq, rfl⟩ := List.mem_map.mp hx
      by_cases hk : q.pk = r.pk
      · rw [if_pos hk] at hstatus
        exact absurd rfl hstatus
      · simp only [if_neg hk] at hfirst hstatus ⊢
        exact h.unlinked q hq hfirst hstatus
    clients := by
      intro x hx
      obtain ⟨new, hclients, hpk, -⟩ := hsaved.clients
      rw [hclients] at hx
      rcases List.mem_append.mp hx with hx | hx
      · exact (h.clients x hx).imp_right hkept
      · right
        rw [List.mem_singleton.mp hx, hpk]
        exact hnew
    cups := by
      intro x hx
      obtain ⟨new, hcups, -, hclient⟩ := hsaved.cups
      rw [hcups] at hx
      rcases List.mem_append.mp hx with hx | hx
      · exact (h.cups x hx).imp_right hkept
      · right
        rw [List.mem_singleton.mp hx, hclient]
        exact hnew
    links := by
      intro x hx
      rcases hsaved.links x hx with hx | hclient
      · exact (h.links x hx).imp_right hkept
      · right
        rw [hclient]
        exact hnew
    items := by
      intro x hx
      obtain ⟨new, hcups, hpk, hclient⟩ := hsaved.cups
      rw [hcups]
      rcases hsaved.items x hx with hx | hcup
      · exact (h.items x hx).imp_right fun ⟨cup, hcup, hx, hd⟩ =>
          ⟨cup, List.mem_append_left _ hcup, hx, hkept hd⟩
      · exact Or.inr ⟨new, by simp, hcup.trans hpk.symm, hclient ▸ hnew⟩
    currentUsers := by
      intro b
      have hb := h.currentUsers b
      rw [hrows, deliveredOn_map hr hcreated, hsaved.currentUsers]
      by_cases hsame : b = settings.inbound
      · subst hsame
        have hone : (TrialSystem.delivered client s.db.clients.next now r).status = .delivered ∧
            (TrialSystem.delivered client s.db.clients.next now r).inbound = settings.inbound :=
          ⟨rfl, hinbound⟩
        rw [if_pos hone, Function.update_self]
        omega
      · have hno : ¬ ((TrialSystem.delivered client s.db.clients.next now r).status = .delivered ∧
            (TrialSystem.delivered client s.db.clients.next now r).inbound = b) :=
          fun hd => hsame (hd.2.symm.trans hinbound)
        rw [if_neg hno, Function.update_of_ne hsame]
        omega }

theorem rows_modify_pk (t : TrialRequests) (k : ℕ) (f : FreeTrialRequest → FreeTrialRequest)
    (hf : ∀ r, (f r).pk = r.pk) :
    (t.modify (·.pk = k) f hf).rows = t.rows.map fun x => if x.pk = k then f x else x := by
  simp

theorem Accounted.does (h : Accounted s₀ s) (hown : Owned s₀.requests.next s)
    (hi : s.calls i = some c) (hdoes : Does s i c o s') : Accounted s₀ s' := by
  -- the call's own request
  have hrow {k : ℕ} (hpending : c.phase.pending = some k) : ∃ r ∈ s.requests.rows, r.pk = k ∧
      r.inbound = c.settings.inbound ∧ r.status = .created := by
    obtain ⟨r, hr, hpk, -, hinbound, hstatus⟩ :=
      hown.row ⟨hi, Phase.request_of_pending hpending⟩
    exact ⟨r, hr, hpk, hinbound, hstatus hpending⟩
  cases hdoes with
  | waits => exact h
  | passes _ _ _ _ _ _ _ => exact h.of_requests_eq rfl rfl
  | inserts _ _ => exact h.inserts rfl rfl rfl rfl
  | creates _ _ => exact h.of_requests_eq rfl rfl
  | loses _ _ => exact h.of_requests_eq rfl rfl
  | keeps _ _ => exact h.of_requests_eq rfl rfl
  | @delivers k client r db hphase hr hsave =>
      obtain ⟨x, hx, hpk, hinbound, hcreated⟩ := hrow (k := k) (by rw [hphase]; rfl)
      subst hpk
      have hrows := rows_modify_pk s.requests x.pk
        (TrialSystem.delivered client s.db.clients.next s.clock) fun _ => rfl
      exact h.delivers hx hcreated hinbound (saved_of_saveTrial hsave) hrows
  | givesUp _ _ => exact h.of_requests_eq rfl rfl
  | deletes _ _ => exact h.of_requests_eq rfl rfl
  | cannotDelete _ => exact h.of_requests_eq rfl rfl
  | @fails k error hphase =>
      obtain ⟨x, hx, hpk, -, hcreated⟩ := hrow (k := k) (by rw [hphase]; rfl)
      subst hpk
      have hrows := rows_modify_pk s.requests x.pk
        (fun r => { r with status := .failed, errorMessage := error }) fun _ => rfl
      exact h.fails hx hcreated rfl hrows rfl (fun _ => rfl) fun _ => rfl

theorem Accounted.step (h : Accounted s₀ s) (hown : Owned s₀.requests.next s) (a : TrialStep κ) :
    Accounted s₀ (s.step a) := by
  cases a with
  | tick duration => exact h.of_requests_eq rfl rfl
  | start i a store =>
      rcases step_start s i a store with hsame | ⟨-, settings, hstart⟩
      · rw [hsame]
        exact h
      · rw [hstart]
        exact h.of_requests_eq rfl rfl
  | advance i o =>
      simp only [TrialSystem.step]
      split
      · exact h
      · rename_i c hi
        exact h.does hown hi does_advance

end Rows

end Qasedak.FreeTrials
