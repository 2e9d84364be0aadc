import Qasedak.FreeTrials.Calls

/-! What one step of a call does to the requests, the locks, the local rows and the panels. -/

namespace Qasedak.FreeTrials

open Foundation Store

namespace Phase

/-- The request of the call, once there is one. -/
def request : Phase → Option ℕ
  | creating k | committing k _ | cleaning k _ _ | deleting k _ _ | failing k _ => some k
  | releasing k | returned k => k
  | _ => none

/-- The request of a call that has not settled it yet. -/
def pending : Phase → Option ℕ
  | creating k | committing k _ | cleaning k _ _ | deleting k _ _ | failing k _ => some k
  | _ => none

/-- The client that the call has on a panel, and neither saved nor deleted yet. -/
def held : Phase → Option TrialClient
  | committing _ client | cleaning _ client _ | deleting _ client _ => some client
  | _ => none

def checkedAt : Phase → Option Instant
  | inserting _ t => some t
  | _ => none

/-- The call has the row of its customer locked. -/
def InTransaction : Phase → Prop
  | checking _ | inserting _ _ => True
  | _ => False

theorem request_of_pending {p : Phase} {k : ℕ} (h : p.pending = some k) : p.request = some k := by
  cases p <;> simp_all [pending, request]

theorem pending_of_held {p : Phase} {client : TrialClient} {k : ℕ} (h : p.held = some client)
    (hk : p.request = some k) : p.pending = some k := by
  cases p <;> simp_all [pending, request, held]

end Phase

variable {κ : Type*} [DecidableEq κ] {shop : TrialShop}

namespace TrialSystem

@[simp] theorem set_calls_self {s : TrialSystem shop κ} {i : κ} {c : Call shop} (phase : Phase) :
    (s.set i c phase).calls i = some { c with phase := phase } := by
  simp [set]

theorem set_calls_of_ne {s : TrialSystem shop κ} {i j : κ} {c : Call shop} (phase : Phase)
    (h : j ≠ i) : (s.set i c phase).calls j = s.calls j := by
  simp [set, h]

end TrialSystem

/-- What a step of the call `i` can do. -/
inductive Does (s : TrialSystem shop κ) (i : κ) (c : Call shop) (o : Outcome) :
    TrialSystem shop κ → Prop
  | waits : Does s i c o s
  /-- Neither a request nor a client comes or goes. -/
  | passes {phase : Phase} {locks : Locks LockKey κ Instant} {rows : ℕ → Option κ}
      (hrequest : phase.request = c.phase.request) (hheld : phase.held = c.phase.held)
      (hpending : phase.pending = none ∨ phase.pending = c.phase.pending)
      (hlocks : ∀ key j, j ≠ i → locks.HeldBy key j → s.locks.HeldBy key j)
      (hrows : ∀ customer, rows customer = s.rows customer ∨ customer ∈ c.applicant.customer ∧
        (s.rows customer = none ∨ c.phase.InTransaction))
      (hown : phase.InTransaction → ∀ customer ∈ c.applicant.customer, rows customer = some i ∨
        rows = s.rows ∧ c.phase.InTransaction)
      (hchecked : ∀ t ∈ phase.checkedAt, t = s.clock ∧
        nextAvailableAt s.requests.rows c.applicant c.settings.cooldownDays s.clock = none) :
      Does s i c o { s.set i c phase with locks := locks, rows := rows }
  | inserts {now t : Instant} (hphase : c.phase = .inserting now t) (hfault : o.fault = none) :
      Does s i c o
        { s.set i c (.creating s.requests.next) with
          rows := s.unlockRow c
          requests := s.requests.append (s.newRequest c now) fun _ => rfl }
  | creates {k : ℕ} {client : TrialClient} (hphase : c.phase = .creating k)
      (hcreation : o.creation = .made client) :
      Does s i c o (s.created i c client (.committing k client))
  | loses {k : ℕ} {client : TrialClient} {error : String} (hphase : c.phase = .creating k)
      (hcreation : o.creation = .lost client) :
      Does s i c o (s.created i c client (.failing k error))
  | keeps {k : ℕ} {client : TrialClient} {error : String} (hphase : c.phase = .creating k)
      (hcreation : o.creation = .kept client) :
      Does s i c o { s.created i c client (.failing k error) with undeleted := i :: s.undeleted }
  | delivers {k : ℕ} {client : TrialClient} {r : FreeTrialRequest} {db : TrialDb}
      (hphase : c.phase = .committing k client) (hr : s.requests.get? k = some r)
      (hsave : saveTrial shop s.db c.settings r client = .ok db) :
      Does s i c o
        { s.set i c (.releasing (some k)) with
          db := db
          requests := s.requests.modify (·.pk = k)
            (TrialSystem.delivered client s.db.clients.next s.clock) fun _ => rfl }
  /-- The client is left on its panel. -/
  | givesUp {k : ℕ} {client : TrialClient} {cause error : String}
      (hphase : c.phase = .cleaning k client cause)
      (hwhy : o.fault ≠ none ∨ s.IsOwned c client) :
      Does s i c o (s.set i c (.failing k error))
  | deletes {k : ℕ} {client : TrialClient} {cause error : String} {undeleted : List κ}
      (hphase : c.phase = .deleting k client cause) (hundeleted : s.undeleted ⊆ undeleted) :
      Does s i c o
        { s.set i c (.failing k error) with
          panelClients := s.remaining c client
          undeleted := undeleted }
  | cannotDelete {k : ℕ} {client : TrialClient} {cause error : String}
      (hphase : c.phase = .deleting k client cause) :
      Does s i c o { s.set i c (.failing k error) with undeleted := i :: s.undeleted }
  | fails {k : ℕ} {error : String} (hphase : c.phase = .failing k error) :
      Does s i c o
        { s.set i c (.releasing (some k)) with
          requests := s.requests.modify (·.pk = k)
            (fun r => { r with status := .failed, errorMessage := error }) fun _ => rfl }

section Inversion

variable {s : TrialSystem shop κ} {i : κ} {c : Call shop} {o : Outcome}

/-- A step outside the transaction that leaves the locks as they are. -/
theorem Does.moves {phase : Phase} (hrequest : phase.request = c.phase.request)
    (hheld : phase.held = c.phase.held)
    (hpending : phase.pending = none ∨ phase.pending = c.phase.pending)
    (hout : ¬ phase.InTransaction) : Does s i c o (s.set i c phase) := by
  apply Does.passes hrequest hheld hpending
  · intro key j _ h
    exact h
  · intro customer
    exact Or.inl rfl
  · intro hin
    exact absurd hin hout
  · intro t ht
    cases phase <;> simp [Phase.checkedAt, Phase.InTransaction] at ht hout

omit [DecidableEq κ] in
theorem rows_unlockRow (customer : ℕ) :
    s.unlockRow c customer = s.rows customer ∨ customer ∈ c.applicant.customer := by
  simp only [TrialSystem.unlockRow]
  cases hcustomer : c.applicant.customer with
  | none => exact Or.inl rfl
  | some x =>
      by_cases h : customer = x
      · right
        simp [h]
      · left
        simp [h]

/-- The transaction ends without a request. -/
theorem Does.rollsBack (hin : c.phase.InTransaction) :
    Does s i c o { s.set i c (.releasing none) with rows := s.unlockRow c } := by
  have hnone : c.phase.request = none ∧ c.phase.held = none := by
    cases h : c.phase <;> simp [h, Phase.InTransaction, Phase.request, Phase.held] at hin ⊢
  apply Does.passes
  · rw [hnone.1]
    rfl
  · rw [hnone.2]
    rfl
  · exact Or.inl rfl
  · intro key j _ h
    exact h
  · intro customer
    rcases rows_unlockRow (s := s) (c := c) customer with h | h
    · exact Or.inl h
    · exact Or.inr ⟨h, Or.inr hin⟩
  · intro h
    cases h
  · intro t ht
    cases ht

theorem does_precheck (hphase : c.phase = .prechecking) : Does s i c o (s.precheck i c o) := by
  simp only [TrialSystem.precheck]
  split
  · exact Does.moves (by rw [hphase]; rfl) (by rw [hphase]; rfl) (Or.inl rfl) id
  · exact Does.moves (by rw [hphase]; rfl) (by rw [hphase]; rfl) (Or.inl rfl) id

theorem does_lock (hphase : c.phase = .locking) : Does s i c o (s.lock i c o) := by
  have hmoves {phase : Phase} (hrequest : phase.request = none) (hheld : phase.held = none)
      (hpending : phase.pending = none) (hout : ¬ phase.InTransaction) :
      Does s i c o (s.set i c phase) :=
    Does.moves (by rw [hrequest, hphase]; rfl) (by rw [hheld, hphase]; rfl) (Or.inl hpending) hout
  simp only [TrialSystem.lock]
  split
  · exact hmoves rfl rfl rfl id
  · exact hmoves rfl rfl rfl id
  · split
    · apply Does.passes
      · rw [hphase]
        rfl
      · rw [hphase]
        rfl
      · exact Or.inl rfl
      · intro key j hj h
        exact h.of_add hj
      · intro customer
        exact Or.inl rfl
      · intro h
        cases h
      · intro t ht
        cases ht
    · exact hmoves rfl rfl rfl id

theorem does_openTransaction {now : Instant} (hphase : c.phase = .opening now) :
    Does s i c o (s.openTransaction i c o now) := by
  simp only [TrialSystem.openTransaction]
  split
  · exact Does.moves (by rw [hphase]; rfl) (by rw [hphase]; rfl) (Or.inl rfl) id
  · split
    · rename_i hfree
      apply Does.passes
      · rw [hphase]
        rfl
      · rw [hphase]
        rfl
      · exact Or.inl rfl
      · intro key j _ h
        exact h
      · intro customer
        by_cases hcustomer : customer ∈ c.applicant.customer
        · exact Or.inr ⟨hcustomer, Or.inl (hfree customer hcustomer)⟩
        · left
          simp only [TrialSystem.lockRow]
          cases hx : c.applicant.customer with
          | none => rfl
          | some x =>
              have hne : customer ≠ x := by
                rintro rfl
                exact hcustomer hx
              simp [hne]
      · intro _ customer hcustomer
        left
        simp only [Option.mem_def] at hcustomer
        simp [TrialSystem.lockRow, hcustomer]
      · intro t ht
        cases ht
    · exact Does.waits

theorem does_check {now : Instant} (hphase : c.phase = .checking now) :
    Does s i c o (s.check i c o now) := by
  have hin : c.phase.InTransaction := by
    rw [hphase]
    trivial
  simp only [TrialSystem.check]
  split
  · rename_i h
    apply Does.passes
    · rw [hphase]
      rfl
    · rw [hphase]
      rfl
    · exact Or.inl rfl
    · intro key j _ h
      exact h
    · intro customer
      exact Or.inl rfl
    · intro _ customer _
      exact Or.inr ⟨rfl, hin⟩
    · intro t ht
      simp only [Phase.checkedAt, Option.mem_def, Option.some.injEq] at ht
      exact ⟨ht.symm, h.2⟩
  · exact Does.rollsBack hin

theorem does_insert {now t : Instant} (hphase : c.phase = .inserting now t) :
    Does s i c o (s.insert i c o now) := by
  simp only [TrialSystem.insert]
  split
  · apply Does.rollsBack
    rw [hphase]
    trivial
  · rename_i h
    exact Does.inserts hphase (not_not.mp h)

theorem does_create {k : ℕ} (hphase : c.phase = .creating k) :
    Does s i c o (s.create i c o k) := by
  simp only [TrialSystem.create]
  split
  · exact Does.moves (by rw [hphase]; rfl) (by rw [hphase]; rfl) (Or.inr (by rw [hphase]; rfl)) id
  · rename_i h
    exact Does.creates hphase h
  · rename_i h
    exact Does.loses hphase h
  · rename_i h
    exact Does.keeps hphase h

theorem does_commit {k : ℕ} {client : TrialClient} (hphase : c.phase = .committing k client) :
    Does s i c o (s.commit i c o k client) := by
  simp only [TrialSystem.commit]
  split
  · exact Does.moves (by rw [hphase]; rfl) (by rw [hphase]; rfl) (Or.inr (by rw [hphase]; rfl)) id
  · rename_i db hsaved
    split at hsaved
    · rename_i r _ hr
      exact Does.delivers hphase hr hsaved
    · cases hsaved
    · cases hsaved

theorem does_clean {k : ℕ} {client : TrialClient} {error : String}
    (hphase : c.phase = .cleaning k client error) : Does s i c o (s.clean i c o k client error) := by
  simp only [TrialSystem.clean]
  split
  · rename_i h
    exact Does.givesUp hphase (Or.inl (by simp [h]))
  · split
    · rename_i howned
      exact Does.givesUp hphase (Or.inr howned)
    · exact Does.moves (by rw [hphase]; rfl) (by rw [hphase]; rfl) (Or.inr (by rw [hphase]; rfl)) id

theorem does_delete {k : ℕ} {client : TrialClient} {error : String}
    (hphase : c.phase = .deleting k client error) :
    Does s i c o (s.delete i c o k client error) := by
  simp only [TrialSystem.delete]
  split
  · exact Does.deletes hphase (List.Subset.refl _)
  · exact Does.cannotDelete hphase
  · exact Does.deletes hphase (List.subset_cons_self i s.undeleted)

theorem does_fail {k : ℕ} {error : String} (hphase : c.phase = .failing k error) :
    Does s i c o (s.fail i c o k error) := by
  simp only [TrialSystem.fail]
  split
  · exact Does.moves (by rw [hphase]; rfl) (by rw [hphase]; rfl) (Or.inl rfl) id
  · exact Does.fails hphase

theorem does_release {request : Option ℕ} (hphase : c.phase = .releasing request) :
    Does s i c o (s.release i c o request) := by
  simp only [TrialSystem.release]
  split
  · apply Does.passes
    · rw [hphase]
      rfl
    · rw [hphase]
      rfl
    · exact Or.inl rfl
    · intro key j _ h
      exact h.of_delete
    · intro customer
      exact Or.inl rfl
    · intro h
      cases h
    · intro t ht
      cases ht
  · exact Does.moves (by rw [hphase]; rfl) (by rw [hphase]; rfl) (Or.inl rfl) id

theorem does_advance : Does s i c o (s.advance i c o) := by
  simp only [TrialSystem.advance]
  cases hphase : c.phase with
  | prechecking => exact does_precheck hphase
  | locking => exact does_lock hphase
  | opening now => exact does_openTransaction hphase
  | checking now => exact does_check hphase
  | inserting now t => exact does_insert hphase
  | creating k => exact does_create hphase
  | committing k client => exact does_commit hphase
  | cleaning k client error => exact does_clean hphase
  | deleting k client error => exact does_delete hphase
  | failing k error => exact does_fail hphase
  | releasing request => exact does_release hphase
  | returned request => exact Does.waits

end Inversion

theorem step_start (s : TrialSystem shop κ) (i : κ) (a : Applicant) (store : TrialStore) :
    s.step (.start i a store) = s ∨ s.calls i = none ∧ ∃ settings,
      s.step (.start i a store) = s.set i ⟨a, settings, .prechecking⟩ .prechecking := by
  simp only [TrialSystem.step]
  split
  · rename_i hi
    simp only [TrialSystem.start]
    split
    · exact Or.inl rfl
    · split
      · exact Or.inl rfl
      · exact Or.inr ⟨hi, _, rfl⟩
  · exact Or.inl rfl

end Qasedak.FreeTrials
