import Qasedak.FreeTrials.Steps

/-! The requests of the calls: each call inserts one at most, and no other call changes it. -/

namespace Qasedak.FreeTrials

open Foundation Store

variable {κ : Type*} [DecidableEq κ] {shop : TrialShop}

/-! ## Steps that insert no request -/

/-- The call has a request. -/
structure Asks (s : TrialSystem shop κ) (i : κ) (c : Call shop) (k : ℕ) : Prop where
  call : s.calls i = some c
  request : c.phase.request = some k

/-- The call `i` goes on to `phase`, and changes at most its own request, when it settles it. -/
structure Keeps (s s' : TrialSystem shop κ) (i : κ) (c : Call shop) (phase : Phase)
    (g : FreeTrialRequest → FreeTrialRequest) : Prop where
  caller : c.phase.InTransaction → s.calls i = some c
  calls : s'.calls = (s.set i c phase).calls
  clock : s'.clock = s.clock
  rows : s'.requests.rows = s.requests.rows.map g
  next : s'.requests.next = s.requests.next
  asks : ∀ k, phase.request = some k → Asks s i c k
  pending : ∀ k, phase.pending = some k → c.phase.pending = some k
  pk : ∀ r, (g r).pk = r.pk
  applicant : ∀ r, (g r).applicant = r.applicant
  inbound : ∀ r, (g r).inbound = r.inbound
  createdAt : ∀ r, (g r).createdAt = r.createdAt
  others : ∀ r, phase.request ≠ some r.pk ∨ phase.pending = some r.pk → g r = r
  counts : ∀ r ∈ s.requests.rows, (g r).status.Counts → r.status.Counts
  locks : ∀ key j, j ≠ i → s'.locks.HeldBy key j → s.locks.HeldBy key j
  rowLocks : ∀ customer, s'.rows customer = s.rows customer ∨
    customer ∈ c.applicant.customer ∧ (s.rows customer = none ∨ c.phase.InTransaction)
  own : phase.InTransaction → ∀ customer ∈ c.applicant.customer, s'.rows customer = some i ∨
    s'.rows = s.rows ∧ c.phase.InTransaction
  checked : ∀ t ∈ phase.checkedAt, t = s.clock ∧
    nextAvailableAt s.requests.rows c.applicant c.settings.cooldownDays s.clock = none

/-! ## The requests of the calls -/

/-- The requests that the calls made, the first of them under the key `first`. -/
structure Owned (first : ℕ) (s : TrialSystem shop κ) : Prop where
  row : ∀ {i c k}, Asks s i c k → ∃ r ∈ s.requests.rows, r.pk = k ∧
    r.applicant = c.applicant ∧ r.inbound = c.settings.inbound ∧
    (c.phase.pending = some k → r.status = .created)
  alone : ∀ {i j c d k}, Asks s i c k → Asks s j d k → i = j
  new : ∀ {i c k}, Asks s i c k → first ≤ k
  next : first ≤ s.requests.next

section Requests

variable {first : ℕ} {s s' : TrialSystem shop κ} {i j : κ} {c d : Call shop} {k : ℕ} {phase : Phase}
variable {g : FreeTrialRequest → FreeTrialRequest}

omit [DecidableEq κ] in
theorem Owned.lt_next (h : Owned first s) (hk : Asks s i c k) : k < s.requests.next := by
  obtain ⟨r, hr, rfl, -⟩ := h.row hk
  exact s.requests.keys_lt r hr

theorem Keeps.call_self (h : Keeps s s' i c phase g) (hd : s'.calls i = some d) :
    d = { c with phase := phase } := by
  rw [h.calls, TrialSystem.set_calls_self] at hd
  exact (Option.some.inj hd).symm

theorem Keeps.call_of_ne (h : Keeps s s' i c phase g) (hji : j ≠ i) : s'.calls j = s.calls j := by
  rw [h.calls, TrialSystem.set_calls_of_ne phase hji]

/-- Who has a request had it before. -/
theorem Keeps.asked (h : Keeps s s' i c phase g) (hd : Asks s' j d k) :
    ∃ d', Asks s j d' k ∧ d'.applicant = d.applicant ∧ d'.settings = d.settings := by
  by_cases hji : j = i
  · subst hji
    have hself := h.call_self hd.call
    subst hself
    exact ⟨c, h.asks k hd.request, rfl, rfl⟩
  · have hcall := hd.call
    rw [h.call_of_ne hji] at hcall
    exact ⟨d, ⟨hcall, hd.request⟩, rfl, rfl⟩

theorem Owned.keeps (h : Owned first s) (hk : Keeps s s' i c phase g) : Owned first s' where
  row := by
    intro j d k hd
    rw [hk.rows]
    by_cases hji : j = i
    · subst hji
      have hself := hk.call_self hd.call
      subst hself
      obtain ⟨r, hr, hpk, happlicant, hinbound, hstatus⟩ := h.row (hk.asks k hd.request)
      refine ⟨g r, List.mem_map_of_mem hr, (hk.pk r).trans hpk, (hk.applicant r).trans happlicant,
        (hk.inbound r).trans hinbound, fun hpending => ?_⟩
      rw [hk.others r (Or.inr (hpk ▸ hpending))]
      exact hstatus (hk.pending k hpending)
    · have hd : Asks s j d k := ⟨hk.call_of_ne hji ▸ hd.call, hd.request⟩
      obtain ⟨r, hr, hpk, hrest⟩ := h.row hd
      have hsame : g r = r := by
        apply hk.others
        left
        intro hphase
        rw [hpk] at hphase
        exact hji (h.alone hd (hk.asks k hphase))
      exact ⟨r, List.mem_map.mpr ⟨r, hr, hsame⟩, hpk, hrest⟩
  alone := by
    intro j j' d d' k hd hd'
    obtain ⟨_, he, -⟩ := hk.asked hd
    obtain ⟨_, he', -⟩ := hk.asked hd'
    exact h.alone he he'
  new := by
    intro j d k hd
    obtain ⟨_, he, -⟩ := hk.asked hd
    exact h.new he
  next := by
    rw [hk.next]
    exact h.next

/-- Who has a request after the insertion has the new one or had it before. -/
theorem asked_of_insert {rows : ℕ → Option κ} {r : ℕ → FreeTrialRequest} {hr : ∀ k, (r k).pk = k}
    (hd : Asks { s.set i c (.creating s.requests.next) with
      rows := rows, requests := s.requests.append r hr } j d k) :
    j = i ∧ k = s.requests.next ∧ d = { c with phase := .creating s.requests.next } ∨
      j ≠ i ∧ Asks s j d k := by
  by_cases hji : j = i
  · subst hji
    have hcall := hd.call
    simp only [TrialSystem.set_calls_self, Option.some.injEq] at hcall
    subst hcall
    exact Or.inl ⟨rfl, (Option.some.inj hd.request).symm, rfl⟩
  · have hcall := hd.call
    simp only [TrialSystem.set_calls_of_ne _ hji] at hcall
    exact Or.inr ⟨hji, hcall, hd.request⟩

theorem Owned.inserts (h : Owned first s) (rows : ℕ → Option κ) (now : Instant) :
    Owned first
      { s.set i c (.creating s.requests.next) with
        rows := rows
        requests := s.requests.append (s.newRequest c now) fun _ => rfl } where
  row := by
    intro j d k hd
    rcases asked_of_insert hd with ⟨rfl, rfl, rfl⟩ | ⟨-, hold⟩
    · exact ⟨s.newRequest c now s.requests.next, by simp [Serial.append], rfl, rfl, rfl, fun _ => rfl⟩
    · obtain ⟨r, hr, hrest⟩ := h.row hold
      exact ⟨r, List.mem_append_left _ hr, hrest⟩
  alone := by
    intro j j' d d' k hd hd'
    rcases asked_of_insert hd with ⟨rfl, rfl, rfl⟩ | ⟨-, hold⟩
    · rcases asked_of_insert hd' with ⟨rfl, -, -⟩ | ⟨-, hd'⟩
      · rfl
      · exact absurd (h.lt_next hd') (lt_irrefl _)
    · rcases asked_of_insert hd' with ⟨rfl, rfl, rfl⟩ | ⟨-, hold'⟩
      · exact absurd (h.lt_next hold) (lt_irrefl _)
      · exact h.alone hold hold'
  new := by
    intro j d k hd
    rcases asked_of_insert hd with ⟨rfl, rfl, rfl⟩ | ⟨-, hold⟩
    · exact h.next
    · exact h.new hold
  next := Nat.le_succ_of_le h.next

/-! ## Every step -/

/-- A call goes on, and nothing but the panels or the local rows may change. -/
theorem keeps_of_moves (hi : s.calls i = some c) (hcalls : s'.calls = (s.set i c phase).calls)
    (hclock : s'.clock = s.clock) (hrequests : s'.requests = s.requests)
    (hlocks : s'.locks = s.locks) (hrows : s'.rows = s.rows)
    (hrequest : phase.request = c.phase.request) (hpending : phase.pending = c.phase.pending)
    (hout : ¬ phase.InTransaction) : Keeps s s' i c phase id where
  caller _ := hi
  calls := hcalls
  clock := hclock
  rows := by rw [hrequests, List.map_id]
  next := by rw [hrequests]
  asks k hk := ⟨hi, hrequest ▸ hk⟩
  pending k hk := hpending ▸ hk
  pk _ := rfl
  applicant _ := rfl
  inbound _ := rfl
  createdAt _ := rfl
  others _ _ := rfl
  counts _ _ h := h
  locks key j _ h := by rwa [hlocks] at h
  rowLocks customer := by
    rw [hrows]
    exact Or.inl rfl
  own h := absurd h hout
  checked t ht := by cases phase <;> simp [Phase.checkedAt, Phase.InTransaction] at ht hout

/-- A call settles its request. -/
theorem keeps_of_settles (h : Owned first s) (hi : s.calls i = some c)
    (hphase : c.phase.pending = some k) (f : FreeTrialRequest → FreeTrialRequest)
    (hpk : ∀ r, (f r).pk = r.pk) (happlicant : ∀ r, (f r).applicant = r.applicant)
    (hinbound : ∀ r, (f r).inbound = r.inbound) (hcreatedAt : ∀ r, (f r).createdAt = r.createdAt)
    {db : TrialDb} :
    Keeps s { s.set i c (.releasing (some k)) with
      db := db, requests := s.requests.modify (·.pk = k) f hpk } i c (.releasing (some k))
      (fun r => if r.pk = k then f r else r) where
  caller _ := hi
  calls := rfl
  clock := rfl
  rows := by simp
  next := rfl
  asks k' hk' := by
    obtain rfl := Option.some.inj hk'
    exact ⟨hi, Phase.request_of_pending hphase⟩
  pending k' hk' := by cases hk'
  pk r := by
    split
    · exact hpk r
    · rfl
  applicant r := by
    split
    · exact happlicant r
    · rfl
  inbound r := by
    split
    · exact hinbound r
    · rfl
  createdAt r := by
    split
    · exact hcreatedAt r
    · rfl
  others r hr := by
    have hne : r.pk ≠ k := by
      rcases hr with hr | hr
      · intro hk
        exact hr (congrArg some hk.symm)
      · cases hr
    rw [if_neg hne]
  counts r hr hcounts := by
    by_cases hk : r.pk = k
    · -- the call's own request counts until it is settled
      obtain ⟨x, hx, hxk, -, -, hstatus⟩ := h.row ⟨hi, Phase.request_of_pending hphase⟩
      obtain rfl : x = r := Serial.eq_of_key_eq hx hr (hxk.trans hk.symm)
      exact Or.inl (hstatus hphase)
    · rwa [if_neg hk] at hcounts
  locks _ _ _ hheld := hheld
  rowLocks _ := Or.inl rfl
  own hin := by cases hin
  checked t ht := by cases ht

/-- What a step does to the requests, the locks and the calls. -/
theorem Does.requests (h : Owned first s) (hi : s.calls i = some c) {o : Outcome}
    (hdoes : Does s i c o s') :
    s' = s ∨ (∃ now t, c.phase = .inserting now t ∧ o.fault = none ∧ s' =
      { s.set i c (.creating s.requests.next) with
        rows := s.unlockRow c
        requests := s.requests.append (s.newRequest c now) fun _ => rfl }) ∨
      ∃ phase g, Keeps s s' i c phase g := by
  cases hdoes with
  | waits => exact Or.inl rfl
  | @inserts now t hphase hfault => exact Or.inr (Or.inl ⟨now, t, hphase, hfault, rfl⟩)
  | @passes phase _ _ hrequest hheld hpending hlocks hrows hown hchecked =>
      refine Or.inr (Or.inr ⟨phase, id, ?_⟩)
      exact {
        caller := fun _ => hi
        calls := rfl
        clock := rfl
        rows := (List.map_id _).symm
        next := rfl
        asks := fun k hk => ⟨hi, hrequest ▸ hk⟩
        pending := fun k hk => by
          rcases hpending with hnone | hsame
          · rw [hnone] at hk
            cases hk
          · rwa [hsame] at hk
        pk := fun _ => rfl
        applicant := fun _ => rfl
        inbound := fun _ => rfl
        createdAt := fun _ => rfl
        others := fun _ _ => rfl
        counts := fun _ _ h => h
        locks := hlocks
        rowLocks := hrows
        own := hown
        checked := hchecked }
  | creates hphase _ =>
      exact Or.inr (Or.inr ⟨_, id, keeps_of_moves hi rfl rfl rfl rfl rfl (by rw [hphase]; rfl)
        (by rw [hphase]; rfl) id⟩)
  | loses hphase _ =>
      exact Or.inr (Or.inr ⟨_, id, keeps_of_moves hi rfl rfl rfl rfl rfl (by rw [hphase]; rfl)
        (by rw [hphase]; rfl) id⟩)
  | keeps hphase _ =>
      exact Or.inr (Or.inr ⟨_, id, keeps_of_moves hi rfl rfl rfl rfl rfl (by rw [hphase]; rfl)
        (by rw [hphase]; rfl) id⟩)
  | @delivers _ client _ _ hphase _ _ =>
      exact Or.inr (Or.inr ⟨_, _, keeps_of_settles h hi (by rw [hphase]; rfl)
        (TrialSystem.delivered client s.db.clients.next s.clock) (fun _ => rfl) (fun _ => rfl)
        (fun _ => rfl) (fun _ => rfl)⟩)
  | givesUp hphase _ =>
      exact Or.inr (Or.inr ⟨_, id, keeps_of_moves hi rfl rfl rfl rfl rfl (by rw [hphase]; rfl)
        (by rw [hphase]; rfl) id⟩)
  | deletes hphase _ =>
      exact Or.inr (Or.inr ⟨_, id, keeps_of_moves hi rfl rfl rfl rfl rfl (by rw [hphase]; rfl)
        (by rw [hphase]; rfl) id⟩)
  | cannotDelete hphase =>
      exact Or.inr (Or.inr ⟨_, id, keeps_of_moves hi rfl rfl rfl rfl rfl (by rw [hphase]; rfl)
        (by rw [hphase]; rfl) id⟩)
  | @fails _ error hphase =>
      exact Or.inr (Or.inr ⟨_, _, keeps_of_settles h hi (by rw [hphase]; rfl)
        (fun r => { r with status := .failed, errorMessage := error }) (fun _ => rfl)
        (fun _ => rfl) (fun _ => rfl) (fun _ => rfl)⟩)

theorem keeps_of_start (a : Applicant) (settings : TrialSettings shop) :
    Keeps s (s.set i ⟨a, settings, .prechecking⟩ .prechecking) i ⟨a, settings, .prechecking⟩
      .prechecking id where
  caller h := by cases h
  calls := rfl
  clock := rfl
  rows := (List.map_id _).symm
  next := rfl
  asks k hk := by cases hk
  pending k hk := by cases hk
  pk _ := rfl
  applicant _ := rfl
  inbound _ := rfl
  createdAt _ := rfl
  others _ _ := rfl
  counts _ _ h := h
  locks _ _ _ h := h
  rowLocks _ := Or.inl rfl
  own h := by cases h
  checked t ht := by cases ht

omit [DecidableEq κ] in
theorem Owned.tick (h : Owned first s) (t : Instant) : Owned first { s with clock := t } where
  row hd := h.row ⟨hd.call, hd.request⟩
  alone hd hd' := h.alone ⟨hd.call, hd.request⟩ ⟨hd'.call, hd'.request⟩
  new hd := h.new ⟨hd.call, hd.request⟩
  next := h.next

theorem Owned.step (h : Owned first s) (a : TrialStep κ) : Owned first (s.step a) := by
  cases a with
  | tick duration => exact h.tick _
  | start i a store =>
      rcases step_start s i a store with hsame | ⟨-, settings, hstart⟩
      · rw [hsame]
        exact h
      · rw [hstart]
        exact h.keeps (keeps_of_start a settings)
  | advance i o =>
      simp only [TrialSystem.step]
      split
      · exact h
      · rename_i c hi
        rcases does_advance.requests h hi with hsame | ⟨now, t, -, -, hsame⟩ | ⟨phase, g, hkeeps⟩
        · rw [hsame]
          exact h
        · rw [hsame]
          exact h.inserts _ now
        · exact h.keeps hkeeps

end Requests

end Qasedak.FreeTrials
