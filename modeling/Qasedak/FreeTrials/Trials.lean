import Qasedak.FreeTrials.Requests
import Qasedak.Foundation.Run
import Qasedak.FreeTrials.Cleanup

/-! One free trial per cooldown, as long as no call inserts its request after its lock was taken
from it. -/

namespace Qasedak.FreeTrials

open Foundation Store

variable {κ : Type*} [DecidableEq κ] {shop : TrialShop}

/-- A call that inserts a request for a Telegram user still has the lock that it added. -/
def KeepsLock (s : TrialSystem shop κ) : TrialStep κ → Prop
  | .advance i o => ∀ c ∈ s.calls i, c.phase.checkedAt ≠ none → o.fault = none →
      c.applicant.telegramUserId ≠ "" → s.locks.HeldBy (.telegram c.applicant.telegramUserId) i
  | _ => True

instance (s : TrialSystem shop κ) (a : TrialStep κ) : Decidable (KeepsLock s a) :=
  match a with
  | .advance i o => inferInstanceAs (Decidable (∀ c ∈ s.calls i, c.phase.checkedAt ≠ none →
      o.fault = none → c.applicant.telegramUserId ≠ "" →
        s.locks.HeldBy (.telegram c.applicant.telegramUserId) i))
  | .start _ _ _ => inferInstanceAs (Decidable True)
  | .tick _ => inferInstanceAs (Decidable True)

/-- Two requests of one person that count are a cooldown apart, namely that of the call that made
the later one. -/
def OnePerCooldown (s : TrialSystem shop κ) : Prop :=
  ∀ i c k, Asks s i c k → ∀ r ∈ s.requests.rows, r.pk = k → r.status.Counts →
    ∀ q ∈ s.requests.rows, q.pk < k → q.status.Counts → c.applicant.SamePerson q.applicant →
      q.createdAt + Revenue.days c.settings.cooldownDays ≤ r.createdAt

/-- What protects the call's check against the requests of others: the row of the customer, and the
lock of the Telegram user while the call has it. -/
def Protected (s : TrialSystem shop κ) (i : κ) (a b : Applicant) : Prop :=
  a.customer ≠ none ∧ b.customer = a.customer ∨
    a.telegramUserId ≠ "" ∧ b.telegramUserId = a.telegramUserId ∧
      s.locks.HeldBy (.telegram a.telegramUserId) i

structure Cooled (s : TrialSystem shop κ) : Prop where
  locked : ∀ {i c}, s.calls i = some c → c.phase.InTransaction →
    ∀ customer ∈ c.applicant.customer, s.rows customer = some i
  checked : ∀ {i c t}, s.calls i = some c → c.phase.checkedAt = some t → t ≤ s.clock ∧
    ∀ r ∈ s.requests.rows, r.status.Counts → Protected s i c.applicant r.applicant →
      r.createdAt + Revenue.days c.settings.cooldownDays ≤ t
  apart : OnePerCooldown s

omit [DecidableEq κ] in
theorem Protected.samePerson {s : TrialSystem shop κ} {i : κ} {a b : Applicant}
    (h : Protected s i a b) : a.SamePerson b := by
  rcases h with h | h
  · exact Or.inl h
  · exact Or.inr ⟨h.1, h.2.1⟩

section Steps

variable {first : ℕ} {s s' : TrialSystem shop κ} {i j : κ} {c d : Call shop} {phase : Phase}
variable {g : FreeTrialRequest → FreeTrialRequest}

theorem inTransaction_of_checkedAt {p : Phase} {t : Instant} (h : p.checkedAt = some t) :
    p.InTransaction := by
  cases p <;> simp [Phase.checkedAt, Phase.InTransaction] at h ⊢

omit [DecidableEq κ] in
/-- The row that another call has locked stays locked. -/
theorem Cooled.row_kept (h : Cooled s) (hi : c.phase.InTransaction → s.calls i = some c)
    (hj : s.calls j = some d) (hji : j ≠ i) (hin : d.phase.InTransaction) {customer : ℕ}
    (hcustomer : customer ∈ d.applicant.customer) {rows : ℕ → Option κ}
    (hrows : rows customer = s.rows customer ∨
      customer ∈ c.applicant.customer ∧ (s.rows customer = none ∨ c.phase.InTransaction)) :
    rows customer = some j := by
  have hheld := h.locked hj hin customer hcustomer
  rcases hrows with hsame | ⟨hc, hnone | hci⟩
  · rw [hsame]
    exact hheld
  · rw [hnone] at hheld
    cases hheld
  · have hother := h.locked (hi hci) hci customer hc
    rw [hheld] at hother
    exact absurd (Option.some.inj hother) hji

theorem Cooled.keeps (h : Cooled s) (hk : Keeps s s' i c phase g) : Cooled s' where
  locked := by
    intro j d hd hin customer hcustomer
    by_cases hji : j = i
    · subst hji
      have hself := hk.call_self hd
      subst hself
      rcases hk.own hin customer hcustomer with hown | ⟨hsame, hc⟩
      · exact hown
      · rw [hsame]
        exact h.locked (hk.caller hc) hc customer hcustomer
    · rw [hk.call_of_ne hji] at hd
      exact h.row_kept hk.caller hd hji hin hcustomer (hk.rowLocks customer)
  checked := by
    intro j d t hd ht
    rw [hk.clock, hk.rows]
    by_cases hji : j = i
    · subst hji
      have hself := hk.call_self hd
      subst hself
      obtain ⟨rfl, hnone⟩ := hk.checked t ht
      refine ⟨le_refl _, fun r' hr' hcounts hprotected => ?_⟩
      obtain ⟨r, hr, rfl⟩ := List.mem_map.mp hr'
      rw [hk.applicant] at hprotected
      rw [hk.createdAt]
      exact cooldown_over hnone hr hprotected.samePerson (hk.counts r hr hcounts)
    · rw [hk.call_of_ne hji] at hd
      obtain ⟨hle, hold⟩ := h.checked hd ht
      refine ⟨hle, fun r' hr' hcounts hprotected => ?_⟩
      obtain ⟨r, hr, rfl⟩ := List.mem_map.mp hr'
      rw [hk.applicant] at hprotected
      rw [hk.createdAt]
      apply hold r hr (hk.counts r hr hcounts)
      exact hprotected.imp_right fun ⟨hne, hsame, hheld⟩ => ⟨hne, hsame, hk.locks _ j hji hheld⟩
  apart := by
    intro j d k hd r' hr' hpk hcounts q' hq' hlt hcounts' hsame
    rw [hk.rows] at hr' hq'
    obtain ⟨r, hr, rfl⟩ := List.mem_map.mp hr'
    obtain ⟨q, hq, rfl⟩ := List.mem_map.mp hq'
    rw [hk.pk] at hpk hlt
    rw [hk.applicant] at hsame
    rw [hk.createdAt, hk.createdAt]
    obtain ⟨e, he, happlicant, hsettings⟩ := hk.asked hd
    rw [← happlicant] at hsame
    rw [← hsettings]
    exact h.apart j e k he r hr hpk (hk.counts r hr hcounts) q hq hlt (hk.counts q hq hcounts') hsame

/-- The insertion, by a call whose check still holds. -/
theorem Cooled.inserts (h : Cooled s) (hown : Owned first s) (hi : s.calls i = some c)
    {now t : Instant} (hphase : c.phase = .inserting now t)
    (hlock : c.applicant.telegramUserId ≠ "" →
      s.locks.HeldBy (.telegram c.applicant.telegramUserId) i) :
    Cooled
      { s.set i c (.creating s.requests.next) with
        rows := s.unlockRow c
        requests := s.requests.append (s.newRequest c now) fun _ => rfl } := by
  have hin : c.phase.InTransaction := by
    rw [hphase]
    trivial
  obtain ⟨hle, hchecked⟩ := h.checked hi (by rw [hphase]; rfl)
  have hother {j : κ} {d : Call shop} (hji : j ≠ i)
      (hd : (s.set i c (.creating s.requests.next)).calls j = some d) : s.calls j = some d := by
    rwa [TrialSystem.set_calls_of_ne _ hji] at hd
  have hself {d : Call shop}
      (hd : (s.set i c (.creating s.requests.next)).calls i = some d) :
      ¬ d.phase.InTransaction := by
    rw [TrialSystem.set_calls_self] at hd
    obtain rfl := Option.some.inj hd
    exact id
  exact {
    locked := by
      intro j d hd hjn customer hcustomer
      by_cases hji : j = i
      · subst hji
        exact absurd hjn (hself hd)
      · exact h.row_kept (fun _ => hi) (hother hji hd) hji hjn hcustomer
          ((rows_unlockRow customer).imp_right fun hc => ⟨hc, Or.inr hin⟩)
    checked := by
      intro j d u hd hu
      have hjn := inTransaction_of_checkedAt hu
      by_cases hji : j = i
      · subst hji
        exact absurd hjn (hself hd)
      · have hd := hother hji hd
        obtain ⟨hclock, hold⟩ := h.checked hd hu
        refine ⟨hclock, fun r hr hcounts hprotected => ?_⟩
        rcases List.mem_append.mp hr with hr | hr
        · exact hold r hr hcounts hprotected
        · -- the other call's check is protected, so this one cannot have inserted
          exfalso
          have hr := List.mem_singleton.mp hr
          subst hr
          rcases hprotected with ⟨hne, hsame⟩ | ⟨hne, hsame, hheld⟩
          · obtain ⟨customer, hcustomer⟩ := Option.ne_none_iff_exists'.mp hne
            have hrow := h.locked hd hjn customer hcustomer
            have hrow' := h.locked hi hin customer (hsame.trans hcustomer)
            rw [hrow] at hrow'
            exact hji (Option.some.inj hrow')
          · have hsame : c.applicant.telegramUserId = d.applicant.telegramUserId := hsame
            have hlock' := hlock (hsame ▸ hne)
            rw [hsame] at hlock'
            exact hji (hheld.unique hlock')
    apart := by
      intro j d k hd r hr hpk hcounts q hq hlt hcounts' hsame
      rcases asked_of_insert hd with ⟨rfl, rfl, rfl⟩ | ⟨hji, hd⟩
      · have hq : q ∈ s.requests.rows := by
          rcases List.mem_append.mp hq with hq | hq
          · exact hq
          · rw [List.mem_singleton.mp hq] at hlt
            exact absurd hlt (lt_irrefl _)
        have hr : r = s.newRequest c now s.requests.next := by
          rcases List.mem_append.mp hr with hr | hr
          · exact absurd (hpk ▸ s.requests.keys_lt r hr) (lt_irrefl _)
          · exact List.mem_singleton.mp hr
        subst hr
        apply (hchecked q hq hcounts' _).trans hle
        exact hsame.imp_right fun ⟨hne, hsame⟩ => ⟨hne, hsame, hlock hne⟩
      · have hk := hown.lt_next hd
        have hold {x : FreeTrialRequest} (hx : x ∈ s.requests.rows ++
            [s.newRequest c now s.requests.next]) (hlt : x.pk < s.requests.next) :
            x ∈ s.requests.rows := by
          rcases List.mem_append.mp hx with hx | hx
          · exact hx
          · rw [List.mem_singleton.mp hx] at hlt
            exact absurd hlt (lt_irrefl _)
        exact h.apart j d k hd r (hold hr (hpk ▸ hk)) hpk hcounts q (hold hq (hlt.trans hk)) hlt
          hcounts' hsame }

omit [DecidableEq κ] in
theorem Cooled.tick (h : Cooled s) (duration : ℕ) :
    Cooled { s with clock := s.clock + duration } where
  locked hi := h.locked hi
  checked hi ht := by
    obtain ⟨hle, hold⟩ := h.checked hi ht
    exact ⟨hle.trans (Int.le_add_of_nonneg_right (Int.natCast_nonneg duration)), hold⟩
  apart i c k hk := h.apart i c k ⟨hk.call, hk.request⟩

theorem Cooled.step (h : Cooled s) (hown : Owned first s) {a : TrialStep κ} (ha : KeepsLock s a) :
    Cooled (s.step a) := by
  cases a with
  | tick duration => exact h.tick duration
  | start i a store =>
      rcases step_start s i a store with hsame | ⟨-, settings, hstart⟩
      · rw [hsame]
        exact h
      · rw [hstart]
        exact h.keeps (keeps_of_start a settings)
  | advance i o =>
      simp only [TrialSystem.step]
      split
      · exact h
      · rename_i c hi
        rcases does_advance.requests hown hi with hsame | ⟨now, t, hphase, hfault, hsame⟩ |
          ⟨phase, g, hkeeps⟩
        · rw [hsame]
          exact h
        · rw [hsame]
          exact h.inserts hown hi hphase (ha c hi (by simp [hphase, Phase.checkedAt]) hfault)
        · exact h.keeps hkeeps

end Steps

end Qasedak.FreeTrials

/-! Runs of free-trial calls: one trial per cooldown, and nothing left of a trial that failed, as
long as no call loses its lock and every panel that makes a client says so. -/

namespace Qasedak.FreeTrials

open Foundation Store

variable {κ : Type*} [DecidableEq κ] {shop : TrialShop}

/-- No call has begun, and no panel client is that of a call. -/
structure Initial (s : TrialSystem shop κ) : Prop where
  calls : ∀ i, s.calls i = none
  panelClients : ∀ x ∈ s.panelClients, x.call = none

/-- A call that ended with its request `FAILED` leaves no row, and no client on the panel but one
that could not be deleted there. -/
structure NoLeftovers (s₀ s : TrialSystem shop κ) : Prop where
  rows : Accounted s₀ s
  failed : ∀ i c k, Asks s i c k → ∀ r ∈ s.requests.rows, r.pk = k → r.status = .failed →
    r.vpnClient = none ∧ ∀ x ∈ s.panelClients, x.call = some i → i ∈ s.undeleted

/-- The step of a call that has its lock where it needs it, and whose panel answers. -/
structure Undisturbed (s : TrialSystem shop κ) (a : TrialStep κ) : Prop where
  lock : KeepsLock s a
  panels : PanelsAnswer s a

/-- What free trials promise of a state and of every step from it. -/
structure TrialsKept (s₀ s : TrialSystem shop κ) : Prop where
  onePerCooldown : OnePerCooldown s
  noLeftovers : NoLeftovers s₀ s
  spares : ∀ a, SparesServices s (s.step a)

instance [Fintype κ] (s : TrialSystem shop κ) (a : TrialStep κ) : Decidable (Undisturbed s a) :=
  decidable_of_iff (KeepsLock s a ∧ PanelsAnswer s a) ⟨fun h => ⟨h.1, h.2⟩, fun h => ⟨h.1, h.2⟩⟩

structure TrialInvariant (s₀ s : TrialSystem shop κ) : Prop where
  owned : Owned s₀.requests.next s
  cooled : Cooled s
  accounted : Accounted s₀ s
  tidy : Tidy s

section Runs

variable {s₀ s : TrialSystem shop κ}

omit [DecidableEq κ] in
theorem Initial.not_asks (h : Initial s) {i : κ} {c : Call shop} {k : ℕ} : ¬ Asks s i c k := by
  intro hasks
  have hnone := h.calls i
  rw [hasks.call] at hnone
  cases hnone

omit [DecidableEq κ] in
theorem Initial.invariant (h : Initial s₀) : TrialInvariant s₀ s₀ := by
  have hno {i : κ} {c : Call shop} (hi : s₀.calls i = some c) : False := by
    rw [h.calls i] at hi
    cases hi
  exact {
    owned := {
      row := fun hd => absurd hd h.not_asks
      alone := fun hd => absurd hd h.not_asks
      new := fun hd => absurd hd h.not_asks
      next := le_refl _ }
    cooled := {
      locked := fun hi => (hno hi).elim
      checked := fun hi => (hno hi).elim
      apart := fun i c k hd => absurd hd h.not_asks }
    accounted := {
      unlinked := fun r hr hnew => absurd (s₀.requests.keys_lt r hr) (not_lt.mpr hnew)
      clients := fun _ hx => Or.inl hx
      cups := fun _ hx => Or.inl hx
      links := fun _ hx => Or.inl hx
      items := fun _ hx => Or.inl hx
      currentUsers := fun _ => rfl }
    tidy := {
      free := fun hi => (hno hi).elim
      only := fun hi => (hno hi).elim
      apart := fun _ hi => (hno hi).elim
      made := fun x hx i hi => by
        rw [h.panelClients x hx] at hi
        cases hi } }

theorem TrialInvariant.step (h : TrialInvariant s₀ s) {a : TrialStep κ} (ha : Undisturbed s a) :
    TrialInvariant s₀ (s.step a) where
  owned := h.owned.step a
  cooled := h.cooled.step h.owned ha.lock
  accounted := h.accounted.step h.owned a
  tidy := h.tidy.step h.owned ha.panels

omit [DecidableEq κ] in
theorem TrialInvariant.noLeftovers (h : TrialInvariant s₀ s) : NoLeftovers s₀ s where
  rows := h.accounted
  failed := by
    intro i c k hasks r hr hpk hfailed
    have hne : r.status ≠ .delivered := by
      rw [hfailed]
      decide
    refine ⟨h.accounted.unlinked r hr (hpk ▸ h.owned.new hasks) hne, fun x hx hcall => ?_⟩
    rcases h.tidy.made x hx i hcall with hleft | ⟨d, client, hd, hheld, -⟩ |
      ⟨d, k', hd, r', hr', hpk', hstatus⟩
    · exact hleft
    · -- a request whose client is held is not settled
      exfalso
      obtain rfl := Option.some.inj (hasks.call.symm.trans hd)
      obtain ⟨r', hr', hpk', -, -, hcreated⟩ := h.owned.row hasks
      obtain rfl := Serial.eq_of_key_eq hr' hr (hpk'.trans hpk.symm)
      rw [hcreated (Phase.pending_of_held hheld hasks.request)] at hfailed
      cases hfailed
    · -- the request of a call is one, and it failed
      exfalso
      obtain rfl := Option.some.inj (hasks.call.symm.trans hd.call)
      have hk : k' = k := Option.some.inj (hd.request.symm.trans hasks.request)
      obtain rfl := Serial.eq_of_key_eq hr' hr ((hpk'.trans hk).trans hpk.symm)
      exact hne hstatus

end Runs

/-! ## A run that gives two trials, and one that leaves a client behind -/

def trialShop : TrialShop where
  panels k := { pk := k }
  inbounds k := { pk := k, panel := 1, inboundId := k }
  selectedConfigs links := links
  cupUrl k := "/cup/" ++ toString k
  sanitize text := text

def trialStore : TrialStore where
  pk := 1
  freeTrialPanel := some 1
  freeTrialInbound := some 1
  freeTrialTrafficGb := 1000
  freeTrialDurationHours := 24

def trialClient : TrialClient where
  uuid := "u"
  email := "trial_u"
  subId := ""
  subLink := ""
  directLink := "vless://u"
  expiresAt := none
  remoteClientKey := ""
  uuid_ne := by decide

/-- The first steps of a call for a Telegram user, who has one customer in each store. -/
def begins {κ : Type*} (i : κ) (customer : ℕ) : List (TrialStep κ) :=
  [.start i ⟨some customer, "7"⟩ trialStore, .advance i {}, .advance i {}]

/-- The first call fails after its lock expired, and deletes the lock of the second; so the third
gets one too. -/
def overtakenSteps : List (TrialStep ℕ) :=
  begins 0 10 ++ [.advance 0 {}, .advance 0 {}, .advance 0 {}, .tick 121000000, .advance 0 {},
    .advance 0 {}] ++ begins 1 11 ++ [.advance 0 {}] ++ begins 2 12 ++
    [.advance 1 {}, .advance 1 {}, .advance 2 {}, .advance 2 {}, .advance 1 {}, .advance 2 {}]

/-- The panel makes the client, and the read after it fails. -/
def lostSteps : List (TrialStep ℕ) :=
  begins 0 10 ++ [.advance 0 {}, .advance 0 {}, .advance 0 {},
    .advance 0 { creation := .lost trialClient }, .advance 0 {}]

def noTrials (κ : Type*) : TrialSystem trialShop κ where
  clock := 0

end Qasedak.FreeTrials
