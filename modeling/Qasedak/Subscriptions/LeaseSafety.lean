import Qasedak.Subscriptions.Workers
import Qasedak.Subscriptions.Reconcile

/-! Whatever the order of the steps: a worker writes under its own token while its lease runs, one
that was overtaken writes nothing, and the shown links change with a refresh that succeeds. -/

namespace Qasedak.Subscriptions

open Foundation Store

variable {filterNativeConfigs : List String → FilterPolicy → NativeConfigFilterResult} {feed : ℕ}
  {s : RefreshSystem} {a : RefreshStep} {w : ℕ} {db db' : CupDb}

/-! ## The token of a feed's row -/

theorem leaseOf_modifyFeed {pk : ℕ} {change : ExternalSubscriptionFeed → ExternalSubscriptionFeed}
    (hchange : ∀ f, (change f).pk = f.pk)
    (hsame : ∀ f, (change f).refreshToken = f.refreshToken ∧
      (change f).refreshLeaseUntil = f.refreshLeaseUntil) (k : ℕ) :
    (db.modifyFeed pk change hchange).leaseOf k = db.leaseOf k := by
  unfold CupDb.leaseOf
  rw [CupDb.get?_modifyFeed, Option.map_map]
  congr 1
  funext f
  rw [Function.comp_apply]
  split
  · rw [(hsame f).1, (hsame f).2]
  · rfl

theorem leaseOf_writeConfigs (f : ExternalSubscriptionFeed) (configs : List ParsedNativeConfig)
    (k : ℕ) : (db.writeConfigs f configs).leaseOf k = db.leaseOf k := by
  obtain ⟨items, links, h⟩ := @writeConfigs_rest db f configs
  rw [h]
  rfl

/-- What a write of a refresh comes to. -/
theorem writeRefresh_cases {original : ExternalSubscriptionFeed} {write : RefreshWrite}
    {force : Bool} {token : String} {now clock : Instant}
    {summary : ExternalSubscriptionRefreshSummary}
    (h : writeRefresh original write force (some token) now clock db = some (summary, db')) :
    db' = db ∨ (∃ f, db.feeds.get? original.pk = some f ∧ f.isHeldBy token now = true) ∧
      (∀ k, db'.leaseOf k = db.leaseOf k) ∧
      (summary.ok = false → ∀ cup, db'.activeCupLinks cup = db.activeCupLinks cup) := by
  cases write with
  | failure code result =>
      cases hf : db.feeds.get? original.pk with
      | none => simp [writeRefresh, markFeedFailure, hf] at h
      | some f =>
          obtain ⟨-, rfl | ⟨hheld, rfl⟩⟩ := markFeedFailure_cases h hf
          · exact .inl rfl
          · refine .inr ⟨⟨f, rfl, hheld token rfl⟩, fun k => ?_, fun _ cup => rfl⟩
            exact leaseOf_modifyFeed (ExternalSubscriptionFeed.failed_pk code result now)
              (fun f => ⟨rfl, rfl⟩) k
  | success result =>
      cases hf : db.feeds.get? original.pk with
      | none => simp [writeRefresh, reconcileSuccess, hf] at h
      | some f =>
          obtain ⟨-, rfl⟩ | ⟨hok, hheld, rfl⟩ := reconcileSuccess_cases h hf
          · exact .inl rfl
          · refine .inr ⟨⟨f, rfl, hheld token rfl⟩, fun k => ?_, fun hnot => ?_⟩
            · have hrow := @leaseOf_writeConfigs db f result.selectedConfigs k
              exact (leaseOf_modifyFeed (ExternalSubscriptionFeed.succeeded_pk result now)
                (fun f => ⟨rfl, rfl⟩) k).trans hrow
            · rw [hok] at hnot
              cases hnot

/-! ## The fence -/

namespace RefreshSystem

/-- The feed as a fence; an empty token is none. -/
def fence (feed : ℕ) (s : RefreshSystem) : Fence String where
  current := ((s.db.leaseOf feed).map (·.1)).filter (· ≠ "")
  used := s.used

def claimFence (feed : ℕ) (s : RefreshSystem) (w : ℕ) (token : String) : FenceStep String :=
  match s.phase w with
  | .claiming force minIntervalSeconds now =>
      match claimFeed feed force minIntervalSeconds token now s.clock s.db with
      | some (.ok _) => .take token
      | _ => .rest
  | _ => .rest

def releaseFence (s : RefreshSystem) (w : ℕ) : FenceStep String :=
  match s.phase w with
  | .finished token _ => .drop token
  | _ => .rest

/-- What a step does to the fence. -/
def fenceStep (feed : ℕ) (s : RefreshSystem) : RefreshStep → FenceStep String
  | .claim w token => s.claimFence feed w token
  | .release w => s.releaseFence w
  | _ => .rest

@[simp] theorem moved_db (phase : WorkerPhase) : (s.moved w phase).db = s.db := rfl

@[simp] theorem moved_clock (phase : WorkerPhase) : (s.moved w phase).clock = s.clock := rfl

@[simp] theorem moved_used (phase : WorkerPhase) : (s.moved w phase).used = s.used := rfl

@[simp] theorem moved_phase_self (phase : WorkerPhase) : (s.moved w phase).phase w = phase := by
  simp [moved]

theorem moved_phase_of_ne {v : ℕ} (phase : WorkerPhase) (h : v ≠ w) :
    (s.moved w phase).phase v = s.phase v := by
  simp [moved, h]

/-- What a worker is known to hold. -/
def PhaseOk (feed : ℕ) (clock : Instant) (used : List String) : WorkerPhase → Prop
  | .idle => True
  | .claiming _ _ now => now ≤ clock
  | .claimed _ token => token ∈ used
  | .loaded _ token row => token ∈ used ∧ row.pk = feed
  | .judged _ token row _ => token ∈ used ∧ row.pk = feed
  | .writing _ token row _ now => token ∈ used ∧ row.pk = feed ∧ now ≤ clock
  | .finished token _ => token ∈ used

theorem PhaseOk.mono {clock clock' : Instant} {used used' : List String} {phase : WorkerPhase}
    (h : PhaseOk feed clock used phase) (hclock : clock ≤ clock') (hused : used ⊆ used') :
    PhaseOk feed clock' used' phase := by
  cases phase with
  | idle => trivial
  | claiming force minIntervalSeconds now => exact le_trans h hclock
  | claimed force token => exact hused h
  | loaded force token row => exact ⟨hused h.1, h.2⟩
  | judged force token row write => exact ⟨hused h.1, h.2⟩
  | writing force token row write now => exact ⟨hused h.1, h.2.1, h.2.2.trans hclock⟩
  | finished token answer => exact hused h

theorem PhaseOk.token {clock : Instant} {used : List String} {phase : WorkerPhase} {token : String}
    (h : PhaseOk feed clock used phase) (htoken : phase.token = some token) : token ∈ used := by
  cases phase with
  | idle => cases htoken
  | claiming force minIntervalSeconds now => cases htoken
  | claimed force t => exact Option.some.inj htoken ▸ h
  | loaded force t row => exact Option.some.inj htoken ▸ h.1
  | judged force t row write => exact Option.some.inj htoken ▸ h.1
  | writing force t row write now => exact Option.some.inj htoken ▸ h.1
  | finished t answer => exact Option.some.inj htoken ▸ h

/-- The invariant of the workers. -/
def Sound (feed : ℕ) (s : RefreshSystem) : Prop := ∀ w, PhaseOk feed s.clock s.used (s.phase w)

theorem Sound.moved (h : s.Sound feed) {phase : WorkerPhase}
    (hphase : PhaseOk feed s.clock s.used phase) : (s.moved w phase).Sound feed := by
  intro v
  by_cases hv : v = w
  · rw [hv, moved_phase_self]
    exact hphase
  · rw [moved_phase_of_ne phase hv]
    exact h v

theorem Sound.grow (h : s.Sound feed) {s' : RefreshSystem} (hphase : s'.phase = s.phase)
    (hclock : s.clock ≤ s'.clock) (hused : s.used ⊆ s'.used) : s'.Sound feed := by
  intro v
  rw [hphase]
  exact (h v).mono hclock hused

theorem Sound.claimStep (h : s.Sound feed) (token : String) :
    (s.claimStep feed w token).Sound feed := by
  unfold RefreshSystem.claimStep
  split
  · split
    · have hgrow : RefreshSystem.Sound feed { s with used := token :: s.used } :=
        h.grow rfl le_rfl (List.subset_cons_self token s.used)
      exact (@Sound.moved _ _ w hgrow (.claimed _ token) List.mem_cons_self)
    · exact h.moved trivial
    · exact h.moved trivial
  · exact h

theorem Sound.loadStep (h : s.Sound feed) : (s.loadStep feed w).Sound feed := by
  unfold RefreshSystem.loadStep
  have hw := h w
  cases hphase : s.phase w with
  | claimed force token =>
      rw [hphase] at hw
      dsimp only
      cases hrow : s.db.feeds.get? feed with
      | none => exact h.moved hw
      | some row =>
          dsimp only
          split
          · exact h.moved hw
          · exact h.moved ⟨hw, (Table.mem_of_get? hrow).2⟩
  | _ => exact h

theorem Sound.fetchStep (h : s.Sound feed) (fetched : Except String (List String)) :
    (s.fetchStep filterNativeConfigs w fetched).Sound feed := by
  unfold RefreshSystem.fetchStep
  have hw := h w
  cases hphase : s.phase w with
  | loaded force token row =>
      rw [hphase] at hw
      exact h.moved hw
  | _ => exact h

theorem Sound.beginStep (h : s.Sound feed) : (s.beginStep w).Sound feed := by
  unfold RefreshSystem.beginStep
  have hw := h w
  cases hphase : s.phase w with
  | judged force token row write =>
      rw [hphase] at hw
      exact h.moved ⟨hw.1, hw.2, le_rfl⟩
  | _ => exact h

theorem Sound.writeStep (h : s.Sound feed) : (s.writeStep w).Sound feed := by
  unfold RefreshSystem.writeStep
  have hw := h w
  cases hphase : s.phase w with
  | writing force token row write now =>
      rw [hphase] at hw
      dsimp only
      split
      · exact h.moved hw.1
      · exact (@Sound.moved _ _ w h (.finished token _) hw.1).grow rfl le_rfl
          (List.Subset.refl _)
  | _ => exact h

theorem Sound.raiseStep (h : s.Sound feed) : (s.raiseStep w).Sound feed := by
  unfold RefreshSystem.raiseStep
  have hw := h w
  cases hphase : s.phase w with
  | claimed force token =>
      rw [hphase] at hw
      exact h.moved hw
  | loaded force token row =>
      rw [hphase] at hw
      exact h.moved hw.1
  | judged force token row write =>
      rw [hphase] at hw
      exact h.moved hw.1
  | writing force token row write now =>
      rw [hphase] at hw
      exact h.moved hw.1
  | _ => exact h

theorem Sound.releaseStep (h : s.Sound feed) : (s.releaseStep feed w).Sound feed := by
  unfold RefreshSystem.releaseStep
  split
  · exact (@Sound.moved _ _ w h .idle trivial).grow rfl le_rfl (List.Subset.refl _)
  · exact h

theorem sound_step (h : s.Sound feed) (hallowed : s.Allowed feed a) :
    (s.step filterNativeConfigs feed a).Sound feed := by
  cases a with
  | tick clock => exact h.grow rfl hallowed (List.Subset.refl _)
  | start w force minIntervalSeconds =>
      unfold RefreshSystem.step
      dsimp only
      split
      · exact h.moved le_rfl
      · exact h
  | claim w token => exact h.claimStep token
  | load w => exact h.loadStep
  | fetch w fetched => exact h.fetchStep fetched
  | begin w => exact h.beginStep
  | write w => exact h.writeStep
  | raise w => exact h.raiseStep
  | release w => exact h.releaseStep
  | crash w => exact h.moved trivial
  | other db => exact h.grow rfl le_rfl (List.Subset.refl _)

/-! ## What one step does -/

theorem claimStep_cases (token : String) :
    (s.claimStep feed w token).db = s.db ∧ s.claimFence feed w token = .rest ∧
        (s.claimStep feed w token).used = s.used ∨
      ∃ force minIntervalSeconds now f, s.phase w = .claiming force minIntervalSeconds now ∧
        s.db.feeds.get? feed = some f ∧
        (f.refreshLeaseUntil.any fun expiry => now < expiry) = false ∧
        s.claimStep feed w token = { s.moved w (.claimed force token) with
          db := s.db.modifyFeed feed (·.claimed token now)
            (ExternalSubscriptionFeed.claimed_pk token now)
          used := token :: s.used } ∧
        s.claimFence feed w token = .take token := by
  unfold claimStep claimFence
  cases hphase : s.phase w with
  | claiming force minIntervalSeconds now =>
      dsimp only
      cases hclaim : claimFeed feed force minIntervalSeconds token now s.clock s.db with
      | none => exact .inl ⟨rfl, rfl, rfl⟩
      | some outcome =>
          cases outcome with
          | error summary => exact .inl ⟨rfl, rfl, rfl⟩
          | ok db =>
              obtain ⟨f, hf, hfree, rfl⟩ := claimFeed_ok hclaim
              exact .inr ⟨force, minIntervalSeconds, now, f, rfl, hf, hfree, rfl, rfl⟩
  | _ => exact .inl ⟨rfl, rfl, rfl⟩

theorem writeStep_cases (s : RefreshSystem) (w : ℕ) :
    (∃ phase, s.writeStep w = { s with phase := phase }) ∨
      ∃ force token row write now summary db, s.phase w = .writing force token row write now ∧
        writeRefresh row write force (some token) now s.clock s.db = some (summary, db) ∧
        s.writeStep w = { s.moved w (.finished token (some summary)) with db := db } := by
  unfold writeStep
  cases hphase : s.phase w with
  | writing force token row write now =>
      dsimp only
      cases hwrite : writeRefresh row write force (some token) now s.clock s.db with
      | none => exact .inl ⟨_, rfl⟩
      | some result =>
          exact .inr ⟨force, token, row, write, now, result.1, result.2, rfl, hwrite, rfl⟩
  | _ => exact .inl ⟨_, rfl⟩

theorem releaseStep_cases (feed : ℕ) (s : RefreshSystem) (w : ℕ) :
    s.releaseStep feed w = s ∧ s.releaseFence w = .rest ∨
      ∃ token answer, s.phase w = .finished token answer ∧
        s.releaseStep feed w = { s.moved w .idle with db := releaseFeed feed token s.db } ∧
        s.releaseFence w = .drop token := by
  unfold releaseStep releaseFence
  cases hphase : s.phase w with
  | finished token answer => exact .inr ⟨token, answer, rfl, rfl, rfl⟩
  | _ => exact .inl ⟨rfl, rfl⟩

/-- Only some of the steps write, and the others change no more than a worker's phase. -/
inductive Writes : RefreshStep → Prop
  | tick (clock : Instant) : Writes (.tick clock)
  | claim (w : ℕ) (token : String) : Writes (.claim w token)
  | write (w : ℕ) : Writes (.write w)
  | release (w : ℕ) : Writes (.release w)
  | other (db : CupDb) : Writes (.other db)

theorem step_cases (filterNativeConfigs : List String → FilterPolicy → NativeConfigFilterResult)
    (feed : ℕ) (s : RefreshSystem) (a : RefreshStep) :
    Writes a ∨ (∃ phase, s.step filterNativeConfigs feed a = { s with phase := phase }) ∧
      s.fenceStep feed a = .rest := by
  cases a with
  | tick clock => exact .inl (.tick clock)
  | claim w token => exact .inl (.claim w token)
  | write w => exact .inl (.write w)
  | release w => exact .inl (.release w)
  | other db => exact .inl (.other db)
  | start w force minIntervalSeconds =>
      refine .inr ⟨?_, rfl⟩
      unfold step
      dsimp only
      split <;> exact ⟨_, rfl⟩
  | load w =>
      refine .inr ⟨?_, rfl⟩
      unfold step loadStep
      dsimp only
      split
      · split
        · exact ⟨_, rfl⟩
        · split <;> exact ⟨_, rfl⟩
      · exact ⟨_, rfl⟩
  | fetch w fetched =>
      refine .inr ⟨?_, rfl⟩
      unfold step fetchStep
      dsimp only
      split <;> exact ⟨_, rfl⟩
  | begin w =>
      refine .inr ⟨?_, rfl⟩
      unfold step beginStep
      dsimp only
      split <;> exact ⟨_, rfl⟩
  | raise w =>
      refine .inr ⟨?_, rfl⟩
      unfold step raiseStep
      dsimp only
      split <;> exact ⟨_, rfl⟩
  | crash w => exact .inr ⟨⟨_, rfl⟩, rfl⟩

theorem fence_eq {db : CupDb} (hlease : db.leaseOf feed = s.db.leaseOf feed) :
    fence feed { s with db := db } = fence feed s := by
  unfold fence
  rw [hlease]

theorem leaseOf_releaseFeed (db : CupDb) (feed : ℕ) (token : String) :
    (releaseFeed feed token db).leaseOf feed =
      (db.leaseOf feed).map fun lease => if lease.1 = token then ("", none) else lease := by
  unfold CupDb.leaseOf releaseFeed
  rw [CupDb.get?_modifyFeed, Option.map_map, Option.map_map]
  congr 1
  funext f
  by_cases hsame : f.refreshToken = token
  · simp [ExternalSubscriptionFeed.released, hsame]
  · simp [ExternalSubscriptionFeed.released, hsame]

theorem fence_releaseFeed (s : RefreshSystem) (token : String) :
    fence feed { s with db := releaseFeed feed token s.db } =
      (fence feed s).step (.drop token) := by
  by_cases hheld : (fence feed s).current = some token
  · rw [Fence.step_drop hheld]
    obtain ⟨hstored, -⟩ := Option.filter_eq_some_iff.mp hheld
    obtain ⟨lease, hlease, rfl⟩ := Option.map_eq_some_iff.mp hstored
    unfold fence
    rw [leaseOf_releaseFeed, hlease, Option.map_some, if_pos rfl]
    simp
  · rw [Fence.step_drop_of_ne hheld]
    unfold fence at hheld ⊢
    rw [leaseOf_releaseFeed]
    cases hlease : s.db.leaseOf feed with
    | none => rfl
    | some lease =>
        by_cases hsame : lease.1 = token
        · -- the row's token is the worker's only when both are empty
          have hempty : lease.1 = "" := by
            by_contra hne
            refine hheld ?_
            rw [hlease, ← hsame]
            simp [hne]
          rw [Option.map_some, if_pos hsame, Option.map_some, Option.map_some, hempty]
        · rw [Option.map_some, if_neg hsame]

/-- A feed's row is a fence: what a step does to it is what `fenceStep` says. -/
theorem fence_step (hallowed : s.Allowed feed a) :
    fence feed (s.step filterNativeConfigs feed a) = (fence feed s).step (s.fenceStep feed a) ∧
      (fence feed s).Fresh (s.fenceStep feed a) := by
  rcases step_cases filterNativeConfigs feed s a with hwrites | ⟨⟨phase, hstep⟩, hrest⟩
  · cases hwrites with
    | tick clock => exact ⟨rfl, trivial⟩
    | claim w token =>
        change fence feed (s.claimStep feed w token) = _ ∧ Fence.Fresh _ (s.claimFence feed w token)
        rcases @claimStep_cases feed s w token with
          ⟨hdb, hfence, hused⟩ | ⟨force, minIntervalSeconds, now, f, -, hf, -, hstep, hfence⟩
        · have hcurrent : fence feed (s.claimStep feed w token) = fence feed s := by
            unfold fence
            rw [hdb, hused]
          change _ = Fence.step _ (s.claimFence feed w token) ∧ _
          rw [hfence]
          exact ⟨hcurrent, trivial⟩
        · change _ = Fence.step _ (s.claimFence feed w token) ∧ _
          rw [hfence, hstep]
          refine ⟨?_, hallowed.1⟩
          unfold fence CupDb.leaseOf
          rw [CupDb.get?_modifyFeed, hf]
          simp [ExternalSubscriptionFeed.claimed, Fence.step, hallowed.2]
    | write w =>
        change fence feed (s.writeStep w) = fence feed s ∧ True
        refine ⟨?_, trivial⟩
        rcases writeStep_cases s w with
          ⟨phase, hstep⟩ | ⟨force, token, row, write, now, summary, db, -, hwrite, hstep⟩
        · rw [hstep]
          rfl
        · rw [hstep]
          rcases writeRefresh_cases hwrite with rfl | ⟨-, hlease, -⟩
          · rfl
          · exact fence_eq (hlease feed)
    | release w =>
        change fence feed (s.releaseStep feed w) = Fence.step _ (s.releaseFence w) ∧
          Fence.Fresh _ (s.releaseFence w)
        rcases releaseStep_cases feed s w with ⟨hstep, hfence⟩ | ⟨token, answer, -, hstep, hfence⟩
        · rw [hstep, hfence]
          exact ⟨rfl, trivial⟩
        · rw [hstep, hfence]
          exact ⟨fence_releaseFeed s token, trivial⟩
    | other db => exact ⟨fence_eq hallowed, trivial⟩
  · rw [hstep, hrest]
    exact ⟨rfl, trivial⟩

/-! ## Runs -/

variable {steps : List RefreshStep}

theorem sound_run (h : s.Sound feed)
    (hsteps : Guarded (step filterNativeConfigs feed) (Allowed feed) s steps) :
    (Foundation.run (step filterNativeConfigs feed) s steps).Sound feed :=
  hsteps.invariant (fun _ _ hs hallowed => sound_step hs hallowed) h

theorem used_step (hallowed : s.Allowed feed a) :
    (s.step filterNativeConfigs feed a).used = s.used ∨
      ∃ token ≠ "", (s.step filterNativeConfigs feed a).used = token :: s.used := by
  rcases step_cases filterNativeConfigs feed s a with hwrites | ⟨⟨phase, hstep⟩, -⟩
  · cases hwrites with
    | tick clock => exact .inl rfl
    | claim w token =>
        rcases @claimStep_cases feed s w token with
          ⟨-, -, hused⟩ | ⟨force, minIntervalSeconds, now, f, -, hf, -, hstep, -⟩
        · exact .inl hused
        · exact .inr ⟨token, hallowed.2, congrArg RefreshSystem.used hstep⟩
    | write w =>
        refine .inl ?_
        change (s.writeStep w).used = s.used
        rcases writeStep_cases s w with
          ⟨phase, hstep⟩ | ⟨force, token, row, write, now, summary, db, -, -, hstep⟩
        · rw [hstep]
        · rw [hstep]
          rfl
    | release w =>
        refine .inl ?_
        change (s.releaseStep feed w).used = s.used
        rcases releaseStep_cases feed s w with ⟨hstep, -⟩ | ⟨token, answer, -, hstep, -⟩
        · rw [hstep]
        · rw [hstep]
          rfl
    | other db => exact .inl rfl
  · rw [hstep]
    exact .inl rfl

/-- No worker holds the empty token. -/
theorem blank_run (h : "" ∉ s.used)
    (hsteps : Guarded (step filterNativeConfigs feed) (Allowed feed) s steps) :
    "" ∉ (Foundation.run (step filterNativeConfigs feed) s steps).used := by
  refine Guarded.invariant (fun s a (hs : "" ∉ s.used) hallowed => ?_) hsteps h
  rcases @used_step filterNativeConfigs _ _ _ hallowed with
    hused | ⟨token, hne, hused⟩
  · rw [hused]
    exact hs
  · rw [hused, List.mem_cons, not_or]
    exact ⟨hne.symm, hs⟩

/-- The steps of the workers refine steps of the fence. -/
theorem fence_run (hsteps : Guarded (step filterNativeConfigs feed) (Allowed feed) s steps) :
    ∃ fenceSteps, Guarded Fence.step Fence.Fresh (fence feed s) fenceSteps ∧
      fence feed (Foundation.run (step filterNativeConfigs feed) s steps) =
        Foundation.run Fence.step (fence feed s) fenceSteps := by
  induction steps generalizing s with
  | nil => exact ⟨[], trivial, rfl⟩
  | cons a steps ih =>
      obtain ⟨hallowed, hrest⟩ := hsteps
      obtain ⟨hstep, hfresh⟩ := @fence_step filterNativeConfigs _ _ _ hallowed
      obtain ⟨fenceSteps, hguarded, hrun⟩ := ih hrest
      rw [hstep] at hguarded hrun
      exact ⟨s.fenceStep feed a :: fenceSteps, ⟨hfresh, hguarded⟩, hrun⟩

/-- A worker that was overtaken stays so. -/
theorem overtaken_run {token : String} (h : (fence feed s).Overtaken token)
    (hsteps : Guarded (step filterNativeConfigs feed) (Allowed feed) s steps) :
    (fence feed (Foundation.run (step filterNativeConfigs feed) s steps)).Overtaken token := by
  obtain ⟨fenceSteps, hguarded, hrun⟩ := fence_run hsteps
  rw [hrun]
  exact h.run hguarded

/-! ## A worker alone -/

/-- The steps of a worker that nothing comes between. -/
def aloneSteps (w : ℕ) (force : Bool) (minIntervalSeconds : ℕ) (token : String)
    (fetched : Except String (List String)) (times : RefreshTimes) : List RefreshStep :=
  [.start w force minIntervalSeconds, .tick times.claimClock, .claim w token, .load w,
    .fetch w fetched, .tick times.writeNow, .begin w, .tick times.writeClock, .write w, .release w]

/-- The ways in which a step of a worker writes. -/
inductive WorkerWrites (feed w : ℕ) (s s' : RefreshSystem) : Prop
  /-- The row is claimed, of which no lease ran when the clock was read. -/
  | claim (force : Bool) (minIntervalSeconds : ℕ) (now : Instant) (token : String)
      (f : ExternalSubscriptionFeed)
      (phase : s.phase w = .claiming force minIntervalSeconds now) (reading : now ≤ s.clock)
      (row : s.db.feeds.get? feed = some f)
      (free : (f.refreshLeaseUntil.any fun expiry => now < expiry) = false)
      (written : s'.db = s.db.modifyFeed feed (·.claimed token now)
        (ExternalSubscriptionFeed.claimed_pk token now))
  /-- The stored token is the worker's, and its lease ran when the clock was read. -/
  | write (force : Bool) (token : String) (row : ExternalSubscriptionFeed) (write : RefreshWrite)
      (now : Instant) (f : ExternalSubscriptionFeed)
      (phase : s.phase w = .writing force token row write now) (reading : now ≤ s.clock)
      (row : s.db.feeds.get? feed = some f) (held : f.isHeldBy token now = true)
  /-- The worker's own token is taken off the row. -/
  | release (token : String) (answer : Option ExternalSubscriptionRefreshSummary)
      (phase : s.phase w = .finished token answer)
      (written : s'.db = releaseFeed feed token s.db)

theorem workerWrites_step (hsound : s.Sound feed) (hworker : a.worker = some w) :
    (s.step filterNativeConfigs feed a).db = s.db ∨
      WorkerWrites feed w s (s.step filterNativeConfigs feed a) := by
  have hw := hsound w
  rcases step_cases filterNativeConfigs feed s a with hwrites | ⟨⟨phase, hstep⟩, -⟩
  · cases hwrites with
    | tick clock => cases hworker
    | claim v token =>
        cases hworker
        change (s.claimStep feed w token).db = s.db ∨ WorkerWrites feed w s (s.claimStep feed w token)
        rcases @claimStep_cases feed s w token with
          ⟨hdb, -, -⟩ | ⟨force, minIntervalSeconds, now, f, hphase, hf, hfree, hstep, -⟩
        · exact .inl hdb
        · rw [hphase] at hw
          exact .inr (.claim force minIntervalSeconds now token f hphase hw hf hfree (by rw [hstep]))
    | write v =>
        cases hworker
        change (s.writeStep w).db = s.db ∨ WorkerWrites feed w s (s.writeStep w)
        rcases writeStep_cases s w with
          ⟨phase, hstep⟩ | ⟨force, token, row, write, now, summary, db, hphase, hwrite, hstep⟩
        · exact .inl (by rw [hstep])
        · rw [hphase] at hw
          rcases writeRefresh_cases hwrite with rfl | ⟨⟨f, hf, hheld⟩, -⟩
          · exact .inl (by rw [hstep])
          · rw [hw.2.1] at hf
            exact .inr (.write force token row write now f hphase hw.2.2 hf hheld)
    | release v =>
        cases hworker
        change (s.releaseStep feed w).db = s.db ∨ WorkerWrites feed w s (s.releaseStep feed w)
        rcases releaseStep_cases feed s w with ⟨hstep, -⟩ | ⟨token, answer, hphase, hstep, -⟩
        · exact .inl (by rw [hstep])
        · exact .inr (.release token answer hphase (by rw [hstep]))
    | other db => cases hworker
  · exact .inl (by rw [hstep])

/-- A worker that was overtaken writes nothing. -/
theorem db_step_of_overtaken {token : String} (hsound : s.Sound feed) (hblank : "" ∉ s.used)
    (hworker : a.worker = some w) (htoken : (s.phase w).token = some token)
    (h : (fence feed s).Overtaken token) : (s.step filterNativeConfigs feed a).db = s.db := by
  have hne : token ≠ "" := fun hempty => hblank (hempty ▸ (hsound w).token htoken)
  have hstored : ∀ f, s.db.feeds.get? feed = some f → f.refreshToken ≠ token := by
    rintro f hf rfl
    refine h.2 ?_
    unfold fence CupDb.leaseOf
    rw [hf]
    simp [hne]
  rcases @workerWrites_step filterNativeConfigs _ _ _ _ hsound hworker with
    hsame | hwrites
  · exact hsame
  · cases hwrites with
    | claim force minIntervalSeconds now token' f hphase =>
        rw [hphase] at htoken
        cases htoken
    | write force token' row write now f hphase hreading hf hheld =>
        rw [hphase] at htoken
        obtain rfl : token' = token := Option.some.inj htoken
        unfold ExternalSubscriptionFeed.isHeldBy at hheld
        rw [Bool.and_eq_true, decide_eq_true_iff] at hheld
        exact absurd hheld.1 (hstored f hf)
    | release token' answer hphase hwritten =>
        rw [hphase] at htoken
        obtain rfl : token' = token := Option.some.inj htoken
        rw [hwritten]
        have hfeeds := Table.modify_eq_of_forall (ExternalSubscriptionFeed.released_pk token')
          fun f hf => if_neg (hstored f hf)
        exact congrArg (fun feeds => { s.db with feeds := feeds }) hfeeds

/-- The shown links change only with the answer that all went well. -/
theorem ok_of_activeCupLinks_ne {cup : ℕ} (hworker : a.worker = some w)
    (hne : (s.step filterNativeConfigs feed a).db.activeCupLinks cup ≠ s.db.activeCupLinks cup) :
    ∃ token summary, (s.step filterNativeConfigs feed a).phase w = .finished token (some summary) ∧
      summary.ok = true := by
  rcases step_cases filterNativeConfigs feed s a with hwrites | ⟨⟨phase, hstep⟩, -⟩
  · cases hwrites with
    | tick clock => cases hworker
    | claim v token =>
        refine absurd ?_ hne
        change (s.claimStep feed v token).db.activeCupLinks cup = _
        rcases @claimStep_cases feed s v token with
          ⟨hdb, -, -⟩ | ⟨force, minIntervalSeconds, now, f, -, -, -, hstep, -⟩
        · rw [hdb]
        · rw [hstep]
          rfl
    | write v =>
        cases hworker
        change (s.writeStep w).db.activeCupLinks cup ≠ _ at hne
        change ∃ token summary, (s.writeStep w).phase w = .finished token (some summary) ∧ _
        rcases writeStep_cases s w with
          ⟨phase, hstep⟩ | ⟨force, token, row, write, now, summary, db, -, hwrite, hstep⟩
        · rw [hstep] at hne
          exact absurd rfl hne
        · rw [hstep] at hne ⊢
          refine ⟨token, summary, moved_phase_self _, ?_⟩
          rcases writeRefresh_cases hwrite with rfl | ⟨-, -, hlinks⟩
          · exact absurd rfl hne
          · by_contra hnot
            exact hne (hlinks (by simpa using hnot) cup)
    | release v =>
        refine absurd ?_ hne
        change (s.releaseStep feed v).db.activeCupLinks cup = _
        rcases releaseStep_cases feed s v with ⟨hstep, -⟩ | ⟨token, answer, -, hstep, -⟩
        · rw [hstep]
        · rw [hstep]
          rfl
    | other db => cases hworker
  · rw [hstep] at hne
    exact absurd rfl hne

theorem Started.sound (h : s.Started) : s.Sound feed := by
  intro w
  rw [h.idle w]
  trivial

/-- A claim overtakes whoever holds a token. -/
theorem overtaken_of_claim {v : ℕ} {token token' : String} (hsound : s.Sound feed)
    (hallowed : s.Allowed feed (.claim v token')) (htoken : (s.phase w).token = some token)
    (hclaimed : ((s.step filterNativeConfigs feed (.claim v token')).phase v).token = some token') :
    (fence feed (s.step filterNativeConfigs feed (.claim v token'))).Overtaken token := by
  have hafter := (@sound_step filterNativeConfigs _ _ _ hsound hallowed) v
  have hused : token' ∈ (s.claimStep feed v token').used := hafter.token hclaimed
  obtain ⟨hfence, hfresh⟩ := @fence_step filterNativeConfigs _ _ _ hallowed
  rw [hfence]
  change Fence.Fresh _ (s.claimFence feed v token') at hfresh
  change Fence.Overtaken token (Fence.step _ (s.claimFence feed v token'))
  rcases @claimStep_cases feed s v token' with
    ⟨-, -, hsame⟩ | ⟨force, minIntervalSeconds, now, f, -, -, -, -, htake⟩
  · rw [hsame] at hused
    exact absurd hused hallowed.1
  · rw [htake] at hfresh ⊢
    exact Fence.overtaken_of_take ((hsound w).token htoken) hfresh

/-- In every run: a worker writes by a claim of a feed that is free, by the release of its own
token, or under the stored token while the lease ran when its write began; one that was overtaken
by another claim writes nothing; and the shown links change only in a refresh that succeeds. -/
theorem refresh_lease_safe
    (filterNativeConfigs : List String → FilterPolicy → NativeConfigFilterResult) (feed w : ℕ)
    (s : RefreshSystem) (before : List RefreshStep) (a : RefreshStep) (hstart : s.Started)
    (hsteps : Guarded (step filterNativeConfigs feed) (Allowed feed) s (before ++ [a]))
    (hworker : a.worker = some w) :
    let s₁ := run (step filterNativeConfigs feed) s before
    let s₂ := s₁.step filterNativeConfigs feed a
    (s₂.db = s₁.db ∨ WorkerWrites feed w s₁ s₂) ∧
    (∀ earlier v token' later token, before = earlier ++ .claim v token' :: later →
      ((run (step filterNativeConfigs feed) s earlier).phase w).token = some token →
      ((run (step filterNativeConfigs feed) s (earlier ++ [.claim v token'])).phase v).token =
        some token' →
      (s₁.phase w).token = some token → s₂.db = s₁.db) ∧
    ∀ cup, s₂.db.activeCupLinks cup ≠ s₁.db.activeCupLinks cup →
      ∃ token summary, s₂.phase w = .finished token (some summary) ∧ summary.ok = true := by
  obtain ⟨hbefore, -⟩ := guarded_append.mp hsteps
  have hsound := sound_run hstart.sound hbefore
  have hblank := blank_run hstart.blank hbefore
  refine ⟨workerWrites_step hsound hworker, ?_, fun cup => ok_of_activeCupLinks_ne hworker⟩
  intro earlier v token' later token heq hheld hclaimed htoken
  refine db_step_of_overtaken hsound hblank hworker htoken ?_
  rw [heq] at hbefore ⊢
  obtain ⟨hearlier, hclaim, hlater⟩ := guarded_append.mp hbefore
  rw [run_append, run_cons, run_nil] at hclaimed
  rw [run_append, run_cons]
  exact overtaken_run (overtaken_of_claim (sound_run hstart.sound hearlier) hclaim hheld hclaimed)
    hlater

end RefreshSystem

/-! ## Workers that are late -/

namespace RefreshSystem

/-- A filter that takes every link. -/
def takeAll (links : List String) (policy : FilterPolicy) : NativeConfigFilterResult where
  policy := policy
  upstreamCount := links.length
  filteredCount := 0
  selectedConfigs := links.map fun link => { rawLink := link }

def lateFeed : ExternalSubscriptionFeed where
  pk := 1
  provider := "pasarguard"
  cup := 1
  panel := some 1
  vpnClient := some 1
  resolvedFilterPolicy :=
    { protocols := ["vless"], security := ["reality"], transport := ["tcp"] }

def lateSystem : RefreshSystem where
  db :=
    { cups := ⟨[{ pk := 1, token := "cup" }], by decide⟩
      feeds := ⟨[lateFeed], by decide⟩ }

/-- A worker fetches a link, reads the clock and waits until its lease has run out. -/
def lateSteps : List RefreshStep :=
  [.start 0 false 0, .claim 0 "a", .load 0, .fetch 0 (.ok ["vless://x"]), .begin 0,
    .tick (refreshLease + 1)]

/-- The worker writes after its lease, and so does its release. -/
theorem late_worker_writes :
    let s := run (step takeAll 1) lateSystem lateSteps
    let written := s.step takeAll 1 (.write 0)
    let released := (s.step takeAll 1 (.raise 0)).step takeAll 1 (.release 0)
    Guarded (step takeAll 1) (Allowed 1) lateSystem lateSteps ∧
      (∀ lease ∈ s.db.leaseOf 1, lease.1 = "a" ∧ ∀ expiry ∈ lease.2, expiry < s.clock) ∧
      s.db.activeCupLinks 1 = [] ∧ written.db.activeCupLinks 1 = ["vless://x"] ∧
      released.db.leaseOf 1 ≠ s.db.leaseOf 1 := by
  decide +kernel

/-- Another worker claims the feed before the late one writes. -/
theorem late_worker_overtaken :
    let before := lateSteps ++ [.start 1 false 0, .claim 1 "b"]
    ((run (step takeAll 1) lateSystem before).step takeAll 1 (.write 0)).db =
      (run (step takeAll 1) lateSystem before).db := by
  have hsafe := refresh_lease_safe takeAll 1 0 lateSystem
    (lateSteps ++ [.start 1 false 0, .claim 1 "b"]) (.write 0)
    ⟨fun _ => rfl, by decide⟩ (by decide +kernel) rfl
  exact hsafe.2.1 (lateSteps ++ [.start 1 false 0]) 1 "b" [] "a" rfl (by decide +kernel)
    (by decide +kernel) (by decide +kernel)

end RefreshSystem

end Qasedak.Subscriptions
