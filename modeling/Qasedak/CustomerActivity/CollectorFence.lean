import Qasedak.CustomerActivity.Collector
import Qasedak.Foundation.Fence

/-! Whatever the order of the steps: only the holder of the lease records, each purchase is
observed at later and later times, and one that was overtaken changes nothing of the lease. -/

namespace Qasedak.CustomerActivity

open Foundation Store

variable {κ : Type*} [DecidableEq κ] {digest : RowScope → String} {minimum : ℤ}
  {s : CollectorSystem κ} {a : CollectorStep κ} {i : κ}

/-! ## The row -/

theorem claim_token {row row' : ActivityCollector} {token : String} {now : Instant}
    (h : row.claim token now = some row') : row'.token = token := by
  unfold ActivityCollector.claim at h
  split at h
  · rw [← Option.some.inj h]
  · cases h

theorem isHeldBy_iff {row : ActivityCollector} {token : String} {now : Instant} :
    row.isHeldBy token now = true ↔
      row.token = token ∧ ∃ expiry, row.leaseUntil = some expiry ∧ now < expiry := by
  unfold ActivityCollector.isHeldBy
  rw [Bool.and_eq_true, decide_eq_true_eq, Option.any_eq_true]
  simp only [decide_eq_true_eq]

/-- A heartbeat is the holder's. -/
theorem heartbeat_token {row row' : ActivityCollector} {token : String} {now : Instant}
    (h : row.heartbeat token now = some row') : row.token = token ∧ row'.token = row.token := by
  unfold ActivityCollector.heartbeat at h
  split at h
  · rename_i hheld
    rw [← Option.some.inj h]
    exact ⟨(isHeldBy_iff.mp hheld).1, rfl⟩
  · cases h

theorem updateWhere_cases (row : ActivityCollector) (token : String)
    (change : ActivityCollector → ActivityCollector) (hchange : (change row).token = row.token) :
    row.updateWhere token change = row ∨
      row.token = token ∧ (row.updateWhere token change).token = row.token := by
  unfold ActivityCollector.updateWhere
  by_cases h : row.token = token
  · rw [if_pos h]
    exact .inr ⟨h, hchange⟩
  · rw [if_neg h]
    exact .inl rfl

namespace CollectorSystem

@[simp] theorem set_collectors_self (c : Collector) : (s.set i c).collectors i = c := by
  simp [set]

theorem set_collectors_of_ne {j : κ} (c : Collector) (h : j ≠ i) :
    (s.set i c).collectors j = s.collectors j := by
  simp [set, h]

/-! ## What one step does -/

/-- What a step of a collector does to the system: to the row, only where the row has its token,
and to the observations, only while its lease runs. -/
inductive Does (minimum : ℤ) (s : CollectorSystem κ) (a : CollectorStep κ) :
    CollectorSystem κ → Prop
  /-- Nothing but the collector's own variables changes. -/
  | own (c : Collector) (htoken : c.token = (s.collectors a.collector).token)
      (hrun : c.phase ≠ .idle → (s.collectors a.collector).phase ≠ .idle) :
      Does minimum s a (s.set a.collector c)
  | take (c : Collector) (now : Instant) (row : ActivityCollector)
      (hstep : a = .claim a.collector c.token now) (hrow : row.token = c.token) :
      Does minimum s a { s.set a.collector c with
        row := row
        used := c.token :: s.used }
  | write (c : Collector) (row : ActivityCollector)
      (htoken : c.token = (s.collectors a.collector).token)
      (hrun : (s.collectors a.collector).phase ≠ .idle)
      (hheld : s.row.token = c.token) (hrow : row.token = s.row.token) :
      Does minimum s a { s.set a.collector c with row := row }
  | record (c : Collector) (now : Instant) (k : ℕ) (o : Observation)
      (hstep : a = .record a.collector now)
      (htoken : c.token = (s.collectors a.collector).token)
      (hrun : (s.collectors a.collector).phase ≠ .idle)
      (hheld : s.row.isHeldBy c.token now = true) (hnow : o.now = now) :
      Does minimum s a { s.set a.collector c with
        recorders := Function.update s.recorders k (recordStep minimum (s.recorders k) o) }

theorem set_collectors (s : CollectorSystem κ) (i : κ) : s.set i (s.collectors i) = s := by
  unfold set
  rw [Function.update_eq_self]

theorem does_nothing (minimum : ℤ) (s : CollectorSystem κ) (a : CollectorStep κ) :
    Does minimum s a s := by
  have h := @Does.own κ _ minimum s a (s.collectors a.collector) rfl id
  rwa [set_collectors] at h

theorem does_phase (minimum : ℤ) (s : CollectorSystem κ) (a : CollectorStep κ)
    {phase : CollectorPhase}
    (hrun : phase ≠ .idle → (s.collectors a.collector).phase ≠ .idle) :
    Does minimum s a (s.setPhase a.collector phase) :=
  .own _ rfl hrun

theorem does_beat (minimum : ℤ) (s : CollectorSystem κ) (a : CollectorStep κ) (now : Instant)
    (next : CollectorPhase) (hrun : (s.collectors a.collector).phase ≠ .idle) :
    Does minimum s a (s.beat a.collector now next) := by
  unfold beat
  cases h : s.row.heartbeat (s.collectors a.collector).token now with
  | none => exact does_phase minimum s a fun _ => hrun
  | some row =>
      obtain ⟨hheld, hrow⟩ := heartbeat_token h
      exact .write _ row rfl hrun hheld hrow

theorem does_update (minimum : ℤ) (s : CollectorSystem κ) (a : CollectorStep κ)
    (phase : CollectorPhase) {change : ActivityCollector → ActivityCollector}
    (hchange : (change s.row).token = s.row.token)
    (hrun : (s.collectors a.collector).phase ≠ .idle) :
    Does minimum s a { s.setPhase a.collector phase with
      row := s.row.updateWhere (s.collectors a.collector).token change } := by
  rcases updateWhere_cases s.row (s.collectors a.collector).token change hchange with
    hsame | ⟨hheld, hrow⟩
  · rw [hsame]
    exact does_phase minimum s a fun _ => hrun
  · exact .write _ _ rfl hrun hheld hrow

theorem does_claimStep (minimum : ℤ) (s : CollectorSystem κ) (i : κ) (token : String)
    (now : Instant) : Does minimum s (.claim i token now) (s.claimStep i token now) := by
  unfold claimStep
  split
  · cases h : s.row.claim token now with
    | none => exact does_nothing minimum s _
    | some row => exact .take { phase := .claimed, token := token } now row rfl (claim_token h)
  · exact does_nothing minimum s _

theorem does_heartbeatStep (minimum : ℤ) (s : CollectorSystem κ) (i : κ) (now : Instant) :
    Does minimum s (.heartbeat i now) (s.heartbeatStep i now) := by
  unfold heartbeatStep
  split
  · rename_i h
    exact does_beat minimum s (.heartbeat i now) now _ (by rw [CollectorStep.collector, h]; simp)
  · rename_i h
    exact does_beat minimum s (.heartbeat i now) now _ (by rw [CollectorStep.collector, h]; simp)
  · rename_i h
    exact does_beat minimum s (.heartbeat i now) now _ (by rw [CollectorStep.collector, h]; simp)
  · exact does_nothing minimum s _

theorem does_recordPhase (digest : RowScope → String) (minimum : ℤ) (s : CollectorSystem κ)
    (i : κ) (now : Instant) :
    Does minimum s (.record i now) (s.recordPhase digest minimum i now) := by
  unfold recordPhase
  split
  · rename_i m left h
    have hrun : (s.collectors i).phase ≠ .idle := by
      rw [h]
      simp
    unfold recordNext
    dsimp only
    split
    · rename_i hheld
      split
      · exact does_phase minimum s (.record i now) fun _ => hrun
      · exact .record _ now m.order.pk _ rfl rfl hrun hheld rfl
    · exact does_phase minimum s (.record i now) fun _ => hrun
  · exact does_nothing minimum s _

theorem step_does (digest : RowScope → String) (minimum : ℤ) (s : CollectorSystem κ)
    (a : CollectorStep κ) : Does minimum s a (s.step digest minimum a) := by
  cases a with
  | claim i token now => exact does_claimStep minimum s i token now
  | load i maps orphans stored =>
      simp only [step, loadStep]
      split
      · rename_i h
        exact .own _ rfl fun _ => by simp [CollectorStep.collector, h]
      · exact does_nothing minimum s _
  | heartbeat i now => exact does_heartbeatStep minimum s i now
  | read i samples status =>
      simp only [step, readStep]
      split
      · rename_i h
        exact .own _ rfl fun _ => by simp [CollectorStep.collector, h]
      · exact does_nothing minimum s _
  | record i now => exact does_recordPhase digest minimum s i now
  | complete i now =>
      simp only [step, completeStep]
      split
      · rename_i h
        exact does_update minimum s (.complete i now) .releasing rfl
          (by simp [CollectorStep.collector, h])
      · exact does_nothing minimum s _
  | raise i error =>
      simp only [step, raiseStep]
      split
      · exact does_nothing minimum s _
      · rename_i h
        exact does_phase minimum s (.raise i error) fun _ => by simp [CollectorStep.collector, h]
      · exact does_phase minimum s (.raise i error) fun h => absurd rfl h
      · rename_i h _ _
        exact does_phase minimum s (.raise i error) fun _ => h
  | interrupt i =>
      simp only [step, interruptStep]
      split
      · exact does_nothing minimum s _
      · exact does_phase minimum s (.interrupt i) fun h => absurd rfl h
      · rename_i h _
        exact does_phase minimum s (.interrupt i) fun _ => h
  | fail i =>
      simp only [step, failStep]
      split
      · rename_i h
        exact does_update minimum s (.fail i) .releasing rfl (by simp [CollectorStep.collector, h])
      · exact does_nothing minimum s _
  | release i =>
      simp only [step, releaseStep]
      split
      · rename_i h
        exact does_update minimum s (.release i) .idle rfl (by simp [CollectorStep.collector, h])
      · exact does_nothing minimum s _
  | crash i => exact does_phase minimum s (.crash i) fun h => absurd rfl h

/-! ## The fence -/

/-- The row as a fence; a release leaves its token where it is. -/
def fence (s : CollectorSystem κ) : Fence String where
  current := some s.row.token
  used := s.used

/-- What a collector of a run has claimed with was drawn. -/
def Sound (s : CollectorSystem κ) : Prop :=
  ∀ i, (s.collectors i).phase ≠ .idle → (s.collectors i).token ∈ s.used

omit [DecidableEq κ] in
theorem sound_start (row : ActivityCollector) : (start κ row).Sound :=
  fun _ h => absurd rfl h

theorem Sound.step (h : s.Sound) : (s.step digest minimum a).Sound := by
  intro i hrun
  have hdoes := step_does digest minimum s a
  generalize s.step digest minimum a = s' at hdoes hrun
  by_cases hi : i = a.collector
  · subst hi
    cases hdoes with
    | own c htoken hc =>
        rw [set_collectors_self] at hrun ⊢
        rw [htoken]
        exact h _ (hc hrun)
    | take c now row hstep hrow =>
        simp only [set_collectors_self]
        exact List.mem_cons_self
    | write c row htoken hc hheld hrow =>
        simp only [set_collectors_self, htoken]
        exact h _ hc
    | record c now k o hstep htoken hc hheld hnow =>
        simp only [set_collectors_self, htoken]
        exact h _ hc
  · cases hdoes with
    | own c htoken hc =>
        rw [set_collectors_of_ne c hi] at hrun ⊢
        exact h i hrun
    | take c now row hstep hrow =>
        simp only [set_collectors_of_ne c hi] at hrun ⊢
        exact List.mem_cons_of_mem _ (h i hrun)
    | write c row htoken hc hheld hrow =>
        simp only [set_collectors_of_ne c hi] at hrun ⊢
        exact h i hrun
    | record c now k o hstep htoken hc hheld hnow =>
        simp only [set_collectors_of_ne c hi] at hrun ⊢
        exact h i hrun

/-- A step takes the fence with a token that was drawn for it, or leaves it as it is. -/
theorem fence_step (hdraws : s.Draws a) :
    ∃ f, (s.fence).Fresh f ∧ (s.step digest minimum a).fence = s.fence.step f := by
  have hdoes := step_does digest minimum s a
  generalize s.step digest minimum a = s' at hdoes
  cases hdoes with
  | own c htoken hc => exact ⟨.rest, trivial, rfl⟩
  | take c now row hstep hrow =>
      refine ⟨.take c.token, ?_, ?_⟩
      · rw [hstep] at hdraws
        exact hdraws
      · simp only [fence, Fence.step, hrow]
  | write c row htoken hc hheld hrow =>
      refine ⟨.rest, trivial, ?_⟩
      simp only [fence, Fence.step, hrow]
      rfl
  | record c now k o hstep htoken hc hheld hnow => exact ⟨.rest, trivial, rfl⟩

theorem overtaken_step {token : String} (h : s.fence.Overtaken token) (hdraws : s.Draws a) :
    (s.step digest minimum a).fence.Overtaken token := by
  obtain ⟨f, hfresh, hfence⟩ := @fence_step κ _ digest minimum s a hdraws
  rw [hfence]
  exact h.step hfresh

/-- The token of a collector changes with its own claims only. -/
theorem step_token (hclaim : ∀ token now, a ≠ .claim i token now) :
    ((s.step digest minimum a).collectors i).token = (s.collectors i).token := by
  have hdoes := step_does digest minimum s a
  generalize s.step digest minimum a = s' at hdoes
  by_cases hi : i = a.collector
  · subst hi
    cases hdoes with
    | own c htoken hc =>
        rw [set_collectors_self]
        exact htoken
    | take c now row hstep hrow => exact absurd hstep (hclaim _ _)
    | write c row htoken hc hheld hrow =>
        simp only [set_collectors_self]
        exact htoken
    | record c now k o hstep htoken hc hheld hnow =>
        simp only [set_collectors_self]
        exact htoken
  · cases hdoes <;> simp only [set_collectors_of_ne _ hi]

/-- A collector whose token is not the row's changes nothing of the row. -/
theorem step_row_of_ne (hi : a.collector = i) (hclaim : ∀ token now, a ≠ .claim i token now)
    (hne : s.row.token ≠ (s.collectors i).token) : (s.step digest minimum a).row = s.row := by
  subst hi
  have hdoes := step_does digest minimum s a
  generalize s.step digest minimum a = s' at hdoes
  cases hdoes with
  | own c htoken hc => rfl
  | take c now row hstep hrow => exact absurd hstep (hclaim _ _)
  | write c row htoken hc hheld hrow =>
      rw [htoken] at hheld
      exact absurd hheld hne
  | record c now k o hstep htoken hc hheld hnow => rfl

/-! ## Recording -/

/-- What is recorded of an order changes with a recording of the lease's holder. -/
theorem step_recorders {k : ℕ}
    (h : (s.step digest minimum a).recorders k ≠ s.recorders k) :
    ∃ now o, a = .record a.collector now ∧
      s.row.isHeldBy (s.collectors a.collector).token now = true ∧ o.now = now ∧
      (s.step digest minimum a).recorders k = recordStep minimum (s.recorders k) o := by
  have hdoes := step_does digest minimum s a
  generalize s.step digest minimum a = s' at hdoes h
  cases hdoes with
  | own c htoken hc => exact absurd rfl h
  | take c now row hstep hrow => exact absurd rfl h
  | write c row htoken hc hheld hrow => exact absurd rfl h
  | record c now k' o hstep htoken hc hheld hnow =>
      rw [htoken] at hheld
      by_cases hk : k = k'
      · subst hk
        exact ⟨now, o, hstep, hheld, hnow, Function.update_self _ _ _⟩
      · exact absurd (Function.update_of_ne hk _ _) h

/-- The fields of each activity are true to its observations. -/
def Recorded (minimum : ℤ) (s : CollectorSystem κ) : Prop :=
  ∀ k, Tracks minimum (s.recorders k).activity (s.recorders k).history

theorem Recorded.step (h : s.Recorded minimum) : (s.step digest minimum a).Recorded minimum := by
  intro k
  by_cases hk : (s.step digest minimum a).recorders k = s.recorders k
  · rw [hk]
    exact h k
  · obtain ⟨now, o, -, -, -, heq⟩ := step_recorders hk
    rw [heq]
    exact tracks_recordStep (h k) o

/-! ## Runs -/

variable {ops : List (CollectorStep κ)}

theorem sound_run (h : s.Sound) : (run (step digest minimum) s ops).Sound :=
  run_invariant (fun _ _ hs => hs.step) ops h

theorem recorded_run (row : ActivityCollector) :
    (run (step digest minimum) (start κ row) ops).Recorded minimum :=
  run_invariant (fun _ _ hs => hs.step) ops fun _ => tracks_init minimum

theorem overtaken_run {token : String} (h : s.fence.Overtaken token)
    (hops : Guarded (step digest minimum) Draws s ops) :
    (run (step digest minimum) s ops).fence.Overtaken token :=
  @Guarded.invariant _ _ _ _ (fun s => s.fence.Overtaken token) (fun _ _ hs hdraws =>
    overtaken_step hs hdraws) s ops hops h

theorem token_run (hclaim : ∀ a ∈ ops, ∀ token now, a ≠ .claim i token now) :
    ((run (step digest minimum) s ops).collectors i).token = (s.collectors i).token := by
  induction ops generalizing s with
  | nil => rfl
  | cons a ops ih =>
      rw [run_cons, ih fun b hb => hclaim b (List.mem_cons_of_mem a hb)]
      exact step_token (hclaim a List.mem_cons_self)

/-- The row has the token of another run than the collector's, which goes on. -/
def Overtaken (s : CollectorSystem κ) (i : κ) : Prop :=
  (s.collectors i).phase ≠ .idle ∧ s.row.token ≠ (s.collectors i).token

/-- What a step changes of the observations of an order is one that the holder of the lease
makes, while the lease runs. -/
def RecordedByHolder (digest : RowScope → String) (minimum : ℤ) (s : CollectorSystem κ)
    (a : CollectorStep κ) : Prop :=
  ∀ k, (s.step digest minimum a).recorders k ≠ s.recorders k →
    ∃ now expiry o, a = .record a.collector now ∧
      s.row.token = (s.collectors a.collector).token ∧ s.row.leaseUntil = some expiry ∧
      now < expiry ∧ o.now = now ∧
      (s.step digest minimum a).recorders k = recordStep minimum (s.recorders k) o

end CollectorSystem

open CollectorSystem

/-- In every run of any collectors whose tokens are drawn once: an observation is recorded by the
collector with the row's token while the lease runs, the observations of each order are at
later and later times, and after a collector was overtaken none of its steps changes the row until
it claims anew. -/
theorem collector_fenced (digest : RowScope → String) (minimum : ℤ) (row : ActivityCollector)
    (ops : List (CollectorStep κ))
    (hops : Guarded (step digest minimum) Draws (start κ row) ops) :
    (∀ before a after, ops = before ++ a :: after →
        RecordedByHolder digest minimum (run (step digest minimum) (start κ row) before) a) ∧
      (∀ k, ((run (step digest minimum) (start κ row) ops).recorders k).history.Pairwise
        fun n o => o.now < n.now) ∧
      ∀ before between a after i, ops = before ++ (between ++ a :: after) →
        (run (step digest minimum) (start κ row) before).Overtaken i → a.collector = i →
        (∀ b ∈ between ++ [a], ∀ token now, b ≠ .claim i token now) →
        (run (step digest minimum) (start κ row) (before ++ (between ++ [a]))).row =
          (run (step digest minimum) (start κ row) (before ++ between)).row := by
  refine ⟨?_, fun k => (recorded_run row k).sorted, ?_⟩
  · intro before a after _ k hk
    obtain ⟨now, o, hstep, hheld, hnow, heq⟩ := step_recorders hk
    obtain ⟨htoken, expiry, hexpiry, hlt⟩ := isHeldBy_iff.mp hheld
    exact ⟨now, expiry, o, hstep, htoken, hexpiry, hlt, hnow, heq⟩
  · rintro before between a after i rfl ⟨hrun, hne⟩ hi hclaim
    obtain ⟨-, hrest⟩ := guarded_append.mp hops
    obtain ⟨hbetween, -⟩ := guarded_append.mp hrest
    have hclaims : ∀ b ∈ between, ∀ token now, b ≠ .claim i token now :=
      fun b hb => hclaim b (List.mem_append_left [a] hb)
    have hused := @sound_run κ _ digest minimum _ before (sound_start row) i hrun
    have hovertaken := overtaken_run ⟨hused, fun h => hne (Option.some.inj h)⟩ hbetween
    rw [run_append, run_append, run_append]
    refine step_row_of_ne hi (hclaim a (by simp)) ?_
    rw [token_run hclaims]
    exact fun h => hovertaken.2 (congrArg some h)

/-- A collector that stalls is overtaken, and is told to release. -/
def takeover : List (CollectorStep ℕ) :=
  [.claim 0 "a" 0, .load 0 [] [] [], .claim 1 "b" (minutes 11), .raise 0 "OSError", .fail 0]

/-- The release of the collector that was overtaken leaves the row as it is. -/
theorem collector_fenced_takeover :
    (run (step (fun _ => "") 1) (start ℕ {}) (takeover ++ [.release 0])).row =
      (run (step (fun _ => "") 1) (start ℕ {}) takeover).row :=
  (collector_fenced (fun _ => "") 1 {} (takeover ++ [.release 0]) (by decide +kernel)).2.2
    (takeover.take 3) (takeover.drop 3) (.release 0) [] 0 rfl
    ⟨by decide +kernel, by decide +kernel⟩ rfl (by simp [takeover])

end Qasedak.CustomerActivity
