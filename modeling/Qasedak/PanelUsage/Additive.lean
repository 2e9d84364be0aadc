import Qasedak.PanelUsage.Daily

/-! # The traffic of consecutive days

Whether the intervals of neighbouring days overlap, and whether they leave traffic out. -/

namespace Qasedak.PanelUsage

open Store

variable {c : Calendar} {rows : List UsageSnapshot} {d d' : ℤ} {s : UsageSnapshot}

/-! ## The chosen snapshots -/

theorem midnight_mono (c : Calendar) : Monotone c.midnight := monotone_int_of_le_succ c.midnight_le

theorem mem_lastBefore (h : s ∈ lastBefore c rows d) :
    s ∈ validSnapshots rows ∧ s.capturedAt ≤ c.midnight d ∧ c.earliest d ≤ s.capturedAt ∧
      ∀ x ∈ validSnapshots rows, x.capturedAt ≤ c.midnight d → x.capturedAt ≤ s.capturedAt := by
  have hs := List.argmax_mem h
  rw [List.mem_filter, decide_eq_true_iff] at hs
  refine ⟨hs.1, hs.2.1, hs.2.2, fun x hx hle => ?_⟩
  by_cases hearly : c.earliest d ≤ x.capturedAt
  · exact List.le_of_mem_argmax (List.mem_filter.mpr ⟨hx, decide_eq_true ⟨hle, hearly⟩⟩) h
  · exact (not_le.mp hearly).le.trans hs.2.2

theorem mem_firstAfter (h : s ∈ firstAfter c rows d) :
    s ∈ validSnapshots rows ∧ c.midnight d ≤ s.capturedAt := by
  have hs := List.argmin_mem h
  rw [List.mem_filter, decide_eq_true_iff] at hs
  exact ⟨hs.1, hs.2.1⟩

theorem mem_nearestTo (h : s ∈ nearestTo c rows d) :
    s ∈ lastBefore c rows d ∨ s ∈ validSnapshots rows ∧ c.midnight d ≤ s.capturedAt := by
  unfold nearestTo at h
  split at h
  next before after hb ha =>
    split at h
    · exact Or.inl (hb ▸ h)
    · exact Or.inr (mem_firstAfter (ha ▸ h))
  next before hb ha => exact Or.inl (hb ▸ h)
  next hb => exact Or.inr (mem_firstAfter h)

/-- A day starts with the last snapshot before its midnight, or later than that midnight. -/
theorem mem_start (h : s ∈ (nearestStartSnapshot c rows d).1) :
    s ∈ lastBefore c rows d ∨ s ∈ validSnapshots rows ∧ c.midnight d ≤ s.capturedAt := by
  unfold nearestStartSnapshot at h
  split at h
  next x hx => exact mem_nearestTo (hx ▸ h)
  next hx =>
    have hs := List.argmin_mem h
    rw [insideDay, List.mem_filter, decide_eq_true_iff] at hs
    exact Or.inr ⟨hs.1, hs.2.1⟩

theorem mem_stop (h : s ∈ (nearestEndSnapshot c rows d).1) :
    s ∈ validSnapshots rows ∧ s.capturedAt ≤ c.midnight (d + 1) := by
  unfold nearestEndSnapshot at h
  split at h
  next x hx =>
    have hs := mem_lastBefore (hx ▸ h)
    exact ⟨hs.1, hs.2.1⟩
  next hx =>
    have hs := List.argmax_mem h
    rw [insideDay, List.mem_filter, decide_eq_true_iff] at hs
    exact ⟨hs.1, hs.2.2.le⟩

theorem valid_of_mem_start (h : s ∈ (nearestStartSnapshot c rows d).1) :
    s ∈ validSnapshots rows := by
  rcases mem_start h with h | h
  · exact (mem_lastBefore h).1
  · exact h.1

/-- A day ends before any later one starts. -/
theorem stop_le_start {e s : UsageSnapshot} (hd : d < d')
    (he : e ∈ (nearestEndSnapshot c rows d).1) (hs : s ∈ (nearestStartSnapshot c rows d').1) :
    e.capturedAt ≤ s.capturedAt := by
  have hstop := mem_stop he
  have hmidnight : c.midnight (d + 1) ≤ c.midnight d' := midnight_mono c (Int.add_one_le_iff.mpr hd)
  rcases mem_start hs with h | h
  · exact (mem_lastBefore h).2.2.2 e hstop.1 (hstop.2.trans hmidnight)
  · exact (hstop.2.trans hmidnight).trans h.2

/-! ## One day -/

variable {clients : ClientData}

/-- What a day is: nothing to count, or the delta between its two snapshots. -/
theorem interval_cases (c : Calendar) (rows : List UsageSnapshot) (d : ℤ) (clients : ClientData) :
    ((calculatePanelDailyUsage c rows d clients).interval = none ∧
        (calculatePanelDailyUsage c rows d clients).usedBytes = 0 ∧
        (calculatePanelDailyUsage c rows d clients).dataQuality = .insufficient) ∨
      ∃ s e, s ∈ (nearestStartSnapshot c rows d).1 ∧ e ∈ (nearestEndSnapshot c rows d).1 ∧
        s.capturedAt < e.capturedAt ∧
        (calculatePanelDailyUsage c rows d clients).interval = some (s, e) ∧
        (calculatePanelDailyUsage c rows d clients).usedBytes = usageDelta (·.totalUsedBytes) s e ∧
        ((calculatePanelDailyUsage c rows d clients).dataQuality = .complete ↔
          usageWarnings c d clients s e (nearestStartSnapshot c rows d).2
            (nearestEndSnapshot c rows d).2 = []) := by
  simp only [calculatePanelDailyUsage]
  split
  next s e hs he =>
    by_cases h : s.pk = e.pk ∨ e.capturedAt ≤ s.capturedAt
    · rw [if_pos h]
      exact Or.inl ⟨rfl, rfl, rfl⟩
    · rw [if_neg h]
      refine Or.inr ⟨s, e, hs, he, not_le.mp (not_or.mp h).2, ?_, rfl, ?_⟩
      · simp only [DailyUsage.interval, hs, he]
        split_ifs <;> rfl
      · split_ifs with hw
        · exact iff_of_true rfl hw
        · exact iff_of_false nofun hw
  · exact Or.inl ⟨rfl, rfl, rfl⟩

/-- The totals of the valid snapshots never go backwards. -/
def NondecreasingTotals (rows : List UsageSnapshot) : Prop :=
  ∀ a ∈ validSnapshots rows, ∀ b ∈ validSnapshots rows,
    a.capturedAt ≤ b.capturedAt → a.totalUsedBytes ≤ b.totalUsedBytes

theorem usageDelta_of_le {f : UsageSnapshot → ℕ} {s e : UsageSnapshot} (h : f s ≤ f e) :
    usageDelta f s e = (f e : ℤ) - f s := by
  have hdelta : 0 ≤ delta f s e := by
    simp only [delta]
    omega
  unfold usageDelta
  split
  · rw [max_eq_left hdelta, delta]
  · rfl

theorem near_of_no_warnings {s e : UsageSnapshot} {nearStart nearStop : Bool}
    (h : usageWarnings c d clients s e nearStart nearStop = []) :
    nearStart = true ∧ nearStop = true := by
  simp only [usageWarnings, List.append_eq_nil_iff] at h
  obtain ⟨⟨⟨⟨⟨-, hstart⟩, hstop⟩, -⟩, -⟩, -⟩ := h
  cases nearStart <;> cases nearStop <;> simp_all

theorem start_eq_nearestTo (h : (nearestStartSnapshot c rows d).2 = true) :
    (nearestStartSnapshot c rows d).1 = nearestTo c rows d := by
  unfold nearestStartSnapshot at h ⊢
  split at h
  next s hs => simp only [hs]
  next hs => exact absurd h (by simp)

theorem stop_eq_lastBefore (h : (nearestEndSnapshot c rows d).2 = true) :
    (nearestEndSnapshot c rows d).1 = lastBefore c rows (d + 1) := by
  unfold nearestEndSnapshot at h ⊢
  split at h
  next s hs => simp only [hs]
  next hs => exact absurd h (by simp)

/-- A complete day runs from the snapshot near its midnight to the last one before the next. -/
theorem complete_day (hrows : NondecreasingTotals rows)
    (h : (calculatePanelDailyUsage c rows d clients).dataQuality = .complete) :
    ∃ s e, s ∈ nearestTo c rows d ∧ e ∈ lastBefore c rows (d + 1) ∧
      (calculatePanelDailyUsage c rows d clients).start = some s ∧
      (calculatePanelDailyUsage c rows d clients).stop = some e ∧
      (calculatePanelDailyUsage c rows d clients).usedBytes =
        (e.totalUsedBytes : ℤ) - s.totalUsedBytes := by
  rcases interval_cases c rows d clients with hnone | ⟨s, e, hs, he, hlt, hinterval, hused, hquality⟩
  · rw [hnone.2.2] at h
    exact absurd h (by decide)
  · have hnear := near_of_no_warnings (hquality.mp h)
    have hle : s.totalUsedBytes ≤ e.totalUsedBytes :=
      hrows s (valid_of_mem_start hs) e (mem_stop he).1 hlt.le
    rw [usageDelta_of_le (f := (·.totalUsedBytes)) hle] at hused
    refine ⟨s, e, start_eq_nearestTo hnear.1 ▸ hs, stop_eq_lastBefore hnear.2 ▸ he, ?_, ?_, hused⟩
    all_goals
      simp only [DailyUsage.interval, h] at hinterval
      split at hinterval
      · exact absurd hinterval (by simp)
      · simp_all
      · exact absurd hinterval (by simp)

/-! ## A run of days -/

/-- The traffic counted for the days from `d` to `d + n`. -/
def usedOver (c : Calendar) (rows : List UsageSnapshot) (clients : ClientData) (d : ℤ) (n : ℕ) : ℤ :=
  ((List.range (n + 1)).map fun i : ℕ =>
    (calculatePanelDailyUsage c rows (d + (i : ℤ)) clients).usedBytes).sum

theorem usedOver_zero : usedOver c rows clients d 0 =
    (calculatePanelDailyUsage c rows d clients).usedBytes := by
  simp [usedOver]

theorem usedOver_succ (n : ℕ) : usedOver c rows clients d (n + 1) =
    usedOver c rows clients d n +
      (calculatePanelDailyUsage c rows (d + ((n + 1 : ℕ) : ℤ)) clients).usedBytes := by
  rw [usedOver, List.range_succ, List.map_append, List.sum_append, usedOver]
  simp

/-- Traffic counted up to a day fits below every later snapshot. -/
theorem usedOver_le_of_later {first : UsageSnapshot} (hrows : NondecreasingTotals rows)
    (hfirst : first ∈ validSnapshots rows)
    (hleast : ∀ x ∈ validSnapshots rows, first.capturedAt ≤ x.capturedAt) (n : ℕ)
    {x : UsageSnapshot} (hx : x ∈ validSnapshots rows)
    (hlater : ∀ i ≤ n, ∀ e ∈ (nearestEndSnapshot c rows (d + (i : ℤ))).1,
      e.capturedAt ≤ x.capturedAt) :
    usedOver c rows clients d n ≤ (x.totalUsedBytes : ℤ) - first.totalUsedBytes := by
  induction n generalizing x with
  | zero =>
      have hfx := hrows first hfirst x hx (hleast x hx)
      have hlast := hlater 0 le_rfl
      rw [Nat.cast_zero, add_zero] at hlast
      rw [usedOver_zero]
      rcases interval_cases c rows d clients with hnone | ⟨s, e, hs, he, hlt, -, hused, -⟩
      · rw [hnone.2.1]
        omega
      · have hs' := valid_of_mem_start hs
        have he' := (mem_stop he).1
        have hse := hrows s hs' e he' hlt.le
        have hex := hrows e he' x hx (hlast e he)
        have hfs := hrows first hfirst s hs' (hleast s hs')
        rw [hused, usageDelta_of_le (f := (·.totalUsedBytes)) hse]
        omega
  | succ n ih =>
      rw [usedOver_succ]
      rcases interval_cases c rows (d + ((n + 1 : ℕ) : ℤ)) clients with
        hnone | ⟨s, e, hs, he, hlt, -, hused, -⟩
      · rw [hnone.2.1, add_zero]
        exact ih hx fun i hi => hlater i (hi.trans (Nat.le_succ n))
      · have hs' := valid_of_mem_start hs
        have he' := (mem_stop he).1
        have hse := hrows s hs' e he' hlt.le
        have hex := hrows e he' x hx (hlater (n + 1) le_rfl e he)
        have hbefore : usedOver c rows clients d n ≤
            (s.totalUsedBytes : ℤ) - first.totalUsedBytes := by
          refine ih hs' fun i hi e' he' => stop_le_start ?_ he' hs
          push_cast
          omega
        rw [hused, usageDelta_of_le (f := (·.totalUsedBytes)) hse]
        omega

/-- At a midnight, what the day before counted up to and what the next counts from agree: a
snapshot after it that is the nearer one shows no traffic since the last before it. -/
def BoundaryAgrees (c : Calendar) (rows : List UsageSnapshot) (d : ℤ) : Prop :=
  ∀ before ∈ lastBefore c rows d, ∀ after ∈ firstAfter c rows d,
    snapshotDistance after (c.midnight d) < snapshotDistance before (c.midnight d) →
      after.totalUsedBytes = before.totalUsedBytes

theorem boundaryAgrees_iff {before : UsageSnapshot} (hb : before ∈ lastBefore c rows d)
    (hs : s ∈ nearestTo c rows d) :
    BoundaryAgrees c rows d ↔ before.totalUsedBytes = s.totalUsedBytes := by
  have hb' : lastBefore c rows d = some before := hb
  unfold BoundaryAgrees
  unfold nearestTo at hs
  rw [hb'] at hs ⊢
  cases ha : firstAfter c rows d with
  | none =>
      simp only [ha, Option.mem_def, Option.some.injEq] at hs
      simp [hs]
  | some after =>
      simp only [ha] at hs
      by_cases h : snapshotDistance before (c.midnight d) ≤ snapshotDistance after (c.midnight d)
      · simp only [if_pos h, Option.mem_def, Option.some.injEq] at hs
        simp [hs ▸ h, hs]
      · simp only [if_neg h, Option.mem_def, Option.some.injEq] at hs
        subst hs
        simp [not_le.mp h, eq_comm]

theorem lastBefore_le_nearestTo {before : UsageSnapshot} (hrows : NondecreasingTotals rows)
    (hb : before ∈ lastBefore c rows d) (hs : s ∈ nearestTo c rows d) :
    before.totalUsedBytes ≤ s.totalUsedBytes := by
  rcases mem_nearestTo hs with h | h
  · rw [Option.mem_unique hb h]
  · have hbefore := mem_lastBefore hb
    exact hrows before hbefore.1 s h.1 (hbefore.2.1.trans h.2)

/-- Complete days add up to no more than the growth, and to all of it exactly when they agree at
every midnight between them. -/
theorem usedOver_complete (hrows : NondecreasingTotals rows) (n : ℕ)
    (hdays : ∀ i ≤ n, (calculatePanelDailyUsage c rows (d + (i : ℤ)) clients).dataQuality = .complete)
    {s e : UsageSnapshot} (hs : (calculatePanelDailyUsage c rows d clients).start = some s)
    (he : (calculatePanelDailyUsage c rows (d + (n : ℤ)) clients).stop = some e) :
    usedOver c rows clients d n ≤ (e.totalUsedBytes : ℤ) - s.totalUsedBytes ∧
      (usedOver c rows clients d n = (e.totalUsedBytes : ℤ) - s.totalUsedBytes ↔
        ∀ i < n, BoundaryAgrees c rows (d + (i : ℤ) + 1)) := by
  induction n generalizing e with
  | zero =>
      have hday := hdays 0 le_rfl
      rw [Nat.cast_zero, add_zero] at hday he
      obtain ⟨s', e', -, -, hs', he', hused⟩ := complete_day hrows hday
      obtain rfl : s = s' := Option.some_inj.mp (hs.symm.trans hs')
      obtain rfl : e = e' := Option.some_inj.mp (he.symm.trans he')
      rw [usedOver_zero, hused]
      exact ⟨le_rfl, iff_of_true rfl fun i hi => absurd hi (Nat.not_lt_zero i)⟩
  | succ n ih =>
      obtain ⟨s₁, e₁, -, he₁, -, hstop₁, -⟩ := complete_day hrows (hdays n (Nat.le_succ n))
      obtain ⟨s₂, e₂, hs₂, -, -, hstop₂, hused₂⟩ := complete_day hrows (hdays (n + 1) le_rfl)
      obtain rfl : e = e₂ := Option.some_inj.mp (he.symm.trans hstop₂)
      have hday : d + ((n + 1 : ℕ) : ℤ) = d + (n : ℤ) + 1 := by
        push_cast
        ring
      rw [hday] at hs₂
      have hearlier := ih (fun i hi => hdays i (hi.trans (Nat.le_succ n))) hstop₁
      have hgap := lastBefore_le_nearestTo hrows he₁ hs₂
      have hagrees := boundaryAgrees_iff he₁ hs₂
      rw [usedOver_succ, hused₂]
      refine ⟨by omega, ?_⟩
      rw [Nat.forall_lt_succ_right, ← hearlier.2, hagrees]
      omega

/-! ## Additivity -/

/-- No day starts before an earlier one has ended. -/
def IntervalsApart (c : Calendar) (rows : List UsageSnapshot) (clients : ClientData) : Prop :=
  ∀ d d', d < d' → ∀ p ∈ (calculatePanelDailyUsage c rows d clients).interval,
    ∀ q ∈ (calculatePanelDailyUsage c rows d' clients).interval,
      p.2.capturedAt ≤ q.1.capturedAt

/-- The days count no more than the growth from the first snapshot to the last. -/
def WithinGrowth (c : Calendar) (rows : List UsageSnapshot) (clients : ClientData) (d : ℤ) (n : ℕ) :
    Prop :=
  ∀ first ∈ validSnapshots rows, ∀ last ∈ validSnapshots rows,
    (∀ x ∈ validSnapshots rows, first.capturedAt ≤ x.capturedAt ∧ x.capturedAt ≤ last.capturedAt) →
      usedOver c rows clients d n ≤ (last.totalUsedBytes : ℤ) - first.totalUsedBytes

def AllComplete (c : Calendar) (rows : List UsageSnapshot) (clients : ClientData) (d : ℤ) (n : ℕ) :
    Prop :=
  ∀ i ≤ n, (calculatePanelDailyUsage c rows (d + (i : ℤ)) clients).dataQuality = .complete

/-- Complete days count all the growth from the start of the first to the end of the last. -/
def AddsUp (c : Calendar) (rows : List UsageSnapshot) (clients : ClientData) (d : ℤ) (n : ℕ) :
    Prop :=
  AllComplete c rows clients d n →
    ∃ s e, (calculatePanelDailyUsage c rows d clients).start = some s ∧
      (calculatePanelDailyUsage c rows (d + (n : ℤ)) clients).stop = some e ∧
      usedOver c rows clients d n = (e.totalUsedBytes : ℤ) - s.totalUsedBytes

theorem intervalsApart : IntervalsApart c rows clients := by
  intro d d' hd p hp q hq
  rcases interval_cases c rows d clients with hnone | ⟨s, e, -, he, -, hinterval, -⟩
  · exact absurd (hnone.1 ▸ hp) (by simp)
  · rcases interval_cases c rows d' clients with hnone' | ⟨s', e', hs', -, -, hinterval', -⟩
    · exact absurd (hnone'.1 ▸ hq) (by simp)
    · obtain rfl : p = (s, e) := Option.mem_unique hp hinterval
      obtain rfl : q = (s', e') := Option.mem_unique hq hinterval'
      exact stop_le_start hd he hs'

theorem withinGrowth (hrows : NondecreasingTotals rows) (n : ℕ) :
    WithinGrowth c rows clients d n := by
  intro first hfirst last hlast hbounds
  refine usedOver_le_of_later hrows hfirst (fun x hx => (hbounds x hx).1) n hlast ?_
  exact fun i _ e he => (hbounds e (mem_stop he).1).2

/-- With totals that never go backwards, the days never overlap and stay within the growth; they
leave nothing out exactly when complete days agree at every midnight between them. -/
theorem dailyUsage_additive_iff (c : Calendar) (rows : List UsageSnapshot) (clients : ClientData)
    (d : ℤ) (n : ℕ) (hrows : NondecreasingTotals rows) :
    (IntervalsApart c rows clients ∧ WithinGrowth c rows clients d n ∧
        AddsUp c rows clients d n) ↔
      (AllComplete c rows clients d n → ∀ i < n, BoundaryAgrees c rows (d + (i : ℤ) + 1)) := by
  constructor
  · rintro ⟨-, -, hadds⟩ hdays
    obtain ⟨s, e, hs, he, hsum⟩ := hadds hdays
    exact (usedOver_complete hrows n hdays hs he).2.mp hsum
  · refine fun hagree => ⟨intervalsApart, withinGrowth hrows n, fun hdays => ?_⟩
    have hfirst := hdays 0 (Nat.zero_le n)
    rw [Nat.cast_zero, add_zero] at hfirst
    obtain ⟨s, -, -, -, hs, -⟩ := complete_day hrows hfirst
    obtain ⟨-, e, -, -, -, he, -⟩ := complete_day hrows (hdays n le_rfl)
    exact ⟨s, e, hs, he, (usedOver_complete hrows n hdays hs he).2.mpr (hagree hdays)⟩

/-! ## Traffic around midnight -/

/-- Traffic between ten in the evening and a minute past midnight. -/
def lateTraffic : List UsageSnapshot :=
  [{ pk := 1, capturedAt := 0, totalUsedBytes := 0 },
    { pk := 2, capturedAt := minutes 1320, totalUsedBytes := 100 },
    { pk := 3, capturedAt := minutes 1441, totalUsedBytes := 150 },
    { pk := 4, capturedAt := minutes 2880, totalUsedBytes := 200 }]

def knownClients : ClientData where
  hasClients _ := true
  hasOnline _ _ := true

/-- Both days are complete, and the traffic between them belongs to neither. -/
theorem late_traffic_lost :
    NondecreasingTotals lateTraffic ∧ AllComplete (.fixed 0) lateTraffic knownClients 0 1 ∧
      usedOver (.fixed 0) lateTraffic knownClients 0 1 = 150 ∧
      ¬ AddsUp (.fixed 0) lateTraffic knownClients 0 1 := by
  have hrows : NondecreasingTotals lateTraffic := by
    unfold NondecreasingTotals
    decide +kernel
  have hdays : AllComplete (.fixed 0) lateTraffic knownClients 0 1 := by
    unfold AllComplete
    decide +kernel
  have hused : usedOver (.fixed 0) lateTraffic knownClients 0 1 = 150 := by decide +kernel
  refine ⟨hrows, hdays, hused, fun hadds => ?_⟩
  obtain ⟨s, e, hs, he, hsum⟩ := hadds hdays
  have hs' : (calculatePanelDailyUsage (.fixed 0) lateTraffic 0 knownClients).start.map
      (·.totalUsedBytes) = some 0 := by decide +kernel
  have he' : (calculatePanelDailyUsage (.fixed 0) lateTraffic (0 + ((1 : ℕ) : ℤ)) knownClients).stop.map
      (·.totalUsedBytes) = some 200 := by decide +kernel
  rw [hs, Option.map_some, Option.some_inj] at hs'
  rw [he, Option.map_some, Option.some_inj] at he'
  omega

/-- The rule at the two days of that traffic. -/
theorem late_traffic_rule :
    (IntervalsApart (.fixed 0) lateTraffic knownClients ∧
        WithinGrowth (.fixed 0) lateTraffic knownClients 0 1 ∧
        AddsUp (.fixed 0) lateTraffic knownClients 0 1) ↔
      (AllComplete (.fixed 0) lateTraffic knownClients 0 1 →
        ∀ i : ℕ, i < 1 → BoundaryAgrees (.fixed 0) lateTraffic (0 + (i : ℤ) + 1)) :=
  dailyUsage_additive_iff (.fixed 0) lateTraffic knownClients 0 1 (by
    unfold NondecreasingTotals
    decide +kernel)

end Qasedak.PanelUsage
