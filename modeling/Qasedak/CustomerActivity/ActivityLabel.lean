import Qasedak.CustomerActivity.Recording
import Mathlib.Data.List.Chain
import Mathlib.Data.List.Infix
import Mathlib.Order.Basic

/-! What the label of a purchase says about the observations of it: the few fields that are
kept stand for a chain of them. -/

namespace Qasedak.CustomerActivity

open Foundation Store

/-! ## Intervals -/

/-- The counters that an observation brings. -/
def Observation.counters (o : Observation) : Dict Counter := (countersOf o.rows).getD ∅

def Observation.times (o : Observation) : List Instant := captureTimes o.counters

/-- The observation covers all sources of the purchase, and their counters count. -/
def FullCoverage (o : Observation) : Prop :=
  o.obstacle = "" ∧ o.partly = false ∧ (countersOf o.rows).isSome = true ∧ o.times ≠ []

/-- From one observation to the next: the same sources, each captured later and by no more
than the gap, in one cycle and without a decrease. -/
def ValidInterval (o n : Observation) : Prop :=
  o.counters.SameKeys n.counters ∧
    ∀ k after, n.counters.lookup k = some after →
      ∃ before, o.counters.lookup k = some before ∧ timely before after = true ∧
        sameCycle before after = true ∧ notDecreased before after = true

/-- The bytes used in an interval. -/
def Observation.growthTo (o n : Observation) : ℤ := growth o.counters n.counters

theorem mem_captureTimes {c : Dict Counter} {t : Instant} :
    t ∈ captureTimes c ↔ ∃ k x, c.lookup k = some x ∧ x.capturedAt = t := by
  simp only [captureTimes, Dict.values, List.mem_map]
  constructor
  · rintro ⟨x, ⟨⟨k, y⟩, hmem, rfl⟩, rfl⟩
    exact ⟨k, y, Dict.mem_entries_iff_lookup.mp hmem, rfl⟩
  · rintro ⟨k, x, hlookup, rfl⟩
    exact ⟨x, ⟨⟨k, x⟩, Dict.mem_entries_iff_lookup.mpr hlookup, rfl⟩, rfl⟩

/-- Every capture of an interval's start is before a capture of its end. -/
theorem ValidInterval.exists_later {o n : Observation} (h : ValidInterval o n) {t : Instant}
    (ht : t ∈ o.times) : ∃ t' ∈ n.times, t < t' := by
  obtain ⟨k, x, hx, rfl⟩ := mem_captureTimes.mp ht
  have hkey : k ∈ n.counters.keys :=
    h.1.1 (Dict.mem_keys_of_mem_entries (Dict.mem_entries_iff_lookup.mpr hx))
  obtain ⟨after, hafter⟩ := Dict.exists_of_mem_keys hkey
  obtain ⟨before, hbefore, htimely, -⟩ := h.2 k after hafter
  obtain rfl := Option.some.inj (hx.symm.trans hbefore)
  refine ⟨after.capturedAt, mem_captureTimes.mpr ⟨k, after, hafter, rfl⟩, ?_⟩
  simp only [timely, Bool.and_eq_true, decide_eq_true_eq] at htimely
  exact Int.lt_of_sub_pos htimely.1

theorem forSources_iff {p : Counter → Counter → Bool} {previous current : Dict Counter} :
    forSources p previous current = true ↔ ∀ k after, current.lookup k = some after →
      ∃ before, previous.lookup k = some before ∧ p before after = true := by
  simp only [forSources, List.all_eq_true]
  constructor
  · intro h k after hafter
    have := h ⟨k, after⟩ (Dict.mem_entries_iff_lookup.mpr hafter)
    cases hprevious : previous.lookup k with
    | none => simp [hprevious] at this
    | some before => exact ⟨before, rfl, by simpa [hprevious] using this⟩
  · rintro h ⟨k, after⟩ hmem
    obtain ⟨before, hbefore, hp⟩ := h k after (Dict.mem_entries_iff_lookup.mp hmem)
    simp only [hbefore]
    exact hp

/-! ## What an observation is assessed as -/

theorem compareCounters_counted {a : PurchaseActivity} {partly : Bool} {current : Dict Counter}
    {now : Instant} (h : (compareCounters a partly current now).counted = true) :
    captureTimes current ≠ [] ∧ ∀ t ∈ captureTimes current, t ≤ now := by
  have hfresh : ¬ (captureTimes current = [] ∨
      (captureTimes current).any (fun t => now < t ∨ maxGap < now - t) = true) := by
    intro hstale
    rw [compareCounters] at h
    simp only [if_pos hstale, Quality.counted] at h
    cases h
  rw [not_or] at hfresh
  refine ⟨hfresh.1, fun t ht => ?_⟩
  have hnot := hfresh.2
  simp only [List.any_eq_true, decide_eq_true_eq, not_exists, not_and, not_or] at hnot
  exact Int.not_lt.mp (hnot t ht).1

theorem compareCounters_ok {a : PurchaseActivity} {partly : Bool} {current : Dict Counter}
    {now : Instant} (h : compareCounters a partly current now = .ok) :
    a.counters.entries ≠ [] ∧ a.counters.SameKeys current ∧
      forSources timely a.counters current = true ∧
      forSources sameCycle a.counters current = true ∧
      forSources notDecreased a.counters current = true := by
  unfold compareCounters at h
  dsimp only at h
  split_ifs at h with hstale hbase hkeys hgap htimely hcycle hreset
  rw [not_or] at hbase
  exact ⟨hbase.1, hkeys, htimely, hcycle, hreset⟩

/-- An observation whose counters are kept brings them, captured by the time of it. -/
theorem assess_counted {a : PurchaseActivity} {o : Observation}
    (h : (assess a o).1.counted = true) :
    o.obstacle = "" ∧ countersOf o.rows = some (assess a o).2 ∧ (assess a o).2 = o.counters ∧
      (assess a o).1 = compareCounters a o.partly o.counters o.now ∧ o.times ≠ [] ∧
      ∀ t ∈ o.times, t ≤ o.now := by
  unfold assess at h ⊢
  by_cases hobstacle : o.obstacle ≠ ""
  · rw [if_pos hobstacle] at h
    cases h
  · rw [if_neg hobstacle] at h ⊢
    cases hcounters : countersOf o.rows with
    | none =>
        rw [hcounters] at h
        cases h
    | some current =>
        rw [hcounters] at h
        have hsame : o.counters = current := by rw [Observation.counters, hcounters]; rfl
        rw [Observation.times, hsame]
        exact ⟨not_not.mp hobstacle, rfl, rfl, rfl, compareCounters_counted h⟩

/-- An observation that is assessed as good ends a valid interval. -/
theorem validInterval_of_ok {a : PurchaseActivity} {o n : Observation}
    (ho : o.counters = a.counters) (h : (assess a n).1 = .ok) : ValidInterval o n := by
  have hcounted : (assess a n).1.counted = true := by rw [h]; rfl
  obtain ⟨-, -, -, hcompare, -⟩ := assess_counted hcounted
  rw [h] at hcompare
  obtain ⟨-, hkeys, htimely, hcycle, hreset⟩ := compareCounters_ok hcompare.symm
  rw [ValidInterval, ho]
  refine ⟨hkeys, fun k after hafter => ?_⟩
  obtain ⟨before, hbefore, h₁⟩ := forSources_iff.mp htimely k after hafter
  obtain ⟨before₂, hbefore₂, h₂⟩ := forSources_iff.mp hcycle k after hafter
  obtain ⟨before₃, hbefore₃, h₃⟩ := forSources_iff.mp hreset k after hafter
  obtain rfl := Option.some.inj (hbefore.symm.trans hbefore₂)
  obtain rfl := Option.some.inj (hbefore.symm.trans hbefore₃)
  exact ⟨before, hbefore, h₁, h₂, h₃⟩

end Qasedak.CustomerActivity

/-! A purchase is labelled inactive, or active, only on what was observed of it. -/

namespace Qasedak.CustomerActivity

open Foundation Store

/-! ## The observations that are recorded -/

/-- An activity with the observations that were recorded for it, the latest first. -/
structure Recorder where
  activity : PurchaseActivity := {}
  history : List Observation := []

/-- One call of `record_purchase`. -/
def recordStep (minimum : ℤ) (r : Recorder) (o : Observation) : Recorder where
  activity := recordPurchase minimum r.activity o
  history := if Records r.activity o then o :: r.history else r.history

/-- A sequence of calls on one purchase. -/
def recordAll (minimum : ℤ) (calls : List Observation) : Recorder :=
  calls.foldl (recordStep minimum) {}

/-! ## What the fields stand for -/

/-- An interval that used the minimum ends by the time of the last activity. -/
def Marked (minimum : ℤ) (lastActivityAt : Option Instant) (n o : Observation) : Prop :=
  ValidInterval o n ∧
    (minimum ≤ o.growthTo n → ∃ e, lastActivityAt = some e ∧ ∀ t ∈ n.times, t ≤ e)

/-- A chain of observations of full coverage, the latest first, that starts by `since`. -/
structure Streak (minimum : ℤ) (lastActivityAt : Option Instant) (since : Instant)
    (chain : List Observation) : Prop where
  nonempty : chain ≠ []
  full : ∀ o ∈ chain, FullCoverage o
  linked : chain.IsChain (Marked minimum lastActivityAt)
  started : ∀ o ∈ chain.getLast?, ∀ t ∈ o.times, t ≤ since

/-- What the fields of an activity say about the observations that were recorded. -/
structure Tracks (minimum : ℤ) (a : PurchaseActivity) (history : List Observation) : Prop where
  observed : a.observedAt = history.head?.map (·.now)
  sorted : history.Pairwise fun n o => o.now < n.now
  kept : a.counters.entries ≠ [] → ∃ o, history.head? = some o ∧ o.counters = a.counters ∧
    o.obstacle = "" ∧ (countersOf o.rows).isSome = true ∧ o.times ≠ []
  since : ∀ s, a.continuousSince = some s →
    ∃ chain, chain <+: history ∧ Streak minimum a.lastActivityAt s chain
  activity : ∀ s, a.lastActivityStart = some s → ∃ n o, [n, o] <:+: history ∧
    ValidInterval o n ∧ minimum ≤ o.growthTo n ∧ (∀ t ∈ o.times, s ≤ t) ∧
    ∀ t ∈ n.times, t ≤ n.now
  marked : ∀ e, a.lastActivityAt = some e → ∃ t ∈ captureTimes a.counters, e ≤ t

theorem tracks_init (minimum : ℤ) : Tracks minimum {} [] where
  observed := rfl
  sorted := List.Pairwise.nil
  kept h := absurd rfl h
  since _ h := nomatch h
  activity _ h := nomatch h
  marked _ h := nomatch h

theorem le_of_latest {times : List Instant} {s t : Instant} (h : latest times = some s)
    (ht : t ∈ times) : t ≤ s :=
  (List.max?_eq_some_iff.mp h).2 t ht

theorem le_of_earliest {times : List Instant} {s t : Instant} (h : earliest times = some s)
    (ht : t ∈ times) : s ≤ t :=
  (List.min?_eq_some_iff.mp h).2 t ht

section Step

variable {minimum : ℤ} {a : PurchaseActivity} {history : List Observation} {o : Observation}

/-- The observation is newer than all that were recorded. -/
theorem Tracks.newer (h : Tracks minimum a history) (hr : Records a o) :
    ∀ o' ∈ history, o'.now < o.now := by
  have hall := hr.1
  rw [h.observed] at hall
  intro o' ho'
  cases hhistory : history with
  | nil =>
      rw [hhistory] at ho'
      cases ho'
  | cons first rest =>
      rw [hhistory] at hall ho'
      have hfirst : first.now < o.now := by simpa using hall
      have hsorted := h.sorted
      rw [hhistory] at hsorted
      rcases List.mem_cons.mp ho' with rfl | ho'
      · exact hfirst
      · exact lt_trans (List.rel_of_pairwise_cons hsorted ho') hfirst

/-- No recorded observation is later than the last one. -/
theorem Tracks.le_last (h : Tracks minimum a history) {last : Observation}
    (hlast : last ∈ history.head?) (ho : o ∈ history) : o.now ≤ last.now := by
  cases hhistory : history with
  | nil =>
      rw [hhistory] at ho
      cases ho
  | cons first rest =>
      rw [hhistory] at hlast ho
      obtain rfl : first = last := by simpa using hlast
      have hsorted := h.sorted
      rw [hhistory] at hsorted
      rcases List.mem_cons.mp ho with rfl | ho
      · exact le_refl _
      · exact (List.rel_of_pairwise_cons hsorted ho).le

/-- A later end of the activity marks what an earlier one marked. -/
theorem Streak.mono {last last' : Option Instant} {s : Instant} {chain : List Observation}
    (h : Streak minimum last s chain)
    (hlast : ∀ e, last = some e → ∃ e', last' = some e' ∧ e ≤ e') :
    Streak minimum last' s chain where
  nonempty := h.nonempty
  full := h.full
  started := h.started
  linked := by
    refine h.linked.imp fun n o hmarked => ⟨hmarked.1, fun hgrowth => ?_⟩
    obtain ⟨e, he, hle⟩ := hmarked.2 hgrowth
    obtain ⟨e', he', hee'⟩ := hlast e he
    exact ⟨e', he', fun t ht => le_trans (hle t ht) hee'⟩

/-- The chain grows by an observation that ends a marked interval. -/
theorem Streak.cons {last : Option Instant} {s : Instant} {first : Observation}
    {chain : List Observation} (h : Streak minimum last s (first :: chain)) (ho : FullCoverage o)
    (hmarked : Marked minimum last o first) : Streak minimum last s (o :: first :: chain) where
  nonempty := List.cons_ne_nil _ _
  full := by
    intro o' ho'
    rcases List.mem_cons.mp ho' with rfl | ho'
    · exact ho
    · exact h.full o' ho'
  linked := List.isChain_cons_cons.mpr ⟨hmarked, h.linked⟩
  started := by
    intro o' ho'
    rw [List.getLast?_cons_cons] at ho'
    exact h.started o' ho'

/-- An observation whose counters are not kept ends everything. -/
theorem Tracks.uncounted (h : Tracks minimum a history) (hr : Records a o)
    (hq : (assess a o).1.counted = false) : Tracks minimum (observe minimum a o) (o :: history) := by
  have hok : (assess a o).1 ≠ .ok := by
    intro hok
    rw [hok] at hq
    cases hq
  refine ⟨rfl, List.Pairwise.cons (h.newer hr) h.sorted, ?_, ?_, ?_, ?_⟩
  · intro hne
    simp only [observe, hq, Bool.false_eq_true, ite_false] at hne
    exact absurd rfl hne
  · intro s hs
    simp [observe, hq] at hs
  · intro s hs
    simp [observe, hok] at hs
  · intro e he
    simp [observe, hok] at he

/-- An observation whose counters are kept, but not compared with the ones before, starts
anew. -/
theorem Tracks.restart (h : Tracks minimum a history) (hr : Records a o)
    (hq : (assess a o).1.counted = true) (hok : (assess a o).1 ≠ .ok) :
    Tracks minimum (observe minimum a o) (o :: history) := by
  obtain ⟨hobstacle, hcounters, hsame, -, htimes, -⟩ := assess_counted hq
  refine ⟨rfl, List.Pairwise.cons (h.newer hr) h.sorted, ?_, ?_, ?_, ?_⟩
  · intro _
    refine ⟨o, rfl, ?_, hobstacle, by rw [hcounters]; rfl, htimes⟩
    simp [observe, hq, hsame]
  · intro s hs
    simp only [observe, hq, Bool.true_eq_false, or_false, if_neg hok] at hs
    split at hs
    · cases hs
    · rename_i hpartly
      refine ⟨[o], ⟨history, rfl⟩, List.cons_ne_nil _ _, ?_, List.isChain_singleton o, ?_⟩
      · intro o' ho'
        obtain rfl := List.mem_singleton.mp ho'
        exact ⟨hobstacle, by simpa using hpartly, by rw [hcounters]; rfl, htimes⟩
      · intro o' ho' t ht
        obtain rfl : o = o' := by simpa using ho'
        rw [hsame] at hs
        exact le_of_latest hs ht
  · intro s hs
    simp [observe, hok] at hs
  · intro e he
    simp [observe, hok] at he

/-- An observation that is good against the last one goes on with the chain. -/
theorem Tracks.continue (h : Tracks minimum a history) (hr : Records a o)
    (hok : (assess a o).1 = .ok) : Tracks minimum (observe minimum a o) (o :: history) := by
  have hq : (assess a o).1.counted = true := by rw [hok]; rfl
  obtain ⟨hobstacle, hcounters, hsame, hcompare, htimes, hcaptured⟩ := assess_counted hq
  rw [hok] at hcompare
  obtain ⟨hne, -⟩ := compareCounters_ok hcompare.symm
  obtain ⟨p, hhead, hp, -, -, -⟩ := h.kept hne
  have hvalid : ValidInterval p o := validInterval_of_ok hp hok
  obtain ⟨rest, hhistory⟩ : ∃ rest, history = p :: rest := by
    cases history with
    | nil => cases hhead
    | cons first rest => exact ⟨rest, by rw [Option.some.inj hhead]⟩
  have hgrowth : growth a.counters o.counters = p.growthTo o := by
    rw [Observation.growthTo, hp]
  have hkept : (observe minimum a o).counters = o.counters := by simp [observe, hq, hsame]
  have hlastAt : (observe minimum a o).lastActivityAt =
      if minimum ≤ p.growthTo o then latest o.times else a.lastActivityAt := by
    simp [observe, hok, hsame, hgrowth, Observation.times]
  have hlastStart : (observe minimum a o).lastActivityStart =
      if minimum ≤ p.growthTo o then earliest p.times else a.lastActivityStart := by
    simp [observe, hok, hsame, hgrowth, Observation.times, hp]
  -- the last capture before is earlier than one of the new captures
  have hlater : ∀ e, a.lastActivityAt = some e → ∃ t ∈ o.times, e ≤ t := by
    intro e he
    obtain ⟨t, ht, hle⟩ := h.marked e he
    rw [← hp] at ht
    obtain ⟨t', ht', hlt⟩ := hvalid.exists_later ht
    exact ⟨t', ht', le_trans hle hlt.le⟩
  have hmono : ∀ e, a.lastActivityAt = some e →
      ∃ e', (observe minimum a o).lastActivityAt = some e' ∧ e ≤ e' := by
    intro e he
    rw [hlastAt]
    by_cases hbig : minimum ≤ p.growthTo o
    · rw [if_pos hbig]
      obtain ⟨t, ht, hle⟩ := hlater e he
      obtain ⟨e', he'⟩ := Option.isSome_iff_exists.mp (List.isSome_max?_of_mem ht)
      exact ⟨e', he', le_trans hle (le_of_latest he' ht)⟩
    · rw [if_neg hbig]
      exact ⟨e, he, le_refl e⟩
  refine ⟨rfl, List.Pairwise.cons (h.newer hr) h.sorted, ?_, ?_, ?_, ?_⟩
  · intro _
    exact ⟨o, rfl, hkept.symm, hobstacle, by rw [hcounters]; rfl, htimes⟩
  · intro s hs
    simp only [observe, hok, ite_true] at hs
    split at hs
    · cases hs
    · rename_i hpartly
      rw [not_or, Bool.not_eq_true] at hpartly
      obtain ⟨chain, hprefix, hstreak⟩ := h.since s hs
      have hstreak' := hstreak.mono hmono
      cases chain with
      | nil => exact absurd rfl hstreak.nonempty
      | cons first chain =>
          obtain ⟨tail, htail⟩ := hprefix
          rw [hhistory, List.cons_append] at htail
          obtain ⟨rfl, hrest⟩ := List.cons_eq_cons.mp htail
          refine ⟨o :: first :: chain, ?_, hstreak'.cons ?_ ⟨hvalid, ?_⟩⟩
          · exact ⟨tail, by rw [hhistory, ← hrest]; rfl⟩
          · exact ⟨hobstacle, hpartly.1, by rw [hcounters]; rfl, htimes⟩
          · intro hbig
            rw [hlastAt, if_pos hbig]
            obtain ⟨e, he⟩ := Option.isSome_iff_exists.mp (List.isSome_max?_of_ne_nil htimes)
            exact ⟨e, he, fun t ht => le_of_latest he ht⟩
  · intro s hs
    rw [hlastStart] at hs
    split at hs
    · rename_i hbig
      refine ⟨o, p, ⟨[], rest, by rw [hhistory]; rfl⟩, hvalid, hbig, ?_, hcaptured⟩
      exact fun t ht => le_of_earliest hs ht
    · obtain ⟨n, o', hinfix, hrest⟩ := h.activity s hs
      exact ⟨n, o', hinfix.trans (List.suffix_cons o history).isInfix, hrest⟩
  · intro e he
    rw [hkept]
    rw [hlastAt] at he
    split at he
    · exact ⟨e, List.max?_mem he, le_refl e⟩
    · exact hlater e he

/-- Every recorded observation keeps the fields true to the history. -/
theorem Tracks.step (h : Tracks minimum a history) (hr : Records a o) :
    Tracks minimum (observe minimum a o) (o :: history) := by
  cases hq : (assess a o).1.counted with
  | false => exact h.uncounted hr hq
  | true =>
      by_cases hok : (assess a o).1 = .ok
      · exact h.continue hr hok
      · exact h.restart hr hq hok

end Step

/-- A call keeps the fields true to the history, whether it records or not. -/
theorem tracks_recordStep {minimum : ℤ} {r : Recorder} (h : Tracks minimum r.activity r.history)
    (o : Observation) :
    Tracks minimum (recordStep minimum r o).activity (recordStep minimum r o).history := by
  unfold recordStep recordPurchase
  by_cases hrecords : Records r.activity o
  · simpa only [if_pos hrecords] using h.step hrecords
  · simpa only [if_neg hrecords] using h

theorem tracks_recordAll (minimum : ℤ) (calls : List Observation) :
    Tracks minimum (recordAll minimum calls).activity (recordAll minimum calls).history := by
  have h : ∀ r : Recorder, Tracks minimum r.activity r.history →
      Tracks minimum (calls.foldl (recordStep minimum) r).activity
        (calls.foldl (recordStep minimum) r).history := by
    induction calls with
    | nil => exact fun _ hr => hr
    | cons o calls ih => exact fun r hr => ih (recordStep minimum r o) (tracks_recordStep hr o)
  exact h {} (tracks_init minimum)

/-! ## The label -/

/-- The conditions under which a purchase is labelled inactive. -/
theorem activityStatus_inactive {a : PurchaseActivity} {now : Instant}
    (h : activityStatus a now = .inactive) :
    ∃ observedAt since, a.observedAt = some observedAt ∧ now - observedAt ≤ maxGap ∧
      a.continuousSince = some since ∧ since ≤ now - window ∧
      ∀ e, a.lastActivityAt = some e → e ≤ now - window := by
  unfold activityStatus at h
  cases hobserved : a.observedAt with
  | none =>
      rw [hobserved] at h
      cases h
  | some observedAt =>
      rw [hobserved] at h
      dsimp only at h
      split_ifs at h with hstale hentitled hcounted hactive hpartial hinactive
      obtain ⟨hsince, hlast⟩ := hinactive
      obtain ⟨since, hsome, hle⟩ := (Option.any_eq_true _ _).mp hsince
      refine ⟨observedAt, since, rfl, Int.not_lt.mp hstale, hsome, by simpa using hle, ?_⟩
      intro e he
      rw [he] at hlast
      simpa using hlast

theorem activityStatus_active {a : PurchaseActivity} {now : Instant}
    (h : activityStatus a now = .active) :
    ∃ start, a.lastActivityStart = some start ∧ now - window ≤ start := by
  unfold activityStatus at h
  cases hobserved : a.observedAt with
  | none =>
      rw [hobserved] at h
      cases h
  | some observedAt =>
      rw [hobserved] at h
      dsimp only at h
      split_ifs at h with hstale hentitled hcounted hactive
      obtain ⟨start, hsome, hle⟩ := (Option.any_eq_true _ _).mp hactive
      exact ⟨start, hsome, by simpa using hle⟩

/-- The recorded observations show that nothing was used for the whole window. -/
def ShowsInactivity (minimum : ℤ) (now : Instant) (history : List Observation) : Prop :=
  ∃ chain, chain <+: history ∧ chain ≠ [] ∧ (∀ o ∈ chain, FullCoverage o) ∧
    chain.IsChain (fun n o => ValidInterval o n ∧
      ((∃ t ∈ n.times, now - window < t) → o.growthTo n < minimum)) ∧
    (∀ o ∈ chain.getLast?, ∀ t ∈ o.times, t ≤ now - window) ∧
    ∀ o ∈ chain.head?, now - o.now ≤ maxGap

/-- A recorded interval that began inside the window used the minimum; it ended by the last
recorded observation. -/
def ShowsActivity (minimum : ℤ) (now : Instant) (history : List Observation) : Prop :=
  ∃ n o, [n, o] <:+: history ∧ ValidInterval o n ∧ minimum ≤ o.growthTo n ∧
    (∀ t ∈ o.times, now - window ≤ t) ∧
    ∀ last ∈ history.head?, ∀ t ∈ n.times, t ≤ last.now

/-- After any calls on one purchase and at any time: it is labelled inactive, or active, only
where the recorded observations show it, and an observation that is not newer than the last
one changes nothing. -/
theorem label_shown_by_observations (minimum : ℤ) (calls : List Observation) (now : Instant) :
    (activityStatus (recordAll minimum calls).activity now = .inactive →
        ShowsInactivity minimum now (recordAll minimum calls).history) ∧
      (activityStatus (recordAll minimum calls).activity now = .active →
        ShowsActivity minimum now (recordAll minimum calls).history) ∧
      ∀ o last, (recordAll minimum calls).activity.observedAt = some last → o.now ≤ last →
        recordStep minimum (recordAll minimum calls) o = recordAll minimum calls := by
  have htracks := tracks_recordAll minimum calls
  refine ⟨fun h => ?_, fun h => ?_, fun o last hlast hle => ?_⟩
  · obtain ⟨observedAt, since, hobserved, hfresh, hsince, hstart, hquiet⟩ :=
      activityStatus_inactive h
    obtain ⟨chain, hprefix, hstreak⟩ := htracks.since since hsince
    refine ⟨chain, hprefix, hstreak.nonempty, hstreak.full, ?_, ?_, ?_⟩
    · refine hstreak.linked.imp fun n o hmarked => ⟨hmarked.1, fun ⟨t, ht, hlate⟩ => ?_⟩
      by_contra hbig
      obtain ⟨e, he, hends⟩ := hmarked.2 (Int.not_lt.mp hbig)
      exact absurd (le_trans (hends t ht) (hquiet e he)) (not_le.mpr hlate)
    · exact fun o ho t ht => le_trans (hstreak.started o ho t ht) hstart
    · intro o ho
      obtain ⟨tail, htail⟩ := hprefix
      have hhead : (recordAll minimum calls).history.head? = some o := by
        rw [← htail]
        cases chain with
        | nil => cases ho
        | cons first rest => exact ho
      rw [htracks.observed, hhead] at hobserved
      obtain rfl := Option.some.inj hobserved
      exact hfresh
  · obtain ⟨start, hstart, hle⟩ := activityStatus_active h
    obtain ⟨n, o, hinfix, hvalid, hbig, hbegin, hend⟩ := htracks.activity start hstart
    refine ⟨n, o, hinfix, hvalid, hbig, fun t ht => le_trans hle (hbegin t ht), ?_⟩
    intro last hlast t ht
    have hmem : n ∈ (recordAll minimum calls).history := hinfix.subset List.mem_cons_self
    exact le_trans (hend t ht) (htracks.le_last hlast hmem)
  · have hrecords : ¬ Records (recordAll minimum calls).activity o := by
      rintro ⟨hnew, -⟩
      rw [hlast] at hnew
      exact absurd hle (not_le.mpr (by simpa using hnew))
    rw [recordStep, recordPurchase, if_neg hrecords, if_neg hrecords]

/-! ## Activity of a part, and labels at an earlier time -/

/-- A service of one row that used some bytes up to a time. -/
def sampleAt (reason : String) (minute used : ℤ) : Observation where
  purchase :=
    { order := { pk := 1, plan := 3, status := .completed, verificationStatus := .verified } }
  rows := .ofValues (fun _ => "k")
    [{ panelId := 1, identifierHash := "h", aliases := ["h"], usedBytes := some used
       uploadBytes := some 0, downloadBytes := some used, totalBytes := some 1000
       enabled := some true, capturedAt := minutes minute }]
  reason := reason
  now := minutes minute

/-- A label at a time before the observations counts an interval after it, and the label of
a purchase that is covered in part counts an interval of that part. -/
theorem active_without_full_coverage :
    (activityStatus (recordAll 1 [sampleAt "" 0 0, sampleAt "" 15 5]).activity
        (minutes (-10000)) = .active ∧
      ∀ o ∈ [sampleAt "" 0 0, sampleAt "" 15 5], ∀ t ∈ o.times, minutes (-10000) < t) ∧
    activityStatus (recordAll 1 [sampleAt "partial_coverage" 0 0,
        sampleAt "partial_coverage" 15 5]).activity (minutes 15) = .active ∧
      ∀ o ∈ [sampleAt "partial_coverage" 0 0, sampleAt "partial_coverage" 15 5],
        o.partly = true := by
  decide +kernel

end Qasedak.CustomerActivity
