import Qasedak.Outreach.Reservation

/-! Whatever the order of the steps of all runs, and wherever they crash, an event is sent at most
once. -/

namespace Qasedak.Outreach

open Foundation Store

variable {κ : Type*} [DecidableEq κ] {shop : Shop}

/-- There is an event that is not pending. -/
def Busy (rows : List OutreachEvent) (pk : ℕ) (key : EventKey) : Prop :=
  ∃ ev ∈ rows, ev.pk = pk ∧ ev.key = key ∧ ¬ ev.status.Pending

/-- The invariant of the messages. -/
structure Once (s : OutreachSystem κ) : Prop where
  keys : (s.events.rows.map (·.key)).Nodup
  held : ∀ i ev, (s.runs i).held = some ev →
    Busy s.events.rows ev.pk ev.key ∧ ∀ m ∈ s.messages, m.event ≠ ev.pk
  alone : ∀ i j ev ev', (s.runs i).held = some ev → (s.runs j).held = some ev' → ev.pk = ev'.pk →
    i = j
  sent : ∀ m ∈ s.messages, Busy s.events.rows m.event m.key
  once : (s.messages.map (·.event)).Nodup

variable {s s' : OutreachSystem κ} {i : κ}

theorem Busy.map {rows : List OutreachEvent} {pk : ℕ} {key : EventKey} (h : Busy rows pk key)
    {g : OutreachEvent → OutreachEvent}
    (hg : ∀ ev ∈ rows, ev.pk = pk → (g ev).pk = ev.pk ∧ (g ev).key = ev.key ∧
      (¬ ev.status.Pending → ¬ (g ev).status.Pending)) : Busy (rows.map g) pk key := by
  obtain ⟨ev, hev, hpk, hkey, hpending⟩ := h
  obtain ⟨hpk', hkey', hpending'⟩ := hg ev hev hpk
  exact ⟨g ev, List.mem_map_of_mem hev, hpk'.trans hpk, hkey'.trans hkey, hpending' hpending⟩

theorem keys_map {rows : List OutreachEvent} {g : OutreachEvent → OutreachEvent}
    (hkeys : (rows.map (·.key)).Nodup) (hg : ∀ ev ∈ rows, (g ev).key = ev.key) :
    ((rows.map g).map (·.key)).Nodup := by
  have hsame : (rows.map g).map (·.key) = rows.map (·.key) := by
    rw [List.map_map]
    exact List.map_congr_left hg
  rw [hsame]
  exact hkeys

omit [DecidableEq κ] in
theorem not_busy {s : OutreachSystem κ} {ev : OutreachEvent} (hev : ev ∈ s.events.rows)
    (hpending : ev.status.Pending) (key : EventKey) : ¬ Busy s.events.rows ev.pk key := by
  rintro ⟨x, hx, hpk, _, hx'⟩
  have hsame : x = ev := Serial.eq_of_key_eq hx hev hpk
  exact hx' (hsame ▸ hpending)

/-- A run lets go of what it holds, or holds nothing, and the events that others hold or that were
sent stay busy. -/
theorem Once.release (h : Once s) {phase : Phase} (hheld : phase.held = none)
    (hruns : s'.runs = (s.set i phase).runs) (hmessages : s'.messages = s.messages)
    (hkeys : (s'.events.rows.map (·.key)).Nodup)
    (hothers : ∀ j ev, j ≠ i → (s.runs j).held = some ev → Busy s'.events.rows ev.pk ev.key)
    (hsent : ∀ m ∈ s.messages, Busy s'.events.rows m.event m.key) : Once s' := by
  have hold (j : κ) (ev : OutreachEvent) (hj : (s'.runs j).held = some ev) :
      j ≠ i ∧ (s.runs j).held = some ev := by
    rw [hruns] at hj
    by_cases hji : j = i
    · subst hji
      simp [hheld] at hj
    · exact ⟨hji, by rwa [OutreachSystem.set_runs_of_ne phase hji] at hj⟩
  exact {
    keys := hkeys
    held := by
      intro j ev hj
      obtain ⟨hji, hj⟩ := hold j ev hj
      rw [hmessages]
      exact ⟨hothers j ev hji hj, (h.held j ev hj).2⟩
    alone := by
      intro j j' ev ev' hj hj'
      exact h.alone j j' ev ev' (hold j ev hj).2 (hold j' ev' hj').2
    sent := by
      rw [hmessages]
      exact hsent
    once := by
      rw [hmessages]
      exact h.once }

theorem Once.set (h : Once s) {phase : Phase} (hheld : phase.held = none) :
    Once (s.set i phase) :=
  h.release hheld rfl rfl h.keys (fun j ev _ hj => (h.held j ev hj).1) h.sent

theorem Once.keeps (h : Once s) {phase : Phase} {ev : OutreachEvent}
    (hbefore : (s.runs i).held = some ev) (hafter : phase.held = some ev) :
    Once (s.set i phase) := by
  have hold (j : κ) : ((s.set i phase).runs j).held = (s.runs j).held := by
    by_cases hji : j = i
    · subst hji
      rw [OutreachSystem.set_runs_self, hafter, hbefore]
    · rw [OutreachSystem.set_runs_of_ne phase hji]
  exact {
    keys := h.keys
    held := by
      intro j x hj
      rw [hold] at hj
      exact h.held j x hj
    alone := by
      intro j j' x x' hj hj'
      rw [hold] at hj hj'
      exact h.alone j j' x x' hj hj'
    sent := h.sent
    once := h.once }

theorem Once.sends (h : Once s) {phase : Phase} {ev : OutreachEvent} {m : Message}
    (hbefore : (s.runs i).held = some ev) (hevent : m.event = ev.pk) (hkey : m.key = ev.key)
    (hheld : phase.held = none) :
    Once { s.set i phase with messages := m :: s.messages } := by
  obtain ⟨hbusy, hnew⟩ := h.held i ev hbefore
  have hfree := h.set (i := i) hheld
  exact {
    keys := h.keys
    held := by
      intro j x hj
      obtain ⟨hx, hmessages⟩ := hfree.held j x hj
      refine ⟨hx, fun m' hm' => ?_⟩
      rcases List.mem_cons.mp hm' with rfl | hm'
      · intro hpk
        by_cases hji : j = i
        · subst hji
          simp [hheld] at hj
        · simp only [OutreachSystem.set_runs_of_ne phase hji] at hj
          exact hji (h.alone j i x ev hj hbefore (hpk.symm.trans hevent))
      · exact hmessages m' hm'
    alone := hfree.alone
    sent := by
      intro m' hm'
      rcases List.mem_cons.mp hm' with rfl | hm'
      · rw [hevent, hkey]
        exact hbusy
      · exact h.sent m' hm'
    once := by
      rw [List.map_cons, List.nodup_cons]
      refine ⟨fun hmem => ?_, h.once⟩
      obtain ⟨m', hm', hpk⟩ := List.mem_map.mp hmem
      exact hnew m' hm' (hpk.trans hevent) }

theorem Once.reserves (h : Once s) {ev : OutreachEvent} (hev : ev ∈ s.events.rows)
    (hready : ev.status = .ready) (target : Option BotUser) (body : String) (now : Instant)
    (r : Round) (left : List ℕ) :
    Once (s.claim i r left ev target body now) := by
  have hpending : ev.status.Pending := Or.inr (Or.inl hready)
  have hclaimed (x : OutreachEvent) :
      ¬ (OutreachSystem.claimed target body now x).status.Pending := by
    intro hx
    rcases hx with hx | hx | hx <;> cases hx
  have hmap {pk : ℕ} {key : EventKey} (hbusy : Busy s.events.rows pk key) :
      Busy (s.events.rows.map fun x => if decide (x.pk = ev.pk) then
        OutreachSystem.claimed target body now x else x) pk key := by
    apply hbusy.map
    intro x _ _
    split
    · exact ⟨rfl, rfl, fun _ => hclaimed x⟩
    · exact ⟨rfl, rfl, id⟩
  have hheld (j : κ) (x : OutreachEvent) (hji : j ≠ i) (hj : (s.runs j).held = some x) :
      x.pk ≠ ev.pk := by
    intro hpk
    have hbusy := (h.held j x hj).1
    rw [hpk] at hbusy
    exact not_busy hev hpending _ hbusy
  exact {
    keys := by
      apply keys_map h.keys
      intro x _
      split
      · rfl
      · rfl
    held := by
      intro j x hj
      by_cases hji : j = i
      · subst hji
        have hx : OutreachSystem.claimed target body now ev = x := by
          simpa [OutreachSystem.claim, OutreachSystem.update, OutreachSystem.set, Phase.held] using hj
        subst hx
        refine ⟨⟨OutreachSystem.claimed target body now ev, ?_, rfl, rfl, hclaimed ev⟩, ?_⟩
        · refine List.mem_map.mpr ⟨ev, hev, ?_⟩
          simp
        · intro m hm hpk
          have hbusy := h.sent m hm
          rw [hpk] at hbusy
          exact not_busy hev hpending _ hbusy
      · have hj : (s.runs j).held = some x := by
          simpa [OutreachSystem.claim, OutreachSystem.update, OutreachSystem.set, hji] using hj
        exact ⟨hmap (h.held j x hj).1, (h.held j x hj).2⟩
    alone := by
      intro j j' x x' hj hj' hpk
      have hother (j : κ) (x : OutreachEvent) (hji : j ≠ i)
          (hj : ((s.claim i r left ev target body now).runs j).held = some x) :
          (s.runs j).held = some x := by
        simpa [OutreachSystem.claim, OutreachSystem.update, OutreachSystem.set, hji] using hj
      have hown (x : OutreachEvent)
          (hi : ((s.claim i r left ev target body now).runs i).held = some x) :
          x.pk = ev.pk := by
        have hx : OutreachSystem.claimed target body now ev = x := by
          simpa [OutreachSystem.claim, OutreachSystem.update, OutreachSystem.set, Phase.held] using hi
        subst hx
        rfl
      by_cases hji : j = i
      · by_cases hj'i : j' = i
        · rw [hji, hj'i]
        · subst hji
          exact absurd (hpk.symm.trans (hown x hj)) (hheld j' x' hj'i (hother j' x' hj'i hj'))
      · by_cases hj'i : j' = i
        · subst hj'i
          exact absurd (hpk.trans (hown x' hj')) (hheld j x hji (hother j x hji hj))
        · exact h.alone j j' x x' (hother j x hji hj) (hother j' x' hj'i hj') hpk
    sent := fun m hm => hmap (h.sent m hm)
    once := h.once }

theorem Once.does (h : Once s) {e : Surroundings shop} (hdoes : Does s i e s') : Once s' := by
  cases hdoes with
  | settles hg hrows hruns hheld hmessages =>
      have hmap {pk : ℕ} {key : EventKey} (hbusy : Busy s.events.rows pk key) :
          Busy s'.events.rows pk key := by
        rw [hrows]
        exact hbusy.map fun ev hev _ => ⟨(hg ev hev).pk, (hg ev hev).key, mt (hg ev hev).pending⟩
      apply h.release hheld hruns hmessages
      · rw [hrows]
        exact keys_map h.keys fun ev hev => (hg ev hev).key
      · exact fun j ev _ hj => hmap (h.held j ev hj).1
      · exact fun m hm => hmap (h.sent m hm)
  | @creates _ _ ev hkey hpreview hrows hruns hheld hmessages =>
      have hmore {pk : ℕ} {key : EventKey} (hbusy : Busy s.events.rows pk key) :
          Busy s'.events.rows pk key := by
        obtain ⟨x, hx, hrest⟩ := hbusy
        rw [hrows]
        exact ⟨x, List.mem_append_left _ hx, hrest⟩
      apply h.release hheld hruns hmessages
      · rw [hrows, List.map_append, List.map_singleton, List.nodup_append]
        refine ⟨h.keys, List.nodup_singleton _, ?_⟩
        intro a ha b hb
        obtain ⟨x, hx, rfl⟩ := List.mem_map.mp ha
        rw [List.mem_singleton.mp hb]
        exact hkey x hx
      · exact fun j x _ hj => hmore (h.held j x hj).1
      · exact fun m hm => hmore (h.sent m hm)
  | reserves hev hready _ => exact h.reserves hev hready _ _ _ _ _
  | keeps hbefore hafter => exact h.keeps hbefore hafter
  | @drops _ _ ev hbefore hrows hruns hheld hmessages =>
      have hmap {pk : ℕ} {key : EventKey} (hbusy : Busy s.events.rows pk key) (hpk : pk ≠ ev.pk) :
          Busy s'.events.rows pk key := by
        rw [hrows]
        apply hbusy.map
        intro x _ hx
        have hother : OutreachSystem.ifSending ev.pk x = false := by
          simp [OutreachSystem.ifSending, hx, hpk]
        simp [dropped, hother]
      apply h.release hheld hruns hmessages
      · rw [hrows]
        apply keys_map h.keys
        intro x _
        simp only [dropped]
        split
        · rfl
        · rfl
      · intro j x hji hj
        exact hmap (h.held j x hj).1 fun hpk => hji (h.alone j i x ev hj hbefore hpk)
      · exact fun m hm => hmap (h.sent m hm) ((h.held i ev hbefore).2 m hm)
  | sends hbefore hevent hkey hheld => exact h.sends hbefore hevent hkey hheld

theorem Once.step (h : Once s) (a : OutreachStep shop κ) : Once (s.step a) := by
  cases a with
  | start i now storeId =>
      simp only [OutreachSystem.step]
      split
      · exact h.set rfl
      · exact h
  | advance i e answer => exact h.does (does_advance answer)
  | crash i => exact h.set rfl

end Qasedak.Outreach
