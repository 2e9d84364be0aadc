import Qasedak.Outreach.Once
import Qasedak.Foundation.Run
import Mathlib.Algebra.Order.Group.Int
import Mathlib.Algebra.Order.Group.Unbundled.Abs

/-! Over all runs of the outreach and every order of their steps, crashes included: no event is sent
twice, the reserved events keep their distance and the caps of their customers and stores, and none
is reserved against the will of the customer. -/

namespace Qasedak.Outreach

open Foundation Store

variable {κ : Type*} [DecidableEq κ] {shop : Shop}

/-! ## The caps -/

/-- The time of a reservation. -/
def OutreachEvent.claimTime (ev : OutreachEvent) : Instant := ev.claimedAt.getD 0

/-- An event that counts of a customer. -/
def OfCustomer (shop : Shop) (customer : Option ℕ) (ev : OutreachEvent) : Prop :=
  ev.status.Reserved ∧ shop.customer ev.order = customer

/-- An event that counts of a store. -/
def OfStore (shop : Shop) (store : ℕ) (ev : OutreachEvent) : Prop :=
  ev.status.Reserved ∧ shop.store ev.order = store

instance (shop : Shop) (customer : Option ℕ) : DecidablePred (OfCustomer shop customer) :=
  fun _ => inferInstanceAs (Decidable (_ ∧ _))

instance (shop : Shop) (store : ℕ) : DecidablePred (OfStore shop store) :=
  fun _ => inferInstanceAs (Decidable (_ ∧ _))

/-- The invariant of the reservations. -/
structure WithinCaps (shop : Shop) (rows : List OutreachEvent) : Prop where
  claimed : ∀ ev ∈ rows, ev.status.Reserved → ev.claimedAt.isSome
  apart : ∀ a ∈ rows, ∀ b ∈ rows, a.pk ≠ b.pk → a.status.Reserved → b.status.Reserved →
    shop.customer a.order = shop.customer b.order →
      Revenue.hours 24 < |a.claimTime - b.claimTime|
  week : ∀ customer start, windowCount OutreachEvent.claimTime (Revenue.days 7)
    (OfCustomer shop customer) start rows ≤ 3
  day : ∀ store start, windowCount OutreachEvent.claimTime (Revenue.days 1)
    (OfStore shop store) start rows ≤ shop.dailyLimit store

/-- A change that reserves nothing. -/
structure Relaxes (a b : OutreachEvent) : Prop where
  pk : b.pk = a.pk
  order : b.order = a.order
  reserved : b.status.Reserved → a.status.Reserved ∧ b.claimedAt = a.claimedAt

theorem Settles.relaxes {a b : OutreachEvent} (h : Settles a b) : Relaxes a b :=
  ⟨h.pk, congrArg EventKey.order h.key, h.reserved⟩

theorem relaxes_dropped (pk : ℕ) (ev : OutreachEvent) : Relaxes ev (dropped pk ev) := by
  simp only [dropped]
  split
  · refine ⟨rfl, rfl, fun h => ?_⟩
    rcases h with h | h | h <;> cases h
  · exact ⟨rfl, rfl, fun h => ⟨h, rfl⟩⟩

theorem Relaxes.claimTime {a b : OutreachEvent} (h : Relaxes a b) (hb : b.status.Reserved) :
    b.claimTime = a.claimTime := by
  rw [OutreachEvent.claimTime, (h.reserved hb).2, OutreachEvent.claimTime]

theorem windowCount_relaxes {rows : List OutreachEvent} {g : OutreachEvent → OutreachEvent}
    (hg : ∀ ev ∈ rows, Relaxes ev (g ev)) {p : OutreachEvent → Prop} [DecidablePred p]
    (hp : ∀ ev ∈ rows, p (g ev) → (g ev).status.Reserved ∧ p ev) (width start : Instant) :
    windowCount OutreachEvent.claimTime width p start (rows.map g) ≤
      windowCount OutreachEvent.claimTime width p start rows := by
  simp only [windowCount, List.countP_map]
  apply List.countP_mono_left
  intro ev hev h
  obtain ⟨hpev, hwindow⟩ := of_decide_eq_true h
  obtain ⟨hreserved, hpev⟩ := hp ev hev hpev
  rw [(hg ev hev).claimTime hreserved] at hwindow
  exact decide_eq_true ⟨hpev, hwindow⟩

theorem WithinCaps.relaxes {rows : List OutreachEvent} (h : WithinCaps shop rows)
    {g : OutreachEvent → OutreachEvent} (hg : ∀ ev ∈ rows, Relaxes ev (g ev)) :
    WithinCaps shop (rows.map g) where
  claimed := by
    intro ev hev hreserved
    obtain ⟨x, hx, rfl⟩ := List.mem_map.mp hev
    obtain ⟨hreserved, hsame⟩ := (hg x hx).reserved hreserved
    rw [hsame]
    exact h.claimed x hx hreserved
  apart := by
    intro a ha b hb hne hreserved hreserved' hcustomer
    obtain ⟨x, hx, rfl⟩ := List.mem_map.mp ha
    obtain ⟨y, hy, rfl⟩ := List.mem_map.mp hb
    rw [(hg x hx).pk, (hg y hy).pk] at hne
    rw [(hg x hx).order, (hg y hy).order] at hcustomer
    rw [(hg x hx).claimTime hreserved, (hg y hy).claimTime hreserved']
    exact h.apart x hx y hy hne ((hg x hx).reserved hreserved).1 ((hg y hy).reserved hreserved').1
      hcustomer
  week := by
    intro customer start
    refine (windowCount_relaxes hg (fun ev hev hp => ?_) _ start).trans (h.week customer start)
    obtain ⟨hreserved, hcustomer⟩ := hp
    rw [(hg ev hev).order] at hcustomer
    exact ⟨hreserved, ((hg ev hev).reserved hreserved).1, hcustomer⟩
  day := by
    intro store start
    refine (windowCount_relaxes hg (fun ev hev hp => ?_) _ start).trans (h.day store start)
    obtain ⟨hreserved, hstore⟩ := hp
    rw [(hg ev hev).order] at hstore
    exact ⟨hreserved, ((hg ev hev).reserved hreserved).1, hstore⟩

theorem WithinCaps.append {rows : List OutreachEvent} (h : WithinCaps shop rows)
    {ev : OutreachEvent} (hev : ¬ ev.status.Reserved) : WithinCaps shop (rows ++ [ev]) := by
  have hmem {x : OutreachEvent} (hx : x ∈ rows ++ [ev]) (hreserved : x.status.Reserved) :
      x ∈ rows := by
    rcases List.mem_append.mp hx with hx | hx
    · exact hx
    · rw [List.mem_singleton.mp hx] at hreserved
      exact absurd hreserved hev
  have hcount {p : OutreachEvent → Prop} [DecidablePred p] (hp : ¬ p ev) (width start : Instant) :
      windowCount OutreachEvent.claimTime width p start (rows ++ [ev]) =
        windowCount OutreachEvent.claimTime width p start rows := by
    simp [windowCount, List.countP_append, hp]
  exact {
    claimed := fun x hx hreserved => h.claimed x (hmem hx hreserved) hreserved
    apart := fun a ha b hb hne hreserved hreserved' =>
      h.apart a (hmem ha hreserved) b (hmem hb hreserved') hne hreserved hreserved'
    week := by
      intro customer start
      rw [hcount fun hp => hev hp.1]
      exact h.week customer start
    day := by
      intro store start
      rw [hcount fun hp => hev hp.1]
      exact h.day store start }

/-! ### A reservation -/

section Reserve

variable {rows : List OutreachEvent} {ev : OutreachEvent} {now : Instant}

/-- The rows with the event reserved. -/
def withClaim (target : Option BotUser) (body : String) (now : Instant) (pk : ℕ)
    (rows : List OutreachEvent) : List OutreachEvent :=
  rows.map fun x => if x.pk = pk then OutreachSystem.claimed target body now x else x

theorem WithinCaps.isSome (h : WithinCaps shop rows) {x : OutreachEvent} (hx : x ∈ rows)
    (hreserved : x.status.Reserved) : x.claimedAt = some x.claimTime := by
  obtain ⟨t, ht⟩ := Option.isSome_iff_exists.mp (h.claimed x hx hreserved)
  rw [OutreachEvent.claimTime, ht, Option.getD_some]

/-- What `suppression` counts are the reservations of a window that ends with the new one. -/
theorem WithinCaps.reservedSince_eq (h : WithinCaps shop rows) (pk : ℕ) (p : ℕ → Prop)
    [DecidablePred p] (since : Instant) :
    reservedSince rows pk p since = rows.countP fun x =>
      x.pk ≠ pk ∧ (x.status.Reserved ∧ p x.order) ∧ since ≤ x.claimTime := by
  apply List.countP_congr
  intro x hx
  simp only [decide_eq_true_eq]
  constructor
  · rintro ⟨hreserved, hpk, hp, hsince⟩
    rw [h.isSome hx hreserved, Option.any_some, decide_eq_true_eq] at hsince
    exact ⟨hpk, ⟨hreserved, hp⟩, hsince⟩
  · rintro ⟨hpk, ⟨hreserved, hp⟩, hsince⟩
    refine ⟨hreserved, hpk, hp, ?_⟩
    rw [h.isSome hx hreserved, Option.any_some, decide_eq_true_eq]
    exact hsince

theorem windowCount_withClaim_of_not {p : OutreachEvent → Prop} [DecidablePred p]
    (target : Option BotUser) (body : String)
    (hp : ∀ x ∈ rows, x.pk = ev.pk → ¬ p (OutreachSystem.claimed target body now x))
    (width start : Instant) :
    windowCount OutreachEvent.claimTime width p start (withClaim target body now ev.pk rows) ≤
      windowCount OutreachEvent.claimTime width p start rows := by
  simp only [windowCount, withClaim, List.countP_map]
  apply List.countP_mono_left
  intro x hx hcounts
  simp only [Function.comp_apply] at hcounts
  by_cases hpk : x.pk = ev.pk
  · rw [if_pos hpk] at hcounts
    exact absurd (of_decide_eq_true hcounts).1 (hp x hx hpk)
  · rwa [if_neg hpk] at hcounts

variable {e : Surroundings shop}

theorem WithinCaps.apart_of_may (h : WithinCaps shop rows) (hmay : MayReserve e rows ev now)
    {x : OutreachEvent} (hx : x ∈ rows) (hpk : x.pk ≠ ev.pk) (hreserved : x.status.Reserved)
    (hcustomer : shop.customer x.order = shop.customer ev.order) :
    x.claimTime < now - Revenue.hours 24 := by
  have hday := hmay.day
  rw [h.reservedSince_eq, List.countP_eq_zero] at hday
  have hnot := hday x hx
  simp only [decide_eq_true_eq, not_and, not_le] at hnot
  exact hnot hpk ⟨hreserved, hcustomer⟩

theorem WithinCaps.reserves (h : WithinCaps shop rows)
    (hkeys : (rows.map OutreachEvent.pk).Nodup) (hev : ev ∈ rows)
    (hmay : MayReserve e rows ev now) (target : Option BotUser) (body : String) :
    WithinCaps shop (withClaim target body now ev.pk rows) := by
  have hsame (x : OutreachEvent) (hx : x ∈ rows) (hpk : x.pk = ev.pk) : x = ev :=
    List.inj_on_of_nodup_map hkeys hx hev hpk
  have htime : ∀ x ∈ rows, x.pk = ev.pk →
      (OutreachSystem.claimed target body now x).claimTime = now := fun _ _ _ => rfl
  exact {
    claimed := by
      intro a ha hreserved
      obtain ⟨x, hx, rfl⟩ := List.mem_map.mp ha
      by_cases hpk : x.pk = ev.pk
      · simp only [if_pos hpk]
        rfl
      · simp only [if_neg hpk] at hreserved ⊢
        exact h.claimed x hx hreserved
    apart := by
      intro a ha b hb hne hreserved hreserved' hcustomer
      obtain ⟨x, hx, rfl⟩ := List.mem_map.mp ha
      obtain ⟨y, hy, rfl⟩ := List.mem_map.mp hb
      by_cases hxev : x.pk = ev.pk
      · by_cases hyev : y.pk = ev.pk
        · simp only [if_pos hxev, if_pos hyev] at hne
          exact absurd (hxev.trans hyev.symm) hne
        · simp only [if_pos hxev, if_neg hyev] at hreserved' hcustomer ⊢
          obtain rfl := hsame x hx hxev
          have hbefore := h.apart_of_may hmay hy hyev hreserved' hcustomer.symm
          rw [htime x hx rfl]
          exact lt_abs.mpr (Or.inl (lt_sub_comm.mp hbefore))
      · by_cases hyev : y.pk = ev.pk
        · simp only [if_neg hxev, if_pos hyev] at hreserved hcustomer ⊢
          obtain rfl := hsame y hy hyev
          have hbefore := h.apart_of_may hmay hx hxev hreserved hcustomer
          rw [htime y hy rfl]
          have hapart := lt_sub_comm.mp hbefore
          rw [← neg_sub] at hapart
          exact lt_abs.mpr (Or.inr hapart)
        · simp only [if_neg hxev, if_neg hyev] at hne hreserved hreserved' hcustomer ⊢
          exact h.apart x hx y hy hne hreserved hreserved' hcustomer
    week := by
      intro customer start
      by_cases hcustomer : shop.customer ev.order = customer
      · subst hcustomer
        have hroom := hmay.week
        rw [h.reservedSince_eq] at hroom
        exact windowCount_replace_le hkeys htime hroom (h.week _ start)
      · refine (windowCount_withClaim_of_not target body (fun x hx hpk hp => ?_) _ start).trans
          (h.week customer start)
        rw [hsame x hx hpk] at hp
        exact hcustomer hp.2
    day := by
      intro store start
      by_cases hstore : shop.store ev.order = store
      · subst hstore
        have hroom := hmay.store
        rw [h.reservedSince_eq] at hroom
        exact windowCount_replace_le hkeys htime hroom (h.day _ start)
      · refine (windowCount_withClaim_of_not target body (fun x hx hpk hp => ?_) _ start).trans
          (h.day store start)
        rw [hsame x hx hpk] at hp
        exact hstore hp.2 }

end Reserve

/-! ### Runs -/

variable {s s' : OutreachSystem κ} {i : κ}

theorem WithinCaps.does (h : WithinCaps shop s.events.rows) {e : Surroundings shop}
    (hdoes : Does s i e s') : WithinCaps shop s'.events.rows := by
  cases hdoes with
  | settles hg hrows _ _ _ =>
      rw [hrows]
      exact h.relaxes fun ev hev => (hg ev hev).relaxes
  | creates _ hpreview hrows _ _ _ =>
      rw [hrows]
      apply h.append
      rw [hpreview]
      decide
  | @reserves r left ev target body now hev _ hmay =>
      have hrows : (s.claim i r left ev target body now).events.rows =
          withClaim target body now ev.pk s.events.rows := by
        simp [OutreachSystem.claim, OutreachSystem.update_rows, withClaim]
      rw [hrows]
      exact h.reserves s.events.keys_nodup hev hmay target body
  | keeps _ _ => exact h
  | @drops _ _ ev _ hrows _ _ _ =>
      rw [hrows]
      exact h.relaxes fun x _ => relaxes_dropped ev.pk x
  | sends _ _ _ _ => exact h

theorem WithinCaps.step (h : WithinCaps shop s.events.rows) (a : OutreachStep shop κ) :
    WithinCaps shop (s.step a).events.rows := by
  cases a with
  | start i now storeId =>
      simp only [OutreachSystem.step]
      split
      · exact h
      · exact h
  | advance i e answer => exact h.does (does_advance answer)
  | crash i => exact h

theorem withinCaps_nil : WithinCaps shop [] where
  claimed := by simp
  apart := by simp
  week := by simp
  day := by simp

/-! ## The whole -/

/-- The customer of the order has not muted the store, waits for no answer of it, and has not renewed
the purchase. -/
structure Willing (e : Surroundings shop) (order : ℕ) : Prop where
  notMuted : ¬ IsMuted e (shop.store order) (shop.customer order)
  noTicket : ¬ HasOpenTicket e (shop.store order) (shop.customer order)
  notRenewed : ¬ Renewed e (e.purchase order).order

/-- An event is reserved in a step at which its customer is willing. -/
theorem reserved_of_step (s : OutreachSystem κ) (a : OutreachStep shop κ) {ev : OutreachEvent}
    (hev : ev ∈ (s.step a).events.rows) (hreserved : ev.status.Reserved) :
    (∃ x ∈ s.events.rows, x.pk = ev.pk ∧ x.status.Reserved) ∨
      ∃ i e answer, a = .advance i e answer ∧ Willing e ev.order := by
  cases a with
  | start i now storeId =>
      simp only [OutreachSystem.step] at hev
      split at hev
      · exact Or.inl ⟨ev, hev, rfl, hreserved⟩
      · exact Or.inl ⟨ev, hev, rfl, hreserved⟩
  | crash i => exact Or.inl ⟨ev, hev, rfl, hreserved⟩
  | advance i e answer =>
      have hdoes : Does s i e (s.step (.advance i e answer)) := does_advance answer
      generalize s.step (.advance i e answer) = s' at hdoes hev
      cases hdoes with
      | settles hg hrows _ _ _ =>
          rw [hrows] at hev
          obtain ⟨x, hx, rfl⟩ := List.mem_map.mp hev
          exact Or.inl ⟨x, hx, (hg x hx).pk.symm, ((hg x hx).reserved hreserved).1⟩
      | creates _ hpreview hrows _ _ _ =>
          rw [hrows] at hev
          rcases List.mem_append.mp hev with hev | hev
          · exact Or.inl ⟨ev, hev, rfl, hreserved⟩
          · rw [List.mem_singleton.mp hev, hpreview] at hreserved
            exact absurd hreserved (by decide)
      | @reserves r left x target body now hx _ hmay =>
          rw [OutreachSystem.claim, OutreachSystem.update_rows] at hev
          obtain ⟨y, hy, rfl⟩ := List.mem_map.mp hev
          by_cases hpk : y.pk = x.pk
          · obtain rfl : y = x := Serial.eq_of_key_eq hy hx hpk
            simp only [decide_true, if_true]
            exact Or.inr ⟨i, e, answer, rfl, hmay.notMuted, hmay.noTicket, hmay.notRenewed⟩
          · simp only [hpk, decide_false, Bool.false_eq_true, if_false] at hreserved ⊢
            exact Or.inl ⟨y, hy, rfl, hreserved⟩
      | keeps _ _ => exact Or.inl ⟨ev, hev, rfl, hreserved⟩
      | @drops _ _ x _ hrows _ _ _ =>
          rw [hrows] at hev
          obtain ⟨y, hy, rfl⟩ := List.mem_map.mp hev
          have hy' := relaxes_dropped x.pk y
          exact Or.inl ⟨y, hy, hy'.pk.symm, (hy'.reserved hreserved).1⟩
      | sends _ _ _ _ => exact Or.inl ⟨ev, hev, rfl, hreserved⟩

omit [DecidableEq κ] in
theorem Once.countP_le_one {s : OutreachSystem κ} (h : Once s) (key : EventKey) :
    s.messages.countP (·.key = key) ≤ 1 := by
  rw [List.countP_eq_length_filter]
  have hsame : ∀ m ∈ s.messages.filter (·.key = key), ∀ m' ∈ s.messages.filter (·.key = key),
      m.event = m'.event := by
    intro m hm m' hm'
    simp only [List.mem_filter, decide_eq_true_eq] at hm hm'
    obtain ⟨x, hx, hpk, hkey, _⟩ := h.sent m hm.1
    obtain ⟨x', hx', hpk', hkey', _⟩ := h.sent m' hm'.1
    have hxx : x.key = x'.key := by rw [hkey, hkey', hm.2, hm'.2]
    rw [← hpk, ← hpk', List.inj_on_of_nodup_map h.keys hx hx' hxx]
  have honce : ((s.messages.filter (·.key = key)).map (·.event)).Nodup :=
    h.once.sublist (List.filter_sublist.map _)
  generalize s.messages.filter (·.key = key) = l at hsame honce ⊢
  match l with
  | [] => simp
  | [m] => simp
  | m :: m' :: rest =>
      have hmm := hsame m (by simp) m' (by simp)
      simp [hmm] at honce

omit [DecidableEq κ] in
theorem once_start : Once ({} : OutreachSystem κ) where
  keys := List.nodup_nil
  held := by simp [Phase.held]
  alone := by simp [Phase.held]
  sent := by simp
  once := List.nodup_nil

/-- For any number of runs, every order of their steps and crashes at any point: each event is sent
at most once; the reserved events of a customer are more than 24 hours apart, no seven days hold
more than three of them, and no 24 hours more of a store than its limit; and an event is reserved
only at a moment at which its customer has muted nothing, waits for no answer and has not renewed. -/
theorem outreach_once_within_caps (ops : List (OutreachStep shop κ)) :
    let s : OutreachSystem κ := run OutreachSystem.step {} ops
    (∀ key, s.messages.countP (·.key = key) ≤ 1) ∧
    (∀ a ∈ s.events.rows, ∀ b ∈ s.events.rows, a ≠ b → a.status.Reserved → b.status.Reserved →
      shop.customer a.order = shop.customer b.order →
        ∃ t t', a.claimedAt = some t ∧ b.claimedAt = some t' ∧ Revenue.hours 24 ≤ |t - t'|) ∧
    (∀ customer start, windowCount OutreachEvent.claimTime (Revenue.days 7)
      (OfCustomer shop customer) start s.events.rows ≤ 3) ∧
    (∀ store start, windowCount OutreachEvent.claimTime (Revenue.days 1)
      (OfStore shop store) start s.events.rows ≤ shop.dailyLimit store) ∧
    ∀ a : OutreachStep shop κ, ∀ ev ∈ (s.step a).events.rows, ev.status.Reserved →
      (∃ x ∈ s.events.rows, x.pk = ev.pk ∧ x.status.Reserved) ∨
        ∃ i e answer, a = .advance i e answer ∧ Willing e ev.order := by
  intro s
  have honce : Once s := run_invariant (fun _ a h => h.step a) ops once_start
  have hcaps : WithinCaps shop s.events.rows :=
    @run_invariant _ _ _ (fun s : OutreachSystem κ => WithinCaps shop s.events.rows)
      (fun _ a h => h.step a) _ ops
      withinCaps_nil
  refine ⟨honce.countP_le_one, fun a ha b hb hne hreserved hreserved' hcustomer => ?_, hcaps.week,
    hcaps.day, fun a ev hev hreserved => reserved_of_step s a hev hreserved⟩
  have hpk : a.pk ≠ b.pk := fun hpk => hne (Serial.eq_of_key_eq ha hb hpk)
  exact ⟨a.claimTime, b.claimTime, hcaps.isSome ha hreserved, hcaps.isSome hb hreserved',
    (hcaps.apart a ha b hb hpk hreserved hreserved' hcustomer).le⟩

end Qasedak.Outreach
