import Qasedak.Revenue.RetentionScan

/-! # Win-back messages

Whom the scan for expired services addresses: the customers whose last date has passed, who have
no dated service that runs and no purchase after that date. When these are the customers without
a service. -/

namespace Qasedak.Revenue

open Foundation Store

variable {engine : Engine} {db : ScanDb} {now t t' : Instant} {req : ScanRequest} {k : ℕ}
  {c d : VPNClient} {s : Scan} {seen : List ℕ} {cs : List VPNClient}

/-! ## What the scan emits -/

/-- The two checks of the scan find nothing for the owner of an expired client. -/
def Unanswered (db : ScanDb) (now : Instant) (c : VPNClient) : Prop :=
  ∀ k ∈ db.owner c, activeSubscriptionExists db now k = false ∧
    ∀ t ∈ c.expiresAt, renewedAfter db k t = false

instance (db : ScanDb) (now : Instant) : DecidablePred (Unanswered db now) := fun c =>
  inferInstanceAs (Decidable (∀ k ∈ db.owner c, _))

theorem winBacks_emit_of_ne {e : RetentionEvent} (h : e.eventType ≠ .userExpiredNoRenew) :
    (s.emit engine e).winBacks = s.winBacks := by
  rw [Scan.winBacks, Scan.emit_emitted, List.filterMap_append]
  simp [h, Scan.winBacks]

theorem winBacks_emit_winBackEvent :
    (s.emit engine (winBackEvent db req k c)).winBacks = s.winBacks ++ [k] := by
  rw [Scan.winBacks, Scan.emit_emitted, List.filterMap_append, Scan.winBacks]
  rfl

theorem winBacks_scanBotUsers (us : List ScannedBotUser) :
    (scanBotUsers engine db now req s us).winBacks = s.winBacks := by
  induction us generalizing s with
  | nil => rfl
  | cons u us ih =>
      rw [scanBotUsers]
      split
      · rw [ih]
        rfl
      · next e he =>
          have htype : e.eventType ≠ .userExpiredNoRenew := by
            rw [inactivityEvent] at he
            split at he
            · cases he
              exact nofun
            · split at he <;> cases he
              exact nofun
          rw [ih, winBacks_emit_of_ne htype]
          rfl

/-- The loop addresses the owner of the first client of each customer, unless a check finds
something. -/
theorem winBacks_scanExpiredClients :
    (scanExpiredClients engine db now req s seen cs).winBacks =
      s.winBacks ++ ((firsts db.owner seen cs).filter fun c => Unanswered db now c).filterMap
        db.owner := by
  induction cs generalizing s seen with
  | nil => simp [scanExpiredClients, firsts]
  | cons c cs ih =>
      rw [scanExpiredClients]
      cases howner : db.owner c with
      | none =>
          rw [firsts_of_seen (by simp [howner])]
          exact ih
      | some k =>
          dsimp only
          by_cases hseen : k ∈ seen
          · rw [if_pos hseen, firsts_of_seen (by simpa [howner] using hseen)]
            exact ih
          rw [if_neg hseen, firsts_of_fresh howner hseen]
          by_cases hanswered : activeSubscriptionExists db now k ∨
              ∃ t ∈ c.expiresAt, renewedAfter db k t
          · have hnot : ¬ Unanswered db now c := by
              intro h
              obtain ⟨hrunning, hrenewed⟩ := h k howner
              rcases hanswered with hanswered | ⟨t, ht, hanswered⟩
              · exact absurd hanswered (by simp [hrunning])
              · exact absurd hanswered (by simp [hrenewed t ht])
            rw [if_pos hanswered, ih, List.filter_cons_of_neg (by simpa using hnot)]
          · have hunanswered : Unanswered db now c := by
              intro k' hk'
              obtain rfl : k = k' := Option.some.inj (howner.symm.trans hk')
              rw [not_or] at hanswered
              exact ⟨by simpa using hanswered.1, fun t ht =>
                by simpa using fun h => hanswered.2 ⟨t, ht, h⟩⟩
            rw [if_neg hanswered, ih, winBacks_emit_winBackEvent,
              List.filter_cons_of_pos (by simpa using hunanswered),
              List.filterMap_cons_some howner, List.append_assoc]
            rfl

theorem winBacks_runRetentionScan : (runRetentionScan engine db now req).winBacks =
    ((firsts db.owner [] (expiredClients db now req)).filter fun c =>
      Unanswered db now c).filterMap db.owner := by
  rw [runRetentionScan, winBacks_scanExpiredClients, winBacks_scanBotUsers]
  rfl

/-- No customer is addressed twice. -/
theorem nodup_winBacks : (runRetentionScan engine db now req).winBacks.Nodup := by
  rw [winBacks_runRetentionScan]
  exact (List.filter_sublist.filterMap db.owner).nodup (nodup_filterMap_firsts db.owner [] _)

theorem mem_winBacks : k ∈ (runRetentionScan engine db now req).winBacks ↔
    ∃ c, (expiredClients db now req).find? (fun d => db.owner d = some k) = some c ∧
      Unanswered db now c := by
  rw [winBacks_runRetentionScan, List.mem_filterMap]
  constructor
  · rintro ⟨c, hc, hk⟩
    rw [List.mem_filter, mem_firsts_iff] at hc
    obtain ⟨⟨j, hj, -, hfind⟩, hunanswered⟩ := hc
    obtain rfl : j = k := Option.some.inj (hj.symm.trans hk)
    exact ⟨c, hfind, by simpa using hunanswered⟩
  · rintro ⟨c, hfind, hunanswered⟩
    have hk : db.owner c = some k := by simpa using List.find?_some hfind
    refine ⟨c, ?_, hk⟩
    rw [List.mem_filter, mem_firsts_iff]
    exact ⟨⟨k, hk, List.not_mem_nil, hfind⟩, by simpa using hunanswered⟩

/-! ## Whom the scan addresses -/

/-- A client of the customer. -/
def Owned (db : ScanDb) (k : ℕ) (c : VPNClient) : Prop :=
  c ∈ db.clients.rows ∧ db.owner c = some k

/-- A completed order after a time. -/
def BoughtSince (db : ScanDb) (k : ℕ) (t : Instant) : Prop :=
  ∃ o ∈ db.orders.rows, o.customer = some k ∧ o.status = .completed ∧ t < o.createdAt

/-- The latest date of the customer's clients of a kind. -/
structure LastEnd (db : ScanDb) (k : ℕ) (p : VPNClient → Prop) (t : Instant) : Prop where
  attained : ∃ c, Owned db k c ∧ p c ∧ c.expiresAt = some t
  latest : ∀ c, Owned db k c → p c → ∀ t' ∈ c.expiresAt, t' ≤ t

/-- What the checks of the scan let through. -/
def Addressed (db : ScanDb) (now : Instant) (k : ℕ) : Prop :=
  ∃ t, LastEnd db k (Passed now) t ∧ (∀ c, Owned db k c → ¬ Running now c) ∧ ¬ BoughtSince db k t

theorem LastEnd.unique {p : VPNClient → Prop} (h : LastEnd db k p t) (h' : LastEnd db k p t') :
    t = t' := by
  obtain ⟨c, hc, hp, ht⟩ := h.attained
  obtain ⟨c', hc', hp', ht'⟩ := h'.attained
  exact le_antisymm (h'.latest c hc hp t ht) (h.latest c' hc' hp' t' ht')

theorem activeSubscriptionExists_eq_false :
    activeSubscriptionExists db now k = false ↔ ∀ c, Owned db k c → ¬ Running now c := by
  rw [activeSubscriptionExists, List.any_eq_false]
  constructor
  · intro h c hc hrunning
    exact h c hc.1 (by simpa using ⟨hc.2, hrunning⟩)
  · intro h c hc hfound
    have hboth : db.owner c = some k ∧ Running now c := by simpa using hfound
    exact h c ⟨hc, hboth.1⟩ hboth.2

theorem renewedAfter_eq_false : renewedAfter db k t = false ↔ ¬ BoughtSince db k t := by
  rw [renewedAfter, List.any_eq_false, BoughtSince]
  simp

theorem exists_slice_eq_take (req : ScanRequest) (xs : List VPNClient) :
    ∃ n, req.slice xs = xs.take n := by
  rw [ScanRequest.slice]
  split
  · exact ⟨xs.length, List.take_length.symm⟩
  · exact ⟨xs.length, List.take_length.symm⟩
  · next n _ _ => exact ⟨n, rfl⟩

/-- The first expired client of a customer has the latest date. -/
theorem lastEnd_of_find?
    (h : (expiredClients db now req).find? (fun d => db.owner d = some k) = some c) :
    ∃ t ∈ c.expiresAt, LastEnd db k (Passed now) t := by
  obtain ⟨n, hn⟩ := exists_slice_eq_take req
    ((db.clients.rows.filter fun c =>
      (db.owner c).isSome ∧ Passed now c ∧ req.Selects (db.owner c)).insertionSort fun c d =>
        expiredOrder db c ≤ expiredOrder db d)
  rw [expiredClients, hn] at h
  obtain ⟨hc, hk, hleast⟩ := find?_take_insertionSort h
  rw [List.mem_filter, decide_eq_true_eq] at hc
  rw [decide_eq_true_eq] at hk
  obtain ⟨hrow, -, hpassed, hselects⟩ := hc
  obtain ⟨t, ht, hlt⟩ := hpassed.1
  refine ⟨t, ht, ⟨c, ⟨hrow, hk⟩, hpassed, ht⟩, fun d hd hdpassed t' ht' => ?_⟩
  have hdmem : d ∈ db.clients.rows.filter fun c =>
      (db.owner c).isSome ∧ Passed now c ∧ req.Selects (db.owner c) := by
    rw [List.mem_filter, decide_eq_true_eq, hd.2]
    exact ⟨hd.1, rfl, hdpassed, hk ▸ hselects⟩
  have hle := hleast d hdmem (by simpa using hd.2)
  rw [Option.mem_def] at ht ht'
  rw [expiredOrder, expiredOrder, hk, hd.2, ht, ht', Prod.Lex.toLex_le_toLex] at hle
  rcases hle with hlt | ⟨-, hle⟩
  · exact absurd hlt (lt_irrefl _)
  · rw [Prod.Lex.toLex_le_toLex] at hle
    rcases hle with hlt | ⟨heq, -⟩
    · exact (neg_lt_neg_iff.mp hlt).le
    · exact (neg_inj.mp heq).ge

theorem unanswered_iff (hc : db.owner c = some k) (ht : c.expiresAt = some t) :
    Unanswered db now c ↔
      (∀ d, Owned db k d → ¬ Running now d) ∧ ¬ BoughtSince db k t := by
  rw [Unanswered, ← activeSubscriptionExists_eq_false, ← renewedAfter_eq_false, hc, ht]
  simp

theorem addressed_of_mem_winBacks (h : k ∈ (runRetentionScan engine db now req).winBacks) :
    Addressed db now k := by
  obtain ⟨c, hfind, hunanswered⟩ := mem_winBacks.mp h
  have hk : db.owner c = some k := by simpa using List.find?_some hfind
  obtain ⟨t, ht, hlast⟩ := lastEnd_of_find? hfind
  exact ⟨t, hlast, (unanswered_iff hk ht).mp hunanswered⟩

/-- Without a limit the scan reaches all of them. -/
theorem mem_winBacks_of_addressed (hreq : req.Unlimited) (h : Addressed db now k) :
    k ∈ (runRetentionScan engine db now req).winBacks := by
  obtain ⟨t, hlast, hchecks⟩ := h
  obtain ⟨c, hc, hpassed, hend⟩ := hlast.attained
  have hslice : ∀ xs : List VPNClient, req.slice xs = xs := by
    intro xs
    rw [ScanRequest.slice]
    split
    · rfl
    · rfl
    · next n hne hn => exact absurd (hreq.2 _ hn) hne
  have hmem : c ∈ expiredClients db now req := by
    rw [expiredClients, hslice, List.mem_insertionSort, List.mem_filter, decide_eq_true_eq, hc.2]
    exact ⟨hc.1, rfl, hpassed, fun j hj hne => absurd (hreq.1 j hj) hne⟩
  have hsome : ((expiredClients db now req).find? fun d => db.owner d = some k).isSome :=
    List.find?_isSome.mpr ⟨c, hmem, by simpa using hc.2⟩
  obtain ⟨d, hfind⟩ := Option.isSome_iff_exists.mp hsome
  have hd : db.owner d = some k := by simpa using List.find?_some hfind
  obtain ⟨t', ht', hlast'⟩ := lastEnd_of_find? hfind
  obtain rfl := hlast'.unique hlast
  exact mem_winBacks.mpr ⟨d, hfind, (unanswered_iff hd ht').mpr hchecks⟩

/-! ## Customers without a service -/

/-- `VPNClient.is_expired`. -/
def IsExpired (now : Instant) (c : VPNClient) : Prop := ∃ t ∈ c.expiresAt, t ≤ now

/-- A client that is expired and not deleted. -/
def Lapsed (now : Instant) (c : VPNClient) : Prop := c.isDeleted = false ∧ IsExpired now c

/-- A client that can be used; without a date it never expires. -/
def Usable (now : Instant) (c : VPNClient) : Prop :=
  c.isDeleted = false ∧ ¬ IsExpired now c ∧ LiveStatus c.status

def WithoutService (db : ScanDb) (now : Instant) (k : ℕ) : Prop :=
  (∃ c, Owned db k c ∧ Lapsed now c) ∧ ∀ c, Owned db k c → ¬ Usable now c

/-- The customer has not bought again since the last expiry. -/
def NotBack (db : ScanDb) (now : Instant) (k : ℕ) : Prop :=
  ∃ t, LastEnd db k (Lapsed now) t ∧ ¬ BoughtSince db k t

/-- Win-back messages go to customers without a service, to each once, and without a limit to all
of them who have not bought again. -/
structure WinsBack (db : ScanDb) (now : Instant) : Prop where
  once : ∀ engine req, (runRetentionScan engine db now req).winBacks.Nodup
  lost : ∀ engine req, ∀ k ∈ (runRetentionScan engine db now req).winBacks, WithoutService db now k
  reached : ∀ engine req, req.Unlimited → ∀ k, WithoutService db now k → NotBack db now k →
    k ∈ (runRetentionScan engine db now req).winBacks

/-- The customers of whom the scan judges by their dates and statuses alone rightly: whoever is
addressed has no unlimited service and has lapsed by a client that is not deleted; whoever is
without a service is not held back by a deleted client with a date to come, nor by a service that
ends at this very moment. -/
structure JudgedRightly (db : ScanDb) (now : Instant) (k : ℕ) : Prop where
  dated : Addressed db now k → ∀ c, Owned db k c → Usable now c → c.expiresAt ≠ none
  present : Addressed db now k → ∃ c, Owned db k c ∧ Lapsed now c
  buried : WithoutService db now k → NotBack db now k →
    ∀ c, Owned db k c → c.isSoftDeleted = true → ¬ Running now c
  ended : WithoutService db now k → NotBack db now k →
    (∃ c, Owned db k c ∧ Lapsed now c ∧ c.expiresAt = some now) →
    ∃ t, LastEnd db k (Passed now) t ∧ ¬ BoughtSince db k t

/-- A client that runs by its date is usable, unless it is deleted. -/
theorem Running.usable (h : Running now c) (hc : c.isSoftDeleted = false) : Usable now c := by
  obtain ⟨⟨t, ht, hlt⟩, hlive⟩ := h
  refine ⟨?_, ?_, hlive⟩
  · have hstatus : c.status ≠ .deleted := by
      rintro hdeleted
      rw [hdeleted] at hlive
      rcases hlive with h | h | h <;> cases h
    simp [VPNClient.isDeleted, hc, hstatus]
  · rintro ⟨t', ht', hle⟩
    obtain rfl : t = t' := Option.some.inj (Eq.trans (Eq.symm ht) ht')
    exact absurd hlt (not_lt.mpr hle)

/-- A dated usable client runs. -/
theorem Usable.running (h : Usable now c) (ht : c.expiresAt = some t) : Running now c := by
  refine ⟨⟨t, ht, ?_⟩, h.2.2⟩
  by_contra hle
  exact h.2.1 ⟨t, ht, not_lt.mp hle⟩

theorem Lapsed.passed (h : Lapsed now c) (ht : c.expiresAt = some t) (hlt : t < now) :
    Passed now c := by
  refine ⟨⟨t, ht, hlt⟩, fun hdeleted => ?_⟩
  have hboth := h.1
  simp [VPNClient.isDeleted, hdeleted] at hboth

theorem exists_lastEnd (hc : Owned db k c) (hpassed : Passed now c) :
    ∃ t, LastEnd db k (Passed now) t := by
  let ends := db.clients.rows.filter fun d => db.owner d = some k ∧ Passed now d
  have hmem {d : VPNClient} : d ∈ ends ↔ Owned db k d ∧ Passed now d := by
    rw [List.mem_filter, decide_eq_true_eq, Owned, and_assoc]
  cases hmax : ends.argmax fun d => d.expiresAt.getD 0 with
  | none =>
      have hnil := List.argmax_eq_none.mp hmax
      have hin : c ∈ ends := hmem.mpr ⟨hc, hpassed⟩
      rw [hnil] at hin
      cases hin
  | some d =>
      obtain ⟨hd, hdpassed⟩ := hmem.mp (List.argmax_mem hmax)
      obtain ⟨t, ht, hlt⟩ := hdpassed.1
      refine ⟨t, ⟨d, hd, hdpassed, ht⟩, fun e he hepassed t' ht' => ?_⟩
      have hle := List.le_of_mem_argmax (hmem.mpr ⟨he, hepassed⟩) hmax
      rw [Option.mem_def] at ht ht'
      simpa [ht, ht'] using hle

/-- Who is without a service and not held back is addressed. -/
theorem JudgedRightly.addressed (h : JudgedRightly db now k) (hlost : WithoutService db now k)
    (hback : NotBack db now k) : Addressed db now k := by
  have hrunning : ∀ c, Owned db k c → ¬ Running now c := by
    intro c hc hrun
    by_cases hdeleted : c.isSoftDeleted = true
    · exact h.buried hlost hback c hc hdeleted hrun
    · exact hlost.2 c hc (hrun.usable (by simpa using hdeleted))
  have hends : ∃ t, LastEnd db k (Passed now) t ∧ ¬ BoughtSince db k t := by
    obtain ⟨t, hlast, hbought⟩ := id hback
    obtain ⟨c, hc, hlapsed, ht⟩ := hlast.attained
    obtain ⟨t', ht', hle⟩ := hlapsed.2
    obtain rfl : t = t' := Option.some.inj (ht.symm.trans ht')
    rcases hle.lt_or_eq with hlt | rfl
    · -- The latest passed date is not before the last expiry.
      have hpassed := hlapsed.passed ht hlt
      obtain ⟨u, hu⟩ := exists_lastEnd hc hpassed
      refine ⟨u, hu, ?_⟩
      rintro ⟨o, ho, hcustomer, hcompleted, hcreated⟩
      exact hbought ⟨o, ho, hcustomer, hcompleted, (hu.latest c hc hpassed t ht).trans_lt hcreated⟩
    · exact h.ended hlost hback ⟨c, hc, hlapsed, ht⟩
  obtain ⟨t, hlast, hbought⟩ := hends
  exact ⟨t, hlast, hrunning, hbought⟩

theorem unlimited_default : ({} : ScanRequest).Unlimited := ⟨nofun, nofun⟩

/-- Win-back messages go out as they should exactly where every customer is judged rightly. -/
theorem winsBack_iff (db : ScanDb) (now : Instant) :
    WinsBack db now ↔ ∀ k, JudgedRightly db now k := by
  constructor
  · intro h k
    have haddressed (hlost : WithoutService db now k) (hback : NotBack db now k) :
        Addressed db now k :=
      addressed_of_mem_winBacks (h.reached (fun _ => none) {} unlimited_default k hlost hback)
    have hlost (ha : Addressed db now k) : WithoutService db now k :=
      h.lost (fun _ => none) {} k (mem_winBacks_of_addressed unlimited_default ha)
    refine ⟨fun ha c hc husable => absurd husable ((hlost ha).2 c hc), fun ha => (hlost ha).1,
      fun hl hb c hc _ => ?_, fun hl hb _ => ?_⟩
    · obtain ⟨-, -, hrunning, -⟩ := haddressed hl hb
      exact hrunning c hc
    · obtain ⟨t, hlast, -, hbought⟩ := haddressed hl hb
      exact ⟨t, hlast, hbought⟩
  · intro h
    refine ⟨fun _ _ => nodup_winBacks, fun engine req k hk => ?_, fun engine req hreq k hl hb =>
      mem_winBacks_of_addressed hreq ((h k).addressed hl hb)⟩
    have ha := addressed_of_mem_winBacks hk
    refine ⟨(h k).present ha, fun c hc husable => ?_⟩
    obtain ⟨t, ht⟩ := Option.ne_none_iff_exists'.mp ((h k).dated ha c hc husable)
    obtain ⟨-, -, hrunning, -⟩ := ha
    exact hrunning c hc (husable.running ht)

/-- A customer with an expired service and an unlimited one. -/
def unlimitedCustomer : ScanDb where
  orders := ⟨[{ pk := 1, customer := some 7, plan := 1, status := .completed }], by decide⟩
  clients := ⟨[
    { pk := 1, order := some 1, plan := none, inbound := none, username := "old"
      status := .expired, expiresAt := some (hours 1) },
    { pk := 2, order := some 1, plan := none, inbound := none, username := "unlimited"
      status := .active }], by decide⟩

theorem unlimitedCustomer_addressed :
    (runRetentionScan (fun _ => none) unlimitedCustomer (hours 2) {}).winBacks = [7] ∧
      ¬ WinsBack unlimitedCustomer (hours 2) := by
  have hscan : (runRetentionScan (fun _ => none) unlimitedCustomer (hours 2) {}).winBacks = [7] := by
    decide
  refine ⟨hscan, fun h => ?_⟩
  have hlost := h.lost (fun _ => none) {} 7 (by rw [hscan]; exact List.mem_cons_self)
  refine hlost.2 _ ⟨List.mem_cons_of_mem _ List.mem_cons_self, rfl⟩ ⟨rfl, ?_, .inr (.inr rfl)⟩
  rintro ⟨t, ht, -⟩
  cases ht

end Qasedak.Revenue
