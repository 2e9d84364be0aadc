import Qasedak.Orders.Referrals

/-! What the referral programme sees of the shop: which orders of a customer are completed
and verified, which of them await a review, and which packages were granted. -/

namespace Qasedak.Orders

open Foundation Store

/-- What the programme sees of an order. -/
structure Standing where
  order : ℕ
  customer : Option ℕ
  store : Option ℕ
  completed : Bool
  verified : Bool
  deriving DecidableEq

def Standing.successful (x : Standing) : Bool := x.completed && x.verified

structure Programme where
  orders : List Standing
  awaits : ℕ → Bool
  customers : Customers
  stores : Stores
  ledgers : List ReferralRewardLedger

def orderStanding (o : Order) : Standing where
  order := o.pk
  customer := o.customer
  store := o.store
  completed := o.status = .completed
  verified := o.verificationStatus = .verified

@[simp] theorem successful_orderStanding (o : Order) :
    (orderStanding o).successful = isSuccessful o := rfl

def Db.programme (db : Db) : Programme where
  orders := db.orders.rows.map orderStanding
  awaits := awaitsReview db
  customers := db.customers
  stores := db.stores
  ledgers := db.ledgers.rows

namespace Programme

/-- How many packages an invited customer brought. -/
def rewards (p : Programme) (customer : ℕ) : ℕ := p.ledgers.countP fun l => l.invited = customer

/-- Only the customer's first successful order earns a package. -/
def firstOnly (p : Programme) (x : Standing) : Bool :=
  (getReferralStore p.stores x.store).any (·.referralMinOrderRequired)

/-- The customer was invited by somebody else, and the programme is open for their orders. -/
structure Participates (p : Programme) (customer : ℕ) : Prop where
  invited : ∃ row inviter, p.customers.get? customer = some row ∧
    row.referredBy = some inviter ∧ inviter ≠ customer
  enabled : ∀ x ∈ p.orders, x.customer = some customer →
    ∃ store, getReferralStore p.stores x.store = some store ∧ store.referralSystemEnabled ∧
      store.referralRewardGb ≠ 0 ∧ store.referralRewardDurationDays ≠ 0

/-- Nothing is due yet: every successful order of the customer awaits its review, and one
that must be the first has no other beside it. -/
structure Undecided (p : Programme) (customer : ℕ) : Prop where
  awaits : ∀ x ∈ p.orders, x.customer = some customer → x.successful → p.awaits x.order
  alone : ∀ x ∈ p.orders, x.customer = some customer → x.successful → p.firstOnly x →
    ∀ y ∈ p.orders, y.customer = some customer → y.successful → y.order = x.order

/-- The customer brought one package, or none is due. -/
def Fair (p : Programme) (customer : ℕ) : Prop :=
  p.rewards customer = 1 ∨ p.rewards customer = 0 ∧ p.Undecided customer

/-! ## Steps -/

/-- Only what the programme sees of one order changed, and not whose order it is. -/
structure Alters (k : ℕ) (p p' : Programme) : Prop where
  orders : ∀ y ∈ p'.orders, ∃ x ∈ p.orders, y.order = x.order ∧ y.customer = x.customer ∧
    y.store = x.store ∧ (x.order ≠ k → y = x)
  awaits : p'.awaits = p.awaits
  customers : p'.customers = p.customers
  stores : p'.stores = p.stores
  ledgers : p'.ledgers = p.ledgers

/-- An order was completed. -/
def Done (p : Programme) (k : ℕ) : Prop := ∃ x ∈ p.orders, x.order = k ∧ x.completed

/-- The order is a successful purchase of the customer with nothing to wait for. -/
structure Due (p : Programme) (customer k : ℕ) : Prop where
  order : ∃ x ∈ p.orders, x.order = k ∧ x.customer = some customer ∧ x.successful ∧
    (p.firstOnly x → ∀ y ∈ p.orders, y.customer = some customer → y.successful → y.order = k)
  reviewed : p.awaits k = false

/-- What the call for an order does to the packages of a customer. -/
structure Granted (customer k : ℕ) (p p' : Programme) : Prop where
  same : p' = { p with ledgers := p'.ledgers }
  rewards : p'.rewards customer = p.rewards customer ∨
    p.rewards customer = 0 ∧ p'.rewards customer = 1
  due : p.Participates customer → p.Due customer k → p'.rewards customer ≠ 0

variable {p p' p'' : Programme} {customer k : ℕ}

theorem Alters.refl (k : ℕ) (p : Programme) : Alters k p p where
  orders y hy := ⟨y, hy, rfl, rfl, rfl, fun _ => rfl⟩
  awaits := rfl
  customers := rfl
  stores := rfl
  ledgers := rfl

theorem Alters.trans (h : Alters k p p') (h' : Alters k p' p'') : Alters k p p'' where
  orders z hz := by
    obtain ⟨y, hy, horder, hcustomer, hstore, hsame⟩ := h'.orders z hz
    obtain ⟨x, hx, horder', hcustomer', hstore', hsame'⟩ := h.orders y hy
    refine ⟨x, hx, horder.trans horder', hcustomer.trans hcustomer', hstore.trans hstore', ?_⟩
    intro hk
    rw [hsame (horder' ▸ hk), hsame' hk]
  awaits := h'.awaits.trans h.awaits
  customers := h'.customers.trans h.customers
  stores := h'.stores.trans h.stores
  ledgers := h'.ledgers.trans h.ledgers

theorem Alters.rewards (h : Alters k p p') : p'.rewards customer = p.rewards customer := by
  rw [Programme.rewards, Programme.rewards, h.ledgers]

theorem Alters.participates (h : Alters k p p') (hp : p.Participates customer) :
    p'.Participates customer where
  invited := h.customers ▸ hp.invited
  enabled y hy hcustomer := by
    obtain ⟨x, hx, -, hcustomer', hstore, -⟩ := h.orders y hy
    rw [h.stores, hstore]
    exact hp.enabled x hx (hcustomer'.symm.trans hcustomer)

theorem Granted.participates (h : Granted customer k p p') (hp : p.Participates customer) :
    p'.Participates customer := by
  rw [h.same]
  exact ⟨hp.invited, hp.enabled⟩

/-- Nothing changed but whether the order awaits its review. -/
structure Reviews (k : ℕ) (p p' : Programme) : Prop where
  same : p' = { p with awaits := p'.awaits }
  others : ∀ j, j ≠ k → p'.awaits j = p.awaits j

/-! ## Fairness -/

/-- No other successful order of the customer stands against this one where only a first
order earns a package. -/
def Uncontested (p : Programme) (customer k : ℕ) : Prop :=
  ∀ x ∈ p.orders, x.order = k → x.customer = some customer →
    ∀ y ∈ p.orders, y.customer = some customer → y.successful → y.order ≠ k →
      ¬ p.firstOnly x ∧ ¬ p.firstOnly y

instance (p : Programme) (customer k : ℕ) : Decidable (p.Uncontested customer k) :=
  inferInstanceAs (Decidable (∀ x ∈ p.orders, x.order = k → x.customer = some customer →
    ∀ y ∈ p.orders, y.customer = some customer → y.successful → y.order ≠ k →
      ¬ p.firstOnly x ∧ ¬ p.firstOnly y))

/-- Nothing is due for the customer's orders other than this one, which is uncontested. -/
structure Poised (p : Programme) (customer k : ℕ) : Prop where
  awaits : ∀ x ∈ p.orders, x.customer = some customer → x.successful → x.order ≠ k →
    p.awaits x.order
  alone : ∀ x ∈ p.orders, x.customer = some customer → x.successful → x.order ≠ k →
    p.firstOnly x → ∀ y ∈ p.orders, y.customer = some customer → y.successful → y.order ≠ k →
      y.order = x.order
  uncontested : p.Uncontested customer k

theorem Undecided.poised (h : p.Undecided customer) (hk : p.Uncontested customer k) :
    p.Poised customer k where
  awaits x hx hcustomer hsuccess _ := h.awaits x hx hcustomer hsuccess
  alone x hx hcustomer hsuccess _ hfirst y hy hyc hysuccess _ :=
    h.alone x hx hcustomer hsuccess hfirst y hy hyc hysuccess
  uncontested := hk

/-- What happens to the order itself does not matter to the others. -/
theorem Poised.of_alters (h : p.Poised customer k) (ha : Alters k p p') :
    p'.Poised customer k := by
  have hother : ∀ y ∈ p'.orders, y.order ≠ k → y ∈ p.orders := by
    intro y hy hyk
    obtain ⟨x, hx, horder, -, -, hsame⟩ := ha.orders y hy
    rwa [hsame (horder ▸ hyk)]
  have hfirst : ∀ x : Standing, p'.firstOnly x = p.firstOnly x := by
    intro x
    rw [firstOnly, firstOnly, ha.stores]
  refine ⟨fun y hy hc hs hyk => ?_, fun x hx hxc hxs hxk hxf y hy hyc hys hyk => ?_, ?_⟩
  · rw [ha.awaits]
    exact h.awaits y (hother y hy hyk) hc hs hyk
  · exact h.alone x (hother x hx hxk) hxc hxs hxk (hfirst x ▸ hxf) y (hother y hy hyk) hyc hys hyk
  · intro x hx hxk hxc y hy hyc hys hyk
    obtain ⟨w, hw, horder, hwc, hws, -⟩ := ha.orders x hx
    have hclear := h.uncontested w hw (horder.symm.trans hxk) (hwc.symm.trans hxc) y
      (hother y hy hyk) hyc hys hyk
    rw [hfirst, hfirst, firstOnly, hws]
    exact hclear

theorem Poised.of_reviews (h : p.Poised customer k) (hr : Reviews k p p') :
    p'.Poised customer k := by
  rw [hr.same]
  refine ⟨fun y hy hc hs hyk => ?_, h.alone, h.uncontested⟩
  rw [hr.others _ hyk]
  exact h.awaits y hy hc hs hyk

/-- Apart from what this order is due, the customer is treated fairly. -/
def FairBut (p : Programme) (customer k : ℕ) : Prop :=
  p.rewards customer = 1 ∨ p.rewards customer = 0 ∧ p.Poised customer k

theorem Fair.but (h : p.Fair customer) (hk : p.rewards customer = 0 → p.Uncontested customer k) :
    p.FairBut customer k :=
  h.imp_right fun hzero => ⟨hzero.1, hzero.2.poised (hk hzero.1)⟩

theorem FairBut.of_alters (h : p.FairBut customer k) (ha : Alters k p p') :
    p'.FairBut customer k := by
  rw [FairBut, ha.rewards]
  exact h.imp_right fun hzero => ⟨hzero.1, hzero.2.of_alters ha⟩

theorem FairBut.of_reviews (h : p.FairBut customer k) (hr : Reviews k p p') :
    p'.FairBut customer k := by
  refine h.imp (fun hone => ?_) fun hzero => ⟨?_, hzero.2.of_reviews hr⟩
  · rw [hr.same]
    exact hone
  · rw [hr.same]
    exact hzero.1

/-- An order that does not become successful asks for nothing. -/
theorem Fair.of_alters (h : p.Fair customer) (ha : Alters k p p')
    (hk : ∀ y ∈ p'.orders, y.order = k → y.successful →
      ∃ x ∈ p.orders, x.order = y.order ∧ x.customer = y.customer ∧ x.store = y.store ∧
        x.successful) : p'.Fair customer := by
  rw [Fair, ha.rewards]
  refine h.imp_right fun hzero => ⟨hzero.1, ?_⟩
  have hback : ∀ y ∈ p'.orders, y.successful →
      ∃ x ∈ p.orders, x.order = y.order ∧ x.customer = y.customer ∧ x.store = y.store ∧
        x.successful := by
    intro y hy hsuccess
    obtain ⟨x, hx, horder, hcustomer, hstore, hsame⟩ := ha.orders y hy
    by_cases hxk : x.order = k
    · exact hk y hy (horder.trans hxk) hsuccess
    · exact ⟨x, hx, horder.symm, hcustomer.symm, hstore.symm, hsame hxk ▸ hsuccess⟩
  constructor
  · intro y hy hcustomer hsuccess
    obtain ⟨x, hx, horder, hxc, -, hxsuccess⟩ := hback y hy hsuccess
    rw [ha.awaits, ← horder]
    exact hzero.2.awaits x hx (hxc.trans hcustomer) hxsuccess
  · intro y hy hcustomer hsuccess hfirst z hz hzcustomer hzsuccess
    obtain ⟨x, hx, horder, hxc, hxs, hxsuccess⟩ := hback y hy hsuccess
    obtain ⟨w, hw, hworder, hwc, -, hwsuccess⟩ := hback z hz hzsuccess
    have hxfirst : p.firstOnly x := by
      rw [firstOnly, hxs, ← ha.stores]
      exact hfirst
    rw [← horder, ← hworder]
    exact hzero.2.alone x hx (hxc.trans hcustomer) hxsuccess hxfirst w hw (hwc.trans hzcustomer)
      hwsuccess

/-- An order that has to await its review asks for nothing, either. -/
theorem Fair.of_reviews (h : p.Fair customer) (hr : Reviews k p p') (hk : p'.awaits k = true) :
    p'.Fair customer := by
  rw [hr.same]
  refine h.imp_right fun hzero => ⟨hzero.1, fun x hx hc hs => ?_, hzero.2.alone⟩
  by_cases hxk : x.order = k
  · rw [hxk]
    exact hk
  · rw [hr.others _ hxk]
    exact hzero.2.awaits x hx hc hs

/-- An order that is not there asks for nothing. -/
theorem FairBut.of_absent (h : p.FairBut customer k) (hk : ∀ x ∈ p.orders, x.order ≠ k) :
    p.Fair customer :=
  h.imp_right fun hzero => ⟨hzero.1,
    fun x hx hc hs => hzero.2.awaits x hx hc hs (hk x hx),
    fun x hx hc hs hf y hy hyc hys =>
      hzero.2.alone x hx hc hs (hk x hx) hf y hy hyc hys (hk y hy)⟩

/-- The call for an order restores fairness. -/
theorem FairBut.of_granted (h : p.FairBut customer k) (hp : p.Participates customer)
    (hg : Granted customer k p p') : p'.Fair customer := by
  rcases h with hone | ⟨hzero, hpoised⟩
  · rcases hg.rewards with h | ⟨h, -⟩
    · exact .inl (h.trans hone)
    · omega
  by_cases hdue : p.Due customer k
  · have := hg.due hp hdue
    rcases hg.rewards with h | ⟨-, h⟩
    · omega
    · exact .inl h
  rcases hg.rewards with h | ⟨-, h⟩
  swap
  · exact .inl h
  refine .inr ⟨h.trans hzero, ?_⟩
  rw [hg.same]
  -- The order earned nothing, so it is not successful or it awaits its review.
  have hk : ∀ x ∈ p.orders, x.order = k → x.customer = some customer → x.successful →
      p.awaits k := by
    intro x hx hxk hcustomer hsuccess
    by_contra hreviewed
    refine hdue ⟨⟨x, hx, hxk, hcustomer, hsuccess, fun hfirst y hy hyc hysuccess => ?_⟩,
      by simpa using hreviewed⟩
    by_contra hyk
    exact (hpoised.uncontested x hx hxk hcustomer y hy hyc hysuccess hyk).1 hfirst
  constructor
  · intro x hx hcustomer hsuccess
    by_cases hxk : x.order = k
    · rw [hxk]
      exact hk x hx hxk hcustomer hsuccess
    · exact hpoised.awaits x hx hcustomer hsuccess hxk
  · intro x hx hcustomer hsuccess hfirst y hy hyc hysuccess
    change p.firstOnly x at hfirst
    by_cases hxk : x.order = k <;> by_cases hyk : y.order = k
    · rw [hxk, hyk]
    · exact absurd hfirst
        (hpoised.uncontested x hx hxk hcustomer y hy hyc hysuccess hyk).1
    · exact absurd hfirst
        (hpoised.uncontested y hy hyk hyc x hx hcustomer hsuccess hxk).2
    · exact hpoised.alone x hx hcustomer hsuccess hxk hfirst y hy hyc hysuccess hyk

end Programme

/-! ## The code -/

variable {s : Shop} {k customer : ℕ} {o : Order}

theorem rewardOf_eq_none_iff {db : Db} : rewardOf db customer = none ↔
    db.programme.rewards customer = 0 := by
  simp [rewardOf, Programme.rewards, Db.programme, List.countP_eq_zero]

/-- An order that is due passes the checks. -/
theorem rewardTerms_of_due {db : Db} (ho : db.orders.get? k = some o)
    (hp : db.programme.Participates customer) (hd : db.programme.Due customer k) :
    ∃ terms, rewardTerms db o = some terms ∧ terms.invited.pk = customer := by
  obtain ⟨⟨x, hx, hxk, hcustomer, hsuccess, hfirst⟩, hreviewed⟩ := hd
  obtain ⟨horder, hkey⟩ := Table.mem_of_get? ho
  obtain ⟨o', ho', rfl⟩ := List.mem_map.mp hx
  obtain rfl : o' = o := List.inj_on_of_nodup_map db.orders.keys_nodup ho' horder (hxk.trans hkey.symm)
  obtain ⟨row, inviter, hrow, hinviter, hother⟩ := hp.invited
  obtain ⟨store, hstore, henabled, hgb, hdays⟩ := hp.enabled _ hx hcustomer
  have hc : o'.customer = some customer := hcustomer
  have hrow' : db.customers.get? customer = some row := hrow
  have hpk : row.pk = customer := (Table.mem_of_get? hrow').2
  have hs : isSuccessful o' = true := hsuccess
  have hawaits : awaitsReview db o'.pk = false := by
    rw [hkey]
    exact hreviewed
  have hstore' : getReferralStore db.stores o'.store = some store := hstore
  have hprevious : ¬ (store.referralMinOrderRequired = true ∧
      hasPreviousSuccessfulOrder db row.pk o'.pk = true) := by
    rintro ⟨hmin, hprevious⟩
    obtain ⟨y, hy, hyparts⟩ := List.any_eq_true.mp hprevious
    simp only [Bool.and_eq_true, decide_eq_true_eq] at hyparts
    obtain ⟨⟨hyc, hys⟩, hyk⟩ := hyparts
    refine hyk ?_
    rw [hkey]
    refine hfirst ?_ (orderStanding y) (List.mem_map_of_mem hy) (hpk ▸ hyc) hys
    change (getReferralStore db.stores o'.store).any _ = true
    rw [hstore']
    exact hmin
  refine ⟨⟨inviter, row, store.referralRewardGb, store.referralRewardDurationDays⟩, ?_, hpk⟩
  unfold rewardTerms
  rw [hc]
  simp only [Option.bind_some, hrow']
  rw [if_neg (by simp [hs, hawaits])]
  simp only [hinviter, hstore']
  rw [if_neg (by simp [hpk, hother, henabled]), if_neg (by simp [hgb, hdays]), if_neg hprevious]

theorem rewards_addLedger {db : Db} {terms : RewardTerms} {now : Instant} :
    (db.addLedger now k terms).programme.rewards customer =
      db.programme.rewards customer + if terms.invited.pk = customer then 1 else 0 := by
  change (db.ledgers.rows ++ [newLedger db now k terms]).countP _ = _
  rw [List.countP_append]
  simp [Programme.rewards, Db.programme, newLedger, List.countP_cons]

/-- The call of the code is the call that the programme asks for. -/
theorem wp_createReferralRewardForOrder_granted (customer : ℕ) {now : Instant}
    (ho : s.db.orders.get? k = some o) :
    Prog.wp (createReferralRewardForOrder now k)
      (fun _ s' => s'.signals = s.signals ∧
        Programme.Granted customer k s.db.programme s'.db.programme)
      (fun _ _ => False) s := by
  refine wp_createReferralRewardForOrder ho (fun hnone => ?_) (fun terms l hterms hl => ?_)
    (fun terms referrals hterms hnone => ?_)
  · refine ⟨rfl, rfl, .inl rfl, fun hp hd => ?_⟩
    obtain ⟨terms, hterms, -⟩ := rewardTerms_of_due ho hp hd
    rw [hnone] at hterms
    cases hterms
  · refine ⟨rfl, rfl, .inl rfl, fun hp hd => ?_⟩
    obtain ⟨terms', hterms', hinvited⟩ := rewardTerms_of_due ho hp hd
    obtain rfl : terms = terms' := Option.some.inj (hterms.symm.trans hterms')
    intro hzero
    rw [hinvited, rewardOf_eq_none_iff.mpr hzero] at hl
    cases hl
  · have hzero : s.db.programme.rewards terms.invited.pk = 0 := rewardOf_eq_none_iff.mp hnone
    have hcount : (s.db.addLedger now k terms).programme.rewards customer =
        s.db.programme.rewards customer + if terms.invited.pk = customer then 1 else 0 :=
      rewards_addLedger
    refine ⟨rfl, rfl, ?_, fun hp hd => ?_⟩
    · change (s.db.addLedger now k terms).programme.rewards customer = _ ∨ _ ∧
        (s.db.addLedger now k terms).programme.rewards customer = _
      rw [hcount]
      by_cases h : terms.invited.pk = customer
      · rw [← h, hzero]
        exact .inr ⟨rfl, by simp⟩
      · exact .inl (by simp [h])
    · obtain ⟨terms', hterms', hinvited⟩ := rewardTerms_of_due ho hp hd
      obtain rfl : terms = terms' := Option.some.inj (hterms.symm.trans hterms')
      change (s.db.addLedger now k terms).programme.rewards customer ≠ 0
      rw [hcount, if_pos hinvited]
      omega

end Qasedak.Orders
