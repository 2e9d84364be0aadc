import Qasedak.Foundation.Run
import Qasedak.Panels.ReferralTraffic

/-! `redeem_referral_rewards`: the available gift packages of a customer are spent on one of
their services. The packages and the panel's limit move together where the panel's client
has a limit; a client without one is given a limit by the gift. -/

namespace Qasedak.Orders

open Foundation Store Panels

/-- `ReferralRedeemResult`; the text of a success is not modelled. -/
structure ReferralRedeemResult where
  success : Bool
  message : String := ""
  rewardGb : ℕ := 0
  rewardDurationDays : ℕ := 0
  rewardCount : ℕ := 0
  vpnConfig : Option ℕ := none
  deriving DecidableEq, Repr

def redeemRefused (message : String) : ReferralRedeemResult := { success := false, message }

/-- The service that a gift is redeemed on: it is active and the customer's own. -/
def redeemableConfig (db : Db) (customer config : ℕ) : Option VPNClient :=
  (db.clients.get? config).filter fun c =>
    ((c.order.bind db.orders.get?).any fun o => o.customer = some customer) && c.status = .active

/-- The packages that the customer can redeem. -/
def availableRewards (db : Db) (customer : ℕ) : List ReferralRewardLedger :=
  db.ledgers.rows.filter fun l => l.inviter = customer ∧ l.status = .available

def totalGb (rewards : List ReferralRewardLedger) : ℕ := (rewards.map (·.rewardGb)).sum

def totalDays (rewards : List ReferralRewardLedger) : ℕ :=
  (rewards.map (·.rewardDurationDays)).sum

/-- `calculate_referral_expiry`, for a service whose time is limited. -/
def calculateReferralExpiry (now : Instant) (c : VPNClient) (days : ℕ) (result : TrafficResult) :
    Option Instant :=
  match result.expiryAt with
  | some expiry => some expiry
  | none =>
      if days = 0 then c.expiresAt
      else some (max now (c.expiresAt.getD now) + daysToMs days * 1000)

/-- The service with the gift. -/
def applyGift (now : Instant) (gb days : ℕ) (result : TrafficResult) (c : VPNClient) : VPNClient :=
  { c with
    trafficLimitBytes :=
      if result.totalTrafficBytes = 0 then c.trafficLimitBytes + bytesFromGb gb
      else result.totalTrafficBytes
    expiresAt :=
      if result.expiryUnlimited then c.expiresAt else calculateReferralExpiry now c days result
    durationDays := if result.expiryUnlimited then c.durationDays else c.durationDays + days }

theorem applyGift_pk (now : Instant) (gb days : ℕ) (result : TrafficResult) (c : VPNClient) :
    (applyGift now gb days result c).pk = c.pk := rfl

/-- A package that was spent on a service. -/
def redeemLedger (now : Instant) (config : ℕ) (l : ReferralRewardLedger) : ReferralRewardLedger :=
  { l with
    status := .redeemed
    redeemedConfig := some config
    redeemedAt := some now
    appliedTrafficGb := l.rewardGb
    appliedDurationDays := l.rewardDurationDays }

/-- The packages of a list are spent. -/
def redeemLedgers (now : Instant) (config : ℕ) (rewards : List ReferralRewardLedger)
    (ledgers : Ledgers) : Ledgers :=
  ledgers.map (fun l => if l.pk ∈ rewards.map (·.pk) then redeemLedger now config l else l) (by
    intro l
    split <;> rfl)

/-- The transaction of `redeem_referral_rewards`. -/
def redeemOn (now : Instant) (customer config : ℕ) : ShopM ReferralRedeemResult :=
  Prog.atomic do
    let db ← Prog.readDb id
    match redeemableConfig db customer config with
    | none => return redeemRefused "این کانفیگ فعال نیست یا به این حساب تعلق ندارد."
    | some c =>
        let rewards := availableRewards db customer
        let rewardGb := totalGb rewards
        let rewardDuration := totalDays rewards
        if rewardGb = 0 then return redeemRefused "در حال حاضر هدیه آماده دریافت نداری."
        else do
          let result ← addClientTraffic now c rewardGb rewardDuration
          match result with
          | none =>
              return redeemRefused
                "افزایش حجم روی پنل X-UI ناموفق بود. کمی بعد دوباره امتحان کن."
          | some result => do
              saveClient c.pk (applyGift now rewardGb rewardDuration result)
                (applyGift_pk now rewardGb rewardDuration result)
              Prog.writeDb fun db =>
                { db with ledgers := redeemLedgers now c.pk rewards db.ledgers }
              return {
                success := true
                rewardGb := rewardGb
                rewardDurationDays := rewardDuration
                rewardCount := rewards.length
                vpnConfig := some c.pk }

/-- `redeem_referral_rewards`. -/
def redeemReferralRewards (now : Instant) (customer config : Option ℕ) :
    ShopM ReferralRedeemResult :=
  match customer, config with
  | none, _ => return redeemRefused "حساب کاربری پیدا نشد."
  | some _, none => return redeemRefused "برای دریافت هدیه ابتدا یک کانفیگ فعال انتخاب کن."
  | some customer, some config => redeemOn now customer config

/-! ## What a gift changes -/

variable {now : Instant} {customer config gb days : ℕ} {s s' : Shop}
  {rewards : List ReferralRewardLedger}

/-- The traffic of the packages that were spent, in thousandths of a gigabyte. -/
def redeemedGb (ledgers : Ledgers) : ℕ :=
  totalGb (ledgers.rows.filter fun l => l.status = .redeemed)

theorem mem_redeemLedgers_of_redeemed {ledgers : Ledgers} {l : ReferralRewardLedger}
    (hl : l ∈ ledgers.rows) (hpk : l.pk ∉ rewards.map (·.pk)) :
    l ∈ (redeemLedgers now config rewards ledgers).rows :=
  List.mem_map.mpr ⟨l, hl, if_neg hpk⟩

/-- A spent package is not available, under whatever key. -/
theorem not_mem_availableRewards {db : Db} {l : ReferralRewardLedger} (hl : l ∈ db.ledgers.rows)
    (hredeemed : l.status = .redeemed) : l.pk ∉ (availableRewards db customer).map (·.pk) := by
  intro hmem
  obtain ⟨l', hl', hpk⟩ := List.mem_map.mp hmem
  obtain ⟨hrow, havailable⟩ := List.mem_filter.mp hl'
  obtain rfl : l' = l := List.inj_on_of_nodup_map db.ledgers.keys_nodup hrow hl hpk
  simp [hredeemed] at havailable

theorem mem_availableRewards_pk {db : Db} {l : ReferralRewardLedger} (hl : l ∈ db.ledgers.rows) :
    l.pk ∈ (availableRewards db customer).map (·.pk) ↔
      l.inviter = customer ∧ l.status = .available := by
  constructor
  · intro hmem
    obtain ⟨l', hl', hpk⟩ := List.mem_map.mp hmem
    obtain ⟨hrow, havailable⟩ := List.mem_filter.mp hl'
    obtain rfl : l' = l := List.inj_on_of_nodup_map db.ledgers.keys_nodup hrow hl hpk
    simpa using havailable
  · intro h
    exact List.mem_map_of_mem (List.mem_filter.mpr ⟨hl, by simpa using h⟩)

/-- What the packages of a list add to the spent ones. -/
theorem redeemedGb_of_rows (rows : List ReferralRewardLedger) (P : ReferralRewardLedger → Prop)
    [DecidablePred P] (hP : ∀ l ∈ rows, P l → l.status = .available) :
    totalGb ((rows.map fun l => if P l then redeemLedger now config l else l).filter
        fun l => l.status = .redeemed) =
      totalGb (rows.filter fun l => l.status = .redeemed) + totalGb (rows.filter fun l => P l) := by
  unfold totalGb
  induction rows with
  | nil => simp
  | cons l rows ih =>
      have hrest := ih fun x hx => hP x (List.mem_cons_of_mem _ hx)
      by_cases hl : P l
      · have hstatus : l.status = .available := hP l List.mem_cons_self hl
        simp only [List.map_cons, List.filter_cons, hstatus, hl, decide_true, if_true,
          List.sum_cons, redeemLedger, reduceCtorEq, decide_false, Bool.false_eq_true,
          if_false] at hrest ⊢
        omega
      · by_cases hredeemed : l.status = .redeemed
        · simp only [List.map_cons, List.filter_cons, hl, hredeemed, decide_true, if_true,
            List.sum_cons, decide_false, Bool.false_eq_true, if_false] at hrest ⊢
          omega
        · simp only [List.map_cons, List.filter_cons, hl, hredeemed, decide_false,
            Bool.false_eq_true, if_false] at hrest ⊢
          exact hrest

theorem redeemedGb_redeemLedgers (db : Db) (customer config : ℕ) :
    redeemedGb (redeemLedgers now config (availableRewards db customer) db.ledgers) =
      redeemedGb db.ledgers + totalGb (availableRewards db customer) := by
  have hrows : (redeemLedgers now config (availableRewards db customer) db.ledgers).rows =
      db.ledgers.rows.map fun l =>
        if l.inviter = customer ∧ l.status = .available then redeemLedger now config l else l :=
    List.map_congr_left fun l hl => if_congr (mem_availableRewards_pk hl) rfl rfl
  unfold redeemedGb
  rw [hrows]
  exact redeemedGb_of_rows db.ledgers.rows (fun l => l.inviter = customer ∧ l.status = .available)
    fun l _ h => h.2

/-- Whole bytes are neither lost nor won. -/
theorem bytesFromGb_whole (h : 125 ∣ gb) : 1000 * bytesFromGb gb = 1024 ^ 3 * gb := by
  obtain ⟨n, rfl⟩ := h
  unfold bytesFromGb
  omega

/-! ## One call -/

/-- A call of the programme, with the fate of its requests to the panel. -/
structure Redemption where
  now : Instant
  customer : Option ℕ
  config : Option ℕ
  signals : List Signal := []
  deriving DecidableEq, Repr

def Redemption.outcome (s : Shop) (op : Redemption) :
    Except (Halt String) ReferralRedeemResult × Shop :=
  redeemReferralRewards op.now op.customer op.config { s with signals := op.signals }

def redeemStep (s : Shop) (op : Redemption) : Shop := (op.outcome s).2

/-- The call says that the packages were redeemed. -/
def Redemption.Succeeds (s : Shop) (op : Redemption) : Prop :=
  (op.outcome s).1.toOption.any (·.success) = true

instance (s : Shop) (op : Redemption) : Decidable (op.Succeeds s) :=
  inferInstanceAs (Decidable (_ = true))

/-- The requests happen or fail without effect; the service is one client of the panel whose
traffic is limited; and the packages come to whole bytes. -/
structure Redemption.Measured (s : Shop) (op : Redemption) : Prop where
  plain : Plain op.signals
  limited : ∀ customer ∈ op.customer, ∀ config ∈ op.config,
    ∀ c ∈ redeemableConfig s.db customer config, ∀ t ∈ giftTarget s c,
      t.Limited c s.remote.clients
  whole : ∀ customer ∈ op.customer, 125 ∣ totalGb (availableRewards s.db customer)

instance (s : Shop) (op : Redemption) : Decidable (op.Measured s) :=
  decidable_of_iff
    (Plain op.signals ∧
      (∀ customer ∈ op.customer, ∀ config ∈ op.config,
        ∀ c ∈ redeemableConfig s.db customer config, ∀ t ∈ giftTarget s c,
          t.Limited c s.remote.clients) ∧
      ∀ customer ∈ op.customer, 125 ∣ totalGb (availableRewards s.db customer))
    ⟨fun h => ⟨h.1, h.2.1, h.2.2⟩, fun h => ⟨h.1, h.2, h.3⟩⟩

/-- What a call did: the panels have what the packages are worth, spent packages stay as they
are, and a call that failed did nothing. -/
structure Redemption.Exact (s : Shop) (op : Redemption) : Prop where
  added : 1000 * panelTraffic (redeemStep s op).remote + 1024 ^ 3 * redeemedGb s.db.ledgers =
    1000 * panelTraffic s.remote + 1024 ^ 3 * redeemedGb (redeemStep s op).db.ledgers
  once : ∀ l ∈ s.db.ledgers.rows, l.status = .redeemed → l ∈ (redeemStep s op).db.ledgers.rows
  spares : ¬ op.Succeeds s →
    (redeemStep s op).db = s.db ∧ (redeemStep s op).remote = s.remote

/-- The gift of all available packages was added to a service, and they were spent. -/
structure GiftApplied (now : Instant) (customer config : ℕ) (s s' : Shop) (c : VPNClient)
    (t : GiftTarget) : Prop where
  config : redeemableConfig s.db customer config = some c
  target : giftTarget s c = some t
  remote : s'.remote =
    { s.remote with
      clients := giftedClients now c (totalGb (availableRewards s.db customer))
        (totalDays (availableRewards s.db customer)) t s.remote.clients }
  ledgers : s'.db.ledgers =
    redeemLedgers now c.pk (availableRewards s.db customer) s.db.ledgers

/-- A call redeems nothing, or adds what the available packages are worth and spends them. -/
theorem wp_redeemOn {X : Halt String → Shop → Prop} (hplain : Plain s.signals) :
    Prog.wp (redeemOn now customer config)
      (fun r s' => r.success = false ∧ s'.db = s.db ∧ s'.remote = s.remote ∨
        r.success = true ∧ ∃ c t, GiftApplied now customer config s s' c t) X s := by
  unfold redeemOn
  simp only [Prog.wp_atomic, Prog.wp_bind, Prog.wp_readDb, id_eq]
  cases hconfig : redeemableConfig s.db customer config with
  | none => exact .inl ⟨rfl, rfl, rfl⟩
  | some c =>
      dsimp only
      split
      · exact .inl ⟨rfl, rfl, rfl⟩
      rw [Prog.wp_bind]
      refine wp_addClientTraffic hplain (fun s' hdb hremote => .inl ⟨rfl, hdb, hremote⟩)
        fun t s' ht hdb hremote => ?_
      unfold saveClient
      simp only [Prog.wp_bind, Prog.wp_writeDb, Prog.wp_pure]
      have hledgers : s'.db.ledgers = s.db.ledgers := by rw [hdb]
      exact .inr ⟨trivial, c, t, hconfig, ht, hremote, by simp [Db.setClient, hledgers]⟩

theorem wp_redeemReferralRewards {X : Halt String → Shop → Prop} {customer config : Option ℕ}
    (hplain : Plain s.signals) :
    Prog.wp (redeemReferralRewards now customer config)
      (fun r s' => r.success = false ∧ s'.db = s.db ∧ s'.remote = s.remote ∨
        r.success = true ∧ ∃ k ∈ customer, ∃ j ∈ config, ∃ c t, GiftApplied now k j s s' c t)
      X s := by
  cases customer with
  | none => exact .inl ⟨rfl, rfl, rfl⟩
  | some k =>
      cases config with
      | none => exact .inl ⟨rfl, rfl, rfl⟩
      | some j =>
          refine Prog.wp_mono (wp_redeemOn hplain) (fun r s' h => ?_) fun _ _ h => h
          rcases h with hrefused | ⟨hsuccess, hgift⟩
          · exact .inl hrefused
          · exact .inr ⟨hsuccess, k, rfl, j, rfl, hgift⟩

/-- Every call ends, with nothing done or with a gift applied. -/
theorem redeemStep_cases {op : Redemption} (hplain : Plain op.signals) :
    (¬ op.Succeeds s ∧ (redeemStep s op).db = s.db ∧ (redeemStep s op).remote = s.remote) ∨
      op.Succeeds s ∧ ∃ k ∈ op.customer, ∃ j ∈ op.config, ∃ c t,
        GiftApplied op.now k j { s with signals := op.signals } (redeemStep s op) c t := by
  have h := @wp_redeemReferralRewards op.now ({ s with signals := op.signals }) (fun _ _ => False) op.customer op.config hplain
  unfold Prog.wp at h
  unfold Redemption.Succeeds redeemStep Redemption.outcome
  cases hrun : redeemReferralRewards op.now op.customer op.config
      { s with signals := op.signals } with
  | mk r s' =>
      rw [hrun] at h
      cases r with
      | error e => exact h.elim
      | ok r =>
          rcases h with ⟨hrefused, hdb, hremote⟩ | ⟨hsuccess, hgift⟩
          · exact .inl ⟨by simp [Except.toOption, hrefused], hdb, hremote⟩
          · exact .inr ⟨hsuccess, hgift⟩

theorem redemption_exact {op : Redemption} (h : op.Measured s) : op.Exact s := by
  rcases redeemStep_cases h.plain with ⟨-, hdb, hremote⟩ | ⟨hsuccess, k, hk, j, hj, c, t, hgift⟩
  · exact ⟨by rw [hdb, hremote], fun l hl _ => by rw [hdb]; exact hl, fun _ => ⟨hdb, hremote⟩⟩
  · have hlimited : t.Limited c s.remote.clients :=
      h.limited k hk j hj c hgift.config t hgift.target
    have hwhole := bytesFromGb_whole (h.whole k hk)
    have hledgers := hgift.ledgers
    refine ⟨?_, fun l hl hredeemed => ?_, fun hfailed => absurd hsuccess hfailed⟩
    · rw [hgift.remote, hledgers, redeemedGb_redeemLedgers]
      have hpanel := @panelTraffic_gifted op.now _ (totalGb (availableRewards s.db k)) (totalDays (availableRewards s.db k)) _ _ hlimited
      dsimp only
      rw [hpanel]
      omega
    · rw [hledgers]
      exact mem_redeemLedgers_of_redeemed hl (not_mem_availableRewards hl hredeemed)

/-! ## Runs -/

theorem balanced_trans {m n a b c x y z : ℕ} (h₁ : m * b + n * x = m * a + n * y)
    (h₂ : m * c + n * y = m * b + n * z) : m * c + n * x = m * a + n * z := by
  omega

/-- Over a run of calls the panels gain what the packages that were spent are worth; every call
is exact, so that a package is spent once and a call that failed changed nothing. -/
theorem redeemed_all_or_nothing {ops : List Redemption}
    (hops : Guarded redeemStep (fun s op => op.Measured s) s ops) :
    1000 * panelTraffic (run redeemStep s ops).remote + 1024 ^ 3 * redeemedGb s.db.ledgers =
        1000 * panelTraffic s.remote +
          1024 ^ 3 * redeemedGb (run redeemStep s ops).db.ledgers ∧
      Guarded redeemStep (fun s op => op.Exact s) s ops := by
  induction ops generalizing s with
  | nil => exact ⟨rfl, trivial⟩
  | cons op ops ih =>
      obtain ⟨hmeasured, hrest⟩ := hops
      have hexact : op.Exact s := redemption_exact hmeasured
      obtain ⟨htotal, hall⟩ := ih hrest
      exact ⟨balanced_trans hexact.added htotal, hexact, hall⟩

/-! ## A client without a limit -/

/-- Customer 9 has a package of 2 GB and 30 days, and a service whose row says 10 GB. -/
def giftShop (remoteTotal : ℕ) : Shop where
  db :=
    { orders := Table.empty.put { pk := 1, customer := some 9, plan := 3, status := .completed }
      sms := .empty
      clients := Table.empty.put
        { pk := 7, order := some 1, plan := some 3, inbound := some 5, username := "ali",
          uuid := some "8c1f", status := .active, trafficLimitBytes := 10 * 1024 ^ 3 }
      inbounds := Table.empty.put { pk := 5, panel := 4, inboundId := 1 }
      panels := Table.empty.put { pk := 4 }
      plans := .empty
      stores := .empty
      automations := .empty
      ledgers := Table.empty.put
        { pk := 6, inviter := 9, invited := 8, order := 2, rewardGb := 2000,
          status := .available } }
  remote :=
    { clients := [{ panel := 4, inbound := 1, id := "8c1f", email := "ali", subId := "s",
                    enable := true, expiryTime := 0, totalGB := remoteTotal, limitIp := 2 }] }

def redeemOnce : Redemption := { now := 0, customer := some 9, config := some 7 }

/-- The panel's client had no limit and has one of 12 GB afterwards, for a package of 2 GB. -/
theorem gift_limits_unlimited :
    redeemOnce.Succeeds (giftShop 0) ∧ Plain redeemOnce.signals ∧
      ((redeemStep (giftShop 0) redeemOnce).remote.clients.map (·.totalGB)) = [12 * 1024 ^ 3] ∧
      redeemedGb (redeemStep (giftShop 0) redeemOnce).db.ledgers = 2000 ∧
      1000 * panelTraffic (redeemStep (giftShop 0) redeemOnce).remote +
          1024 ^ 3 * redeemedGb (giftShop 0).db.ledgers ≠
        1000 * panelTraffic (giftShop 0).remote +
          1024 ^ 3 * redeemedGb (redeemStep (giftShop 0) redeemOnce).db.ledgers := by
  decide +kernel

/-- The first request fails without effect, the second one is answered, and the third call
finds nothing to redeem. -/
def redeemTwice : List Redemption :=
  [{ redeemOnce with signals := [.acknowledged, .notApplied] }, redeemOnce, redeemOnce]

theorem redeemed_all_or_nothing_limited :
    panelTraffic (run redeemStep (giftShop (10 * 1024 ^ 3)) redeemTwice).remote = 12 * 1024 ^ 3 ∧
      Guarded redeemStep (fun s op => op.Exact s) (giftShop (10 * 1024 ^ 3)) redeemTwice := by
  have hops : Guarded redeemStep (fun s op => op.Measured s) (giftShop (10 * 1024 ^ 3))
      redeemTwice := by
    decide +kernel
  exact ⟨by decide +kernel, (redeemed_all_or_nothing hops).2⟩

end Qasedak.Orders
