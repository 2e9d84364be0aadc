import Qasedak.Orders.Db
import Mathlib.Data.List.MinMax
import Mathlib.Data.String.Basic

/-! `create_referral_reward_for_order`: the gift package that a customer earns by the purchase
of somebody they invited. -/

namespace Qasedak.Orders

open Foundation Store

/-! ## Eligibility -/

/-- `get_referral_store`: the store of the order, else the first active one, else the first,
by name. -/
def getReferralStore (stores : Stores) (store : Option ℕ) : Option StoreRow :=
  (store.bind stores.get?) <|> (stores.rows.filter (·.isActive)).argmin (·.name) <|>
    stores.rows.argmin (·.name)

/-- The order counts as a successful purchase. -/
def isSuccessful (o : Order) : Bool :=
  o.status = .completed && o.verificationStatus = .verified

/-- The order was approved automatically, and nobody confirmed its payment yet. -/
def awaitsReview (db : Db) (order : ℕ) : Bool :=
  (db.automations.get? order).any fun a => a.autoApprovedAt.isSome && a.reviewStatus ≠ .verified

def hasPreviousSuccessfulOrder (db : Db) (customer order : ℕ) : Bool :=
  db.orders.rows.any fun o => o.customer = some customer && isSuccessful o && o.pk ≠ order

/-- What an eligible order earns, and for whom. -/
structure RewardTerms where
  inviter : ℕ
  invited : Customer
  rewardGb : ℕ
  rewardDurationDays : ℕ

/-- The checks of `create_referral_reward_for_order`. -/
def rewardTerms (db : Db) (o : Order) : Option RewardTerms :=
  match o.customer.bind db.customers.get? with
  | none => none
  | some invited =>
      if ¬ isSuccessful o ∨ awaitsReview db o.pk then none
      else match invited.referredBy, getReferralStore db.stores o.store with
        | some inviter, some store =>
            if inviter = invited.pk ∨ ¬ store.referralSystemEnabled then none
            else if store.referralRewardGb = 0 ∨ store.referralRewardDurationDays = 0 then none
            else if store.referralMinOrderRequired ∧
                hasPreviousSuccessfulOrder db invited.pk o.pk then none
            else some {
              inviter := inviter
              invited := invited
              rewardGb := store.referralRewardGb
              rewardDurationDays := store.referralRewardDurationDays }
        | _, _ => none

/-! ## The reward -/

def newReferral (db : Db) (terms : RewardTerms) : Referral where
  pk := db.referrals.nextKey
  referrer := terms.inviter
  referredCustomer := terms.invited.pk
  referralCode :=
    if terms.invited.referralCodeUsed ≠ "" then terms.invited.referralCodeUsed
    else ((db.customers.get? terms.inviter).map (·.referralCode)).getD ""

theorem newReferral_pk (db : Db) (terms : RewardTerms) :
    (newReferral db terms).pk = db.referrals.nextKey := rfl

def markPurchased (now : Instant) (order : ℕ) (r : Referral) : Referral :=
  if r.status = .purchased then r
  else { r with status := .purchased, firstOrder := some order, purchasedAt := some now }

theorem markPurchased_pk (now : Instant) (order : ℕ) (r : Referral) :
    (markPurchased now order r).pk = r.pk := by
  unfold markPurchased
  split <;> rfl

/-- The referral of the invited customer, which is made where it is missing, is a purchase. -/
def Db.recordPurchase (db : Db) (now : Instant) (order : ℕ) (terms : RewardTerms) : Db :=
  match db.referrals.rows.find? fun r => r.referredCustomer = terms.invited.pk with
  | some r =>
      { db with
        referrals := db.referrals.modify r.pk (markPurchased now order)
          (markPurchased_pk now order) }
  | none =>
      { db with
        referrals := (db.referrals.insert (newReferral db terms) (newReferral_pk db terms)).modify
          db.referrals.nextKey (markPurchased now order) (markPurchased_pk now order) }

def newLedger (db : Db) (now : Instant) (order : ℕ) (terms : RewardTerms) :
    ReferralRewardLedger where
  pk := db.ledgers.nextKey
  inviter := terms.inviter
  invited := terms.invited.pk
  order := order
  rewardGb := terms.rewardGb
  rewardDurationDays := terms.rewardDurationDays
  status := .available
  availableAt := some now

theorem newLedger_pk (db : Db) (now : Instant) (order : ℕ) (terms : RewardTerms) :
    (newLedger db now order terms).pk = db.ledgers.nextKey := rfl

def Db.addLedger (db : Db) (now : Instant) (order : ℕ) (terms : RewardTerms) : Db :=
  { db with
    ledgers := db.ledgers.insert (newLedger db now order terms) (newLedger_pk db now order terms) }

/-- The package of an invited customer. -/
def rewardOf (db : Db) (invited : ℕ) : Option ReferralRewardLedger :=
  db.ledgers.rows.find? fun l => l.invited = invited

/-- `create_referral_reward_for_order`. -/
def createReferralRewardForOrder (now : Instant) (order : ℕ) :
    ShopM (Option ReferralRewardLedger) :=
  Prog.atomic do
    let o ← getOrder order
    let db ← Prog.readDb id
    match rewardTerms db o with
    | none => return none
    | some terms =>
        match rewardOf db terms.invited.pk with
        | some existing => return some existing
        | none => do
            Prog.writeDb (·.recordPurchase now order terms)
            Prog.writeDb (·.addLedger now order terms)
            return some (newLedger db now order terms)

/-- The call after an approval, whose errors are logged and dropped. -/
def rewardReferrer (now : Instant) (order : ℕ) : ShopM Unit :=
  Prog.onError (do
    let _ ← createReferralRewardForOrder now order
    return) (fun _ => return)

/-! ## What a reward writes -/

theorem recordPurchase_eq (db : Db) (now : Instant) (order : ℕ) (terms : RewardTerms) :
    ∃ referrals, db.recordPurchase now order terms = { db with referrals := referrals } := by
  unfold Db.recordPurchase
  split
  · exact ⟨_, rfl⟩
  · exact ⟨_, rfl⟩

/-- The order earns nothing, or its reward is there, or it is written. -/
theorem wp_createReferralRewardForOrder {now : Instant} {k : ℕ} {o : Order} {s : Shop}
    {Q : Option ReferralRewardLedger → Shop → Prop} {X : Halt String → Shop → Prop}
    (ho : s.db.orders.get? k = some o) (hnone : rewardTerms s.db o = none → Q none s)
    (hold : ∀ terms l, rewardTerms s.db o = some terms →
      rewardOf s.db terms.invited.pk = some l → Q (some l) s)
    (hnew : ∀ terms referrals, rewardTerms s.db o = some terms →
      rewardOf s.db terms.invited.pk = none →
      Q (some (newLedger s.db now k terms))
        { s with db := { s.db with
            referrals := referrals
            ledgers := (s.db.addLedger now k terms).ledgers } }) :
    Prog.wp (createReferralRewardForOrder now k) Q X s := by
  unfold createReferralRewardForOrder getOrder
  simp only [Prog.wp_atomic, Prog.wp_bind, Prog.wp_readDb, Prog.wp_orRaise, ho, id_eq]
  cases hterms : rewardTerms s.db o with
  | none => exact hnone hterms
  | some terms =>
      dsimp only
      cases hreward : rewardOf s.db terms.invited.pk with
      | some l => exact hold terms l hterms hreward
      | none =>
          simp only [Prog.wp_bind, Prog.wp_writeDb]
          obtain ⟨referrals, hreferrals⟩ := recordPurchase_eq s.db now k terms
          rw [hreferrals]
          exact hnew terms referrals hterms hreward

/-- A reward changes the referrals and the packages, and nothing else. -/
theorem wp_rewardReferrer_frame {now : Instant} {k : ℕ} {s : Shop} {Q : Unit → Shop → Prop}
    {X : Halt String → Shop → Prop}
    (hQ : ∀ referrals ledgers,
      Q () { s with db := { s.db with referrals := referrals, ledgers := ledgers } }) :
    Prog.wp (rewardReferrer now k) Q X s := by
  unfold rewardReferrer
  rw [Prog.wp_onError, Prog.wp_bind]
  cases ho : s.db.orders.get? k with
  | none =>
      unfold createReferralRewardForOrder getOrder
      simp only [Prog.wp_atomic, Prog.wp_bind, Prog.wp_readDb, Prog.wp_orRaise, ho]
      exact hQ s.db.referrals s.db.ledgers
  | some o =>
      refine wp_createReferralRewardForOrder ho (fun _ => ?_) (fun _ _ _ _ => ?_)
        (fun _ _ _ _ => ?_)
      · exact hQ s.db.referrals s.db.ledgers
      · exact hQ s.db.referrals s.db.ledgers
      · exact hQ _ _

end Qasedak.Orders
