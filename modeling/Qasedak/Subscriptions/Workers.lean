import Qasedak.Subscriptions.Feeds
import Qasedak.Foundation.Fence

/-! Workers that renew one feed at the same time. Each transaction, each fetch and each reading of
the clock is a step of its own, and the steps of the workers come in any order. -/

namespace Qasedak.Subscriptions

open Foundation Store

/-- How far a refresh is. -/
inductive WorkerPhase where
  | idle
  /-- The clock was read for the claim. -/
  | claiming (force : Bool) (minIntervalSeconds : ℕ) (now : Instant)
  | claimed (force : Bool) (token : String)
  /-- The row was read, and the links are to be fetched. -/
  | loaded (force : Bool) (token : String) (row : ExternalSubscriptionFeed)
  | judged (force : Bool) (token : String) (row : ExternalSubscriptionFeed) (write : RefreshWrite)
  /-- The clock was read for the write, which waits for its locks. -/
  | writing (force : Bool) (token : String) (row : ExternalSubscriptionFeed) (write : RefreshWrite)
      (now : Instant)
  /-- All that is left is the release; no answer is an exception. -/
  | finished (token : String) (answer : Option ExternalSubscriptionRefreshSummary)
  deriving DecidableEq, Repr

/-- The token that a worker has claimed with. -/
def WorkerPhase.token : WorkerPhase → Option String
  | .idle => none
  | .claiming .. => none
  | .claimed _ token => some token
  | .loaded _ token _ => some token
  | .judged _ token _ _ => some token
  | .writing _ token _ _ _ => some token
  | .finished token _ => some token

/-- The database, the clock and the workers; `used` are the tokens that were drawn. -/
structure RefreshSystem where
  db : CupDb
  clock : Instant := 0
  phase : ℕ → WorkerPhase := fun _ => .idle
  used : List String := []

inductive RefreshStep where
  | tick (clock : Instant)
  | start (w : ℕ) (force : Bool) (minIntervalSeconds : ℕ)
  | claim (w : ℕ) (token : String)
  | load (w : ℕ)
  | fetch (w : ℕ) (fetched : Except String (List String))
  | begin (w : ℕ)
  | write (w : ℕ)
  /-- An exception ends the refresh of a worker. -/
  | raise (w : ℕ)
  | release (w : ℕ)
  /-- The process of a worker is gone, and nothing is released. -/
  | crash (w : ℕ)
  /-- Something else writes. -/
  | other (db : CupDb)

/-- The worker whose step it is. -/
def RefreshStep.worker : RefreshStep → Option ℕ
  | .tick _ => none
  | .start w _ _ => some w
  | .claim w _ => some w
  | .load w => some w
  | .fetch w _ => some w
  | .begin w => some w
  | .write w => some w
  | .raise w => some w
  | .release w => some w
  | .crash w => some w
  | .other _ => none

/-- The token and the lease of a feed's row. -/
def CupDb.leaseOf (db : CupDb) (feed : ℕ) : Option (String × Option Instant) :=
  (db.feeds.get? feed).map fun f => (f.refreshToken, f.refreshLeaseUntil)

namespace RefreshSystem

variable (filterNativeConfigs : List String → FilterPolicy → NativeConfigFilterResult) (feed : ℕ)
  (s : RefreshSystem)

def moved (w : ℕ) (phase : WorkerPhase) : RefreshSystem :=
  { s with phase := Function.update s.phase w phase }

/-- The claim of a worker under the row's lock. -/
def claimStep (w : ℕ) (token : String) : RefreshSystem :=
  match s.phase w with
  | .claiming force minIntervalSeconds now =>
      match claimFeed feed force minIntervalSeconds token now s.clock s.db with
      | some (.ok db) =>
          { s.moved w (.claimed force token) with
            db := db
            used := token :: s.used }
      | some (.error _) => s.moved w .idle
      | none => s.moved w .idle
  | _ => s

/-- The row is read again after the claim. -/
def loadStep (w : ℕ) : RefreshSystem :=
  match s.phase w with
  | .claimed force token =>
      match s.db.feeds.get? feed with
      | none => s.moved w (.finished token none)
      | some row =>
          if row.isDisabled && !force then
            s.moved w (.finished token (some
              { feed := row.pk
                ok := false
                status := .disabled
                skipped := true
                currentItemCount := s.db.sourceOwnedCupItemCount row
                errorCode := "external_feed_disabled" }))
          else s.moved w (.loaded force token row)
  | _ => s

def fetchStep (w : ℕ) (fetched : Except String (List String)) : RefreshSystem :=
  match s.phase w with
  | .loaded force token row =>
      s.moved w (.judged force token row (judgeFetch filterNativeConfigs row fetched force s.db))
  | _ => s

def beginStep (w : ℕ) : RefreshSystem :=
  match s.phase w with
  | .judged force token row write => s.moved w (.writing force token row write s.clock)
  | _ => s

def writeStep (w : ℕ) : RefreshSystem :=
  match s.phase w with
  | .writing force token row write now =>
      match writeRefresh row write force (some token) now s.clock s.db with
      | none => s.moved w (.finished token none)
      | some (summary, db) => { s.moved w (.finished token (some summary)) with db := db }
  | _ => s

def raiseStep (w : ℕ) : RefreshSystem :=
  match s.phase w with
  | .claimed _ token => s.moved w (.finished token none)
  | .loaded _ token _ => s.moved w (.finished token none)
  | .judged _ token _ _ => s.moved w (.finished token none)
  | .writing _ token _ _ _ => s.moved w (.finished token none)
  | _ => s

def releaseStep (w : ℕ) : RefreshSystem :=
  match s.phase w with
  | .finished token _ => { s.moved w .idle with db := releaseFeed feed token s.db }
  | _ => s

def step : RefreshStep → RefreshSystem
  | .tick clock => { s with clock := clock }
  | .start w force minIntervalSeconds =>
      match s.phase w with
      | .idle => s.moved w (.claiming force minIntervalSeconds s.clock)
      | _ => s
  | .claim w token => s.claimStep feed w token
  | .load w => s.loadStep feed w
  | .fetch w fetched => s.fetchStep filterNativeConfigs w fetched
  | .begin w => s.beginStep w
  | .write w => s.writeStep w
  | .raise w => s.raiseStep w
  | .release w => s.releaseStep feed w
  | .crash w => s.moved w .idle
  | .other db => { s with db := db }

/-- Time goes on, a token is drawn once and is not empty, and nothing but a refresh writes the
feed's token and lease. -/
def Allowed : RefreshStep → Prop
  | .tick clock => s.clock ≤ clock
  | .claim _ token => token ∉ s.used ∧ token ≠ ""
  | .other db => db.leaseOf feed = s.db.leaseOf feed
  | _ => True

instance (a : RefreshStep) : Decidable (s.Allowed feed a) :=
  match a with
  | .tick clock => inferInstanceAs (Decidable (s.clock ≤ clock))
  | .claim _ token => inferInstanceAs (Decidable (token ∉ s.used ∧ token ≠ ""))
  | .other db => inferInstanceAs (Decidable (db.leaseOf feed = s.db.leaseOf feed))
  | .start .. => inferInstanceAs (Decidable True)
  | .load _ => inferInstanceAs (Decidable True)
  | .fetch .. => inferInstanceAs (Decidable True)
  | .begin _ => inferInstanceAs (Decidable True)
  | .write _ => inferInstanceAs (Decidable True)
  | .raise _ => inferInstanceAs (Decidable True)
  | .release _ => inferInstanceAs (Decidable True)
  | .crash _ => inferInstanceAs (Decidable True)

/-- At the start no worker is under way. -/
structure Started : Prop where
  idle : ∀ w, s.phase w = .idle
  blank : "" ∉ s.used

end RefreshSystem

end Qasedak.Subscriptions
