import Qasedak.WizwizImport.Model
import Mathlib.Data.List.Infix

/-! The analysis of a dump: every row is valid, invalid or a duplicate. -/

namespace Qasedak.WizwizImport

open Foundation Store

/-! ## The analysis -/

section Analyze

variable (engine : Engine) (job : ImportJob)

/-- `_row_status_for_normalized`, for the bot user and the customer that were found. -/
def filterReason (user : NormalizedUser) : Option String :=
  if job.skipAdmins ∧ user.isAdmin then some "skipped_admin"
  else if user.isAgent ∧ ¬ job.importAgents then some "skipped_agent"
  else if job.onlyAgents ∧ ¬ user.isAgent then some "skipped_filter_only_agents"
  else if job.onlyWalletPositive ∧ (∀ wallet ∈ user.wallet, wallet ≤ 0) then
    some "skipped_filter_wallet"
  else none

/-- What `_row_status_for_normalized` returns. -/
structure RowPlan where
  status : RowStatus
  reason : String
  botUser : Option ℕ := none
  customer : Option ℕ := none
  wouldCreateBotUser : Bool := false
  wouldCreateCustomer : Bool := false
  deriving DecidableEq, Repr

/-- `_row_status_for_normalized`. -/
def rowPlan (db : ImportDb) (user : NormalizedUser) : RowPlan :=
  match filterReason job user with
  | some reason => { status := .skipped, reason := reason }
  | none =>
      let botUser := db.findExistingBotUser user.telegramUserId db.defaultTelegramBotConfig
      let customer := db.findCustomer user botUser
      let (status, reason) := match botUser with
        | some b =>
            if b.customer ≠ none then (RowStatus.existing, "existing_bot_user")
            else (if job.createCustomers then .wouldLinkExisting else .existing,
              "existing_bot_user_without_customer")
        | none => (.wouldCreate, "new_bot_user")
      { status := status
        reason := reason
        botUser := botUser.map (·.pk)
        customer := customer
        wouldCreateBotUser := botUser = none
        wouldCreateCustomer := customer = none ∧ job.createCustomers }

/-- The id under which `_create_invalid_row` stores a row, the `sequence`-th of its dump. -/
def invalidRowId (telegramUserId : String) (sequence : ℕ) : String :=
  if telegramUserId = "" ∨ telegramUserId = "0" ∨ telegramUserId = "None" then
    "invalid:" ++ toString sequence
  else telegramUserId

/-- The row of `_create_invalid_row`. -/
def invalidRow (telegramUserId legacyPk reason : String) (sequence : ℕ) : ImportRow where
  job := job.pk
  telegramUserId := invalidRowId telegramUserId sequence
  legacyPk := legacyPk
  status := .invalid
  reason := reason

def validRow (db : ImportDb) (user : NormalizedUser) : ImportRow :=
  let plan := rowPlan job db user
  { job := job.pk
    telegramUserId := user.telegramUserId
    legacyPk := user.legacyPk
    oldUsername := user.username
    oldWallet := user.wallet
    oldIsAdmin := user.isAdmin
    oldIsAgent := user.isAgent
    oldFreetrial := user.freetrial
    oldRefcode := user.refcode
    oldReferedBy := user.referedBy
    status := plan.status
    reason := plan.reason
    botUser := plan.botUser
    customer := plan.customer }

def count (c : Bool) : ℕ := if c then 1 else 0

/-- The counters after a valid row. -/
def Counters.addValid (c : Counters) (user : NormalizedUser) (plan : RowPlan) : Counters :=
  { c with
    valid := c.valid + 1
    admins := c.admins + count user.isAdmin
    agents := c.agents + count user.isAgent
    walletPositive := c.walletPositive + count (user.wallet.any (0 < ·))
    skipped := c.skipped + count (plan.status = .skipped)
    existingBotUsers := c.existingBotUsers + count plan.botUser.isSome
    existingCustomers := c.existingCustomers + count plan.customer.isSome
    wouldCreateBotUsers := c.wouldCreateBotUsers + count plan.wouldCreateBotUser
    wouldCreateCustomers := c.wouldCreateCustomers + count plan.wouldCreateCustomer }

/-- The loop of `analyze_wizwiz_import_job` between two rows. -/
structure Analysis where
  db : ImportDb
  seen : List String := []
  counters : Counters := {}

def analyzeRow (s : Analysis) (row : DumpRow) : Except DbError Analysis :=
  let counters := { s.counters with parsed := s.counters.parsed + 1 }
  match normalizeRow row with
  | .invalid telegramUserId legacyPk reason _ => do
      let db ← s.db.createRow engine
        (invalidRow job telegramUserId legacyPk reason counters.parsed)
      return { s with
        db := db
        counters := { counters with invalid := counters.invalid + 1 } }
  | .valid user =>
      if user.telegramUserId ∈ s.seen then
        .ok { s with counters := { counters with duplicates := counters.duplicates + 1 } }
      else do
        let db ← s.db.createRow engine (validRow job s.db user)
        return {
          db := db
          seen := user.telegramUserId :: s.seen
          counters := counters.addValid user (rowPlan job s.db user) }

/-- The rows that were created before an error stay. -/
def analyzeRows (s : Analysis) : List DumpRow → Analysis × Option DbError
  | [] => (s, none)
  | row :: rows =>
      if job.limit ≠ 0 ∧ job.limit ≤ s.counters.valid then (s, none)
      else
        match analyzeRow engine job s row with
        | .error e => (s, some e)
        | .ok s' => analyzeRows s' rows

def Counters.Fit (engine : Engine) (c : Counters) : Prop := ∀ n ∈ c.all, engine.FitsInt n

instance (engine : Engine) (c : Counters) : Decidable (c.Fit engine) :=
  inferInstanceAs (Decidable (∀ n ∈ c.all, _))

/-- `analyze_wizwiz_import_job` of the rows of the file. -/
def analyze (rows : List DumpRow) (db : ImportDb) : ImportDb × ImportJob × Option DbError :=
  if job.status = .applying then
    (db, job, some (.validationError "Cannot analyze a job while it is applying."))
  else if ¬ job.hasFile then
    (db, job, some (.validationError "No SQL file is attached to this import job."))
  else
    match analyzeRows engine job { db := db.deleteRows job.pk } rows with
    | (s, some e) => (s.db, { job with status := .failed }, some e)
    | (s, none) =>
        if ¬ s.counters.Fit engine then (s.db, { job with status := .failed }, some .dataError)
        else
          (s.db, { job with status := .analyzed, counters := s.counters, summary := {} }, none)

end Analyze

/-! ## Outcomes -/

/-- The outcomes of a row. -/
inductive RowOutcome where
  | valid
  | invalid
  | duplicate
  deriving DecidableEq, Repr

/-- The rows that an analysis looks at, each with its outcome, where `valid` rows were valid and the
users `seen` so far. -/
def outcomes (limit : ℕ) : ℕ → List String → List DumpRow → List (DumpRow × RowOutcome)
  | _, _, [] => []
  | valid, seen, row :: rows =>
      if limit ≠ 0 ∧ limit ≤ valid then []
      else
        match normalizeRow row with
        | .invalid .. => (row, .invalid) :: outcomes limit valid seen rows
        | .valid user =>
            if user.telegramUserId ∈ seen then (row, .duplicate) :: outcomes limit valid seen rows
            else (row, .valid) :: outcomes limit (valid + 1) (user.telegramUserId :: seen) rows

/-- The row that is stored for a row of the dump, the `sequence`-th. -/
def storedRow (job : ImportJob) (db : ImportDb) (o : DumpRow × RowOutcome) (sequence : ℕ) :
    Option ImportRow :=
  match normalizeRow o.1, o.2 with
  | .invalid telegramUserId legacyPk reason _, .invalid =>
      some (invalidRow job telegramUserId legacyPk reason sequence)
  | .valid user, .valid => some (validRow job db user)
  | _, _ => none

/-- The rows that are stored for the rows of a dump after the first `parsed` ones. -/
def storedRows (job : ImportJob) (db : ImportDb) (parsed : ℕ) (l : List (DumpRow × RowOutcome)) :
    List ImportRow :=
  (l.zipIdx (parsed + 1)).filterMap fun o => storedRow job db o.1 o.2

end Qasedak.WizwizImport
