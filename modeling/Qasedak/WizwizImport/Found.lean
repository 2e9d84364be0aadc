import Qasedak.WizwizImport.Analysis
import Qasedak.WizwizImport.Outcomes

/-! The application of an analyzed dump: bot users and customers are found or created. -/

namespace Qasedak.WizwizImport

open Foundation Store

/-! ## Bot users and customers -/

namespace ImportDb

variable (db : ImportDb)

/-- Time passes. -/
def advance (elapsed : ℕ) : ImportDb :=
  { db with
    clock := db.clock + elapsed
    updated_le b hb := (db.updated_le b hb).trans (Nat.le_add_right _ _) }

/-- `_customer_field_available` of a username. -/
def usernameAvailable (username : String) (excluding : Option ℕ) : Bool :=
  username = "" || db.customers.rows.all fun c => c.username ≠ username || some c.pk = excluding

/-- `_customer_field_available` of a phone number. -/
def phoneAvailable (phone : String) (excluding : Option ℕ) : Bool :=
  phone = "" || db.customers.rows.all fun c => c.phoneNumber ≠ phone || some c.pk = excluding

/-- `value or other`. -/
def orElseText (value other : String) : String := if value = "" then other else value

/-- `Customer.objects.create` with `_build_customer_defaults`: what is not free stays empty, so that
the constraints hold. -/
def addCustomer (user : NormalizedUser) : ImportDb :=
  { db with
    customers := db.customers.append (fun pk =>
      { pk := pk
        username := if db.usernameAvailable user.username none then user.username else ""
        phoneNumber := if db.phoneAvailable user.phone none then user.phone else ""
        displayName := orElseText user.name (orElseText user.username user.phone) }) fun _ => rfl }

/-- The values of `BotUser.objects.create`. -/
def newBotUser (config : ℕ) (customer : Option ℕ) (telegramUserId : String) (user : NormalizedUser)
    (pk : ℕ) : ImportBotUser where
  pk := pk
  config := config
  customer := customer
  providerUserId := telegramUserId
  chatId := telegramUserId
  username := user.username
  firstName := user.name
  displayName := orElseText user.name user.username
  isActive := true
  lastSeenAt := db.clock
  updatedAt := db.clock

/-- `BotUser.objects.create`. -/
def addBotUser (config : ℕ) (customer : Option ℕ) (telegramUserId : String)
    (user : NormalizedUser) : ImportDb :=
  { db with
    botUsers := db.botUsers.append (db.newBotUser config customer telegramUserId user) fun _ => rfl
    updated_le := by
      intro b hb
      rcases List.mem_append.mp hb with hb | hb
      · exact db.updated_le b hb
      · rw [List.mem_singleton.mp hb]
        exact Nat.le_refl _ }

/-- `save` of a bot user with new values. -/
def saveBotUser (b : ImportBotUser) : ImportDb :=
  { db with
    botUsers := db.botUsers.modify (·.pk = b.pk)
      (fun x => { b with pk := x.pk, updatedAt := db.clock }) fun _ => rfl
    updated_le := by
      intro x hx
      obtain ⟨y, hy, rfl⟩ := Serial.mem_rows_modify.mp hx
      split
      · exact Nat.le_refl _
      · exact db.updated_le y hy }

/-- `save` of a customer with new values. -/
def saveCustomer (c : Customer) : ImportDb :=
  { db with
    customers := db.customers.modify (·.pk = c.pk) (fun x => { c with pk := x.pk }) fun _ => rfl }

end ImportDb

/-! ## One row -/

/-- `_set_if_changed`. -/
def setIfChanged (overwrite : Bool) (value current : String) : String :=
  if value = "" then current
  else if current ≠ "" ∧ overwrite = false then current
  else value

section ImportRow

variable (job : ImportJob) (config : ℕ) (telegramUserId : String) (user : NormalizedUser)

/-- The bot user that was there, with what the dump knows of it. -/
def refreshedBotUser (customer : Option ℕ) (b : ImportBotUser) : ImportBotUser :=
  { b with
    customer := if b.customer = none then customer else b.customer
    username := setIfChanged job.updateExisting user.username b.username
    firstName := setIfChanged job.updateExisting user.name b.firstName
    displayName := setIfChanged job.updateExisting
      (ImportDb.orElseText user.name user.username) b.displayName
    isActive := b.isActive || job.updateExisting }

def refreshedCustomer (db : ImportDb) (c : Customer) : Customer :=
  { c with
    username := if user.username ≠ "" ∧ db.usernameAvailable user.username (some c.pk) then
      setIfChanged job.updateExisting user.username c.username else c.username
    phoneNumber := if user.phone ≠ "" ∧ db.phoneAvailable user.phone (some c.pk) then
      setIfChanged job.updateExisting user.phone c.phoneNumber else c.phoneNumber
    displayName := setIfChanged job.updateExisting
      (ImportDb.orElseText user.name (ImportDb.orElseText user.username user.phone))
      c.displayName }

/-- What the transaction of a row did. -/
structure RowImport where
  db : ImportDb
  botUser : ℕ
  customer : Option ℕ
  createdCustomer : Bool := false
  createdBotUser : Bool := false
  linkedExisting : Bool := false
  updatedExisting : Bool := false

/-- The customer of a row, who is created where there is none and the job creates customers. -/
def importCustomer (db : ImportDb) (botUser : Option ImportBotUser) :
    ImportDb × Option ℕ × Bool :=
  match db.findCustomer user botUser with
  | some customer => (db, some customer, false)
  | none =>
      if job.createCustomers then (db.addCustomer user, some db.customers.next, true)
      else (db, none, false)

/-- The bot user of a row. -/
def importBotUser (db : ImportDb) (botUser : Option ImportBotUser) (customer : Option ℕ) :
    RowImport :=
  match botUser with
  | none =>
      { db := db.addBotUser config customer telegramUserId user
        botUser := db.botUsers.next
        customer := customer
        createdBotUser := true }
  | some b =>
      let refreshed := refreshedBotUser job user customer b
      let linked : Bool := customer ≠ none ∧ b.customer = none
      if refreshed = b then { db := db, botUser := b.pk, customer := customer }
      else
        { db := db.saveBotUser refreshed
          botUser := b.pk
          customer := customer
          linkedExisting := linked
          updatedExisting := !linked }

/-- The customer's own fields. -/
def importCustomerFields (s : RowImport) : RowImport :=
  match s.customer.bind s.db.customers.get? with
  | none => s
  | some c =>
      let refreshed := refreshedCustomer job user s.db c
      if refreshed = c then s
      else
        { s with
          db := s.db.saveCustomer refreshed
          updatedExisting := s.updatedExisting || (!s.createdBotUser && !s.linkedExisting) }

/-- The transaction of `import_wizwiz_row`. -/
def importTransaction (db : ImportDb) : RowImport :=
  let botUser := db.findExistingBotUser telegramUserId (some config)
  let (db', customer, createdCustomer) := importCustomer job user db botUser
  let s := importCustomerFields job user
    (importBotUser job config telegramUserId user db' botUser customer)
  { s with createdCustomer := createdCustomer }

/-- The filters of `import_wizwiz_row`. -/
def rowFilterReason (row : ImportRow) : Option String :=
  if row.oldIsAdmin ∧ job.skipAdmins then some "skipped_admin"
  else if row.oldIsAgent ∧ ¬ job.importAgents then some "skipped_agent"
  else if job.onlyAgents ∧ ¬ row.oldIsAgent then some "skipped_filter_only_agents"
  else if job.onlyWalletPositive ∧ (∀ wallet ∈ row.oldWallet, wallet ≤ 0) then
    some "skipped_filter_wallet"
  else none

/-- `APPLYABLE_ANALYZE_STATUSES`. -/
def RowStatus.applyable : RowStatus → Bool
  | .wouldCreate | .wouldLinkExisting | .existing | .pending | .failed => true
  | _ => false

/-- `import_wizwiz_row`, of a row that is applyable. -/
def importRow (normalized : Option NormalizedUser) (db : ImportDb) (row : ImportRow) :
    ImportDb × ImportRow :=
  match normalized with
  | none => (db, { row with status := .failed, reason := "source_row_not_found" })
  | some user =>
      match rowFilterReason job row with
      | some reason => (db, { row with status := .skipped, reason := reason })
      | none =>
          match db.defaultTelegramBotConfig with
          | none => (db, { row with status := .failed, reason := "missing_telegram_bot_config" })
          | some config =>
              let s := importTransaction job config row.telegramUserId user db
              let (status, reason) :=
                if s.createdBotUser then (RowStatus.created, "created_bot_user")
                else if s.linkedExisting then (.linked, "linked_existing_bot_user")
                else if s.updatedExisting then (.updated, "updated_existing")
                else (.existing, "already_imported")
              (s.db, { row with
                status := status
                reason := reason
                botUser := some s.botUser
                customer := s.customer
                createdCustomer := s.createdCustomer })

end ImportRow

/-! ## Jobs -/

/-- `_normalized_rows_by_user_id`. -/
def normalizedUser (dump : List DumpRow) (telegramUserId : String) : Option NormalizedUser :=
  (dump.filterMap fun row => match normalizeRow row with
    | .valid user => some user
    | .invalid .. => none).find? (·.telegramUserId = telegramUserId)

/-- The loop of `apply_wizwiz_import_job`. -/
def applyRows (job : ImportJob) (dump : List DumpRow) (rows : List ImportRow) (db : ImportDb) :
    ImportDb :=
  rows.foldl (fun db row =>
    let (db, row) := importRow job (normalizedUser dump row.telegramUserId) db row
    db.saveRow row) db

/-- `_recompute_apply_summary`. -/
def applySummary (rows : List ImportRow) : ApplySummary where
  createdBotUsers := rows.countP (·.status = .created)
  createdCustomers := rows.countP (·.createdCustomer)
  linkedExisting := rows.countP (·.status = .linked)
  updatedExisting := rows.countP (·.status = .updated)
  skipped := rows.countP fun r => r.status = .skipped ∨ r.status = .invalid
  failed := rows.countP (·.status = .failed)

/-- `apply_wizwiz_import_job`, some time after what was done last. -/
def apply (job : ImportJob) (dump : List DumpRow) (elapsed : ℕ) (db : ImportDb) :
    ImportDb × ImportJob × Option DbError :=
  if job.status = .applied then (db, job, none)
  else if job.status ≠ .analyzed then
    (db, job, some (.validationError "Only analyzed legacy WizWiz import jobs can be applied."))
  else
    let db := applyRows job dump ((db.jobRows job.pk).filter (·.status.applyable))
      (db.advance elapsed)
    (db, { job with status := .applied, summary := applySummary (db.jobRows job.pk) }, none)

end Qasedak.WizwizImport

/-! Which bot user the import finds for a Telegram user, and that it goes on finding it. -/

namespace Qasedak.WizwizImport

open Foundation Store

/-! ## The first of the bot users -/

theorem seenBefore_trans (a b c : ImportBotUser) (hab : ImportDb.seenBefore a b = true)
    (hbc : ImportDb.seenBefore b c = true) : ImportDb.seenBefore a c = true := by
  simp only [ImportDb.seenBefore, Bool.or_eq_true, Bool.and_eq_true, decide_eq_true_eq] at *
  omega

theorem seenBefore_total (a b : ImportBotUser) :
    (ImportDb.seenBefore a b || ImportDb.seenBefore b a) = true := by
  simp only [ImportDb.seenBefore, Bool.or_eq_true, Bool.and_eq_true, decide_eq_true_eq]
  omega

theorem pk_eq_of_seenBefore {a b : ImportBotUser} (hab : ImportDb.seenBefore a b = true)
    (hba : ImportDb.seenBefore b a = true) : a.pk = b.pk := by
  simp only [ImportDb.seenBefore, Bool.or_eq_true, Bool.and_eq_true, decide_eq_true_eq] at *
  omega

theorem firstSeen_eq_some_iff {l : List ImportBotUser} {b : ImportBotUser}
    (hkeys : ∀ x ∈ l, ∀ y ∈ l, x.pk = y.pk → x = y) :
    ImportDb.firstSeen l = some b ↔ b ∈ l ∧ ∀ c ∈ l, ImportDb.seenBefore b c = true := by
  have hsorted := List.pairwise_mergeSort seenBefore_trans seenBefore_total l
  rw [ImportDb.firstSeen]
  have hmem (x : ImportBotUser) : x ∈ l.mergeSort ImportDb.seenBefore ↔ x ∈ l := List.mem_mergeSort
  cases hl : l.mergeSort ImportDb.seenBefore with
  | nil =>
      rw [hl] at hmem
      constructor
      · intro h
        cases h
      · intro h
        exact absurd ((hmem b).mpr h.1) List.not_mem_nil
  | cons first rest =>
      rw [hl] at hmem hsorted
      have hfirst : first ∈ l := (hmem first).mp List.mem_cons_self
      have hbefore : ∀ c ∈ l, ImportDb.seenBefore first c = true := by
        intro c hc
        rcases List.mem_cons.mp ((hmem c).mpr hc) with rfl | hrest
        · simpa using seenBefore_total c c
        · exact (List.pairwise_cons.mp hsorted).1 c hrest
      rw [List.head?_cons, Option.some.injEq]
      constructor
      · intro h
        rw [← h]
        exact ⟨hfirst, hbefore⟩
      · intro h
        exact hkeys first hfirst b h.1 (pk_eq_of_seenBefore (hbefore b h.1) (h.2 first hfirst))

theorem firstSeen_eq_none_iff {l : List ImportBotUser} : ImportDb.firstSeen l = none ↔ l = [] := by
  rw [ImportDb.firstSeen, List.head?_eq_none_iff]
  constructor
  · intro h
    have hlength := (List.mergeSort_perm l ImportDb.seenBefore).length_eq
    rw [h] at hlength
    exact List.eq_nil_of_length_eq_zero hlength.symm
  · intro h
    rw [h, List.mergeSort_nil]

/-! ## What is found stays found -/

variable {db db' : ImportDb} {telegramUserId : String} {b : ImportBotUser}

namespace ImportDb

/-- The bot user that the import finds for a Telegram user. -/
def Found (db : ImportDb) (telegramUserId : String) (b : ImportBotUser) : Prop :=
  db.findExistingBotUser telegramUserId db.defaultTelegramBotConfig = some b

/-- A bot user that was found is found again, and with a customer where there was one. -/
def KeepsUsers (db db' : ImportDb) : Prop :=
  ∀ telegramUserId b, db.Found telegramUserId b →
    ∃ b', db'.Found telegramUserId b' ∧ (b.customer ≠ none → b'.customer ≠ none)

end ImportDb

theorem keepsUsers_of_eq (hconfigs : db'.configs = db.configs)
    (husers : db'.botUsers = db.botUsers) : db.KeepsUsers db' := by
  intro telegramUserId b h
  refine ⟨b, ?_, id⟩
  rw [ImportDb.Found, defaultTelegramBotConfig_congr hconfigs,
    findExistingBotUser_congr hconfigs husers]
  exact h

theorem keepsUsers_trans {db'' : ImportDb} (h : db.KeepsUsers db') (h' : db'.KeepsUsers db'') :
    db.KeepsUsers db'' := by
  intro telegramUserId b hb
  obtain ⟨b', hb', hcustomer⟩ := h telegramUserId b hb
  obtain ⟨b'', hb'', hcustomer'⟩ := h' telegramUserId b' hb'
  exact ⟨b'', hb'', fun hc => hcustomer' (hcustomer hc)⟩

theorem mem_of_found (h : db.Found telegramUserId b) : b ∈ db.telegramUsers telegramUserId := by
  have hmem {l : List ImportBotUser} (hl : ImportDb.firstSeen l = some b) : b ∈ l := by
    rw [ImportDb.firstSeen] at hl
    exact List.mem_mergeSort.mp (List.mem_of_mem_head? hl)
  unfold ImportDb.Found ImportDb.findExistingBotUser at h
  dsimp only at h
  cases hpreferred : ImportDb.firstSeen ((db.telegramUsers telegramUserId).filter fun b =>
      some b.config = db.defaultTelegramBotConfig) with
  | none =>
      rw [hpreferred] at h
      exact hmem h
  | some x =>
      rw [hpreferred] at h
      obtain rfl : x = b := Option.some.inj h
      exact List.mem_of_mem_filter (hmem hpreferred)

/-- A bot user that was seen before the others is so again when it is saved: nothing is newer than
what is saved. -/
theorem firstSeen_saved {l : List ImportBotUser} {b' : ImportBotUser} {now : ℕ}
    (hkeys : ∀ x ∈ l, ∀ y ∈ l, x.pk = y.pk → x = y) (hnow : ∀ x ∈ l, x.updatedAt ≤ now)
    (hpk : b'.pk = b.pk) (hseen : b'.lastSeenAt = b.lastSeenAt)
    (hactive : b.isActive = true → b'.isActive = true) (h : ImportDb.firstSeen l = some b) :
    ImportDb.firstSeen (l.map fun x =>
      if x.pk = b'.pk then { b' with pk := x.pk, updatedAt := now } else x) =
        some { b' with updatedAt := now } := by
  obtain ⟨hb, hbefore⟩ := (firstSeen_eq_some_iff hkeys).mp h
  rw [firstSeen_eq_some_iff]
  · constructor
    · refine List.mem_map.mpr ⟨b, hb, ?_⟩
      rw [if_pos hpk.symm, hpk]
    · intro c hc
      obtain ⟨x, hx, rfl⟩ := List.mem_map.mp hc
      by_cases hxpk : x.pk = b'.pk
      · rw [if_pos hxpk, hxpk]
        simpa using seenBefore_total { b' with updatedAt := now } { b' with updatedAt := now }
      · rw [if_neg hxpk]
        have hbx := hbefore x hx
        have hxnow := hnow x hx
        have hbnow := hnow b hb
        have hrank : (if b'.isActive then 0 else 1) ≤ if b.isActive then 0 else 1 := by
          cases hba : b.isActive with
          | true => simp [hactive hba]
          | false => cases b'.isActive <;> simp
        have hne : b.pk ≠ x.pk := fun heq => hxpk (heq.symm.trans hpk.symm)
        simp only [ImportDb.seenBefore, Bool.or_eq_true, Bool.and_eq_true,
          decide_eq_true_eq] at hbx ⊢
        rw [hseen, hpk]
        generalize (if b'.isActive then 0 else 1) = rank' at hrank ⊢
        generalize (if b.isActive then 0 else 1) = rank at hrank hbx
        omega
  · intro x hx y hy hxy
    obtain ⟨x', hx', rfl⟩ := List.mem_map.mp hx
    obtain ⟨y', hy', rfl⟩ := List.mem_map.mp hy
    have hpk' : x'.pk = y'.pk := by
      have hkeep (z : ImportBotUser) :
          (if z.pk = b'.pk then { b' with pk := z.pk, updatedAt := now } else z).pk = z.pk := by
        split <;> rfl
      rwa [hkeep, hkeep] at hxy
    rw [hkeys x' hx' y' hy' hpk']

/-- The bot users of a Telegram user after one of them, or of another user, was saved. -/
theorem telegramUsers_saveBotUser {b' : ImportBotUser} (hb : b ∈ db.botUsers.rows)
    (hpk : b'.pk = b.pk) (huser : b'.providerUserId = b.providerUserId)
    (hconfig : b'.config = b.config) (telegramUserId : String) :
    (db.saveBotUser b').telegramUsers telegramUserId =
      (db.telegramUsers telegramUserId).map fun x =>
        if x.pk = b'.pk then { b' with pk := x.pk, updatedAt := db.clock } else x := by
  have hrows : (db.saveBotUser b').botUsers.rows = db.botUsers.rows.map fun x =>
      if x.pk = b'.pk then { b' with pk := x.pk, updatedAt := db.clock } else x := by
    rw [ImportDb.saveBotUser, Serial.rows_modify]
    simp only [decide_eq_true_eq]
  rw [ImportDb.telegramUsers, ImportDb.telegramUsers, hrows, List.filter_map]
  congr 1
  apply List.filter_congr
  intro x hx
  by_cases hxpk : x.pk = b'.pk
  · obtain rfl : x = b := Serial.eq_of_key_eq hx hb (hxpk.trans hpk)
    simp only [Function.comp, if_pos hxpk, huser, hconfig]
    rfl
  · simp only [Function.comp, if_neg hxpk]
    rfl

theorem keepsUsers_saveBotUser {b' : ImportBotUser} (h : db.Found telegramUserId b)
    (hpk : b'.pk = b.pk) (huser : b'.providerUserId = b.providerUserId)
    (hconfig : b'.config = b.config) (hseen : b'.lastSeenAt = b.lastSeenAt)
    (hactive : b.isActive = true → b'.isActive = true)
    (hcustomer : b.customer ≠ none → b'.customer ≠ none) :
    (db.saveBotUser b').Found telegramUserId { b' with updatedAt := db.clock } ∧
      db.KeepsUsers (db.saveBotUser b') := by
  have hmem := List.mem_filter.mp (mem_of_found h)
  have hb : b ∈ db.botUsers.rows := hmem.1
  have hid : b.providerUserId = telegramUserId := by
    have hboth := hmem.2
    simp only [Bool.and_eq_true, decide_eq_true_eq] at hboth
    exact hboth.1
  have husers := telegramUsers_saveBotUser hb hpk huser hconfig
  have hconfigs : (db.saveBotUser b').configs = db.configs := rfl
  have hsaved (l : List ImportBotUser) (hl : ∀ x ∈ l, x ∈ db.telegramUsers telegramUserId)
      (hfirst : ImportDb.firstSeen l = some b) :
      ImportDb.firstSeen (l.map fun x =>
        if x.pk = b'.pk then { b' with pk := x.pk, updatedAt := db.clock } else x) =
          some { b' with updatedAt := db.clock } := by
    have hrows : ∀ x ∈ l, x ∈ db.botUsers.rows := fun x hx => List.mem_of_mem_filter (hl x hx)
    exact firstSeen_saved
      (fun x hx y hy hxy => Serial.eq_of_key_eq (hrows x hx) (hrows y hy) hxy)
      (fun x hx => db.updated_le x (hrows x hx)) hpk hseen hactive hfirst
  have hpreferred : ((db.telegramUsers telegramUserId).map fun x =>
      if x.pk = b'.pk then { b' with pk := x.pk, updatedAt := db.clock } else x).filter
        (fun x => some x.config = db.defaultTelegramBotConfig) =
      ((db.telegramUsers telegramUserId).filter
        fun x => some x.config = db.defaultTelegramBotConfig).map fun x =>
          if x.pk = b'.pk then { b' with pk := x.pk, updatedAt := db.clock } else x := by
    rw [List.filter_map]
    congr 1
    apply List.filter_congr
    intro x hx
    by_cases hxpk : x.pk = b'.pk
    · obtain rfl : x = b :=
        Serial.eq_of_key_eq (List.mem_of_mem_filter hx) hb (hxpk.trans hpk)
      simp only [Function.comp, if_pos hxpk, hconfig]
    · simp only [Function.comp, if_neg hxpk]
  have hfound : (db.saveBotUser b').Found telegramUserId { b' with updatedAt := db.clock } := by
    unfold ImportDb.Found ImportDb.findExistingBotUser at h ⊢
    dsimp only at h ⊢
    rw [defaultTelegramBotConfig_congr hconfigs, husers, hpreferred]
    cases hfirst : ImportDb.firstSeen ((db.telegramUsers telegramUserId).filter fun x =>
        some x.config = db.defaultTelegramBotConfig) with
    | none =>
        rw [hfirst] at h
        rw [firstSeen_eq_none_iff.mp hfirst, List.map_nil,
          firstSeen_eq_none_iff.mpr rfl]
        exact hsaved _ (fun x hx => hx) h
    | some x =>
        rw [hfirst] at h
        obtain rfl : x = b := Option.some.inj h
        rw [hsaved _ (fun x hx => List.mem_of_mem_filter hx) hfirst]
        rfl
  refine ⟨hfound, ?_⟩
  intro other c hc
  by_cases hother : other = telegramUserId
  · rw [hother] at hc ⊢
    obtain rfl : c = b := Option.some.inj (hc.symm.trans h)
    exact ⟨_, hfound, hcustomer⟩
  · refine ⟨c, ?_, id⟩
    have hsame : (db.saveBotUser b').telegramUsers other = db.telegramUsers other := by
      rw [husers]
      conv_rhs => rw [← List.map_id (db.telegramUsers other)]
      apply List.map_congr_left
      intro x hx
      rw [if_neg, id]
      intro hxpk
      have hxmem := List.mem_filter.mp hx
      obtain rfl : x = b := Serial.eq_of_key_eq hxmem.1 hb (hxpk.trans hpk)
      have hxid := hxmem.2
      simp only [Bool.and_eq_true, decide_eq_true_eq] at hxid
      exact hother (hxid.1.symm.trans hid)
    unfold ImportDb.Found ImportDb.findExistingBotUser at hc ⊢
    rw [defaultTelegramBotConfig_congr hconfigs, hsame]
    exact hc

end Qasedak.WizwizImport
