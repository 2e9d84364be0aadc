import Qasedak.WizwizImport.Again

/-! The import of a dump, whatever was imported before. -/

namespace Qasedak.WizwizImport

open Foundation Store

variable {engine : Engine} {job : ImportJob} {db : ImportDb}

/-! ## Runs of imports -/

/-- The operations of the import. -/
inductive ImportOp where
  | analyze (job : ImportJob) (dump : List DumpRow)
  | apply (job : ImportJob) (dump : List DumpRow) (elapsed : ℕ)

def ImportOp.run (engine : Engine) : ImportOp → ImportDb → ImportDb
  | .analyze job dump, db => (WizwizImport.analyze engine job dump db).1
  | .apply job dump elapsed, db => (WizwizImport.apply job dump elapsed db).1

def runOps (engine : Engine) (ops : List ImportOp) (db : ImportDb) : ImportDb :=
  ops.foldl (fun db op => op.run engine db) db

theorem createRow_sameUsers {r : ImportRow} {db' : ImportDb}
    (h : db.createRow engine r = .ok db') : SameUsers db db' := by
  unfold ImportDb.createRow at h
  split at h
  · cases h
  · split at h
    · cases h
    · rw [← Except.ok.inj h]
      exact ⟨rfl, rfl, rfl⟩

theorem analyzeRow_sameUsers {s s' : Analysis} {row : DumpRow}
    (h : analyzeRow engine job s row = .ok s') : SameUsers s.db s'.db := by
  unfold analyzeRow at h
  cases hrow : normalizeRow row with
  | invalid telegramUserId legacyPk reason error =>
      rw [hrow] at h
      dsimp only at h
      cases hcreate : s.db.createRow engine
          (invalidRow job telegramUserId legacyPk reason (s.counters.parsed + 1)) with
      | error e =>
          rw [hcreate] at h
          cases h
      | ok db' =>
          rw [hcreate] at h
          rw [← Except.ok.inj h]
          exact createRow_sameUsers hcreate
  | valid user =>
      rw [hrow] at h
      dsimp only at h
      split at h
      · rw [← Except.ok.inj h]
        exact SameUsers.refl _
      · cases hcreate : s.db.createRow engine (validRow job s.db user) with
        | error e =>
            rw [hcreate] at h
            cases h
        | ok db' =>
            rw [hcreate] at h
            rw [← Except.ok.inj h]
            exact createRow_sameUsers hcreate

theorem analyzeRows_sameUsers (rows : List DumpRow) (s : Analysis) :
    SameUsers s.db (analyzeRows engine job s rows).1.db := by
  induction rows generalizing s with
  | nil => exact SameUsers.refl _
  | cons row rows ih =>
      unfold analyzeRows
      split
      · exact SameUsers.refl _
      · cases hrow : analyzeRow engine job s row with
        | error e => exact SameUsers.refl _
        | ok s' => exact (analyzeRow_sameUsers hrow).trans (ih s')

/-- An analysis finds bot users and customers, and creates none. -/
theorem analyze_sameUsers (dump : List DumpRow) : SameUsers db (analyze engine job dump db).1 := by
  have hrows := @analyzeRows_sameUsers engine job dump { db := db.deleteRows job.pk }
  have hdelete : SameUsers db (db.deleteRows job.pk) := ⟨rfl, rfl, rfl⟩
  unfold analyze
  split
  · exact SameUsers.refl _
  · split
    · exact SameUsers.refl _
    · split
      · rename_i s e hrun
        rw [hrun] at hrows
        exact hdelete.trans hrows
      · rename_i s hrun
        rw [hrun] at hrows
        split <;> exact hdelete.trans hrows

/-- The rows that an application goes through. -/
def applyable (job : ImportJob) (db : ImportDb) : List ImportRow :=
  (db.jobRows job.pk).filter (·.status.applyable)

theorem mem_applyable {r : ImportRow} :
    r ∈ applyable job db ↔ (r ∈ db.rows ∧ r.job = job.pk) ∧ r.status.applyable = true := by
  rw [applyable, List.mem_filter, ImportDb.jobRows, List.mem_filter, decide_eq_true_eq]

theorem applyRows_applyable (dump : List DumpRow) (elapsed : ℕ) :
    AppliedRows job (applyable job db) (db.advance elapsed)
      (applyRows job dump (applyable job db) (db.advance elapsed)) := by
  apply applyRows_applied
  · intro r hr
    exact (mem_applyable.mp hr).1.1
  · exact db.rows_unique.sublist ((List.filter_sublist.trans List.filter_sublist).map _)

theorem apply_eq (h : job.status = .analyzed) (dump : List DumpRow) (elapsed : ℕ) :
    (apply job dump elapsed db).1 =
      applyRows job dump (applyable job db) (db.advance elapsed) := by
  unfold apply
  rw [if_neg (by simp [h]), if_neg (by simp [h])]
  rfl

theorem keepsUsers_advance (elapsed : ℕ) : db.KeepsUsers (db.advance elapsed) :=
  keepsUsers_of_eq rfl rfl

theorem ImportOp.keepsUsers (op : ImportOp) : db.KeepsUsers (op.run engine db) := by
  cases op with
  | analyze job dump =>
      have hsame := @analyze_sameUsers engine job db dump
      exact keepsUsers_of_eq hsame.configs hsame.botUsers
  | apply job dump elapsed =>
      by_cases hstatus : job.status = .analyzed
      · rw [ImportOp.run, apply_eq hstatus]
        exact keepsUsers_trans (keepsUsers_advance elapsed) (applyRows_applyable dump elapsed).keeps
      · have hsame : (WizwizImport.apply job dump elapsed db).1 = db := by
          unfold WizwizImport.apply
          split
          · rfl
          · rfl
        rw [ImportOp.run, hsame]
        exact keepsUsers_of_eq rfl rfl

theorem runOps_keepsUsers (ops : List ImportOp) : db.KeepsUsers (runOps engine ops db) := by
  induction ops generalizing db with
  | nil => exact keepsUsers_of_eq rfl rfl
  | cons op ops ih => exact keepsUsers_trans op.keepsUsers (@ih (op.run engine db))

/-! ## The contract -/

/-- The users whose rows a job has imported. -/
def ImportedBy (job : ImportJob) (db : ImportDb) (telegramUserId : String) : Prop :=
  ∃ r ∈ db.jobRows job.pk, r.telegramUserId = telegramUserId ∧ r.status.imported = true

/-- After a dump was analyzed and applied, and after other imports, a job of the same dump that
creates customers only if the first one did, and has only rows that the first one imported, creates
nobody and changes no wallet. -/
def CreatesNobodyAgain (engine : Engine) (job : ImportJob) (dump : List DumpRow)
    (db : ImportDb) : Prop :=
  let first := analyze engine job dump db
  ∀ elapsed ops job' elapsed',
    let applied := (apply first.2.1 dump elapsed first.1).1
    let second := analyze engine job' dump (runOps engine ops applied)
    second.2.2 = none → (job'.createCustomers = true → job.createCustomers = true) →
      (∀ r ∈ applyable job' second.1, ImportedBy job applied r.telegramUserId) →
        let again := (apply second.2.1 dump elapsed' second.1).1
        again.botUsers.next = (runOps engine ops applied).botUsers.next ∧
          again.customers.next = (runOps engine ops applied).customers.next ∧
          again.wallets = second.1.wallets

/-- What the import of a dump is to do. -/
structure ImportContract (engine : Engine) (job : ImportJob) (dump : List DumpRow)
    (db : ImportDb) : Prop where
  finishes : (analyze engine job dump db).2.2 = none
  /-- The rows that the analysis looked at, all where it has no limit, have one outcome each. -/
  outcomes : ∃ os : List (DumpRow × RowOutcome), os.map (·.1) <+: dump ∧
    (job.limit = 0 → os.map (·.1) = dump) ∧
    let counters := (analyze engine job dump db).2.1.counters
    counters.parsed = os.length ∧ counters.valid = os.countP (·.2 = .valid) ∧
      counters.invalid = os.countP (·.2 = .invalid) ∧
      counters.duplicates = os.countP (·.2 = .duplicate) ∧
      counters.parsed = counters.valid + counters.invalid + counters.duplicates
  again : CreatesNobodyAgain engine job dump db

/-- A row of a finished analysis is not yet imported, unless it is to be. -/
theorem storedRows_status {parsed : ℕ} {os : List (DumpRow × RowOutcome)} {r : ImportRow}
    (h : r ∈ storedRows job db parsed os) (himported : r.status.imported = true) :
    r.status.applyable = true := by
  obtain ⟨o, _, ho⟩ := List.mem_filterMap.mp h
  unfold storedRow at ho
  split at ho
  · rw [← Option.some.inj ho] at himported
    cases himported
  · rename_i user _ _
    rw [← Option.some.inj ho] at himported ⊢
    simp only [validRow, rowPlan] at himported ⊢
    split at himported
    · cases himported
    · dsimp only
      split
      · split
        · rfl
        · split <;> rfl
      · rfl
  · cases ho

theorem analyze_allowed {dump : List DumpRow} (h : (analyze engine job dump db).2.2 = none) :
    job.status ≠ .applying ∧ job.hasFile = true := by
  unfold analyze at h
  split at h
  · cases h
  · split at h
    · cases h
    · rename_i hstatus hfile
      exact ⟨hstatus, not_not.mp hfile⟩

theorem conserved_of_finish {dump : List DumpRow}
    (h : (analyze engine job dump db).2.2 = none) :
    Importable engine (outcomes job.limit 0 [] dump) ∧
      Conserved db job (outcomes job.limit 0 [] dump) (analyze engine job dump db).1
        (analyze engine job dump db).2.1 := by
  have hallowed := analyze_allowed h
  have hspec := @analyze_spec engine job db hallowed.1 hallowed.2 dump
  have himportable : Importable engine (outcomes job.limit 0 [] dump) := by
    by_contra hno
    exact hspec.2 hno h
  exact ⟨himportable, (hspec.1 himportable).2⟩

/-- The application of the job that an analysis leaves. -/
theorem apply_analyzed {dump : List DumpRow} (elapsed : ℕ)
    (h : (analyze engine job dump db).2.2 = none) :
    let first := analyze engine job dump db
    (apply first.2.1 dump elapsed first.1).1 =
        applyRows first.2.1 dump (applyable job first.1) (first.1.advance elapsed) ∧
      first.2.1.createCustomers = job.createCustomers ∧
      AppliedRows first.2.1 (applyable job first.1) (first.1.advance elapsed)
        (apply first.2.1 dump elapsed first.1).1 := by
  have hstatus := (conserved_of_finish h).2.status
  dsimp only at hstatus ⊢
  generalize analyze engine job dump db = first at hstatus ⊢
  obtain ⟨db₁, job₁, e⟩ := first
  dsimp only at hstatus ⊢
  have hanalyzed : job₁.status = .analyzed := by rw [hstatus]
  have hrows : applyable job db₁ = applyable job₁ db₁ := by
    rw [applyable, applyable, hstatus]
  rw [apply_eq hanalyzed, hrows]
  exact ⟨rfl, by rw [hstatus], applyRows_applyable dump elapsed⟩

theorem imported_of_importedBy {dump : List DumpRow} {elapsed : ℕ} {telegramUserId : String}
    (h : (analyze engine job dump db).2.2 = none)
    (himported : ImportedBy job (apply (analyze engine job dump db).2.1 dump elapsed
      (analyze engine job dump db).1).1 telegramUserId) :
    (apply (analyze engine job dump db).2.1 dump elapsed (analyze engine job dump db).1).1.Imported
      job.createCustomers telegramUserId := by
  have hrows := (conserved_of_finish h).2.rows
  obtain ⟨happly, hcreate, happlied⟩ := apply_analyzed elapsed h
  obtain ⟨r, hr, hid, hstatus⟩ := himported
  have hjob : r.job = job.pk := by simpa using (List.mem_filter.mp hr).2
  have hkey : r.key ∈ (applyable job (analyze engine job dump db).1).map ImportRow.key := by
    by_contra hno
    have hold := happlied.others r (List.mem_of_mem_filter hr) hno
    have hstored : r ∈ storedRows job db 0 (outcomes job.limit 0 [] dump) := by
      have hmem : r ∈ (analyze engine job dump db).1.rows := hold
      rw [hrows] at hmem
      rcases List.mem_append.mp hmem with hother | hown
      · have hne : r.job ≠ job.pk := by simpa [ImportDb.deleteRows] using (List.mem_filter.mp hother).2
        exact absurd hjob hne
      · exact hown
    exact hno (List.mem_map_of_mem
      (mem_applyable.mpr ⟨⟨hold, hjob⟩, storedRows_status hstored hstatus⟩))
  have hfound := happlied.imported r (List.mem_of_mem_filter hr) hkey hstatus
  rw [hid, hcreate] at hfound
  exact hfound

theorem createsNobodyAgain (dump : List DumpRow)
    (hfinish : (analyze engine job dump db).2.2 = none) :
    CreatesNobodyAgain engine job dump db := by
  intro elapsed ops job' elapsed' applied second hsecond hcreate hall again
  obtain ⟨_, hcreate', happlied⟩ := apply_analyzed elapsed' hsecond
  have hsame : SameUsers (runOps engine ops applied) second.1 := analyze_sameUsers dump
  have hnobody := happlied.nobody fun r hr => by
    have himported := imported_of_importedBy hfinish (hall r hr)
    have hkept := himported.keep (@runOps_keepsUsers engine _ ops)
    rw [hcreate']
    exact ((hkept.keep (keepsUsers_of_eq hsame.configs hsame.botUsers)).keep
      (keepsUsers_advance elapsed')).weaken hcreate
  refine ⟨?_, ?_, happlied.wallets⟩
  · exact hnobody.1.trans (congrArg Serial.next hsame.botUsers)
  · exact hnobody.2.trans (congrArg Serial.next hsame.customers)

/-- A dump is imported as it is to be if and only if no two invalid rows have one id, the ids fit,
and so do the wallets of the users. -/
theorem importContract_iff (engine : Engine) (job : ImportJob) (dump : List DumpRow)
    (db : ImportDb) (hstatus : job.status ≠ .applying) (hfile : job.hasFile = true) :
    ImportContract engine job dump db ↔ Importable engine (outcomes job.limit 0 [] dump) := by
  constructor
  · intro h
    exact (conserved_of_finish h.finishes).1
  · intro h
    have hfinish := ((@analyze_spec engine job db hstatus hfile dump).1 h).1
    have hconserved := (conserved_of_finish hfinish).2
    have hprefix := outcomes_prefix job.limit dump 0 []
    refine ⟨hfinish, ⟨outcomes job.limit 0 [] dump, hprefix.1, hprefix.2, ?_⟩,
      createsNobodyAgain dump hfinish⟩
    refine ⟨hconserved.parsed, hconserved.valid, hconserved.invalid, hconserved.duplicates, ?_⟩
    rw [hconserved.parsed, hconserved.valid, hconserved.invalid, hconserved.duplicates]
    exact countP_outcomes _

def emptyImportDb : ImportDb where
  rows := []
  rows_unique := List.nodup_nil
  updated_le := by
    intro b hb
    cases hb

def twoUserDump : List DumpRow :=
  [.user { userid := .text "111111111", wallet := .int 5 },
    .user { userid := .text "bad-id" },
    .user { userid := .int 222222222, wallet := .text "7" },
    .user { userid := .text "111111111", wallet := .int 9 }]

theorem importContract_twoUserDump :
    ImportContract .postgres { pk := 1 } twoUserDump emptyImportDb := by
  apply (importContract_iff .postgres { pk := 1 } twoUserDump emptyImportDb (by decide) rfl).mpr
  have hwallets : ((outcomes 0 0 [] twoUserDump).all fun o =>
      (normalizeRow o.1).casesOn (motive := fun _ => Bool)
        (fun _ _ _ _ => true)
        fun user => user.wallet.all fun wallet => decide (Engine.postgres.FitsInt wallet)) = true := by decide +kernel
  refine ⟨by decide +kernel, by decide +kernel, ?_, by decide +kernel⟩
  intro o ho _ user huser wallet hwallet
  have h := List.all_eq_true.mp hwallets o ho
  rw [huser] at h
  exact of_decide_eq_true ((Option.all_eq_true _ _).mp h wallet hwallet)

/-- Two rows without a user and with one id, such as "abc", stop the analysis of the dump. -/
def sameIdDump : List DumpRow :=
  [.user { userid := .text "abc" }, .user { userid := .text "abc" }]

theorem not_importContract_sameIdDump :
    ¬ ImportContract .postgres { pk := 1 } sameIdDump emptyImportDb := by
  intro h
  have hfails : (analyze .postgres { pk := 1 } sameIdDump emptyImportDb).2.2 =
      some .integrityError := by decide +kernel
  have hfinishes := h.finishes
  rw [hfails] at hfinishes
  cases hfinishes

end Qasedak.WizwizImport
