import Qasedak.WizwizImport.Analysis

/-! An analysis counts every row once, and finishes where the rows can be stored. -/

namespace Qasedak.WizwizImport

open Foundation Store

variable {engine : Engine} {job : ImportJob}

/-! ## One row -/

/-- The counters after a row with an outcome. -/
structure Counters.Step (o : RowOutcome) (c c' : Counters) : Prop where
  parsed : c'.parsed = c.parsed + 1
  valid : c'.valid = c.valid + count (o = .valid)
  invalid : c'.invalid = c.invalid + count (o = .invalid)
  duplicates : c'.duplicates = c.duplicates + count (o = .duplicate)
  bounded : (∀ n ∈ c.all, n ≤ c.parsed) → ∀ n ∈ c'.all, n ≤ c'.parsed

theorem count_le_one (b : Bool) : count b ≤ 1 := by
  cases b <;> decide

/-- The tables that an analysis only reads. -/
structure SameUsers (db db' : ImportDb) : Prop where
  configs : db'.configs = db.configs
  botUsers : db'.botUsers = db.botUsers
  customers : db'.customers = db.customers

theorem SameUsers.refl (db : ImportDb) : SameUsers db db := ⟨rfl, rfl, rfl⟩

theorem SameUsers.trans {db db' db'' : ImportDb} (h : SameUsers db db')
    (h' : SameUsers db' db'') : SameUsers db db'' :=
  ⟨h'.configs.trans h.configs, h'.botUsers.trans h.botUsers, h'.customers.trans h.customers⟩

theorem findExistingBotUser_congr {db db' : ImportDb} (hconfigs : db'.configs = db.configs)
    (husers : db'.botUsers = db.botUsers) (telegramUserId : String) (config : Option ℕ) :
    db'.findExistingBotUser telegramUserId config = db.findExistingBotUser telegramUserId config := by
  simp only [ImportDb.findExistingBotUser, ImportDb.telegramUsers, ImportDb.isTelegram, hconfigs,
    husers]

theorem defaultTelegramBotConfig_congr {db db' : ImportDb} (h : db'.configs = db.configs) :
    db'.defaultTelegramBotConfig = db.defaultTelegramBotConfig := by
  simp only [ImportDb.defaultTelegramBotConfig, h]

theorem SameUsers.findCustomer {db db' : ImportDb} (h : SameUsers db db') (user : NormalizedUser)
    (botUser : Option ImportBotUser) :
    db'.findCustomer user botUser = db.findCustomer user botUser := by
  simp only [ImportDb.findCustomer, ImportDb.customerByUsername, h.customers]

theorem rowPlan_congr {db db' : ImportDb} (h : SameUsers db db') (user : NormalizedUser) :
    rowPlan job db' user = rowPlan job db user := by
  unfold rowPlan
  rw [defaultTelegramBotConfig_congr h.configs, findExistingBotUser_congr h.configs h.botUsers]
  simp only [h.findCustomer]

theorem storedRows_congr {db db' : ImportDb} (h : SameUsers db db') (parsed : ℕ)
    (l : List (DumpRow × RowOutcome)) :
    storedRows job db' parsed l = storedRows job db parsed l := by
  simp only [storedRows, storedRow, validRow, rowPlan_congr h]

/-- A row has one outcome, is counted under it, and is stored unless it is a duplicate. -/
theorem analyzeRow_eq (s : Analysis) (row : DumpRow)
    (hlimit : ¬ (job.limit ≠ 0 ∧ job.limit ≤ s.counters.valid)) :
    ∃ o seen' counters', Counters.Step o s.counters counters' ∧
      (∀ rows, outcomes job.limit s.counters.valid s.seen (row :: rows) =
        (row, o) :: outcomes job.limit counters'.valid seen' rows) ∧
      analyzeRow engine job s row =
        match storedRow job s.db (row, o) (s.counters.parsed + 1) with
        | none => .ok ⟨s.db, seen', counters'⟩
        | some r =>
            match s.db.createRow engine r with
            | .error e => .error e
            | .ok db => .ok ⟨db, seen', counters'⟩ := by
  cases hrow : normalizeRow row with
  | invalid telegramUserId legacyPk reason error =>
      refine ⟨.invalid, s.seen, { s.counters with
        parsed := s.counters.parsed + 1
        invalid := s.counters.invalid + 1 }, ?_, ?_, ?_⟩
      · refine ⟨rfl, rfl, rfl, rfl, ?_⟩
        intro h
        simp only [Counters.all, List.forall_mem_cons, List.not_mem_nil, false_imp_iff,
          implies_true, and_true] at h ⊢
        omega
      · intro rows
        rw [outcomes, if_neg hlimit, hrow]
      · simp only [analyzeRow, storedRow, hrow]
        cases s.db.createRow engine _ <;> rfl
  | valid user =>
      by_cases hseen : user.telegramUserId ∈ s.seen
      · refine ⟨.duplicate, s.seen, { s.counters with
          parsed := s.counters.parsed + 1
          duplicates := s.counters.duplicates + 1 }, ?_, ?_, ?_⟩
        · refine ⟨rfl, rfl, rfl, rfl, ?_⟩
          intro h
          simp only [Counters.all, List.forall_mem_cons, List.not_mem_nil, false_imp_iff,
            implies_true, and_true] at h ⊢
          omega
        · intro rows
          rw [outcomes, if_neg hlimit, hrow]
          exact if_pos hseen
        · simp only [analyzeRow, storedRow, hrow, if_pos hseen]
      · refine ⟨.valid, user.telegramUserId :: s.seen,
          Counters.addValid { s.counters with parsed := s.counters.parsed + 1 } user
            (rowPlan job s.db user), ?_, ?_, ?_⟩
        · refine ⟨rfl, rfl, rfl, rfl, ?_⟩
          intro h
          simp only [Counters.all, Counters.addValid, List.forall_mem_cons, List.not_mem_nil,
            false_imp_iff, implies_true, and_true] at h ⊢
          have hadmins := count_le_one user.isAdmin
          have hagents := count_le_one user.isAgent
          have hwallet := count_le_one (user.wallet.any (0 < ·))
          have hskipped := count_le_one (decide ((rowPlan job s.db user).status = .skipped))
          have hbot := count_le_one (rowPlan job s.db user).botUser.isSome
          have hcustomer := count_le_one (rowPlan job s.db user).customer.isSome
          have hcreateBot := count_le_one (rowPlan job s.db user).wouldCreateBotUser
          have hcreateCustomer := count_le_one (rowPlan job s.db user).wouldCreateCustomer
          omega
        · intro rows
          rw [outcomes, if_neg hlimit, hrow]
          exact if_neg hseen
        · simp only [analyzeRow, storedRow, hrow, if_neg hseen]
          cases s.db.createRow engine _ <;> rfl

/-! ## All rows -/

theorem createRow_of_fits {db : ImportDb} {r : ImportRow} (hfits : r.Fits engine)
    (hkey : r.key ∉ db.rows.map ImportRow.key) :
    ∃ db', db.createRow engine r = .ok db' ∧ db'.rows = db.rows ++ [r] ∧ SameUsers db db' := by
  rw [ImportDb.createRow, if_neg (not_not_intro hfits), dif_neg hkey]
  exact ⟨_, rfl, rfl, rfl, rfl, rfl⟩

theorem createRow_error {db : ImportDb} {r : ImportRow}
    (h : ¬ (r.Fits engine ∧ r.key ∉ db.rows.map ImportRow.key)) :
    ∃ e, db.createRow engine r = .error e := by
  rw [ImportDb.createRow]
  by_cases hfits : r.Fits engine
  · rw [if_neg (not_not_intro hfits)]
    have hkey : r.key ∈ db.rows.map ImportRow.key := by
      by_contra hno
      exact h ⟨hfits, hno⟩
    rw [dif_pos hkey]
    exact ⟨_, rfl⟩
  · rw [if_pos hfits]
    exact ⟨_, rfl⟩

theorem storedRows_cons (db : ImportDb) (parsed : ℕ) (o : DumpRow × RowOutcome)
    (l : List (DumpRow × RowOutcome)) :
    storedRows job db parsed (o :: l) =
      (storedRow job db o (parsed + 1)).toList ++ storedRows job db (parsed + 1) l := by
  rw [storedRows, List.zipIdx_cons, List.filterMap_cons]
  cases storedRow job db o (parsed + 1) <;> rfl

/-- The rows of an analysis can be stored beside those that are there. -/
def Storable (engine : Engine) (db : ImportDb) (stored : List ImportRow) : Prop :=
  (∀ r ∈ stored, r.Fits engine) ∧ (db.rows.map ImportRow.key ++ stored.map ImportRow.key).Nodup

theorem storable_cons {db db' : ImportDb} {r : ImportRow} {stored : List ImportRow}
    (hrows : db'.rows = db.rows ++ [r]) :
    Storable engine db (r :: stored) ↔
      (r.Fits engine ∧ r.key ∉ db.rows.map ImportRow.key) ∧ Storable engine db' stored := by
  have hkeys : db'.rows.map ImportRow.key ++ stored.map ImportRow.key =
      db.rows.map ImportRow.key ++ (r :: stored).map ImportRow.key := by
    rw [hrows, List.map_append, List.append_assoc]
    rfl
  rw [Storable, Storable, hkeys, List.forall_mem_cons]
  constructor
  · intro h
    refine ⟨⟨h.1.1, fun hmem => ?_⟩, h.1.2, h.2⟩
    exact (List.nodup_append.mp h.2).2.2 r.key hmem r.key (by simp) rfl
  · intro h
    exact ⟨⟨h.1.1, h.2.1⟩, h.2.2⟩

/-- What the loop leaves where no row fails. -/
structure Analyzed (s : Analysis) (os : List (DumpRow × RowOutcome)) (stored : List ImportRow)
    (s' : Analysis) : Prop where
  users : SameUsers s.db s'.db
  rows : s'.db.rows = s.db.rows ++ stored
  parsed : s'.counters.parsed = s.counters.parsed + os.length
  valid : s'.counters.valid = s.counters.valid + os.countP (·.2 = .valid)
  invalid : s'.counters.invalid = s.counters.invalid + os.countP (·.2 = .invalid)
  duplicates : s'.counters.duplicates = s.counters.duplicates + os.countP (·.2 = .duplicate)
  bounded : (∀ n ∈ s.counters.all, n ≤ s.counters.parsed) →
    ∀ n ∈ s'.counters.all, n ≤ s'.counters.parsed

theorem Analyzed.cons {s s₁ s' : Analysis} {row : DumpRow} {o : RowOutcome}
    {os : List (DumpRow × RowOutcome)} {first : Option ImportRow} {stored : List ImportRow}
    (husers : SameUsers s.db s₁.db) (hrows : s₁.db.rows = s.db.rows ++ first.toList)
    (hstep : Counters.Step o s.counters s₁.counters) (h : Analyzed s₁ os stored s') :
    Analyzed s ((row, o) :: os) (first.toList ++ stored) s' := by
  have hcount (q : RowOutcome) : ((row, o) :: os).countP (·.2 = q) =
      os.countP (·.2 = q) + count (o = q) := by
    rw [List.countP_cons]
    rfl
  constructor
  · exact husers.trans h.users
  · rw [h.rows, hrows, List.append_assoc]
  · rw [h.parsed, hstep.parsed, List.length_cons]
    omega
  · rw [h.valid, hstep.valid, hcount]
    omega
  · rw [h.invalid, hstep.invalid, hcount]
    omega
  · rw [h.duplicates, hstep.duplicates, hcount]
    omega
  · intro hbound
    exact h.bounded (hstep.bounded hbound)

theorem analyzeRows_spec (rows : List DumpRow) (s : Analysis) :
    let os := outcomes job.limit s.counters.valid s.seen rows
    let stored := storedRows job s.db s.counters.parsed os
    (Storable engine s.db stored →
      ∃ s', analyzeRows engine job s rows = (s', none) ∧ Analyzed s os stored s') ∧
    (¬ Storable engine s.db stored → ∃ s' e, analyzeRows engine job s rows = (s', some e)) := by
  induction rows generalizing s with
  | nil =>
      refine ⟨fun _ => ⟨s, rfl, ?_⟩, fun h => absurd ?_ h⟩
      · exact ⟨SameUsers.refl _, by simp [outcomes, storedRows], rfl, rfl, rfl, rfl, id⟩
      · simpa [Storable, outcomes, storedRows] using s.db.rows_unique
  | cons row rows ih =>
      by_cases hlimit : job.limit ≠ 0 ∧ job.limit ≤ s.counters.valid
      · have hnone : outcomes job.limit s.counters.valid s.seen (row :: rows) = [] := by
          rw [outcomes, if_pos hlimit]
        dsimp only
        rw [hnone]
        refine ⟨fun _ => ⟨s, if_pos hlimit, ?_⟩, fun h => absurd ?_ h⟩
        · exact ⟨SameUsers.refl _, by simp [storedRows], rfl, rfl, rfl, rfl, id⟩
        · simpa [Storable, storedRows] using s.db.rows_unique
      · obtain ⟨o, seen', counters', hstep, hos, hrun⟩ := @analyzeRow_eq engine job s row hlimit
        dsimp only
        rw [hos, storedRows_cons, analyzeRows, if_neg hlimit, hrun]
        cases hstored : storedRow job s.db (row, o) (s.counters.parsed + 1) with
        | none =>
            have ih' := ih ⟨s.db, seen', counters'⟩
            dsimp only at ih' ⊢
            rw [hstep.parsed] at ih'
            refine ⟨fun h => ?_, ih'.2⟩
            obtain ⟨s', hrest, hdone⟩ := ih'.1 h
            exact ⟨s', hrest, @Analyzed.cons s ⟨s.db, seen', counters'⟩ s' row o _ none _
              (SameUsers.refl _) (List.append_nil _).symm hstep hdone⟩
        | some r =>
            by_cases hr : r.Fits engine ∧ r.key ∉ s.db.rows.map ImportRow.key
            · obtain ⟨db, hcreate, hrows, husers⟩ := createRow_of_fits hr.1 hr.2
              have ih' := ih ⟨db, seen', counters'⟩
              dsimp only at ih' ⊢
              rw [hstep.parsed, storedRows_congr husers] at ih'
              rw [hcreate]
              constructor
              · intro h
                obtain ⟨s', hrest, hdone⟩ := ih'.1 ((storable_cons hrows).mp h).2
                exact ⟨s', hrest, hdone.cons husers hrows hstep⟩
              · intro h
                exact ih'.2 fun hrest => h ((storable_cons hrows).mpr ⟨hr, hrest⟩)
            · obtain ⟨e, hcreate⟩ := createRow_error hr
              dsimp only
              rw [hcreate]
              refine ⟨fun h => absurd ?_ hr, fun _ => ⟨s, e, rfl⟩⟩
              refine ⟨h.1 r (by simp), fun hmem => ?_⟩
              exact (List.nodup_append.mp h.2).2.2 r.key hmem r.key (by simp) rfl

end Qasedak.WizwizImport
