import Qasedak.WizwizImport.Outcomes
import Mathlib.Data.List.TakeWhile

/-! The dumps whose analysis finishes. -/

namespace Qasedak.WizwizImport

open Foundation Store Payments

variable {engine : Engine} {job : ImportJob} {db : ImportDb}

/-! ## Ids of valid and of invalid rows -/

theorem mem_stripChars {p : Char → Bool} {cs : List Char} {c : Char} (hc : c ∈ cs)
    (hp : p c = false) : c ∈ stripChars p cs := by
  have hdrop (l : List Char) (hl : c ∈ l) : c ∈ l.dropWhile p := by
    rw [← List.takeWhile_append_dropWhile (p := p) (l := l)] at hl
    rcases List.mem_append.mp hl with htake | hrest
    · rw [List.mem_takeWhile_imp htake] at hp
      cases hp
    · exact hrest
  unfold stripChars
  exact List.mem_reverse.mpr (hdrop _ (List.mem_reverse.mpr (hdrop _ hc)))

/-- The ids that the analysis makes up are ids of no user. -/
theorem not_isValid_madeUp (n : String) : ¬ IsValidTelegramUserId ("invalid:" ++ n) := by
  intro h
  have hmem : 'i' ∈ (cleanDigits (.text ("invalid:" ++ n))).toList := by
    rw [cleanDigits, toList_strip]
    apply mem_stripChars _ (by decide)
    rw [translateDigits, String.toList_ofList]
    have hi : 'i' ∈ (SqlValue.text ("invalid:" ++ n)).orEmpty.toList := by
      simp [SqlValue.orEmpty, String.toList_append]
    exact List.mem_map.mpr ⟨'i', hi, by decide⟩
  have hdecimal := List.all_eq_true.mp h.2.1 'i' hmem
  revert hdecimal
  decide

theorem not_isValid_invalidRowId {row : DumpRow} {telegramUserId legacyPk reason error : String}
    (h : normalizeRow row = .invalid telegramUserId legacyPk reason error) (sequence : ℕ) :
    ¬ IsValidTelegramUserId (invalidRowId telegramUserId sequence) := by
  unfold invalidRowId
  split
  · exact not_isValid_madeUp _
  · rename_i hid
    cases row with
    | parseError message =>
        simp only [normalizeRow, Normalized.invalid.injEq] at h
        exact absurd (Or.inl h.1.symm) hid
    | user u =>
        simp only [normalizeRow] at h
        split at h
        · rename_i hvalid
          rw [(Normalized.invalid.inj h).1] at hvalid
          exact hvalid
        · cases h

theorem isValid_of_valid {row : DumpRow} {user : NormalizedUser}
    (h : normalizeRow row = .valid user) : IsValidTelegramUserId user.telegramUserId := by
  cases row with
  | parseError message => cases h
  | user u =>
      simp only [normalizeRow] at h
      split at h
      · cases h
      · rename_i hvalid
        rw [← Normalized.valid.inj h]
        exact not_not.mp hvalid

/-! ## Columns of the stored rows -/

theorem fitsText_safeText (value : SqlValue) {maxLength : ℕ} (hmax : 3 ≤ maxLength) :
    engine.FitsText maxLength (safeText value maxLength) := fun _ => safeText_fits value hmax

theorem isUsernameChar_ne_nul {c : Char} (h : isUsernameChar c = true) : c ≠ Char.ofNat 0 := by
  intro hc
  rw [hc] at h
  revert h
  decide

theorem fitsText_normalizeUsername (value : SqlValue) :
    engine.FitsText 120 (normalizeUsername value) := by
  intro _
  unfold normalizeUsername
  dsimp only
  split
  · exact ⟨by decide, by decide⟩
  · split
    · rename_i h
      refine ⟨?_, ?_⟩
      · rw [String.length_ofList]
        omega
      · rw [String.toList_ofList]
        intro hnul
        exact isUsernameChar_ne_nul (List.all_eq_true.mp h.1 _ hnul) rfl
    · exact ⟨by decide, by decide⟩

/-- Of a valid row only the wallet can be refused. -/
theorem validRow_fits_iff {row : DumpRow} {user : NormalizedUser}
    (h : normalizeRow row = .valid user) :
    (validRow job db user).Fits engine ↔ ∀ wallet ∈ user.wallet, engine.FitsInt wallet := by
  constructor
  · intro hfits
    exact hfits.2.1
  · intro hwallet
    cases row with
    | parseError message => cases h
    | user u =>
        simp only [normalizeRow] at h
        split at h
        · cases h
        · rename_i hvalid
          obtain rfl := Normalized.valid.inj h
          refine ⟨fun _ => ?_, hwallet, fitsText_safeText _ (by decide),
            fitsText_normalizeUsername _, fitsText_safeText _ (by decide),
            fitsText_safeText _ (by decide), fitsText_safeText _ (by decide)⟩
          have hid := validUserId_fits (not_not.mp hvalid)
          exact ⟨hid.1.trans (by decide), hid.2⟩

/-- Of an invalid row only the id can be refused. -/
theorem invalidRow_fits_iff {row : DumpRow} {telegramUserId legacyPk reason error : String}
    (h : normalizeRow row = .invalid telegramUserId legacyPk reason error) (sequence : ℕ) :
    (invalidRow job telegramUserId legacyPk reason sequence).Fits engine ↔
      engine.FitsText 80 (invalidRowId telegramUserId sequence) := by
  have hempty (n : ℕ) : engine.FitsText n "" := fun _ => ⟨Nat.zero_le n, by decide⟩
  have hpk : engine.FitsText 80 legacyPk := by
    cases row with
    | parseError message =>
        rw [← (Normalized.invalid.inj h).2.1]
        exact hempty 80
    | user u =>
        simp only [normalizeRow] at h
        split at h
        · rw [← (Normalized.invalid.inj h).2.1]
          exact fitsText_safeText _ (by decide)
        · cases h
  constructor
  · intro hfits
    exact hfits.1
  · intro hid
    exact ⟨hid, by simp [invalidRow], hpk, hempty _, hempty _, hempty _, hempty _⟩

/-! ## The condition -/

/-- The ids under which the invalid rows of a dump are stored, after the first `parsed` rows. -/
def invalidIds (parsed : ℕ) (os : List (DumpRow × RowOutcome)) : List String :=
  (os.zipIdx (parsed + 1)).filterMap fun o =>
    match normalizeRow o.1.1 with
    | .invalid telegramUserId _ _ _ => some (invalidRowId telegramUserId o.2)
    | .valid _ => none

/-- The invalid rows have ids of their own that fit, the wallets of the valid rows fit, and so does
the number of rows. -/
structure Importable (engine : Engine) (os : List (DumpRow × RowOutcome)) : Prop where
  distinct : (invalidIds 0 os).Nodup
  ids_fit : ∀ id ∈ invalidIds 0 os, engine.FitsText 80 id
  wallets_fit : ∀ o ∈ os, o.2 = .valid → ∀ user, normalizeRow o.1 = .valid user →
    ∀ wallet ∈ user.wallet, engine.FitsInt wallet
  length_fits : engine.FitsInt os.length

theorem invalidIds_cons (parsed : ℕ) (o : DumpRow × RowOutcome)
    (os : List (DumpRow × RowOutcome)) :
    invalidIds parsed (o :: os) =
      (match normalizeRow o.1 with
        | .invalid telegramUserId _ _ _ => [invalidRowId telegramUserId (parsed + 1)]
        | .valid _ => []) ++ invalidIds (parsed + 1) os := by
  rw [invalidIds, List.zipIdx_cons, List.filterMap_cons]
  cases normalizeRow o.1 <;> rfl

theorem not_isValid_of_mem_invalidIds {parsed : ℕ} {os : List (DumpRow × RowOutcome)} {id : String}
    (h : id ∈ invalidIds parsed os) : ¬ IsValidTelegramUserId id := by
  obtain ⟨o, _, ho⟩ := List.mem_filterMap.mp h
  cases hrow : normalizeRow o.1.1 with
  | invalid telegramUserId legacyPk reason error =>
      rw [hrow] at ho
      rw [← Option.some.inj ho]
      exact not_isValid_invalidRowId hrow o.2
  | valid user =>
      rw [hrow] at ho
      cases ho

/-- The rows that are stored: of the valid rows no user twice, and of the invalid rows their ids. -/
theorem storedRows_spec (job : ImportJob) (db : ImportDb) (rows : List DumpRow) (parsed valid : ℕ)
    (seen : List String) :
    let os := outcomes job.limit valid seen rows
    let stored := storedRows job db parsed os
    ((stored.map (·.telegramUserId)).Nodup ↔ (invalidIds parsed os).Nodup) ∧
      (∀ id ∈ stored.map (·.telegramUserId),
        id ∈ invalidIds parsed os ∨ IsValidTelegramUserId id ∧ id ∉ seen) ∧
      (∀ id ∈ invalidIds parsed os, id ∈ stored.map (·.telegramUserId)) ∧
      ((∀ r ∈ stored, r.Fits engine) ↔ (∀ id ∈ invalidIds parsed os, engine.FitsText 80 id) ∧
        ∀ o ∈ os, o.2 = .valid → ∀ user, normalizeRow o.1 = .valid user →
          ∀ wallet ∈ user.wallet, engine.FitsInt wallet) ∧
      ∀ r ∈ stored, r.job = job.pk := by
  induction rows generalizing parsed valid seen with
  | nil => simp [outcomes, storedRows, invalidIds]
  | cons row rows ih =>
      by_cases hlimit : job.limit ≠ 0 ∧ job.limit ≤ valid
      · dsimp only
        rw [outcomes, if_pos hlimit]
        simp [storedRows, invalidIds]
      · dsimp only at ih ⊢
        rw [outcomes, if_neg hlimit]
        cases hrow : normalizeRow row with
        | invalid telegramUserId legacyPk reason error =>
            obtain ⟨hnodup, hids, hinvalid, hfits, hjob⟩ := ih (parsed + 1) valid seen
            have hstored : storedRow job db (row, .invalid) (parsed + 1) =
                some (invalidRow job telegramUserId legacyPk reason (parsed + 1)) := by
              simp only [storedRow, hrow]
            have hbad := not_isValid_invalidRowId hrow (parsed + 1)
            dsimp only
            rw [storedRows_cons, hstored, invalidIds_cons, hrow]
            simp only [Option.toList_some, List.singleton_append, List.map_cons, List.nodup_cons,
              List.forall_mem_cons, hnodup, hfits, invalidRow_fits_iff hrow]
            have hmem : (invalidRow job telegramUserId legacyPk reason (parsed + 1)).telegramUserId ∈
                (storedRows job db (parsed + 1) (outcomes job.limit valid seen rows)).map
                  (·.telegramUserId) ↔
                invalidRowId telegramUserId (parsed + 1) ∈
                  invalidIds (parsed + 1) (outcomes job.limit valid seen rows) := by
              constructor
              · intro h
                rcases hids _ h with h | h
                · exact h
                · exact absurd h.1 hbad
              · intro h
                exact hinvalid _ h
            refine ⟨by rw [hmem], ⟨?_, ?_⟩, ⟨?_, ?_⟩, ?_, rfl, hjob⟩
            · exact Or.inl List.mem_cons_self
            · intro id hid
              rcases hids id hid with h | h
              · exact Or.inl (List.mem_cons_of_mem _ h)
              · exact Or.inr h
            · exact List.mem_cons_self
            · intro id hid
              exact List.mem_cons_of_mem _ (hinvalid id hid)
            · simp [and_assoc]
        | valid user =>
            by_cases hseen : user.telegramUserId ∈ seen
            · obtain ⟨hnodup, hids, hinvalid, hfits, hjob⟩ := ih (parsed + 1) valid seen
              have hstored : storedRow job db (row, .duplicate) (parsed + 1) = none := by
                simp only [storedRow, hrow]
              dsimp only
              rw [if_pos hseen, storedRows_cons, hstored, invalidIds_cons, hrow]
              simp only [Option.toList_none, List.nil_append, List.forall_mem_cons]
              refine ⟨hnodup, hids, hinvalid, ?_, hjob⟩
              rw [hfits]
              simp
            · obtain ⟨hnodup, hids, hinvalid, hfits, hjob⟩ :=
                ih (parsed + 1) (valid + 1) (user.telegramUserId :: seen)
              have hstored : storedRow job db (row, .valid) (parsed + 1) =
                  some (validRow job db user) := by
                simp only [storedRow, hrow]
              dsimp only
              rw [if_neg hseen, storedRows_cons, hstored, invalidIds_cons, hrow]
              simp only [Option.toList_some, List.singleton_append, List.map_cons, List.nodup_cons,
                List.forall_mem_cons, List.nil_append, hnodup, hfits, validRow_fits_iff hrow]
              have hnew : (validRow job db user).telegramUserId ∉
                  (storedRows job db (parsed + 1) (outcomes job.limit (valid + 1)
                    (user.telegramUserId :: seen) rows)).map (·.telegramUserId) := by
                intro h
                rcases hids _ h with h | h
                · exact not_isValid_of_mem_invalidIds h (isValid_of_valid hrow)
                · exact h.2 List.mem_cons_self
              refine ⟨⟨fun h => h.2, fun h => ⟨hnew, h⟩⟩, ⟨?_, ?_⟩, ?_, ?_, rfl, hjob⟩
              · exact Or.inr ⟨isValid_of_valid hrow, hseen⟩
              · intro id hid
                rcases hids id hid with h | h
                · exact Or.inl h
                · exact Or.inr ⟨h.1, fun hmem => h.2 (List.mem_cons_of_mem _ hmem)⟩
              · intro id hid
                exact List.mem_cons_of_mem _ (hinvalid id hid)
              · have hwallet : (∀ u, normalizeRow row = .valid u →
                    ∀ wallet ∈ u.wallet, engine.FitsInt wallet) ↔
                      ∀ wallet ∈ user.wallet, engine.FitsInt wallet := by
                  rw [hrow]
                  exact ⟨fun h => h user rfl, fun h u hu => Normalized.valid.inj hu ▸ h⟩
                simp only [forall_const, hrow, Normalized.valid.injEq, forall_eq'] at hwallet ⊢
                constructor
                · intro h
                  exact ⟨h.2.1, h.1, h.2.2⟩
                · intro h
                  exact ⟨h.2.1, h.1, h.2.2⟩

/-! ## The whole analysis -/

theorem storable_deleteRows_iff {stored : List ImportRow} (hjob : ∀ r ∈ stored, r.job = job.pk) :
    Storable engine (db.deleteRows job.pk) stored ↔
      (∀ r ∈ stored, r.Fits engine) ∧ (stored.map (·.telegramUserId)).Nodup := by
  have hkeys : stored.map ImportRow.key = (stored.map (·.telegramUserId)).map (Prod.mk job.pk) := by
    rw [List.map_map]
    apply List.map_congr_left
    intro r hr
    rw [ImportRow.key, hjob r hr]
    rfl
  have hdisjoint : ∀ a ∈ (db.deleteRows job.pk).rows.map ImportRow.key,
      ∀ b ∈ stored.map ImportRow.key, a ≠ b := by
    intro a ha b hb heq
    obtain ⟨r, hr, rfl⟩ := List.mem_map.mp ha
    obtain ⟨q, hq, rfl⟩ := List.mem_map.mp hb
    have hne : r.job ≠ job.pk := by simpa [ImportDb.deleteRows] using (List.mem_filter.mp hr).2
    exact hne ((congrArg Prod.fst heq).trans (hjob q hq))
  have hinjective : (stored.map ImportRow.key).Nodup ↔
      (stored.map (·.telegramUserId)).Nodup := by
    rw [hkeys]
    exact List.nodup_map_iff fun a b h => (Prod.mk.inj h).2
  rw [Storable, List.nodup_append, hinjective]
  constructor
  · intro h
    exact ⟨h.1, h.2.2.1⟩
  · intro h
    exact ⟨h.1, (db.deleteRows job.pk).rows_unique, h.2, hdisjoint⟩

theorem counters_fit_iff {c : Counters} (h : ∀ n ∈ c.all, n ≤ c.parsed) :
    c.Fit engine ↔ engine.FitsInt c.parsed := by
  constructor
  · intro hfit
    exact hfit c.parsed (by simp [Counters.all])
  · intro hfit n hn
    have hle := h n hn
    have hmax := hfit.2
    constructor
    · have hnonneg : 0 ≤ engine.intMax := by cases engine <;> decide
      omega
    · omega

/-- What a finished analysis leaves: every row of the dump has been counted under one outcome. -/
structure Conserved (db : ImportDb) (job : ImportJob) (os : List (DumpRow × RowOutcome))
    (db' : ImportDb) (job' : ImportJob) : Prop where
  users : SameUsers db db'
  rows : db'.rows = (db.deleteRows job.pk).rows ++ storedRows job db 0 os
  status : job' = { job with status := .analyzed, counters := job'.counters, summary := {} }
  parsed : job'.counters.parsed = os.length
  valid : job'.counters.valid = os.countP (·.2 = .valid)
  invalid : job'.counters.invalid = os.countP (·.2 = .invalid)
  duplicates : job'.counters.duplicates = os.countP (·.2 = .duplicate)

theorem analyze_spec (hstatus : job.status ≠ .applying) (hfile : job.hasFile = true)
    (rows : List DumpRow) :
    let os := outcomes job.limit 0 [] rows
    let result := analyze engine job rows db
    (Importable engine os → result.2.2 = none ∧ Conserved db job os result.1 result.2.1) ∧
      (¬ Importable engine os → result.2.2 ≠ none) := by
  obtain ⟨hnodup, _, _, hfits, hjob⟩ := @storedRows_spec engine job (db.deleteRows job.pk) rows 0 0 []
  have hspec := @analyzeRows_spec engine job rows { db := db.deleteRows job.pk }
  have hstorable := @storable_deleteRows_iff engine job db _ hjob
  dsimp only at hnodup hfits hspec hstorable ⊢
  rw [hnodup, hfits] at hstorable
  have hsame : SameUsers db (db.deleteRows job.pk) := ⟨rfl, rfl, rfl⟩
  rw [analyze, if_neg hstatus, if_neg (not_not_intro hfile)]
  by_cases hst : Storable engine (db.deleteRows job.pk)
      (storedRows job (db.deleteRows job.pk) 0 (outcomes job.limit 0 [] rows))
  · obtain ⟨s', hrun, hdone⟩ := hspec.1 hst
    have hparsed : s'.counters.parsed = (outcomes job.limit 0 [] rows).length := by
      rw [hdone.parsed]
      exact Nat.zero_add _
    have hcounters := @counters_fit_iff engine s'.counters (hdone.bounded (by simp [Counters.all]))
    rw [hparsed] at hcounters
    rw [hrun]
    dsimp only
    have hcond := hstorable.mp hst
    constructor
    · intro h
      rw [if_neg (not_not_intro (hcounters.mpr h.length_fits))]
      refine ⟨rfl, hsame.trans hdone.users, ?_, rfl, hparsed, ?_, ?_, ?_⟩
      · rw [← storedRows_congr hsame]
        exact hdone.rows
      · exact hdone.valid.trans (Nat.zero_add _)
      · exact hdone.invalid.trans (Nat.zero_add _)
      · exact hdone.duplicates.trans (Nat.zero_add _)
    · intro h
      have hno : ¬ s'.counters.Fit engine := fun hfit =>
        h ⟨hcond.2, hcond.1.1, hcond.1.2, hcounters.mp hfit⟩
      rw [if_pos hno]
      simp
  · obtain ⟨s', e, hrun⟩ := hspec.2 hst
    rw [hrun]
    constructor
    · intro h
      exact absurd (hstorable.mpr ⟨⟨h.ids_fit, h.wallets_fit⟩, h.distinct⟩) hst
    · intro _
      simp

/-- The outcomes are those of the first rows of the dump, and of all where there is no limit. -/
theorem outcomes_prefix (limit : ℕ) (rows : List DumpRow) (valid : ℕ) (seen : List String) :
    (outcomes limit valid seen rows).map (·.1) <+: rows ∧
      (limit = 0 → (outcomes limit valid seen rows).map (·.1) = rows) := by
  induction rows generalizing valid seen with
  | nil => simp [outcomes]
  | cons row rows ih =>
      by_cases hlimit : limit ≠ 0 ∧ limit ≤ valid
      · rw [outcomes, if_pos hlimit]
        exact ⟨List.nil_prefix, fun h => absurd h hlimit.1⟩
      · rw [outcomes, if_neg hlimit]
        cases normalizeRow row with
        | invalid telegramUserId legacyPk reason error =>
            simpa using ih valid seen
        | valid user =>
            by_cases hseen : user.telegramUserId ∈ seen
            · simpa [hseen] using ih valid seen
            · simpa [hseen] using ih (valid + 1) (user.telegramUserId :: seen)

theorem countP_outcomes (os : List (DumpRow × RowOutcome)) :
    os.length = os.countP (·.2 = .valid) + os.countP (·.2 = .invalid) +
      os.countP (·.2 = .duplicate) := by
  induction os with
  | nil => rfl
  | cons o os ih =>
      rw [List.length_cons, List.countP_cons, List.countP_cons, List.countP_cons, ih]
      cases ho : o.2 <;> simp <;> omega

end Qasedak.WizwizImport
