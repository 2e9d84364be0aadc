import Qasedak.WizwizImport.Found
import Qasedak.WizwizImport.Importable

/-! A dump that is imported again creates nobody. -/

namespace Qasedak.WizwizImport

open Foundation Store

variable {db db' : ImportDb} {job : ImportJob} {config : ℕ} {telegramUserId : String}
  {user : NormalizedUser}

/-! ## One transaction -/

theorem isTelegram_of_default (h : db.defaultTelegramBotConfig = some config) :
    db.isTelegram config = true := by
  have hmem : ∃ c ∈ db.configs.filter fun c => c.isTelegram && c.isActive, c.pk = config := by
    unfold ImportDb.defaultTelegramBotConfig at h
    dsimp only at h
    obtain ⟨c, hc, hpk⟩ := Option.map_eq_some_iff.mp h
    cases hfind : (db.configs.filter fun c => c.isTelegram && c.isActive).find? (·.hasToken) with
    | some d =>
        rw [hfind] at hc
        obtain rfl : d = c := Option.some.inj hc
        exact ⟨d, List.mem_of_find?_eq_some hfind, hpk⟩
    | none =>
        rw [hfind] at hc
        exact ⟨c, List.mem_of_mem_head? hc, hpk⟩
  obtain ⟨c, hc, hpk⟩ := hmem
  have hboth := List.mem_filter.mp hc
  rw [ImportDb.isTelegram, List.any_eq_true]
  refine ⟨c, hboth.1, ?_⟩
  rw [Bool.and_eq_true] at hboth ⊢
  exact ⟨decide_eq_true hpk, hboth.2.1⟩

theorem telegramUsers_of_not_found
    (h : db.findExistingBotUser telegramUserId (some config) = none) :
    db.telegramUsers telegramUserId = [] := by
  unfold ImportDb.findExistingBotUser at h
  dsimp only at h
  cases hpreferred : ImportDb.firstSeen ((db.telegramUsers telegramUserId).filter fun b =>
      some b.config = some config) with
  | some b =>
      rw [hpreferred] at h
      cases h
  | none =>
      rw [hpreferred] at h
      exact firstSeen_eq_none_iff.mp h

theorem telegramUsers_addBotUser {customer : Option ℕ} (other : String) :
    (db.addBotUser config customer telegramUserId user).telegramUsers other =
      db.telegramUsers other ++
        [db.newBotUser config customer telegramUserId user db.botUsers.next].filter fun b =>
          b.providerUserId = other && db.isTelegram b.config :=
  List.filter_append _ _

/-- A bot user who is created is the one that is found. -/
theorem keepsUsers_addBotUser {customer : Option ℕ}
    (hconfig : db.defaultTelegramBotConfig = some config)
    (hnone : db.findExistingBotUser telegramUserId (some config) = none) :
    (db.addBotUser config customer telegramUserId user).Found telegramUserId
        (db.newBotUser config customer telegramUserId user db.botUsers.next) ∧
      db.KeepsUsers (db.addBotUser config customer telegramUserId user) := by
  have hconfigs : (db.addBotUser config customer telegramUserId user).configs = db.configs := rfl
  have hdefault := defaultTelegramBotConfig_congr hconfigs
  have htelegram := isTelegram_of_default hconfig
  constructor
  · have husers : (db.addBotUser config customer telegramUserId user).telegramUsers
        telegramUserId = [db.newBotUser config customer telegramUserId user db.botUsers.next] := by
      rw [telegramUsers_addBotUser, telegramUsers_of_not_found hnone]
      simp [ImportDb.newBotUser, htelegram]
    rw [ImportDb.Found, hdefault, hconfig, ImportDb.findExistingBotUser, husers]
    simp [ImportDb.newBotUser, ImportDb.firstSeen]
  · intro other c hc
    have hne : telegramUserId ≠ other := by
      intro heq
      rw [← heq, ImportDb.Found, hconfig, hnone] at hc
      cases hc
    refine ⟨c, ?_, id⟩
    have hsame : (db.addBotUser config customer telegramUserId user).telegramUsers other =
        db.telegramUsers other := by
      rw [telegramUsers_addBotUser]
      simp [ImportDb.newBotUser, hne]
    unfold ImportDb.Found ImportDb.findExistingBotUser at hc ⊢
    rw [hdefault, hsame]
    exact hc

theorem importCustomer_spec (botUser : Option ImportBotUser) :
    let r := importCustomer job user db botUser
    (r.1.configs = db.configs ∧ r.1.botUsers = db.botUsers ∧ r.1.rows = db.rows) ∧
      (job.createCustomers = true → r.2.1 ≠ none) ∧
      (botUser.bind (·.customer) ≠ none ∨ job.createCustomers = false → r.1 = db) := by
  dsimp only
  unfold importCustomer
  cases hfind : db.findCustomer user botUser with
  | some customer => exact ⟨⟨rfl, rfl, rfl⟩, fun _ => by simp, fun _ => rfl⟩
  | none =>
      have hnone : botUser.bind (·.customer) = none := by
        by_contra hsome
        obtain ⟨c, hc⟩ := Option.ne_none_iff_exists'.mp hsome
        simp [ImportDb.findCustomer, hc] at hfind
      dsimp only
      split
      · refine ⟨⟨rfl, rfl, rfl⟩, fun _ => by simp, fun h => ?_⟩
        rcases h with h | h
        · exact absurd hnone h
        · simp_all
      · exact ⟨⟨rfl, rfl, rfl⟩, fun h => absurd h ‹_›, fun _ => rfl⟩

theorem importCustomerFields_spec (s : RowImport) :
    let r := importCustomerFields job user s
    r.db.configs = s.db.configs ∧ r.db.botUsers = s.db.botUsers ∧ r.db.rows = s.db.rows ∧
      r.db.customers.next = s.db.customers.next := by
  dsimp only
  unfold importCustomerFields
  split
  · exact ⟨rfl, rfl, rfl, rfl⟩
  · dsimp only
    split
    · exact ⟨rfl, rfl, rfl, rfl⟩
    · exact ⟨rfl, rfl, rfl, rfl⟩

/-- The bot user of a row is found afterwards, with the customer of the row. -/
theorem importBotUser_spec {customer : Option ℕ}
    (hconfig : db.defaultTelegramBotConfig = some config) :
    let botUser := db.findExistingBotUser telegramUserId (some config)
    let r := importBotUser job config telegramUserId user db botUser customer
    (r.db.configs = db.configs ∧ r.db.customers = db.customers ∧ r.db.rows = db.rows) ∧
      (∃ b, r.db.Found telegramUserId b ∧ (customer ≠ none → b.customer ≠ none)) ∧
      db.KeepsUsers r.db ∧
      (botUser ≠ none → r.db.botUsers.next = db.botUsers.next) := by
  dsimp only
  cases hfind : db.findExistingBotUser telegramUserId (some config) with
  | none =>
      obtain ⟨hfound, hkeeps⟩ := @keepsUsers_addBotUser db config telegramUserId user customer
        hconfig hfind
      exact ⟨⟨rfl, rfl, rfl⟩, ⟨_, hfound, id⟩, hkeeps, fun h => absurd rfl h⟩
  | some b =>
      have hfound : db.Found telegramUserId b := by
        rw [ImportDb.Found, hconfig]
        exact hfind
      have hcustomer : customer ≠ none → (refreshedBotUser job user customer b).customer ≠ none := by
        intro h
        simp only [refreshedBotUser]
        split
        · exact h
        · assumption
      unfold importBotUser
      dsimp only
      split
      · rename_i hsame
        refine ⟨⟨rfl, rfl, rfl⟩, ⟨b, hfound, fun h => ?_⟩, keepsUsers_of_eq rfl rfl, fun _ => rfl⟩
        have hsome := hcustomer h
        rw [hsame] at hsome
        exact hsome
      · have hkeeps : b.customer ≠ none → (refreshedBotUser job user customer b).customer ≠ none := by
          intro h
          simp only [refreshedBotUser, if_neg h]
          exact h
        obtain ⟨hfound', hkept⟩ := @keepsUsers_saveBotUser db telegramUserId b
          (refreshedBotUser job user customer b) hfound rfl rfl rfl rfl
          (fun h => by simp [refreshedBotUser, h]) hkeeps
        exact ⟨⟨rfl, rfl, rfl⟩, ⟨_, hfound', hcustomer⟩, hkept, fun _ => rfl⟩

/-- What the import of a row does to the bot users and the customers. -/
structure Imports (job : ImportJob) (telegramUserId : String) (db db' : ImportDb) : Prop where
  configs : db'.configs = db.configs
  rows : db'.rows = db.rows
  keeps : db.KeepsUsers db'
  found : ∃ b, db'.Found telegramUserId b ∧ (job.createCustomers = true → b.customer ≠ none)
  nobody : (∃ b, db.Found telegramUserId b ∧ (job.createCustomers = true → b.customer ≠ none)) →
    db'.botUsers.next = db.botUsers.next ∧ db'.customers.next = db.customers.next

theorem importTransaction_imports (hconfig : db.defaultTelegramBotConfig = some config) :
    Imports job telegramUserId db (importTransaction job config telegramUserId user db).db := by
  have hcustomer := @importCustomer_spec db job user
    (db.findExistingBotUser telegramUserId (some config))
  unfold importTransaction
  dsimp only at hcustomer ⊢
  generalize importCustomer job user db _ = r at hcustomer ⊢
  obtain ⟨db₁, customer, createdCustomer⟩ := r
  obtain ⟨⟨hconfigs₁, husers₁, hrows₁⟩, hcreate, hsame⟩ := hcustomer
  dsimp only at hconfigs₁ husers₁ hrows₁ hcreate hsame ⊢
  have hdefault := defaultTelegramBotConfig_congr hconfigs₁
  rw [← findExistingBotUser_congr hconfigs₁ husers₁]
  rw [← findExistingBotUser_congr hconfigs₁ husers₁] at hsame
  have hbot := @importBotUser_spec db₁ job config telegramUserId user customer
    (hdefault.trans hconfig)
  dsimp only at hbot
  generalize hbotUser : db₁.findExistingBotUser telegramUserId (some config) = botUser at hbot hsame ⊢
  obtain ⟨⟨hconfigs₂, hcustomers₂, hrows₂⟩, hfound, hkeeps, hnext⟩ := hbot
  have hfields := @importCustomerFields_spec job user
    (importBotUser job config telegramUserId user db₁ botUser customer)
  dsimp only at hfields
  obtain ⟨hconfigs₃, husers₃, hrows₃, hcustomers₃⟩ := hfields
  have hkeeps₁ : db.KeepsUsers db₁ := keepsUsers_of_eq hconfigs₁ husers₁
  have hkeeps₃ := @keepsUsers_of_eq _ _ hconfigs₃ husers₃
  constructor
  · rw [hconfigs₃, hconfigs₂, hconfigs₁]
  · rw [hrows₃, hrows₂, hrows₁]
  · exact keepsUsers_trans hkeeps₁ (keepsUsers_trans hkeeps hkeeps₃)
  · obtain ⟨b, hb, hbcustomer⟩ := hfound
    obtain ⟨b', hb', hb'customer⟩ := hkeeps₃ telegramUserId b hb
    exact ⟨b', hb', fun h => hb'customer (hbcustomer (hcreate h))⟩
  · rintro ⟨b, hb, hbcustomer⟩
    have hsome : botUser = some b := by
      rw [← hbotUser, findExistingBotUser_congr hconfigs₁ husers₁, ← hconfig]
      exact hb
    have hdb : db₁ = db := by
      apply hsame
      rw [hsome]
      cases hcc : job.createCustomers with
      | true => exact Or.inl (hbcustomer hcc)
      | false => exact Or.inr rfl
    constructor
    · rw [husers₃, hnext (by simp [hsome]), hdb]
    · rw [hcustomers₃, hcustomers₂, hdb]

/-! ## One row -/

/-- The statuses of a row that was imported. -/
def RowStatus.imported : RowStatus → Bool
  | .created | .linked | .existing | .updated => true
  | _ => false

namespace ImportDb

/-- A Telegram user has a bot user, and a customer where customers are created. -/
def Imported (db : ImportDb) (createCustomers : Bool) (telegramUserId : String) : Prop :=
  ∃ b, db.Found telegramUserId b ∧ (createCustomers = true → b.customer ≠ none)

theorem Imported.keep {createCustomers : Bool} (h : db.Imported createCustomers telegramUserId)
    (hkeeps : db.KeepsUsers db') : db'.Imported createCustomers telegramUserId := by
  obtain ⟨b, hb, hcustomer⟩ := h
  obtain ⟨b', hb', hcustomer'⟩ := hkeeps telegramUserId b hb
  exact ⟨b', hb', fun h => hcustomer' (hcustomer h)⟩

theorem Imported.weaken {createCustomers createCustomers' : Bool}
    (h : db.Imported createCustomers telegramUserId)
    (hle : createCustomers' = true → createCustomers = true) :
    db.Imported createCustomers' telegramUserId := by
  obtain ⟨b, hb, hcustomer⟩ := h
  exact ⟨b, hb, fun h => hcustomer (hle h)⟩

end ImportDb

/-- A row is imported, or nothing is done and its status says so. -/
theorem importRow_spec (normalized : Option NormalizedUser) (row : ImportRow) :
    let r := importRow job normalized db row
    (r.2.key = row.key ∧ r.2.oldWallet = row.oldWallet) ∧
      (r.1 = db ∧ r.2.status.imported = false ∨ Imports job row.telegramUserId db r.1) := by
  dsimp only
  unfold importRow
  split
  · exact ⟨⟨rfl, rfl⟩, Or.inl ⟨rfl, rfl⟩⟩
  · split
    · exact ⟨⟨rfl, rfl⟩, Or.inl ⟨rfl, rfl⟩⟩
    · split
      · exact ⟨⟨rfl, rfl⟩, Or.inl ⟨rfl, rfl⟩⟩
      · rename_i config hconfig
        exact ⟨⟨rfl, rfl⟩, Or.inr (importTransaction_imports hconfig)⟩

/-! ## All rows -/

/-- What no application changes: the rows and their wallets. -/
def ImportDb.wallets (db : ImportDb) : List ((ℕ × String) × Option ℤ) :=
  db.rows.map fun r => (r.key, r.oldWallet)

theorem eq_of_rowKey_eq {r q : ImportRow} (hr : r ∈ db.rows) (hq : q ∈ db.rows)
    (h : r.key = q.key) : r = q := List.inj_on_of_nodup_map db.rows_unique hr hq h

theorem wallets_saveRow {r row : ImportRow} (hrow : row ∈ db.rows) (hkey : r.key = row.key)
    (hwallet : r.oldWallet = row.oldWallet) : (db.saveRow r).wallets = db.wallets := by
  rw [ImportDb.wallets, ImportDb.wallets, ImportDb.saveRow, List.map_map]
  apply List.map_congr_left
  intro q hq
  by_cases hqkey : q.key = r.key
  · have heq := eq_of_rowKey_eq hq hrow (hqkey.trans hkey)
    simp only [Function.comp]
    rw [if_pos hqkey, hkey, hwallet, heq]
  · simp only [Function.comp, if_neg hqkey]

/-- The application of a list of rows, each of which is stored. -/
structure AppliedRows (job : ImportJob) (l : List ImportRow) (db db' : ImportDb) : Prop where
  configs : db'.configs = db.configs
  keeps : db.KeepsUsers db'
  wallets : db'.wallets = db.wallets
  imported : ∀ r ∈ db'.rows, r.key ∈ l.map ImportRow.key → r.status.imported = true →
    db'.Imported job.createCustomers r.telegramUserId
  others : ∀ r ∈ db'.rows, r.key ∉ l.map ImportRow.key → r ∈ db.rows
  nobody : (∀ r ∈ l, db.Imported job.createCustomers r.telegramUserId) →
    db'.botUsers.next = db.botUsers.next ∧ db'.customers.next = db.customers.next

theorem applyRows_applied (dump : List DumpRow) (l : List ImportRow) (hl : ∀ r ∈ l, r ∈ db.rows)
    (hnd : (l.map ImportRow.key).Nodup) : AppliedRows job l db (applyRows job dump l db) := by
  induction l generalizing db with
  | nil =>
      exact ⟨rfl, keepsUsers_of_eq rfl rfl, rfl, fun _ _ h => absurd h List.not_mem_nil,
        fun _ h _ => h, fun _ => ⟨rfl, rfl⟩⟩
  | cons row l ih =>
      have hrow : row ∈ db.rows := hl row List.mem_cons_self
      rw [List.map_cons, List.nodup_cons] at hnd
      obtain ⟨⟨hkey, hwallet⟩, hspec⟩ := @importRow_spec db job
        (normalizedUser dump row.telegramUserId) row
      have hrun : applyRows job dump (row :: l) db = applyRows job dump l
          ((importRow job (normalizedUser dump row.telegramUserId) db row).1.saveRow
            (importRow job (normalizedUser dump row.telegramUserId) db row).2) := rfl
      generalize importRow job (normalizedUser dump row.telegramUserId) db row = r at *
      obtain ⟨db₁, saved⟩ := r
      dsimp only at hkey hwallet hspec hrun
      -- The transaction leaves the rows alone, so the row is saved in its place.
      have hrows₁ : db₁.rows = db.rows := by
        rcases hspec with h | h
        · rw [h.1]
        · exact h.rows
      have hconfigs₁ : db₁.configs = db.configs := by
        rcases hspec with h | h
        · rw [h.1]
        · exact h.configs
      have hkeeps₁ : db.KeepsUsers db₁ := by
        rcases hspec with h | h
        · exact keepsUsers_of_eq (by rw [h.1]) (by rw [h.1])
        · exact h.keeps
      have hsaved : db₁.KeepsUsers (db₁.saveRow saved) := keepsUsers_of_eq rfl rfl
      have hmem (q : ImportRow) (hq : q ∈ db.rows) (hne : q.key ≠ row.key) :
          q ∈ (db₁.saveRow saved).rows := by
        refine List.mem_map.mpr ⟨q, hrows₁.symm ▸ hq, if_neg ?_⟩
        rw [hkey]
        exact hne
      have happlied := @ih (db₁.saveRow saved)
        (fun q hq => hmem q (hl q (List.mem_cons_of_mem _ hq)) fun heq =>
          hnd.1 (heq ▸ List.mem_map_of_mem hq)) hnd.2
      rw [hrun]
      constructor
      · exact happlied.configs.trans hconfigs₁
      · exact keepsUsers_trans hkeeps₁ (keepsUsers_trans hsaved happlied.keeps)
      · rw [happlied.wallets, wallets_saveRow (hrows₁.symm ▸ hrow) hkey hwallet,
          ImportDb.wallets, hrows₁]
        rfl
      · intro q hq hqkey himported
        by_cases hql : q.key ∈ l.map ImportRow.key
        · exact happlied.imported q hq hql himported
        · have hqrow : q.key = row.key := by
            rcases List.mem_cons.mp hqkey with h | h
            · exact h
            · exact absurd h hql
          obtain ⟨x, hx, hxq⟩ := List.mem_map.mp (happlied.others q hq hql)
          have hqsaved : q = saved := by
            by_cases hxkey : x.key = saved.key
            · rw [if_pos hxkey] at hxq
              exact hxq.symm
            · rw [if_neg hxkey] at hxq
              rw [hxq] at hxkey
              exact absurd (hqrow.trans hkey.symm) hxkey
          rw [hqsaved] at himported ⊢
          have hid : saved.telegramUserId = row.telegramUserId := congrArg Prod.snd hkey
          rcases hspec with h | h
          · rw [h.2] at himported
            cases himported
          · rw [hid]
            exact ImportDb.Imported.keep h.found (keepsUsers_trans hsaved happlied.keeps)
      · intro q hq hqkey
        have hnot : q.key ∉ l.map ImportRow.key := fun h => hqkey (List.mem_cons_of_mem _ h)
        obtain ⟨x, hx, hxq⟩ := List.mem_map.mp (happlied.others q hq hnot)
        by_cases hxkey : x.key = saved.key
        · rw [if_pos hxkey] at hxq
          rw [← hxq, hkey] at hqkey
          exact absurd List.mem_cons_self hqkey
        · rw [if_neg hxkey] at hxq
          rw [← hxq, ← hrows₁]
          exact hx
      · intro hall
        have hfirst : db₁.botUsers.next = db.botUsers.next ∧
            db₁.customers.next = db.customers.next := by
          rcases hspec with h | h
          · rw [h.1]
            exact ⟨rfl, rfl⟩
          · exact h.nobody (hall row List.mem_cons_self)
        have hrest := happlied.nobody fun q hq =>
          (hall q (List.mem_cons_of_mem _ hq)).keep (keepsUsers_trans hkeeps₁ hsaved)
        exact ⟨hrest.1.trans hfirst.1, hrest.2.trans hfirst.2⟩

end Qasedak.WizwizImport
