import Qasedak.Store.Naming
import Mathlib
import Qasedak.Foundation.Serial

/-! `store/legacy_wizwiz_import_services.py`: the users of a dump of WizWiz, row by row. -/

namespace Qasedak.WizwizImport

open Store Payments

/-! ## Rows of the dump -/

/-- A value of an `INSERT`. -/
inductive SqlValue where
  | null
  | int (n : ℤ)
  | text (s : String)
  deriving DecidableEq, Repr

/-- The columns that are read; a column that the dump does not have is null. -/
structure DumpUser where
  id : SqlValue := .null
  userid : SqlValue := .null
  name : SqlValue := .null
  username : SqlValue := .null
  phone : SqlValue := .null
  wallet : SqlValue := .null
  refcode : SqlValue := .null
  referedBy : SqlValue := .null
  freetrial : SqlValue := .null
  isAdmin : SqlValue := .null
  isAgent : SqlValue := .null
  deriving DecidableEq, Repr

/-- What `parse_wizwiz_users_from_sql_file` yields. -/
inductive DumpRow where
  | parseError (message : String)
  | user (row : DumpUser)
  deriving DecidableEq, Repr

/-! ## Texts -/

/-- `str(value or "")`. -/
def SqlValue.orEmpty : SqlValue → String
  | .null => ""
  | .int n => if n = 0 then "" else toString n
  | .text s => s

/-- `_safe_text`. -/
def safeText (value : SqlValue) (maxLength : ℕ) : String :=
  let value := match value with
    | .null => ""
    | .int n => toString n
    | .text s => s
  let cleaned := strip (String.ofList (value.toList.filter (· ≠ Char.ofNat 0)))
  if maxLength < cleaned.length then
    String.ofList (cleaned.toList.take (maxLength - 3)) ++ "..."
  else cleaned

/-- `PERSIAN_ARABIC_DIGIT_TRANSLATION` at one character. -/
def asciiDigit (c : Char) : Char :=
  if 0x6F0 ≤ c.toNat ∧ c.toNat ≤ 0x6F9 then Char.ofNat (c.toNat - 0x6F0 + 0x30)
  else if 0x660 ≤ c.toNat ∧ c.toNat ≤ 0x669 then Char.ofNat (c.toNat - 0x660 + 0x30)
  else c

def translateDigits (s : String) : String := String.ofList (s.toList.map asciiDigit)

/-- `_clean_digits`. -/
def cleanDigits (value : SqlValue) : String := strip (translateDigits value.orEmpty)

/-- `is_valid_telegram_user_id`. -/
def IsValidTelegramUserId (value : String) : Prop :=
  let cleaned := (cleanDigits (.text value)).toList
  (1 ≤ cleaned.length ∧ cleaned.length ≤ 32) ∧ cleaned.all isDecimal = true ∧
    0 < intOfDigits cleaned

instance (value : String) : Decidable (IsValidTelegramUserId value) :=
  inferInstanceAs (Decidable (_ ∧ _))

/-- The decimal digits with single underscores between them that `int` reads, as many as it reads. -/
def intDigits (cs : List Char) : Option (List Char) :=
  let groups := cs.splitOn '_'
  let digits := groups.flatten
  if groups.all (fun g => g ≠ [] ∧ g.all isDecimal) ∧ digits.length ≤ 4300 then some digits
  else none

/-- `int` of a text. -/
def pyInt (s : String) : Option ℤ :=
  match (strip s).toList with
  | '-' :: cs => (intDigits cs).map fun ds => -(intOfDigits ds : ℤ)
  | '+' :: cs => (intDigits cs).map fun ds => (intOfDigits ds : ℤ)
  | cs => (intDigits cs).map fun ds => (intOfDigits ds : ℤ)

/-- `_to_int`. -/
def toInt : SqlValue → Option ℤ
  | .null => none
  | .int n => some n
  | .text s => if s = "" then none else pyInt (translateDigits s)

/-- `_to_bool`. -/
def toBool : SqlValue → Bool
  | .null => false
  | .int n => n ≠ 0
  | .text s => (strip s).toLower ∈ ["1", "true", "yes", "y", "on"]

/-- `EMPTY_USERNAME_VALUES`. -/
def emptyUsernameValues : List String :=
  ["", "-", "_", "none", "null", "nil", "n/a", "no", "ندارد", "بدون"]

/-- `[A-Za-z0-9_]`. -/
def isUsernameChar (c : Char) : Bool :=
  'A' ≤ c && c ≤ 'Z' || 'a' ≤ c && c ≤ 'z' || isAsciiDigit c || c = '_'

/-- `normalize_username`. -/
def normalizeUsername (value : SqlValue) : String :=
  let cleaned := (strip (safeText value 120)).toList.dropWhile (· = '@')
  if (String.ofList cleaned).toLower ∈ emptyUsernameValues then ""
  else if cleaned.all isUsernameChar ∧ 5 ≤ cleaned.length ∧ cleaned.length ≤ 32 then
    String.ofList cleaned
  else ""

/-- The digits that are no decimal digits: superscripts, subscripts, and digits in circles and
brackets. -/
def otherDigits : List (ℕ × ℕ) :=
  [(0xB2, 0xB3), (0xB9, 0xB9), (0x1369, 0x1371), (0x19DA, 0x19DA), (0x2070, 0x2070),
    (0x2074, 0x2079), (0x2080, 0x2089), (0x2460, 0x2468), (0x2474, 0x247C), (0x2488, 0x2490),
    (0x24EA, 0x24EA), (0x24F5, 0x24FD), (0x24FF, 0x24FF), (0x2776, 0x277E), (0x2780, 0x2788),
    (0x278A, 0x2792), (0x10A40, 0x10A43), (0x10E60, 0x10E68), (0x11052, 0x1105A),
    (0x1F100, 0x1F10A)]

/-- `str.isdigit` of one character. -/
def isDigitChar (c : Char) : Bool :=
  isDecimal c || otherDigits.any fun r => r.1 ≤ c.toNat && c.toNat ≤ r.2

/-- `normalize_phone`. -/
def normalizePhone (value : SqlValue) : String :=
  let raw := cleanDigits value
  if raw = "" ∨ raw.toLower ∈ emptyUsernameValues then ""
  else
    let digits := raw.toList.filter isDigitChar
    if digits.length < 7 ∨ 15 < digits.length then ""
    else if raw.toList.head? = some '+' then String.ofList ('+' :: digits)
    else String.ofList digits

/-! ## Normalized rows -/

structure NormalizedUser where
  legacyPk : String
  telegramUserId : String
  name : String
  username : String
  phone : String
  wallet : Option ℤ
  freetrial : String
  refcode : String
  referedBy : String
  isAdmin : Bool
  isAgent : Bool
  deriving DecidableEq, Repr

/-- What `normalize_wizwiz_user_row` returns; the id of an invalid row is empty where there is none. -/
inductive Normalized where
  | invalid (telegramUserId legacyPk reason error : String)
  | valid (user : NormalizedUser)
  deriving DecidableEq, Repr

/-- `normalize_wizwiz_user_row`. -/
def normalizeRow : DumpRow → Normalized
  | .parseError message => .invalid "" "" "parse_error" (safeText (.text message) 160)
  | .user row =>
      let telegramUserId := cleanDigits row.userid
      if ¬ IsValidTelegramUserId telegramUserId then
        .invalid telegramUserId (safeText row.id 80) "invalid_userid" "invalid_userid"
      else
        .valid
          { legacyPk := safeText row.id 80
            telegramUserId := telegramUserId
            name := safeText row.name 120
            username := normalizeUsername row.username
            phone := normalizePhone row.phone
            wallet := toInt row.wallet
            freetrial := safeText row.freetrial 120
            refcode := safeText row.refcode 120
            referedBy := safeText row.referedBy 120
            isAdmin := toBool row.isAdmin
            isAgent := toBool row.isAgent }

/-! ## What normalized texts look like -/

theorem toList_strip (s : String) : (strip s).toList = stripChars isSpace s.toList := by
  rw [strip, String.toList_ofList]

theorem mem_of_mem_stripChars {p : Char → Bool} {cs : List Char} {c : Char}
    (h : c ∈ stripChars p cs) : c ∈ cs := by
  unfold stripChars at h
  have hsub := (List.dropWhile_suffix p (l := cs)).subset
  have hsub' := (List.dropWhile_suffix p (l := (cs.dropWhile p).reverse)).subset
  exact hsub (List.mem_reverse.mp (hsub' (List.mem_reverse.mp h)))

/-- A text of a limited length that no column refuses. -/
theorem safeText_fits (value : SqlValue) {maxLength : ℕ} (hmax : 3 ≤ maxLength) :
    (safeText value maxLength).length ≤ maxLength ∧
      Char.ofNat 0 ∉ (safeText value maxLength).toList := by
  unfold safeText
  dsimp only
  generalize hcleaned : strip (String.ofList _) = cleaned
  have hnul : Char.ofNat 0 ∉ cleaned.toList := by
    rw [← hcleaned, toList_strip, String.toList_ofList]
    intro h
    have hmem := mem_of_mem_stripChars h
    simp at hmem
  split
  · constructor
    · simp only [String.length_append, String.length_ofList, List.length_take]
      have hdots : "...".length = 3 := by decide
      omega
    · rw [String.toList_append, String.toList_ofList]
      intro h
      rcases List.mem_append.mp h with h | h
      · exact hnul (List.mem_of_mem_take h)
      · revert h
        decide
  · constructor
    · omega
    · exact hnul

theorem toNat_charOfNat {n : ℕ} (h : n < 0xD800) : (Char.ofNat n).toNat = n := by
  have hvalid : n.isValidChar := Or.inl h
  rw [Char.ofNat, dif_pos hvalid]
  rfl

theorem asciiDigit_asciiDigit (c : Char) : asciiDigit (asciiDigit c) = asciiDigit c := by
  have hascii {n : ℕ} (hn : n < 0x40) : asciiDigit (Char.ofNat n) = Char.ofNat n := by
    rw [asciiDigit, toNat_charOfNat (by omega), if_neg (by omega), if_neg (by omega)]
  by_cases hpersian : 0x6F0 ≤ c.toNat ∧ c.toNat ≤ 0x6F9
  · have hc : asciiDigit c = Char.ofNat (c.toNat - 0x6F0 + 0x30) := if_pos hpersian
    rw [hc]
    exact hascii (by omega)
  · by_cases harabic : 0x660 ≤ c.toNat ∧ c.toNat ≤ 0x669
    · have hc : asciiDigit c = Char.ofNat (c.toNat - 0x660 + 0x30) := by
        rw [asciiDigit, if_neg hpersian, if_pos harabic]
      rw [hc]
      exact hascii (by omega)
    · have hc : asciiDigit c = c := by rw [asciiDigit, if_neg hpersian, if_neg harabic]
      rw [hc, hc]

/-- A cleaned text is not changed by another cleaning. -/
theorem cleanDigits_cleanDigits (value : SqlValue) :
    cleanDigits (.text (cleanDigits value)) = cleanDigits value := by
  have htranslated : translateDigits (cleanDigits value) = cleanDigits value := by
    rw [translateDigits, ← String.toList_inj, String.toList_ofList]
    conv_rhs => rw [← List.map_id (cleanDigits value).toList]
    apply List.map_congr_left
    intro c hc
    rw [cleanDigits, toList_strip, translateDigits, String.toList_ofList] at hc
    obtain ⟨d, _, rfl⟩ := List.mem_map.mp (mem_of_mem_stripChars hc)
    exact asciiDigit_asciiDigit d
  have htext : (SqlValue.text (cleanDigits value)).orEmpty = cleanDigits value := rfl
  rw [cleanDigits, htext, htranslated]
  conv_lhs => rw [cleanDigits]
  rw [strip_strip, cleanDigits]

theorem validUserId_fits {value : SqlValue} (h : IsValidTelegramUserId (cleanDigits value)) :
    (cleanDigits value).length ≤ 32 ∧ Char.ofNat 0 ∉ (cleanDigits value).toList := by
  have hlength := h.1.2
  have hdigits := h.2.1
  rw [cleanDigits_cleanDigits] at hlength hdigits
  refine ⟨hlength, fun hnul => ?_⟩
  have hno := List.all_eq_true.mp hdigits _ hnul
  revert hno
  decide

end Qasedak.WizwizImport

/-! The tables of the import of WizWiz users. -/

namespace Qasedak.WizwizImport

open Foundation Store

/-! ## Columns -/

/-- The databases that the settings know. -/
inductive Engine where
  | sqlite
  | postgres
  deriving DecidableEq, Repr

namespace Engine

/-- The largest number of an integer column. -/
def intMax : Engine → ℤ
  | .sqlite => 2 ^ 63 - 1
  | .postgres => 2 ^ 31 - 1

def FitsInt (engine : Engine) (n : ℤ) : Prop := -engine.intMax - 1 ≤ n ∧ n ≤ engine.intMax

instance (engine : Engine) (n : ℤ) : Decidable (engine.FitsInt n) :=
  inferInstanceAs (Decidable (_ ∧ _))

/-- A column of a limited length takes the text; SQLite has no such limit. -/
def FitsText (engine : Engine) (maxLength : ℕ) (s : String) : Prop :=
  engine = .postgres → s.length ≤ maxLength ∧ Char.ofNat 0 ∉ s.toList

instance (engine : Engine) (maxLength : ℕ) (s : String) : Decidable (engine.FitsText maxLength s) :=
  inferInstanceAs (Decidable (_ → _))

end Engine

inductive DbError where
  | integrityError
  | dataError
  | validationError (message : String)
  deriving DecidableEq, Repr

/-! ## Rows -/

structure BotConfig where
  pk : ℕ
  isTelegram : Bool := true
  isActive : Bool := true
  hasToken : Bool := true
  deriving DecidableEq, Repr

structure ImportBotUser where
  pk : ℕ
  config : ℕ
  customer : Option ℕ := none
  providerUserId : String
  chatId : String := ""
  username : String := ""
  firstName : String := ""
  displayName : String := ""
  isActive : Bool := true
  lastSeenAt : ℕ := 0
  updatedAt : ℕ := 0
  deriving DecidableEq, Repr

/-- `LegacyWizWizImportRow.Status`. -/
inductive RowStatus where
  | pending
  | wouldCreate
  | wouldLinkExisting
  | existing
  | created
  | linked
  | updated
  | skipped
  | invalid
  | failed
  deriving DecidableEq, Repr

/-- `LegacyWizWizImportRow`. -/
structure ImportRow where
  job : ℕ
  telegramUserId : String
  legacyPk : String := ""
  oldUsername : String := ""
  oldWallet : Option ℤ := none
  oldIsAdmin : Bool := false
  oldIsAgent : Bool := false
  oldFreetrial : String := ""
  oldRefcode : String := ""
  oldReferedBy : String := ""
  status : RowStatus := .pending
  reason : String := ""
  botUser : Option ℕ := none
  customer : Option ℕ := none
  /-- `metadata["apply"]["created_customer"]`. -/
  createdCustomer : Bool := false
  deriving DecidableEq, Repr

namespace ImportRow

/-- The constraint `unique_legacy_wizwiz_row_per_job_user`. -/
def key (r : ImportRow) : ℕ × String := (r.job, r.telegramUserId)

def Fits (engine : Engine) (r : ImportRow) : Prop :=
  engine.FitsText 80 r.telegramUserId ∧ (∀ wallet ∈ r.oldWallet, engine.FitsInt wallet) ∧
    engine.FitsText 80 r.legacyPk ∧ engine.FitsText 120 r.oldUsername ∧
    engine.FitsText 120 r.oldFreetrial ∧ engine.FitsText 120 r.oldRefcode ∧
    engine.FitsText 120 r.oldReferedBy

instance (engine : Engine) (r : ImportRow) : Decidable (r.Fits engine) :=
  inferInstanceAs (Decidable (_ ∧ _))

end ImportRow

structure ImportDb where
  /-- In the order of their keys. -/
  configs : List BotConfig := []
  botUsers : Serial ImportBotUser.pk := .empty
  customers : Serial Customer.pk := .empty
  rows : List ImportRow := []
  rows_unique : (rows.map ImportRow.key).Nodup
  /-- The time. -/
  clock : ℕ := 0
  updated_le : ∀ b ∈ botUsers.rows, b.updatedAt ≤ clock

namespace ImportDb

variable (db : ImportDb)

def jobRows (job : ℕ) : List ImportRow := db.rows.filter (·.job = job)

/-- `job.rows.all().delete()`. -/
def deleteRows (job : ℕ) : ImportDb :=
  { db with
    rows := db.rows.filter (·.job ≠ job)
    rows_unique := db.rows_unique.sublist (List.filter_sublist.map _) }

/-- `LegacyWizWizImportRow.objects.create`. -/
def createRow (engine : Engine) (r : ImportRow) : Except DbError ImportDb :=
  if ¬ r.Fits engine then .error .dataError
  else if h : r.key ∈ db.rows.map ImportRow.key then .error .integrityError
  else
    .ok
      { db with
        rows := db.rows ++ [r]
        rows_unique := by
          rw [List.map_append, List.nodup_append]
          refine ⟨db.rows_unique, List.nodup_singleton _, ?_⟩
          intro a ha b hb
          obtain rfl : b = r.key := by simpa using hb
          exact fun heq => h (heq ▸ ha) }

/-- `save` of a row that is there. -/
def saveRow (r : ImportRow) : ImportDb :=
  { db with
    rows := db.rows.map fun q => if q.key = r.key then r else q
    rows_unique := by
      have hkeys : (db.rows.map fun q => if q.key = r.key then r else q).map ImportRow.key =
          db.rows.map ImportRow.key := by
        rw [List.map_map]
        apply List.map_congr_left
        intro q _
        by_cases hq : q.key = r.key <;> simp [hq]
      rw [hkeys]
      exact db.rows_unique }

/-! ## Bot users and customers -/

def isTelegram (config : ℕ) : Bool := db.configs.any fun c => c.pk = config && c.isTelegram

/-- `_default_telegram_bot_config`. -/
def defaultTelegramBotConfig : Option ℕ :=
  let active := db.configs.filter fun c => c.isTelegram && c.isActive
  ((active.find? (·.hasToken)).orElse fun _ => active.head?).map (·.pk)

/-- The order of `_find_existing_bot_user`. -/
def seenBefore (a b : ImportBotUser) : Bool :=
  let rank (u : ImportBotUser) : ℕ := if u.isActive then 0 else 1
  rank a < rank b || rank a = rank b &&
    (b.lastSeenAt < a.lastSeenAt || b.lastSeenAt = a.lastSeenAt &&
      (b.updatedAt < a.updatedAt || b.updatedAt = a.updatedAt && a.pk ≤ b.pk))

/-- The bot users of a Telegram user. -/
def telegramUsers (telegramUserId : String) : List ImportBotUser :=
  db.botUsers.rows.filter fun b => b.providerUserId = telegramUserId && db.isTelegram b.config

def firstSeen (users : List ImportBotUser) : Option ImportBotUser :=
  (users.mergeSort seenBefore).head?

/-- `_find_existing_bot_user`. -/
def findExistingBotUser (telegramUserId : String) (config : Option ℕ) : Option ImportBotUser :=
  let users := db.telegramUsers telegramUserId
  (firstSeen (users.filter fun b => some b.config = config)).orElse fun _ => firstSeen users

def customerByUsername (username : String) : Option ℕ :=
  if username = "" then none
  else (db.customers.rows.find? (·.username = username)).map (·.pk)

/-- `_find_customer_for_normalized`. Usernames and phone numbers that are set are unique. -/
def findCustomer (user : NormalizedUser) (botUser : Option ImportBotUser) : Option ℕ :=
  match botUser.bind (·.customer) with
  | some customer => some customer
  | none =>
      let byPhone := if user.phone = "" then none
        else (db.customers.rows.find? (·.phoneNumber = user.phone)).map (·.pk)
      byPhone.orElse fun _ => db.customerByUsername user.username

end ImportDb

/-! ## Jobs -/

inductive JobStatus where
  | uploaded
  | analyzing
  | analyzed
  | applying
  | applied
  | failed
  | cancelled
  deriving DecidableEq, Repr

/-- The counters of an analysis. -/
structure Counters where
  parsed : ℕ := 0
  valid : ℕ := 0
  invalid : ℕ := 0
  duplicates : ℕ := 0
  existingBotUsers : ℕ := 0
  existingCustomers : ℕ := 0
  wouldCreateBotUsers : ℕ := 0
  wouldCreateCustomers : ℕ := 0
  admins : ℕ := 0
  agents : ℕ := 0
  walletPositive : ℕ := 0
  skipped : ℕ := 0
  deriving DecidableEq, Repr

def Counters.all (c : Counters) : List ℕ :=
  [c.parsed, c.valid, c.invalid, c.duplicates, c.existingBotUsers, c.existingCustomers,
    c.wouldCreateBotUsers, c.wouldCreateCustomers, c.admins, c.agents, c.walletPositive, c.skipped]

/-- The counters of an application. -/
structure ApplySummary where
  createdBotUsers : ℕ := 0
  createdCustomers : ℕ := 0
  linkedExisting : ℕ := 0
  updatedExisting : ℕ := 0
  skipped : ℕ := 0
  failed : ℕ := 0
  deriving DecidableEq, Repr

structure ImportJob where
  pk : ℕ
  status : JobStatus := .uploaded
  hasFile : Bool := true
  skipAdmins : Bool := true
  importAgents : Bool := true
  onlyAgents : Bool := false
  onlyWalletPositive : Bool := false
  updateExisting : Bool := false
  createCustomers : Bool := true
  /-- `_metadata_limit`; zero is none. -/
  limit : ℕ := 0
  counters : Counters := {}
  summary : ApplySummary := {}
  deriving DecidableEq, Repr

end Qasedak.WizwizImport
