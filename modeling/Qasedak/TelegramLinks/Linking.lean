import Qasedak.Foundation.Serial
import Qasedak.Revenue.Guards
import Qasedak.Store.Naming
import Qasedak.Foundation.Run

/-! `store/telegram_link_services.py`: the tokens by which a customer of the site links a Telegram
account. Each function is one transaction, at the time at which it was called. -/

namespace Qasedak.TelegramLinks

open Foundation Store

/-! ## Rows -/

/-- `WebTelegramLinkToken.Status`. -/
inductive TokenStatus where
  | active
  | used
  | expired
  | revoked
  deriving DecidableEq, Repr

/-- `WebTelegramLinkToken.Source`. -/
inductive TokenSource where
  | dashboard
  | orderDetail
  | afterCheckout
  | admin
  deriving DecidableEq, Repr

structure WebTelegramLinkToken where
  pk : ℕ
  customer : ℕ
  tokenHash : String
  status : TokenStatus := .active
  botUser : Option ℕ := none
  expiresAt : Instant
  usedAt : Option Instant := none
  revokedAt : Option Instant := none
  source : TokenSource := .dashboard
  deriving DecidableEq, Repr

structure LinkBotUser where
  pk : ℕ
  customer : Option ℕ
  isActive : Bool := true
  deriving DecidableEq, Repr

/-- The change of a bot user's owner by a token, which is kept as it was found. -/
structure OwnerChange where
  token : WebTelegramLinkToken
  botUser : LinkBotUser
  calledAt : Instant
  deriving DecidableEq, Repr

/-- The tables, and the changes of owners so far, the last one first. -/
structure LinkDb where
  customers : List ℕ
  tokens : Serial WebTelegramLinkToken.pk := .empty
  botUsers : Serial LinkBotUser.pk := .empty
  changes : List OwnerChange := []

/-! ## Messages -/

def successMessage : String :=
  "✅ حساب شما به ربات وصل شد\n\n" ++
  "از این به بعد می‌توانید سرویس‌ها، تمدید، یادآوری‌ها و پشتیبانی را از داخل ربات مدیریت کنید."

def alreadyLinkedMessage : String := "حساب شما قبلاً به ربات وصل شده است."

def conflictMessage : String :=
  "این حساب تلگرام قبلاً به یک حساب دیگر وصل شده است. برای تغییر اتصال با پشتیبانی تماس بگیرید."

def invalidMessage : String :=
  "لینک اتصال نامعتبر یا منقضی شده است. لطفاً از داشبورد سایت لینک جدید بگیرید."

/-- `TelegramLinkResult`. -/
structure LinkResult where
  success : Bool
  code : String
  message : String
  customer : Option ℕ := none
  token : Option ℕ := none
  deriving DecidableEq, Repr

/-! ## Creation -/

/-- `WEB_TELEGRAM_LINK_TOKEN_TTL_DAYS`. -/
def tokenTtlDays : ℕ := 7

/-- `_clean_source`. -/
def cleanSource (source : String) : TokenSource :=
  match strip source with
  | "order_detail" => .orderDetail
  | "after_checkout" => .afterCheckout
  | "admin" => .admin
  | _ => .dashboard

namespace LinkDb

variable (hash : String → String) (db : LinkDb) (now : Instant)

/-- The update of a token that `revoke_old_active_link_tokens` makes. -/
def revoked (customer : ℕ) (t : WebTelegramLinkToken) : WebTelegramLinkToken :=
  if t.customer = customer ∧ t.status = .active then
    { t with status := .revoked, revokedAt := some now }
  else t

theorem revoked_pk (customer : ℕ) (t : WebTelegramLinkToken) :
    (revoked now customer t).pk = t.pk := by
  simp only [revoked]
  split
  · rfl
  · rfl

/-- `revoke_old_active_link_tokens`. -/
def revokeOldActiveLinkTokens (customer : ℕ) : LinkDb :=
  { db with
    tokens := db.tokens.modify (fun _ => true) (revoked now customer) (revoked_pk now customer) }

def newToken (customer : ℕ) (source : TokenSource) (raw : String) (pk : ℕ) :
    WebTelegramLinkToken where
  pk := pk
  customer := customer
  tokenHash := hash raw
  expiresAt := now + Revenue.days tokenTtlDays
  source := source

/-- The first of the drawn texts whose hash no token has. -/
def freshRaw (raws : List String) : Option String :=
  (raws.take 5).find? fun raw => db.tokens.rows.all fun t => t.tokenHash ≠ hash raw

/-- `create_web_telegram_link_token`, with the texts that `_new_raw_token` draws. Where none of
them is new, the error is raised after the transaction. -/
def createWebTelegramLinkToken (customer : ℕ) (source : String) (raws : List String) :
    LinkDb × Except String String :=
  if customer ∉ db.customers then (db, .error "Customer matching query does not exist.")
  else
    let db := db.revokeOldActiveLinkTokens now customer
    match db.freshRaw hash raws with
    | none => (db, .error "Could not create a unique Telegram link token.")
    | some raw =>
        let token := newToken hash now customer (cleanSource source) raw
        ({ db with tokens := db.tokens.append token fun _ => rfl }, .ok raw)

/-! ## Linking -/

/-- The token with a hash; there is one at most. -/
def tokenOf (raw : String) : Option WebTelegramLinkToken :=
  db.tokens.rows.find? (·.tokenHash = hash raw)

def setStatus (token : WebTelegramLinkToken) (status : TokenStatus) : LinkDb :=
  { db with
    tokens := db.tokens.modify (·.pk = token.pk) (fun t => { t with status := status })
      fun _ => rfl }

/-- `_mark_token_used`. -/
def markTokenUsed (token : WebTelegramLinkToken) (botUser : ℕ) : LinkDb :=
  { db with
    tokens := db.tokens.modify (·.pk = token.pk)
      (fun t => { t with status := .used, botUser := some botUser, usedAt := some now })
      fun _ => rfl }

/-- The bot user gets the customer of the token. -/
def setOwner (token : WebTelegramLinkToken) (botUser : LinkBotUser) : LinkDb :=
  { db with
    botUsers := db.botUsers.modify (·.pk = botUser.pk)
      (fun b => { b with customer := some token.customer, isActive := true }) fun _ => rfl
    changes := ⟨token, botUser, now⟩ :: db.changes }

/-- The part of `link_bot_user_to_customer` under the locks of the token and the bot user. -/
def linkLocked (token : WebTelegramLinkToken) (botUser : LinkBotUser) : LinkDb × LinkResult :=
  let invalid : LinkResult :=
    { success := false, code := "invalid_token", message := invalidMessage, token := token.pk }
  let already : LinkResult :=
    { success := true
      code := "already_linked"
      message := alreadyLinkedMessage
      customer := token.customer
      token := token.pk }
  if token.status = .used then
    if token.botUser = some botUser.pk ∧ botUser.customer = some token.customer then (db, already)
    else (db, invalid)
  else if token.status ≠ .active then (db, invalid)
  else if token.expiresAt ≤ now then
    (db.setStatus token .expired, { invalid with code := "expired_token" })
  else if botUser.customer = some token.customer then
    (db.markTokenUsed now token botUser.pk, already)
  else if botUser.customer ≠ none then
    (db,
      { success := false
        code := "bot_user_customer_conflict"
        message := conflictMessage
        customer := token.customer
        token := token.pk })
  else
    ((db.setOwner now token botUser).markTokenUsed now token botUser.pk,
      { already with code := "linked", message := successMessage })

/-- `link_bot_user_to_customer`. -/
def linkBotUserToCustomer (raw : String) (botUser : Option ℕ) : LinkDb × Except String LinkResult :=
  match botUser with
  | none =>
      (db, .ok { success := false, code := "invalid_bot_user", message := invalidMessage })
  | some pk =>
      match db.tokenOf hash raw with
      | none => (db, .ok { success := false, code := "invalid_token", message := invalidMessage })
      | some token =>
          match db.botUsers.get? pk with
          | none => (db, .error "BotUser matching query does not exist.")
          | some botUser =>
              let (db, result) := db.linkLocked now token botUser
              (db, .ok result)

/-- `validate_web_telegram_link_token`. -/
def validateWebTelegramLinkToken (raw : String) : LinkDb × Option WebTelegramLinkToken :=
  match db.tokenOf hash raw with
  | none => (db, none)
  | some token =>
      if token.status ≠ .active then (db, none)
      else if token.expiresAt ≤ now then (db.setStatus token .expired, none)
      else (db, some token)

end LinkDb

/-! ## Runs -/

/-- A call, at its time. -/
inductive LinkCall where
  | create (now : Instant) (customer : ℕ) (source : String) (raws : List String)
  | link (now : Instant) (raw : String) (botUser : Option ℕ)
  | validate (now : Instant) (raw : String)

def LinkDb.step (hash : String → String) (db : LinkDb) : LinkCall → LinkDb
  | .create now customer source raws =>
      (db.createWebTelegramLinkToken hash now customer source raws).1
  | .link now raw botUser => (db.linkBotUserToCustomer hash now raw botUser).1
  | .validate now raw => (db.validateWebTelegramLinkToken hash now raw).1

end Qasedak.TelegramLinks

/-! Whatever the order of the calls: a customer has one token at most that is active, and a token
gives one bot user at most an owner, who had none. -/

namespace Qasedak.TelegramLinks

open Foundation Store

/-! ## What one call does -/

/-- A change of the tokens that makes none of them active. -/
structure Retires (g : WebTelegramLinkToken → WebTelegramLinkToken) : Prop where
  pk : ∀ t, (g t).pk = t.pk
  active : ∀ t, (g t).status = .active → g t = t

inductive Does (db : LinkDb) : LinkDb → Prop
  | retires {db' : LinkDb} {g : WebTelegramLinkToken → WebTelegramLinkToken} (hg : Retires g)
      (htokens : db'.tokens.rows = db.tokens.rows.map g) (hbotUsers : db'.botUsers = db.botUsers)
      (hchanges : db'.changes = db.changes) : Does db db'
  /-- A token is made, and the active ones of its customer are revoked. -/
  | creates {db' : LinkDb} {g : WebTelegramLinkToken → WebTelegramLinkToken}
      {token : WebTelegramLinkToken} (hg : Retires g)
      (htokens : db'.tokens.rows = db.tokens.rows.map g ++ [token])
      (hrevoked : ∀ t, t.customer = token.customer → (g t).status ≠ .active)
      (hcustomer : ∀ t, (g t).customer = t.customer)
      (hbotUsers : db'.botUsers = db.botUsers) (hchanges : db'.changes = db.changes) : Does db db'
  | links {now : Instant} {token : WebTelegramLinkToken} {botUser : LinkBotUser}
      (htoken : token ∈ db.tokens.rows) (hactive : token.status = .active)
      (hexpires : now < token.expiresAt) (hbotUser : botUser ∈ db.botUsers.rows)
      (hfree : botUser.customer = none) :
      Does db ((db.setOwner now token botUser).markTokenUsed now token botUser.pk)

section Inversion

variable {hash : String → String} {db : LinkDb} {now : Instant}

theorem retires_id : Retires id := ⟨fun _ => rfl, fun _ _ => rfl⟩

theorem retires_revoked (customer : ℕ) : Retires (LinkDb.revoked now customer) where
  pk := LinkDb.revoked_pk now customer
  active := by
    intro t ht
    simp only [LinkDb.revoked] at ht ⊢
    split at ht
    · cases ht
    · rename_i h
      rw [if_neg h]

/-- A change of one token, to a status that is not active. -/
theorem retires_ite (k : ℕ) {f : WebTelegramLinkToken → WebTelegramLinkToken}
    (hpk : ∀ t, (f t).pk = t.pk) (hstatus : ∀ t, (f t).status ≠ .active) :
    Retires fun t => if t.pk = k then f t else t where
  pk := by
    intro t
    split
    · exact hpk t
    · rfl
  active := by
    intro t ht
    split at ht
    · exact absurd ht (hstatus t)
    · rename_i h
      rw [if_neg h]

theorem Does.refl : Does db db :=
  .retires retires_id (List.map_id _).symm rfl rfl

theorem does_setStatus (token : WebTelegramLinkToken) {status : TokenStatus}
    (hstatus : status ≠ .active) : Does db (db.setStatus token status) := by
  have hset : Retires fun t : WebTelegramLinkToken =>
      if t.pk = token.pk then { t with status := status } else t := by
    apply retires_ite
    · intro t
      rfl
    · intro t
      exact hstatus
  apply Does.retires hset
  · simp [LinkDb.setStatus]
  · rfl
  · rfl

theorem retires_used (now : Instant) (k botUser : ℕ) :
    Retires fun t : WebTelegramLinkToken => if t.pk = k then
      { t with status := .used, botUser := some botUser, usedAt := some now } else t := by
  apply retires_ite
  · intro t
    rfl
  · intro t h
    cases h

theorem rows_markTokenUsed (token : WebTelegramLinkToken) (botUser : ℕ) :
    (db.markTokenUsed now token botUser).tokens.rows = db.tokens.rows.map fun t =>
      if t.pk = token.pk then
        { t with status := .used, botUser := some botUser, usedAt := some now }
      else t := by
  simp [LinkDb.markTokenUsed]

theorem does_markTokenUsed (token : WebTelegramLinkToken) (botUser : ℕ) :
    Does db (db.markTokenUsed now token botUser) :=
  Does.retires (retires_used now token.pk botUser) (rows_markTokenUsed token botUser) rfl rfl

theorem does_create (customer : ℕ) (source : String) (raws : List String) :
    Does db (db.createWebTelegramLinkToken hash now customer source raws).1 := by
  simp only [LinkDb.createWebTelegramLinkToken]
  split
  · exact Does.refl
  · have hrows : (db.revokeOldActiveLinkTokens now customer).tokens.rows =
        db.tokens.rows.map (LinkDb.revoked now customer) := by
      simp [LinkDb.revokeOldActiveLinkTokens]
    split
    · exact Does.retires (retires_revoked customer) hrows rfl rfl
    · rename_i raw _
      apply Does.creates (retires_revoked customer)
      · simp only [Serial.append, hrows]
        rfl
      · intro t ht
        simp only [LinkDb.revoked]
        by_cases hactive : t.status = .active
        · rw [if_pos ⟨ht, hactive⟩]
          intro h
          cases h
        · rw [if_neg fun h => hactive h.2]
          exact hactive
      · intro t
        simp only [LinkDb.revoked]
        split
        · rfl
        · rfl
      · rfl
      · rfl

theorem does_linkLocked {token : WebTelegramLinkToken} {botUser : LinkBotUser}
    (htoken : token ∈ db.tokens.rows) (hbotUser : botUser ∈ db.botUsers.rows) :
    Does db (db.linkLocked now token botUser).1 := by
  simp only [LinkDb.linkLocked]
  split
  · split
    · exact Does.refl
    · exact Does.refl
  · split
    · exact Does.refl
    · rename_i hactive
      split
      · exact does_setStatus token (by decide)
      · rename_i hexpires
        split
        · exact does_markTokenUsed token botUser.pk
        · split
          · exact Does.refl
          · rename_i hfree
            exact Does.links htoken (not_not.mp hactive) (not_le.mp hexpires) hbotUser
              (not_not.mp hfree)

theorem does_step (call : LinkCall) : Does db (db.step hash call) := by
  cases call with
  | create now customer source raws => exact does_create customer source raws
  | link now raw botUser =>
      simp only [LinkDb.step, LinkDb.linkBotUserToCustomer]
      split
      · exact Does.refl
      · split
        · exact Does.refl
        · rename_i token htoken
          split
          · exact Does.refl
          · rename_i b hb
            exact does_linkLocked (List.mem_of_find?_eq_some htoken)
              (Serial.get?_eq_some_iff.mp hb).1
  | validate now raw =>
      simp only [LinkDb.step, LinkDb.validateWebTelegramLinkToken]
      split
      · exact Does.refl
      · split
        · exact Does.refl
        · split
          · exact does_setStatus _ (by decide)
          · exact Does.refl

end Inversion

/-! ## What runs keep -/

/-- A customer has one active token at most. -/
def OneActive (db : LinkDb) : Prop :=
  ∀ t ∈ db.tokens.rows, ∀ t' ∈ db.tokens.rows, t.status = .active → t'.status = .active →
    t.customer = t'.customer → t = t'

instance (db : LinkDb) : Decidable (OneActive db) :=
  inferInstanceAs (Decidable (∀ t ∈ db.tokens.rows, ∀ t' ∈ db.tokens.rows, _))

/-- The token was active and not expired, and the bot user had no owner. -/
structure ValidChange (change : OwnerChange) : Prop where
  active : change.token.status = .active
  inTime : change.calledAt < change.token.expiresAt
  free : change.botUser.customer = none

structure Linking (db : LinkDb) : Prop where
  oneActive : OneActive db
  /-- The token of a change is active no more. -/
  retired : ∀ change ∈ db.changes, ∃ t ∈ db.tokens.rows, t.pk = change.token.pk ∧
    t.status ≠ .active
  once : (db.changes.map (·.token.pk)).Nodup
  valid : ∀ change ∈ db.changes, ValidChange change

section Runs

variable {hash : String → String} {db db' : LinkDb}

theorem Retires.not_active {g : WebTelegramLinkToken → WebTelegramLinkToken} (hg : Retires g)
    {t : WebTelegramLinkToken} (ht : t.status ≠ .active) : (g t).status ≠ .active := by
  intro h
  rw [hg.active t h] at h
  exact ht h

theorem Linking.retires (h : Linking db) {g : WebTelegramLinkToken → WebTelegramLinkToken}
    (hg : Retires g) (htokens : db'.tokens.rows = db.tokens.rows.map g)
    (hchanges : db'.changes = db.changes) : Linking db' where
  oneActive := by
    intro t ht t' ht' hactive hactive' hcustomer
    rw [htokens] at ht ht'
    obtain ⟨x, hx, rfl⟩ := List.mem_map.mp ht
    obtain ⟨x', hx', rfl⟩ := List.mem_map.mp ht'
    have hsame := hg.active x hactive
    have hsame' := hg.active x' hactive'
    rw [hsame] at hactive hcustomer ⊢
    rw [hsame'] at hactive' hcustomer ⊢
    exact h.oneActive x hx x' hx' hactive hactive' hcustomer
  retired := by
    intro change hchange
    rw [hchanges] at hchange
    obtain ⟨t, ht, hpk, hstatus⟩ := h.retired change hchange
    rw [htokens]
    exact ⟨g t, List.mem_map_of_mem ht, (hg.pk t).trans hpk, hg.not_active hstatus⟩
  once := by
    rw [hchanges]
    exact h.once
  valid := by
    rw [hchanges]
    exact h.valid

theorem Linking.creates (h : Linking db) {g : WebTelegramLinkToken → WebTelegramLinkToken}
    {token : WebTelegramLinkToken} (hg : Retires g)
    (htokens : db'.tokens.rows = db.tokens.rows.map g ++ [token])
    (hrevoked : ∀ t, t.customer = token.customer → (g t).status ≠ .active)
    (hcustomer : ∀ t, (g t).customer = t.customer) (hchanges : db'.changes = db.changes) :
    Linking db' where
  oneActive := by
    have hother {t : WebTelegramLinkToken} (ht : t ∈ db.tokens.rows.map g)
        (hactive : t.status = .active) : t.customer ≠ token.customer := by
      obtain ⟨x, hx, rfl⟩ := List.mem_map.mp ht
      intro hsame
      rw [hcustomer] at hsame
      exact hrevoked x hsame hactive
    intro t ht t' ht' hactive hactive' hsame
    rw [htokens] at ht ht'
    rcases List.mem_append.mp ht with ht | ht
    · rcases List.mem_append.mp ht' with ht' | ht'
      · obtain ⟨x, hx, rfl⟩ := List.mem_map.mp ht
        obtain ⟨x', hx', rfl⟩ := List.mem_map.mp ht'
        have hkept := hg.active x hactive
        have hkept' := hg.active x' hactive'
        rw [hkept] at hactive hsame ⊢
        rw [hkept'] at hactive' hsame ⊢
        exact h.oneActive x hx x' hx' hactive hactive' hsame
      · rw [List.mem_singleton.mp ht'] at hsame
        exact absurd hsame (hother ht hactive)
    · rcases List.mem_append.mp ht' with ht' | ht'
      · rw [List.mem_singleton.mp ht] at hsame
        exact absurd hsame.symm (hother ht' hactive')
      · rw [List.mem_singleton.mp ht, List.mem_singleton.mp ht']
  retired := by
    intro change hchange
    rw [hchanges] at hchange
    obtain ⟨t, ht, hpk, hstatus⟩ := h.retired change hchange
    rw [htokens]
    exact ⟨g t, List.mem_append_left _ (List.mem_map_of_mem ht), (hg.pk t).trans hpk,
      hg.not_active hstatus⟩
  once := by
    rw [hchanges]
    exact h.once
  valid := by
    rw [hchanges]
    exact h.valid

theorem Linking.does (h : Linking db) (hdoes : Does db db') : Linking db' := by
  cases hdoes with
  | retires hg htokens _ hchanges => exact h.retires hg htokens hchanges
  | creates hg htokens hrevoked hcustomer _ hchanges =>
      exact h.creates hg htokens hrevoked hcustomer hchanges
  | @links now token botUser htoken hactive hexpires hbotUser hfree =>
      have hused := retires_used now token.pk botUser.pk
      have hmark : Linking (db.markTokenUsed now token botUser.pk) :=
        h.retires hused (rows_markTokenUsed token botUser.pk) rfl
      exact {
        oneActive := hmark.oneActive
        retired := by
          intro change hchange
          rcases List.mem_cons.mp hchange with rfl | hchange
          · refine ⟨{ token with status := .used, botUser := some botUser.pk, usedAt := some now },
              ?_, rfl, fun hused => by cases hused⟩
            exact List.mem_map.mpr ⟨token, htoken, by simp⟩
          · exact hmark.retired change hchange
        once := by
          refine List.nodup_cons.mpr ⟨fun hmem => ?_, h.once⟩
          obtain ⟨change, hchange, hpk⟩ := List.mem_map.mp hmem
          obtain ⟨t, ht, htpk, hstatus⟩ := h.retired change hchange
          obtain rfl := Serial.eq_of_key_eq ht htoken (htpk.trans hpk)
          exact hstatus hactive
        valid := by
          intro change hchange
          rcases List.mem_cons.mp hchange with rfl | hchange
          · exact ⟨hactive, hexpires, hfree⟩
          · exact h.valid change hchange }

/-- A bot user without an owner gets the customer of a valid token. -/
structure Links (db db' : LinkDb) (change : OwnerChange) : Prop where
  changes : db'.changes = change :: db.changes
  valid : ValidChange change
  token : change.token ∈ db.tokens.rows
  botUser : change.botUser ∈ db.botUsers.rows
  botUsers : db'.botUsers.rows = db.botUsers.rows.map fun b =>
    if b.pk = change.botUser.pk then
      { b with customer := some change.token.customer, isActive := true }
    else b

/-- A call that changes an owner records it. -/
theorem links_step (db : LinkDb) (call : LinkCall) :
    (db.step hash call).botUsers = db.botUsers ∧ (db.step hash call).changes = db.changes ∨
      ∃ change, Links db (db.step hash call) change := by
  generalize hdb' : db.step hash call = db'
  have hdoes : Does db db' := hdb' ▸ does_step call
  cases hdoes with
  | retires _ _ hbotUsers hchanges => exact Or.inl ⟨hbotUsers, hchanges⟩
  | creates _ _ _ _ hbotUsers hchanges => exact Or.inl ⟨hbotUsers, hchanges⟩
  | @links now token botUser htoken hactive hexpires hbotUser hfree =>
      right
      refine ⟨⟨token, botUser, now⟩, rfl, ⟨hactive, hexpires, hfree⟩, htoken, hbotUser, ?_⟩
      simp [LinkDb.markTokenUsed, LinkDb.setOwner]

theorem owner_kept {b : LinkBotUser} (hb : b ∈ db.botUsers.rows) (howned : b.customer ≠ none)
    (call : LinkCall) : b ∈ (db.step hash call).botUsers.rows := by
  rcases links_step db call with ⟨hsame, -⟩ | ⟨change, hlinks⟩
  · rw [hsame]
    exact hb
  · rw [hlinks.botUsers]
    refine List.mem_map.mpr ⟨b, hb, if_neg fun hpk => ?_⟩
    obtain rfl := Serial.eq_of_key_eq hb hlinks.botUser hpk
    exact howned hlinks.valid.free

/-- What link tokens promise of the calls made so far and of the calls after them. -/
structure LinksOnce (hash : String → String) (db : LinkDb) (calls : List LinkCall) : Prop where
  oneActive : OneActive (run (LinkDb.step hash) db calls)
  once : ((run (LinkDb.step hash) db calls).changes.map (·.token.pk)).Nodup
  valid : ∀ change ∈ (run (LinkDb.step hash) db calls).changes, ValidChange change
  owned : ∀ b ∈ (run (LinkDb.step hash) db calls).botUsers.rows, b.customer ≠ none →
    ∀ more, b ∈ (run (LinkDb.step hash) db (calls ++ more)).botUsers.rows
  /-- Every change of an owner is recorded. -/
  recorded : ∀ call,
    let before := run (LinkDb.step hash) db calls
    let after := before.step hash call
    after.botUsers = before.botUsers ∧ after.changes = before.changes ∨
      ∃ change, Links before after change

/-- Any calls, for any customers and bot users at any times, in any order. -/
theorem tokens_link_once (hash : String → String) (db : LinkDb) (hactive : OneActive db)
    (hchanges : db.changes = []) (calls : List LinkCall) : LinksOnce hash db calls := by
  have hstart : Linking db := by
    constructor
    · exact hactive
    · simp [hchanges]
    · simp [hchanges]
    · simp [hchanges]
  have hrun : Linking (run (LinkDb.step hash) db calls) :=
    run_invariant (fun _ call h => h.does (does_step call)) calls hstart
  exact {
    oneActive := hrun.oneActive
    once := hrun.once
    valid := hrun.valid
    owned := by
      intro b hb howned more
      rw [run_append]
      exact @run_invariant _ _ (LinkDb.step hash) (fun db => b ∈ db.botUsers.rows)
        (fun _ call hb => owner_kept hb howned call) _ more hb
    recorded := links_step (run (LinkDb.step hash) db calls) }

/-- A link, and a second token that the bot user cannot use for another customer. -/
def twoTokens : List LinkCall :=
  [.create 0 1 "dashboard" ["a"], .create 0 2 "dashboard" ["b"], .link 1 "a" (some 1),
    .link 2 "b" (some 1), .link 3 "a" (some 2)]

def twoCustomers : LinkDb where
  customers := [1, 2]
  botUsers := (Serial.empty.append (fun pk => ⟨pk, none, true⟩) fun _ => rfl).append
    (fun pk => ⟨pk, none, true⟩) fun _ => rfl

theorem tokens_link_once_twoTokens : LinksOnce id twoCustomers twoTokens :=
  tokens_link_once id twoCustomers (by decide) rfl twoTokens

example : (run (LinkDb.step id) twoCustomers twoTokens).botUsers.rows.map (·.customer) =
    [some 1, none] := by
  decide +kernel

end Runs

end Qasedak.TelegramLinks
