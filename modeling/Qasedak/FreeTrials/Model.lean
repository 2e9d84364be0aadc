import Qasedak.Foundation.ExpiringLock
import Qasedak.Foundation.Serial
import Qasedak.Panels.XuiClients
import Qasedak.Revenue.Guards
import Qasedak.Subscriptions.Model
import Mathlib.Data.List.MinMax

/-! The free trials of `store/free_trial_services.py`: the settings, the cooldown, and what a trial
that was made on the panel is saved as. -/

namespace Qasedak.FreeTrials

open Foundation Store Panels
open Subscriptions (SubscriptionCup ConfigLink)

/-- What the code of the shop relies on. The rows of panels and inbounds are found by their keys. -/
structure TrialShop where
  panels : ℕ → Panel
  inbounds : ℕ → Inbound
  /-- `filter_native_configs` under the policy of the delivery source. -/
  selectedConfigs : List String → List String
  /-- `build_subscription_cup_url`. -/
  cupUrl : ℕ → String
  /-- `sanitize_free_trial_log_value`. -/
  sanitize : String → String

/-! ## Settings -/

/-- The fields of a store that free trials read. -/
structure TrialStore where
  pk : ℕ
  freeTrialEnabled : Bool := true
  freeTrialPanel : Option ℕ
  freeTrialInbound : Option ℕ
  /-- In thousandths of a gigabyte. -/
  freeTrialTrafficGb : ℕ
  freeTrialDurationHours : ℕ
  freeTrialCooldownDays : ℕ := 30
  deriving DecidableEq, Repr

/-- `get_free_trial_settings` after its validation. -/
structure TrialSettings (shop : TrialShop) where
  store : ℕ
  panel : ℕ
  inbound : ℕ
  trafficGb : ℕ
  durationHours : ℕ
  cooldownDays : ℕ
  panel_eq : (shop.inbounds inbound).panel = panel

namespace TrialStore

variable (shop : TrialShop) (store : TrialStore)

/-- `store.free_trial_cooldown_days or 30`. -/
def cooldownDays : ℕ :=
  if store.freeTrialCooldownDays = 0 then 30 else store.freeTrialCooldownDays

def panelErrors : List String :=
  match store.freeTrialPanel with
  | none => ["پنل تست رایگان تنظیم نشده است."]
  | some panel =>
      if ¬ (shop.panels panel).isActive then ["پنل تست رایگان غیرفعال است."]
      else if (shop.panels panel).store.any (· ≠ store.pk) then
        ["پنل تست رایگان به این فروشگاه تعلق ندارد."]
      else []

def inboundErrors : List String :=
  match store.freeTrialInbound with
  | none => ["اینباند تست رایگان تنظیم نشده است."]
  | some inbound =>
      if ¬ (shop.inbounds inbound).isActive then ["اینباند تست رایگان غیرفعال است."]
      else if ¬ (shop.inbounds inbound).availableForNewOrders then
        ["اینباند تست رایگان برای ساخت کانفیگ جدید مجاز نیست."]
      else if store.freeTrialPanel.any ((shop.inbounds inbound).panel ≠ ·) then
        ["اینباند تست رایگان باید متعلق به پنل انتخاب‌شده باشد."]
      else []

/-- The cooldown, which is never zero, needs no check of its own. -/
def settingsErrors : List String :=
  store.panelErrors shop ++ store.inboundErrors shop ++
    (if store.freeTrialTrafficGb = 0 then ["حجم تست رایگان باید مثبت باشد."] else []) ++
    if store.freeTrialDurationHours = 0 then ["مدت تست رایگان باید مثبت باشد."] else []

variable {shop store}

theorem panel_isSome (h : store.settingsErrors shop = []) : store.freeTrialPanel.isSome := by
  cases hpanel : store.freeTrialPanel with
  | none => simp [settingsErrors, panelErrors, hpanel] at h
  | some panel => rfl

theorem inbound_isSome (h : store.settingsErrors shop = []) : store.freeTrialInbound.isSome := by
  cases hinbound : store.freeTrialInbound with
  | none => simp [settingsErrors, inboundErrors, hinbound] at h
  | some inbound => rfl

theorem inbound_panel (h : store.settingsErrors shop = []) :
    (shop.inbounds (store.freeTrialInbound.get (inbound_isSome h))).panel =
      store.freeTrialPanel.get (panel_isSome h) := by
  obtain ⟨panel, hpanel⟩ := Option.isSome_iff_exists.mp (panel_isSome h)
  obtain ⟨inbound, hinbound⟩ := Option.isSome_iff_exists.mp (inbound_isSome h)
  have hnone : store.inboundErrors shop = [] := by
    simp only [settingsErrors, List.append_eq_nil_iff] at h
    exact h.1.1.2
  simp only [hpanel, hinbound, Option.get_some]
  by_contra hne
  simp only [inboundErrors, hinbound, hpanel, Option.any_some, ne_eq, hne, not_false_eq_true,
    decide_true, if_true] at hnone
  split at hnone
  · cases hnone
  · split at hnone
    · cases hnone
    · cases hnone

variable (shop store)

/-- `validate_free_trial_settings`, with the first of its messages. -/
def validateFreeTrialSettings : Except String (TrialSettings shop) :=
  if ¬ store.freeTrialEnabled then .error "در حال حاضر تست رایگان فعال نیست."
  else if h : store.settingsErrors shop = [] then
    .ok
      { store := store.pk
        panel := store.freeTrialPanel.get (panel_isSome h)
        inbound := store.freeTrialInbound.get (inbound_isSome h)
        trafficGb := store.freeTrialTrafficGb
        durationHours := store.freeTrialDurationHours
        cooldownDays := store.cooldownDays
        panel_eq := inbound_panel h }
  else .error ((store.settingsErrors shop).head h)

end TrialStore

/-! ## Requests and the cooldown -/

/-- `FreeTrialRequest.Status`. -/
inductive TrialStatus where
  | created
  | delivered
  | failed
  | cancelled
  deriving DecidableEq, Repr

/-- `FREE_TRIAL_COOLDOWN_STATUSES`. -/
def TrialStatus.Counts (status : TrialStatus) : Prop :=
  status = .created ∨ status = .delivered

instance (status : TrialStatus) : Decidable status.Counts :=
  inferInstanceAs (Decidable (_ ∨ _))

/-- Who asks; the id is empty where Telegram is not known. -/
structure Applicant where
  customer : Option ℕ
  telegramUserId : String
  deriving DecidableEq, Repr

structure FreeTrialRequest where
  pk : ℕ
  applicant : Applicant
  inbound : ℕ
  status : TrialStatus := .created
  createdAt : Instant
  expiresAt : Option Instant := none
  deliveredAt : Option Instant := none
  vpnClient : Option ℕ := none
  configLink : String := ""
  errorMessage : String := ""
  deriving DecidableEq, Repr

abbrev TrialRequests := Serial FreeTrialRequest.pk

/-- `_trial_identity_filter`. -/
def Applicant.SamePerson (a b : Applicant) : Prop :=
  a.customer ≠ none ∧ b.customer = a.customer ∨
    a.telegramUserId ≠ "" ∧ b.telegramUserId = a.telegramUserId

instance (a b : Applicant) : Decidable (a.SamePerson b) :=
  inferInstanceAs (Decidable (_ ∨ _))

/-- `_latest_counting_request`; which of two requests of one moment is of no matter. -/
def latestCountingRequest (rows : List FreeTrialRequest) (a : Applicant) :
    Option FreeTrialRequest :=
  (rows.filter fun r => a.SamePerson r.applicant ∧ r.status.Counts).argmax (·.createdAt)

/-- `get_next_free_trial_available_at`. -/
def nextAvailableAt (rows : List FreeTrialRequest) (a : Applicant) (cooldownDays : ℕ)
    (now : Instant) : Option Instant :=
  match latestCountingRequest rows a with
  | none => none
  | some latest =>
      let availableAt := latest.createdAt + Revenue.days cooldownDays
      if now < availableAt then some availableAt else none

/-- The cooldown of every earlier request is over. -/
theorem cooldown_over {rows : List FreeTrialRequest} {a : Applicant} {cooldownDays : ℕ}
    {now : Instant} (h : nextAvailableAt rows a cooldownDays now = none) {r : FreeTrialRequest}
    (hr : r ∈ rows) (hsame : a.SamePerson r.applicant) (hcounts : r.status.Counts) :
    r.createdAt + Revenue.days cooldownDays ≤ now := by
  have hmem : r ∈ rows.filter fun r => a.SamePerson r.applicant ∧ r.status.Counts :=
    List.mem_filter.mpr ⟨hr, decide_eq_true ⟨hsame, hcounts⟩⟩
  cases hlatest : latestCountingRequest rows a with
  | none =>
      rw [latestCountingRequest, List.argmax_eq_none] at hlatest
      rw [hlatest] at hmem
      cases hmem
  | some latest =>
      have hle : r.createdAt ≤ latest.createdAt := List.le_of_mem_argmax hmem hlatest
      simp only [nextAvailableAt, hlatest] at h
      split at h
      · cases h
      · rename_i hnow
        exact (add_le_add_left hle _).trans (not_lt.mp hnow)

/-- `_trial_lock_key`; there is none for nobody. -/
inductive LockKey where
  | telegram (telegramUserId : String)
  | customer (pk : ℕ)
  deriving DecidableEq, Repr

def Applicant.lockKey (a : Applicant) : Option LockKey :=
  if a.telegramUserId ≠ "" then some (.telegram a.telegramUserId)
  else a.customer.map .customer

/-- `FREE_TRIAL_LOCK_SECONDS`. -/
def lockDuration : Instant := minutes 2

/-! ## What a trial is saved as -/

/-- The `client_result` of a panel. -/
structure TrialClient extends ClientResult where
  rawLinks : List String := []
  xuiNodeId : String := ""
  uuid_ne : uuid ≠ ""

/-- The local rows that a trial adds to. -/
structure TrialDb where
  clients : Serial VPNClient.pk := .empty
  cups : Serial SubscriptionCup.pk := .empty
  items : Serial Subscriptions.CupItem.pk := .empty
  links : Serial ConfigLink.pk := .empty
  /-- `current_users` of an inbound. -/
  currentUsers : ℕ → ℕ := fun _ => 0

/-- `_client_result_raw_links`. -/
def clientResultRawLinks (c : TrialClient) : List String :=
  let rawLinks := (c.rawLinks.map strip).filter (· ≠ "")
  let directLink := strip c.directLink
  if directLink ≠ "" ∧ directLink ∉ rawLinks then directLink :: rawLinks else rawLinks

variable (shop : TrialShop)

/-- The links that the cup shows. -/
def trialLinks (settings : TrialSettings shop) (c : TrialClient) : Except String (List String) :=
  let rawLinks := clientResultRawLinks c
  if rawLinks = [] then .error "هیچ لینک معتبری برای کاپ تست رایگان ساخته نشد."
  else if (shop.panels settings.panel).family = .pasarguard then
    if shop.selectedConfigs rawLinks = [] then
      .error "خروجی PasarGuard پس از فیلتر پروتکل‌ها خالی بود."
    else if strip c.subLink = "" then
      .error "PasarGuard feed has no upstream subscription URL."
    else .ok (shop.selectedConfigs rawLinks)
  else .ok rawLinks

/-- The client of a trial, with the address of its cup. -/
def trialVpnClient (settings : TrialSettings shop) (c : TrialClient) (expiresAt : Option Instant)
    (cup pk : ℕ) : VPNClient where
  pk := pk
  store := some settings.store
  order := none
  plan := none
  inbound := some settings.inbound
  username := c.email
  xuiEmail := c.email
  uuid := some c.uuid
  subId := c.subId
  subLink := shop.cupUrl cup
  directLink := c.directLink
  status := .active
  trafficLimitBytes := settings.trafficGb * 1024 ^ 3 / 1000
  deviceLimit := 1
  expiresAt := c.expiresAt <|> expiresAt
  xuiNodeId := if c.xuiNodeId = "" then (shop.inbounds settings.inbound).xuiNodeId else c.xuiNodeId
  remoteClientKey := c.remoteClientKey

def trialCup (a : Applicant) (client : ℕ) (expiresAt : Option Instant) (pk : ℕ) :
    SubscriptionCup where
  pk := pk
  customer := a.customer
  vpnClient := some client
  expiresAt := expiresAt

def trialLink (settings : TrialSettings shop) (client : ℕ) (rawLink : String) (pk : ℕ) : ConfigLink where
  pk := pk
  rawLink := rawLink
  sourceType := .panelGenerated
  sourcePanel := some settings.panel
  sourceInbound := some settings.inbound
  vpnClient := some client

def trialItem (cup : ℕ) (link : ℕ × ℕ) (pk : ℕ) : Subscriptions.CupItem where
  pk := pk
  cup := cup
  configLink := link.1
  position := link.2

/-- The transaction that saves a trial. The uuid of a client is unique. -/
def saveTrial (db : TrialDb) (settings : TrialSettings shop) (r : FreeTrialRequest)
    (c : TrialClient) : Except String TrialDb :=
  if db.clients.rows.any fun x => x.uuid = some c.uuid then
    .error "UNIQUE constraint failed: store_vpnclient.uuid"
  else
    match trialLinks shop settings c with
    | .error error => .error error
    | .ok links =>
        let client := db.clients.next
        let cup := db.cups.next
        let positions := (List.range links.length).map fun n => (db.links.next + n, n + 1)
        .ok
          { clients := db.clients.append (trialVpnClient shop settings c r.expiresAt cup) fun _ => rfl
            cups := db.cups.append (trialCup r.applicant client r.expiresAt) fun _ => rfl
            links := db.links.appendAll (trialLink shop settings client) (fun _ _ => rfl) links
            items := db.items.appendAll (trialItem cup) (fun _ _ => rfl) positions
            currentUsers := Function.update db.currentUsers settings.inbound
              (db.currentUsers settings.inbound + 1) }

end Qasedak.FreeTrials
