import Qasedak.Panels.XuiClients
import Mathlib.Data.List.Infix
import Mathlib.Data.List.Sort

/-! `create_enabled_multi_inbound_client` of the PasarGuard adapter: one user for a set of
groups, found again by its name and by the marker in its note. -/

namespace Qasedak.Panels

open Foundation Store Orders

variable (platform : Platform)

/-! ## Names and markers -/

/-- `hashlib.sha256(…).hexdigest()[:n]`. -/
def sha256Prefix (n : ℕ) (text : String) : List Char :=
  (platform.hash.sha256 text).toList.take n

/-- The letters and digits of a name, with one underscore for each run of others. -/
def usernameBase (value : String) : List Char :=
  let chars := (strip value).toList.map Char.toLower
  let kept := chars.map fun c =>
    if ('a' ≤ c ∧ c ≤ 'z') ∨ ('0' ≤ c ∧ c ≤ '9') ∨ c = '_' then c else '_'
  let base := stripChars isUnderscore (collapseUnderscores kept)
  let base := if base.length < 3 then "qasedak".toList else base
  if base.head?.any fun c => 'a' ≤ c ∧ c ≤ 'z' then base else "q_".toList ++ base

/-- `normalize_pasarguard_username`. -/
def normalizePasarguardUsername (value context : String) : String :=
  let name := (((usernameBase value).take 23).reverse.dropWhile isUnderscore).reverse
  String.ofList ((name ++ '_' :: sha256Prefix platform 8 context).take 32)

/-- `pasarguard_note_marker`. -/
def pasarguardNoteMarker (context : String) : String :=
  "qasedak:" ++ String.ofList (sha256Prefix platform 24 context)

/-- `user_note_matches_context`. -/
def userNoteMatchesContext (u : PasarguardUser) (marker : String) : Prop :=
  marker.toList <:+: u.note.toList

instance (u : PasarguardUser) (marker : String) : Decidable (userNoteMatchesContext u marker) :=
  inferInstanceAs (Decidable (_ <:+: _))

/-- `merge_qasedak_note`. -/
def mergeQasedakNote (note marker : String) : String :=
  if marker.toList <:+: (strip note).toList then strip note
  else if strip note = "" then marker
  else strip note ++ " " ++ marker

/-- `_request_context`. -/
def requestContext (p : Panel) (identity : ClientIdentity) (groups : List ℕ) : String :=
  "|".intercalate
    [toString p.pk, identity.uuid, identity.subId,
      if identity.email = "" then identity.emailPrefix else identity.email,
      ",".intercalate ((groups.insertionSort (· ≤ ·)).map toString)]

/-- `expires_at_from_days`. -/
def expiresAtFromDays (now : Instant) (days : ℕ) : Option Instant :=
  if days = 0 then none else some (now + daysToMs days * 1000)

/-! ## Requests -/

/-- `_verify_groups`, on one group. -/
def verifyGroup (p : Panel) (group : ℕ) : ShopM Unit :=
  Prog.remoteRead timedOut fun r =>
    match r.groups.find? fun g => g.panel = p.pk ∧ g.id = group with
    | none => .error "گروه PasarGuard در پنل پیدا نشد."
    | some g =>
        if g.isDisabled = some true then .error "گروه PasarGuard در پنل غیرفعال است." else .ok ()

/-- `_get_user_or_none`. -/
def getUserOrNone (p : Panel) (username : String) : ShopM (Option PasarguardUser) :=
  Prog.remoteRead timedOut fun r =>
    .ok (r.users.find? fun u => u.panel = p.pk ∧ u.username = username)

/-- The user that a request makes; it keeps the note of the one that is there. -/
def requestedUser (p : Panel) (request : ClientRequest) (groups : List ℕ)
    (existing : Option PasarguardUser) : PasarguardUser :=
  let context := requestContext p request.identity groups
  { panel := p.pk
    username := normalizePasarguardUsername platform request.identity.email context
    groups := groups
    note := mergeQasedakNote ((existing.map (·.note)).getD "") (pasarguardNoteMarker platform context)
    dataLimit := request.totalBytes
    hwidLimit := request.limitIp }

/-- The part of the creation after the user was written: its subscription and its links. -/
def readUserLinks (p : Panel) (user : PasarguardUser) (existing : Option PasarguardUser) :
    ShopM (String × List String) := do
  let known := if platform.subscriptionUrl user = "" then
      (existing.map platform.subscriptionUrl).getD ""
    else platform.subscriptionUrl user
  let url ← if known = "" then do
      let fetched ← getUserOrNone p user.username
      pure ((fetched.map platform.subscriptionUrl).getD "")
    else pure known
  if url = "" then
    Prog.raise "PasarGuard کاربر را ساخت اما subscription_url برنگرداند."
  else do
    let links ← Prog.remoteRead timedOut fun _ => .ok (platform.nativeLinks user)
    if links = [] then
      Prog.raise "خروجی native links پنل PasarGuard خالی بود یا کانفیگ قابل استفاده نداشت."
    else return (url, links)

/-- A user that was created just now is deleted again where `p` fails; an error of the
deletion is passed over. -/
def withCleanup {α : Type} (p : Panel) (username : String) (q : ShopM α) : ShopM α :=
  Prog.onError q fun e => do
    Prog.onError (Prog.remoteWrite timedOut (.deleteUser p.pk username)
      (Remote.deleteUser p.pk username)) fun _ => return
    Prog.raise e

/-- `_user_result`, with the links. -/
def userResult (now : Instant) (p : Panel) (request : ClientRequest) (username url : String)
    (links : List String) : ClientResult where
  uuid := request.identity.uuid
  email := username
  subId := request.identity.subId
  subLink := url
  directLink := links.headD ""
  expiresAt := expiresAtFromDays now request.durationDays
  remoteClientKey := "pasarguard:" ++ toString p.pk ++ ":user:" ++ username

/-- `_normalize_inbounds`: the groups, each once, of this panel. -/
def normalizeGroups (p : Panel) (inbounds : List Inbound) : Except String (List ℕ) :=
  if inbounds = [] then .error "ساخت کاربر PasarGuard به حداقل یک گروه نیاز دارد."
  else if inbounds.any (·.panel ≠ p.pk) then
    .error "همه گروه‌های PasarGuard باید به همین پنل تعلق داشته باشند."
  else .ok ((inbounds.map (·.inboundId)).reverse.dedup.reverse)

/-- `create_enabled_multi_inbound_client`. -/
def createPasarguardUser (now : Instant) (p : Panel) (inbounds : List Inbound)
    (request : ClientRequest) : ShopM (ClientResult × List String) := do
  let groups ← Prog.ofExcept (normalizeGroups p inbounds)
  Prog.forEach groups () fun group _ => verifyGroup p group
  let context := requestContext p request.identity groups
  let username := normalizePasarguardUsername platform request.identity.email context
  let existing ← getUserOrNone p username
  let user := requestedUser platform p request groups existing
  match existing with
  | some u =>
      if ¬ userNoteMatchesContext u (pasarguardNoteMarker platform context) then
        Prog.raise
          "کاربر PasarGuard با همین نام وجود دارد اما marker سفارش با آن هم‌خوان نیست."
      else do
        Prog.remoteWrite timedOut (.modifyUser p.pk username) (Remote.modifyUser user)
        let (url, links) ← readUserLinks platform p user existing
        return (userResult now p request username url links, links)
  | none => do
      Prog.remoteWrite timedOut (.createUser p.pk username) (Remote.createUser user)
      let (url, links) ← withCleanup p username (readUserLinks platform p user existing)
      return (userResult now p request username url links, links)

end Qasedak.Panels
