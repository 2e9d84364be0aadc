import Qasedak.Panels.ClientSwitch
import Qasedak.Orders.ReferralRedemption

/-! Volume and days that are added to a client of a panel: by a gift, which `add_client_traffic`
writes, and by an administrator, through `update_vpn_client_limits_by_admin` in its add mode. When
nothing is taken away by that. -/

namespace Qasedak.Panels

open Foundation Store Orders

/-! ## The panel's part of an update -/

/-- Whom an update addresses. -/
structure UpdateAddress where
  modern : Bool
  panel : ℕ
  inboundId : ℕ
  identifier : String
  email : String
  deriving DecidableEq, Repr

def UpdateAddress.Reaches (a : UpdateAddress) (x : RemoteClient) : Prop :=
  Remote.Addressed a.modern a.panel a.inboundId a.identifier a.email x

instance (a : UpdateAddress) (x : RemoteClient) : Decidable (a.Reaches x) :=
  inferInstanceAs (Decidable (Remote.Addressed _ _ _ _ _ _))

/-- The panel carries an update out: it has an e-mail where it needs one, and reaches a client. -/
def UpdateAddress.Accepted (a : UpdateAddress) (r : Remote) : Prop :=
  ¬ (a.modern ∧ a.email = "") ∧ ∃ z ∈ r.clients, a.Reaches z

instance (a : UpdateAddress) (r : Remote) : Decidable (a.Accepted r) :=
  inferInstanceAs (Decidable (_ ∧ _))

/-- The address that `_post_client_update` builds. -/
def clientAddress (p : Panel) (i : Inbound) (identifier email : String) (payload : RemoteClient) :
    UpdateAddress where
  modern := usesModernClientApi p
  panel := i.panel
  inboundId := i.inboundId
  identifier := identifier
  email := updateEmail email payload

/-- An update of a client. -/
structure PanelUpdate where
  address : UpdateAddress
  payload : RemoteClient
  deriving DecidableEq, Repr

namespace PanelUpdate

/-- What an addressed client becomes. -/
def write (u : PanelUpdate) (x : RemoteClient) : RemoteClient := { u.payload with used := x.used }

/-- The panel after the update. -/
def applied (u : PanelUpdate) (r : Remote) : Remote :=
  { r with clients := r.clients.map fun z => if u.address.Reaches z then u.write z else z }

/-- `_post_client_update`, where the request arrives and is answered. -/
def answered (u : PanelUpdate) (r : Remote) : Except String Remote :=
  if u.address.modern ∧ u.address.email = "" then
    .error "Client email is required for modern 3X-UI update."
  else (Remote.updateClient u.address.modern u.address.panel u.address.inboundId
    u.address.identifier u.address.email u.payload r).map (·.1)

theorem answered_ok {u : PanelUpdate} {r : Remote} (h : u.address.Accepted r) :
    u.answered r = .ok (u.applied r) := by
  have hreached : ∃ z ∈ r.clients, Remote.Addressed u.address.modern u.address.panel
      u.address.inboundId u.address.identifier u.address.email z := h.2
  rw [answered, if_neg h.1, Remote.updateClient, if_pos hreached]
  rfl

theorem answered_error {u : PanelUpdate} {r : Remote} (h : ¬ u.address.Accepted r) :
    ∃ e, u.answered r = .error e := by
  rw [answered]
  by_cases hemail : u.address.modern ∧ u.address.email = ""
  · exact ⟨_, if_pos hemail⟩
  · have hreached : ¬ ∃ z ∈ r.clients, Remote.Addressed u.address.modern u.address.panel
        u.address.inboundId u.address.identifier u.address.email z := fun hz => h ⟨hemail, hz⟩
    rw [if_neg hemail, Remote.updateClient, if_neg hreached]
    exact ⟨_, rfl⟩

/-- An update that reaches one client alone changes that one. -/
theorem applied_alone {u : PanelUpdate} {r : Remote} {x : RemoteClient}
    (h : ∀ z ∈ r.clients, u.address.Reaches z ↔ z = x) :
    u.applied r = { r with clients := r.clients.map fun z => if z = x then u.write x else z } := by
  rw [applied]
  congr 1
  apply List.map_congr_left
  intro z hz
  by_cases hx : z = x
  · rw [if_pos ((h z hz).mpr hx), if_pos hx, hx]
  · rw [if_neg fun hr => hx ((h z hz).mp hr), if_neg hx]

end PanelUpdate

/-- The address of a gift. -/
def giftAddress (c : VPNClient) (t : GiftTarget) : UpdateAddress :=
  clientAddress t.panel t.inbound (c.uuid.getD "") (serviceEmail c) t.client

/-- The update of `XUIService.add_client_traffic`. -/
def giftUpdate (now : Instant) (c : VPNClient) (extraGb extraDays : ℕ) (t : GiftTarget) :
    PanelUpdate :=
  ⟨giftAddress c t, giftedClient now c extraGb extraDays t.client⟩

/-- What a call leaves: the update that the panel carried out, if any, the panel, and the row of
the service, if one is known. -/
structure TopUpOutcome where
  succeeded : Bool
  written : Option PanelUpdate := none
  remote : Remote
  row : Option VPNClient := none

/-- `XUIService.add_client_traffic` on a panel that answers, and the row that
`redeem_referral_rewards` saves. -/
def answeredGift (now : Instant) (c : VPNClient) (extraGb extraDays : ℕ) (db : Db) (r : Remote) :
    TopUpOutcome :=
  match giftTarget { db := db, remote := r } c with
  | none => ⟨false, none, r, none⟩
  | some t =>
      match assertPreciseScope db t.panel t.inbound (c.uuid.getD "") .update with
      | .error _ => ⟨false, none, r, none⟩
      | .ok _ =>
          match (giftUpdate now c extraGb extraDays t).answered r with
          | .error _ => ⟨false, none, r, none⟩
          | .ok r' =>
              ⟨true, some (giftUpdate now c extraGb extraDays t), r',
                some (applyGift now extraGb extraDays (giftResult now c extraGb extraDays t) c)⟩

/-! ## The administrator's update -/

/-- The lookup that an update starts from, and what is added; gigabytes are in thousandths. -/
structure LimitRequest where
  panel : ℕ
  inboundId : ℕ
  nodeId : String := ""
  identifier : String
  vpnClient : Option ℕ := none
  trafficGb : Option ℕ := none
  expiryDays : Option ℕ := none
  deriving DecidableEq, Repr

def LimitRequest.lookup (req : LimitRequest) : ClientLookup :=
  ⟨req.panel, req.inboundId, req.nodeId, req.identifier, req.vpnClient.getD 0⟩

/-- `find_xui_client_and_stats` for one inbound. -/
def findInboundClient (r : Remote) (i : Inbound) (identifier : String) : Option RemoteClient :=
  (r.inboundClients i.panel i.inboundId).find? (matchClientIdentifier · identifier)

/-- `find_client_by_identifier`: the first active inbound of the panel that has such a client. -/
def findClientByIdentifier (db : Db) (r : Remote) (p : Panel)
    (identifier : String) : Option RemoteClient :=
  ((db.inbounds.rows.filter fun i => i.panel = p.pk && i.isActive).insertionSort
    fun i j => i.inboundId ≤ j.inboundId).findSome? fun i => findInboundClient r i identifier

/-- `_candidate_values`, of a client that was found. -/
def candidateValues (identifier : String) (live : RemoteClient) : List String :=
  ([identifier, live.email, live.id, live.subId].map strip).filter (· ≠ "")

/-- `find_local_vpn_client_for_lookup`: the row with the key, or the only one that the client's
names find. -/
def findLocalClientForLookup (db : Db) (i : Inbound) (identifier : String) (live : RemoteClient)
    (vpnClient : Option ℕ) : Option VPNClient :=
  match vpnClient with
  | some k => findLocalVpnClient db i k
  | none =>
      match db.clients.rows.filter fun c => c.inbound = some i.pk ∧ ¬ c.isDeleted ∧
          ∃ value ∈ candidateValues identifier live, iexact (c.uuid.getD "") value ∨
            iexact c.xuiEmail value ∨ iexact c.username value ∨ iexact c.subId value with
      | [c] => some c
      | _ => none

/-- The limit that the administrator's update sets. -/
def addedTotal (live : RemoteClient) : Option ℕ → Except String (Option ℕ)
  | none => .ok none
  | some gb =>
      if live.totalGB = 0 then .error "این کانفیگ حجم نامحدود دارد. ابتدا حجم کل را تنظیم کنید."
      else if gb = 0 then .error "عدد وارد شده باید مثبت باشد."
      else .ok (some (live.totalGB + bytesFromGb gb))

/-- The expiry that it sets. -/
def addedExpiry (now : Instant) (live : RemoteClient) : Option ℕ → Except String (Option Instant)
  | none => .ok none
  | some days =>
      if days = 0 then .error "عدد وارد شده باید مثبت باشد."
      else .ok (some (max now ((parseXuiDatetime live.expiryTime).getD now) + daysToMs days * 1000))

/-- `xui_datetime_to_millis`. -/
def datetimeToMillis (t : Instant) : ℤ := t / 1000

/-- The payload of `update_client_traffic_and_expiry` with `enable=True`. -/
def updatedClient (total : Option ℕ) (expiry : Option Instant) (x : RemoteClient) : RemoteClient :=
  { x with
    totalGB := total.getD x.totalGB
    expiryTime := (expiry.map datetimeToMillis).getD x.expiryTime
    enable := true }

/-- The limits that `update_client_traffic_and_expiry` answers. -/
structure LimitResult where
  newTotalBytes : ℕ
  newExpiryTime : Option Instant
  enabled : Bool
  deriving DecidableEq, Repr

/-- The check of the update on what the panel says afterwards. -/
def verifyUpdate (total : Option ℕ) (expiry : Option Instant) (verified : RemoteClient) :
    Except String LimitResult :=
  let expected := expiry.bind fun t => parseXuiDatetime (datetimeToMillis t)
  let found := parseXuiDatetime verified.expiryTime
  if total.any (· ≠ verified.totalGB) then .error "Panel traffic update could not be verified."
  else if expiry.isSome ∧ (expected.isSome ≠ found.isSome ∨
      2000000 < |expected.getD 0 - found.getD 0|) then
    .error "Panel expiry update could not be verified."
  else if verified.enable = false then .error "Panel enabled-state update could not be verified."
  else .ok ⟨verified.totalGB, found, verified.enable⟩

/-- The address of an administrator's update. -/
def limitAddress (p : Panel) (i : Inbound) (identifier : String) (x : RemoteClient) :
    UpdateAddress :=
  clientAddress p i (clientApiIdentifier x identifier) (strip x.email) x

/-- The update of `update_client_traffic_and_expiry`. -/
def limitUpdate (p : Panel) (i : Inbound) (identifier : String) (total : Option ℕ)
    (expiry : Option Instant) (x : RemoteClient) : PanelUpdate :=
  ⟨limitAddress p i identifier x, updatedClient total expiry x⟩

/-- `sync_local_vpn_client_after_remote_update`, for a row that is not deleted. -/
def syncLocalClient (result : LimitResult) (c : VPNClient) : VPNClient :=
  { c with
    trafficLimitBytes :=
      if result.newTotalBytes = 0 then c.trafficLimitBytes else result.newTotalBytes
    expiresAt := result.newExpiryTime <|> c.expiresAt
    status :=
      if result.enabled then .active
      else if c.status = .active then .inactive
      else c.status }

/-- `update_client_traffic_and_expiry` with `enable=True` on a panel that answers, and the row
that is saved after it. -/
def answeredLimits (db : Db) (p : Panel) (i : Inbound) (identifier : String) (total : Option ℕ)
    (expiry : Option Instant) (row : Option VPNClient) (r : Remote) : TopUpOutcome :=
  match findInboundClient r i identifier with
  | none => ⟨false, none, r, none⟩
  | some x =>
      match assertPreciseScope db p i (clientApiIdentifier x identifier) .update with
      | .error _ => ⟨false, none, r, none⟩
      | .ok _ =>
          match (limitUpdate p i identifier total expiry x).answered r with
          | .error _ => ⟨false, none, r, none⟩
          | .ok r' =>
              match findInboundClient r' i identifier with
              | none => ⟨false, some (limitUpdate p i identifier total expiry x), r', none⟩
              | some verified =>
                  match verifyUpdate total expiry verified with
                  | .error _ => ⟨false, some (limitUpdate p i identifier total expiry x), r', none⟩
                  | .ok result =>
                      ⟨true, some (limitUpdate p i identifier total expiry x), r',
                        row.map (syncLocalClient result)⟩

/-- `update_vpn_client_limits_by_admin` in its add mode, on a panel that answers. -/
def updateLimitsByAdmin (now : Instant) (req : LimitRequest) (db : Db) (r : Remote) :
    TopUpOutcome :=
  match lookupPanelInbound db req.lookup with
  | .error _ => ⟨false, none, r, none⟩
  | .ok (p, i, identifier) =>
      match findClientByIdentifier db r p identifier with
      | none => ⟨false, none, r, none⟩
      | some live =>
          match addedTotal live req.trafficGb, addedExpiry now live req.expiryDays with
          | .ok total, .ok expiry =>
              if total = none ∧ expiry = none then ⟨false, none, r, none⟩
              else answeredLimits db p i identifier total expiry
                (findLocalClientForLookup db i identifier live req.vpnClient) r
          | _, _ => ⟨false, none, r, none⟩

/-! ## Calls -/

/-- A call that adds volume or days; a gift is for the row of a service. -/
inductive TopUp where
  | gift (c : VPNClient) (gb days : ℕ)
  | admin (req : LimitRequest)

/-- The calls, on a panel that answers. -/
def TopUp.run (now : Instant) (db : Db) (r : Remote) : TopUp → TopUpOutcome
  | .gift c gb days => answeredGift now c gb days db r
  | .admin req => updateLimitsByAdmin now req db r

/-- The client that a call is about: the one of the addressed inbound. -/
def TopUp.target (db : Db) (r : Remote) : TopUp → Option RemoteClient
  | .gift c _ _ => (giftTarget { db := db, remote := r } c).map (·.client)
  | .admin req =>
      match lookupPanelInbound db req.lookup with
      | .error _ => none
      | .ok (_, i, identifier) => findInboundClient r i identifier

/-- The volume that a call adds, in bytes. -/
def TopUp.bytes : TopUp → ℕ
  | .gift _ gb _ => bytesFromGb gb
  | .admin req => bytesFromGb (req.trafficGb.getD 0)

/-- A gift has volume. -/
def TopUp.HasVolume : TopUp → Prop
  | .gift _ gb _ => 0 < gb
  | .admin _ => True

/-- A client and what it became: the volume is added, and nothing is taken away. -/
structure ToppedUp (bytes : ℕ) (x y : RemoteClient) : Prop where
  total : y.totalGB = if x.totalGB = 0 then 0 else x.totalGB + bytes
  expiry : y.expiryTime = 0 ∨ x.expiryTime ≠ 0 ∧ x.expiryTime ≤ y.expiryTime
  settings : { y with totalGB := x.totalGB, expiryTime := x.expiryTime, enable := x.enable } = x
  enabled : y.enable = x.enable ∨ y.enable = true

/-- The row has the limits of the panel's client. -/
def RowAgrees (y : RemoteClient) (c : VPNClient) : Prop :=
  c.trafficLimitBytes = y.totalGB ∧ c.expiresAt = parseXuiDatetime y.expiryTime

/-- A call fails without a write, or adds to the client that it is about, which the update reaches
alone, and leaves the row with its limits. -/
def NothingTaken (now : Instant) (db : Db) (r : Remote) (call : TopUp) : Prop :=
  let o := call.run now db r
  (o.succeeded = false ∧ o.written = none ∧ o.remote = r) ∨
    (o.succeeded = true ∧ ∃ x u, call.target db r = some x ∧ o.written = some u ∧
      (∀ z ∈ r.clients, u.address.Reaches z ↔ z = x) ∧
      o.remote = { r with clients := r.clients.map fun z => if z = x then u.write x else z } ∧
      ToppedUp call.bytes x (u.write x) ∧ ∀ c ∈ o.row, RowAgrees (u.write x) c)

/-! ## When nothing is taken away -/

/-- A gift that is written. -/
structure GiftAccepted (db : Db) (r : Remote) (c : VPNClient) (t : GiftTarget) : Prop where
  target : giftTarget { db := db, remote := r } c = some t
  scope : assertPreciseScope db t.panel t.inbound (c.uuid.getD "") .update = .ok ()
  accepted : (giftAddress c t).Accepted r

/-- A gift to a client that the update reaches alone and whose traffic is limited; where the
client stays without a date, so is the row. -/
structure GiftKeeps (r : Remote) (c : VPNClient) (days : ℕ) (t : GiftTarget) : Prop where
  alone : ∀ z ∈ r.clients, (giftAddress c t).Reaches z ↔ z = t.client
  limited : t.client.totalGB ≠ 0
  dateless : t.client.expiryTime ≤ 0 → t.client.expiryTime = 0 ∨ days = 0 → c.expiresAt = none

/-- What an administrator's update finds: the place, the client that the panel shows first under
the identifier, and the one of the addressed inbound. -/
structure AddressedClient where
  panel : Panel
  inbound : Inbound
  identifier : String
  live : RemoteClient
  own : RemoteClient

/-- An administrator's update that is written. -/
structure AdminAccepted (db : Db) (r : Remote) (req : LimitRequest) (f : AddressedClient) :
    Prop where
  place : lookupPanelInbound db req.lookup = .ok (f.panel, f.inbound, f.identifier)
  live : findClientByIdentifier db r f.panel f.identifier = some f.live
  own : findInboundClient r f.inbound f.identifier = some f.own
  volume : ∀ gb ∈ req.trafficGb, f.live.totalGB ≠ 0 ∧ gb ≠ 0
  days : ∀ days ∈ req.expiryDays, days ≠ 0
  asked : req.trafficGb ≠ none ∨ req.expiryDays ≠ none
  scope : assertPreciseScope db f.panel f.inbound (clientApiIdentifier f.own f.identifier) .update =
    .ok ()
  accepted : (limitAddress f.panel f.inbound f.identifier f.own).Accepted r

namespace AddressedClient

/-- The row of an administrator's update. -/
def row (f : AddressedClient) (db : Db) (req : LimitRequest) : Option VPNClient :=
  findLocalClientForLookup db f.inbound f.identifier f.live req.vpnClient

def newTotal (f : AddressedClient) (req : LimitRequest) : Option ℕ :=
  req.trafficGb.map fun gb => f.live.totalGB + bytesFromGb gb

def newExpiry (now : Instant) (f : AddressedClient) (req : LimitRequest) : Option Instant :=
  req.expiryDays.map fun days =>
    max now ((parseXuiDatetime f.live.expiryTime).getD now) + daysToMs days * 1000

def update (now : Instant) (f : AddressedClient) (req : LimitRequest) : PanelUpdate :=
  limitUpdate f.panel f.inbound f.identifier (f.newTotal req) (f.newExpiry now req) f.own

end AddressedClient

/-- An administrator's update of a client that it reaches alone: volume is added where the panel
shows the limit of that client, days where its expiry is a date, which is not after the one that
results, and the row has no limit and no date where the client keeps having none. -/
structure AdminKeeps (now : Instant) (db : Db) (r : Remote) (req : LimitRequest)
    (f : AddressedClient) : Prop where
  alone : ∀ z ∈ r.clients, (limitAddress f.panel f.inbound f.identifier f.own).Reaches z ↔ z = f.own
  total : req.trafficGb ≠ none → f.live.totalGB = f.own.totalGB
  expiry : ∀ days ∈ req.expiryDays, f.own.expiryTime ≠ 0 ∧ f.own.expiryTime ≤
    datetimeToMillis (max now ((parseXuiDatetime f.live.expiryTime).getD now)) + daysToMs days
  unlimited : req.trafficGb = none → f.own.totalGB = 0 →
    ∀ c ∈ f.row db req, c.trafficLimitBytes = 0
  dateless : req.expiryDays = none → f.own.expiryTime ≤ 0 → ∀ c ∈ f.row db req, c.expiresAt = none

/-- A call that takes nothing away, where it is written. -/
def TopUp.Keeps (now : Instant) (db : Db) (r : Remote) : TopUp → Prop
  | .gift c _ days => ∀ t, GiftAccepted db r c t → GiftKeeps r c days t
  | .admin req => ∀ f, AdminAccepted db r req f → AdminKeeps now db r req f

variable {now : Instant} {db : Db} {r : Remote} {call : TopUp} {c : VPNClient} {gb days : ℕ}
  {t : GiftTarget}

theorem bytesFromGb_pos (h : 0 < gb) : 0 < bytesFromGb gb := by
  unfold bytesFromGb
  omega

theorem nothingTaken_of_idle (h : call.run now db r = ⟨false, none, r, none⟩) :
    NothingTaken now db r call := by
  rw [NothingTaken, h]
  exact .inl ⟨rfl, rfl, rfl⟩

/-- What is asked of a call that was written. -/
theorem nothingTaken_written {succeeded : Bool} {x : RemoteClient} {u : PanelUpdate}
    {row : Option VPNClient} (hrun : call.run now db r = ⟨succeeded, some u, u.applied r, row⟩)
    (hx : call.target db r = some x) :
    NothingTaken now db r call ↔ succeeded = true ∧
      (∀ z ∈ r.clients, u.address.Reaches z ↔ z = x) ∧ ToppedUp call.bytes x (u.write x) ∧
      ∀ c ∈ row, RowAgrees (u.write x) c := by
  rw [NothingTaken, hrun]
  constructor
  · intro h
    rcases h with ⟨-, hnone, -⟩ | ⟨hok, y, v, hy, hv, halone, -, htopped, hrow⟩
    · simp at hnone
    · obtain rfl : x = y := Option.some.inj (hx.symm.trans hy)
      obtain rfl : u = v := Option.some.inj hv
      exact ⟨hok, halone, htopped, hrow⟩
  · intro h
    have halone := h.2.1
    exact .inr ⟨h.1, x, u, hx, rfl, halone, PanelUpdate.applied_alone halone, h.2.2.1, h.2.2.2⟩

/-! ### Gifts -/

theorem answeredGift_idle (h : ∀ t, ¬ GiftAccepted db r c t) :
    answeredGift now c gb days db r = ⟨false, none, r, none⟩ := by
  rw [answeredGift]
  cases htarget : giftTarget { db := db, remote := r } c with
  | none => rfl
  | some t =>
      dsimp only
      cases hscope : assertPreciseScope db t.panel t.inbound (c.uuid.getD "") .update with
      | error e => rfl
      | ok a =>
          have hrefused : ¬ (giftUpdate now c gb days t).address.Accepted r := fun haccepted =>
            h t ⟨htarget, hscope, haccepted⟩
          obtain ⟨e, he⟩ := PanelUpdate.answered_error hrefused
          simp only [he]

theorem answeredGift_written (h : GiftAccepted db r c t) :
    answeredGift now c gb days db r =
      ⟨true, some (giftUpdate now c gb days t), (giftUpdate now c gb days t).applied r,
        some (applyGift now gb days (giftResult now c gb days t) c)⟩ := by
  have hanswer : (giftUpdate now c gb days t).answered r =
      .ok ((giftUpdate now c gb days t).applied r) := PanelUpdate.answered_ok h.accepted
  rw [answeredGift, h.target]
  dsimp only
  rw [h.scope]
  dsimp only
  rw [hanswer]

/-- The volume of a gift is lost on a client whose traffic is not limited: it gets a limit. -/
theorem toppedUp_gift_iff (hgb : 0 < gb) :
    ToppedUp (bytesFromGb gb) t.client ((giftUpdate now c gb days t).write t.client) ↔
      t.client.totalGB ≠ 0 := by
  have hpos := bytesFromGb_pos hgb
  constructor
  · intro h hzero
    have htotal := h.total
    rw [if_pos hzero] at htotal
    have : currentTotal c t.client + bytesFromGb gb = 0 := htotal
    omega
  · intro h
    refine ⟨?_, ?_, rfl, .inl rfl⟩
    · rw [if_neg h]
      change currentTotal c t.client + bytesFromGb gb = _
      rw [currentTotal, if_neg h]
    · change (if days = 0 ∨ t.client.expiryTime = 0 then t.client.expiryTime
        else max (currentMs now) t.client.expiryTime + daysToMs days) = 0 ∨ _ ∧ _ ≤
          if days = 0 ∨ t.client.expiryTime = 0 then t.client.expiryTime
          else max (currentMs now) t.client.expiryTime + daysToMs days
      unfold daysToMs
      split <;> omega

/-- The row gets the limits of a client with limited traffic, but keeps a date that the client
does not have. -/
theorem rowAgrees_gift_iff (hnow : 0 ≤ now) (hgb : 0 < gb) :
    RowAgrees ((giftUpdate now c gb days t).write t.client)
        (applyGift now gb days (giftResult now c gb days t) c) ↔
      (t.client.expiryTime ≤ 0 → t.client.expiryTime = 0 ∨ days = 0 → c.expiresAt = none) := by
  have hpos := bytesFromGb_pos hgb
  have htotal : (applyGift now gb days (giftResult now c gb days t) c).trafficLimitBytes =
      ((giftUpdate now c gb days t).write t.client).totalGB := by
    apply if_neg
    change currentTotal c t.client + bytesFromGb gb ≠ 0
    omega
  have hexpires : (applyGift now gb days (giftResult now c gb days t) c).expiresAt =
      if t.client.expiryTime = 0 then c.expiresAt
      else calculateReferralExpiry now c days (giftResult now c gb days t) := by
    simp [applyGift, giftResult]
  have hwritten : ((giftUpdate now c gb days t).write t.client).expiryTime =
      (giftedClient now c gb days t.client).expiryTime := rfl
  have hresult : (giftResult now c gb days t).expiryAt =
      parseXuiDatetime (giftedClient now c gb days t.client).expiryTime := rfl
  have hgifted : (giftedClient now c gb days t.client).expiryTime =
      if days = 0 ∨ t.client.expiryTime = 0 then t.client.expiryTime
      else max (currentMs now) t.client.expiryTime + daysToMs days := rfl
  rw [RowAgrees, and_iff_right htotal, hexpires, hwritten]
  by_cases hunlimited : t.client.expiryTime = 0
  · have hnone : parseXuiDatetime (giftedClient now c gb days t.client).expiryTime = none := by
      rw [hgifted, if_pos (.inr hunlimited), hunlimited]
      rfl
    rw [if_pos hunlimited, hnone]
    simp [hunlimited]
  · rw [if_neg hunlimited, calculateReferralExpiry, hresult]
    cases hparse : parseXuiDatetime (giftedClient now c gb days t.client).expiryTime with
    | some expiry =>
        have hpositive : ¬ (giftedClient now c gb days t.client).expiryTime ≤ 0 := fun hle => by
          rw [parseXuiDatetime_eq_none.mpr hle] at hparse
          cases hparse
        refine iff_of_true rfl fun hle hor => absurd ?_ hpositive
        rw [hgifted, if_pos (.inl (hor.resolve_left hunlimited))]
        exact hle
    | none =>
        have hle := parseXuiDatetime_eq_none.mp hparse
        rw [hgifted] at hle
        have hdays : days = 0 := by
          by_contra hdays
          rw [if_neg fun hor => hor.elim hdays hunlimited] at hle
          unfold currentMs daysToMs at hle
          unfold Instant at hnow
          omega
        rw [if_pos (.inl hdays)] at hle
        simp [hdays, hle]

theorem nothingTaken_gift_iff (hnow : 0 ≤ now) (hgb : 0 < gb) :
    NothingTaken now db r (.gift c gb days) ↔
      (TopUp.gift c gb days).Keeps now db r := by
  by_cases hnever : ∀ t, ¬ GiftAccepted db r c t
  · exact iff_of_true (nothingTaken_of_idle (answeredGift_idle hnever))
      fun t ht => absurd ht (hnever t)
  · obtain ⟨t, ht⟩ := not_forall_not.mp hnever
    have htarget : (TopUp.gift c gb days).target db r = some t.client := by
      simp [TopUp.target, ht.target]
    have hrun : (TopUp.gift c gb days).run now db r = _ := answeredGift_written ht
    rw [nothingTaken_written hrun htarget]
    have hiff : (∀ z ∈ r.clients, (giftAddress c t).Reaches z ↔ z = t.client) ∧
        t.client.totalGB ≠ 0 ∧
        (t.client.expiryTime ≤ 0 → t.client.expiryTime = 0 ∨ days = 0 → c.expiresAt = none) ↔
        (TopUp.gift c gb days).Keeps now db r := by
      constructor
      · rintro ⟨halone, hlimited, hdateless⟩ t' ht'
        obtain rfl : t = t' := Option.some.inj (ht.target.symm.trans ht'.target)
        exact ⟨halone, hlimited, hdateless⟩
      · intro h
        exact ⟨(h t ht).alone, (h t ht).limited, (h t ht).dateless⟩
    rw [← hiff, ← toppedUp_gift_iff hgb, ← rowAgrees_gift_iff hnow hgb]
    simp only [Option.mem_some_iff, forall_eq', true_and]
    rfl

/-! ### Updates by an administrator -/

variable {req : LimitRequest} {f : AddressedClient} {i : Inbound} {identifier : String}
  {x live : RemoteClient} {total : Option ℕ} {expiry : Option Instant}

theorem addedTotal_ok {gb : Option ℕ} (h : ∀ g ∈ gb, live.totalGB ≠ 0 ∧ g ≠ 0) :
    addedTotal live gb = .ok (gb.map fun g => live.totalGB + bytesFromGb g) := by
  cases gb with
  | none => rfl
  | some g => simp [addedTotal, h g rfl]

theorem addedTotal_error {gb : Option ℕ} (h : ¬ ∀ g ∈ gb, live.totalGB ≠ 0 ∧ g ≠ 0) :
    ∃ e, addedTotal live gb = .error e := by
  cases gb with
  | none => exact absurd (by simp) h
  | some g =>
      rw [addedTotal]
      by_cases hlive : live.totalGB = 0
      · exact ⟨_, if_pos hlive⟩
      · have hg : g = 0 := by
          by_contra hg
          exact h fun g' hg' => Option.mem_some_iff.mp hg' ▸ ⟨hlive, hg⟩
        rw [if_neg hlive]
        exact ⟨_, if_pos hg⟩

theorem addedExpiry_ok {days : Option ℕ} (h : ∀ d ∈ days, d ≠ 0) :
    addedExpiry now live days = .ok (days.map fun d =>
      max now ((parseXuiDatetime live.expiryTime).getD now) + daysToMs d * 1000) := by
  cases days with
  | none => rfl
  | some d => simp [addedExpiry, h d rfl]

theorem addedExpiry_error {days : Option ℕ} (h : ¬ ∀ d ∈ days, d ≠ 0) :
    ∃ e, addedExpiry now live days = .error e := by
  cases days with
  | none => exact absurd (by simp) h
  | some d =>
      have hd : d = 0 := by
        by_contra hd
        exact h fun d' hd' => Option.mem_some_iff.mp hd' ▸ hd
      exact ⟨_, if_pos hd⟩

/-- The client that an update reaches alone is found again, as it was written. -/
theorem findInboundClient_applied {u : PanelUpdate} (hx : findInboundClient r i identifier = some x)
    (hpayload : u.payload = updatedClient total expiry x)
    (halone : ∀ z ∈ r.clients, u.address.Reaches z ↔ z = x) :
    findInboundClient (u.applied r) i identifier = some (u.write x) := by
  have hplace : ((fun z : RemoteClient => decide (z.panel = i.panel ∧ z.inbound = i.inboundId)) ∘
      fun z => if z = x then u.write x else z) =
      fun z => decide (z.panel = i.panel ∧ z.inbound = i.inboundId) := by
    funext z
    by_cases hz : z = x
    · simp [hz, PanelUpdate.write, hpayload, updatedClient]
    · simp [hz]
  have hmatch : ((fun z => matchClientIdentifier z identifier) ∘
      fun z => if z = x then u.write x else z) = fun z => matchClientIdentifier z identifier := by
    funext z
    by_cases hz : z = x
    · simp [hz, PanelUpdate.write, hpayload, updatedClient, matchClientIdentifier]
    · simp [hz]
  rw [findInboundClient, PanelUpdate.applied_alone halone, Remote.inboundClients, List.filter_map,
    List.find?_map, hplace, hmatch]
  have hfound : (r.clients.filter fun z => z.panel = i.panel ∧ z.inbound = i.inboundId).find?
      (fun z => matchClientIdentifier z identifier) = some x := hx
  rw [hfound]
  simp

theorem verifyUpdate_updated {y : RemoteClient} (htotal : y.totalGB = total.getD x.totalGB)
    (hexpiry : y.expiryTime = (expiry.map datetimeToMillis).getD x.expiryTime)
    (henable : y.enable = true) :
    verifyUpdate total expiry y = .ok ⟨y.totalGB, parseXuiDatetime y.expiryTime, true⟩ := by
  have hsame : ¬ total.any (· ≠ y.totalGB) = true := by
    rw [htotal]
    cases total <;> simp
  have hdate : ¬ (expiry.isSome = true ∧
      ((expiry.bind fun t => parseXuiDatetime (datetimeToMillis t)).isSome ≠
        (parseXuiDatetime y.expiryTime).isSome ∨
      2000000 < |(expiry.bind fun t => parseXuiDatetime (datetimeToMillis t)).getD 0 -
        (parseXuiDatetime y.expiryTime).getD 0|)) := by
    cases expiry with
    | none => simp
    | some t =>
        have hy : y.expiryTime = datetimeToMillis t := hexpiry
        simp [hy]
  unfold verifyUpdate
  dsimp only
  rw [if_neg hsame, if_neg hdate, henable]
  rfl

/-- The row of an update is left with the panel's limits, except that it keeps a limit and a date
that the client does not have. -/
theorem rowAgrees_sync_iff {y : RemoteClient} :
    RowAgrees y (syncLocalClient ⟨y.totalGB, parseXuiDatetime y.expiryTime, true⟩ c) ↔
      (y.totalGB = 0 → c.trafficLimitBytes = 0) ∧ (y.expiryTime ≤ 0 → c.expiresAt = none) := by
  rw [RowAgrees, ← parseXuiDatetime_eq_none]
  dsimp only [syncLocalClient]
  apply and_congr
  · by_cases htotal : y.totalGB = 0 <;> simp [htotal]
  · cases parseXuiDatetime y.expiryTime <;> simp

/-- The checks before the update of `update_vpn_client_limits_by_admin`. -/
theorem updateLimitsByAdmin_asked
    (hplace : lookupPanelInbound db req.lookup = .ok (f.panel, f.inbound, f.identifier))
    (hlive : findClientByIdentifier db r f.panel f.identifier = some f.live) :
    updateLimitsByAdmin now req db r =
      if (∀ gb ∈ req.trafficGb, f.live.totalGB ≠ 0 ∧ gb ≠ 0) ∧ (∀ d ∈ req.expiryDays, d ≠ 0) ∧
          (req.trafficGb ≠ none ∨ req.expiryDays ≠ none) then
        answeredLimits db f.panel f.inbound f.identifier (f.newTotal req) (f.newExpiry now req)
          (f.row db req) r
      else ⟨false, none, r, none⟩ := by
  rw [updateLimitsByAdmin, hplace]
  dsimp only
  rw [hlive]
  dsimp only
  by_cases hvolume : ∀ gb ∈ req.trafficGb, f.live.totalGB ≠ 0 ∧ gb ≠ 0
  · rw [addedTotal_ok hvolume]
    by_cases hdays : ∀ d ∈ req.expiryDays, d ≠ 0
    · rw [addedExpiry_ok hdays]
      dsimp only
      by_cases hasked : req.trafficGb ≠ none ∨ req.expiryDays ≠ none
      · have hchange : ¬ (req.trafficGb = none ∧ req.expiryDays = none) :=
          fun h => hasked.elim (fun hne => hne h.1) fun hne => hne h.2
        rw [if_neg (by simpa using hchange), if_pos ⟨hvolume, hdays, hasked⟩]
        rfl
      · have hidle : req.trafficGb = none ∧ req.expiryDays = none := by simpa using hasked
        rw [if_pos (by simpa using hidle), if_neg fun h => hasked h.2.2]
    · obtain ⟨e, he⟩ := @addedExpiry_error now f.live _ hdays
      rw [if_neg fun h => hdays h.2.1, he]
  · obtain ⟨e, he⟩ := addedTotal_error hvolume
    rw [if_neg fun h => hvolume h.1, he]

theorem answeredLimits_idle {row : Option VPNClient}
    (h : ∀ x, findInboundClient r f.inbound f.identifier = some x →
      assertPreciseScope db f.panel f.inbound (clientApiIdentifier x f.identifier) .update =
        .ok () →
      ¬ (limitAddress f.panel f.inbound f.identifier x).Accepted r) :
    answeredLimits db f.panel f.inbound f.identifier total expiry row r =
      ⟨false, none, r, none⟩ := by
  rw [answeredLimits]
  cases hown : findInboundClient r f.inbound f.identifier with
  | none => rfl
  | some x =>
      dsimp only
      cases hscope : assertPreciseScope db f.panel f.inbound
          (clientApiIdentifier x f.identifier) .update with
      | error e => rfl
      | ok a =>
          have hrefused :
              ¬ (limitUpdate f.panel f.inbound f.identifier total expiry x).address.Accepted r :=
            h x hown hscope
          obtain ⟨e, he⟩ := PanelUpdate.answered_error hrefused
          simp only [he]

theorem updateLimitsByAdmin_idle (h : ∀ f, ¬ AdminAccepted db r req f) :
    updateLimitsByAdmin now req db r = ⟨false, none, r, none⟩ := by
  cases hplace : lookupPanelInbound db req.lookup with
  | error e => rw [updateLimitsByAdmin, hplace]
  | ok found =>
      obtain ⟨p, i, identifier⟩ := found
      cases hlive : findClientByIdentifier db r p identifier with
      | none =>
          rw [updateLimitsByAdmin, hplace]
          dsimp only
          rw [hlive]
      | some live =>
          rw [@updateLimitsByAdmin_asked now db r req ⟨p, i, identifier, live, live⟩ hplace hlive]
          split
          · rename_i hasked
            apply answeredLimits_idle
            intro x hown hscope haccepted
            exact h ⟨p, i, identifier, live, x⟩ ⟨hplace, hlive, hown, hasked.1, hasked.2.1,
              hasked.2.2, hscope, haccepted⟩
          · rfl

/-- An update that the panel carries out, whatever the check after it says. -/
theorem updateLimitsByAdmin_written (h : AdminAccepted db r req f) :
    ∃ succeeded row, updateLimitsByAdmin now req db r =
      ⟨succeeded, some (f.update now req), (f.update now req).applied r, row⟩ := by
  have hanswer : (f.update now req).answered r = .ok ((f.update now req).applied r) :=
    PanelUpdate.answered_ok h.accepted
  rw [AddressedClient.update] at hanswer
  rw [updateLimitsByAdmin_asked h.place h.live, if_pos ⟨h.volume, h.days, h.asked⟩, answeredLimits,
    h.own]
  dsimp only
  rw [h.scope]
  dsimp only
  rw [hanswer]
  dsimp only
  split
  · exact ⟨_, _, rfl⟩
  · split
    · exact ⟨_, _, rfl⟩
    · exact ⟨_, _, rfl⟩

/-- An update that reaches its client alone succeeds. -/
theorem updateLimitsByAdmin_alone (h : AdminAccepted db r req f)
    (halone : ∀ z ∈ r.clients,
      (limitAddress f.panel f.inbound f.identifier f.own).Reaches z ↔ z = f.own) :
    updateLimitsByAdmin now req db r =
      ⟨true, some (f.update now req), (f.update now req).applied r, (f.row db req).map
        (syncLocalClient ⟨((f.update now req).write f.own).totalGB,
          parseXuiDatetime ((f.update now req).write f.own).expiryTime, true⟩)⟩ := by
  have hanswer : (f.update now req).answered r = .ok ((f.update now req).applied r) :=
    PanelUpdate.answered_ok h.accepted
  have hverified : findInboundClient ((f.update now req).applied r) f.inbound f.identifier =
      some ((f.update now req).write f.own) := findInboundClient_applied h.own rfl halone
  have hchecked : verifyUpdate (f.newTotal req) (f.newExpiry now req)
      ((f.update now req).write f.own) = .ok _ := @verifyUpdate_updated f.own _ _ _ rfl rfl rfl
  rw [AddressedClient.update] at hanswer hverified hchecked ⊢
  rw [updateLimitsByAdmin_asked h.place h.live, if_pos ⟨h.volume, h.days, h.asked⟩, answeredLimits,
    h.own]
  dsimp only
  rw [h.scope]
  dsimp only
  rw [hanswer]
  dsimp only
  rw [hverified]
  dsimp only
  rw [hchecked]

theorem datetimeToMillis_add (t : Instant) (days : ℕ) :
    datetimeToMillis (t + daysToMs days * 1000) = datetimeToMillis t + daysToMs days := by
  unfold datetimeToMillis daysToMs
  omega

/-- The expiry that days lead to is a date. -/
theorem newExpiry_pos (hnow : 0 ≤ now) (t : Instant) (hdays : days ≠ 0) :
    0 < datetimeToMillis (max now t) + daysToMs days := by
  have hmax : (0 : ℤ) ≤ max now t := le_trans hnow (le_max_left now t)
  unfold datetimeToMillis daysToMs
  omega

theorem update_totalGB : ((f.update now req).write f.own).totalGB =
    (f.newTotal req).getD f.own.totalGB := rfl

theorem update_expiryTime : ((f.update now req).write f.own).expiryTime =
    ((f.newExpiry now req).map datetimeToMillis).getD f.own.expiryTime := rfl

/-- The update adds to its client where the limit that it starts from is the client's own. -/
theorem toppedUp_admin_iff (hnow : 0 ≤ now) (h : AdminAccepted db r req f) :
    ToppedUp (bytesFromGb (req.trafficGb.getD 0)) f.own ((f.update now req).write f.own) ↔
      (req.trafficGb ≠ none → f.live.totalGB = f.own.totalGB) ∧
      ∀ days ∈ req.expiryDays, f.own.expiryTime ≠ 0 ∧ f.own.expiryTime ≤
        datetimeToMillis (max now ((parseXuiDatetime f.live.expiryTime).getD now)) +
          daysToMs days := by
  have htotal : ((f.update now req).write f.own).totalGB =
      (if f.own.totalGB = 0 then 0
        else f.own.totalGB + bytesFromGb (req.trafficGb.getD 0)) ↔
      (req.trafficGb ≠ none → f.live.totalGB = f.own.totalGB) := by
    rw [update_totalGB, AddressedClient.newTotal]
    cases hgb : req.trafficGb with
    | none => by_cases hown : f.own.totalGB = 0 <;> simp [hown, bytesFromGb]
    | some gb =>
        have hlive := (h.volume gb hgb).1
        have hpos := bytesFromGb_pos (Nat.pos_of_ne_zero (h.volume gb hgb).2)
        rw [Option.map_some, Option.getD_some, Option.getD_some]
        have hsome : (some gb ≠ none → f.live.totalGB = f.own.totalGB) ↔
            f.live.totalGB = f.own.totalGB := ⟨fun h => h (Option.some_ne_none gb), fun h _ => h⟩
        rw [hsome]
        by_cases hown : f.own.totalGB = 0
        · rw [if_pos hown, hown]
          omega
        · rw [if_neg hown]
          omega
  have hexpiry : ((f.update now req).write f.own).expiryTime = 0 ∨ f.own.expiryTime ≠ 0 ∧
        f.own.expiryTime ≤ ((f.update now req).write f.own).expiryTime ↔
      ∀ days ∈ req.expiryDays, f.own.expiryTime ≠ 0 ∧ f.own.expiryTime ≤
        datetimeToMillis (max now ((parseXuiDatetime f.live.expiryTime).getD now)) +
          daysToMs days := by
    rw [update_expiryTime, AddressedClient.newExpiry]
    cases hdays : req.expiryDays with
    | none =>
        simp only [Option.map_none, Option.getD_none, Option.not_mem_none, false_implies,
          implies_true, iff_true]
        omega
    | some days =>
        have hpos := newExpiry_pos hnow ((parseXuiDatetime f.live.expiryTime).getD now)
          (h.days days hdays)
        simp only [Option.map_some, Option.getD_some, datetimeToMillis_add, Option.mem_some_iff,
          forall_eq']
        exact or_iff_right hpos.ne'
  constructor
  · intro ht
    exact ⟨htotal.mp ht.total, hexpiry.mp ht.expiry⟩
  · intro hc
    exact ⟨htotal.mpr hc.1, hexpiry.mpr hc.2, rfl, .inr rfl⟩

theorem rows_admin_iff (hnow : 0 ≤ now) (h : AdminAccepted db r req f) :
    (∀ c ∈ (f.row db req).map (syncLocalClient ⟨((f.update now req).write f.own).totalGB,
        parseXuiDatetime ((f.update now req).write f.own).expiryTime, true⟩),
      RowAgrees ((f.update now req).write f.own) c) ↔
      (req.trafficGb = none → f.own.totalGB = 0 →
        ∀ c ∈ f.row db req, c.trafficLimitBytes = 0) ∧
      (req.expiryDays = none → f.own.expiryTime ≤ 0 →
        ∀ c ∈ f.row db req, c.expiresAt = none) := by
  have htotal : ((f.update now req).write f.own).totalGB = 0 ↔
      req.trafficGb = none ∧ f.own.totalGB = 0 := by
    rw [update_totalGB, AddressedClient.newTotal]
    cases hgb : req.trafficGb with
    | none => simp
    | some gb =>
        have hlive := (h.volume gb hgb).1
        rw [Option.map_some, Option.getD_some]
        exact iff_of_false (by omega) fun hnone => Option.some_ne_none gb hnone.1
  have hexpiry : ((f.update now req).write f.own).expiryTime ≤ 0 ↔
      req.expiryDays = none ∧ f.own.expiryTime ≤ 0 := by
    rw [update_expiryTime, AddressedClient.newExpiry]
    cases hdays : req.expiryDays with
    | none => simp
    | some days =>
        have hpos := newExpiry_pos hnow ((parseXuiDatetime f.live.expiryTime).getD now)
          (h.days days hdays)
        simp only [Option.map_some, Option.getD_some, datetimeToMillis_add, reduceCtorEq,
          false_and, iff_false]
        exact not_le.mpr hpos
  simp only [Option.mem_map, forall_exists_index, and_imp, forall_apply_eq_imp_iff₂,
    rowAgrees_sync_iff, htotal, hexpiry]
  constructor
  · intro hrows
    exact ⟨fun hgb hown c hc => (hrows c hc).1 hgb hown,
      fun hdays hown c hc => (hrows c hc).2 hdays hown⟩
  · intro hrows c hc
    exact ⟨fun hgb hown => hrows.1 hgb hown c hc, fun hdays hown => hrows.2 hdays hown c hc⟩

theorem AdminAccepted.unique {g : AddressedClient} (h : AdminAccepted db r req f)
    (hg : AdminAccepted db r req g) : f = g := by
  have hplace := Except.ok.inj (h.place.symm.trans hg.place)
  simp only [Prod.mk.injEq] at hplace
  obtain ⟨hpanel, hinbound, hidentifier⟩ := hplace
  have hlive := h.live
  have hown := h.own
  rw [hpanel, hidentifier] at hlive
  rw [hinbound, hidentifier] at hown
  have hlives := Option.some.inj (hlive.symm.trans hg.live)
  have howns := Option.some.inj (hown.symm.trans hg.own)
  cases f
  cases g
  simp_all

theorem nothingTaken_admin_iff (hnow : 0 ≤ now) :
    NothingTaken now db r (.admin req) ↔ (TopUp.admin req).Keeps now db r := by
  by_cases hnever : ∀ f, ¬ AdminAccepted db r req f
  · exact iff_of_true (nothingTaken_of_idle (updateLimitsByAdmin_idle hnever))
      fun f hf => absurd hf (hnever f)
  · obtain ⟨f, hf⟩ := not_forall_not.mp hnever
    have htarget : (TopUp.admin req).target db r = some f.own := by
      simp only [TopUp.target, hf.place, hf.own]
    have hkeeps : (TopUp.admin req).Keeps now db r ↔ AdminKeeps now db r req f :=
      ⟨fun h => h f hf, fun h g hg => hf.unique hg ▸ h⟩
    rw [hkeeps]
    by_cases halone : ∀ z ∈ r.clients,
        (limitAddress f.panel f.inbound f.identifier f.own).Reaches z ↔ z = f.own
    · have hrun : (TopUp.admin req).run now db r = _ := updateLimitsByAdmin_alone hf halone
      rw [nothingTaken_written hrun htarget]
      have hadded := toppedUp_admin_iff hnow hf
      have hrows := rows_admin_iff hnow hf
      constructor
      · rintro ⟨-, -, htopped, hrow⟩
        have hlimits := hadded.mp htopped
        have hrest := hrows.mp hrow
        exact ⟨halone, hlimits.1, hlimits.2, hrest.1, hrest.2⟩
      · intro h
        exact ⟨rfl, halone, hadded.mpr ⟨h.total, h.expiry⟩, hrows.mpr ⟨h.unlimited, h.dateless⟩⟩
    · obtain ⟨succeeded, row, hwritten⟩ := @updateLimitsByAdmin_written now db r req f hf
      have hrun : (TopUp.admin req).run now db r = _ := hwritten
      rw [nothingTaken_written hrun htarget]
      exact iff_of_false (fun h => halone h.2.1) fun h => halone h.alone

/-! ### Every call -/

/-- A panel with two inbounds. -/
def twoInboundsDb : Db :=
  { orders := .empty
    sms := .empty
    clients := .empty
    inbounds := (Table.empty.put { pk := 5, panel := 4, inboundId := 1 }).put
      { pk := 6, panel := 4, inboundId := 2 }
    panels := Table.empty.put { pk := 4 }
    plans := .empty
    stores := .empty
    automations := .empty }

/-- A client of an inbound, with some gigabytes. -/
def limitedClient (inbound gb : ℕ) : RemoteClient :=
  { panel := 4, inbound, id := "8c1f", email := "ali", subId := "s", enable := true,
    expiryTime := 0, totalGB := gb * 1024 ^ 3, limitIp := 2 }

/-- 5 GB more for the client of an inbound. -/
def fiveMore (inboundId : ℕ) : TopUp :=
  .admin { panel := 4, inboundId, identifier := "8c1f", trafficGb := some 5000 }

/-- A gift of 2 GB for a service whose row says 10 GB. -/
def giftOfTwo : TopUp :=
  .gift { pk := 7, order := none, plan := none, inbound := some 5, username := "ali",
          uuid := some "8c1f", status := .active, trafficLimitBytes := 10 * 1024 ^ 3 } 2000 0

/-- A call that leaves another limit than the one it should takes something away. -/
theorem not_nothingTaken {x : RemoteClient} {total : ℕ}
    (hok : (call.run now db r).succeeded = true) (hx : call.target db r = some x)
    (hwritten : (call.run now db r).written.map (fun u => (u.write x).totalGB) = some total)
    (hne : total ≠ if x.totalGB = 0 then 0 else x.totalGB + call.bytes) :
    ¬ NothingTaken now db r call := by
  rintro (⟨hfailed, -⟩ | ⟨-, y, u, hy, hu, -, -, htopped, -⟩)
  · rw [hok] at hfailed
    cases hfailed
  · obtain rfl : x = y := Option.some.inj (hx.symm.trans hy)
    rw [hu] at hwritten
    exact hne ((Option.some.inj hwritten).symm.trans htopped.total)

/-- What the panel finds for the client of the first inbound. -/
def firstAddressed : AddressedClient where
  panel := { pk := 4 }
  inbound := { pk := 5, panel := 4, inboundId := 1 }
  identifier := "8c1f"
  live := limitedClient 1 10
  own := limitedClient 1 10

end Qasedak.Panels
