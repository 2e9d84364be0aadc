import Mathlib
import Qasedak.Panels.XuiClients

/-! `add_client_traffic`: the traffic and the days of a gift on the panel's client. -/

namespace Qasedak.Panels

open Foundation Store Orders

/-- `bytes_from_gb`, for thousandths of a gigabyte. -/
def bytesFromGb (gb : ℕ) : ℕ := gb * 1024 ^ 3 / 1000

/-- What `add_client_traffic` answers. -/
structure TrafficResult where
  totalTrafficBytes : ℕ
  expiryAt : Option Instant
  expiryUnlimited : Bool
  deriving DecidableEq, Repr

/-- The limit to which a gift is added: the panel's, or the one of the row where the panel
has none. -/
def currentTotal (c : VPNClient) (target : RemoteClient) : ℕ :=
  if target.totalGB = 0 then c.trafficLimitBytes else target.totalGB

/-- The panel's client with the gift. -/
def giftedClient (now : Instant) (c : VPNClient) (extraGb extraDays : ℕ) (target : RemoteClient) :
    RemoteClient :=
  { target with
    totalGB := currentTotal c target + bytesFromGb extraGb
    expiryTime :=
      if extraDays = 0 ∨ target.expiryTime = 0 then target.expiryTime
      else max (currentMs now) target.expiryTime + daysToMs extraDays }

/-- The email that `_post_client_update` sends. -/
def updateEmail (email : String) (payload : RemoteClient) : String :=
  strip (if email = "" then payload.email else email)

/-- `_post_client_update`. -/
def postClientUpdate (call : RemoteCall) (p : Panel) (i : Inbound) (identifier email : String)
    (payload : RemoteClient) : ShopM Unit :=
  let email := updateEmail email payload
  if usesModernClientApi p ∧ email = "" then
    Prog.raise "Client email is required for modern 3X-UI update."
  else Prog.remoteWrite timedOut call
    (Remote.updateClient (usesModernClientApi p) i.panel i.inboundId identifier email payload)

/-- `XUIService.add_client_traffic`. -/
def postClientTraffic (now : Instant) (c : VPNClient) (extraGb extraDays : ℕ) :
    ShopM TrafficResult := do
  let db ← Prog.readDb id
  let (i, p) ← Prog.ofExcept (resolveInboundPanel db c.inbound true)
  Prog.ofExcept (assertPreciseScope db p i (c.uuid.getD "") .update)
  let target ← Prog.remoteRead timedOut fun r =>
    match findServiceClient r i c with
    | some t => .ok t
    | none => .error "Client UUID was not found on the panel."
  let gifted := giftedClient now c extraGb extraDays target
  postClientUpdate (.addTraffic i.panel i.inboundId (c.uuid.getD "") gifted.totalGB) p i
    (c.uuid.getD "") (serviceEmail c) gifted
  return {
    totalTrafficBytes := gifted.totalGB
    expiryAt := parseXuiDatetime gifted.expiryTime
    expiryUnlimited := target.expiryTime = 0 }

/-- `add_client_traffic`: none where an error was caught. -/
def addClientTraffic (now : Instant) (c : VPNClient) (extraGb extraDays : ℕ) :
    ShopM (Option TrafficResult) :=
  Prog.onError (do
    let result ← postClientTraffic now c extraGb extraDays
    return some result) fun _ => return none

/-! ## What a gift does to the panel -/

variable {now : Instant} {c : VPNClient} {extraGb extraDays : ℕ} {s : Shop}

/-- Requests that happen and are answered, or fail without effect. -/
def Plain (signals : List Signal) : Prop :=
  ∀ sig ∈ signals, sig = .acknowledged ∨ sig = .notApplied

instance (signals : List Signal) : Decidable (Plain signals) :=
  inferInstanceAs (Decidable (∀ sig ∈ signals, _))

theorem Plain.tail {signals : List Signal} (h : Plain signals) : Plain signals.tail :=
  fun sig hsig => h sig (List.mem_of_mem_tail hsig)

theorem Plain.signal (h : Plain s.signals) : s.signal = .acknowledged ∨ s.signal = .notApplied := by
  unfold Sys.signal
  cases hs : s.signals with
  | nil => exact .inl rfl
  | cons sig rest => exact h sig (by simp [hs])

/-- The client of the panel that a gift is for, with its place. -/
structure GiftTarget where
  inbound : Inbound
  panel : Panel
  client : RemoteClient

/-- What `add_client_traffic` finds for a service. -/
def giftTarget (s : Shop) (c : VPNClient) : Option GiftTarget :=
  match resolveInboundPanel s.db c.inbound true with
  | .error _ => none
  | .ok (i, p) => (findServiceClient s.remote i c).map fun t => ⟨i, p, t⟩

/-- The update of a gift. -/
def GiftTarget.Addresses (t : GiftTarget) (c : VPNClient) (x : RemoteClient) : Prop :=
  Remote.Addressed (usesModernClientApi t.panel) t.inbound.panel t.inbound.inboundId
    (c.uuid.getD "") (updateEmail (serviceEmail c) t.client) x

instance (t : GiftTarget) (c : VPNClient) (x : RemoteClient) : Decidable (t.Addresses c x) :=
  inferInstanceAs (Decidable (Remote.Addressed _ _ _ _ _ _))

/-- The clients of the panel once the gift is there. -/
def giftedClients (now : Instant) (c : VPNClient) (extraGb extraDays : ℕ) (t : GiftTarget)
    (clients : List RemoteClient) : List RemoteClient :=
  clients.map fun x =>
    if t.Addresses c x then
      { giftedClient now c extraGb extraDays t.client with used := x.used }
    else x

/-- The answer to a gift that was added. -/
def giftResult (now : Instant) (c : VPNClient) (extraGb extraDays : ℕ) (t : GiftTarget) :
    TrafficResult where
  totalTrafficBytes := (giftedClient now c extraGb extraDays t.client).totalGB
  expiryAt := parseXuiDatetime (giftedClient now c extraGb extraDays t.client).expiryTime
  expiryUnlimited := t.client.expiryTime = 0

/-- Nothing happened, and the error can be handled. -/
def Unmoved (s : Shop) (h : Halt String) (s' : Shop) : Prop :=
  s'.db = s.db ∧ s'.remote = s.remote ∧ h ≠ .crashed

theorem Plain.not_crashes (h : Plain s.signals) : ¬ s.signal.Crashes := by
  rcases h.signal with hs | hs <;> simp [hs, Signal.Crashes]

/-- An update that is plain takes effect and is answered, or does nothing. -/
theorem wp_postClientUpdate {call : RemoteCall} {p : Panel} {i : Inbound}
    {identifier email : String} {payload : RemoteClient} {Q : Unit → Shop → Prop}
    (hplain : Plain s.signals)
    (hQ : ∀ s', s'.db = s.db →
      s'.remote = { s.remote with
        clients := s.remote.clients.map fun x =>
          if Remote.Addressed (usesModernClientApi p) i.panel i.inboundId identifier
              (updateEmail email payload) x then
            { payload with used := x.used }
          else x } →
      Q () s') :
    Prog.wp (postClientUpdate call p i identifier email payload) Q (Unmoved s) s := by
  unfold postClientUpdate
  dsimp only
  split
  · exact ⟨rfl, rfl, by simp⟩
  refine Prog.wp_remoteWrite (fun remote a happly _ => ?_) (fun h remote a _ hlost => ?_)
    fun h s' hs' hcrash => ?_
  · unfold Remote.updateClient at happly
    split at happly
    · obtain ⟨rfl, -⟩ := Prod.mk.inj (Except.ok.inj happly)
      exact hQ _ rfl rfl
    · cases happly
  · rcases hplain.signal with hs | hs <;> simp [hs] at hlost
  · have hcalm : h ≠ .crashed := fun hh => hplain.not_crashes (hcrash.mp hh)
    rcases hs' with rfl | rfl
    · exact ⟨rfl, rfl, hcalm⟩
    · exact ⟨rfl, rfl, hcalm⟩

theorem wp_postClientTraffic {Q : TrafficResult → Shop → Prop} (hplain : Plain s.signals)
    (hgifted : ∀ t s', giftTarget s c = some t → s'.db = s.db →
      s'.remote =
        { s.remote with clients := giftedClients now c extraGb extraDays t s.remote.clients } →
      Q (giftResult now c extraGb extraDays t) s') :
    Prog.wp (postClientTraffic now c extraGb extraDays) Q (Unmoved s) s := by
  have hidle : ∀ e, Unmoved s (.raised e) s := fun e => ⟨rfl, rfl, by simp⟩
  unfold postClientTraffic
  simp only [Prog.wp_bind, Prog.wp_readDb, Prog.wp_ofExcept, id_eq]
  cases hresolve : resolveInboundPanel s.db c.inbound true with
  | error e => exact hidle e
  | ok ip =>
  obtain ⟨i, p⟩ := ip
  dsimp only
  cases assertPreciseScope s.db p i (c.uuid.getD "") .update with
  | error e => exact hidle e
  | ok =>
  dsimp only
  refine Prog.wp_remoteRead (fun target hfound _ => ?_) fun h hcrash =>
    ⟨rfl, rfl, fun hh => hplain.not_crashes (hcrash.mp hh)⟩
  cases ht : findServiceClient s.remote i c with
  | none => simp [ht] at hfound
  | some t =>
      obtain rfl : t = target := by simpa [ht] using hfound
      have htarget : giftTarget s c = some ⟨i, p, t⟩ := by simp [giftTarget, hresolve, ht]
      exact wp_postClientUpdate (s := s.next) hplain.tail fun s' hdb hremote =>
        hgifted _ s' htarget hdb hremote

/-- Where requests happen or fail without effect, so does the gift. -/
theorem wp_addClientTraffic {Q : Option TrafficResult → Shop → Prop}
    {X : Halt String → Shop → Prop} (hplain : Plain s.signals)
    (hfailed : ∀ s', s'.db = s.db → s'.remote = s.remote → Q none s')
    (hgifted : ∀ t s', giftTarget s c = some t → s'.db = s.db →
      s'.remote =
        { s.remote with clients := giftedClients now c extraGb extraDays t s.remote.clients } →
      Q (some (giftResult now c extraGb extraDays t)) s') :
    Prog.wp (addClientTraffic now c extraGb extraDays) Q X s := by
  unfold addClientTraffic
  rw [Prog.wp_onError, Prog.wp_bind]
  refine Prog.wp_mono (wp_postClientTraffic hplain hgifted) (fun _ _ h => h) ?_
  rintro h s' ⟨hdb, hremote, hcrash⟩
  cases h with
  | crashed => exact absurd rfl hcrash
  | raised e => exact hfailed s' hdb hremote

/-! ## The limits of a panel -/

/-- The traffic that the clients of all panels may use. -/
def panelTraffic (r : Remote) : ℕ := (r.clients.map (·.totalGB)).sum

/-- The service is one client of the panel, and its traffic is limited. -/
structure GiftTarget.Limited (t : GiftTarget) (c : VPNClient) (clients : List RemoteClient) :
    Prop where
  only : clients.filter (fun x => t.Addresses c x) = [t.client]
  limited : t.client.totalGB ≠ 0

instance (t : GiftTarget) (c : VPNClient) (clients : List RemoteClient) :
    Decidable (t.Limited c clients) :=
  decidable_of_iff (clients.filter (fun x => t.Addresses c x) = [t.client] ∧ t.client.totalGB ≠ 0)
    ⟨fun h => ⟨h.1, h.2⟩, fun h => ⟨h.1, h.2⟩⟩

theorem sum_giftedClients (clients : List RemoteClient) (t : GiftTarget) :
    ((giftedClients now c extraGb extraDays t clients).map (·.totalGB)).sum +
        ((clients.filter fun x => t.Addresses c x).map (·.totalGB)).sum =
      (clients.map (·.totalGB)).sum +
        (clients.filter fun x => t.Addresses c x).length *
          (currentTotal c t.client + bytesFromGb extraGb) := by
  unfold giftedClients
  induction clients with
  | nil => simp
  | cons x clients ih =>
      by_cases hx : t.Addresses c x
      · have hfilter : (x :: clients).filter (fun x => t.Addresses c x) =
            x :: clients.filter fun x => t.Addresses c x := List.filter_cons_of_pos (by simpa using hx)
        simp only [List.map_cons, List.sum_cons, if_pos hx, hfilter, List.length_cons, Nat.add_mul,
          Nat.one_mul, giftedClient] at ih ⊢
        omega
      · have hfilter : (x :: clients).filter (fun x => t.Addresses c x) =
            clients.filter fun x => t.Addresses c x := List.filter_cons_of_neg (by simpa using hx)
        simp only [List.map_cons, List.sum_cons, if_neg hx, hfilter] at ih ⊢
        omega

/-- A gift to a limited client is what the panel's traffic grows by. -/
theorem panelTraffic_gifted {r : Remote} {t : GiftTarget} (h : t.Limited c r.clients) :
    panelTraffic { r with clients := giftedClients now c extraGb extraDays t r.clients } =
      panelTraffic r + bytesFromGb extraGb := by
  have hsum := @sum_giftedClients now c extraGb extraDays r.clients t
  rw [h.only] at hsum
  have htotal : currentTotal c t.client = t.client.totalGB := if_neg h.limited
  simp only [List.map_cons, List.map_nil, List.sum_cons, List.sum_nil, List.length_singleton,
    Nat.one_mul, htotal] at hsum
  unfold panelTraffic
  dsimp only
  omega

end Qasedak.Panels
