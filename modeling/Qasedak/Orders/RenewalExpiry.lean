import Qasedak.Foundation.Run
import Qasedak.Orders.Renewal
import Mathlib.Order.WithBot
import Mathlib.Data.Int.Order.Basic

/-! The date that a renewal asks the panel for, against the date that the service has there.
A service without an end is given one, and a service that nobody used yet may lose time. -/

namespace Qasedak.Orders

open Foundation Store Panels

variable {now : Instant} {user : Option ℕ} {order : ℕ} {s s' : Shop} {o : Order} {c : VPNClient}
  {plan : Plan} {i : Inbound} {p : Panel} {target : RemoteClient} {intent : RenewalIntent}

/-! ## The date of an intent -/

/-- When a client of the panel ends, in milliseconds. Zero is never; a negative number is the
period of a client that nobody used yet, which ends no sooner than if it started now. -/
def effectiveExpiry (currentTime expiryTime : ℤ) : WithTop ℤ :=
  if expiryTime = 0 then ⊤
  else if expiryTime < 0 then ((currentTime - expiryTime : ℤ) : WithTop ℤ)
  else (expiryTime : WithTop ℤ)

/-- The date that a renewal asks for: the recorded one, or a new one. -/
def renewalExpiry (recorded : Option RenewalIntent) (plan : Plan) (currentTime currentExpiry : ℤ) :
    ℤ :=
  (recorded.map (·.targetExpiry)).getD
    (max currentTime currentExpiry + daysToMs plan.durationDays)

/-- The service has a date, or it is unused and its period fits into what the renewal gives. -/
def HasTerm (recorded : Option RenewalIntent) (plan : Plan) (currentTime currentExpiry : ℤ) :
    Prop :=
  0 < currentExpiry ∨ currentExpiry < 0 ∧
    currentTime - currentExpiry ≤ renewalExpiry recorded plan currentTime currentExpiry

/-- A clock that shows milliseconds since 1970, which `parse_xui_datetime` takes for such. -/
def PlausibleClock (currentTime : ℤ) : Prop := 10000000000 < currentTime

/-- The intent was made by an attempt at some time. -/
def SoundIntent (intent : RenewalIntent) : Prop :=
  ∃ t, PlausibleClock t ∧
    intent.targetExpiry = max t intent.previousExpiry + daysToMs intent.durationDays

theorem daysToMs_nonneg (days : ℕ) : 0 ≤ daysToMs days := by
  unfold daysToMs
  omega

/-- What is known of the intent of an attempt, whether it is new or was recorded. -/
structure IntentFits (intent : RenewalIntent) (plan : Plan)
    (recorded : Option RenewalIntent) (currentTime currentExpiry : ℤ) : Prop where
  sound : SoundIntent intent
  expiry : intent.targetExpiry = renewalExpiry recorded plan currentTime currentExpiry
  current : currentExpiry = intent.previousExpiry ∨ currentExpiry = intent.targetExpiry

theorem SoundIntent.plausible (h : SoundIntent intent) : PlausibleClock intent.targetExpiry := by
  obtain ⟨t, ht, htarget⟩ := h
  have hdays := daysToMs_nonneg intent.durationDays
  have hmax := le_max_left t intent.previousExpiry
  unfold PlausibleClock at ht ⊢
  omega

theorem fits_of_resolve {recorded : Option RenewalIntent} {currentTime currentExpiry : ℤ}
    (hclock : PlausibleClock currentTime) (hrecorded : ∀ r ∈ recorded, SoundIntent r)
    (h : resolveRenewalIntent recorded c i plan currentTime currentExpiry = .ok intent) :
    IntentFits intent plan recorded currentTime currentExpiry := by
  unfold resolveRenewalIntent at h
  cases recorded with
  | none =>
      obtain rfl := Except.ok.inj h
      exact ⟨⟨currentTime, hclock, rfl⟩, rfl, .inl rfl⟩
  | some r =>
      dsimp only at h
      split at h
      · cases h
      split at h
      · cases h
      rename_i hcurrent
      obtain rfl := Except.ok.inj h
      exact ⟨hrecorded r rfl, rfl, by omega⟩

/-- The date of an intent is no earlier than the one that the service has, exactly where the
service has a term. -/
theorem effectiveExpiry_le_iff {recorded : Option RenewalIntent} {currentTime currentExpiry : ℤ}
    (h : IntentFits intent plan recorded currentTime currentExpiry) :
    effectiveExpiry currentTime currentExpiry ≤ (intent.targetExpiry : WithTop ℤ) ↔
      HasTerm recorded plan currentTime currentExpiry := by
  unfold effectiveExpiry HasTerm
  rw [← h.expiry]
  by_cases hzero : currentExpiry = 0
  · simp [hzero]
  rw [if_neg hzero]
  by_cases hneg : currentExpiry < 0
  · rw [if_pos hneg, WithTop.coe_le_coe]
    omega
  · rw [if_neg hneg, WithTop.coe_le_coe]
    obtain ⟨t, -, htarget⟩ := h.sound
    have hdays := daysToMs_nonneg intent.durationDays
    have hmax := le_max_right t intent.previousExpiry
    have hle : currentExpiry ≤ intent.targetExpiry := by
      rcases h.current with hprevious | hcurrent
      · omega
      · omega
    constructor
    · intro _
      exact .inl (by omega)
    · intro _
      exact hle

/-- The row of a renewed service shows the date of the panel. -/
theorem expiresAt_renewedLocalClient (h : SoundIntent intent) :
    (renewedLocalClient plan intent.targetExpiry c).expiresAt =
      some (intent.targetExpiry * 1000) := by
  have hplausible := h.plausible
  unfold PlausibleClock at hplausible
  have hpos : ¬ intent.targetExpiry ≤ 0 := by omega
  simp [renewedLocalClient, parseXuiDatetime, hpos, hplausible]

/-! ## The request -/

/-- The dates that the panels were asked for. -/
def expiriesSent (s : Shop) : List ℤ := s.calls.filterMap (·.1.newExpiry)

/-- The attempt goes as far as asking the panel. -/
structure Renewing (s : Shop) (now : Instant) (order : ℕ) (o : Order) (c : VPNClient) (plan : Plan)
    (i : Inbound) (p : Panel) (target : RemoteClient) (intent : RenewalIntent) : Prop where
  row : s.db.orders.get? order = some o
  renews : o.metadata.renewalClientPk = some c.pk
  client : s.db.clients.get? c.pk = some c
  own : renewsForeignClient s.db o c = false
  linked : vpnClientPanelError s.db c = none
  bought : s.db.plans.get? o.plan = some plan
  place : resolveInboundPanel s.db c.inbound true = .ok (i, p)
  precise : assertPreciseScope s.db p i (c.uuid.getD "") .renew = .ok ()
  found : findServiceClient s.remote i c = some target
  resolved : resolveRenewalIntent o.metadata.renewalIntent c i plan (currentMs now)
    target.expiryTime = .ok intent
  open_ : intent.resetStatus = .pending ∨ intent.resetStatus = .done ∧ alreadyUpdated intent target

/-- Nothing but the date of the intent was asked for, and the services are as they were. -/
structure AsksOnly (intent : RenewalIntent) (s s' : Shop) : Prop where
  sent : ∀ e ∈ expiriesSent s', e = intent.targetExpiry
  clients : s'.db.clients = s.db.clients

/-- A property of the requests for a date and of the services, which other steps keep. -/
structure Framed (P : Shop → Prop) : Prop where
  same : ∀ {s₁ s₂ : Shop}, P s₁ → s₂.calls = s₁.calls → s₂.db.clients = s₁.db.clients → P s₂
  other : ∀ {s₁ s₂ : Shop} {call : RemoteCall} {effect : Bool}, P s₁ → call.newExpiry = none →
    s₂.calls = (call, effect) :: s₁.calls → s₂.db.clients = s₁.db.clients → P s₂

theorem framed_asksOnly : Framed (AsksOnly intent s) where
  same h hcalls hclients :=
    ⟨by unfold expiriesSent; rw [hcalls]; exact h.sent, hclients.trans h.clients⟩
  other h hcall hcalls hclients := by
    refine ⟨fun e he => h.sent e ?_, hclients.trans h.clients⟩
    simpa [expiriesSent, hcalls, hcall] using he

theorem framed_asked {e : ℤ} : Framed fun s => e ∈ expiriesSent s where
  same h hcalls _ := by
    unfold expiriesSent
    rwa [hcalls]
  other h hcall hcalls _ := by
    simpa [expiriesSent, hcalls, hcall] using h

section Frames

variable {P : Shop → Prop} (hP : Framed P)
include hP

theorem Framed.wp_saveIntent {intent : RenewalIntent} (h : P s) :
    Prog.wp (saveIntent now order intent) (fun _ s' => P s') (fun _ s' => P s') s :=
  hP.same h rfl rfl

theorem Framed.wp_postClientResetTraffic {email : String} (h : P s) :
    Prog.wp (postClientResetTraffic p i email) (fun _ s' => P s') (fun _ s' => P s') s := by
  have hreset : ∀ s₁, P s₁ → Prog.wp (Prog.remoteWrite timedOut
      (.resetTraffic i.panel i.inboundId email) (Remote.resetTraffic i.panel i.inboundId email))
      (fun _ s' => P s') (fun _ s' => P s') s₁ := by
    intro s₁ h₁
    refine Prog.wp_remoteWrite_frame fun s₂ hdb hcalls => ?_
    rcases hcalls with hcalls | ⟨effect, hcalls⟩
    · exact hP.same h₁ hcalls (by rw [hdb])
    · exact hP.other h₁ rfl hcalls (by rw [hdb])
  unfold postClientResetTraffic assertSingleAttachment
  split
  · rw [Prog.wp_bind]
    refine Prog.wp_remoteRead (fun _ _ _ => ?_) fun _ _ => hP.same h rfl rfl
    exact hreset _ (hP.same h rfl rfl)
  · exact hreset _ h

theorem Framed.wp_resetUsage (h : P s) :
    Prog.wp (resetUsage now p i c order intent) (fun _ s' => P s') (fun _ s' => P s') s := by
  unfold resetUsage
  split
  · exact h
  simp only [Prog.wp_bind]
  refine Prog.wp_mono (hP.wp_saveIntent h) (fun _ s₁ h₁ => ?_) fun _ _ h => h
  refine Prog.wp_mono (hP.wp_postClientResetTraffic h₁) (fun _ s₂ h₂ => ?_) fun _ _ h => h
  exact hP.wp_saveIntent h₂

end Frames

/-- The date of the intent is asked for, or the panel shows it already. -/
theorem AsksOnly.wp_applyRenewalIntent (h : AsksOnly intent s s') :
    Prog.wp (applyRenewalIntent now p i c plan order target intent)
      (fun _ s'' => AsksOnly intent s s'') (fun _ s'' => AsksOnly intent s s'') s' := by
  unfold applyRenewalIntent
  simp only [Prog.wp_bind]
  refine Prog.wp_mono (framed_asksOnly.wp_saveIntent h) (fun _ s₁ h₁ => ?_) fun _ _ h => h
  have hpost : Prog.wp (postRenewal p i c plan target intent) (fun _ s'' => AsksOnly intent s s'')
      (fun _ s'' => AsksOnly intent s s'') s₁ := by
    unfold postRenewal
    split
    · exact h₁
    refine Prog.wp_remoteWrite_frame fun s₂ hdb hcalls => ?_
    have hclients : s₂.db.clients = s₁.db.clients := by rw [hdb]
    rcases hcalls with hcalls | ⟨effect, hcalls⟩
    · exact framed_asksOnly.same h₁ hcalls hclients
    · refine ⟨fun e he => ?_, hclients.trans h₁.clients⟩
      have hor : e = intent.targetExpiry ∨ e ∈ expiriesSent s₁ := by
        simpa [expiriesSent, hcalls, RemoteCall.newExpiry] using he
      exact hor.elim id (h₁.sent e)
  refine Prog.wp_mono hpost (fun _ s₂ h₂ => ?_) fun _ _ h => h
  exact framed_asksOnly.wp_resetUsage h₂

/-- The panel is asked for the date of the intent only, and the answer is that date. -/
theorem Renewing.wp_updateClientSubscription (h : Renewing s now order o c plan i p target intent)
    (hcalls : s.calls = []) :
    Prog.wp (updateClientSubscription now c plan order)
      (fun e s' => e = intent.targetExpiry ∧ AsksOnly intent s s')
      (fun _ s' => AsksOnly intent s s') s := by
  have hstart : ∀ s₁ : Shop, s₁.db = s.db → s₁.calls = s.calls → AsksOnly intent s s₁ := by
    intro s₁ hdb hs₁
    refine ⟨fun e he => ?_, by rw [hdb]⟩
    rw [expiriesSent, hs₁, hcalls] at he
    cases he
  unfold updateClientSubscription getOrder
  simp only [Prog.wp_bind, Prog.wp_readDb, Prog.wp_ofExcept, id_eq, h.place, h.precise]
  refine Prog.wp_remoteRead (fun t ht _ => ?_) fun _ _ => hstart _ rfl rfl
  obtain rfl : target = t := by simpa [h.found] using ht
  simp only [Sys.next_db, h.row, Prog.wp_orRaise, h.resolved]
  split
  · exact hstart _ rfl rfl
  split
  · exact hstart _ rfl rfl
  rw [Prog.wp_bind]
  exact Prog.wp_mono (hstart s.next rfl rfl).wp_applyRenewalIntent (fun _ _ h => ⟨rfl, h⟩)
    fun _ _ h => h

/-- Where the panel answers everything and does not show the renewal yet, it is asked for it. -/
theorem Renewing.wp_updateClientSubscription_asks
    (h : Renewing s now order o c plan i p target intent) (hsignals : s.signals = [])
    (hshown : ¬ alreadyUpdated intent target) :
    Prog.wp (updateClientSubscription now c plan order)
      (fun _ s' => intent.targetExpiry ∈ expiriesSent s')
      (fun _ s' => intent.targetExpiry ∈ expiriesSent s') s := by
  have hpending : intent.resetStatus = .pending := by
    rcases h.open_ with hp | ⟨-, hdone⟩
    · exact hp
    · exact absurd hdone hshown
  have hanswered : ∀ s₁ : Shop, s₁.signals = [] → s₁.signal = .acknowledged := by
    intro s₁ hs₁
    simp [Sys.signal, hs₁]
  unfold updateClientSubscription getOrder
  simp only [Prog.wp_bind, Prog.wp_readDb, Prog.wp_ofExcept, id_eq, h.place, h.precise]
  refine Prog.wp_remoteRead_acknowledged (hanswered s hsignals) ?_
  rw [h.found]
  simp only [Prog.wp_ofExcept, Sys.next_db, h.row, Prog.wp_orRaise, h.resolved, hpending]
  rw [if_neg (by decide), if_neg (by simp), Prog.wp_bind]
  unfold applyRenewalIntent postRenewal
  simp only [Prog.wp_bind]
  -- The intent is saved before the panel is asked.
  change Prog.wp (if alreadyUpdated intent target then pure () else _) _ _ _
  rw [if_neg hshown]
  refine Prog.wp_remoteWrite_acknowledged (hanswered _ (by simp [hsignals])) (fun _ _ _ => ?_)
    fun _ _ => ?_
  · refine Prog.wp_mono (framed_asked.wp_resetUsage ?_) (fun _ _ h => h) fun _ _ h => h
    simp [expiriesSent, RemoteCall.newExpiry]
  · simp [expiriesSent, RemoteCall.newExpiry]

/-! ## The renewal -/

/-- The shop once the panel was renewed. -/
def recordRenewal (now : Instant) (user : Option ℕ) (order : ℕ) (c : VPNClient) (plan : Plan)
    (expiry : ℤ) (s : Shop) : Shop :=
  { s with
    db := (s.db.setOrder order (fun o => (o.markPaymentVerified user now).save now)
      fun _ => rfl).setClient c.pk (renewedLocalClient plan expiry)
        (renewedLocalClient_pk plan expiry) }

theorem Renewing.wp_activateRenewalOrder {Q : ProvisioningResult → Shop → Prop}
    {X : Halt String → Shop → Prop} (h : Renewing s now order o c plan i p target intent)
    (hupdate : Prog.wp (updateClientSubscription now c plan order)
      (fun e s₁ => ∀ r, Q r (recordRenewal now user order c plan e s₁))
      (fun e s₁ => e = .crashed ∧ X e s₁ ∨ ∀ r, r.ok = false → Q r s₁) s)
    (hX : ∀ s₁, (∀ r, r.ok = false → Q r s₁) → X .crashed s₁) :
    Prog.wp (activateRenewalOrder now user order) Q X s := by
  unfold activateRenewalOrder getOrder
  simp only [Prog.wp_bind, Prog.wp_readDb, Prog.wp_orRaise, h.row, id_eq, h.renews, h.client]
  rw [if_neg (by simp [h.own]), if_neg (by simp [h.linked]), Prog.wp_bind]
  unfold getPlan
  simp only [Prog.wp_bind, Prog.wp_readDb, Prog.wp_orRaise, h.bought]
  unfold renewClient
  rw [Prog.wp_onError, Prog.wp_bind]
  refine Prog.wp_mono hupdate (fun e s₁ h₁ => h₁ _) fun e s₁ h₁ => ?_
  cases e with
  | crashed => exact h₁.elim (·.2) (hX s₁)
  | raised e =>
      rcases h₁ with ⟨hcrash, -⟩ | h₁
      · cases hcrash
      · exact h₁ _ rfl

/-- No request asks for an earlier date than the service has, and the row of a renewed service
shows the date that was asked for. -/
structure KeepsTime (c : VPNClient) (effective : WithTop ℤ) (r : ProvisioningResult) (s : Shop) :
    Prop where
  later : ∀ e ∈ expiriesSent s, effective ≤ (e : WithTop ℤ)
  agrees : r.ok = true → ∀ e ∈ expiriesSent s, ∃ row, s.db.clients.get? c.pk = some row ∧
    row.expiresAt = some (e * 1000)

theorem Renewing.keepsTime (h : Renewing s now order o c plan i p target intent)
    (hcalls : s.calls = []) (hsound : SoundIntent intent) {effective : WithTop ℤ}
    (heffective : effective ≤ (intent.targetExpiry : WithTop ℤ)) :
    Prog.wp (activateRenewalOrder now user order) (KeepsTime c effective)
      (fun _ s' => ∀ e ∈ expiriesSent s', effective ≤ (e : WithTop ℤ)) s := by
  have hlater : ∀ {s₁ : Shop}, AsksOnly intent s s₁ →
      ∀ e ∈ expiriesSent s₁, effective ≤ (e : WithTop ℤ) := by
    intro s₁ h₁ e he
    rw [h₁.sent e he]
    exact heffective
  refine h.wp_activateRenewalOrder ?_ fun s₁ h₁ => (h₁ ⟨false, "", false, ""⟩ rfl).later
  refine Prog.wp_mono (h.wp_updateClientSubscription hcalls) (fun e s₁ h₁ r => ?_)
    fun e s₁ h₁ => .inr fun r hr => ⟨hlater h₁, fun hok => by simp [hr] at hok⟩
  obtain ⟨rfl, hasks⟩ := h₁
  refine ⟨fun e he => hlater hasks e he, fun _ e he => ?_⟩
  obtain rfl : e = intent.targetExpiry := hasks.sent e he
  refine ⟨renewedLocalClient plan intent.targetExpiry c, ?_, expiresAt_renewedLocalClient hsound⟩
  have hclient : s₁.db.clients.get? c.pk = some c := by rw [hasks.clients]; exact h.client
  simp [recordRenewal, Db.setClient, Db.setOrder, Table.get?_modify, hclient]

theorem Renewing.asks (h : Renewing s now order o c plan i p target intent)
    (hsignals : s.signals = []) (hshown : ¬ alreadyUpdated intent target) :
    Prog.wp (activateRenewalOrder now user order)
      (fun _ s' => intent.targetExpiry ∈ expiriesSent s')
      (fun _ s' => intent.targetExpiry ∈ expiriesSent s') s := by
  refine h.wp_activateRenewalOrder ?_ fun s₁ h₁ => h₁ ⟨false, "", false, ""⟩ rfl
  exact Prog.wp_mono (h.wp_updateClientSubscription_asks hsignals hshown)
    (fun _ _ h₁ _ => h₁) fun _ _ h₁ => .inr fun _ _ => h₁

theorem Renewing.with_signals (h : Renewing s now order o c plan i p target intent)
    (signals : List Signal) :
    Renewing { s with signals := signals } now order o c plan i p target intent :=
  ⟨h.row, h.renews, h.client, h.own, h.linked, h.bought, h.place, h.precise, h.found, h.resolved,
    h.open_⟩

/-! ## Recorded intents -/

/-- Every intent in the metadata of an order was made by an attempt. -/
def IntentsSound (db : Db) : Prop :=
  ∀ o ∈ db.orders.rows, ∀ r ∈ o.metadata.renewalIntent, SoundIntent r

theorem IntentsSound.setOrder {db : Db} (h : IntentsSound db) {f : Order → Order}
    (hf : ∀ o, (f o).pk = o.pk)
    (hintent : ∀ o ∈ db.orders.rows, ∀ r ∈ (f o).metadata.renewalIntent, SoundIntent r) :
    IntentsSound (db.setOrder order f hf) := by
  intro o ho
  obtain ⟨o', ho', rfl⟩ := List.mem_map.mp ho
  split
  · exact hintent o' ho'
  · exact h o' ho'

theorem IntentsSound.wp_saveOrder {f : Order → Order} {hf : ∀ o, (f o).pk = o.pk}
    {X : Halt String → Shop → Prop} (h : IntentsSound s.db)
    (hintent : ∀ o ∈ s.db.orders.rows, ∀ r ∈ (f o).metadata.renewalIntent, SoundIntent r) :
    Prog.wp (saveOrder now order f hf) (fun _ s' => IntentsSound s'.db) X s := by
  unfold saveOrder
  rw [Prog.wp_writeDb]
  exact h.setOrder _ hintent

theorem IntentsSound.wp_saveIntent (h : IntentsSound s.db) (hsound : SoundIntent intent) :
    Prog.wp (saveIntent now order intent) (fun _ s' => IntentsSound s'.db)
      (fun _ s' => IntentsSound s'.db) s := by
  refine h.wp_saveOrder fun _ _ r hr => ?_
  obtain rfl : intent = r := Option.some.inj hr
  exact hsound

theorem SoundIntent.of_resetStatus (h : SoundIntent intent) (status : ResetStatus) :
    SoundIntent { intent with resetStatus := status } := h

/-- Requests leave the orders alone. -/
theorem IntentsSound.of_db {s' : Shop} (h : IntentsSound s.db) (hdb : s'.db = s.db) :
    IntentsSound s'.db := by
  rw [hdb]
  exact h

theorem IntentsSound.wp_remoteWrite {call : RemoteCall}
    {apply : Remote → Except String (Remote × Unit)} (h : IntentsSound s.db) :
    Prog.wp (Prog.remoteWrite timedOut call apply) (fun _ s' => IntentsSound s'.db)
      (fun _ s' => IntentsSound s'.db) s :=
  Prog.wp_remoteWrite_frame fun _ hdb _ => h.of_db hdb

theorem IntentsSound.wp_resetUsage (h : IntentsSound s.db) (hsound : SoundIntent intent) :
    Prog.wp (resetUsage now p i c order intent) (fun _ s' => IntentsSound s'.db)
      (fun _ s' => IntentsSound s'.db) s := by
  unfold resetUsage
  split
  · exact h
  simp only [Prog.wp_bind]
  refine Prog.wp_mono (h.wp_saveIntent (hsound.of_resetStatus .started)) (fun _ s₁ h₁ => ?_)
    fun _ _ h => h
  have hreset : Prog.wp (postClientResetTraffic p i (serviceEmail c))
      (fun _ s' => IntentsSound s'.db) (fun _ s' => IntentsSound s'.db) s₁ := by
    unfold postClientResetTraffic assertSingleAttachment
    split
    · rw [Prog.wp_bind]
      exact Prog.wp_remoteRead (fun _ _ _ => IntentsSound.wp_remoteWrite (s := s₁.next) h₁)
        fun _ _ => h₁
    · exact h₁.wp_remoteWrite
  exact Prog.wp_mono hreset (fun _ s₂ h₂ => h₂.wp_saveIntent (hsound.of_resetStatus .done))
    fun _ _ h => h

theorem IntentsSound.wp_updateClientSubscription (h : IntentsSound s.db)
    (hclock : PlausibleClock (currentMs now)) :
    Prog.wp (updateClientSubscription now c plan order) (fun _ s' => IntentsSound s'.db)
      (fun _ s' => IntentsSound s'.db) s := by
  unfold updateClientSubscription getOrder
  simp only [Prog.wp_bind, Prog.wp_readDb, Prog.wp_ofExcept, id_eq]
  cases resolveInboundPanel s.db c.inbound true with
  | error e => exact h
  | ok ip =>
  obtain ⟨i, p⟩ := ip
  dsimp only
  split
  case h_2 => exact h
  refine Prog.wp_remoteRead (fun target _ _ => ?_) fun _ _ => h
  rw [Prog.wp_orRaise]
  split
  case h_2 => exact h
  rename_i o ho
  split
  case h_2 => exact h
  rename_i intent hintent
  have hsound : SoundIntent intent :=
    (fits_of_resolve hclock (h o (Table.mem_of_get? ho).1) hintent).sound
  split
  · exact h
  split
  · exact h
  unfold applyRenewalIntent
  simp only [Prog.wp_bind]
  refine Prog.wp_mono (IntentsSound.wp_saveIntent (s := s.next) h hsound) (fun _ s₁ h₁ => ?_)
    fun _ _ h => h
  have hpost : Prog.wp (postRenewal p i c plan target intent) (fun _ s' => IntentsSound s'.db)
      (fun _ s' => IntentsSound s'.db) s₁ := by
    unfold postRenewal
    split
    · exact h₁
    · exact h₁.wp_remoteWrite
  exact Prog.wp_mono hpost (fun _ s₂ h₂ => h₂.wp_resetUsage hsound) fun _ _ h => h

/-- A renewal records sound intents only. -/
theorem IntentsSound.wp_activateRenewalOrder (h : IntentsSound s.db)
    (hclock : PlausibleClock (currentMs now)) :
    Prog.wp (activateRenewalOrder now user order) (fun _ s' => IntentsSound s'.db)
      (fun _ s' => IntentsSound s'.db) s := by
  unfold activateRenewalOrder getOrder
  simp only [Prog.wp_bind, Prog.wp_readDb, Prog.wp_orRaise, id_eq]
  split
  case h_2 => exact h
  split
  · exact h
  split
  · exact h
  split
  · exact h
  split
  · exact h
  unfold getPlan
  simp only [Prog.wp_bind, Prog.wp_readDb, Prog.wp_orRaise]
  split
  case h_2 => exact h
  unfold renewClient
  rw [Prog.wp_onError, Prog.wp_bind]
  refine Prog.wp_mono (h.wp_updateClientSubscription hclock) (fun e s₁ h₁ => ?_) fun e s₁ h₁ => ?_
  · simp only [Prog.wp_pure, Prog.wp_bind]
    refine Prog.wp_mono (h₁.wp_saveOrder fun o ho => h₁ o ho) (fun _ s₂ h₂ => ?_) fun _ _ h => h
    exact h₂
  · cases e with
    | crashed => exact h₁
    | raised e => exact h₁

structure Activation where
  now : Instant
  user : Option ℕ
  order : ℕ

def Activation.step (s : Shop) (a : Activation) : Shop :=
  (activateRenewalOrder a.now a.user a.order s).2

/-- Whatever becomes of its requests, a renewal takes no time from the service, exactly where
the service has a term on the panel. -/
theorem renewal_keeps_time_iff (user : Option ℕ)
    (h : Renewing s now order o c plan i p target intent) (hcalls : s.calls = [])
    (hclock : PlausibleClock (currentMs now))
    (hintents : IntentsSound s.db) :
    (∀ signals, Prog.wp (activateRenewalOrder now user order)
      (KeepsTime c (effectiveExpiry (currentMs now) target.expiryTime))
      (fun _ s' => ∀ e ∈ expiriesSent s',
        effectiveExpiry (currentMs now) target.expiryTime ≤ (e : WithTop ℤ))
      { s with signals := signals }) ↔
      HasTerm o.metadata.renewalIntent plan (currentMs now) target.expiryTime := by
  have hfits := fits_of_resolve hclock (hintents o (Table.mem_of_get? h.row).1) h.resolved
  rw [← effectiveExpiry_le_iff hfits]
  constructor
  · intro hkeeps
    by_contra hearlier
    have hshown : ¬ alreadyUpdated intent target := by
      intro hshown
      have hexpiry : target.expiryTime = intent.targetExpiry := by
        simp only [alreadyUpdated, Bool.and_eq_true, decide_eq_true_eq] at hshown
        exact hshown.1.1.1
      have hpos := hfits.sound.plausible
      unfold PlausibleClock at hpos
      exact hearlier ((effectiveExpiry_le_iff hfits).mpr (.inl (by omega)))
    have hasks := @Renewing.asks _ user _ _ _ _ _ _ _ _ _ (h.with_signals []) rfl hshown
    refine Prog.snd_of_wp (P := fun _ => False) (Prog.wp_mono (Prog.wp_and (hkeeps []) hasks)
      (fun _ _ hs => ?_) fun _ _ hs => ?_)
    · exact hearlier (hs.1.later _ hs.2)
    · exact hearlier (hs.1 _ hs.2)
  · intro heffective signals
    exact (h.with_signals signals).keepsTime hcalls hfits.sound heffective

def termOrder : Order := { pk := 1, plan := 3, metadata := { renewalClientPk := some 7 } }

def termClient : VPNClient :=
  { pk := 7, order := none, plan := some 3, inbound := some 5, username := "ali",
    uuid := some "8c1f", status := .active }

def termPlan : Plan :=
  { pk := 3, price := 90, trafficLimitBytes := 1000, durationDays := 30, deviceLimit := 2 }

/-- The client on the panel, with its date. -/
def termRemote (expiryTime : ℤ) : RemoteClient :=
  { panel := 4, inbound := 1, id := "8c1f", email := "ali", subId := "s", enable := true,
    expiryTime := expiryTime, totalGB := 1000, limitIp := 2 }

/-- A thirty day renewal of client 7. -/
def termDb : Db :=
  { orders := Table.empty.put termOrder
    sms := .empty
    clients := Table.empty.put termClient
    inbounds := Table.empty.put { pk := 5, panel := 4, inboundId := 1 }
    panels := Table.empty.put { pk := 4 }
    plans := Table.empty.put termPlan
    stores := .empty
    automations := .empty }

def termShop (expiryTime : ℤ) : Shop where
  db := termDb
  remote := { clients := [termRemote expiryTime] }

/-- A moment in 2024. -/
def termTime : Instant := 1717200000000000

/-- The service had no end, and the renewal gives it one in thirty days. -/
theorem unlimited_service_gets_end :
    expiriesSent (activateRenewalOrder termTime none 1 (termShop 0)).2 =
        [currentMs termTime + daysToMs 30] ∧
      ¬ effectiveExpiry (currentMs termTime) 0 ≤
        ((currentMs termTime + daysToMs 30 : ℤ) : WithTop ℤ) := by
  refine ⟨by decide +kernel, ?_⟩
  rw [effectiveExpiry, if_pos rfl, top_le_iff]
  exact WithTop.coe_ne_top

theorem termShop_renewing (expiryTime : ℤ) :
    Renewing (termShop expiryTime) termTime 1 termOrder termClient termPlan
      { pk := 5, panel := 4, inboundId := 1 } { pk := 4 } (termRemote expiryTime)
      (newRenewalIntent termClient { pk := 5, panel := 4, inboundId := 1 } termPlan
        (currentMs termTime) expiryTime) where
  row := (by decide : termDb.orders.get? 1 = some termOrder)
  renews := rfl
  client := (by decide : termDb.clients.get? 7 = some termClient)
  own := (by decide : renewsForeignClient termDb termOrder termClient = false)
  linked := (by decide +kernel : vpnClientPanelError termDb termClient = none)
  bought := (by decide : termDb.plans.get? 3 = some termPlan)
  place := (by decide : resolveInboundPanel termDb (some 5) true =
    .ok ({ pk := 5, panel := 4, inboundId := 1 }, { pk := 4 }))
  precise := (by decide +kernel : assertPreciseScope termDb { pk := 4 }
    { pk := 5, panel := 4, inboundId := 1 } "8c1f" .renew = .ok ())
  found := by
    simp [findServiceClient, Remote.inboundClients, termShop, termRemote, termClient]
  resolved := rfl
  open_ := .inl rfl

/-- A service that ends in July is renewed in June. -/
theorem renewal_keeps_time_dated :
    Prog.wp (activateRenewalOrder termTime none 1)
      (KeepsTime termClient (effectiveExpiry (currentMs termTime) 1720000000000))
      (fun _ s' => ∀ e ∈ expiriesSent s',
        effectiveExpiry (currentMs termTime) 1720000000000 ≤ (e : WithTop ℤ))
      { termShop 1720000000000 with signals := [] } :=
  (renewal_keeps_time_iff none (termShop_renewing 1720000000000) rfl
    (by unfold PlausibleClock; decide)
    (fun o ho r hr => by
      obtain rfl : o = termOrder := by
        simpa [termShop, termDb, Table.put, Table.empty] using ho
      cases hr)).mpr (.inl (by decide)) []

end Qasedak.Orders
