import Qasedak.Foundation.Run
import Qasedak.Orders.PanelEffects

/-! Runs of approval attempts on one renewal order: the panel moves the expiry of the
client at most once and resets its usage at most once. -/

namespace Qasedak.Orders

open Foundation Store Panels Payments

/-! ## The invariant of the intent -/

/-- The panel has not carried out the intent's update, unless it shows it, or knows no
client that a further update would address. -/
def Unextended (ck : ℕ) (intent : RenewalIntent) (s : Shop) : Prop :=
  ∀ c u i p t, s.db.clients.get? ck = some c → c.uuid = some u →
    resolveInboundPanel s.db c.inbound true = .ok (i, p) →
    findServiceClient s.remote i c = some t → alreadyUpdated intent t = false →
    extensions s = 0 ∨ ∀ x ∈ s.remote.clients,
      ¬ Remote.Addressed (usesModernClientApi p) i.panel i.inboundId u (serviceEmail c) x

/-- What the order's intent says about the panel. -/
structure Progress (ck : ℕ) (intent : Option RenewalIntent) (s : Shop) : Prop where
  extensions_le : extensions s ≤ 1
  resets_le : resets s ≤ 1
  fresh : intent = none → extensions s = 0 ∧ resets s = 0
  pending : ∀ i, intent = some i → i.resetStatus = .pending → resets s = 0 ∧ Unextended ck i s

/-- The row of an order that renews the client. -/
structure RenewalRow (db : Db) (k ck : ℕ) (o : Order) : Prop where
  row : db.orders.get? k = some o
  client : o.metadata.renewalClientPk = some ck
  noAsset : o.metadata.adminInventoryAssetId = none

def Recorded (k ck : ℕ) (intent : Option RenewalIntent) (db : Db) : Prop :=
  ∃ o, RenewalRow db k ck o ∧ o.metadata.renewalIntent = intent

def InProgress (k ck : ℕ) (s : Shop) : Prop :=
  ∃ intent, Recorded k ck intent s.db ∧ Progress ck intent s

/-- Between attempts: an attempt that never ended bars every further one. -/
structure Once (k ck : ℕ) (s : Shop) : Prop where
  extensions_le : extensions s ≤ 1
  resets_le : resets s ≤ 1
  row : ∃ o, RenewalRow s.db k ck o ∧
    (o.metadata.renewalRecoveryAttempt = some .running ∨
      Progress ck o.metadata.renewalIntent s)

variable {k ck : ℕ} {g : Prop} {s₀ s s' : Shop} {intent : RenewalIntent}

theorem InProgress.once (h : InProgress k ck s) : Once k ck s := by
  obtain ⟨_, ⟨o, hrow, rfl⟩, hprogress⟩ := h
  exact ⟨hprogress.extensions_le, hprogress.resets_le, o, hrow, .inr hprogress⟩

/-! ### Frames -/

/-- The tables that tell which client of the panel a service is. -/
structure SameTargets (ck : ℕ) (db db' : Db) : Prop where
  inbounds : db'.inbounds = db.inbounds
  panels : db'.panels = db.panels
  client : ∀ c', db'.clients.get? ck = some c' → ∃ c, db.clients.get? ck = some c ∧
    c'.uuid = c.uuid ∧ c'.inbound = c.inbound ∧ c'.xuiEmail = c.xuiEmail ∧
    c'.username = c.username

structure SameServices (db db' : Db) : Prop where
  inbounds : db'.inbounds = db.inbounds
  panels : db'.panels = db.panels
  clients : db'.clients = db.clients

theorem SameServices.targets {db db' : Db} (h : SameServices db db') : SameTargets ck db db' :=
  ⟨h.inbounds, h.panels, fun c' hc => ⟨c', h.clients ▸ hc, rfl, rfl, rfl, rfl⟩⟩

theorem SameServices.setOrder {db : Db} {f : Order → Order} (hf : ∀ o, (f o).pk = o.pk) :
    SameServices db (db.setOrder k f hf) := ⟨rfl, rfl, rfl⟩

theorem Unextended.transfer (h : Unextended ck intent s) (hdb : SameTargets ck s.db s'.db)
    (hq : Quiet s s') : Unextended ck intent s' := by
  intro c' u i p t hc hu hres ht hup
  obtain ⟨c, hc₀, huuid, hinbound, hemail, hname⟩ := hdb.client c' hc
  have hservice : serviceEmail c' = serviceEmail c := by simp [serviceEmail, hemail, hname]
  have hres₀ : resolveInboundPanel s.db c.inbound true = .ok (i, p) := by
    rw [← hres, resolveInboundPanel, resolveInboundPanel, hdb.inbounds, hdb.panels, hinbound]
  have ht₀ : findServiceClient s.remote i c = some t := by
    rw [← ht, findServiceClient, findServiceClient, hq.remote, huuid, hservice]
  rw [hq.extensions, hq.remote, hservice]
  exact h c u i p t hc₀ (huuid ▸ hu) hres₀ ht₀ hup

theorem Progress.transfer {intent : Option RenewalIntent} (h : Progress ck intent s)
    (hdb : SameTargets ck s.db s'.db) (hq : Quiet s s') : Progress ck intent s' where
  extensions_le := hq.extensions ▸ h.extensions_le
  resets_le := hq.resets ▸ h.resets_le
  fresh hi := by rw [hq.extensions, hq.resets]; exact h.fresh hi
  pending i hi hp := by
    obtain ⟨hr, hu⟩ := h.pending i hi hp
    exact ⟨hq.resets.trans hr, hu.transfer hdb hq⟩

/-- A stretch that wrote nothing to the database and left the panel alone. -/
theorem Progress.quiet {intent : Option RenewalIntent} (h : Progress ck intent s)
    (hdb : s'.db = s.db) (hq : Quiet s s') : Progress ck intent s' :=
  h.transfer (hdb ▸ SameServices.targets ⟨rfl, rfl, rfl⟩) hq

theorem InProgress.quiet (h : InProgress k ck s) (hdb : s'.db = s.db) (hq : Quiet s s') :
    InProgress k ck s' := by
  obtain ⟨i, hrec, hprogress⟩ := h
  exact ⟨i, hdb ▸ hrec, hprogress.quiet hdb hq⟩

theorem Once.quiet (h : Once k ck s) (hdb : s'.db = s.db) (hq : Quiet s s') : Once k ck s' := by
  obtain ⟨o, hrow, hprogress⟩ := h.row
  exact ⟨hq.extensions ▸ h.extensions_le, hq.resets ▸ h.resets_le, o, hdb ▸ hrow,
    hprogress.imp_right fun hp => hp.quiet hdb hq⟩

theorem InProgress.next (h : InProgress k ck s) : InProgress k ck s.next :=
  h.quiet rfl (Idle.next s).quiet

theorem Once.next (h : Once k ck s) : Once k ck s.next := h.quiet rfl (Idle.next s).quiet

/-- Saving the order's own row keeps the intent. -/
theorem InProgress.wp_saveOrder {now : Instant} {f : Order → Order} (h : InProgress k ck s)
    {hf : ∀ o, (f o).pk = o.pk}
    (hmeta : ∀ o, (f o).metadata.renewalClientPk = o.metadata.renewalClientPk ∧
      (f o).metadata.adminInventoryAssetId = o.metadata.adminInventoryAssetId ∧
      (f o).metadata.renewalIntent = o.metadata.renewalIntent)
    {Q : Unit → Shop → Prop} {X : Halt String → Shop → Prop}
    (hQ : ∀ db, SameServices s.db db → InProgress k ck { s with db := db } →
      Q () { s with db := db }) :
    Prog.wp (saveOrder now k f hf) Q X s := by
  obtain ⟨_, ⟨o, ⟨ho, hclient, hasset⟩, rfl⟩, hprogress⟩ := h
  obtain ⟨hclient', hasset', hintent⟩ := hmeta o
  unfold saveOrder
  rw [Prog.wp_writeDb]
  exact hQ _ (.setOrder _) ⟨_, ⟨_, ⟨Db.get?_setOrder_self _ ho, hclient'.trans hclient,
    hasset'.trans hasset⟩, hintent⟩,
    hprogress.transfer (SameServices.setOrder _).targets ((Quiet.refl s).db _)⟩

/-- A referral reward is none of the renewal's business. -/
theorem InProgress.reward (h : InProgress k ck s) (referrals : Referrals) (ledgers : Ledgers) :
    InProgress k ck { s with db := { s.db with referrals := referrals, ledgers := ledgers } } := by
  obtain ⟨i, ⟨o, ⟨ho, hclient, hasset⟩, hintent⟩, hprogress⟩ := h
  exact ⟨i, ⟨o, ⟨ho, hclient, hasset⟩, hintent⟩,
    hprogress.transfer (SameServices.targets ⟨rfl, rfl, rfl⟩) ((Quiet.refl s).db _)⟩

theorem InProgress.wp_getOrder (h : InProgress k ck s) {Q : Order → Shop → Prop}
    {X : Halt String → Shop → Prop}
    (hQ : ∀ o, RenewalRow s.db k ck o → Progress ck o.metadata.renewalIntent s → Q o s) :
    Prog.wp (getOrder k) Q X s := by
  obtain ⟨_, ⟨o, hrow, rfl⟩, hprogress⟩ := h
  unfold getOrder
  rw [Prog.wp_bind, Prog.wp_readDb, Prog.wp_orRaise, hrow.row]
  exact hQ o hrow hprogress

/-! ## The renewal on the panel -/

/-- A new intent is saved; a pending one must tell how far the panel is. -/
theorem InProgress.wp_saveIntent {now : Instant} (h : InProgress k ck s)
    (hpending : intent.resetStatus = .pending → resets s = 0 ∧ Unextended ck intent s)
    {Q : Unit → Shop → Prop} {X : Halt String → Shop → Prop}
    (hQ : ∀ db, SameServices s.db db → Recorded k ck (some intent) db →
      Progress ck (some intent) { s with db := db } → Q () { s with db := db }) :
    Prog.wp (saveIntent now k intent) Q X s := by
  obtain ⟨_, ⟨o, ⟨ho, hclient, hasset⟩, rfl⟩, hprogress⟩ := h
  unfold saveIntent saveOrder
  rw [Prog.wp_writeDb]
  refine hQ _ (.setOrder _) ⟨_, ⟨Db.get?_setOrder_self _ ho, hclient, hasset⟩, rfl⟩
    ⟨hprogress.extensions_le, hprogress.resets_le, (fun hi => by cases hi), ?_⟩
  rintro i hi hp
  obtain rfl : intent = i := Option.some.inj hi
  obtain ⟨hr, hu⟩ := hpending hp
  exact ⟨hr, hu.transfer (SameServices.setOrder _).targets ((Quiet.refl s).db _)⟩

/-- The usage is reset, where it has not been reset and the intent says that it may be. -/
theorem Progress.wp_postClientResetTraffic {p : Panel} {i : Inbound} {email : String}
    (h : Progress ck (some intent) s) (hintent : intent.resetStatus ≠ .pending)
    (hresets : resets s = 0) (ha : Armed g s₀ s) :
    Prog.wp (postClientResetTraffic p i email)
      (fun _ s' => s'.db = s.db ∧ Progress ck (some intent) s' ∧ Armed g s₀ s')
      (fun e s' => s'.db = s.db ∧ Progress ck (some intent) s' ∧ Halted g s₀ e s') s := by
  have hwrite : ∀ s' : Shop, s'.db = s.db → Quiet s s' → Armed g s₀ s' →
      Prog.wp (Prog.remoteWrite timedOut (.resetTraffic i.panel i.inboundId email)
        (Remote.resetTraffic i.panel i.inboundId email) : ShopM Unit)
        (fun _ s'' => s''.db = s.db ∧ Progress ck (some intent) s'' ∧ Armed g s₀ s'')
        (fun e s'' => s''.db = s.db ∧ Progress ck (some intent) s'' ∧ Halted g s₀ e s'') s' := by
    intro s' hdb hq ha'
    have hp' : Progress ck (some intent) s' := h.quiet hdb hq
    -- The one reset that takes effect is the first.
    have heffect : ∀ remote, Progress ck (some intent)
        (s'.applied (.resetTraffic i.panel i.inboundId email) remote) := by
      intro remote
      refine ⟨?_, ?_, (fun hi => by cases hi), fun j hj hpend => ?_⟩
      · simpa [extensions_applied, RemoteCall.Extends] using hp'.extensions_le
      · rw [resets_applied, hq.resets, hresets]
        rfl
      · exact absurd (Option.some.inj hj ▸ hpend) hintent
    refine Prog.wp_remoteWrite (fun remote _ _ hs => ?_) (fun e remote _ _ hs => ?_)
      (fun e s'' hs'' he => ?_)
    · exact ⟨hdb, heffect remote, ha'.applied (.inl hs)⟩
    · exact ⟨hdb, heffect remote, ha'.lost hs⟩
    · have hidle : Idle s' s'' := .of_or hs''
      exact ⟨hidle.db.trans hdb, hp'.quiet hidle.db hidle.quiet, ha'.halted hidle he⟩
  unfold postClientResetTraffic
  split
  · rw [Prog.wp_bind]
    have hidle : Idle s s.next := .next s
    refine Prog.wp_remoteRead (fun _ _ hs => ?_) (fun e he => ?_)
    · exact hwrite s.next rfl hidle.quiet (ha.idle hidle (by simp [hs, Signal.Crashes]))
    · exact ⟨rfl, h.quiet rfl hidle.quiet, ha.halted hidle he⟩
  · exact hwrite s rfl (Quiet.refl s) ha

/-- The client on the panel that a renewal of the service is about. -/
structure Target (ck : ℕ) (s : Shop) (c : VPNClient) (i : Inbound) (p : Panel)
    (target : RemoteClient) : Prop where
  client : s.db.clients.get? ck = some c
  uuid : ∃ u, c.uuid = some u
  resolved : resolveInboundPanel s.db c.inbound true = .ok (i, p)
  found : findServiceClient s.remote i c = some target

theorem Target.db {c : VPNClient} {i : Inbound} {p : Panel} {target : RemoteClient} {db : Db}
    (h : Target ck s c i p target) (hdb : SameServices s.db db) :
    Target ck { s with db := db } c i p target := by
  refine ⟨hdb.clients ▸ h.client, h.uuid, ?_, h.found⟩
  rw [← h.resolved, resolveInboundPanel, resolveInboundPanel, hdb.inbounds, hdb.panels]

theorem Progress.wp_postRenewal {c : VPNClient} {i : Inbound} {p : Panel} {plan : Plan}
    {target : RemoteClient} (h : Progress ck (some intent) s)
    (hopen : intent.resetStatus = .pending ∨ alreadyUpdated intent target)
    (htarget : Target ck s c i p target) (hbytes : intent.totalBytes = plan.trafficLimitBytes)
    (hlimit : intent.limitIp = plan.deviceLimit) (ha : Armed g s₀ s) :
    Prog.wp (postRenewal p i c plan target intent)
      (fun _ s' => s'.db = s.db ∧ Progress ck (some intent) s' ∧ Armed g s₀ s')
      (fun e s' => s'.db = s.db ∧ Progress ck (some intent) s' ∧ Halted g s₀ e s') s := by
  unfold postRenewal
  split
  case isTrue => exact ⟨rfl, h, ha⟩
  case isFalse hshown =>
  have hup : alreadyUpdated intent target = false := by simpa using hshown
  have hpending : intent.resetStatus = .pending := hopen.resolve_right hshown
  obtain ⟨hc, ⟨u, hu⟩, hres, hfound⟩ := htarget
  obtain ⟨hresets, hun⟩ := h.pending intent rfl hpending
  rw [hu, Option.getD_some]
  -- An update that is carried out is the first, and the panel shows it from then on.
  have heffect : ∀ remote, Remote.updateClient (usesModernClientApi p) i.panel i.inboundId u
      (serviceEmail c) (renewedClient target plan intent.targetExpiry) s.remote =
        .ok (remote, ()) →
      Progress ck (some intent)
        (s.applied (.renewClient i.panel i.inboundId u intent.targetExpiry) remote) := by
    intro remote hupdate
    obtain ⟨x, hx, haddressed⟩ := exists_addressed_of_updateClient hupdate
    have hzero : extensions s = 0 :=
      (hun c u i p target hc hu hres hfound hup).resolve_right fun hno => hno x hx haddressed
    refine ⟨?_, ?_, (fun hi => by cases hi), fun j hj _ => ⟨?_, ?_⟩⟩
    · rw [extensions_applied, hzero]
      rfl
    · rw [resets_applied, hresets]
      exact Nat.zero_le 1
    · rw [resets_applied, hresets]
      rfl
    · obtain rfl : intent = j := Option.some.inj hj
      intro c' u' i' p' t hc' hu' hres' ht hup'
      obtain rfl : c = c' := Option.some.inj (hc.symm.trans hc')
      obtain rfl : u = u' := Option.some.inj (hu.symm.trans hu')
      obtain ⟨rfl, rfl⟩ : i = i' ∧ p = p' := by
        simpa using hres.symm.trans hres'
      rcases findServiceClient_updateClient hu hfound hupdate with hshown | hgone
      · rw [hshown t ht] at hup'
        simp [alreadyUpdated, renewedClient, hbytes, hlimit] at hup'
      · exact .inr hgone
  refine Prog.wp_remoteWrite (fun remote _ hupdate hs => ?_) (fun e remote _ hupdate hs => ?_)
    (fun e s' hs' he => ?_)
  · exact ⟨rfl, heffect remote hupdate, ha.applied (.inl hs)⟩
  · exact ⟨rfl, heffect remote hupdate, ha.lost hs⟩
  · have hidle : Idle s s' := .of_or hs'
    exact ⟨hidle.db, h.quiet hidle.db hidle.quiet, ha.halted hidle he⟩

theorem InProgress.wp_resetUsage {now : Instant} {c : VPNClient} {i : Inbound} {p : Panel}
    (h : InProgress k ck s) (hstarted : intent.resetStatus ≠ .started)
    (hresets : intent.resetStatus = .pending → resets s = 0) (ha : Armed g s₀ s) :
    Prog.wp (resetUsage now p i c k intent) (fun _ s' => InProgress k ck s' ∧ Armed g s₀ s')
      (fun e s' => InProgress k ck s' ∧ Halted g s₀ e s') s := by
  unfold resetUsage
  split
  case isTrue => exact ⟨h, ha⟩
  case isFalse hdone =>
  have hzero : resets s = 0 := by
    apply hresets
    cases hr : intent.resetStatus <;> simp_all
  simp only [Prog.wp_bind]
  refine h.wp_saveIntent (fun hp => by cases hp) fun db hdb hrec hprogress => ?_
  refine Prog.wp_mono (hprogress.wp_postClientResetTraffic (fun hp => by cases hp) hzero
    (ha.db db)) ?_ ?_
  · rintro - s' ⟨hdb', hprogress', ha'⟩
    have h' : InProgress k ck s' := ⟨_, hdb' ▸ hrec, hprogress'⟩
    refine h'.wp_saveIntent (fun hp => by cases hp) fun db hdb hrec hprogress => ?_
    exact ⟨⟨_, hrec, hprogress⟩, ha'.db db⟩
  · rintro e s' ⟨hdb', hprogress', ha'⟩
    exact ⟨⟨_, hdb' ▸ hrec, hprogress'⟩, ha'⟩

/-- An intent that may still be carried out is carried out at most once. -/
theorem InProgress.wp_applyRenewalIntent {now : Instant} {c : VPNClient} {i : Inbound}
    {p : Panel} {plan : Plan} {target : RemoteClient} (h : InProgress k ck s)
    (hpending : intent.resetStatus = .pending → resets s = 0 ∧ Unextended ck intent s)
    (hstarted : intent.resetStatus ≠ .started)
    (hopen : intent.resetStatus = .pending ∨ alreadyUpdated intent target)
    (htarget : Target ck s c i p target) (hbytes : intent.totalBytes = plan.trafficLimitBytes)
    (hlimit : intent.limitIp = plan.deviceLimit) (ha : Armed g s₀ s) :
    Prog.wp (applyRenewalIntent now p i c plan k target intent)
      (fun _ s' => InProgress k ck s' ∧ Armed g s₀ s')
      (fun e s' => InProgress k ck s' ∧ Halted g s₀ e s') s := by
  unfold applyRenewalIntent
  simp only [Prog.wp_bind]
  refine h.wp_saveIntent hpending fun db hdb hrec hprogress => ?_
  refine Prog.wp_mono (hprogress.wp_postRenewal hopen (htarget.db hdb) hbytes hlimit (ha.db db))
    ?_ ?_
  · rintro - s' ⟨hdb', hprogress', ha'⟩
    have h' : InProgress k ck s' := ⟨_, hdb' ▸ hrec, hprogress'⟩
    exact h'.wp_resetUsage hstarted (fun hp => (hprogress'.pending _ rfl hp).1) ha'
  · rintro e s' ⟨hdb', hprogress', ha'⟩
    exact ⟨⟨_, hdb' ▸ hrec, hprogress'⟩, ha'⟩

/-- The intent of an attempt fits the plan, and is new or the recorded one. -/
theorem resolveRenewalIntent_ok {recorded : Option RenewalIntent} {c : VPNClient} {i : Inbound}
    {plan : Plan} {currentTime currentExpiry : ℤ}
    (h : resolveRenewalIntent recorded c i plan currentTime currentExpiry = .ok intent) :
    (intent.totalBytes = plan.trafficLimitBytes ∧ intent.limitIp = plan.deviceLimit) ∧
      (recorded = none ∧ intent.resetStatus = .pending ∨ recorded = some intent) := by
  unfold resolveRenewalIntent at h
  split at h
  case h_1 =>
      obtain rfl := Except.ok.inj h
      exact ⟨⟨rfl, rfl⟩, .inl ⟨rfl, rfl⟩⟩
  case h_2 recorded' =>
      split at h
      case isTrue => cases h
      case isFalse hfits =>
      split at h
      case isTrue => cases h
      case isFalse =>
      obtain rfl := Except.ok.inj h
      simp only [RenewalIntent.Mismatches, not_or, not_not] at hfits
      exact ⟨⟨hfits.2.2.2.1, hfits.2.2.2.2.1⟩, .inr rfl⟩

/-- An error before the panel is asked for anything. -/
theorem Halted.raised {e : String} (hq : Quiet s₀ s) : Halted g s₀ (.raised e) s :=
  ⟨fun _ => .inl hq, fun hd => by cases hd⟩

theorem InProgress.wp_updateClientSubscription {now : Instant} {c : VPNClient} {plan : Plan}
    (h : InProgress k ck s) (hc : s.db.clients.get? ck = some c) (hu : ∃ u, c.uuid = some u)
    (hq : Quiet s₀ s) (hg : g → ¬ CrashAfterEffect s.signals.tail) :
    Prog.wp (updateClientSubscription now c plan k)
      (fun _ s' => InProgress k ck s' ∧ Spared g s₀ s')
      (fun e s' => InProgress k ck s' ∧ Halted g s₀ e s') s := by
  unfold updateClientSubscription
  simp only [Prog.wp_bind, Prog.wp_readDb, Prog.wp_ofExcept, id_eq]
  split
  case h_2 => exact ⟨h, .raised hq⟩
  case h_1 r hres =>
  obtain ⟨i, p⟩ := r
  split
  case h_2 => exact ⟨h, .raised hq⟩
  case h_1 =>
  have hidle : Idle s s.next := .next s
  have h' : InProgress k ck s.next := h.quiet rfl hidle.quiet
  have hq' : Quiet s₀ s.next := hq.trans hidle.quiet
  refine Prog.wp_remoteRead (fun target htarget hs => ?_) (fun e he => ?_)
  swap
  · exact ⟨h', fun _ => .inl hq', fun _ _ => hq'⟩
  have hfound : findServiceClient s.remote i c = some target := by
    split at htarget
    · rename_i t hfind
      rw [hfind, Except.ok.inj htarget]
    · cases htarget
  refine h'.wp_getOrder fun o hrow hprogress => ?_
  split
  case h_2 => exact ⟨h', .raised hq'⟩
  case h_1 intent hintent =>
  obtain ⟨⟨hbytes, hlimit⟩, hrecorded⟩ := resolveRenewalIntent_ok hintent
  split
  case isTrue => exact ⟨h', .raised hq'⟩
  case isFalse hstarted =>
  split
  case isTrue => exact ⟨h', .raised hq'⟩
  case isFalse hdone =>
  have hopen : intent.resetStatus = .pending ∨ alreadyUpdated intent target = true := by
    cases hr : intent.resetStatus <;> simp_all
  have hpending : intent.resetStatus = .pending → resets s.next = 0 ∧ Unextended ck intent s.next := by
    intro hp
    rcases hrecorded with ⟨hnone, -⟩ | hsome
    · obtain ⟨hext, hres⟩ := hprogress.fresh hnone
      exact ⟨hres, fun _ _ _ _ _ _ _ _ _ _ => .inl hext⟩
    · exact hprogress.pending _ hsome hp
  rw [Prog.wp_bind]
  refine Prog.wp_mono (h'.wp_applyRenewalIntent hpending hstarted hopen ⟨hc, hu, hres, hfound⟩
    hbytes hlimit fun hg' => .inl ⟨hq', hg hg'⟩) ?_ (fun _ _ hX => hX)
  rintro - s' ⟨h'', ha⟩
  exact ⟨h'', ha.spared⟩

/-- `renew_client` catches every error; only a crash goes through. -/
theorem InProgress.wp_renewClient {now : Instant} {c : VPNClient} {plan : Plan}
    (h : InProgress k ck s) (hc : s.db.clients.get? ck = some c) (hu : ∃ u, c.uuid = some u)
    (hq : Quiet s₀ s) (hg : g → ¬ CrashAfterEffect s.signals.tail) :
    Prog.wp (renewClient now c plan k) (fun _ s' => InProgress k ck s' ∧ Spared g s₀ s')
      (fun _ s' => InProgress k ck s' ∧ (g → Quiet s₀ s')) s := by
  unfold renewClient
  simp only [Prog.wp_onError, Prog.wp_bind, Prog.wp_pure]
  refine Prog.wp_mono (h.wp_updateClientSubscription hc hu hq hg) (fun _ _ hQ => hQ) ?_
  rintro e s' ⟨h', hhalt⟩
  cases e with
  | raised e => exact ⟨h', hhalt.spared⟩
  | crashed => exact ⟨h', hhalt.died rfl⟩

theorem uuid_of_vpnClientPanelError {db : Db} {c : VPNClient}
    (h : ¬ (vpnClientPanelError db c).isSome) : ∃ u, c.uuid = some u := by
  unfold vpnClientPanelError at h
  cases hu : c.uuid with
  | some u => exact ⟨u, rfl⟩
  | none => simp [hu] at h

/-- The row of the renewed client keeps its place on the panel. -/
theorem InProgress.wp_saveClient {plan : Plan} {expiry : ℤ} (h : InProgress k ck s)
    {Q : Unit → Shop → Prop} {X : Halt String → Shop → Prop}
    (hQ : ∀ db, InProgress k ck { s with db := db } → Q () { s with db := db }) :
    Prog.wp (saveClient ck (renewedLocalClient plan expiry) (renewedLocalClient_pk plan expiry))
      Q X s := by
  obtain ⟨_, ⟨o, ⟨ho, hclient, hasset⟩, rfl⟩, hprogress⟩ := h
  unfold saveClient
  rw [Prog.wp_writeDb]
  refine hQ _ ⟨_, ⟨o, ⟨ho, hclient, hasset⟩, rfl⟩,
    hprogress.transfer ⟨rfl, rfl, fun c' hc' => ?_⟩ ((Quiet.refl s).db _)⟩
  simp only [Db.setClient, Table.get?_modify, Option.map_eq_some_iff, if_pos] at hc'
  obtain ⟨c, hc, rfl⟩ := hc'
  exact ⟨c, hc, rfl, rfl, rfl, rfl⟩

theorem InProgress.wp_activateRenewalOrder {now : Instant} {user : Option ℕ}
    (h : InProgress k ck s) (hq : Quiet s₀ s) (hg : g → ¬ CrashAfterEffect s.signals.tail) :
    Prog.wp (activateRenewalOrder now user k) (fun _ s' => InProgress k ck s' ∧ Spared g s₀ s')
      (fun _ s' => InProgress k ck s' ∧ (g → Quiet s₀ s')) s := by
  have hsame : InProgress k ck s ∧ Spared g s₀ s := ⟨h, fun _ => .inl hq⟩
  unfold activateRenewalOrder
  simp only [Prog.wp_bind, Prog.wp_readDb, id_eq]
  refine h.wp_getOrder fun o hrow _ => ?_
  rw [hrow.client]
  dsimp only
  cases hc : s.db.clients.get? ck with
  | none => exact hsame
  | some c =>
      dsimp only
      split
      · exact hsame
      split
      · exact hsame
      rename_i hpanel
      unfold getPlan
      simp only [Prog.wp_bind, Prog.wp_readDb, Prog.wp_orRaise]
      split
      case h_2 => exact ⟨h, fun _ => hq⟩
      case h_1 plan _ =>
      refine Prog.wp_mono (h.wp_renewClient hc (uuid_of_vpnClientPanelError hpanel) hq hg) ?_
        (fun _ _ hX => hX)
      rintro r s' ⟨h', hspared⟩
      cases r with
      | error e => exact ⟨h', hspared⟩
      | ok expiry =>
          simp only [Prog.wp_bind]
          refine h'.wp_saveOrder (f := (·.markPaymentVerified user now))
            (fun _ => ⟨rfl, rfl, rfl⟩) fun db _ h'' => ?_
          exact h''.wp_saveClient fun db' h₃ => ⟨h₃, hspared.db db'⟩

theorem InProgress.wp_activateRenewalOrderLocked {now : Instant} {actor : Option ℕ}
    (h : InProgress k ck s) (hq : Quiet s₀ s) (hg : g → ¬ CrashAfterEffect s.signals.tail) :
    Prog.wp (activateRenewalOrderLocked now actor k)
      (fun _ s' => InProgress k ck s' ∧ Spared g s₀ s')
      (fun _ s' => InProgress k ck s' ∧ (g → Quiet s₀ s')) s := by
  unfold activateRenewalOrderLocked
  simp only [Prog.wp_bind]
  refine h.wp_saveOrder (f := markProvisioning) (fun _ => ⟨rfl, rfl, rfl⟩) fun db _ h' => ?_
  refine Prog.wp_mono (h'.wp_activateRenewalOrder (hq.db db) hg) ?_ (fun _ _ hX => hX)
  rintro r s' ⟨h'', hspared⟩
  split
  · rw [Prog.wp_bind]
    refine h''.wp_saveOrder (f := markProvisioned now) (fun _ => ⟨rfl, rfl, rfl⟩) fun db _ h₃ => ?_
    exact ⟨h₃, hspared.db db⟩
  · exact ⟨h'', hspared⟩

/-! ## Approval attempts -/

/-- The panel carried out at most one renewal and one reset. -/
structure AtMostOnce (s : Shop) : Prop where
  extensions_le : extensions s ≤ 1
  resets_le : resets s ≤ 1

theorem InProgress.atMostOnce (h : InProgress k ck s) : AtMostOnce s := by
  obtain ⟨_, _, hprogress⟩ := h
  exact ⟨hprogress.extensions_le, hprogress.resets_le⟩

theorem RenewalRow.isRenewal {db : Db} {o : Order} (h : RenewalRow db k ck o) :
    orderIsRenewal o = true := by
  simp [orderIsRenewal, h.client]

variable (delivery : Delivery) {now : Instant} {actor : Option ℕ} {source : Source}
  {notify : Bool}

theorem InProgress.wp_approveTransaction (h : InProgress k ck s) (hq : Quiet s₀ s)
    (hg : g → ¬ CrashAfterEffect s.signals.tail) :
    Prog.wp (approveTransaction delivery now actor source k)
      (fun _ s' => InProgress k ck s' ∧ Spared g s₀ s')
      (fun _ s' => s'.db = s.db ∧ AtMostOnce s' ∧ (g → Quiet s₀ s')) s := by
  unfold approveTransaction
  simp only [Prog.wp_atomic, Prog.wp_bind, Prog.wp_readDb, id_eq]
  refine h.wp_getOrder fun o hrow _ => ?_
  split
  case h_1 => exact ⟨h, fun _ => .inl hq⟩
  case h_2 =>
  simp only [hrow.isRenewal, if_true, Prog.wp_bind]
  refine h.wp_saveOrder (f := noteAttempt delivery s.db) (fun _ => ⟨rfl, rfl, rfl⟩) fun db _ h' => ?_
  refine Prog.wp_mono (h'.wp_activateRenewalOrderLocked (hq.db db) hg) (fun _ _ hQ => hQ) ?_
  rintro e s' ⟨h'', hquiet⟩
  exact ⟨trivial, ⟨h''.atMostOnce.1, h''.atMostOnce.2⟩, fun hg' => (hquiet hg').db _⟩

/-- A renewal that was delivered or refused is not delivered again. -/
theorem earlyAnswer_of_settled (db : Db) (source : Source) {o : Order}
    (hrenewal : orderIsRenewal o = true) (h : canResendOrder o ∨ o.status.Refused) :
    ∃ r, earlyAnswer db source o = some r := by
  rcases h with hresend | hrefused
  · have hretry : isPartialRetry source o = false := by
      simp [isPartialRetry, orderHasPartialDelivery, hrenewal]
    unfold earlyAnswer
    split
    · exact ⟨_, rfl⟩
    · simp [hresend, hretry]
  · exact earlyAnswer_of_refused db source hrefused

theorem InProgress.wp_approveOrder (h : InProgress k ck s) (hq : Quiet s₀ s)
    (hg : g → ¬ CrashAfterEffect s.signals.tail) (hnotify : g → notify = false) :
    Prog.wp (approveOrder delivery now actor source notify k)
      (fun _ s' => InProgress k ck s' ∧ Spared g s₀ s')
      (fun _ s' => (InProgress k ck s' ∨ s'.db = s.db) ∧ AtMostOnce s' ∧ (g → Quiet s₀ s')) s := by
  unfold approveOrder
  rw [Prog.wp_bind]
  refine Prog.wp_mono (h.wp_approveTransaction delivery hq hg) ?_ ?_
  swap
  · rintro e s' ⟨hdb, honce, hquiet⟩
    exact ⟨.inr hdb, honce, hquiet⟩
  rintro outcome s' ⟨h', hspared⟩
  cases outcome with
  | answered r => exact ⟨h', hspared⟩
  | attempted r =>
      simp only [Prog.wp_bind]
      have h'' : InProgress k ck s'.next := h'.next
      refine hspared.wp_checkpoint (fun hspared' => ?_)
        (fun hquiet => ⟨.inl h'', h''.atMostOnce, hquiet⟩)
      split
      case isFalse =>
          unfold recordFailure
          simp only [Prog.wp_bind]
          refine h''.wp_getOrder fun o _ _ => ?_
          refine h''.wp_saveOrder (f := fun o => { o with
            provisioningStatus := .failed
            lastProvisioningError := if r.safeError = "" then r.message else r.safeError })
            (fun _ => ⟨rfl, rfl, rfl⟩) fun db _ h₃ => ?_
          exact ⟨h₃, hspared'.db db⟩
      case isTrue =>
      rw [Prog.wp_bind]
      refine wp_rewardReferrer_frame fun referrals ledgers => ?_
      have hrewarded := h''.reward referrals ledgers
      split
      case isFalse => exact ⟨hrewarded, hspared'.db _⟩
      case isTrue hn =>
      -- The message may fail, but no automatic approval sends one here.
      have hno : ¬ g := fun hg' => by simp [hnotify hg'] at hn
      have h₃ := hrewarded.next
      rw [Prog.wp_bind]
      exact Prog.wp_remoteRead (fun _ _ _ => ⟨h₃, fun hg' => absurd hg' hno⟩)
        (fun _ _ => ⟨.inl h₃, h₃.atMostOnce, fun hg' => absurd hg' hno⟩)

/-- A claim that was written and not finished bars every further attempt. -/
def Barred (k ck : ℕ) (db : Db) : Prop :=
  ∃ o, RenewalRow db k ck o ∧ o.metadata.renewalRecoveryAttempt = some .running

theorem Barred.once (h : Barred k ck s.db) (honce : AtMostOnce s) : Once k ck s := by
  obtain ⟨o, hrow, hrunning⟩ := h
  exact ⟨honce.extensions_le, honce.resets_le, o, hrow, .inl hrunning⟩

theorem Once.wp_claimRenewal (h : Once k ck s) {Q : Except ProvisioningResult Bool → Shop → Prop}
    {X : Halt String → Shop → Prop} (hrefused : ∀ r, Q (.error r) s)
    (hsettled : ∀ o, RenewalRow s.db k ck o → canResendOrder o ∨ o.status.Refused →
      Q (.ok false) s)
    (hclaimed : ∀ db, Barred k ck db → InProgress k ck { s with db := db } →
      Q (.ok true) { s with db := db }) :
    Prog.wp (claimRenewal now k) Q X s := by
  obtain ⟨o, hrow, hprogress⟩ := h.row
  unfold claimRenewal getOrder
  simp only [Prog.wp_atomic, Prog.wp_bind, Prog.wp_readDb, Prog.wp_orRaise, hrow.row]
  split
  case isTrue hs => exact hsettled o hrow hs
  case isFalse =>
  split
  case isTrue => exact hrefused _
  case isFalse hidle =>
  have h' : InProgress k ck s := ⟨_, ⟨o, hrow, rfl⟩, hprogress.resolve_left hidle⟩
  unfold recordAttempt saveOrder
  simp only [Prog.wp_bind, Prog.wp_writeDb, Prog.wp_pure]
  have hrow' := Db.get?_setOrder_self (f := fun o => ({ o with metadata :=
    { o.metadata with renewalRecoveryAttempt := some .running } } : Order).save now)
    (fun _ => rfl) hrow.row
  refine hclaimed _ ⟨_, ⟨hrow', hrow.client, hrow.noAsset⟩, rfl⟩ ?_
  exact ⟨_, ⟨_, ⟨hrow', hrow.client, hrow.noAsset⟩, rfl⟩, (hprogress.resolve_left hidle).transfer
    (SameServices.setOrder _).targets ((Quiet.refl s).db _)⟩

theorem Once.wp_approveAndProvisionOrder (h : Once k ck s) (hq : Quiet s₀ s)
    (hg : g → ¬ CrashAfterEffect s.signals.tail.tail) (hnotify : g → notify = false) :
    Prog.wp (approveAndProvisionOrder delivery now actor source notify k)
      (fun _ s' => Once k ck s' ∧ Spared g s₀ s')
      (fun _ s' => Once k ck s' ∧ (g → Quiet s₀ s')) s := by
  obtain ⟨o, hrow, -⟩ := h.row
  unfold approveAndProvisionOrder getOrder
  simp only [Prog.wp_bind, Prog.wp_readDb, Prog.wp_orRaise, hrow.row, hrow.noAsset,
    hrow.isRenewal]
  rw [if_neg (by simp), if_neg (by simp), Prog.wp_bind]
  refine h.wp_claimRenewal (fun r => ?_) (fun o hrow hsettled => ?_) (fun db hbarred h' => ?_)
  · exact ⟨h, fun _ => .inl hq⟩
  · obtain ⟨r, hr⟩ := earlyAnswer_of_settled s.db source hrow.isRenewal hsettled
    exact wp_approveOrder_of_earlyAnswer delivery hrow.row hr ⟨h, fun _ => .inl hq⟩
  dsimp only
  rw [Prog.wp_bind]
  have hidle : Idle { s with db := db } (Sys.next { s with db := db }) := .next _
  have h'' : InProgress k ck (Sys.next { s with db := db }) := h'.next
  have hspared : Spared g s₀ { s with db := db } := fun _ => .inl (hq.db db)
  refine hspared.wp_checkpoint (fun _ => ?_) (fun hquiet => ⟨h''.once, hquiet⟩)
  rw [Prog.wp_bind]
  refine Prog.wp_mono (h''.wp_approveOrder delivery ((hq.db db).trans hidle.quiet) hg hnotify)
    ?_ ?_
  · rintro r s' ⟨h₃, hspared'⟩
    have h₄ : InProgress k ck s'.next := h₃.next
    rw [Prog.wp_bind]
    refine hspared'.wp_checkpoint (fun hspared'' => ?_) (fun hquiet => ⟨h₄.once, hquiet⟩)
    unfold finishRenewal recordAttempt
    simp only [Prog.wp_atomic, Prog.wp_bind]
    refine h₄.wp_getOrder fun o _ _ => ?_
    refine h₄.wp_saveOrder (f := fun o => { o with metadata :=
      { o.metadata with renewalRecoveryAttempt := some .finished } })
      (fun _ => ⟨rfl, rfl, rfl⟩) fun db _ h₅ => ?_
    exact ⟨h₅.once, hspared''.db db⟩
  · rintro e s' ⟨hrow', honce, hquiet⟩
    refine ⟨hrow'.elim InProgress.once fun hdb => ?_, hquiet⟩
    have hbarred' : Barred k ck s'.db := hdb ▸ hbarred
    exact hbarred'.once honce

theorem Once.wp_retryOrderCompletion (h : Once k ck s) (hg : ¬ g) :
    Prog.wp (retryOrderCompletion delivery now actor k) (fun _ s' => Once k ck s')
      (fun _ s' => Once k ck s') s := by
  obtain ⟨o, hrow, -⟩ := h.row
  unfold retryOrderCompletion getOrder
  simp only [Prog.wp_bind, Prog.wp_readDb, Prog.wp_orRaise, hrow.row, id_eq]
  split
  · exact Prog.wp_mono (h.wp_approveAndProvisionOrder delivery (Quiet.refl s)
      (fun hg' => absurd hg' hg) (fun hg' => absurd hg' hg)) (fun _ _ hQ => hQ.1)
      (fun _ _ hX => hX.1)
  · exact h

/-- Other tables, and fields of orders that renewals do not depend on. -/
theorem Once.frame (h : Once k ck s) {db : Db} (hdb : SameServices s.db db)
    (hrow : ∀ o, s.db.orders.get? k = some o → ∃ o', db.orders.get? k = some o' ∧
      o'.metadata = o.metadata) : Once k ck { s with db := db } := by
  obtain ⟨o, ⟨ho, hclient, hasset⟩, hprogress⟩ := h.row
  obtain ⟨o', ho', hmeta⟩ := hrow o ho
  refine ⟨h.extensions_le, h.resets_le, o', ⟨ho', hmeta ▸ hclient, hmeta ▸ hasset⟩, ?_⟩
  rw [hmeta]
  exact hprogress.imp_right fun hp => hp.transfer hdb.targets ((Quiet.refl s).db _)

theorem Once.wp_confirmOrderBySms {sms : ℕ} (h : Once k ck s) :
    Prog.wp (confirmOrderBySms delivery now actor sms k) (fun _ s' => Once k ck s')
      (fun _ s' => Once k ck s') s := by
  unfold confirmOrderBySms
  simp only [Prog.wp_bind, Prog.wp_readDb, id_eq]
  split
  case h_1 => exact h
  case h_2 => exact h
  case h_3 j payment hpaid =>
  obtain rfl : j = k := confirmTransaction_paid_explicit hpaid
  obtain ⟨-, -, -, -, -, -, -, horders, -⟩ := confirmTransaction_paid hpaid
  have h' : Once j ck { s with db := { s.db with toPaymentDb := payment } } := by
    refine h.frame ⟨rfl, rfl, rfl⟩ fun o ho => ⟨confirmOrder actor now o, ?_, rfl⟩
    rw [horders, Table.get?_modify, ho]
    simp
  rw [Prog.wp_bind, Prog.wp_writeDb, Prog.wp_bind]
  refine Prog.wp_checkpoint (fun _ => ?_) (fun _ => h'.next)
  rw [Prog.wp_onError, Prog.wp_bind]
  refine Prog.wp_mono (h'.next.wp_approveAndProvisionOrder delivery (Quiet.refl _) False.elim
    False.elim) (fun _ _ hQ => hQ.1) ?_
  rintro e s' ⟨h₃, -⟩
  cases e with
  | raised e => exact h₃
  | crashed => exact h₃

/-! ### Automatic approval -/

theorem Once.wp_claimAutoApproval (h : Once k ck s) {Q : Bool → Shop → Prop}
    {X : Halt String → Shop → Prop} (hX : ∀ e, X e s)
    (hQ : ∀ b db, Once k ck { s with db := db } → Q b { s with db := db }) :
    Prog.wp (claimAutoApproval now k) Q X s := by
  have hsame : ∀ b, Q b s := fun b => hQ b s.db h
  have haudit : ∀ automations, Q true { s with db := { s.db with automations := automations } } :=
    fun _ => hQ _ _ (h.frame ⟨rfl, rfl, rfl⟩ fun o ho => ⟨o, ho, rfl⟩)
  unfold claimAutoApproval getOrder
  simp only [Prog.wp_atomic, Prog.wp_bind, Prog.wp_readDb, Prog.wp_orRaise, id_eq]
  split
  case h_2 => exact hX _
  split
  case h_2 => exact hX _
  split
  case h_2 => exact hsame _
  split
  · exact hsame _
  split
  · exact hsame _
  split
  · split
    · exact hsame _
    · exact haudit _
  · exact haudit _

theorem Once.wp_noteAutomationError (h : Once k ck s) (e : String)
    {Q : Unit → Shop → Prop} {X : Halt String → Shop → Prop}
    (hQ : ∀ db, Once k ck { s with db := db } → Q () { s with db := db }) :
    Prog.wp (noteAutomationError k e) Q X s :=
  hQ _ (h.frame ⟨rfl, rfl, rfl⟩ fun o ho => ⟨o, ho, rfl⟩)

/-- The transaction around an automatic approval undoes the claim and the intent; where no
crash follows an effect, the panel is then as it was before. -/
theorem Once.wp_autoApprovalTransaction (h : Once k ck s)
    (hg : ¬ CrashAfterEffect s.signals.tail.tail) :
    Prog.wp (autoApprovalTransaction delivery now k) (fun _ s' => Once k ck s')
      (fun _ s' => Once k ck s') s := by
  obtain ⟨o, hrow, -⟩ := h.row
  unfold autoApprovalTransaction getOrder
  simp only [Prog.wp_atomic, Prog.wp_bind, Prog.wp_readDb, Prog.wp_orRaise, hrow.row]
  refine Prog.wp_mono (h.wp_approveAndProvisionOrder delivery (Quiet.refl s) (fun _ : True => hg)
    (fun _ => rfl)) ?_ ?_
  swap
  · rintro e s' ⟨-, hquiet⟩
    exact h.quiet rfl ((hquiet trivial).db _)
  rintro r s' ⟨h', hspared⟩
  obtain ⟨o', hrow', -⟩ := h'.row
  rw [hrow'.row]
  dsimp only
  split
  case isFalse => exact h'
  case isTrue =>
  simp only [Prog.wp_bind, Prog.wp_onError]
  unfold notifyOrderEvent
  refine Prog.wp_remoteRead (fun _ _ _ => h'.next) (fun e he => ?_)
  cases e with
  | raised e => exact h'.next
  | crashed =>
      have hquiet : Quiet s s' :=
        (hspared trivial).resolve_right fun hcalm => hcalm.signal (he.mp rfl)
      exact h.quiet rfl ((hquiet.trans (Idle.next s').quiet).db _)

theorem Once.wp_autoApproveOrder (h : Once k ck s)
    (hg : ¬ CrashAfterEffect (s.signals.drop 3)) :
    Prog.wp (autoApproveOrder delivery now k) (fun _ s' => Once k ck s')
      (fun _ s' => Once k ck s') s := by
  unfold autoApproveOrder
  rw [Prog.wp_bind]
  refine h.wp_claimAutoApproval (fun _ => h) fun b db h' => ?_
  split
  case isTrue => exact h'
  case isFalse =>
  rw [Prog.wp_bind]
  refine Prog.wp_checkpoint (fun _ => ?_) (fun _ => h'.next)
  have hsignals : ¬ CrashAfterEffect (Sys.next { s with db := db }).signals.tail.tail := by
    simpa [← List.drop_one] using hg
  simp only [Prog.wp_onError, Prog.wp_bind]
  refine Prog.wp_mono (h'.next.wp_autoApprovalTransaction delivery hsignals) ?_ ?_
  · intro r s' h''
    refine Prog.wp_checkpoint (fun _ => ?_) (fun _ => h''.next)
    split
    · rw [Prog.wp_bind]
      refine h''.next.wp_noteAutomationError _ fun db h₃ => ?_
      exact h₃
    · exact h''.next
  · intro e s' h''
    cases e with
    | raised e =>
        refine h''.wp_noteAutomationError _ fun db h₃ => ?_
        exact h₃
    | crashed => exact h''

/-! ## Runs -/

inductive AttemptKind where
  | approve (actor : Option ℕ) (source : Source) (notify : Bool)
  | retry (actor : Option ℕ)
  | sms (user : Option ℕ) (row : ℕ)
  | auto

/-- An attempt, the time it is made at and the fate of its interactions. -/
structure Attempt where
  kind : AttemptKind
  now : Instant
  signals : List Signal

def AttemptKind.program (now : Instant) (order : ℕ) : AttemptKind → ShopM Unit
  | .approve actor source notify => do
      let _ ← approveAndProvisionOrder delivery now actor source notify order
      return
  | .retry actor => do
      let _ ← retryOrderCompletion delivery now actor order
      return
  | .sms user row => confirmOrderBySms delivery now user row order
  | .auto => do
      let _ ← autoApproveOrder delivery now order
      return

/-- The shop after an attempt on the order. -/
def attempt (order : ℕ) (s : Shop) (a : Attempt) : Shop :=
  (a.kind.program delivery a.now order { s with signals := a.signals }).2

/-- An automatic approval does not die once the panel took one of its requests. The first
three interactions are two points between transactions and a read. -/
def Attempt.Survives (a : Attempt) : Prop :=
  a.kind = .auto → ¬ CrashAfterEffect (a.signals.drop 3)

/-- A renewal order with a claim on the client, before any attempt. -/
structure FreshRenewal (s : Shop) (k ck : ℕ) : Prop where
  row : ∃ o, RenewalRow s.db k ck o ∧ o.metadata.renewalRecoveryAttempt = none ∧
    o.metadata.renewalIntent = none
  calls : s.calls = []

theorem FreshRenewal.once (h : FreshRenewal s k ck) : Once k ck s := by
  obtain ⟨o, hrow, -, hintent⟩ := h.row
  have hext : extensions s = 0 := by simp [extensions, h.calls]
  have hres : resets s = 0 := by simp [resets, h.calls]
  refine ⟨by omega, by omega, o, hrow, .inr ⟨by omega, by omega, fun _ => ⟨hext, hres⟩, ?_⟩⟩
  intro i hi
  rw [hintent] at hi
  cases hi

theorem Once.attempt {a : Attempt} (h : Once k ck s) (ha : a.Survives) :
    Once k ck (attempt delivery k s a) := by
  have h' : Once k ck { s with signals := a.signals } := h.quiet rfl ⟨rfl, rfl, rfl⟩
  apply Prog.snd_of_wp
  obtain ⟨kind, now, signals⟩ := a
  cases kind with
  | approve actor source notify =>
      rw [AttemptKind.program, Prog.wp_bind]
      exact Prog.wp_mono (h'.wp_approveAndProvisionOrder delivery (Quiet.refl _) False.elim
        False.elim) (fun _ _ hQ => hQ.1) (fun _ _ hX => hX.1)
  | retry actor =>
      rw [AttemptKind.program, Prog.wp_bind]
      exact h'.wp_retryOrderCompletion delivery not_false
  | sms user row => exact h'.wp_confirmOrderBySms delivery
  | auto =>
      rw [AttemptKind.program, Prog.wp_bind]
      exact h'.wp_autoApproveOrder delivery (ha rfl)

/-- A thirty day renewal of client 7, paid by a receipt that waits for its review. -/
def renewalShop : Shop where
  db :=
    { orders := Table.empty.put
        { pk := 1, plan := 3, store := some 2, status := .pendingVerification
          paymentSubmittedAt := some 0, hasReceipt := true
          metadata := { renewalClientPk := some 7 } }
      sms := .empty
      clients := Table.empty.put
        { pk := 7, order := none, plan := some 3, inbound := some 5, username := "ali"
          uuid := some "8c1f", status := .active }
      inbounds := Table.empty.put { pk := 5, panel := 4, inboundId := 1 }
      panels := Table.empty.put { pk := 4 }
      plans := Table.empty.put
        { pk := 3, price := 90, trafficLimitBytes := 1000, durationDays := 30, deviceLimit := 2 }
      stores := Table.empty.put
        { pk := 2, orderAutoApproveEnabled := true, orderAutoApproveEnabledAt := some 0 }
      automations := .empty }
  remote :=
    { clients := [{ panel := 4, inbound := 1, id := "8c1f", email := "ali", subId := "s"
                    enable := true, expiryTime := 5000000, totalGB := 1000, limitIp := 2
                    used := 900 }] }

theorem renewalShop_fresh : FreshRenewal renewalShop 1 7 :=
  ⟨⟨_, ⟨rfl, rfl, rfl⟩, rfl, rfl⟩, rfl⟩

/-- The process dies after the reset of an automatic approval; its transaction takes the
claim and the intent with it, and a later click renews again. -/
def interruptedAttempts : List Attempt :=
  [{ kind := .auto, now := minutes 5
     signals := [.acknowledged, .acknowledged, .acknowledged, .acknowledged, .crashAfter] },
   { kind := .approve none .manual false, now := minutes 9, signals := [] }]

/-- An update whose answer is lost, and a second attempt. -/
def retriedAttempts : List Attempt :=
  [{ kind := .auto, now := minutes 5
     signals := [.acknowledged, .acknowledged, .acknowledged, .unacknowledged] },
   { kind := .retry none, now := minutes 9, signals := [] }]

end Qasedak.Orders
