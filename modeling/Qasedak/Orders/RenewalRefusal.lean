import Qasedak.Foundation.Run
import Qasedak.Orders.Creation
import Qasedak.Orders.Refusal

/-! What rejecting or cancelling a renewal order does to the service that it renews. -/

namespace Qasedak.Orders

open Foundation Store Panels Payments

/-! ## Deletion requests -/

/-- The reads before the request that deletes a client. -/
def deletionReads (p : Panel) (t : DeletionTarget) : ℕ :=
  if usesModernClientApi p then 2 else if t.email = "" then 1 else 0

/-- The shop asks the target's panel for the deletion, and the request arrives. -/
def DeletionReaches (db : Db) (signals : List Signal) (t : DeletionTarget) : Prop :=
  ∃ i p, t.inbound.bind db.inbounds.get? = some i ∧ db.panels.get? i.panel = some p ∧
    if p.family = .pasarguard then strip t.email ≠ "" ∧ Carried 0 signals
    else assertPreciseScope db p i (t.uuid.getD "") .delete = .ok () ∧
      Carried (deletionReads p t) signals

theorem not_deletionReaches {db : Db} {signals : List Signal} {t : DeletionTarget}
    (h : ∀ n, ¬ Carried n signals) : ¬ DeletionReaches db signals t := by
  rintro ⟨i, p, -, -, hreach⟩
  split at hreach
  · exact h 0 hreach.2
  · exact h _ hreach.2

/-- Neither the database nor what the panels hold has changed. -/
structure Untouched (s s' : Shop) : Prop where
  db : s'.db = s.db
  remote : s'.remote = s.remote

theorem Untouched.next (s : Shop) : Untouched s s.next := ⟨rfl, rfl⟩

theorem Untouched.of_or {s s' : Shop} {call : RemoteCall}
    (h : s' = s.next ∨ s' = s.refused call) : Untouched s s' := by
  rcases h with rfl | rfl
  · exact ⟨rfl, rfl⟩
  · exact ⟨rfl, rfl⟩

theorem Untouched.trans {s s' s'' : Shop} (h : Untouched s s') (h' : Untouched s' s'') :
    Untouched s s'' :=
  ⟨h'.db.trans h.db, h'.remote.trans h.remote⟩

variable {s₀ s : Shop}

theorem wp_postClientDelete_idle {p : Panel} {i : Inbound} {identifier email : String}
    (h : Untouched s₀ s)
    (hs : ¬ Carried (if usesModernClientApi p then 1 else 0) s.signals) :
    Prog.wp (postClientDelete p i identifier email) (fun _ s' => Untouched s₀ s')
      (fun _ s' => Untouched s₀ s') s := by
  have hwrite : ∀ s, Untouched s₀ s → ¬ s.signal.TakesEffect →
      Prog.wp (Prog.onError
        (Prog.remoteWrite timedOut (.deleteClient i.panel i.inboundId identifier)
          (Remote.deleteClient (usesModernClientApi p) i.panel i.inboundId identifier
            (strip email)))
        fun e => if e = Remote.clientNotFound then return else Prog.raise e : ShopM Unit)
        (fun _ s' => Untouched s₀ s') (fun _ s' => Untouched s₀ s') s := by
    intro s h hs
    rw [Prog.wp_onError]
    refine Prog.wp_remoteWrite_idle hs fun e s' hs' => ?_
    have h' : Untouched s₀ s' := h.trans (.of_or hs')
    cases e with
    | crashed => exact h'
    | raised e =>
        dsimp only
        split
        · exact h'
        · exact h'
  unfold postClientDelete
  split
  case isFalse hp =>
    rw [if_neg hp] at hs
    exact hwrite s h hs
  case isTrue hp =>
  rw [if_pos hp] at hs
  split
  case isTrue => exact h
  case isFalse =>
  unfold assertSingleAttachment
  simp only [Prog.wp_bind]
  refine Prog.wp_remoteRead (fun _ _ hack => ?_) (fun _ _ => h.trans (.next s))
  exact hwrite s.next (h.trans (.next s)) fun heffect => hs ⟨hack, heffect⟩

theorem wp_xuiDeleteClient_idle {t : DeletionTarget}
    (hs : ∀ i p, t.inbound.bind s.db.inbounds.get? = some i → s.db.panels.get? i.panel = some p →
      assertPreciseScope s.db p i (t.uuid.getD "") .delete = .ok () →
      ¬ Carried (deletionReads p t) s.signals) :
    Prog.wp (xuiDeleteClient t) (fun _ s' => Untouched s s') (fun _ s' => Untouched s s') s := by
  have hsame : Untouched s s := ⟨rfl, rfl⟩
  unfold xuiDeleteClient
  refine Prog.wp_catch ?_ fun _ _ h => h
  simp only [Prog.wp_bind, Prog.wp_readDb, Prog.wp_ofExcept, id_eq]
  split
  case h_2 => exact hsame
  case h_1 r hres =>
  obtain ⟨i, p⟩ := r
  obtain ⟨hi, hp⟩ := resolveInboundPanel_ok hres
  split
  case h_2 => exact hsame
  case h_1 hscope =>
  have hcarried := hs i p hi hp hscope
  unfold deletionReads at hcarried
  split
  case isFalse hdirect =>
    simp only [not_or] at hdirect
    rw [if_neg hdirect.1, if_neg hdirect.2] at hcarried
    rw [Prog.wp_bind]
    refine Prog.wp_mono (wp_postClientDelete_idle hsame ?_) (fun _ _ h => h) (fun _ _ h => h)
    rwa [if_neg hdirect.1]
  case isTrue =>
  rw [Prog.wp_bind]
  refine wp_findClientInInbound (fun found hack => ?_) (fun _ => hsame) (fun _ => .next s)
  rw [Prog.wp_bind]
  refine Prog.wp_mono (wp_postClientDelete_idle (.next s) ?_) (fun _ _ h => h) (fun _ _ h => h)
  split at hcarried
  case isTrue hmodern =>
    rw [if_pos hmodern]
    exact fun hc => hcarried ⟨hack, hc⟩
  case isFalse hlegacy =>
  rw [if_neg hlegacy]
  rename_i hor
  rw [if_pos (hor.resolve_left hlegacy)] at hcarried
  exact fun hc => hcarried ⟨hack, hc⟩

theorem wp_deletePanelClient_idle {t : DeletionTarget}
    (hs : ¬ DeletionReaches s.db s.signals t) :
    Prog.wp (deletePanelClient t) (fun _ s' => Untouched s s') (fun _ s' => Untouched s s') s := by
  unfold deletePanelClient
  simp only [Prog.wp_bind, Prog.wp_readDb, id_eq]
  split
  case h_2 hnone =>
    refine wp_xuiDeleteClient_idle fun i p hi hp _ => ?_
    simp [hi, hp] at hnone
  case h_1 p hp =>
  obtain ⟨i, hi, hpanel⟩ := Option.bind_eq_some_iff.mp hp
  split
  case isFalse hfamily =>
    refine wp_xuiDeleteClient_idle fun i' p' hi' hp' hscope hcarried => hs ?_
    obtain rfl : i = i' := Option.some.inj (hi.symm.trans hi')
    obtain rfl : p = p' := Option.some.inj (hpanel.symm.trans hp')
    exact ⟨i, p, hi, hpanel, by rw [if_neg hfamily]; exact ⟨hscope, hcarried⟩⟩
  case isTrue hfamily =>
  unfold deletePasarguardUser
  split
  case isTrue => exact ⟨rfl, rfl⟩
  case isFalse hemail =>
  have hidle : ¬ s.signal.TakesEffect := fun heffect =>
    hs ⟨i, p, hi, hpanel, by rw [if_pos hfamily]; exact ⟨hemail, heffect⟩⟩
  refine Prog.wp_catch ?_ fun _ _ h => h
  rw [Prog.wp_bind]
  exact Prog.wp_remoteWrite_idle hidle fun _ _ hs' => .of_or hs'

theorem wp_deletePanelClients_idle {targets : List DeletionTarget} (hone : targets.length ≤ 1)
    (hs : ∀ t ∈ targets, ¬ DeletionReaches s.db s.signals t) :
    Prog.wp (deletePanelClients targets) (fun _ s' => Untouched s s')
      (fun _ s' => Untouched s s') s := by
  unfold deletePanelClients
  cases targets with
  | nil => exact ⟨rfl, rfl⟩
  | cons t rest =>
      obtain rfl : rest = [] := List.eq_nil_of_length_eq_zero (by simpa using hone)
      simp only [Prog.forEach, if_true, Prog.wp_bind]
      exact wp_deletePanelClient_idle (hs t (by simp))

/-! ## Refusals -/

inductive RefusalKind where
  | reject (user : Option ℕ) (notify : Bool)
  | cancel
  deriving DecidableEq

/-- A refusal, the time it is made at and the fate of its interactions. -/
structure Refusal where
  kind : RefusalKind
  now : Instant
  signals : List Signal

def RefusalKind.program (now : Instant) (order : ℕ) : RefusalKind → ShopM Unit
  | .reject user notify => do
      let _ ← rejectOrder now user notify order
      return
  | .cancel => do
      let _ ← cancelOrder now order
      return

/-- The shop after a refusal of the order. -/
def refusal (order : ℕ) (s : Shop) (a : Refusal) : Shop :=
  (a.kind.program a.now order { s with signals := a.signals }).2

/-- A renewal order for a client that an earlier order delivered; nothing is attached to
it. -/
structure RenewalFor (db : Db) (k : ℕ) (c : VPNClient) (r : Order) : Prop where
  order : db.orders.get? k = some r
  client : db.clients.get? c.pk = some c
  renews : r.metadata.renewalClientPk = some c.pk
  inbound : r.inbound = c.inbound
  uuid : r.uuid = c.uuid
  delivered : ∃ e, c.order = some e ∧ e ≠ k
  unprovisioned : db.vpnClients k = []

/-- A renewal order is new: no client can refer to it yet. -/
theorem createRenewalPaymentOrder_renewalFor {db db' : Db} {c : VPNClient} {k discount : ℕ}
    {publicId trackingCode : String} {currentStore customer : Option ℕ} {now : Instant}
    (h : createRenewalPaymentOrder publicId trackingCode currentStore customer discount now c db =
      .ok (k, db'))
    (hc : db.clients.get? c.pk = some c)
    (hkeys : ∀ x ∈ db.clients.rows, ∀ e, x.order = some e → (db.orders.get? e).isSome) :
    ∃ r, RenewalFor db' k c r := by
  unfold createRenewalPaymentOrder at h
  split at h
  · cases h
  split at h
  · cases h
  split at h
  · cases h
  rename_i plan _ _ delivered hdelivered
  split at h
  · cases h
  obtain ⟨rfl, rfl⟩ := Prod.mk.inj (Except.ok.inj h)
  obtain ⟨e, he, hrow⟩ := Option.bind_eq_some_iff.mp hdelivered
  have hlt : ∀ e, (db.orders.get? e).isSome → e ≠ db.orders.nextKey := by
    intro e he
    obtain ⟨o, ho⟩ := Option.isSome_iff_exists.mp he
    obtain ⟨hmem, rfl⟩ := Table.mem_of_get? ho
    exact (Table.lt_nextKey hmem).ne
  refine ⟨_, ⟨by rw [Table.get?_insert, if_pos rfl], hc, rfl, rfl, rfl, ⟨e, he, ?_⟩, ?_⟩⟩
  · exact hlt e (by simp [hrow])
  · refine List.filter_eq_nil_iff.mpr fun x hx => ?_
    simpa using fun horder => hlt _ (hkeys x hx _ horder) rfl

/-- The refusal has nothing to delete, or its deletion request does not arrive. -/
def Refusal.Spares (k : ℕ) (s : Shop) (a : Refusal) : Prop :=
  ∀ o, s.db.orders.get? k = some o → (a.kind = .cancel ∨ o.status ≠ .completed) →
    ∀ t ∈ deletionTargetsForOrder s.db o, ¬ DeletionReaches s.db a.signals t

/-- The panels and the clients' rows are as they were, and the order has no client. -/
structure ServiceKept (k : ℕ) (s₀ s : Shop) : Prop where
  remote : s.remote = s₀.remote
  clients : s.db.clients = s₀.db.clients
  unprovisioned : s.db.vpnClients k = []

variable {k : ℕ}

theorem ServiceKept.untouched {s' : Shop} (h : ServiceKept k s₀ s) (hs : Untouched s s') :
    ServiceKept k s₀ s' :=
  ⟨hs.remote.trans h.remote, hs.db ▸ h.clients, hs.db ▸ h.unprovisioned⟩

/-- With no client attached there is at most one target, the order itself. -/
theorem length_deletionTargetsForOrder {db : Db} {o : Order} (h : db.vpnClients o.pk = []) :
    (deletionTargetsForOrder db o).length ≤ 1 := by
  unfold deletionTargetsForOrder
  rw [if_neg (not_not.mpr h)]
  split
  · exact Nat.le_refl 1
  · exact Nat.zero_le 1

theorem ServiceKept.wp_refuseOrder {now : Instant} {o : Order} {f : Order → Order}
    {hf : ∀ o, (f o).pk = o.pk} {message : String} (h : ServiceKept k s₀ s)
    (ho : s.db.orders.get? k = some o)
    (hs : ∀ t ∈ deletionTargetsForOrder s.db o, ¬ DeletionReaches s.db s.signals t) :
    Prog.wp (refuseOrder now o f hf message) (fun _ s' => ServiceKept k s₀ s')
      (fun _ s' => Untouched s s') s := by
  obtain ⟨-, rfl⟩ := Table.mem_of_get? ho
  unfold refuseOrder
  simp only [Prog.wp_bind, Prog.wp_readDb, id_eq]
  refine Prog.wp_mono (wp_deletePanelClients_idle
    (length_deletionTargetsForOrder h.unprovisioned) hs) ?_ (fun _ _ h => h)
  intro deleted s' hs'
  have h' : ServiceKept o.pk s₀ s' := h.untouched hs'
  split
  case isFalse => exact h'
  case isTrue =>
  have hnone : (s'.db.setOrder o.pk (fun o => (f o).save now)
      fun o => by rw [Order.save_pk, hf]).vpnClients o.pk = [] := h'.unprovisioned
  unfold saveOrder
  simp only [Prog.wp_bind, Prog.wp_writeDb, suspendClients_of_nil hnone]
  exact ⟨h'.remote, h'.clients, h'.unprovisioned⟩

/-- A transaction that halts restores the database. -/
theorem ServiceKept.restore {s' : Shop} (h : ServiceKept k s₀ s) (hs : Untouched s s') :
    ServiceKept k s₀ { s' with db := s.db } :=
  ⟨hs.remote.trans h.remote, h.clients, h.unprovisioned⟩

theorem ServiceKept.wp_rejectTransaction {now : Instant} {user : Option ℕ}
    (h : ServiceKept k s₀ s) (hs : ∀ o, s.db.orders.get? k = some o → o.status ≠ .completed →
      ∀ t ∈ deletionTargetsForOrder s.db o, ¬ DeletionReaches s.db s.signals t) :
    Prog.wp (rejectTransaction now user k) (fun _ s' => ServiceKept k s₀ s')
      (fun _ s' => ServiceKept k s₀ s') s := by
  unfold rejectTransaction getOrder
  simp only [Prog.wp_bind, Prog.wp_atomic, Prog.wp_readDb, Prog.wp_orRaise]
  split
  case h_2 => exact h
  case h_1 o ho =>
  split
  case isTrue => exact h
  case isFalse hopen =>
  exact Prog.wp_mono (h.wp_refuseOrder ho (hs o ho hopen)) (fun _ _ h => h)
    fun _ _ hs' => h.restore hs'

theorem ServiceKept.wp_cancelOrder {now : Instant}
    (h : ServiceKept k s₀ s) (hs : ∀ o, s.db.orders.get? k = some o →
      ∀ t ∈ deletionTargetsForOrder s.db o, ¬ DeletionReaches s.db s.signals t) :
    Prog.wp (cancelOrder now k) (fun _ s' => ServiceKept k s₀ s')
      (fun _ s' => ServiceKept k s₀ s') s := by
  unfold cancelOrder getOrder
  simp only [Prog.wp_bind, Prog.wp_atomic, Prog.wp_readDb, Prog.wp_orRaise]
  split
  case h_2 => exact h
  case h_1 o ho =>
  exact Prog.wp_mono (h.wp_refuseOrder ho (hs o ho)) (fun _ _ h => h) fun _ _ hs' => h.restore hs'

theorem ServiceKept.refusal {a : Refusal} (h : ServiceKept k s₀ s) (ha : a.Spares k s) :
    ServiceKept k s₀ (refusal k s a) := by
  obtain ⟨kind, now, signals⟩ := a
  have h' : ServiceKept k s₀ { s with signals := signals } :=
    ⟨h.remote, h.clients, h.unprovisioned⟩
  apply Prog.snd_of_wp
  cases kind with
  | cancel =>
      unfold RefusalKind.program
      rw [Prog.wp_bind]
      exact h'.wp_cancelOrder fun o ho => ha o ho (.inl rfl)
  | reject user notify =>
      unfold RefusalKind.program rejectOrder
      rw [Prog.wp_bind, Prog.wp_bind]
      refine Prog.wp_mono (h'.wp_rejectTransaction fun o ho hopen => ha o ho (.inr hopen)) ?_
        (fun _ _ h => h)
      intro r s' hkept
      split
      case isFalse => exact hkept
      case isTrue =>
      rw [Prog.wp_bind]
      exact Prog.wp_remoteRead (fun _ _ _ => hkept.untouched (.next s'))
        (fun _ _ => hkept.untouched (.next s'))

/-- Refusing a renewal order leaves the service alone in every run in which no deletion
request for the order arrives at the panel. -/
theorem renewal_refusals_spare_service {c : VPNClient} {r : Order} {refusals : List Refusal}
    (h : RenewalFor s.db k c r)
    (hops : Guarded (refusal k) (fun s a => a.Spares k s) s refusals) :
    (run (refusal k) s refusals).remote = s.remote ∧
      (run (refusal k) s refusals).db.clients.get? c.pk = some c := by
  have hkept : ServiceKept k s (run (refusal k) s refusals) :=
    hops.invariant (fun _ _ hs ha => hs.refusal ha) ⟨rfl, rfl, h.unprovisioned⟩
  exact ⟨hkept.remote, hkept.clients ▸ h.client⟩

/-! ## A cancelled renewal -/

def liveClient : VPNClient :=
  { pk := 7, order := some 1, plan := some 3, inbound := some 5, username := "ali"
    uuid := some "8c1f", status := .active }

/-- A customer with one delivered service on an X-UI panel. -/
def liveShop : Shop where
  db :=
    { orders := Table.empty.put
        { pk := 1, customer := some 9, plan := 3, status := .completed
          verificationStatus := .verified, provisioningStatus := .provisioned }
      sms := .empty
      clients := Table.empty.put liveClient
      inbounds := Table.empty.put { pk := 5, panel := 4, inboundId := 1, currentUsers := 1 }
      panels := Table.empty.put { pk := 4 }
      plans := Table.empty.put
        { pk := 3, price := 90, trafficLimitBytes := 1000, durationDays := 30, deviceLimit := 2 }
      stores := .empty
      automations := .empty }
  remote :=
    { clients := [{ panel := 4, inbound := 1, id := "8c1f", email := "ali", subId := "s"
                    enable := true, expiryTime := 5000000, totalGB := 1000, limitIp := 2 }] }

/-- The shop after the customer ordered a renewal of the service. -/
def renewalOrderedShop : Shop :=
  match createRenewalPaymentOrder "r2" "T2" none (some 9) 0 0 liveClient liveShop.db with
  | .ok (_, db) => { liveShop with db := db }
  | .error _ => liveShop

theorem renewalOrderedShop_renewalFor : ∃ r, RenewalFor renewalOrderedShop.db 2 liveClient r := by
  have h : createRenewalPaymentOrder "r2" "T2" none (some 9) 0 0 liveClient liveShop.db =
      .ok (2, renewalOrderedShop.db) := rfl
  exact createRenewalPaymentOrder_renewalFor h rfl (by decide)

/-- The customer drops the renewal before paying for it, and loses the service. -/
theorem cancelled_renewal_deletes_service :
    (∃ r, RenewalFor renewalOrderedShop.db 2 liveClient r) ∧
      (∃ x ∈ renewalOrderedShop.remote.clients, some x.id = liveClient.uuid) ∧
      (run (refusal 2) renewalOrderedShop [⟨.cancel, 0, []⟩]).remote.clients = [] :=
  ⟨renewalOrderedShop_renewalFor, by decide, by decide +kernel⟩

/-- Where the panel is out of reach, two refusals leave the service alone. -/
theorem renewal_refusals_spare_service_unreachable :
    (run (refusal 2) renewalOrderedShop
        [⟨.cancel, 0, [.notApplied]⟩, ⟨.reject none false, 0, [.crashBefore]⟩]).remote =
      renewalOrderedShop.remote ∧
    (run (refusal 2) renewalOrderedShop
        [⟨.cancel, 0, [.notApplied]⟩, ⟨.reject none false, 0, [.crashBefore]⟩]).db.clients.get?
          liveClient.pk = some liveClient := by
  obtain ⟨r, hr⟩ := renewalOrderedShop_renewalFor
  have hstopped : ∀ n, ¬ Carried n [.notApplied] ∧ ¬ Carried n [.crashBefore] := by
    intro n
    cases n <;> simp [Carried, Signal.TakesEffect]
  refine renewal_refusals_spare_service hr ⟨?_, ?_, trivial⟩
  · exact fun _ _ _ _ _ => not_deletionReaches fun n => (hstopped n).1
  · exact fun _ _ _ _ _ => not_deletionReaches fun n => (hstopped n).2

end Qasedak.Orders
