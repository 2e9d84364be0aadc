import Qasedak.Orders.RenewalOnce
import Qasedak.Services.QuietDeliveries

/-! A deleted service stays deleted, and no renewal of it is completed, in every interleaving in
which no copy from before the deletion is saved over it, no panel link is saved on it, and no
approval meets it on the panel. -/

namespace Qasedak.Services

open Foundation Store Orders Panels Prog Reconciliation

variable {platform : Platform} {routing : Routing}
  {assignAsset : Instant → ℕ → ℕ → ShopM (Option String)} {delivery : Delivery}
  {now : Instant} {actor : Option ℕ} {plan : Plan} {k m : ℕ} {owner : Option ℕ} {done : Set ℕ}
  {atWork : Option ℕ} {db : Db} {s : Shop}

/-! ## Renewals -/

theorem keeps_postClientResetTraffic {p : Panel} {i : Inbound} {email : String} :
    Keeps id (postClientResetTraffic p i email) := by
  unfold postClientResetTraffic
  split
  · exact (keeps_remoteRead _ _).bind fun _ => keeps_remoteWrite _ _ _
  · exact (keeps_pure _).bind fun _ => keeps_remoteWrite _ _ _

theorem quiet_renewClient {c : VPNClient} :
    Grows (Quiet k owner done atWork) (renewClient now c plan m) := by
  have hintent : ∀ intent, Grows (Quiet k owner done atWork) (saveIntent now m intent) := fun _ =>
    quiet_saveOrder_open (by exact fun _ => rfl) (by exact fun _ h => h)
  refine Grows.onError (Grows.bind ?_ fun _ => grows_pure _) fun _ => grows_pure _
  refine (grows_readDb _).bind fun _ => quiet_ofExcept.bind fun ip => ?_
  refine quiet_ofExcept.bind fun _ => (quiet_of_id (keeps_remoteRead _ _)).bind fun target => ?_
  refine quiet_getOrder fun _ o _ _ => quiet_ofExcept.bind fun intent => ?_
  refine Grows.ite (grows_raise _) (Grows.ite (grows_raise _) (Grows.bind ?_ fun _ => grows_pure _))
  refine (hintent _).bind fun _ => Grows.bind ?_ fun _ => ?_
  · exact quiet_of_id (Keeps.ite (keeps_pure _) (keeps_remoteWrite _ _ _))
  · refine Grows.ite (grows_pure _) ((hintent _).bind fun _ => Grows.bind ?_ fun _ => hintent _)
    exact quiet_of_id keeps_postClientResetTraffic

/-- The renewal of another client. -/
theorem quiet_activateRenewalOrderLocked :
    Grows (Quiet k owner done (some m)) (activateRenewalOrderLocked now actor m) := by
  refine (quiet_saveOrder (by exact fun _ => rfl)).bind fun _ => Grows.bind ?_ fun r => ?_
  · refine quiet_getOrder fun db o hdb ho => (grows_readDb _).bind fun db' => ?_
    have hown : ¬ Renews k o := by
      obtain ⟨hrow, hpk⟩ := Table.get?_eq_some_iff.mp ho
      exact hdb.own o hrow (by rw [hpk])
    split
    · exact grows_pure _
    rename_i ck hck
    have hne : ck ≠ k := fun h => hown (hck.trans (congrArg some h))
    split
    · exact grows_pure _
    refine Grows.ite (grows_pure _) (Grows.ite (grows_pure _) ?_)
    refine quiet_getPlan.bind fun plan => quiet_renewClient.bind fun renewed => ?_
    cases renewed with
    | error e => exact grows_pure _
    | ok expiry =>
        refine (quiet_saveOrder (by exact fun _ => rfl)).bind fun _ => ?_
        exact (quiet_saveClient hne).bind fun _ => grows_pure _
  · exact Grows.ite ((quiet_saveOrder (by exact fun _ => rfl)).bind fun _ => grows_pure _)
      (grows_pure _)

/-- The panel does not hold the client of the row any more. -/
def Unheld (s : Shop) (c : VPNClient) : Prop :=
  ∀ i, c.inbound.bind s.db.inbounds.get? = some i → findServiceClient s.remote i c = none

/-- A client that is not on its panel is not renewed. -/
theorem wp_renewClient_unheld {c : VPNClient} (h : Unheld s c) :
    wp (renewClient now c plan m) (fun r s' => (∃ e, r = .error e) ∧ s'.db = s.db)
      (fun _ s' => s'.db = s.db) s := by
  rw [renewClient, wp_onError, wp_bind, updateClientSubscription, wp_bind, wp_readDb]
  rw [wp_bind]
  refine wp_check (fun ip hip => ?_) fun e _ => ⟨⟨e, rfl⟩, rfl⟩
  obtain ⟨i, p⟩ := ip
  have hfound := h i (resolveInboundPanel_ok hip).1
  dsimp only
  rw [wp_bind]
  refine wp_check (fun _ _ => ?_) fun e _ => ⟨⟨e, rfl⟩, rfl⟩
  rw [wp_bind]
  refine wp_remoteRead (fun t ht _ => ?_) fun e _ => ?_
  · rw [hfound] at ht
    cases ht
  · cases e with
    | crashed => exact rfl
    | raised e => exact ⟨⟨e, rfl⟩, rfl⟩

/-- A renewal of a client that is not on its panel, or not linked to it, fails. -/
theorem wp_activateRenewalOrder_unheld {o : Order} {c : VPNClient}
    (ho : s.db.orders.get? m = some o) (hrenews : Renews k o) (hc : s.db.clients.get? k = some c)
    (h : (vpnClientPanelError s.db c).isSome ∨ Unheld s c) :
    wp (activateRenewalOrder now actor m) (fun r s' => r.ok = false ∧ s'.db = s.db)
      (fun _ s' => s'.db = s.db) s := by
  rw [activateRenewalOrder, wp_bind, getOrder, wp_bind, wp_readDb, wp_orRaise, ho]
  dsimp only
  rw [wp_bind, wp_readDb]
  dsimp only [id]
  have hclient : o.metadata.renewalClientPk = some k := hrenews
  rw [hclient]
  dsimp only
  rw [hc]
  dsimp only
  refine (wp_ite _ _).mpr ⟨fun _ => ⟨rfl, rfl⟩, fun _ => ?_⟩
  refine (wp_ite _ _).mpr ⟨fun _ => ⟨rfl, rfl⟩, fun hlinked => ?_⟩
  have hunheld : Unheld s c := h.resolve_left hlinked
  rw [wp_bind, getPlan, wp_bind, wp_readDb, wp_orRaise]
  cases s.db.plans.get? o.plan with
  | none => exact rfl
  | some plan =>
      dsimp only
      rw [wp_bind]
      refine wp_mono (wp_renewClient_unheld hunheld) (fun r s' h => ?_) fun _ _ h => h
      obtain ⟨⟨e, rfl⟩, hdb⟩ := h
      exact ⟨rfl, hdb⟩

theorem wp_activateRenewalOrderLocked_unheld {o : Order} {c : VPNClient}
    (h : Quiet k owner done none s.db) (ho : s.db.orders.get? m = some o) (hrenews : Renews k o)
    (hc : s.db.clients.get? k = some c) (hunheld : (vpnClientPanelError s.db c).isSome ∨ Unheld s c) :
    wp (activateRenewalOrderLocked now actor m) (fun _ s' => Quiet k owner done none s'.db)
      (fun _ s' => Quiet k owner done none s'.db) s := by
  have hsaved : Quiet k owner done none (s.db.setOrder m (fun o => (markProvisioning o).save now)
      fun o => by rw [Order.save_pk, markProvisioning_pk]) :=
    h.setOrder (fun o => by rw [Order.save_metadata]; rfl) (.inr fun o ho => by
      have hstatus := save_status_completed ho
      exact hstatus)
  rw [activateRenewalOrderLocked, wp_bind]
  unfold saveOrder
  rw [wp_writeDb, wp_bind]
  have hrow : (s.db.setOrder m (fun o => (markProvisioning o).save now)
      fun o => by rw [Order.save_pk, markProvisioning_pk]).orders.get? m =
        some ((markProvisioning o).save now) := by
    rw [Db.setOrder, Table.get?_modify, ho, Option.map_some, if_pos rfl]
  refine wp_mono (wp_activateRenewalOrder_unheld hrow hrenews hc hunheld) (fun r s' h => ?_)
    fun _ s' hdb => ?_
  · obtain ⟨hr, hdb⟩ := h
    rw [hr, if_neg (by simp)]
    exact hsaved.congr (congrArg Db.clients hdb) (congrArg (fun db : Db => db.orders) hdb)
  · exact hsaved.congr (congrArg Db.clients hdb) (congrArg (fun db : Db => db.orders) hdb)

/-! ## Approvals -/

/-- The database once an attempt is noted on its order. -/
def notedDb (delivery : Delivery) (now : Instant) (order : ℕ) (db : Db) : Db :=
  db.setOrder order (fun o => (noteAttempt delivery db o).save now)
    (fun o => by rw [Order.save_pk]; rfl)

/-- An attempt is no renewal of the client as long as the panel has it, and no activation of the
client's own legacy order. -/
def ApprovalPart.Settled (delivery : Delivery) (k : ℕ) (s : Shop) : ApprovalPart → Prop
  | .attempt now _ source order => ∀ o c, s.db.orders.get? order = some o →
      s.db.clients.get? k = some c → earlyAnswer s.db source o = none →
        (Renews k o → (vpnClientPanelError s.db c).isSome ∨ Unheld s c) ∧
        (orderIsRenewal o = false → c.order = some order →
          ∀ noted, (notedDb delivery now order s.db).orders.get? order = some noted →
            deliveryPath (notedDb delivery now order s.db) noted ≠ .legacy)
  | _ => True

theorem Quiet.begin (h : Quiet k owner done none db)
    (hown : ∀ o, db.orders.get? m = some o → ¬ Renews k o) : Quiet k owner done (some m) db := by
  refine ⟨h.client, h.renewals, fun o ho hm => ?_⟩
  exact hown o (Table.get?_eq_some_iff.mpr ⟨ho, Option.some.inj hm⟩)

theorem Quiet.finish (h : Quiet k owner done atWork db) : Quiet k owner done none db :=
  ⟨h.client, h.renewals, fun _ _ hm => by cases hm⟩

theorem Quiet.notedDb (h : Quiet k owner done none db) :
    Quiet k owner done none (notedDb delivery now m db) :=
  h.setOrder (fun o => by rw [Order.save_metadata]; rfl)
    (.inr fun o ho => by
      have hstatus := save_status_completed ho
      exact hstatus)

theorem get?_notedDb {o : Order} (ho : db.orders.get? m = some o) :
    (notedDb delivery now m db).orders.get? m = some ((noteAttempt delivery db o).save now) := by
  rw [Services.notedDb, Db.setOrder, Table.get?_modify, ho, Option.map_some, if_pos rfl]

theorem wp_approveTransaction_quiet {source : Source} (h : Quiet k owner done none s.db)
    (hsettled : (ApprovalPart.attempt now actor source m).Settled
      (shopDelivery platform routing assignAsset) k s) :
    wp (approveTransaction (shopDelivery platform routing assignAsset) now actor source m)
      (fun _ s' => Quiet k owner done none s'.db) (fun _ s' => Quiet k owner done none s'.db) s := by
  rw [approveTransaction, wp_atomic, wp_bind, getOrder, wp_bind, wp_readDb, wp_orRaise]
  cases ho : s.db.orders.get? m with
  | none => exact h
  | some o =>
      dsimp only
      rw [wp_bind, wp_readDb]
      dsimp only [id]
      cases hearly : earlyAnswer s.db source o with
      | some r => exact h
      | none =>
          obtain ⟨c, hc, hburied, howner⟩ := h.client
          obtain ⟨hrenewal, hlegacy⟩ := hsettled o c ho hc hearly
          have hnoted : Quiet k owner done none
              (notedDb (shopDelivery platform routing assignAsset) now m s.db) := h.notedDb
          have hrow := @get?_notedDb (shopDelivery platform routing assignAsset) now m s.db o ho
          have hforeign : ¬ Renews k o → ∀ noted,
              (notedDb (shopDelivery platform routing assignAsset) now m s.db).orders.get? m =
                some noted → ¬ Renews k noted := by
            intro hr noted hget
            rw [hrow] at hget
            obtain rfl := Option.some.inj hget
            exact hr
          dsimp only
          rw [wp_bind]
          unfold saveOrder
          rw [wp_writeDb]
          generalize hdb : Db.setOrder s.db m _ _ = db
          obtain rfl : notedDb (shopDelivery platform routing assignAsset) now m s.db = db := hdb
          refine (wp_ite _ _).mpr ⟨fun hisRenewal => ?_, fun hnot => ?_⟩
          · rw [wp_bind]
            by_cases hr : Renews k o
            · exact wp_mono (wp_activateRenewalOrderLocked_unheld hnoted hrow hr hc (hrenewal hr))
                (fun _ _ h' => h') fun _ _ _ => h
            · have hwork := hnoted.begin (hforeign hr)
              exact wp_mono (quiet_activateRenewalOrderLocked _) (fun _ _ h' => (h' hwork).finish)
                fun _ _ _ => h
          · rw [wp_bind]
            have hplain : orderIsRenewal o = false := Bool.eq_false_iff.mpr hnot
            have hr : ¬ Renews k o := fun hr => hnot (by rw [orderIsRenewal, hr]; rfl)
            have hwork := hnoted.begin (hforeign hr)
            have hdeliver := @wp_deliverOrder_quiet platform routing now actor k m owner done
              { s with db := notedDb (shopDelivery platform routing assignAsset) now m s.db }
              (fun noted hget hpath howned =>
                hlegacy hplain (howner.trans howned) noted hget hpath)
            exact wp_mono hdeliver (fun _ _ h' => (h' hwork).finish) fun _ _ _ => h

theorem quiet_claimRenewal : Grows (Quiet k owner done none) (claimRenewal now m) := by
  refine Grows.atomic (quiet_getOrder fun _ o _ _ => Grows.ite (grows_pure _) ?_)
  refine Grows.ite (grows_pure _) (Grows.bind ?_ fun _ => grows_pure _)
  exact quiet_saveOrder_open (by exact fun _ => rfl) (by exact fun _ h => h)

theorem quiet_recordFailure {r : ProvisioningResult} :
    Grows (Quiet k owner done none) (recordFailure now m r) :=
  quiet_getOrder fun _ _ _ _ => quiet_saveOrder_open (by exact fun _ => rfl) (by exact fun _ h => h)

theorem quiet_finishRenewal : Grows (Quiet k owner done none) (finishRenewal now m) :=
  Grows.atomic (quiet_getOrder fun _ _ _ _ =>
    quiet_saveOrder_open (by exact fun _ => rfl) (by exact fun _ h => h))

theorem quiet_rewardReferrer : Grows (Quiet k owner done none) (rewardReferrer now m) := fun _ =>
  wp_rewardReferrer_frame fun _ _ h => h.congr rfl rfl

/-- The client after a part of an approval. -/
theorem Quiet.approval (h : Quiet k owner done none s.db) {part : ApprovalPart}
    (hsettled : part.Settled (shopDelivery platform routing assignAsset) k s) :
    Quiet k owner done none
      (part.program (shopDelivery platform routing assignAsset) s).2.db := by
  cases part with
  | claim now order =>
      have hq : Grows (Quiet k owner done none) ((ApprovalPart.claim now order).program
          (shopDelivery platform routing assignAsset)) :=
        quiet_claimRenewal.bind fun _ => grows_pure _
      exact hq.snd s h
  | attempt now actor source order =>
      refine snd_of_wp (P := fun s' : Shop => Quiet k owner done none s'.db) ?_
      rw [ApprovalPart.program, wp_bind]
      exact wp_approveTransaction_quiet h hsettled
  | reward now order =>
      have hq : Grows (Quiet k owner done none) (rewardReferrer now order) := quiet_rewardReferrer
      exact hq.snd s h
  | failure now order r =>
      have hq : Grows (Quiet k owner done none) (recordFailure now order r) := quiet_recordFailure
      exact hq.snd s h
  | finish now order =>
      have hq : Grows (Quiet k owner done none) (finishRenewal now order) := quiet_finishRenewal
      exact hq.snd s h

/-! ## Steps -/

/-- No copy from before the deletion is saved over the deleted client, no panel link is saved on
it, and no approval meets it. -/
def Settled (delivery : Delivery) (k : ℕ) (d : Desk) : DeskStep → Prop
  | .sync run stats => ∀ c, d.held run = some c → c.pk = k →
      c.isDeleted ∨ c.inbound.isNone ∨ ¬ stats.panelAvailable
  | .refresh run details => ∀ c, d.held run = some c → c.pk = k → c.inbound.isNone ∨
      (∀ v, details.subLink = some v → v = "" ∨ v = c.subLink) ∧
        ∀ v, details.directLink = some v → v = "" ∨ v = c.directLink
  | .refreshByAdmin run link _ => ∀ c, d.held run = some c → c.pk = k → c.isDeleted ∨ link = ""
  | .approval part signals => part.Settled delivery k { d.shop with signals := signals }
  | _ => True

/-- A write to the client that leaves it deleted. -/
theorem Quiet.setBuried (h : Quiet k owner done atWork db) {j : ℕ} {f : VPNClient → VPNClient}
    {hf : ∀ c, (f c).pk = c.pk}
    (hkeep : j = k → ∀ c, Buried c → Buried (f c) ∧ (f c).order = c.order) :
    Quiet k owner done atWork (db.setClient j f hf) := by
  by_cases hj : j = k
  · obtain ⟨c, hc, hburied, howner⟩ := h.client
    refine ⟨⟨f c, ?_, (hkeep hj c hburied).1, (hkeep hj c hburied).2.trans howner⟩, h.renewals, h.own⟩
    rw [Db.setClient, Table.get?_modify, hc, Option.map_some, if_pos hj.symm]
  · exact h.setClient hj

theorem Buried.isDeleted {c : VPNClient} (h : Buried c) : c.isDeleted = true := by
  simp [VPNClient.isDeleted, h.status]

theorem buried_markDeleted (c : VPNClient) : Buried (markDeleted c) := ⟨rfl, rfl, rfl, rfl⟩

theorem refreshField_empty {value : Option String} {held : String}
    (h : ∀ v, value = some v → v = "" ∨ v = held) : refreshField value held "" = "" := by
  cases value with
  | none => rfl
  | some v =>
      rcases h v rfl with rfl | rfl
      · simp [refreshField]
      · simp [refreshField]

theorem Quiet.afterDeletion (h : Quiet k owner done none db) {j : ℕ} {db' : Db}
    (hmark : markLocalVpnClientDeleted j db = some db') : Quiet k owner done none db' := by
  obtain ⟨c, -, rfl⟩ := Option.map_eq_some_iff.mp hmark
  have hmarked : Quiet k owner done none (db.setClient j markDeleted fun _ => rfl) :=
    h.setBuried fun _ c _ => ⟨buried_markDeleted c, rfl⟩
  cases horder : c.order with
  | none => simpa only [horder] using hmarked
  | some o =>
      exact hmarked.setOrder (fun _ => rfl) (.inr fun _ h => h)

theorem Quiet.placeOrder (h : Quiet k owner done none db) {o : Order} (ho : o.status ≠ .completed) :
    Quiet k owner done none { db with orders := db.orders.put o } := by
  have hrow : ∀ x ∈ (db.orders.put o).rows, x ∈ db.orders.rows ∨ x = o := by
    intro x hx
    unfold Table.put at hx
    split at hx
    · exact .inl hx
    · simpa using hx
  refine ⟨h.client, fun x hx hr hcompleted => ?_, fun _ _ hm => by cases hm⟩
  rcases hrow x hx with hx | rfl
  · exact h.renewals x hx hr hcompleted
  · exact absurd hcompleted ho

theorem Quiet.withHeld {d : Desk} {run : ℕ} {act : VPNClient → Desk}
    (h : Quiet k owner done none d.shop.db)
    (hact : ∀ c, d.held run = some c → Quiet k owner done none (act c).shop.db) :
    Quiet k owner done none (d.withHeld run act).shop.db := by
  unfold Desk.withHeld
  split
  · exact h
  · rename_i c hc
    exact hact c hc

theorem Quiet.withLive {d : Desk} {run : ℕ} {act : VPNClient → Desk}
    (h : Quiet k owner done none d.shop.db)
    (hact : ∀ c, d.held run = some c → ¬ c.isDeleted → Quiet k owner done none (act c).shop.db) :
    Quiet k owner done none (d.withLive run act).shop.db := by
  refine h.withHeld fun c hc => ?_
  split
  · exact h
  · rename_i hlive
    exact hact c hc hlive

/-- What one step of an interleaving does to the deleted client and to its renewals. -/
theorem Quiet.step {d : Desk} {a : DeskStep} (h : Quiet k owner done none d.shop.db)
    (ha : Settled (shopDelivery platform routing assignAsset) k d a) :
    Quiet k owner done none (d.step (shopDelivery platform routing assignAsset) a).shop.db := by
  cases a with
  | read run j => exact h
  | panel remote => exact h
  | placeOrder o =>
      simp only [Desk.step]
      split
      · exact h
      · rename_i ho
        exact h.placeOrder ho
  | delete run =>
      refine h.withLive fun c hc hlive => ?_
      cases hmark : markLocalVpnClientDeleted c.pk d.shop.db with
      | none => exact h
      | some db => exact h.afterDeletion hmark
  | sync run stats =>
      refine h.withHeld fun c hc => ?_
      cases hsync : syncVpnClientStats stats c with
      | none => exact h
      | some saved =>
          unfold syncVpnClientStats at hsync
          split at hsync
          · cases hsync
          · rename_i hstale
            have hpk : saved.pk ≠ k := by
              obtain rfl := Option.some.inj hsync
              exact fun hpk => hstale (ha c hc hpk)
            exact h.setClient hpk
  | refresh run details =>
      refine h.withHeld fun c hc => ?_
      split
      · exact h
      · rename_i hlinked
        refine h.setBuried fun hpk row hrow => ⟨⟨hrow.deletedAt, hrow.status, ?_, ?_⟩, rfl⟩
        · have hlinks := ((ha c hc hpk).resolve_left hlinked).1
          simpa [refreshedLinks, hrow.subLink] using refreshField_empty hlinks
        · have hlinks := ((ha c hc hpk).resolve_left hlinked).2
          simpa [refreshedLinks, hrow.directLink] using refreshField_empty hlinks
  | refreshOrder run order details =>
      refine h.withHeld fun c hc => ?_
      split
      · exact h
      · exact h.setOrder (fun _ => rfl) (.inr fun _ ho => ho)
  | refreshByAdmin run link email =>
      refine h.withLive fun c hc hlive => ?_
      split
      · exact h
      · rename_i hlink
        exact h.setClient fun hpk => (ha c hc hpk).elim hlive hlink
  | updateLimits run result =>
      refine h.withLive fun c hc hlive => h.setBuried fun _ row hrow => ?_
      rw [syncLocalVpnClientAfterRemoteUpdate, if_pos hrow.isDeleted]
      exact ⟨hrow, rfl⟩
  | setEnabled run result enabled =>
      refine h.withLive fun c hc hlive => h.setBuried fun _ row hrow => ?_
      rw [syncLocalEnabledState, if_pos hrow.isDeleted]
      exact ⟨hrow, rfl⟩
  | approval part signals =>
      have hshop : Quiet k owner done none ({ d.shop with signals := signals } : Shop).db := h
      exact hshop.approval ha

/-! ## Runs -/

/-- The renewals of a client that are completed. -/
def completedRenewals (k : ℕ) (db : Db) : Set ℕ :=
  {j | ∃ o ∈ db.orders.rows, o.pk = j ∧ Renews k o ∧ o.status = .completed}

/-- A client that some run has just deleted. -/
theorem quiet_after_delete {d : Desk} {run : ℕ} {c : VPNClient} (hheld : d.held run = some c)
    (hlive : c.isDeleted = false) (hrow : (d.shop.db.clients.get? c.pk).isSome) :
    ∃ owner, Quiet c.pk owner
      (completedRenewals c.pk (d.step delivery (.delete run)).shop.db) none
      (d.step delivery (.delete run)).shop.db := by
  obtain ⟨row, hget⟩ := Option.isSome_iff_exists.mp hrow
  have hclient : (d.step delivery (.delete run)).shop.db.clients.get? c.pk = some (markDeleted row) := by
    have hmarked : (d.shop.db.setClient c.pk markDeleted fun _ => rfl).clients.get? c.pk =
        some (markDeleted row) := by
      refine (Table.get?_modify d.shop.db.clients c.pk c.pk markDeleted fun _ => rfl).trans ?_
      rw [hget, Option.map_some, if_pos rfl]
    have hmark : markLocalVpnClientDeleted c.pk d.shop.db =
        some (row.order.elim (d.shop.db.setClient c.pk markDeleted fun _ => rfl) fun o =>
          (d.shop.db.setClient c.pk markDeleted fun _ => rfl).setOrder o
            (clearClientLinks row) fun _ => rfl) := by
      rw [markLocalVpnClientDeleted, hget, Option.map_some]
      dsimp only
      cases row.order <;> rfl
    simp only [Desk.step, Desk.withLive, Desk.withHeld, hheld, hlive, hmark]
    cases row.order <;> exact hmarked
  refine ⟨row.order, ⟨_, hclient, buried_markDeleted row, rfl⟩, ?_, fun _ _ hm => by cases hm⟩
  exact fun o ho hr hcompleted => ⟨o, ho, rfl, hr, hcompleted⟩

/-- After the deletion of a client, in every run whose steps are all settled, its row is deleted
and without links, and no renewal of it is completed. -/
theorem deleted_service_stays_deleted (d : Desk) (r : ℕ) (c : VPNClient) (steps : List DeskStep)
    (hheld : d.held r = some c) (hlive : c.isDeleted = false)
    (hrow : (d.shop.db.clients.get? c.pk).isSome)
    (hsteps : Guarded (Desk.step (shopDelivery platform routing assignAsset))
      (Settled (shopDelivery platform routing assignAsset) c.pk)
      (d.step (shopDelivery platform routing assignAsset) (.delete r)) steps) :
    let deleted := d.step (shopDelivery platform routing assignAsset) (.delete r)
    let later := run (Desk.step (shopDelivery platform routing assignAsset)) deleted steps
    (∃ row, later.shop.db.clients.get? c.pk = some row ∧ Buried row) ∧
      completedRenewals c.pk later.shop.db ⊆ completedRenewals c.pk deleted.shop.db := by
  intro deleted later
  obtain ⟨owner, hquiet⟩ := @quiet_after_delete (shopDelivery platform routing assignAsset) d r c
    hheld hlive hrow
  have hlater : Quiet c.pk owner (completedRenewals c.pk deleted.shop.db) none later.shop.db := by
    refine @Guarded.invariant _ _ _ _ (fun e : Desk =>
      Quiet c.pk owner (completedRenewals c.pk deleted.shop.db) none e.shop.db) ?_ _ _ hsteps hquiet
    exact fun e a he ha => he.step ha
  obtain ⟨row, hget, hburied, -⟩ := hlater.client
  refine ⟨⟨row, hget, hburied⟩, ?_⟩
  rintro j ⟨o, ho, rfl, hr, hcompleted⟩
  exact hlater.renewals o ho hr hcompleted

/-! ## A late synchronisation -/

/-- A shop whose deliveries need no names and choose no inbound. -/
def deskDelivery : Delivery :=
  shopDelivery (.ofTables [] []) ⟨fun _ _ _ => .ok none⟩ fun _ _ _ => return none

/-- Two runs have read client 7, which has an open renewal. -/
def sharedDesk : Desk := run (Desk.step deskDelivery) { shop := renewalShop } [.read 0 7, .read 1 7]

/-- The client is deleted in the shop and on its panel; its renewal is approved afterwards, and a
statistics run finds the panel out of reach. -/
def settledSteps : List DeskStep :=
  [.panel {}, .approval (.claim 0 1) [], .approval (.attempt 0 none .manual 1) [],
    .sync 0 { panelAvailable := false }]

theorem deleted_service_stays_deleted_unrenewed :
    (∃ row, (run (Desk.step deskDelivery) (sharedDesk.step deskDelivery (.delete 1))
        settledSteps).shop.db.clients.get? 7 = some row ∧ Buried row) ∧
      completedRenewals 7 (run (Desk.step deskDelivery) (sharedDesk.step deskDelivery (.delete 1))
        settledSteps).shop.db ⊆
        completedRenewals 7 (sharedDesk.step deskDelivery (.delete 1)).shop.db := by
  have hheld : (sharedDesk.held 1).map (·.pk) = some 7 := by decide +kernel
  obtain ⟨c, hc, hpk⟩ := Option.map_eq_some_iff.mp hheld
  have hlive : (sharedDesk.held 1).map (·.isDeleted) = some false := by decide +kernel
  rw [hc] at hlive
  have hrow : (sharedDesk.shop.db.clients.get? 7).isSome := by decide +kernel
  rw [← hpk] at hrow ⊢
  refine deleted_service_stays_deleted sharedDesk 1 c settledSteps hc (Option.some.inj hlive) hrow ?_
  rw [hpk]
  refine ⟨trivial, trivial, ?_, ?_, trivial⟩
  · intro o c ho hc _
    have hrenewal : ((run (Desk.step deskDelivery) (sharedDesk.step deskDelivery (.delete 1))
        [.panel {}, .approval (.claim 0 1) []]).shop.db.orders.get? 1).map orderIsRenewal =
          some true := by decide +kernel
    have hremote : (run (Desk.step deskDelivery) (sharedDesk.step deskDelivery (.delete 1))
        [.panel {}, .approval (.claim 0 1) []]).shop.remote = {} := by decide +kernel
    refine ⟨fun _ => .inr fun i _ => ?_, fun hplain => ?_⟩
    · exact congrArg (findServiceClient · i c) hremote
    · have ho' := congrArg (Option.map orderIsRenewal) ho
      rw [Option.map_some, hplain] at ho'
      exact absurd (hrenewal.symm.trans ho') (by decide)
  · exact fun c _ _ => .inr (.inr (by simp))

/-- Statistics that were asked for before the deletion are saved after it, and the client is
active again. -/
theorem deleted_service_active_again :
    ¬ ∀ (platform : Platform) (routing : Routing)
        (assignAsset : Instant → ℕ → ℕ → ShopM (Option String)) (d : Desk) (r : ℕ) (c : VPNClient)
        (steps : List DeskStep), d.held r = some c → c.isDeleted = false →
      (d.shop.db.clients.get? c.pk).isSome →
        let step := Desk.step (shopDelivery platform routing assignAsset)
        let later := run step (step d (.delete r)) steps
        (∃ row, later.shop.db.clients.get? c.pk = some row ∧ Buried row) ∧
          completedRenewals c.pk later.shop.db ⊆
            completedRenewals c.pk (step d (.delete r)).shop.db := by
  intro h
  have hheld : (sharedDesk.held 1).map (·.pk) = some 7 := by decide +kernel
  obtain ⟨c, hc, hpk⟩ := Option.map_eq_some_iff.mp hheld
  have hlive : (sharedDesk.held 1).map (·.isDeleted) = some false := by decide +kernel
  rw [hc] at hlive
  have hrow : (sharedDesk.shop.db.clients.get? 7).isSome := by decide +kernel
  obtain ⟨⟨row, hget, hburied⟩, -⟩ := h (.ofTables [] []) ⟨fun _ _ _ => .ok none⟩
    (fun _ _ _ => return none) sharedDesk 1 c [.sync 0 { isEnabled := true }] hc
    (Option.some.inj hlive) (by rw [hpk]; exact hrow)
  have hstatus : ((run (Desk.step deskDelivery) (sharedDesk.step deskDelivery (.delete 1))
      [.sync 0 { isEnabled := true }]).shop.db.clients.get? 7).map (·.status) = some .active := by
    decide +kernel
  rw [hpk] at hget
  have hget' := congrArg (Option.map (·.status)) hget
  rw [Option.map_some, hburied.status] at hget'
  exact absurd (hstatus.symm.trans hget') (by decide)

end Qasedak.Services
