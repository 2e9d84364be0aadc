import Qasedak.Orders.ProgrammeFrames

/-! What every delivery of the shop makes of its order, in the eyes of the referral
programme: a delivery that fails completes nothing. -/

namespace Qasedak.Orders

open Foundation Store Panels Prog

/-- A delivery changed no order but its own; where it failed, it did not complete it. -/
structure Delivered (k : ℕ) (ok : Bool) (s s' : Shop) : Prop where
  alters : Programme.Alters k s.db.programme s'.db.programme
  done : ok = false → s'.db.programme.Done k → s.db.programme.Done k
  reviews : s'.db.automations = s.db.automations
  calm : Calm s.signals → Calm s'.signals

variable {platform : Platform} {routing : Routing} {now : Instant} {actor : Option ℕ} {k : ℕ}
  {ok : Bool} {s s' s₀ : Shop}

theorem Delivered.refl (k : ℕ) (ok : Bool) (s : Shop) : Delivered k ok s s :=
  ⟨.refl k _, fun _ h => h, rfl, id⟩

theorem Delivered.trans (h : Delivered k false s₀ s) (h' : Delivered k ok s s') :
    Delivered k ok s₀ s' :=
  ⟨h.alters.trans h'.alters, fun hok hdone => h.done rfl (h'.done hok hdone),
    h'.reviews.trans h.reviews, fun hcalm => h'.calm (h.calm hcalm)⟩

theorem Delivered.of_failed (h : Delivered k false s₀ s) : Delivered k ok s₀ s :=
  ⟨h.alters, fun _ => h.done rfl, h.reviews, h.calm⟩

theorem Delivered.of_kept (h : Kept Db.books s s') : Delivered k ok s s' := by
  have hprogramme : s'.db.programme = s.db.programme := congrArg Prod.fst h.view
  refine ⟨?_, fun _ hdone => ?_, congrArg Prod.snd h.view, h.calm⟩
  · rw [hprogramme]
    exact .refl k _
  · rwa [← hprogramme]

theorem Delivered.wp_keeps {α : Type} {q : ShopM α} (h : Delivered k false s₀ s)
    (hq : Keeps Db.books q) :
    wp q (fun _ s' => Delivered k false s₀ s') (fun _ _ => True) s :=
  wp_mono (hq s) (fun _ _ hkept => h.trans (.of_kept hkept)) fun _ _ _ => trivial

/-! ## The order's own row -/

/-- The change of an order that stays with its customer and its store. -/
theorem alters_setOrder {db : Db} {f : Order → Order} {hf : ∀ o, (f o).pk = o.pk}
    (h : ∀ o, (f o).customer = o.customer ∧ (f o).store = o.store) :
    Programme.Alters k db.programme (db.setOrder k f hf).programme where
  orders y hy := by
    obtain ⟨o', ho', rfl⟩ := List.mem_map.mp hy
    obtain ⟨o, ho, rfl⟩ := List.mem_map.mp ho'
    refine ⟨orderStanding o, List.mem_map_of_mem ho, ?_⟩
    by_cases hk : o.pk = k
    · rw [if_pos hk]
      exact ⟨hf o, (h o).1, (h o).2, fun hne => absurd hk hne⟩
    · rw [if_neg hk]
      exact ⟨rfl, rfl, rfl, fun _ => rfl⟩
  awaits := rfl
  customers := rfl
  stores := rfl
  ledgers := rfl

theorem done_setOrder {db : Db} {f : Order → Order} {hf : ∀ o, (f o).pk = o.pk}
    (h : ∀ o, (f o).status = .completed → o.status = .completed)
    (hdone : (db.setOrder k f hf).programme.Done k) : db.programme.Done k := by
  obtain ⟨y, hy, hyk, hcompleted⟩ := hdone
  obtain ⟨o', ho', rfl⟩ := List.mem_map.mp hy
  obtain ⟨o, ho, rfl⟩ := List.mem_map.mp ho'
  by_cases hk : o.pk = k
  · rw [if_pos hk] at hcompleted
    exact ⟨orderStanding o, List.mem_map_of_mem ho, hk,
      decide_eq_true (h o (of_decide_eq_true hcompleted))⟩
  · rw [if_neg hk] at hyk
    exact absurd hyk hk

theorem save_status_completed {o : Order} (h : (o.save now).status = .completed) :
    o.status = .completed := by
  rw [Order.save_status] at h
  split at h
  · cases h
  · exact h

/-- A save that may complete the order. -/
theorem Delivered.wp_saveOrder {f : Order → Order} {hf : ∀ o, (f o).pk = o.pk}
    (h : Delivered k false s₀ s) (hf' : ∀ o, (f o).customer = o.customer ∧ (f o).store = o.store) :
    wp (saveOrder now k f hf) (fun _ s' => Delivered k true s₀ s') (fun _ _ => True) s := by
  unfold saveOrder
  rw [wp_writeDb]
  exact h.trans ⟨alters_setOrder hf', (fun hok => by cases hok), rfl, id⟩

/-- A save that does not complete it. -/
theorem Delivered.wp_saveOrder_open {f : Order → Order} {hf : ∀ o, (f o).pk = o.pk}
    (h : Delivered k false s₀ s) (hf' : ∀ o, (f o).customer = o.customer ∧ (f o).store = o.store)
    (hopen : ∀ o, (f o).status = .completed → o.status = .completed) :
    wp (saveOrder now k f hf) (fun _ s' => Delivered k false s₀ s') (fun _ _ => True) s := by
  unfold saveOrder
  rw [wp_writeDb]
  refine h.trans ⟨alters_setOrder hf', fun _ hdone => ?_, rfl, id⟩
  exact done_setOrder (fun o ho => hopen o (save_status_completed ho)) hdone

/-! ## Modern panels -/

theorem finishFailed_open {status : OrderStatus}
    (h : (if status = .completed then .completed else .confirmed : OrderStatus) = .completed) :
    status = .completed := by
  by_contra hs
  rw [if_neg hs] at h
  cases h

theorem Delivered.wp_provideClients {pasarguard : Bool} {indices : List ℕ} {ensure : ℕ → ShopM ClientResult}
    {record : ℕ → ClientResult → ShopM (ℕ × Bool)} (h : Delivered k false s₀ s)
    (hensure : ∀ j, Keeps Db.books (ensure j))
    (hrecord : ∀ j a, Keeps Db.books (record j a)) :
    wp (provideClients now actor k pasarguard indices ensure record)
      (fun r s' => Delivered k r.ok s₀ s') (fun _ _ => True) s := by
  unfold provideClients
  rw [wp_bind]
  refine wp_mono (h.wp_keeps (keepsBooks_ensureAll hensure hrecord).caught) ?_
    fun _ _ h => h
  intro outcome s₁ h₁
  cases outcome with
  | error e =>
      rw [wp_bind]
      exact wp_mono (h₁.wp_saveOrder_open (f := finishFailedModern e) (fun _ => ⟨rfl, rfl⟩)
        fun _ ho => finishFailed_open ho) (fun _ _ h₂ => h₂) fun _ _ h => h
  | ok rows =>
      simp only [wp_bind, wp_readDb]
      exact wp_mono (h₁.wp_saveOrder fun _ => ⟨rfl, rfl⟩) (fun _ _ h₂ => h₂) fun _ _ h => h

theorem Delivered.wp_activateXuiOrder {inbounds : List Inbound} {inbound : Inbound} {p : Panel}
    (h : Delivered k false s₀ s) :
    wp (activateXuiOrder platform now actor k inbounds inbound p)
      (fun r s' => Delivered k r.ok s₀ s') (fun _ _ => True) s := by
  unfold activateXuiOrder
  rw [wp_bind]
  refine wp_mono (h.wp_keeps keepsBooks_getOrder) (fun unsaved s₁ h₁ => ?_) fun _ _ h => h
  rw [wp_bind]
  refine wp_mono (h₁.wp_saveOrder_open (f := beginModern inbounds inbound _)
    (fun _ => ⟨rfl, rfl⟩) fun _ ho => by cases ho) (fun _ s₂ h₂ => ?_) fun _ _ h => h
  rw [wp_bind]
  refine wp_mono (h₂.wp_keeps keepsBooks_getOrder) (fun o s₃ h₃ => ?_) fun _ _ h => h
  simp only [wp_bind, wp_readDb]
  refine wp_mono (h₃.wp_keeps keepsBooks_getPlan) (fun plan s₄ h₄ => ?_) fun _ _ h => h
  refine Delivered.wp_provideClients h₄ (fun index => Keeps.ite ?_ ?_) fun _ _ => ?_
  · exact keepsBooks_ensureBundleClient
  · exact keepsBooks_of_id keeps_ensureClient
  · exact keepsBooks_of_services keeps_upsertLocalClient

theorem Delivered.wp_activatePasarguardOrder {inbounds : List Inbound} {inbound : Inbound} {p : Panel}
    (h : Delivered k false s₀ s) :
    wp (activatePasarguardOrder platform now actor k inbounds inbound p)
      (fun r s' => Delivered k r.ok s₀ s') (fun _ _ => True) s := by
  unfold activatePasarguardOrder
  rw [wp_bind]
  refine wp_mono (h.wp_saveOrder_open (f := beginModern inbounds inbound _)
    (fun _ => ⟨rfl, rfl⟩) fun _ ho => by cases ho) (fun _ s₁ h₁ => ?_) fun _ _ h => h
  rw [wp_bind]
  refine wp_mono (h₁.wp_keeps keepsBooks_getOrder) (fun o s₂ h₂ => ?_) fun _ _ h => h
  simp only [wp_bind, wp_readDb]
  refine wp_mono (h₂.wp_keeps keepsBooks_getPlan) (fun plan s₃ h₃ => ?_) fun _ _ h => h
  refine Delivered.wp_provideClients h₃ (fun index => ?_) fun _ _ => ?_
  · exact keepsBooks_ensureUser
  · exact keepsBooks_of_services keeps_recordUser

theorem Delivered.wp_activateModernOrder (h : Delivered k false s₀ s) :
    wp (activateModernOrder platform now actor k) (fun r s' => Delivered k r.ok s₀ s')
      (fun _ _ => True) s := by
  unfold activateModernOrder
  rw [wp_bind]
  refine wp_mono (h.wp_keeps keepsBooks_getOrder) (fun o s₁ h₁ => ?_) fun _ _ h => h
  simp only [wp_bind, wp_readDb, id_eq]
  split
  case h_1 e _ =>
      rw [wp_bind]
      exact wp_mono (h₁.wp_saveOrder_open (f := finishFailedModern e) (fun _ => ⟨rfl, rfl⟩)
        fun _ ho => finishFailed_open ho) (fun _ _ h₂ => h₂) fun _ _ h => h
  case h_2 =>
  split
  case h_1 => exact h₁
  case h_2 =>
  split
  · exact Delivered.wp_activatePasarguardOrder h₁
  · exact Delivered.wp_activateXuiOrder h₁

/-! ## Sources of a plan -/

theorem Delivered.wp_finishPlanDelivery {config : DeliveryConfig} {results : List SourceResult}
    (h : Delivered k false s₀ s) :
    wp (finishPlanDelivery platform now actor k config results)
      (fun r s' => Delivered k r.ok s₀ s') (fun _ _ => True) s := by
  unfold finishPlanDelivery
  dsimp only
  split
  · rw [wp_bind]
    exact wp_mono (h.wp_saveOrder_open (f := finishFailedDelivery _) (fun _ => ⟨rfl, rfl⟩)
      fun _ ho => finishFailed_open ho) (fun _ _ h₁ => h₁) fun _ _ h => h
  · rw [wp_bind]
    refine wp_mono (h.wp_keeps keepsBooks_customerLinks) (fun _ s₁ h₁ => ?_) fun _ _ h => h
    simp only [wp_bind, wp_readDb]
    exact wp_mono (h₁.wp_saveOrder fun _ => ⟨rfl, rfl⟩) (fun _ _ h₂ => h₂) fun _ _ h => h

theorem Delivered.wp_executePlanDelivery {config : DeliveryConfig} (h : Delivered k false s₀ s) :
    wp (executePlanDelivery platform now actor k config) (fun r s' => Delivered k r.ok s₀ s')
      (fun _ _ => True) s := by
  unfold executePlanDelivery
  simp only [wp_atomic, wp_bind, wp_readDb, id_eq]
  split
  · rw [wp_bind]
    exact wp_mono (h.wp_saveOrder_open (f := finishFailedDelivery _) (fun _ => ⟨rfl, rfl⟩)
      fun _ ho => finishFailed_open ho) (fun _ _ h₁ => h₁) fun _ _ h => h
  · rw [wp_bind]
    refine wp_mono (h.wp_saveOrder_open (f := markOrderProvisioning) (fun _ => ⟨rfl, rfl⟩)
      fun _ ho => finishFailed_open ho) (fun _ s₁ h₁ => ?_) fun _ _ h => h
    rw [wp_bind]
    refine wp_mono (h₁.wp_keeps keepsBooks_getOrder) (fun o s₂ h₂ => ?_) fun _ _ h => h
    rw [wp_bind]
    refine wp_mono (h₂.wp_keeps keepsBooks_executeConfiguredSources) (fun results s₃ h₃ => ?_)
      fun _ _ h => h
    exact Delivered.wp_finishPlanDelivery h₃

/-! ## Recipes -/

theorem finishRecipe_open {safeError : String} {results : List RuleResult} {o : Order}
    (h : (finishRecipe now actor false safeError results o).status = .completed) :
    o.status = .completed := by
  by_contra ho
  simp [finishRecipe, ho] at h

theorem Delivered.wp_finishRecipe {safeError : String} {results : List RuleResult}
    (h : Delivered k false s₀ s) (delivers : Bool) :
    wp (saveOrder now k (finishRecipe now actor delivers safeError results)
      (finishRecipe_pk now actor delivers safeError results))
      (fun _ s' => Delivered k delivers s₀ s') (fun _ _ => True) s := by
  cases delivers with
  | true => exact h.wp_saveOrder fun _ => ⟨rfl, rfl⟩
  | false => exact h.wp_saveOrder_open (fun _ => ⟨rfl, rfl⟩) fun _ => finishRecipe_open

theorem Delivered.wp_fulfillOrderWithRecipe {recipe : Recipe} (h : Delivered k false s₀ s) :
    wp (fulfillOrderWithRecipe platform now actor k recipe) (fun r s' => Delivered k r.ok s₀ s')
      (fun _ _ => True) s := by
  unfold fulfillOrderWithRecipe
  rw [wp_atomic, wp_bind]
  refine wp_mono (h.wp_saveOrder_open (f := countAttempt) (fun _ => ⟨rfl, rfl⟩) fun _ ho => ho)
    (fun _ s₁ h₁ => ?_) fun _ _ h => h
  rw [wp_bind]
  refine wp_mono (h₁.wp_keeps keepsBooks_getOrder) (fun o s₂ h₂ => ?_) fun _ _ h => h
  rw [wp_bind]
  refine wp_mono (h₂.wp_keeps keepsBooks_createOrReuseOrderCup) (fun cup s₃ h₃ => ?_) fun _ _ h => h
  simp only [wp_bind, wp_readDb]
  refine wp_mono (h₃.wp_keeps keepsBooks_runRules) (fun results s₄ h₄ => ?_) fun _ _ h => h
  refine wp_mono (h₄.wp_finishRecipe (recipeDelivers recipe.failurePolicy results))
    (fun _ s₅ h₅ => ?_) fun _ _ h => h
  have h₆ : Delivered k (recipeDelivers recipe.failurePolicy results) s₀
      { s₅ with db := s₅.db.adoptAllocations k cup } := ⟨h₅.alters, h₅.done, h₅.reviews, h₅.calm⟩
  cases hdelivers : recipeDelivers recipe.failurePolicy results with
  | true => simpa [hdelivers, recipeSuccess] using h₆
  | false => simpa [hdelivers, recipeFailure] using h₆

/-! ## Legacy panels -/

theorem finishLegacy_same (primary : Option VPNClient) (inbound : Option Inbound) (o : Order) :
    (finishLegacy now actor primary inbound o).customer = o.customer ∧
      (finishLegacy now actor primary inbound o).store = o.store := by
  cases primary <;> exact ⟨rfl, rfl⟩

theorem Delivered.wp_enableOrder (h : Delivered k false s₀ s) :
    wp (enableOrder now actor k) (fun r s' => Delivered k r.ok s₀ s') (fun _ _ => True) s := by
  unfold enableOrder
  rw [wp_bind]
  refine wp_mono (h.wp_keeps keepsBooks_getOrder) (fun o s₁ h₁ => ?_) fun _ _ h => h
  rw [wp_bind]
  refine wp_mono (h₁.wp_keeps keepsBooks_getPlan) (fun plan s₂ h₂ => ?_) fun _ _ h => h
  simp only [wp_bind, wp_readDb]
  split
  · exact h₂
  rw [wp_bind]
  refine wp_mono (h₂.wp_keeps keepsBooks_enableClients) (fun failure s₃ h₃ => ?_)
    fun _ _ h => h
  cases failure with
  | some failure => exact h₃.of_failed
  | none =>
      simp only [wp_bind]
      exact wp_mono (h₃.wp_saveOrder (finishLegacy_same _ _)) (fun _ _ h₄ => h₄) fun _ _ h => h

theorem Delivered.wp_activateLegacyOrder (h : Delivered k false s₀ s) :
    wp (activateLegacyOrder platform routing now actor k) (fun r s' => Delivered k r.ok s₀ s')
      (fun _ _ => True) s := by
  unfold activateLegacyOrder
  rw [wp_bind]
  refine wp_mono (h.wp_keeps (keepsBooks_saveOrder fun _ => rfl)) (fun _ s₁ h₁ => ?_)
    fun _ _ h => h
  rw [wp_bind]
  refine wp_mono (h₁.wp_keeps keepsBooks_getOrder) (fun o s₂ h₂ => ?_) fun _ _ h => h
  rw [wp_bind]
  refine wp_mono (h₂.wp_keeps keepsBooks_getPlan) (fun plan s₃ h₃ => ?_) fun _ _ h => h
  rw [wp_bind]
  refine wp_mono (h₃.wp_keeps keepsBooks_ensureLegacyOrderClient) (fun _ s₄ h₄ => ?_)
    fun _ _ h => h
  simp only [wp_bind, wp_readDb]
  split
  · exact Delivered.wp_enableOrder h₄
  rw [wp_bind]
  refine wp_mono (h₄.wp_keeps keepsBooks_provisionMissingPanelClient)
    (fun provisioned s₅ h₅ => ?_) fun _ _ h => h
  split
  · exact Delivered.wp_enableOrder h₅
  · exact h₅

/-! ## The delivery of an order -/

/-- `_approve_and_provision_order` with any strategy but the renewal. -/
theorem Delivered.wp_deliverOrder :
    wp (deliverOrder platform routing now actor k) (fun r s' => Delivered k r.ok s s')
      (fun _ _ => True) s := by
  unfold deliverOrder
  rw [wp_bind]
  refine wp_mono ((Delivered.refl k false s).wp_keeps keepsBooks_getOrder)
    (fun o s₁ h₁ => ?_) fun _ _ h => h
  simp only [wp_bind, wp_readDb, id_eq]
  split
  · exact Delivered.wp_executePlanDelivery h₁
  · exact Delivered.wp_fulfillOrderWithRecipe h₁
  · exact Delivered.wp_activateModernOrder h₁
  · exact Delivered.wp_activateLegacyOrder h₁

theorem Delivered.wp_activateRenewalOrder (h : Delivered k false s₀ s) :
    wp (activateRenewalOrder now actor k) (fun r s' => Delivered k r.ok s₀ s')
      (fun _ _ => True) s := by
  unfold activateRenewalOrder
  rw [wp_bind]
  refine wp_mono (h.wp_keeps keepsBooks_getOrder) (fun o s₁ h₁ => ?_) fun _ _ h => h
  simp only [wp_bind, wp_readDb, id_eq]
  split
  · exact h₁
  split
  · exact h₁
  split
  · exact h₁
  split
  · exact h₁
  rw [wp_bind]
  refine wp_mono (h₁.wp_keeps keepsBooks_getPlan) (fun plan s₂ h₂ => ?_) fun _ _ h => h
  rw [wp_bind]
  refine wp_mono (h₂.wp_keeps keepsBooks_renewClient) (fun renewed s₃ h₃ => ?_)
    fun _ _ h => h
  cases renewed with
  | error e => exact h₃
  | ok expiry =>
      simp only [wp_bind]
      refine wp_mono (h₃.wp_saveOrder (f := (·.markPaymentVerified actor now))
        fun _ => ⟨rfl, rfl⟩) (fun _ s₄ h₄ => ?_) fun _ _ h => h
      exact ⟨h₄.alters, (fun hok => by cases hok), h₄.reviews, h₄.calm⟩

/-- The renewal strategy. -/
theorem Delivered.wp_activateRenewalOrderLocked :
    wp (activateRenewalOrderLocked now actor k) (fun r s' => Delivered k r.ok s s')
      (fun _ _ => True) s := by
  unfold activateRenewalOrderLocked
  rw [wp_bind]
  refine wp_mono ((Delivered.refl k false s).wp_keeps (keepsBooks_saveOrder fun _ => rfl))
    (fun _ s₁ h₁ => ?_) fun _ _ h => h
  rw [wp_bind]
  refine wp_mono (Delivered.wp_activateRenewalOrder h₁) (fun r s₂ h₂ => ?_) fun _ _ h => h
  cases hok : r.ok with
  | false =>
      rw [if_neg (by simp)]
      exact h₂
  | true =>
      rw [if_pos rfl, wp_bind]
      have hsave : Keeps Db.books (saveOrder now k (markProvisioned now)
        (markProvisioned_pk now)) := keepsBooks_saveOrder fun _ => rfl
      refine wp_mono (hsave s₂) (fun _ s₃ hkept => ?_) fun _ _ _ => trivial
      have hrest : Delivered k true s₂ s₃ := .of_kept hkept
      refine ⟨h₂.alters.trans hrest.alters, fun hfailed => ?_, hrest.reviews.trans h₂.reviews,
        fun hcalm => hrest.calm (h₂.calm hcalm)⟩
      rw [hok] at hfailed
      cases hfailed

end Qasedak.Orders
