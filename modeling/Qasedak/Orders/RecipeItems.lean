import Qasedak.Orders.CupFulfillment
import Qasedak.Orders.ServiceFrames
import Qasedak.Orders.TopUp

/-! What one rule of a recipe puts into the cup of an order: the items that its result counts,
one for each of its allocations where it draws on a pool. -/

namespace Qasedak.Orders

open Foundation Store Panels

/-! ## Cups -/

/-- The items of the order's own cup. -/
def cupItems (db : Db) (order : ℕ) : List CupItem := ((orderCup db order).map (·.items)).getD []

/-- The key of the cup that the order has, or of the one that it would get. -/
def cupKey (db : Db) (order : ℕ) : ℕ := ((orderCup db order).map (·.pk)).getD db.cups.nextKey

/-- The active items that a rule put in. -/
def activeItems (items : List CupItem) (rule : ℕ) : List CupItem :=
  items.filter fun item => item.isActive ∧ item.rule = some rule

/-- The active allocations that a rule made for a cup. -/
def cupAllocations (db : Db) (cup rule : ℕ) : List ConfigAllocation :=
  db.allocations.rows.filter fun a => a.cup = some cup ∧ a.recipeRule = some rule ∧ a.isActive

/-- The item of a link. -/
def ruleItem (rule : ℕ) (link : DeliveredLink) : CupItem where
  link := link.rawLink
  rule := some rule
  allocation := link.allocation

variable {platform : Platform} {now : Instant} {k cup : ℕ} {o : Order} {rule : FillerRule}
  {c : Cup} {s : Shop}

theorem activeItems_append (items items' : List CupItem) (j : ℕ) :
    activeItems (items ++ items') j = activeItems items j ++ activeItems items' j :=
  List.filter_append ..

/-- The items of a rule are active, and no other rule's. -/
theorem activeItems_ruleItems (r : ℕ) (links : List DeliveredLink) (j : ℕ) :
    activeItems (links.map (ruleItem r)) j = if j = r then links.map (ruleItem r) else [] := by
  by_cases hj : j = r
  · rw [if_pos hj]
    refine List.filter_eq_self.mpr fun item hitem => ?_
    obtain ⟨link, -, rfl⟩ := List.mem_map.mp hitem
    simp [ruleItem, hj]
  · rw [if_neg hj]
    refine List.filter_eq_nil_iff.mpr fun item hitem => ?_
    obtain ⟨link, -, rfl⟩ := List.mem_map.mp hitem
    simp [ruleItem, Ne.symm hj]

theorem orderCup_setCup {db : Db} {f : Cup → Cup} (hf : ∀ c, (f c).pk = c.pk)
    (hkeep : ∀ c, (f c).order = c.order ∧ (f c).vpnClient = c.vpnClient)
    (hcup : orderCup db k = some c) : orderCup (db.setCup c.pk f hf) k = some (f c) := by
  have hrows : (db.setCup c.pk f hf).cups.rows =
      db.cups.rows.map fun r => if r.pk = c.pk then f r else r := rfl
  rw [orderCup, hrows, List.find?_map]
  have hsame : ((fun r : Cup => decide (r.order = some k ∧ r.vpnClient = none)) ∘
      fun r => if r.pk = c.pk then f r else r) =
        fun r => decide (r.order = some k ∧ r.vpnClient = none) := by
    funext r
    rw [Function.comp]
    split
    · rw [(hkeep r).1, (hkeep r).2]
    · rfl
  rw [hsame, ← orderCup, hcup, Option.map_some, if_pos rfl]

/-- The database after items were added to the cup of the order. -/
structure Fills (k : ℕ) (c : Cup) (db db' : Db) (items : List CupItem) : Prop where
  frame : db' = { db with cups := db'.cups }
  cup : orderCup db' k = some { c with items := c.items ++ items }

theorem Fills.refl {db : Db} (h : orderCup db k = some c) : Fills k c db db [] :=
  ⟨rfl, by rw [List.append_nil, h]⟩

theorem wp_addCupItems {links done : List DeliveredLink} {r count : ℕ} {db : Db}
    (h : Fills k c db s.db (done.map (ruleItem r))) :
    Prog.wp (addCupItems c.pk r links count)
      (fun n s' => n = count + links.length ∧ Fills k c db s'.db ((done ++ links).map (ruleItem r)))
      (fun _ _ => False) s := by
  induction links generalizing s done count with
  | nil =>
      rw [List.append_nil]
      exact ⟨rfl, h⟩
  | cons link links ih =>
      have hnext := orderCup_setCup (addCupItem_pk r link) (fun _ => ⟨rfl, rfl⟩) h.cup
      have hitems : addCupItem r link { c with items := c.items ++ done.map (ruleItem r) } =
          { c with items := c.items ++ (done ++ [link]).map (ruleItem r) } := by
        simp [addCupItem, ruleItem]
      rw [hitems] at hnext
      have hfills : Fills k c db (s.db.setCup c.pk (addCupItem r link) (addCupItem_pk r link))
          ((done ++ [link]).map (ruleItem r)) := by
        refine ⟨?_, hnext⟩
        rw [h.frame]
        rfl
      rw [addCupItems, Prog.forEach, Prog.wp_bind, Prog.wp_bind, Prog.wp_writeDb, Prog.wp_pure,
        ← addCupItems]
      refine Prog.wp_mono (ih hfills) ?_ fun _ _ h => h
      rintro n s' ⟨hn, hfills'⟩
      rw [List.append_assoc] at hfills'
      exact ⟨by rw [hn, List.length_cons]; omega, hfills'⟩

/-! ## Panel rules -/

variable {p : Panel} {inbounds : List Inbound} {plan : Plan} {identity : ClientIdentity}

theorem keeps_createRuleClient {request : ClientRequest} :
    Prog.Keeps id (createRuleClient platform now p inbounds request) := by
  refine Prog.Keeps.ite ?_ (Prog.Keeps.onError ?_ fun _ => Prog.keeps_raise _)
  · refine keeps_createPasarguardUser.bind fun x => ?_
    obtain ⟨result, links⟩ := x
    exact Prog.keeps_pure _
  · split
    · exact keeps_createEnabledClient.bind fun _ => Prog.keeps_pure _
    · exact keeps_createEnabledMultiInboundClient.bind fun _ => Prog.keeps_pure _

theorem keeps_ruleClientLinks :
    Prog.Keeps id (ruleClientLinks platform now o p inbounds plan identity) := by
  refine Prog.Keeps.ite (Prog.Keeps.bind ?_ fun found => ?_) keeps_createRuleClient
  · exact Prog.Keeps.forEach fun _ _ => keeps_lookupExistingRemoteClient.bind fun _ =>
      Prog.keeps_pure _
  · exact Prog.Keeps.ite (Prog.keeps_pure _) (Prog.Keeps.ite (Prog.keeps_raise _)
      keeps_createRuleClient)

/-- A loop that answers once for each element. -/
theorem wp_forEach_length {α β : Type} {xs : List α} {body : α → List β → ShopM (List β)}
    (hbody : ∀ x acc s, Prog.wp (body x acc) (fun r _ => r.length = acc.length + 1)
      (fun _ _ => True) s) :
    Prog.wp (Prog.forEach xs [] body) (fun r _ => r.length = xs.length) (fun _ _ => True) s := by
  let I : List α → List β → Shop → Prop := fun left acc _ => acc.length + left.length = xs.length
  have hstart : I xs [] s := by simp [I]
  refine Prog.wp_mono (Prog.wp_forEach (I := I) hstart ?_) ?_ fun _ _ h => h
  · intro x left acc s' hlength
    refine Prog.wp_mono (hbody x acc s') (fun r _ hr => ?_) fun _ _ h => h
    simp only [I, List.length_cons] at hlength ⊢
    omega
  · intro r _ hr
    simpa [I] using hr

/-- The links of a client are not none. -/
theorem wp_createRuleClient {request : ClientRequest} (hinbounds : inbounds ≠ []) :
    Prog.wp (createRuleClient platform now p inbounds request) (fun links _ => links ≠ [])
      (fun _ _ => True) s := by
  unfold createRuleClient
  rw [Prog.wp_ite]
  refine ⟨fun _ => ?_, fun _ => ?_⟩
  · rw [Prog.wp_bind]
    refine Prog.wp_of_forall (fun x s' => ?_) fun _ _ => trivial
    obtain ⟨result, links⟩ := x
    rw [Prog.wp_pure, userLinkEntries]
    split
    · simp [directLinkEntries]
    · assumption
  · rw [Prog.wp_onError]
    refine Prog.wp_mono (X := fun _ _ => True) ?_ (fun _ _ h => h) fun h s' _ => ?_
    · split
      · rw [Prog.wp_bind]
        exact Prog.wp_of_forall (fun _ _ => by simp [directLinkEntries]) fun _ _ => trivial
      · rw [Prog.wp_bind]
        have hresults : Prog.wp (createEnabledMultiInboundClient platform now p inbounds request)
            (fun results _ => results.length = inbounds.length) (fun _ _ => True) s := by
          rw [createEnabledMultiInboundClient, Prog.wp_bind, Prog.wp_readDb, Prog.wp_bind]
          refine Prog.wp_of_forall (fun first s₁ => ?_) fun _ _ => trivial
          rw [Prog.wp_ite]
          refine ⟨fun _ => trivial, fun _ => ?_⟩
          rw [Prog.wp_bind]
          refine Prog.wp_of_forall (fun _ s₂ => ?_) fun _ _ => trivial
          rw [Prog.wp_ite]
          refine ⟨fun _ => trivial, fun _ => ?_⟩
          rw [Prog.wp_bind]
          refine Prog.wp_of_forall (fun _ s₃ => ?_) fun _ _ => trivial
          refine wp_forEach_length fun i results s₄ => ?_
          rw [Prog.wp_bind]
          exact Prog.wp_of_forall (fun _ _ => by simp) fun _ _ => trivial
        refine Prog.wp_mono hresults (fun results s' hlength => ?_) fun _ _ _ => trivial
        rw [Prog.wp_pure]
        intro hnone
        rw [directLinkEntries, List.map_eq_nil_iff] at hnone
        rw [hnone] at hlength
        exact hinbounds (List.length_eq_zero_iff.mp hlength.symm)
    · cases h with
      | crashed => trivial
      | raised e => trivial

theorem wp_ruleClientLinks (hinbounds : inbounds ≠ []) :
    Prog.wp (ruleClientLinks platform now o p inbounds plan identity) (fun links _ => links ≠ [])
      (fun _ _ => True) s := by
  rw [ruleClientLinks, Prog.wp_ite]
  refine ⟨fun _ => ?_, fun _ => wp_createRuleClient hinbounds⟩
  rw [Prog.wp_bind]
  have hfound : Prog.wp (lookupBundle platform p inbounds identity)
      (fun found _ => found.length = inbounds.length) (fun _ _ => True) s := by
    refine wp_forEach_length fun i found s' => ?_
    rw [Prog.wp_bind]
    exact Prog.wp_of_forall (fun _ _ => by simp) fun _ _ => trivial
  refine Prog.wp_mono hfound (fun found s' hlength => ?_) fun _ _ _ => trivial
  rw [Prog.wp_ite]
  refine ⟨fun hall => ?_, fun _ => ?_⟩
  · rw [Prog.wp_pure]
    cases found with
    | nil => exact absurd (List.length_eq_zero_iff.mp hlength.symm) hinbounds
    | cons x found =>
        cases x with
        | none => simp at hall
        | some result => simp [directLinkEntries, List.reduceOption]
  · rw [Prog.wp_ite]
    exact ⟨fun _ => trivial, fun _ => wp_createRuleClient hinbounds⟩

/-- A rule's result says which rule it is of, and succeeds without an error. -/
structure ResultOf (rule : FillerRule) (r : RuleResult) : Prop where
  pk : r.rule = rule.pk
  required : r.required = rule.required
  success : r.success = true ↔ r.errors = []

theorem resultOf_ruleResult (rule : FillerRule) (progress : RuleProgress) :
    ResultOf rule (ruleResult rule progress) := by
  refine ⟨rfl, rfl, ?_⟩
  rw [ruleResult]
  cases progress.error <;> simp

/-- The rule put links into the cup, as many as its result counts, and made the allocations
that they are of. -/
structure PutsIn (k : ℕ) (c : Cup) (rule : FillerRule) (db db' : Db) (r : RuleResult)
    (links : List DeliveredLink) : Prop where
  frame : db' = { db with
    cups := db'.cups
    assets := db'.assets
    allocations := db'.allocations }
  cup : orderCup db' k = some { c with items := c.items ++ links.map (ruleItem rule.pk) }
  count : r.createdLinkCount = links.length
  some_of_success : r.success = true → links ≠ []
  allocations : ∀ n, (cupAllocations db' c.pk n).map (·.pk) =
    (cupAllocations db c.pk n).map (·.pk) ++
      if n = rule.pk then links.filterMap (·.allocation) else []

/-- Links that are of no allocation. -/
theorem PutsIn.of_fills {db db' : Db} {r : RuleResult} {links : List DeliveredLink}
    (h : Fills k c db db' (links.map (ruleItem rule.pk)))
    (hnone : ∀ link ∈ links, link.allocation = none) (hcount : r.createdLinkCount = links.length)
    (hsome : r.success = true → links ≠ []) : PutsIn k c rule db db' r links where
  frame := by rw [h.frame]
  cup := h.cup
  count := hcount
  some_of_success := hsome
  allocations n := by
    have hlinks : links.filterMap (·.allocation) = [] := List.filterMap_eq_nil_iff.mpr hnone
    rw [hlinks, ite_self, List.append_nil, h.frame]
    rfl

/-- One client of a panel rule adds its links, or stops the rule. -/
theorem wp_fillRuleClient {progress : RuleProgress} {links : List DeliveredLink} {db : Db}
    (hinbounds : inbounds ≠ []) (hfills : Fills k c db s.db (links.map (ruleItem rule.pk)))
    (hcount : progress.createdLinkCount = links.length) :
    Prog.wp (fillRuleClient platform now o p inbounds plan c.pk rule identity progress)
      (fun progress' s' => ∃ more : List DeliveredLink, (∀ link ∈ more, link.allocation = none) ∧
        Fills k c db s'.db ((links ++ more).map (ruleItem rule.pk)) ∧
          progress'.createdLinkCount = (links ++ more).length ∧
            (progress'.error = none → more ≠ []))
      (fun _ _ => True) s := by
  have hidle : ∀ (s' : Shop) (progress' : RuleProgress), s'.db = s.db →
      progress'.createdLinkCount = progress.createdLinkCount → progress'.error ≠ none →
        ∃ more : List DeliveredLink, (∀ link ∈ more, link.allocation = none) ∧
          Fills k c db s'.db ((links ++ more).map (ruleItem rule.pk)) ∧
            progress'.createdLinkCount = (links ++ more).length ∧
              (progress'.error = none → more ≠ []) := by
    intro s' progress' hdb hsame herror
    refine ⟨[], by simp, ?_, ?_, fun hnone => absurd hnone herror⟩
    · rw [List.append_nil, hdb]
      exact hfills
    · rw [List.append_nil, hsame, hcount]
  rw [fillRuleClient, Prog.wp_ite]
  refine ⟨fun hstopped => ?_, fun _ => ?_⟩
  · exact hidle s progress rfl rfl (Option.isSome_iff_ne_none.mp hstopped)
  · rw [Prog.wp_bind, Prog.wp_caught]
    refine Prog.wp_mono (Prog.wp_and (keeps_ruleClientLinks s) (wp_ruleClientLinks hinbounds)) ?_ ?_
    · rintro raw s₁ ⟨hkept, hraw⟩
      have hdb : s₁.db = s.db := hkept.view
      dsimp only
      rw [Prog.wp_ite]
      refine ⟨fun _ => hidle s₁ _ hdb rfl (by simp), fun _ => ?_⟩
      rw [Prog.wp_bind, hcount]
      refine Prog.wp_mono (wp_addCupItems (hdb ▸ hfills)) ?_ fun _ _ h => h.elim
      rintro n s₂ ⟨hn, hfills'⟩
      refine ⟨raw.map fun link => { rawLink := link }, ?_, hfills', ?_, fun _ => by simpa using hraw⟩
      · intro link hlink
        obtain ⟨text, -, rfl⟩ := List.mem_map.mp hlink
        rfl
      · rw [List.length_append]
        exact hn
    · rintro h s₁ ⟨⟨hkept, _⟩, _⟩
      cases h with
      | crashed => trivial
      | raised e => exact hidle s₁ _ hkept.view rfl (by simp)

/-- A panel rule adds the items that it counts, of no allocation. -/
theorem wp_createPanelLinksForRule_fills (hcup : orderCup s.db k = some c) :
    Prog.wp (createPanelLinksForRule platform now o c.pk rule)
      (fun r s' => ResultOf rule r ∧ ∃ links : List DeliveredLink,
        (∀ link ∈ links, link.allocation = none) ∧
          Fills k c s.db s'.db (links.map (ruleItem rule.pk)) ∧
            r.createdLinkCount = links.length ∧ (r.success = true → links ≠ []))
      (fun _ _ => True) s := by
  rw [createPanelLinksForRule, Prog.wp_bind, Prog.wp_readDb]
  dsimp only [id]
  cases hcheck : checkPanelRule (rulePanel s.db rule (panelRuleInbounds s.db rule))
      (panelRuleInbounds s.db rule) with
  | error e =>
      refine ⟨resultOf_ruleResult rule _, [], by simp, Fills.refl hcup, rfl, ?_⟩
      simp [ruleResult]
  | ok p =>
      have hinbounds : panelRuleInbounds s.db rule ≠ [] := by
        intro hnone
        rw [hnone] at hcheck
        cases hpanel : rulePanel s.db rule [] <;> simp [hpanel, checkPanelRule] at hcheck
      dsimp only
      rw [Prog.wp_bind, getPlan, Prog.wp_bind, Prog.wp_readDb, Prog.wp_orRaise]
      cases s.db.plans.get? o.plan with
      | none => trivial
      | some plan =>
          dsimp only
          -- What was put in so far; after a client there is something.
          let I : List ℕ → RuleProgress → Shop → Prop := fun left progress s' =>
            ∃ links : List DeliveredLink, (∀ link ∈ links, link.allocation = none) ∧
              Fills k c s.db s'.db (links.map (ruleItem rule.pk)) ∧
                progress.createdLinkCount = links.length ∧
                  (progress.error = none → left.length < max rule.quantity 1 → links ≠ [])
          have hstart : I (List.range' 1 (max rule.quantity 1)) {} s := by
            refine ⟨[], by simp, Fills.refl hcup, rfl, fun _ hlt => ?_⟩
            rw [List.length_range'] at hlt
            exact absurd hlt (lt_irrefl _)
          rw [Prog.wp_bind]
          refine Prog.wp_mono (Prog.wp_forEach (I := I) (X := fun _ _ => True) hstart ?_) ?_
            fun _ _ h => h
          · rintro index left progress s' ⟨links, hnone, hfills, hcount, _⟩
            refine Prog.wp_mono (wp_fillRuleClient hinbounds hfills hcount) ?_ fun _ _ h => h
            rintro progress' s'' ⟨more, hmore, hfills', hcount', hsome⟩
            refine ⟨links ++ more, ?_, hfills', hcount', fun herror _ => ?_⟩
            · intro link hlink
              exact (List.mem_append.mp hlink).elim (hnone link) (hmore link)
            · exact fun hnil => hsome herror (List.append_eq_nil_iff.mp hnil).2
          · rintro progress s' ⟨links, hnone, hfills, hcount, hsome⟩
            refine ⟨resultOf_ruleResult rule progress, links, hnone, hfills, hcount,
              fun hsuccess => ?_⟩
            refine hsome ?_ (by simp)
            rw [ruleResult] at hsuccess
            exact Option.isNone_iff_eq_none.mp hsuccess

/-- A panel rule puts in what it counts. -/
theorem wp_createPanelLinksForRule (hcup : orderCup s.db k = some c) :
    Prog.wp (createPanelLinksForRule platform now o c.pk rule)
      (fun r s' => ResultOf rule r ∧ ∃ links, PutsIn k c rule s.db s'.db r links)
      (fun _ _ => True) s := by
  refine Prog.wp_mono (wp_createPanelLinksForRule_fills hcup) ?_ fun _ _ h => h
  rintro r s' ⟨hresult, links, hnone, hfills, hcount, hsome⟩
  exact ⟨hresult, links, PutsIn.of_fills hfills hnone hcount hsome⟩

/-! ## Inventory rules -/

/-- The allocations that a rule makes are labelled with it, and the other rules have theirs. -/
theorem TopsUp.cupAllocations {db db' : Db} {p : InventoryPool} {missing n : ℕ}
    {mode : AllocationMode} {added : List ConfigAllocation}
    (h : TopsUp db db' now p missing mode (some cup) (some k) (labelRule n) added) (m : ℕ) :
    (cupAllocations db' cup m).map (·.pk) =
      (cupAllocations db cup m).map (·.pk) ++ if m = n then added.map (·.pk) else [] := by
  have hadded : (added.map (labelRule n)).filter (fun a =>
      a.cup = some cup ∧ a.recipeRule = some m ∧ a.isActive) =
        if m = n then added.map (labelRule n) else [] := by
    by_cases hm : m = n
    · rw [if_pos hm]
      refine List.filter_eq_self.mpr fun r hr => ?_
      obtain ⟨a, ha, rfl⟩ := List.mem_map.mp hr
      have hnew := h.new.new a ha
      simp [labelRule, hnew.cup, hnew.active, hm]
    · rw [if_neg hm]
      refine List.filter_eq_nil_iff.mpr fun r hr => ?_
      obtain ⟨a, ha, rfl⟩ := List.mem_map.mp hr
      simp [labelRule, Ne.symm hm]
  unfold Orders.cupAllocations
  rw [h.allocates.rows, List.filter_append, hadded, List.map_append]
  by_cases hm : m = n
  · simp [hm, labelRule]
  · simp [hm]

/-- A rule without an allocation takes its whole quantity, or nothing. -/
theorem wp_ruleAllocations (hnone : cupAllocations s.db cup rule.pk = []) :
    Prog.wp (ruleAllocations now k cup rule)
      (fun rows s' => rows ≠ [] ∧ s'.db = { s.db with
          assets := s'.db.assets
          allocations := s'.db.allocations } ∧
        ∀ n, (cupAllocations s'.db cup n).map (·.pk) =
          (cupAllocations s.db cup n).map (·.pk) ++ if n = rule.pk then rows.map (·.pk) else [])
      (fun h s' => (∃ e, h = .raised e) ∧ s' = s) s := by
  rw [ruleAllocations, Prog.wp_bind, Prog.wp_readDb]
  dsimp only [id]
  rw [Prog.wp_ite]
  refine ⟨fun _ => ⟨⟨_, rfl⟩, rfl⟩, fun _ => ?_⟩
  have hholds : s.db.allocations.rows.filter (fun a => decide (a.order = some k ∧
      a.cup = some cup ∧ a.recipeRule = some rule.pk ∧ a.isActive)) = [] := by
    have hno := List.filter_eq_nil_iff.mp hnone
    refine List.filter_eq_nil_iff.mpr fun a ha hhas => hno a ha ?_
    simp only [decide_eq_true_eq] at hhas ⊢
    exact hhas.2
  refine Prog.wp_mono wp_topUpAllocations ?_ fun h s' hraised => ⟨hraised.1, hraised.2.1⟩
  intro rows s' hrows
  rw [missingUnits, hholds] at hrows
  rcases hrows with ⟨hzero, -, -⟩ | ⟨p, added, hpos, -, -, htops, rfl, hshop⟩
  · rw [List.length_nil] at hzero
    omega
  · refine ⟨?_, ?_, htops.cupAllocations⟩
    · intro hnil
      have hlength := htops.length
      rw [hnil, List.length_nil] at hlength
      omega
    · rw [htops.allocates.frame]
      rfl

theorem wp_createInventoryLinksForRule (hcup : orderCup s.db o.pk = some c)
    (hnone : cupAllocations s.db c.pk rule.pk = []) :
    Prog.wp (createInventoryLinksForRule now o c.pk rule)
      (fun r s' => ResultOf rule r ∧ ∃ links, PutsIn o.pk c rule s.db s'.db r links)
      (fun _ _ => True) s := by
  rw [createInventoryLinksForRule, Prog.wp_bind, Prog.wp_caught]
  refine Prog.wp_mono (wp_ruleAllocations hnone) ?_ ?_
  · rintro rows s₁ ⟨hrows, hframe, hallocations⟩
    dsimp only
    have hcup₁ : orderCup s₁.db o.pk = some c := by
      rw [hframe]
      exact hcup
    rw [Prog.wp_bind, Prog.wp_readDb, Prog.wp_bind]
    dsimp only [id]
    have hnothing : Fills o.pk c s₁.db s₁.db (([] : List DeliveredLink).map (ruleItem rule.pk)) :=
      Fills.refl hcup₁
    refine Prog.wp_mono (wp_addCupItems hnothing) ?_ fun _ _ h => h.elim
    rintro count s₂ ⟨hcount, hfills⟩
    rw [List.nil_append] at hfills
    refine ⟨resultOf_ruleResult rule _, _, ?_, hfills.cup, ?_, fun _ => by simpa using hrows, ?_⟩
    · rw [hfills.frame, hframe]
    · rw [Nat.zero_add] at hcount
      exact hcount
    · intro n
      have hsame : cupAllocations s₂.db c.pk n = cupAllocations s₁.db c.pk n := by
        rw [hfills.frame]
        rfl
      rw [hsame, hallocations n]
      simp [List.filterMap_map]
  · rintro h s₁ ⟨hraised, hsame⟩
    obtain ⟨e, rfl⟩ := hraised
    subst hsame
    refine ⟨resultOf_ruleResult rule _, [], PutsIn.of_fills (Fills.refl hcup) ?_ rfl ?_⟩
    · simp
    · simp [ruleResult]

end Qasedak.Orders
