import Qasedak.Orders.StrayStock

/-! The stock of an order that is filled by a recipe: what a rule takes for it goes into its cup
at once, so that the cup renders all that the order holds. -/

namespace Qasedak.Orders

open Foundation Store Panels

/-- The order's allocations are those that its cup renders, and no allocation without an order
is of its cup, or of the one that it would get. -/
structure RecipeStock (k : ℕ) (db : Db) : Prop where
  linked : AssetsLinked db
  backed : ∀ a ∈ heldAllocations db k, ∃ asset ∈ db.assets.rows, asset.pk = a.asset
  placed : ∀ n, n ∈ (heldAllocations db k).map (·.pk) ↔ n ∈ customerAllocations db k
  adopted : ∀ a ∈ db.allocations.rows, a.order = none → a.cup ≠ some (cupKey db k)

variable {platform : Platform} {now t : Instant} {actor : Option ℕ} {k cup : ℕ} {o : Order}
  {recipe : Recipe} {rule : FillerRule} {c : Cup} {s : Shop} {db db' : Db}
  {links : List DeliveredLink}

theorem renderedItems_ruleItems (r : ℕ)
    (hlinks : ∀ link ∈ links, link.allocation.isSome = true → strip link.rawLink ≠ "") :
    (renderedItems (links.map (ruleItem r))).filterMap (·.allocation) =
      links.filterMap (·.allocation) := by
  rw [← renderedItems_delivered hlinks, renderedItems, renderedItems, List.filter_map,
    List.filter_map, List.filterMap_map, List.filterMap_map]
  rfl

theorem customerAllocations_fill {items : List CupItem} (hcup : orderCup db k = some c)
    (hcup' : orderCup db' k = some { c with items := c.items ++ items })
    (horders : db'.orders = db.orders) : customerAllocations db' k =
      customerAllocations db k ++ (renderedItems items).filterMap (·.allocation) := by
  have hitems : cupItems db k = c.items := by simp [cupItems, hcup]
  have hitems' : cupItems db' k = c.items ++ items := by simp [cupItems, hcup']
  rw [customerAllocations, customerAllocations, hitems, hitems', renderedItems_append,
    List.filterMap_append, List.append_assoc, directLinks, directLinks, horders]

/-- The state of an attempt after some of its rules. -/
structure Stocking (k cup : ℕ) (db db' : Db) : Prop where
  stock : RecipeStock k db'
  cup : (orderCup db' k).map (·.pk) = some cup
  orders : db'.orders = db.orders

theorem cupKey_of_cup {n : ℕ} (h : (orderCup db k).map (·.pk) = some n) : cupKey db k = n := by
  rw [cupKey, h, Option.getD_some]

/-- Items of no allocation change nothing about the stock. -/
theorem Stocking.fills {db'' : Db} (h : Stocking k c.pk db db') (hcup : orderCup db' k = some c)
    (hnone : ∀ link ∈ links, link.allocation = none)
    (hfills : Fills k c db' db'' (links.map (ruleItem rule.pk))) : Stocking k c.pk db db'' := by
  have horders : db''.orders = db'.orders := by rw [hfills.frame]
  have hallocations : db''.allocations = db'.allocations := by rw [hfills.frame]
  have hassets : db''.assets = db'.assets := by rw [hfills.frame]
  have hheld : heldAllocations db'' k = heldAllocations db' k := by
    rw [heldAllocations, heldAllocations, hallocations]
  have hcup'' : (orderCup db'' k).map (·.pk) = some c.pk := by
    rw [hfills.cup]
    rfl
  have hcustomer : customerAllocations db'' k = customerAllocations db' k := by
    have hitems : (renderedItems (links.map (ruleItem rule.pk))).filterMap (·.allocation) = [] := by
      rw [renderedItems_ruleItems rule.pk fun link hlink hsome => ?_]
      · exact List.filterMap_eq_nil_iff.mpr hnone
      · rw [hnone link hlink] at hsome
        cases hsome
    rw [customerAllocations_fill hcup hfills.cup horders, hitems, List.append_nil]
  refine ⟨⟨?_, ?_, ?_, ?_⟩, hcup'', horders.trans h.orders⟩
  · rw [AssetsLinked, hassets]
    exact h.stock.linked
  · rw [hheld, hassets]
    exact h.stock.backed
  · rw [hheld, hcustomer]
    exact h.stock.placed
  · rw [hallocations, cupKey_of_cup hcup'', ← cupKey_of_cup h.cup]
    exact h.stock.adopted

/-- A rule has all its units, or takes what is missing of them. -/
theorem wp_ruleAllocations_cases :
    Prog.wp (ruleAllocations now k cup rule)
      (fun rows s' => (∀ a ∈ rows, a ∈ heldAllocations s.db k) ∧ s' = s ∨
        ∃ p mode missing old added, (∀ a ∈ old, a ∈ heldAllocations s.db k) ∧
          TopsUp s.db s'.db now p missing mode (some cup) (some k) (labelRule rule.pk) added ∧
            rows = old ++ added)
      (fun h s' => (∃ e, h = .raised e) ∧ s' = s) s := by
  have hhas : ∀ a ∈ s.db.allocations.rows.filter (fun a => decide (a.order = some k ∧
      a.cup = some cup ∧ a.recipeRule = some rule.pk ∧ a.isActive)), a ∈ heldAllocations s.db k := by
    intro a ha
    obtain ⟨hrow, hlabel⟩ := List.mem_filter.mp ha
    have hlabel := of_decide_eq_true hlabel
    exact mem_heldAllocations.mpr ⟨hrow, hlabel.1, hlabel.2.2.2⟩
  rw [ruleAllocations, Prog.wp_bind, Prog.wp_readDb]
  dsimp only [id]
  rw [Prog.wp_ite]
  refine ⟨fun _ => ⟨⟨_, rfl⟩, rfl⟩, fun _ => ?_⟩
  refine Prog.wp_mono wp_topUpAllocations ?_ fun h s' hraised => ⟨hraised.1, hraised.2.1⟩
  intro rows s' hrows
  rcases hrows with ⟨-, rfl, rfl⟩ | ⟨p, added, -, -, -, htops, rfl, -⟩
  · exact .inl ⟨hhas, rfl⟩
  · exact .inr ⟨p, _, _, _, added, hhas, htops, rfl⟩

/-- The links of allocations, as an inventory rule puts them in. -/
def stockLinks (db : Db) (rows : List ConfigAllocation) : List DeliveredLink :=
  rows.map fun a =>
    { rawLink := strip (((db.assets.get? a.asset).map (·.rawLink)).getD "")
      allocation := some a.pk }

theorem stockLinks_rendered {rows : List ConfigAllocation} (hlinked : AssetsLinked db)
    (hassets : ∀ a ∈ rows, ∃ asset ∈ db.assets.rows, asset.pk = a.asset) (r : ℕ) :
    (renderedItems ((stockLinks db rows).map (ruleItem r))).filterMap (·.allocation) =
      rows.map (·.pk) := by
  rw [renderedItems_ruleItems]
  · rw [stockLinks, List.filterMap_map]
    exact congrFun (@List.filterMap_eq_map' _ _ fun a : ConfigAllocation => a.pk) rows
  · intro link hlink _
    obtain ⟨a, ha, rfl⟩ := List.mem_map.mp hlink
    obtain ⟨asset, hrow, hpk⟩ := hassets a ha
    have hget : db.assets.get? a.asset = some asset := Table.get?_eq_some_iff.mpr ⟨hrow, hpk⟩
    rw [hget, Option.map_some, Option.getD_some, strip_strip]
    exact hlinked asset hrow

/-- The database after a rule took stock for the order: what is new is among the rows. -/
structure TakesStock (k : ℕ) (db db' : Db) (rows : List ConfigAllocation) : Prop where
  frame : db' = { db with
    assets := db'.assets
    allocations := db'.allocations }
  linked : AssetsLinked db'
  backed : ∀ a ∈ heldAllocations db' k, ∃ asset ∈ db'.assets.rows, asset.pk = a.asset
  assets : ∀ a ∈ rows, ∃ asset ∈ db'.assets.rows, asset.pk = a.asset
  held : ∀ n, n ∈ (heldAllocations db' k).map (·.pk) ↔
    n ∈ (heldAllocations db k).map (·.pk) ∨ n ∈ rows.map (·.pk)
  others : ∀ a ∈ db'.allocations.rows, a.order = none → a ∈ db.allocations.rows

theorem RecipeStock.wp_ruleAllocations (h : RecipeStock k s.db) :
    Prog.wp (ruleAllocations now k cup rule) (fun rows s' => TakesStock k s.db s'.db rows)
      (fun h s' => (∃ e, h = .raised e) ∧ s' = s) s := by
  refine Prog.wp_mono wp_ruleAllocations_cases ?_ fun _ _ h => h
  intro rows s' hrows
  rcases hrows with ⟨hheld, rfl⟩ | ⟨p, mode, missing, old, added, hold, htops, rfl⟩
  · refine ⟨rfl, h.linked, h.backed, fun a ha => h.backed a (hheld a ha), fun n => ?_,
      fun a ha _ => ha⟩
    constructor
    · exact .inl
    · intro hn
      refine hn.elim id fun hmem => ?_
      obtain ⟨a, ha, rfl⟩ := List.mem_map.mp hmem
      exact List.mem_map_of_mem (hheld a ha)
  · have hlabel : ∀ a : ConfigAllocation, (labelRule rule.pk a).order = a.order ∧
        (labelRule rule.pk a).isActive = a.isActive := fun _ => ⟨rfl, rfl⟩
    have hheld := htops.held hlabel
    have hbacked := htops.backed hlabel (fun _ => rfl) h.backed
    refine ⟨?_, htops.linked h.linked, hbacked, ?_, fun n => ?_, ?_⟩
    · rw [htops.allocates.frame]
      rfl
    · intro a ha
      rcases List.mem_append.mp ha with ha | ha
      · exact hbacked a (by rw [hheld]; exact List.mem_append_left _ (hold a ha))
      · refine hbacked (labelRule rule.pk a) ?_
        rw [hheld]
        exact List.mem_append_right _ (List.mem_map_of_mem ha)
    · rw [hheld, List.map_append, List.map_map, List.map_append, List.mem_append, List.mem_append]
      constructor
      · intro hn
        exact hn.elim .inl fun hadded => .inr (.inr hadded)
      · intro hn
        rcases hn with hn | hn | hn
        · exact .inl hn
        · obtain ⟨a, ha, rfl⟩ := List.mem_map.mp hn
          exact .inl (List.mem_map_of_mem (hold a ha))
        · exact .inr hn
    · intro a ha hnone
      rw [htops.allocates.rows, List.mem_append] at ha
      refine ha.elim id fun hadded => ?_
      obtain ⟨b, hb, rfl⟩ := List.mem_map.mp hadded
      have horder : b.order = none := hnone
      rw [(htops.new.new b hb).order] at horder
      cases horder

/-- What a rule took is in the cup. -/
theorem Stocking.takes {db₁ db₂ : Db} {rows : List ConfigAllocation}
    (h : Stocking k c.pk db db') (hcup : orderCup db' k = some c)
    (htakes : TakesStock k db' db₁ rows)
    (hfills : Fills k c db₁ db₂ ((stockLinks db₁ rows).map (ruleItem rule.pk))) :
    Stocking k c.pk db db₂ := by
  have hframe : db₂ = { db' with
      cups := db₂.cups
      assets := db₁.assets
      allocations := db₁.allocations } := by
    rw [hfills.frame, htakes.frame]
  have horders : db₂.orders = db'.orders := by rw [hframe]
  have hallocations : db₂.allocations = db₁.allocations := by rw [hframe]
  have hassets : db₂.assets = db₁.assets := by rw [hframe]
  have hheld : heldAllocations db₂ k = heldAllocations db₁ k := by
    rw [heldAllocations, heldAllocations, hallocations]
  have hcup₂ : (orderCup db₂ k).map (·.pk) = some c.pk := by
    rw [hfills.cup]
    rfl
  have hcustomer := customerAllocations_fill hcup hfills.cup horders
  rw [stockLinks_rendered htakes.linked htakes.assets] at hcustomer
  refine ⟨⟨?_, ?_, fun n => ?_, ?_⟩, hcup₂, horders.trans h.orders⟩
  · rw [AssetsLinked, hassets]
    exact htakes.linked
  · rw [hheld, hassets]
    exact htakes.backed
  · rw [hheld, hcustomer, htakes.held, List.mem_append, h.stock.placed]
  · rw [hallocations, cupKey_of_cup hcup₂, ← cupKey_of_cup h.cup]
    exact fun a ha hnone => h.stock.adopted a (htakes.others a ha hnone) hnone

theorem Stocking.wp_createInventoryLinksForRule (h : Stocking o.pk c.pk db s.db)
    (hcup : orderCup s.db o.pk = some c) :
    Prog.wp (createInventoryLinksForRule now o c.pk rule)
      (fun _ s' => Stocking o.pk c.pk db s'.db) (fun _ _ => True) s := by
  rw [createInventoryLinksForRule, Prog.wp_bind, Prog.wp_caught]
  refine Prog.wp_mono h.stock.wp_ruleAllocations ?_ ?_
  · intro rows s₁ htakes
    dsimp only
    have hcup₁ : orderCup s₁.db o.pk = some c := by
      rw [htakes.frame]
      exact hcup
    have hnothing : Fills o.pk c s₁.db s₁.db (([] : List DeliveredLink).map (ruleItem rule.pk)) :=
      Fills.refl hcup₁
    rw [Prog.wp_bind, Prog.wp_readDb, Prog.wp_bind]
    refine Prog.wp_mono (wp_addCupItems hnothing) ?_ fun _ _ h => h.elim
    rintro count s₂ ⟨_, hfills⟩
    exact h.takes hcup htakes hfills
  · intro halt s₁ hraised
    obtain ⟨⟨e, rfl⟩, rfl⟩ := hraised
    exact h

/-! ## An attempt by a recipe -/

theorem Stocking.wp_runRule (h : Stocking o.pk cup db s.db) :
    Prog.wp (runRule platform now o cup rule) (fun _ s' => Stocking o.pk cup db s'.db)
      (fun _ _ => True) s := by
  obtain ⟨c, hcup, rfl⟩ := Option.map_eq_some_iff.mp h.cup
  rw [runRule, Prog.wp_bind, Prog.wp_readDb]
  dsimp only [id]
  cases completedBefore s.db o c.pk rule with
  | some p => exact h
  | none =>
      dsimp only
      cases rule.sourceType with
      | panelInbound =>
          refine Prog.wp_mono (wp_createPanelLinksForRule_fills hcup) ?_ fun _ _ h => h
          rintro r s' ⟨_, links, hnone, hfills, _⟩
          exact h.fills hcup hnone hfills
      | inventoryPool => exact h.wp_createInventoryLinksForRule hcup

theorem Stocking.wp_runRules {strict : Bool} {rules : List FillerRule}
    (h : Stocking o.pk cup db s.db) :
    Prog.wp (runRules platform now o cup strict rules) (fun _ s' => Stocking o.pk cup db s'.db)
      (fun _ _ => True) s := by
  refine Prog.wp_forEach (I := fun _ _ s' => Stocking o.pk cup db s'.db) h
    fun rule rest results s' h => ?_
  rw [Prog.wp_ite]
  refine ⟨fun _ => h, fun _ => ?_⟩
  rw [Prog.wp_bind]
  exact Prog.wp_mono h.wp_runRule (fun _ _ h => h) fun _ _ h => h

/-- The cup of the order that an attempt starts from. -/
theorem RecipeStock.wp_createOrReuseOrderCup (h : RecipeStock k s.db) :
    Prog.wp (createOrReuseOrderCup now k) (fun key s' => Stocking k key s.db s'.db)
      (fun _ _ => False) s := by
  refine Prog.wp_mono Orders.wp_createOrReuseOrderCup ?_ fun _ _ h => h
  rintro key s' ⟨hkey, hcup, hitems, hframe⟩
  have horders : s'.db.orders = s.db.orders := by rw [hframe]
  have hassets : s'.db.assets = s.db.assets := by rw [hframe]
  have hallocations : s'.db.allocations = s.db.allocations := by rw [hframe]
  have hheld : heldAllocations s'.db k = heldAllocations s.db k := by
    rw [heldAllocations, heldAllocations, hallocations]
  have hcustomer : customerAllocations s'.db k = customerAllocations s.db k := by
    refine customerAllocations_eq ?_ hitems
    rw [directLinks, directLinks, horders]
  refine ⟨⟨?_, ?_, ?_, ?_⟩, hcup, horders⟩
  · rw [AssetsLinked, hassets]
    exact h.linked
  · rw [hheld, hassets]
    exact h.backed
  · rw [hheld, hcustomer]
    exact h.placed
  · rw [hallocations, cupKey_of_cup hcup, hkey]
    exact h.adopted

/-- Nothing is left for the order to adopt. -/
theorem adoptAllocations_eq (h : RecipeStock k db) (hcup : (orderCup db k).map (·.pk) = some cup) :
    db.adoptAllocations k cup = db := by
  have hsame : ∀ a ∈ db.allocations.rows, adoptAllocation k cup a = a := by
    intro a ha
    rw [adoptAllocation, if_neg]
    rintro ⟨hcupOf, hnone⟩
    refine h.adopted a ha hnone ?_
    rw [cupKey_of_cup hcup]
    exact hcupOf
  have hallocations : db.allocations.map (adoptAllocation k cup) (adoptAllocation_pk k cup) =
      db.allocations := by
    refine Table.ext_rows ?_
    conv_rhs => rw [← List.map_id db.allocations.rows]
    exact List.map_congr_left hsame
  rw [Db.adoptAllocations, hallocations]

theorem finishRecipe_not_refused (delivers : Bool) (safeError : String)
    (results : List RuleResult) (o : Order) :
    ¬ ((finishRecipe now actor delivers safeError results o).save now).status.Refused := by
  rw [Order.save_status]
  cases delivers with
  | true => simp [finishRecipe, Order.markPaymentVerified, OrderStatus.Refused]
  | false =>
      by_cases hcompleted : o.status = .completed
      · simp [finishRecipe, hcompleted, OrderStatus.Refused]
      · simp [finishRecipe, hcompleted, OrderStatus.Refused]

theorem RecipeStock.setOrder (h : RecipeStock k db) {f : Order → Order} (hf : ∀ o, (f o).pk = o.pk)
    (hlinks : ∀ o, (f o).metadata.directDeliveryLinks = o.metadata.directDeliveryLinks) :
    RecipeStock k (db.setOrder k f hf) where
  linked := h.linked
  backed := h.backed
  placed := by
    rw [customerAllocations_eq (directLinks_setOrder hf hlinks) rfl]
    exact h.placed
  adopted := h.adopted

/-- An attempt leaves the customer with all that the order holds. -/
theorem RecipeStock.wp_fulfillOrderWithRecipe (h : RecipeStock k s.db) :
    Prog.wp (fulfillOrderWithRecipe platform now actor k recipe)
      (fun _ s' => RecipeStock k s'.db ∧ ¬ IsRefused k s'.db) (fun _ s' => s'.db = s.db) s := by
  rw [fulfillOrderWithRecipe, Prog.wp_atomic, Prog.wp_bind, saveOrder, Prog.wp_writeDb,
    Prog.wp_bind, getOrder, Prog.wp_bind, Prog.wp_readDb, Prog.wp_orRaise]
  dsimp only
  set counted := s.db.setOrder k (fun o => (countAttempt o).save now) _ with hcounted
  cases ho : counted.orders.get? k with
  | none => rfl
  | some o =>
      dsimp only
      obtain rfl : o.pk = k := (Table.mem_of_get? ho).2
      have hstart : RecipeStock o.pk counted := h.setOrder _ fun o => rfl
      rw [Prog.wp_bind]
      refine Prog.wp_mono (RecipeStock.wp_createOrReuseOrderCup (s := { s with db := counted })
        hstart) ?_ fun _ _ h => h.elim
      intro cup s₁ hcup
      rw [Prog.wp_bind, Prog.wp_readDb, Prog.wp_bind]
      refine Prog.wp_mono hcup.wp_runRules ?_ fun _ _ _ => rfl
      intro results s₂ hfilled
      rw [Prog.wp_bind, saveOrder, Prog.wp_writeDb, Prog.wp_bind, Prog.wp_writeDb, Prog.wp_pure]
      set delivers := recipeDelivers recipe.failurePolicy results
      have hsaved := hfilled.stock.setOrder (f := fun o => (finishRecipe now actor delivers
        (joinErrors (recipeErrors (recipeRules (id s₁.db) recipe.pk) results)) results o).save now)
        (fun o => by rw [Order.save_pk, finishRecipe_pk]) fun o => by
          rw [Order.save_metadata, finishRecipe]
          cases delivers <;> rfl
      dsimp only
      rw [adoptAllocations_eq hsaved hfilled.cup]
      exact ⟨hsaved, not_isRefused_setOrder _ (finishRecipe_not_refused _ _ _)⟩

end Qasedak.Orders
