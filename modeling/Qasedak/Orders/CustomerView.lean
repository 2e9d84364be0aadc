import Mathlib.Data.Set.Basic
import Qasedak.Foundation.Growth
import Qasedak.Orders.StrayStock

/-! What the customer of an order has: the links that the cup and the direct list render, the
sources and rules they come from, and a completed order. An attempt by a recipe only adds. -/

namespace Qasedak.Orders

open Foundation Store Panels Prog

/-! ## The view -/

/-- Where a link was delivered from. -/
inductive LinkOrigin where
  | source (pk : ℕ)
  | rule (pk : ℕ)
  deriving DecidableEq, Repr

def linkOrigins (link : DeliveredLink) : List LinkOrigin := link.sources.map .source

def itemOrigins (item : CupItem) : List LinkOrigin :=
  item.sources.map .source ++ item.rule.toList.map .rule

/-- `_clean_links`: blank links are not shown. -/
def shownLinks (links : List DeliveredLink) : List DeliveredLink :=
  links.filter fun link => strip link.rawLink ≠ ""

/-- The links that the customer is shown. -/
def renderedLinks (db : Db) (order : ℕ) : List String :=
  (shownLinks (directLinks db order)).map (strip ·.rawLink) ++
    (renderedItems (cupItems db order)).map (strip ·.link)

/-- The sources and rules that the customer is shown links of. -/
def deliveredOrigins (db : Db) (order : ℕ) : List LinkOrigin :=
  (shownLinks (directLinks db order)).flatMap linkOrigins ++
    (renderedItems (cupItems db order)).flatMap itemOrigins

/-- What an order gives its customer, as far as the links still lead anywhere. -/
def customerView (alive : String → Prop) (k : ℕ) (db : Db) : Set String × Set LinkOrigin × Prop :=
  ({link | link ∈ renderedLinks db k ∧ alive link}, {origin | origin ∈ deliveredOrigins db k},
    Completed k db)

variable {platform : Platform} {now : Instant} {actor : Option ℕ} {k : ℕ} {o : Order}
  {rule : FillerRule} {recipe : Recipe} {s : Shop} {db db' : Db} {alive : String → Prop}
  {links : List DeliveredLink}

theorem customerView_le
    (hlinks : ∀ link ∈ renderedLinks db k, alive link → link ∈ renderedLinks db' k)
    (horigins : ∀ origin ∈ deliveredOrigins db k, origin ∈ deliveredOrigins db' k)
    (hcompleted : Completed k db → Completed k db') :
    customerView alive k db ≤ customerView alive k db' :=
  ⟨fun link h => ⟨hlinks link h.1 h.2, h.2⟩, fun origin h => horigins origin h, hcompleted⟩

/-- The view depends on the items of the cup, the direct links and the status. -/
theorem customerView_congr (hitems : cupItems db' k = cupItems db k)
    (hdirect : directLinks db' k = directLinks db k)
    (hcompleted : Completed k db → Completed k db') :
    customerView alive k db ≤ customerView alive k db' := by
  refine customerView_le (fun link h _ => ?_) (fun origin h => ?_) hcompleted
  · rw [renderedLinks, hitems, hdirect]
    exact h
  · rw [deliveredOrigins, hitems, hdirect]
    exact h

/-- More items in the cup. -/
theorem customerView_append {items : List CupItem} (hitems : cupItems db' k = cupItems db k ++ items)
    (horders : db'.orders = db.orders) : customerView alive k db ≤ customerView alive k db' := by
  have hdirect : directLinks db' k = directLinks db k := by rw [directLinks, directLinks, horders]
  refine customerView_le (fun link h _ => ?_) (fun origin h => ?_) fun h => ?_
  · rw [renderedLinks, hdirect, hitems, renderedItems_append, List.map_append, ← List.append_assoc]
    exact List.mem_append_left _ h
  · rw [deliveredOrigins, hdirect, hitems, renderedItems_append, List.flatMap_append,
      ← List.append_assoc]
    exact List.mem_append_left _ h
  · rw [Completed, horders]
    exact h

theorem cupItems_congr (h : db'.cups = db.cups) : cupItems db' k = cupItems db k := by
  rw [cupItems, cupItems, orderCup, orderCup, h]

theorem customerView_of_tables (hcups : db'.cups = db.cups) (horders : db'.orders = db.orders) :
    customerView alive k db ≤ customerView alive k db' :=
  customerView_append (by rw [cupItems_congr hcups, List.append_nil]) horders

/-- A change of the order that leaves its links alone, and does not reopen it. -/
theorem customerView_setOrder {f : Order → Order} (hf : ∀ o, (f o).pk = o.pk)
    (hlinks : ∀ o, (f o).metadata.directDeliveryLinks = o.metadata.directDeliveryLinks)
    (hstatus : ∀ o, o.status = .completed → (f o).status = .completed) :
    customerView alive k db ≤ customerView alive k (db.setOrder k f hf) := by
  refine customerView_congr rfl (directLinks_setOrder hf hlinks) fun ⟨o, ho, hcompleted⟩ => ?_
  exact ⟨f o, Db.get?_setOrder_self hf ho, hstatus o hcompleted⟩

theorem save_status {o : Order} (h : o.status = .completed) : (o.save now).status = .completed := by
  simp [Order.save, h]

theorem grows_saveOrder {f : Order → Order} (hf : ∀ o, (f o).pk = o.pk)
    (hlinks : ∀ o, (f o).metadata.directDeliveryLinks = o.metadata.directDeliveryLinks)
    (hstatus : ∀ o, o.status = .completed → (f o).status = .completed) :
    Grows (customerView alive k) (saveOrder now k f hf) :=
  grows_writeDb fun _ => customerView_setOrder _ (fun o => by rw [Order.save_metadata, hlinks])
    fun o h => save_status (hstatus o h)

/-- A program that writes neither orders nor cups. -/
theorem grows_of_tables {γ α : Type} {view : Db → γ} {q : ShopM α} (hq : Prog.Leaves view q)
    (h : ∀ db db', view db' = view db → db'.cups = db.cups ∧ db'.orders = db.orders) :
    Grows (customerView alive k) q :=
  hq.grows fun db db' hview => customerView_of_tables (h db db' hview).1 (h db db' hview).2

theorem grows_of_id {α : Type} {q : ShopM α} (hq : Keeps id q) : Grows (customerView alive k) q :=
  grows_of_tables hq.leaves fun db db' h => by
    have hsame : db' = db := h
    rw [hsame]
    exact ⟨rfl, rfl⟩

theorem grows_of_withoutStock {α : Type} {q : ShopM α} (hq : Keeps Db.withoutStock q) :
    Grows (customerView alive k) q :=
  grows_of_tables hq.leaves fun db db' h => by
    have hcups : db'.withoutStock.cups = db.withoutStock.cups := by rw [h]
    have horders : db'.withoutStock.orders = db.withoutStock.orders := by rw [h]
    exact ⟨hcups, horders⟩

theorem keeps_getOrder : Keeps id (getOrder k) :=
  (keeps_readDb _).bind fun _ => keeps_orRaise _ _

/-! ## Recipes -/

/-- The cup of the order after a change to some cup. -/
theorem orderCup_setCup_any {j : ℕ} {f : Cup → Cup} (hf : ∀ c, (f c).pk = c.pk)
    (hkeep : ∀ c, (f c).order = c.order ∧ (f c).vpnClient = c.vpnClient) :
    orderCup (db.setCup j f hf) k =
      (orderCup db k).map fun c => if c.pk = j then f c else c := by
  have hrows : (db.setCup j f hf).cups.rows =
      db.cups.rows.map fun r => if r.pk = j then f r else r := rfl
  have hsame : ((fun r : Cup => decide (r.order = some k ∧ r.vpnClient = none)) ∘
      fun r => if r.pk = j then f r else r) =
        fun r => decide (r.order = some k ∧ r.vpnClient = none) := by
    funext r
    rw [Function.comp]
    split
    · rw [(hkeep r).1, (hkeep r).2]
    · rfl
  rw [orderCup, orderCup, hrows, List.find?_map, hsame]

/-- A change that adds items to a cup, or none. -/
theorem customerView_setCup {j : ℕ} {f : Cup → Cup} (hf : ∀ c, (f c).pk = c.pk)
    (hkeep : ∀ c, (f c).order = c.order ∧ (f c).vpnClient = c.vpnClient)
    (hitems : ∀ c, ∃ items, (f c).items = c.items ++ items) :
    customerView alive k db ≤ customerView alive k (db.setCup j f hf) := by
  have hcup : orderCup (db.setCup j f hf) k =
      (orderCup db k).map fun c => if c.pk = j then f c else c := orderCup_setCup_any hf hkeep
  cases hold : orderCup db k with
  | none =>
      rw [hold, Option.map_none] at hcup
      have hitems : cupItems (db.setCup j f hf) k = cupItems db k ++ [] := by
        rw [cupItems, cupItems, hcup, hold]
        rfl
      exact customerView_append hitems rfl
  | some c =>
      rw [hold, Option.map_some] at hcup
      obtain ⟨items, hadded⟩ := hitems c
      by_cases hj : c.pk = j
      · rw [if_pos hj] at hcup
        have hitems : cupItems (db.setCup j f hf) k = cupItems db k ++ items := by
          rw [cupItems, cupItems, hcup, hold]
          exact hadded
        exact customerView_append hitems rfl
      · rw [if_neg hj] at hcup
        have hitems : cupItems (db.setCup j f hf) k = cupItems db k ++ [] := by
          rw [cupItems, cupItems, hcup, hold, List.append_nil]
        exact customerView_append hitems rfl

theorem grows_addCupItems {cup r count : ℕ} :
    Grows (customerView alive k) (addCupItems cup r links count) := by
  refine Grows.forEach fun link _ => Grows.bind (grows_writeDb fun db => ?_) fun _ => grows_pure _
  exact customerView_setCup (addCupItem_pk r link) (fun _ => ⟨rfl, rfl⟩)
    fun c => ⟨[{ link := link.rawLink, rule := some r, allocation := link.allocation }], rfl⟩

theorem grows_fillRuleClient {p : Panel} {inbounds : List Inbound} {plan : Plan} {cup : ℕ}
    {identity : ClientIdentity} {progress : RuleProgress} :
    Grows (customerView alive k)
      (fillRuleClient platform now o p inbounds plan cup rule identity progress) := by
  refine Grows.ite (grows_pure _) ((grows_of_id keeps_ruleClientLinks.caught).bind fun outcome => ?_)
  split
  · exact grows_pure _
  · exact Grows.ite (grows_pure _) (grows_addCupItems.bind fun _ => grows_pure _)

theorem grows_createPanelLinksForRule {cup : ℕ} :
    Grows (customerView alive k) (createPanelLinksForRule platform now o cup rule) := by
  refine (grows_readDb _).bind fun db => ?_
  dsimp only
  split
  · exact grows_pure _
  · have hplan : Keeps id (getPlan o.plan) := (keeps_readDb _).bind fun _ => keeps_orRaise _ _
    refine (grows_of_id hplan).bind fun plan => ?_
    exact (Grows.forEach fun _ _ => grows_fillRuleClient).bind fun _ => grows_pure _

theorem grows_createInventoryLinksForRule {cup : ℕ} :
    Grows (customerView alive k) (createInventoryLinksForRule now o cup rule) := by
  have hallocations : Keeps Db.withoutStock (ruleAllocations now o.pk cup rule) :=
    (keeps_readDb _).bind fun _ => Keeps.ite (keeps_raise _) keeps_topUpAllocations
  refine (grows_of_withoutStock hallocations.caught).bind fun outcome => ?_
  split
  · exact grows_pure _
  · exact (grows_readDb _).bind fun _ => grows_addCupItems.bind fun _ => grows_pure _

theorem grows_runRules {cup : ℕ} {strict : Bool} {rules : List FillerRule} :
    Grows (customerView alive k) (runRules platform now o cup strict rules) := by
  have hrule : ∀ rule, Grows (customerView alive k) (runRule platform now o cup rule) := by
    intro rule
    refine (grows_readDb _).bind fun db => ?_
    split
    · exact grows_pure _
    · split
      · exact grows_createPanelLinksForRule
      · exact grows_createInventoryLinksForRule
  exact Grows.forEach fun rule _ => Grows.ite (grows_pure _) ((hrule rule).bind fun _ => grows_pure _)

/-- The order gets a cup where it has none. -/
theorem grows_ensureCup {order : ℕ} : Grows (customerView alive k) (ensureCup order) := by
  refine (grows_readDb _).bind fun db => ?_
  split
  · exact grows_pure _
  · refine Grows.bind (grows_writeDb fun db => ?_) fun _ => grows_pure _
    have hrows : (db.addCup order).cups.rows = db.cups.rows ++ [newCup db order] := rfl
    have hitems : cupItems (db.addCup order) k = cupItems db k ++ [] := by
      rw [cupItems, cupItems, orderCup, orderCup, hrows, List.find?_append]
      cases db.cups.rows.find? fun c => decide (c.order = some k ∧ c.vpnClient = none) with
      | some c => simp
      | none =>
          by_cases hnew : order = k
          · simp [newCup, hnew]
          · simp [newCup, hnew]
    exact customerView_append hitems rfl

theorem finishRecipe_completed {delivers : Bool} {safeError : String} {results : List RuleResult}
    (h : o.status = .completed) :
    (finishRecipe now actor delivers safeError results o).status = .completed := by
  cases delivers with
  | true => rfl
  | false => simp [finishRecipe, h]

/-- An attempt by a recipe takes nothing from the customer. -/
theorem grows_fulfillOrderWithRecipe :
    Grows (customerView alive k) (fulfillOrderWithRecipe platform now actor k recipe) := by
  have hcount : Grows (customerView alive k) (saveOrder now k countAttempt countAttempt_pk) :=
    grows_saveOrder _ (fun _ => rfl) fun _ h => h
  have hcup : Grows (customerView alive k) (createOrReuseOrderCup now k) := by
    refine grows_ensureCup.bind fun cup => (grows_readDb _).bind fun e => ?_
    refine (grows_writeDb fun db => ?_).bind fun _ => grows_pure _
    exact customerView_setCup _ (fun _ => ⟨rfl, rfl⟩) fun c => ⟨[], (List.append_nil _).symm⟩
  refine Grows.atomic (hcount.bind fun _ => (grows_of_id keeps_getOrder).bind fun o => ?_)
  refine hcup.bind fun cup => (grows_readDb _).bind fun db => grows_runRules.bind fun results => ?_
  refine Grows.bind (grows_saveOrder _ (fun o => ?_) fun o h => finishRecipe_completed h) fun _ => ?_
  · rw [finishRecipe]
    cases recipeDelivers recipe.failurePolicy results <;> rfl
  · refine Grows.bind (grows_writeDb fun db => ?_) fun _ => grows_pure _
    exact customerView_of_tables rfl rfl

end Qasedak.Orders
