import Qasedak.Foundation.Run
import Qasedak.Orders.RecipeItems

/-! The cup of an order over all attempts to fill it by a recipe. A rule that succeeded is not
run again; one that failed is, from its start, so that the links it had put in stay beside the
new ones. -/

namespace Qasedak.Orders

open Foundation Store Panels

/-! ## What the results count -/

/-- The links that the results count for a rule. -/
def linkCount (results : List RuleResult) (rule : ℕ) : ℕ :=
  ((results.find? (·.rule = rule)).map (·.createdLinkCount)).getD 0

/-- What the metadata of the order says of its rules. -/
def orderResults (db : Db) (order : ℕ) : List RuleResult :=
  ((db.orders.get? order).map (·.metadata.ruleResults)).getD []

/-- The active items of every rule are as many as counted, one for each of its allocations. -/
structure Counts (k cup : ℕ) (db : Db) (count : ℕ → ℕ) : Prop where
  items : ∀ n, (activeItems (cupItems db k) n).length = count n
  allocations : ∀ n, (activeItems (cupItems db k) n).filterMap (·.allocation) =
    (cupAllocations db cup n).map (·.pk)

variable {platform : Platform} {now : Instant} {actor : Option ℕ} {k cup : ℕ} {o : Order}
  {recipe : Recipe} {rule : FillerRule} {rules : List FillerRule} {c : Cup} {s : Shop}
  {results prev : List RuleResult} {count : ℕ → ℕ}

theorem linkCount_append (n : ℕ) :
    linkCount (results ++ prev) n =
      if n ∈ results.map (·.rule) then linkCount results n else linkCount prev n := by
  unfold linkCount
  rw [List.find?_append]
  by_cases hn : n ∈ results.map (·.rule)
  · rw [if_pos hn]
    obtain ⟨r, hr, hrule⟩ := List.mem_map.mp hn
    have hsome : (results.find? (·.rule = n)).isSome :=
      List.find?_isSome.mpr ⟨r, hr, by simp [hrule]⟩
    obtain ⟨r', hr'⟩ := Option.isSome_iff_exists.mp hsome
    rw [hr', Option.some_or]
  · rw [if_neg hn]
    have hnone : results.find? (·.rule = n) = none := by
      refine List.find?_eq_none.mpr fun r hr hrule => hn ?_
      exact List.mem_map.mpr ⟨r, hr, of_decide_eq_true hrule⟩
    rw [hnone, Option.none_or]

theorem linkCount_singleton (r : RuleResult) (n : ℕ) :
    linkCount [r] n = if n = r.rule then r.createdLinkCount else 0 := by
  by_cases hn : n = r.rule
  · simp [linkCount, hn]
  · simp [linkCount, hn, Ne.symm hn]

theorem linkCount_of_notMem {n : ℕ} (h : n ∉ results.map (·.rule)) : linkCount results n = 0 := by
  have hnone : results.find? (·.rule = n) = none := by
    refine List.find?_eq_none.mpr fun r hr hrule => h ?_
    exact List.mem_map.mpr ⟨r, hr, of_decide_eq_true hrule⟩
  rw [linkCount, hnone]
  rfl

/-- Where each rule has one result, its links are what that result counts. -/
theorem linkCount_of_mem {r : RuleResult} (hnodup : (results.map (·.rule)).Nodup)
    (hr : r ∈ results) : linkCount results r.rule = r.createdLinkCount := by
  have hsome : (results.find? (·.rule = r.rule)).isSome :=
    List.find?_isSome.mpr ⟨r, hr, by simp⟩
  obtain ⟨r', hr'⟩ := Option.isSome_iff_exists.mp hsome
  have hrule : r'.rule = r.rule := by simpa using List.find?_some hr'
  have hsame : r' = r := List.inj_on_of_nodup_map hnodup (List.mem_of_find?_eq_some hr') hr hrule
  rw [linkCount, hr', hsame]
  rfl

/-- A rule without items puts its links in. -/
theorem Counts.putsIn {db db' : Db} {r : RuleResult} {links : List DeliveredLink}
    (h : Counts k c.pk db count) (hcup : orderCup db k = some c)
    (hputs : PutsIn k c rule db db' r links) (hnone : count rule.pk = 0) :
    Counts k c.pk db' (Function.update count rule.pk r.createdLinkCount) := by
  have hitems : cupItems db k = c.items := by simp [cupItems, hcup]
  have hitems' : cupItems db' k = c.items ++ links.map (ruleItem rule.pk) := by
    simp [cupItems, hputs.cup]
  have hbefore : activeItems c.items rule.pk = [] := by
    rw [← List.length_eq_zero_iff, ← hitems, h.items, hnone]
  refine ⟨fun n => ?_, fun n => ?_⟩
  · have hn := h.items n
    rw [hitems] at hn
    rw [hitems', activeItems_append, activeItems_ruleItems, List.length_append, hn]
    by_cases hrule : n = rule.pk
    · rw [if_pos hrule, List.length_map, hrule, hnone, Function.update_self, hputs.count, zero_add]
    · rw [if_neg hrule, Function.update_of_ne hrule, List.length_nil, add_zero]
  · have hn := h.allocations n
    rw [hitems] at hn
    rw [hitems', activeItems_append, activeItems_ruleItems, List.filterMap_append, hn,
      hputs.allocations]
    by_cases hrule : n = rule.pk
    · rw [if_pos hrule, if_pos hrule, List.filterMap_map]
      rfl
    · simp [hrule]

/-- What an attempt leaves on record: a result for each of the first rules, of which a success
counts some links, and under the strict policy a required failure is the last. -/
structure OnRecord (strict : Bool) (rules : List FillerRule) (results : List RuleResult) :
    Prop where
  follows : results.map (·.rule) <+: rules.map (·.pk)
  result : ∀ r ∈ results, ∃ rule ∈ rules, ResultOf rule r
  some_of_success : ∀ r ∈ results, r.success = true → 0 < r.createdLinkCount
  strict_last : strict = true → ∀ r ∈ results, r.required = true → r.errors ≠ [] →
    (results.map (·.rule)).getLast? = some r.rule

theorem OnRecord.nodup {strict : Bool} (h : OnRecord strict rules results)
    (hrules : (rules.map (·.pk)).Nodup) : (results.map (·.rule)).Nodup :=
  hrules.sublist h.follows.sublist

/-! ## One rule -/

/-- No rule that failed has links in the cup. -/
def FailedEmpty (results : List RuleResult) : Prop :=
  ∀ r ∈ results, r.success = false → r.createdLinkCount = 0

/-- What a rule changes, and that it goes on from the recorded results. -/
structure Ran (k cup : ℕ) (rule : FillerRule) (prev : List RuleResult) (count : ℕ → ℕ)
    (db db' : Db) (r : RuleResult) : Prop where
  result : ResultOf rule r
  frame : db' = { db with
    cups := db'.cups
    assets := db'.assets
    allocations := db'.allocations }
  same_cup : (orderCup db' k).map (·.pk) = some cup
  counts : Counts k cup db' (Function.update count rule.pk r.createdLinkCount)
  some_of_success : r.success = true → 0 < r.createdLinkCount
  failed_before : r.success = false → ∀ p ∈ prev, p.rule = rule.pk → p.success = false

/-- A rule that succeeded before has its items in the cup, and is completed. -/
theorem completedBefore_of_success {p : RuleResult}
    (hcup : orderCup s.db o.pk = some c) (hcounts : Counts o.pk c.pk s.db count)
    (hprev : count rule.pk = linkCount o.metadata.ruleResults rule.pk)
    (hnodup : (o.metadata.ruleResults.map (·.rule)).Nodup)
    (hpos : 0 < p.createdLinkCount) (hp : p ∈ o.metadata.ruleResults)
    (hrule : p.rule = rule.pk) (hsuccess : p.success = true) :
    completedBefore s.db o c.pk rule = some p := by
  have hrow : s.db.cups.get? c.pk = some c :=
    Table.get?_eq_some_iff.mpr ⟨List.mem_of_find?_eq_some hcup, rfl⟩
  have hitems : (activeItems c.items rule.pk).length = p.createdLinkCount := by
    have hn := hcounts.items rule.pk
    rw [hprev, ← hrule, linkCount_of_mem hnodup hp] at hn
    rw [← hrule]
    simpa [cupItems, hcup] using hn
  obtain ⟨item, hitem⟩ := List.exists_mem_of_length_pos (hitems ▸ hpos)
  have hfilled : (s.db.cups.get? c.pk).any (fun c =>
      c.items.any fun item => item.isActive && item.rule = some rule.pk) = true := by
    have hmem := List.mem_filter.mp hitem
    rw [hrow, Option.any_some, List.any_eq_true]
    exact ⟨item, hmem.1, by simpa using hmem.2⟩
  have hsome : (o.metadata.ruleResults.find? fun r => r.rule = rule.pk ∧ r.success).isSome :=
    List.find?_isSome.mpr ⟨p, hp, by simp [hrule, hsuccess]⟩
  obtain ⟨q, hq⟩ := Option.isSome_iff_exists.mp hsome
  have hqrule : q.rule = rule.pk ∧ q.success = true := by simpa using List.find?_some hq
  have hsame : q = p := List.inj_on_of_nodup_map hnodup (List.mem_of_find?_eq_some hq) hp
    (hqrule.1.trans hrule.symm)
  rw [completedBefore]
  simp only [hfilled, if_true]
  rw [hq, hsame]

theorem wp_runRule (hcup : orderCup s.db o.pk = some c) (hcounts : Counts o.pk c.pk s.db count)
    (hprev : count rule.pk = linkCount o.metadata.ruleResults rule.pk)
    (hnodup : (o.metadata.ruleResults.map (·.rule)).Nodup)
    (hsome : ∀ r ∈ o.metadata.ruleResults, r.success = true → 0 < r.createdLinkCount)
    (hfailed : FailedEmpty o.metadata.ruleResults) :
    Prog.wp (runRule platform now o c.pk rule)
      (fun r s' => Ran o.pk c.pk rule o.metadata.ruleResults count s.db s'.db r)
      (fun _ _ => True) s := by
  rw [runRule, Prog.wp_bind, Prog.wp_readDb]
  dsimp only [id]
  cases hcompleted : completedBefore s.db o c.pk rule with
  | some p =>
      rw [completedBefore] at hcompleted
      have hp : p ∈ o.metadata.ruleResults ∧ p.rule = rule.pk ∧ p.success = true := by
        split at hcompleted
        · have hfound := List.find?_some hcompleted
          exact ⟨List.mem_of_find?_eq_some hcompleted, by simpa using hfound⟩
        · cases hcompleted
      have hcount : count rule.pk = p.createdLinkCount := by
        rw [hprev, ← hp.2.1, linkCount_of_mem hnodup hp.1]
      have hpos := hsome p hp.1 hp.2.2
      rw [Prog.wp_pure]
      exact
        { result := resultOf_ruleResult rule _
          frame := rfl
          same_cup := by rw [hcup, Option.map_some]
          counts := by
            have hsame : Function.update count rule.pk p.createdLinkCount = count := by
              rw [← hcount, Function.update_eq_self]
            rw [ruleResult, hsame]
            exact hcounts
          some_of_success := fun _ => hpos
          failed_before := fun hsuccess => absurd hsuccess (by simp [ruleResult]) }
  | none =>
      have hbefore : ∀ p ∈ o.metadata.ruleResults, p.rule = rule.pk → p.success = false := by
        intro p hp hrule
        by_contra hnot
        have hsuccess : p.success = true := by simpa using hnot
        have hfound := completedBefore_of_success hcup hcounts hprev hnodup (hsome p hp hsuccess)
          hp hrule hsuccess
        rw [hcompleted] at hfound
        cases hfound
      -- The rule has no items: it had no result, or it failed without any link.
      have hnone : count rule.pk = 0 := by
        by_cases hmem : rule.pk ∈ o.metadata.ruleResults.map (·.rule)
        · obtain ⟨p, hp, hrule⟩ := List.mem_map.mp hmem
          rw [hprev, ← hrule, linkCount_of_mem hnodup hp]
          exact hfailed p hp (hbefore p hp hrule)
        · rw [hprev, linkCount_of_notMem hmem]
      have hran : ∀ (r : RuleResult) (s' : Shop),
          (ResultOf rule r ∧ ∃ links, PutsIn o.pk c rule s.db s'.db r links) →
            Ran o.pk c.pk rule o.metadata.ruleResults count s.db s'.db r := by
        rintro r s' ⟨hresult, links, hputs⟩
        refine ⟨hresult, hputs.frame, ?_, hcounts.putsIn hcup hputs hnone, ?_, fun _ => hbefore⟩
        · rw [hputs.cup, Option.map_some]
        · intro hsuccess
          rw [hputs.count]
          exact List.length_pos_iff.mpr (hputs.some_of_success hsuccess)
      dsimp only
      cases rule.sourceType with
      | panelInbound =>
          exact Prog.wp_mono (wp_createPanelLinksForRule hcup) hran fun _ _ h => h
      | inventoryPool =>
          have hallocations : cupAllocations s.db c.pk rule.pk = [] := by
            have hempty : activeItems (cupItems s.db o.pk) rule.pk = [] := by
              rw [← List.length_eq_zero_iff, hcounts.items, hnone]
            have hmap := hcounts.allocations rule.pk
            rw [hempty, List.filterMap_nil] at hmap
            exact List.map_eq_nil_iff.mp hmap.symm
          exact Prog.wp_mono (wp_createInventoryLinksForRule hcup hallocations) hran
            fun _ _ h => h

/-! ## All rules -/

theorem linkCount_snoc {r : RuleResult} (hr : r.rule ∉ results.map (·.rule)) :
    linkCount (results ++ [r] ++ prev) =
      Function.update (linkCount (results ++ prev)) r.rule r.createdLinkCount := by
  funext n
  rw [linkCount_append, List.map_append]
  by_cases hn : n = r.rule
  · subst hn
    rw [if_pos (by simp), Function.update_self, linkCount_append, if_neg hr, linkCount_singleton,
      if_pos rfl]
  · rw [Function.update_of_ne hn, linkCount_append, linkCount_append]
    by_cases hmem : n ∈ results.map (·.rule)
    · rw [if_pos (List.mem_append_left _ hmem), if_pos hmem, if_pos hmem]
    · rw [if_neg (by simp [hmem, hn]), if_neg hmem]

/-- Two beginnings of a list that end with the same element are equal. -/
theorem prefix_eq_of_getLast? {l l' whole : List ℕ} {n : ℕ} (hwhole : whole.Nodup)
    (h : l <+: whole) (h' : l' <+: whole) (hl : l.getLast? = some n) (hl' : l'.getLast? = some n) :
    l = l' := by
  have hshort : ∀ {m m' : List ℕ}, m <+: m' → m' <+: whole → m.getLast? = some n →
      m'.getLast? = some n → m = m' := by
    rintro m m' ⟨t, ht⟩ hm' hlast hlast'
    subst ht
    cases t with
    | nil => rw [List.append_nil]
    | cons x t =>
        have hmem : n ∈ m := List.mem_of_getLast? hlast
        rw [List.getLast?_append_of_ne_nil _ (List.cons_ne_nil x t)] at hlast'
        have hmem' : n ∈ x :: t := List.mem_of_getLast? hlast'
        have hnodup := hwhole.sublist hm'.sublist
        rw [List.nodup_append] at hnodup
        exact absurd rfl (hnodup.2.2 n hmem n hmem')
  rcases List.prefix_or_prefix_of_prefix h h' with hle | hle
  · exact hshort hle h' hl hl'
  · exact (hshort hle h hl' hl).symm

/-- The state within an attempt: the rules so far have their new results, the others those of
the earlier attempts. -/
structure Filling (k cup : ℕ) (strict : Bool) (rules : List FillerRule) (prev : List RuleResult)
    (db : Db) (left : List FillerRule) (results : List RuleResult) (db' : Db) : Prop where
  frame : db' = { db with
    cups := db'.cups
    assets := db'.assets
    allocations := db'.allocations }
  same_cup : (orderCup db' k).map (·.pk) = some cup
  counts : Counts k cup db' (linkCount (results ++ prev))
  recorded : OnRecord strict rules results
  progress : (strict = true ∧ requiredFailed results = true) ∨
    ∃ done, rules = done ++ left ∧ results.map (·.rule) = done.map (·.pk)
  failed_before : ∀ r ∈ results, r.success = false → ∀ p ∈ prev, p.rule = r.rule →
    p.success = false

theorem Filling.step {strict : Bool} {left : List FillerRule} {db db' db'' : Db} {r : RuleResult}
    (h : Filling k cup strict rules prev db (rule :: left) results db')
    (hgoes : ¬ (strict = true ∧ requiredFailed results = true))
    (hrules : (rules.map (·.pk)).Nodup)
    (hran : Ran k cup rule prev (linkCount (results ++ prev)) db' db'' r) :
    Filling k cup strict rules prev db left (results ++ [r]) db'' := by
  obtain ⟨done, hsplit, hdone⟩ := h.progress.resolve_left hgoes
  have hpk : r.rule = rule.pk := hran.result.pk
  have hnew : r.rule ∉ results.map (·.rule) := by
    rw [hsplit, List.map_append, List.map_cons, List.nodup_append] at hrules
    rw [hpk, hdone]
    exact fun hmem => hrules.2.2 _ hmem _ List.mem_cons_self rfl
  have hrule : rule ∈ rules := by simp [hsplit]
  have hkeys : (results ++ [r]).map (·.rule) = (done ++ [rule]).map (·.pk) := by
    rw [List.map_append, List.map_append, hdone, List.map_singleton, List.map_singleton, hpk]
  have hsplit' : rules = (done ++ [rule]) ++ left := by rw [hsplit, List.append_assoc]; rfl
  exact
    { frame := by rw [hran.frame, h.frame]
      same_cup := hran.same_cup
      counts := by
        rw [linkCount_snoc hnew, hpk]
        exact hran.counts
      recorded :=
        { follows := by
            rw [hkeys, hsplit']
            exact (List.prefix_append _ left).map _
          result := by
            intro x hx
            rcases List.mem_append.mp hx with hx | hx
            · exact h.recorded.result x hx
            · rw [List.mem_singleton.mp hx]
              exact ⟨rule, hrule, hran.result⟩
          some_of_success := by
            intro x hx
            rcases List.mem_append.mp hx with hx | hx
            · exact h.recorded.some_of_success x hx
            · rw [List.mem_singleton.mp hx]
              exact hran.some_of_success
          strict_last := by
            intro hstrict x hx hrequired herrors
            rcases List.mem_append.mp hx with hx | hx
            · refine absurd ⟨hstrict, List.any_eq_true.mpr ⟨x, hx, ?_⟩⟩ hgoes
              simp [hrequired, herrors]
            · rw [List.mem_singleton.mp hx]
              simp }
      progress := .inr ⟨done ++ [rule], hsplit', hkeys⟩
      failed_before := by
        intro x hx
        rcases List.mem_append.mp hx with hx | hx
        · exact h.failed_before x hx
        · rw [List.mem_singleton.mp hx, hpk]
          exact hran.failed_before }

/-- At the end of an attempt the results count all the links. -/
theorem Filling.finish {strict : Bool} {db db' : Db}
    (h : Filling k cup strict rules prev db [] results db')
    (hprev : OnRecord strict rules prev) (hrules : (rules.map (·.pk)).Nodup) :
    Counts k cup db' (linkCount results) := by
  have hcount : linkCount (results ++ prev) = linkCount results := by
    funext n
    rw [linkCount_append]
    by_cases hn : n ∈ results.map (·.rule)
    · rw [if_pos hn]
    · rw [if_neg hn, linkCount_of_notMem hn]
      refine linkCount_of_notMem fun hmem => hn ?_
      rcases h.progress with ⟨hstrict, hstopped⟩ | ⟨done, hsplit, hdone⟩
      · -- The rules stopped at one that failed before, too; so the earlier ones stopped there.
        have hle : results.map (·.rule) <+: prev.map (·.rule) := by
          rcases List.prefix_or_prefix_of_prefix h.recorded.follows hprev.follows with hle | hle
          · exact hle
          · exact absurd (hle.subset hmem) hn
        obtain ⟨r, hr, hfailed⟩ := List.any_eq_true.mp hstopped
        have hrequired : r.required = true ∧ r.errors ≠ [] := by simpa using hfailed
        obtain ⟨rule, hrule, hresult⟩ := h.recorded.result r hr
        obtain ⟨p, hp, hpr⟩ := List.mem_map.mp (hle.subset (List.mem_map_of_mem hr))
        obtain ⟨rule', hrule', hresult'⟩ := hprev.result p hp
        have hsame : rule' = rule := by
          refine List.inj_on_of_nodup_map hrules hrule' hrule ?_
          rw [← hresult'.pk, ← hresult.pk, hpr]
        have hfail : r.success = false := by
          by_contra hnot
          exact hrequired.2 (hresult.success.mp (by simpa using hnot))
        have hpfail := h.failed_before r hr hfail p hp hpr
        have hprequired : p.required = true := by
          rw [hresult'.required, hsame, ← hresult.required, hrequired.1]
        have hperrors : p.errors ≠ [] := by
          intro hnone
          rw [hresult'.success.mpr hnone] at hpfail
          cases hpfail
        have hlast := h.recorded.strict_last hstrict r hr hrequired.1 hrequired.2
        have hplast := hprev.strict_last hstrict p hp hprequired hperrors
        rw [hpr] at hplast
        rw [prefix_eq_of_getLast? hrules h.recorded.follows hprev.follows hlast hplast]
        exact hmem
      · rw [List.append_nil] at hsplit
        rw [hdone, ← hsplit]
        exact hprev.follows.subset hmem
  have hcounts := h.counts
  rw [hcount] at hcounts
  exact hcounts

theorem wp_runRules {strict : Bool} (hcup : orderCup s.db o.pk = some c)
    (hcounts : Counts o.pk c.pk s.db (linkCount o.metadata.ruleResults))
    (hrecorded : OnRecord strict rules o.metadata.ruleResults)
    (hfailed : FailedEmpty o.metadata.ruleResults) (hrules : (rules.map (·.pk)).Nodup) :
    Prog.wp (runRules platform now o c.pk strict rules)
      (fun results s' =>
        Filling o.pk c.pk strict rules o.metadata.ruleResults s.db [] results s'.db)
      (fun _ _ => True) s := by
  let I : List FillerRule → List RuleResult → Shop → Prop := fun left results s' =>
    Filling o.pk c.pk strict rules o.metadata.ruleResults s.db left results s'.db
  have hstart : I rules [] s :=
    { frame := rfl
      same_cup := by rw [hcup, Option.map_some]
      counts := hcounts
      recorded := ⟨List.nil_prefix, by simp, by simp, by simp⟩
      progress := .inr ⟨[], rfl, rfl⟩
      failed_before := by simp }
  refine Prog.wp_mono (Prog.wp_forEach (I := I) (X := fun _ _ => True) hstart ?_)
    (fun _ _ h => h) fun _ _ h => h
  intro rule left results s₁ hfilling
  rw [Prog.wp_ite]
  refine ⟨fun hstopped => ?_, fun hgoes => ?_⟩
  · exact { hfilling with progress := .inl hstopped }
  · obtain ⟨c', hcup', hpk⟩ := Option.map_eq_some_iff.mp hfilling.same_cup
    obtain ⟨done, hsplit, hdone⟩ := hfilling.progress.resolve_left hgoes
    have hnew : rule.pk ∉ results.map (·.rule) := by
      have hnodup := hrules
      rw [hsplit, List.map_append, List.map_cons, List.nodup_append] at hnodup
      rw [hdone]
      exact fun hmem => hnodup.2.2 _ hmem _ List.mem_cons_self rfl
    have hcount : linkCount (results ++ o.metadata.ruleResults) rule.pk =
        linkCount o.metadata.ruleResults rule.pk := by
      rw [linkCount_append, if_neg hnew]
    rw [Prog.wp_bind, ← hpk]
    refine Prog.wp_mono (wp_runRule hcup' (hpk ▸ hfilling.counts) hcount (hrecorded.nodup hrules)
      hrecorded.some_of_success hfailed) ?_ fun _ _ h => h
    intro r s₂ hran
    rw [hpk] at hran
    exact hfilling.step hgoes hrules hran

/-! ## One attempt -/

theorem nodup_recipeRules (db : Db) (recipe : ℕ) : ((recipeRules db recipe).map (·.pk)).Nodup := by
  have hperm : (recipeRules db recipe).Perm
      (db.rules.rows.filter fun r => r.recipe = recipe ∧ r.isActive) := List.perm_insertionSort ..
  rw [(hperm.map _).nodup_iff]
  exact db.rules.keys_nodup.sublist (List.filter_sublist.map _)

/-- The cup of the order holds what its results count. -/
structure FilledOnce (k : ℕ) (recipe : Recipe) (db : Db) : Prop where
  counts : Counts k (cupKey db k) db (linkCount (orderResults db k))
  recorded : OnRecord (recipe.failurePolicy = .strict) (recipeRules db recipe.pk)
    (orderResults db k)

/-- The items and the allocations are what is counted. -/
theorem Counts.congr {cup' : ℕ} {db db' : Db} (h : Counts k cup db count)
    (hitems : cupItems db' k = cupItems db k)
    (hallocations : ∀ n, (cupAllocations db' cup' n).map (·.pk) =
      (cupAllocations db cup n).map (·.pk)) : Counts k cup' db' count where
  items n := by rw [hitems, h.items]
  allocations n := by rw [hitems, h.allocations, hallocations]

theorem wp_ensureCup :
    Prog.wp (ensureCup k)
      (fun key s' => key = cupKey s.db k ∧ (orderCup s'.db k).map (·.pk) = some key ∧
        cupItems s'.db k = cupItems s.db k ∧ s'.db = { s.db with cups := s'.db.cups })
      (fun _ _ => False) s := by
  rw [ensureCup, Prog.wp_bind, Prog.wp_readDb]
  dsimp only [id]
  cases hcup : orderCup s.db k with
  | some c => exact ⟨by simp [cupKey, hcup], by simp [hcup], rfl, rfl⟩
  | none =>
      have hnew : orderCup (s.db.addCup k) k = some (newCup s.db k) := by
        have hrows : (s.db.addCup k).cups.rows = s.db.cups.rows ++ [newCup s.db k] := rfl
        rw [orderCup, hrows, List.find?_append, ← orderCup, hcup, Option.none_or]
        simp [newCup]
      dsimp only
      rw [Prog.wp_bind, Prog.wp_writeDb, Prog.wp_pure]
      refine ⟨by simp [cupKey, hcup], ?_, ?_, rfl⟩
      · rw [hnew, Option.map_some, newCup_pk]
      · rw [cupItems, cupItems, hnew, hcup]
        rfl

/-- The cup that an attempt starts from has the items that it had. -/
theorem wp_createOrReuseOrderCup :
    Prog.wp (createOrReuseOrderCup now k)
      (fun key s' => key = cupKey s.db k ∧ (orderCup s'.db k).map (·.pk) = some key ∧
        cupItems s'.db k = cupItems s.db k ∧ s'.db = { s.db with cups := s'.db.cups })
      (fun _ _ => False) s := by
  rw [createOrReuseOrderCup, Prog.wp_bind]
  refine Prog.wp_mono wp_ensureCup ?_ fun _ _ h => h
  rintro key s' ⟨hkey, hcup, hitems, hframe⟩
  obtain ⟨c, hc, rfl⟩ := Option.map_eq_some_iff.mp hcup
  rw [Prog.wp_bind, Prog.wp_readDb, Prog.wp_bind, Prog.wp_writeDb, Prog.wp_pure]
  generalize cupExpiresAt now (orderDays s'.db k) = e
  have hreused : orderCup (s'.db.setCup c.pk (reuseCup e) (reuseCup_pk e)) k =
      some (reuseCup e c) := orderCup_setCup _ (fun _ => ⟨rfl, rfl⟩) hc
  refine ⟨hkey, ?_, ?_, ?_⟩
  · rw [hreused, Option.map_some, reuseCup_pk]
  · rw [← hitems, cupItems, cupItems, hreused, hc]
    rfl
  · have hset : ∀ (db : Db) (cups : Cups), db = { s.db with cups := cups } →
        db.setCup c.pk (reuseCup e) (reuseCup_pk e) = { s.db with
          cups := (db.setCup c.pk (reuseCup e) (reuseCup_pk e)).cups } := by
      intro db cups hdb
      subst hdb
      rfl
    exact hset s'.db s'.db.cups hframe

theorem map_cupAllocations_adopt (db : Db) (order cup n : ℕ) (j : ℕ) :
    (cupAllocations (db.adoptAllocations order cup) j n).map (·.pk) =
      (cupAllocations db j n).map (·.pk) := by
  have hrows : (db.adoptAllocations order cup).allocations.rows =
      db.allocations.rows.map (adoptAllocation order cup) := rfl
  have hsame : ((fun a : ConfigAllocation =>
      decide (a.cup = some j ∧ a.recipeRule = some n ∧ a.isActive)) ∘ adoptAllocation order cup) =
        fun a => decide (a.cup = some j ∧ a.recipeRule = some n ∧ a.isActive) := by
    funext a
    rw [Function.comp, adoptAllocation]
    split <;> rfl
  rw [cupAllocations, hrows, List.filter_map, hsame, ← cupAllocations, List.map_map]
  exact List.map_congr_left fun a _ => adoptAllocation_pk order cup a

theorem orderResults_setOrder (db : Db) (k : ℕ) (f : Order → Order) (hf : ∀ o, (f o).pk = o.pk) :
    orderResults (db.setOrder k f hf) k =
      ((db.orders.get? k).map fun o => (f o).metadata.ruleResults).getD [] := by
  rw [orderResults, Db.setOrder, Table.get?_modify, Option.map_map]
  congr 2
  funext o
  simp

/-- The order takes the results of its rules on record. -/
theorem FilledOnce.wp_finish (ho : s.db.orders.get? k = some o)
    (hcounts : Counts k (cupKey s.db k) s.db (linkCount results))
    (hrecorded : OnRecord (recipe.failurePolicy = .strict) (recipeRules s.db recipe.pk) results)
    {delivers : Bool} {safeError : String} {cup : ℕ} {result : ProvisioningResult} :
    Prog.wp (do
        saveOrder now k (finishRecipe now actor delivers safeError results)
          (finishRecipe_pk now actor delivers safeError results)
        Prog.writeDb (·.adoptAllocations k cup)
        return result : ShopM ProvisioningResult)
      (fun _ s' => FilledOnce k recipe s'.db) (fun _ _ => False) s := by
  rw [Prog.wp_bind, saveOrder, Prog.wp_writeDb, Prog.wp_bind, Prog.wp_writeDb, Prog.wp_pure]
  set saved := s.db.setOrder k
    (fun o => (finishRecipe now actor delivers safeError results o).save now) _ with hsaved
  have hresults : orderResults saved k = results := by
    rw [hsaved, orderResults_setOrder, ho]
    cases delivers <;> rfl
  refine ⟨?_, ?_⟩
  · change Counts k _ _ (linkCount (orderResults saved k))
    rw [hresults]
    exact hcounts.congr rfl fun n => map_cupAllocations_adopt saved k cup n _
  · change OnRecord _ _ (orderResults saved k)
    rw [hresults]
    exact hrecorded

/-- An attempt in which no failed rule has links keeps the cup in order. -/
theorem FilledOnce.wp_fulfillOrderWithRecipe (h : FilledOnce k recipe s.db)
    (hfailed : FailedEmpty (orderResults s.db k)) :
    Prog.wp (fulfillOrderWithRecipe platform now actor k recipe)
      (fun _ s' => FilledOnce k recipe s'.db) (fun _ s' => FilledOnce k recipe s'.db) s := by
  rw [fulfillOrderWithRecipe, Prog.wp_atomic, Prog.wp_bind, saveOrder, Prog.wp_writeDb,
    Prog.wp_bind, getOrder, Prog.wp_bind, Prog.wp_readDb, Prog.wp_orRaise]
  dsimp only
  set counted := s.db.setOrder k (fun o => (countAttempt o).save now) _ with hcounted
  cases ho : counted.orders.get? k with
  | none => exact h
  | some o =>
      dsimp only
      obtain rfl : o.pk = k := (Table.mem_of_get? ho).2
      have hprev : o.metadata.ruleResults = orderResults s.db o.pk := by
        have hsame : orderResults counted o.pk = orderResults s.db o.pk := by
          rw [hcounted, orderResults_setOrder]
          rfl
        rw [← hsame, orderResults, ho]
        rfl
      rw [Prog.wp_bind]
      refine Prog.wp_mono (wp_createOrReuseOrderCup (s := { s with db := counted })) ?_ fun _ _ h => h.elim
      rintro cup s₁ ⟨hkey, hcup, hitems, hframe⟩
      obtain ⟨c, hc, rfl⟩ := Option.map_eq_some_iff.mp hcup
      rw [Prog.wp_bind, Prog.wp_readDb]
      dsimp only [id]
      have hrules : recipeRules s₁.db recipe.pk = recipeRules s.db recipe.pk := by
        rw [hframe]
        rfl
      have hcounts : Counts o.pk c.pk s₁.db (linkCount o.metadata.ruleResults) := by
        rw [hprev]
        refine h.counts.congr hitems fun n => ?_
        rw [hkey, hframe]
        rfl
      have hrecorded := h.recorded
      rw [← hprev, ← hrules] at hrecorded
      rw [Prog.wp_bind]
      refine Prog.wp_mono (wp_runRules hc hcounts hrecorded (hprev ▸ hfailed)
        (nodup_recipeRules _ _)) ?_ fun _ _ _ => h
      intro results s₂ hfilling
      have hkey₂ : cupKey s₂.db o.pk = c.pk := by
        rw [cupKey, hfilling.same_cup, Option.getD_some]
      have ho₂ : s₂.db.orders.get? o.pk = some o := by
        rw [hfilling.frame, hframe]
        exact ho
      have hrules₂ : recipeRules s₂.db recipe.pk = recipeRules s₁.db recipe.pk := by
        rw [hfilling.frame]
        rfl
      have hcounts₂ : Counts o.pk (cupKey s₂.db o.pk) s₂.db (linkCount results) := by
        rw [hkey₂]
        exact hfilling.finish hrecorded (nodup_recipeRules _ _)
      have hrecorded₂ := hfilling.recorded
      rw [← hrules₂] at hrecorded₂
      exact Prog.wp_mono (FilledOnce.wp_finish ho₂ hcounts₂ hrecorded₂) (fun _ _ h => h)
        fun _ _ h => h.elim

/-! ## All attempts -/

/-- An attempt to fill the cup, or what others do to the shop and its panels meanwhile. -/
inductive RecipeOp
  | attempt (now : Instant) (actor : Option ℕ) (signals : List Signal)
  | meanwhile (db : Db) (remote : Remote)

def recipeStep (platform : Platform) (recipe : Recipe) (k : ℕ) (s : Shop) : RecipeOp → Shop
  | .attempt now actor signals =>
      (fulfillOrderWithRecipe platform now actor k recipe { s with signals := signals }).2
  | .meanwhile db remote => { s with db := db, remote := remote }

/-- Others leave the recipe, the order's results, its cup and the allocations of it alone. -/
structure CupLeftAlone (k : ℕ) (recipe : Recipe) (db db' : Db) : Prop where
  rules : recipeRules db' recipe.pk = recipeRules db recipe.pk
  results : orderResults db' k = orderResults db k
  items : cupItems db' k = cupItems db k
  allocations : ∀ n, cupAllocations db' (cupKey db' k) n = cupAllocations db (cupKey db k) n

/-- No failed rule of the last attempt put links into the cup. -/
def Untangled (k : ℕ) (recipe : Recipe) (s : Shop) : RecipeOp → Prop
  | .attempt _ _ _ => FailedEmpty (orderResults s.db k)
  | .meanwhile db _ => CupLeftAlone k recipe s.db db

theorem filledOnce_recipeStep {op : RecipeOp} (h : FilledOnce k recipe s.db)
    (hop : Untangled k recipe s op) : FilledOnce k recipe (recipeStep platform recipe k s op).db := by
  cases op with
  | attempt now actor signals =>
      exact Prog.snd_of_wp (P := fun s' : Shop => FilledOnce k recipe s'.db)
        (FilledOnce.wp_fulfillOrderWithRecipe (s := { s with signals := signals }) h hop)
  | meanwhile db remote =>
      refine ⟨?_, ?_⟩
      · have hresults : orderResults db k = orderResults s.db k := hop.results
        change Counts k (cupKey db k) db (linkCount (orderResults db k))
        rw [hresults]
        exact h.counts.congr hop.items fun n => by rw [hop.allocations]
      · have hrecorded := h.recorded
        rw [← hop.results, ← hop.rules] at hrecorded
        exact hrecorded

/-- An order of a plan whose recipe makes two clients on one inbound. -/
def recipeShop : Shop where
  db :=
    { orders := Table.empty.put { pk := 1, publicId := "o1", orderTrackingCode := "T1", plan := 3 }
      sms := .empty
      clients := .empty
      inbounds := Table.empty.put { pk := 5, panel := 4, inboundId := 7 }
      panels := Table.empty.put { pk := 4, capabilityProfile := .modernSingleNode }
      plans := Table.empty.put
        { pk := 3, price := 90, trafficLimitBytes := 1000, durationDays := 30, deviceLimit := 2 }
      stores := .empty
      automations := .empty
      rules := Table.empty.put
        { pk := 6, recipe := 2, sourceType := .panelInbound, quantity := 2, panel := some 4 } }
  remote := {}

def twoClientRecipe : Recipe := { pk := 2, plan := 3 }

def recipePlatform : Platform :=
  .ofTables
    [("qasedak|paid-multi-inbound-provisioning|o1|T1|4|4:local:7|6001",
        "918357f5-aa17-5122-bc8d-fabf120436d6"),
      ("qasedak|paid-multi-inbound-provisioning|o1|T1|4|4:local:7|6002",
        "80ab7692-3ad9-5513-8b12-326c78612398")]
    [("sub:qasedak|paid-multi-inbound-provisioning|o1|T1|4|4:local:7|6001",
        "fef6016e9524e0ef51e510847f458b4196235c3525ed91c813655ac3bd6d7e2b"),
      ("sub:qasedak|paid-multi-inbound-provisioning|o1|T1|4|4:local:7|6002",
        "41acbbdc78e2d44f68a70cb5b0edf7aa83b5ae1a71c9ec1ab4c3854cc9fa6535")]

end Qasedak.Orders
