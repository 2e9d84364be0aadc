import Qasedak.CustomerActivity.Mapping

/-! No row of a panel is the traffic of two purchases. -/

namespace Qasedak.CustomerActivity

open Foundation Store

/-- The rows count, in full or in part. -/
def Resolved (result : Dict PanelRow × String) : Prop :=
  result.2 = "" ∨ result.2 = "partial_coverage"

instance (result : Dict PanelRow × String) : Decidable (Resolved result) :=
  inferInstanceAs (Decidable (_ ∨ _))

theorem isMatch_of_resolveSource {rows : List PanelRow} {s : Source} {row : PanelRow}
    (h : resolveSource rows s = some row) : row ∈ rows ∧ isMatch s row = true := by
  unfold resolveSource at h
  split at h
  · split at h
    · rename_i only heq
      obtain rfl := Option.some.inj h
      have hmem : only ∈ rows.filter (isMatch s) := by simp [heq]
      exact List.mem_filter.mp hmem
    · cases h
  · cases h

/-- A source that a row matches has that row, or none. -/
theorem resolveSource_of_isMatch {rows : List PanelRow} {s : Source} {row : PanelRow}
    (hrow : row ∈ rows) (h : isMatch s row = true) :
    resolveSource rows s = some row ∨ resolveSource rows s = none := by
  have hmem : row ∈ rows.filter (isMatch s) := List.mem_filter.mpr ⟨hrow, h⟩
  cases hr : resolveSource rows s with
  | none => exact .inr rfl
  | some row' =>
      unfold resolveSource at hr
      split at hr
      · split at hr
        · rename_i only heq
          obtain rfl := Option.some.inj hr
          rw [heq, List.mem_singleton] at hmem
          exact .inl (congrArg some hmem.symm)
        · cases hr
      · cases hr

theorem laysClaim_of_isMatch {s : Source} {row : PanelRow} (h : isMatch s row = true) :
    laysClaim s row = true := by
  simp only [isMatch, isCandidate, Bool.and_eq_true, decide_eq_true_eq] at h
  obtain ⟨⟨⟨⟨hpanel, -⟩, hshares⟩, -⟩, -⟩ := h
  simp [laysClaim, hpanel, hshares]

section Claims

variable {digest : RowScope → String} {maps : List PurchaseMap} {orphans : List Source}
  {rows : List PanelRow}

theorem mem_claimants_of_resolved {m : PurchaseMap} {s : Source} {row : PanelRow}
    (hm : m ∈ maps) (hs : s ∈ m.sources) (h : resolveSource rows s = some row) :
    some m.order.pk ∈ claimants digest maps orphans rows (rowKey digest row) := by
  refine List.mem_dedup.mpr (List.mem_append_left _ (List.mem_flatMap.mpr ⟨m, hm, ?_⟩))
  exact List.mem_filterMap.mpr ⟨row, List.mem_filterMap.mpr ⟨s, hs, h⟩, if_pos rfl⟩

theorem mem_claimants_of_laysClaim {claimant : Option ℕ} {s : Source} {row : PanelRow}
    (hs : (claimant, s) ∈ unresolvedSources maps orphans rows) (hrow : row ∈ rows)
    (h : laysClaim s row = true) :
    claimant ∈ claimants digest maps orphans rows (rowKey digest row) := by
  refine List.mem_dedup.mpr (List.mem_append_right _ (List.mem_filterMap.mpr ⟨_, hs, if_pos ?_⟩))
  exact List.any_eq_true.mpr ⟨row, hrow, by simp [h]⟩

theorem mem_unresolvedSources {m : PurchaseMap} {s : Source} (hm : m ∈ maps) (hs : s ∈ m.sources)
    (h : resolveSource rows s = none) :
    (some m.order.pk, s) ∈ unresolvedSources maps orphans rows := by
  refine List.mem_append_left _ (List.mem_flatMap.mpr ⟨m, hm, List.mem_map.mpr ⟨s, ?_, rfl⟩⟩)
  exact List.mem_filter.mpr ⟨hs, by simp [h]⟩

theorem mem_unresolvedSources_of_orphan {s : Source} (hs : s ∈ orphans) :
    (none, s) ∈ unresolvedSources maps orphans rows :=
  List.mem_append_right _ (List.mem_map_of_mem hs)

/-- The rows of a purchase are those that its sources have. -/
theorem mem_knownRows {m : PurchaseMap} {key : String} {row : PanelRow}
    (h : (knownRows digest rows m).lookup key = some row) :
    rowKey digest row = key ∧ ∃ s ∈ m.sources, resolveSource rows s = some row := by
  obtain ⟨hmem, hkey⟩ := Dict.lookup_ofValues h
  exact ⟨hkey, List.mem_filterMap.mp hmem⟩

/-- Only the purchase lays claim to a row that counts for it. -/
theorem claimants_of_resolved {m : PurchaseMap} {key : String} {row : PanelRow}
    (hr : Resolved (resolveMap digest maps orphans rows m))
    (h : (resolveMap digest maps orphans rows m).1.lookup key = some row) :
    (knownRows digest rows m).lookup key = some row ∧
      (claimants digest maps orphans rows key).length ≤ 1 := by
  unfold resolveMap at hr h
  dsimp only at hr h
  by_cases hpartial : baseReason digest maps orphans rows m ≠ "" ∧ m.ownershipConflict = false ∧
      (exclusiveRows digest maps orphans rows m).entries ≠ []
  · rw [if_pos hpartial] at h
    obtain ⟨hknown, hp⟩ := Dict.lookup_filter h
    simp only [Bool.and_eq_true, decide_eq_true_eq] at hp
    exact ⟨hknown, hp.1.le⟩
  · rw [if_neg hpartial] at hr h
    refine ⟨h, ?_⟩
    have hempty : baseReason digest maps orphans rows m = "" := by
      rcases hr with hr | hr
      · exact hr
      · -- no reason of its own is partial coverage
        exfalso
        change baseReason digest maps orphans rows m = "partial_coverage" at hr
        unfold baseReason at hr
        split_ifs at hr <;> revert hr <;> decide
    unfold baseReason at hempty
    split_ifs at hempty with hconflict hshared
    · exact absurd hempty (by decide)
    · exact absurd hempty (by decide)
    all_goals
      have hkey : key ∈ (knownRows digest rows m).keys :=
        Dict.mem_keys_of_mem_entries (Dict.mem_entries_iff_lookup.mpr h)
      simp only [List.any_eq_true, decide_eq_true_eq, not_exists, not_and, not_lt] at hshared
      exact hshared key hkey

end Claims

/-- Whatever the purchases, the orphans and the rows: a row that counts for a purchase counts
for no other, is no match of any other purchase's sources, and shares no alias with a source
without a row, of another purchase or an orphan, that may be on the row's panel. -/
theorem resolveMaps_exclusive (digest : RowScope → String) (maps : List PurchaseMap)
    (orphans : List Source) (rows : List PanelRow) {m : PurchaseMap} (hm : m ∈ maps)
    (hr : Resolved (resolveMap digest maps orphans rows m)) {key : String} {row : PanelRow}
    (hrow : (resolveMap digest maps orphans rows m).1.lookup key = some row) :
    (∀ m' ∈ maps, m'.order.pk ≠ m.order.pk →
        (Resolved (resolveMap digest maps orphans rows m') →
          key ∉ (resolveMap digest maps orphans rows m').1.keys ∧
          row ∉ (resolveMap digest maps orphans rows m').1.values) ∧
        ∀ s ∈ m'.sources, isMatch s row = false ∧
          (resolveSource rows s = none → laysClaim s row = false)) ∧
      ∀ s ∈ orphans, laysClaim s row = false := by
  obtain ⟨hknown, hlength⟩ := claimants_of_resolved hr hrow
  obtain ⟨rfl, s₀, hs₀, hresolved⟩ := mem_knownRows hknown
  obtain ⟨hmem, -⟩ := isMatch_of_resolveSource hresolved
  have hself : some m.order.pk ∈ claimants digest maps orphans rows (rowKey digest row) :=
    mem_claimants_of_resolved hm hs₀ hresolved
  -- whoever lays claim to the row's key is the purchase itself
  have honly : ∀ claimant ∈ claimants digest maps orphans rows (rowKey digest row),
      claimant = some m.order.pk := by
    intro claimant hclaimant
    match hlist : claimants digest maps orphans rows (rowKey digest row) with
    | [] => simp [hlist] at hself
    | [only] =>
        rw [hlist, List.mem_singleton] at hself hclaimant
        rw [hclaimant, hself]
    | _ :: _ :: _ => simp [hlist] at hlength
  have hother : ∀ m' ∈ maps, m'.order.pk ≠ m.order.pk → ∀ s ∈ m'.sources,
      ∀ row', resolveSource rows s = some row' → rowKey digest row' ≠ rowKey digest row := by
    intro m' hm' hne s hs row' hrow' heq
    have := honly _ (heq ▸ mem_claimants_of_resolved hm' hs hrow')
    exact hne (Option.some.inj this)
  have hnone : ∀ claimant s, (claimant, s) ∈ unresolvedSources maps orphans rows →
      claimant ≠ some m.order.pk → laysClaim s row = false := by
    intro claimant s hs hne
    rw [← Bool.not_eq_true]
    exact fun h => hne (honly _ (mem_claimants_of_laysClaim hs hmem h))
  refine ⟨fun m' hm' hne => ⟨fun hr' => ?_, fun s hs => ?_⟩, fun s hs => ?_⟩
  · have hkey : ∀ row', (resolveMap digest maps orphans rows m').1.lookup (rowKey digest row) =
        some row' → False := by
      intro row' hrow'
      obtain ⟨hknown', -⟩ := claimants_of_resolved hr' hrow'
      obtain ⟨heq, s, hs, hs'⟩ := mem_knownRows hknown'
      exact hother m' hm' hne s hs row' hs' heq
    refine ⟨fun hmem' => ?_, fun hmem' => ?_⟩
    · obtain ⟨row', hrow'⟩ := Dict.exists_of_mem_keys hmem'
      exact hkey row' hrow'
    · obtain ⟨⟨key', row'⟩, hentry, rfl⟩ := List.mem_map.mp hmem'
      have hlookup := Dict.mem_entries_iff_lookup.mp hentry
      obtain ⟨hknown', -⟩ := claimants_of_resolved hr' hlookup
      obtain ⟨rfl, -⟩ := mem_knownRows hknown'
      exact hkey _ hlookup
  · have hunresolved : resolveSource rows s = none → laysClaim s row = false := fun h =>
      hnone _ s (mem_unresolvedSources hm' hs h) fun heq => hne (Option.some.inj heq)
    refine ⟨?_, hunresolved⟩
    rw [← Bool.not_eq_true]
    intro hmatch
    rcases resolveSource_of_isMatch hmem hmatch with h | h
    · exact hother m' hm' hne s hs row h rfl
    · have hclaim := laysClaim_of_isMatch hmatch
      rw [hunresolved h] at hclaim
      cases hclaim
  · exact hnone none s (mem_unresolvedSources_of_orphan hs) (by simp)

/-! ## One identity on two inbounds -/

/-- A digest that tells scopes apart. -/
def plainDigest (scope : RowScope) : String :=
  ":".intercalate [toString scope.panelId, scope.nodeId, scope.remoteInboundId,
    scope.identifierHash]

def purchaseOn (pk inbound : ℕ) : PurchaseMap where
  order := { pk := pk, plan := 3 }
  sources := [{ panelId := some 1, inboundId := some inbound, node := "", hashes := ["h"] }]

def rowOn (inbound : ℕ) : PanelRow where
  panelId := 1
  remoteInboundId := toString inbound
  inboundId := some inbound
  identifierHash := "h"
  aliases := ["h"]

def twoPurchases : List PurchaseMap := [purchaseOn 1 5, purchaseOn 2 6]

/-- An orphan that is known by another identity. -/
def strayIdentity : Source where
  panelId := none
  inboundId := none
  node := ""
  hashes := ["g"]

theorem resolveMaps_exclusive_twoPurchases :
    laysClaim strayIdentity (rowOn 5) = false := by
  have hrow : (resolveMap plainDigest twoPurchases [strayIdentity] [rowOn 5, rowOn 6]
      (purchaseOn 1 5)).1.lookup "1::5:h" = some (rowOn 5) := by decide +kernel
  exact (resolveMaps_exclusive plainDigest twoPurchases [strayIdentity] [rowOn 5, rowOn 6]
    List.mem_cons_self (by decide +kernel) hrow).2 strayIdentity List.mem_cons_self

/-- The row of one purchase carries the alias of another, on another inbound. -/
theorem alias_of_other_purchase :
    (resolveMap plainDigest twoPurchases [] [rowOn 5, rowOn 6] (purchaseOn 1 5)).2 = "" ∧
      (resolveMap plainDigest twoPurchases [] [rowOn 5, rowOn 6] (purchaseOn 1 5)).1.values =
        [rowOn 5] ∧
      ∀ s ∈ (purchaseOn 2 6).sources, sharesAlias s (rowOn 5) = true := by
  decide +kernel

end Qasedak.CustomerActivity
