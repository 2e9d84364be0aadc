import Qasedak.CupCenter.QuickBuild
import Qasedak.CupCenter.ServedStock
import Mathlib.Algebra.BigOperators.Group.List.Basic

/-! What a quick build reports against what it stored. An item that was rolled back stays in the
list of items, so a report is true just when no group fails after one of its entries. -/

namespace Qasedak.CupCenter

open Foundation Store Orders

/-! ## What is stored -/

/-- The items of a cup, in the order in which they were made. -/
def Center.itemsOf (c : Center) (cup : ℕ) : List CupItem := c.items.rows.filter (·.cup = cup)

/-- The report of a build says what the build stored. -/
structure Truthful (request : BuildRequest) (report : QuickBuildReport) (c : Center) : Prop where
  items : report.cupItems = (c.itemsOf report.cup).map (·.pk)
  created : report.cupItemsCreated = (c.itemsOf report.cup).length
  accounted : report.cupItemsCreated + report.failedRejectedSkippedCount =
    selectedSourcesCount request
  success : report.status = .success ↔
    (c.itemsOf report.cup).length = selectedSourcesCount request
  failed : report.status = .failed ↔ c.itemsOf report.cup = []
  allocations : ∀ a ∈ c.stock.db.allocations.rows, a.cup = some report.cup → a.isActive = true →
    ∃ x ∈ c.itemsOf report.cup, x.metadata.allocation = some a.pk
  positions : ((c.itemsOf report.cup).map (·.position)).Nodup

/-- The panel made all clients of the group, with links that may be stored. -/
def PanelGroup.Made (lacksPublicKey : String → Bool) (g : PanelGroup) : Prop :=
  g.refusal = none ∧ "" ∉ g.entries ∧ g.entries.any lacksPublicKey = false

/-- The database fails at an entry of the group after the first. -/
def PanelGroup.FailsMidway (lacksPublicKey : String → Bool) (g : PanelGroup) : Prop :=
  g.Made lacksPublicKey ∧ ∃ failure ∈ g.failure, 0 < failure.entry ∧
    failure.entry < g.inbounds.length

instance (lacksPublicKey : String → Bool) (g : PanelGroup) : Decidable (g.Made lacksPublicKey) :=
  inferInstanceAs (Decidable (_ ∧ _))

instance (lacksPublicKey : String → Bool) (g : PanelGroup) :
    Decidable (g.FailsMidway lacksPublicKey) :=
  inferInstanceAs (Decidable (_ ∧ _))

/-- The items of the group that the report lists and the database does not have. -/
def PanelGroup.ghosts (lacksPublicKey : String → Bool) (g : PanelGroup) : ℕ :=
  if g.FailsMidway lacksPublicKey then (g.failure.map (·.entry)).getD 0 else 0

/-- The foreign keys of the items and the allocations lead to cups that exist. -/
structure Center.Housed (c : Center) : Prop where
  items : ∀ x ∈ c.items.rows, (c.cups.get? x.cup).isSome
  allocations : ∀ a ∈ c.stock.db.allocations.rows, ∀ cup ∈ a.cup, (c.cups.get? cup).isSome

variable {format : LinkFormat} {cup : ℕ} {lacksPublicKey : String → Bool} {c c' : Center}
  {b b' : Build} {links : List String} {failure : Option ℕ}

theorem length_entries (g : PanelGroup) : g.entries.length = g.inbounds.length := by
  simp [PanelGroup.entries]

/-! ## Entries -/

/-- The lists and the cup after so many more entries. -/
structure Extends (cup : ℕ) (b b' : Build) (n : ℕ) : Prop where
  cups : b'.center.cups = b.center.cups
  stock : b'.center.stock = b.center.stock
  position : b'.position = b.position + n
  items : ∃ new : List CupItem, b'.center.itemsOf cup = b.center.itemsOf cup ++ new ∧
    new.length = n ∧ b'.cupItems = b.cupItems ++ new.map (·.pk) ∧
    new.map (·.position) = List.range' b.position n

theorem Extends.refl (b : Build) : Extends cup b b 0 where
  cups := rfl
  stock := rfl
  position := rfl
  items := ⟨[], by simp, rfl, by simp, rfl⟩

theorem itemsOf_addLink (c : Center) (position : ℕ) (raw : String) (metadata : InventoryIdentity) :
    (c.addLink format cup position raw metadata).itemsOf cup =
      c.itemsOf cup ++ [newItem c cup c.links.nextKey position metadata] := by
  have hnew : [newItem c cup c.links.nextKey position metadata].filter
      (fun x => decide (x.cup = cup)) = [newItem c cup c.links.nextKey position metadata] := by
    simp [newItem]
  rw [← hnew]
  exact List.filter_append _ _

theorem extends_append (b : Build) (raw : String) :
    Extends cup b (b.append format cup raw) 1 where
  cups := rfl
  stock := rfl
  position := rfl
  items := ⟨[newItem b.center cup b.center.links.nextKey b.position {}],
    itemsOf_addLink b.center b.position raw {}, rfl, rfl, rfl⟩

theorem Extends.trans {b'' : Build} {n n' : ℕ} (h : Extends cup b b' n)
    (h' : Extends cup b' b'' n') : Extends cup b b'' (n + n') := by
  obtain ⟨new, hitems, hlength, hpks, hpositions⟩ := h.items
  obtain ⟨new', hitems', hlength', hpks', hpositions'⟩ := h'.items
  refine ⟨h'.cups.trans h.cups, h'.stock.trans h.stock, ?_, new ++ new', ?_, ?_, ?_, ?_⟩
  · rw [h'.position, h.position, Nat.add_assoc]
  · rw [hitems', hitems, List.append_assoc]
  · rw [List.length_append, hlength, hlength']
  · rw [hpks', hpks, List.map_append, List.append_assoc]
  · rw [List.map_append, hpositions, hpositions', h.position]
    simp

/-- The loop stops at the entry that fails, with the lists as they are by then. -/
theorem storeEntries_spec (failure : Option ℕ) (links : List String) (b : Build) :
    (∀ k ∈ failure, links.length ≤ k) ∧
        (storeEntries format cup failure links b).1 = true ∧
        Extends cup b (storeEntries format cup failure links b).2 links.length ∨
      ∃ k ∈ failure, k < links.length ∧ (storeEntries format cup failure links b).1 = false ∧
        Extends cup b (storeEntries format cup failure links b).2 k := by
  induction links generalizing failure b with
  | nil =>
      refine .inl ⟨fun k _ => Nat.zero_le k, ?_, ?_⟩
      · simp [storeEntries]
      · simpa [storeEntries] using Extends.refl b
  | cons raw links ih =>
      have hone := @extends_append format cup b raw
      cases failure with
      | none =>
          rcases ih none (b.append format cup raw) with ⟨-, htrue, hrest⟩ | ⟨k, hk, -⟩
          · refine .inl ⟨fun k hk => absurd hk (by simp), htrue, ?_⟩
            rw [List.length_cons, Nat.add_comm]
            exact hone.trans hrest
          · cases hk
      | some n =>
          cases n with
          | zero =>
              refine .inr ⟨0, rfl, by simp, rfl, ?_⟩
              exact Extends.refl b
          | succ n =>
              have hstep : storeEntries format cup (some (n + 1)) (raw :: links) b =
                  storeEntries format cup (some n) links (b.append format cup raw) := rfl
              rw [hstep]
              rcases ih (some n) (b.append format cup raw) with
                ⟨hlate, htrue, hrest⟩ | ⟨k, hk, hlt, hfalse, hrest⟩
              · refine .inl ⟨?_, htrue, ?_⟩
                · intro k hk
                  obtain rfl := Option.mem_some.mp hk
                  exact Nat.succ_le_succ (hlate n rfl)
                · rw [List.length_cons, Nat.add_comm]
                  exact hone.trans hrest
              · obtain rfl := Option.mem_some.mp hk
                refine .inr ⟨n + 1, rfl, by simpa using hlt, hfalse, ?_⟩
                rw [Nat.add_comm]
                exact hone.trans hrest

/-! ## Groups -/

/-- What a build has stored so far, of so many sources, with what it reports of the rest. -/
structure Stored (cup : ℕ) (b : Build) (sources failed ghosts : ℕ) : Prop where
  count : b.cupItems.length = (b.center.itemsOf cup).length + ghosts
  items : ghosts = 0 → b.cupItems = (b.center.itemsOf cup).map (·.pk)
  accounted : (b.center.itemsOf cup).length + failed = sources
  allocations : ∀ a ∈ b.center.stock.db.allocations.rows, a.cup = some cup → a.isActive = true →
    ∃ x ∈ b.center.itemsOf cup, x.metadata.allocation = some a.pk
  positions : ((b.center.itemsOf cup).map (·.position)).Nodup

/-- The count of positions is ahead of the stored ones. -/
def Below (cup : ℕ) (b : Build) : Prop := ∀ x ∈ b.center.itemsOf cup, x.position < b.position

/-- All entries of a group were stored. -/
theorem Stored.extend {sources failed ghosts n : ℕ} (h : Stored cup b sources failed ghosts)
    (hbelow : Below cup b) (hextends : Extends cup b b' n) :
    Stored cup b' (sources + n) failed ghosts ∧ Below cup b' := by
  obtain ⟨new, hitems, hlength, hpks, hpositions⟩ := hextends.items
  have hrange : ∀ x ∈ new, b.position ≤ x.position ∧ x.position < b.position + n := by
    intro x hx
    have hmem : x.position ∈ List.range' b.position n := by
      rw [← hpositions]
      exact List.mem_map_of_mem hx
    simpa using List.mem_range'_1.mp hmem
  refine ⟨⟨?_, ?_, ?_, ?_, ?_⟩, ?_⟩
  · rw [hpks, hitems, List.length_append, List.length_append, List.length_map, h.count]
    omega
  · intro hzero
    rw [hpks, hitems, List.map_append, h.items hzero]
  · rw [hitems, List.length_append, hlength, ← h.accounted]
    omega
  · intro a ha hcup hactive
    rw [hextends.stock] at ha
    obtain ⟨x, hx, hmetadata⟩ := h.allocations a ha hcup hactive
    rw [hitems]
    exact ⟨x, List.mem_append_left new hx, hmetadata⟩
  · rw [hitems, List.map_append, List.nodup_append]
    refine ⟨h.positions, ?_, ?_⟩
    · rw [hpositions]
      exact List.nodup_range'
    · intro p hp q hq
      obtain ⟨x, hx, rfl⟩ := List.mem_map.mp hp
      obtain ⟨y, hy, rfl⟩ := List.mem_map.mp hq
      have hlt := hbelow x hx
      have hle := (hrange y hy).1
      omega
  · intro x hx
    rw [hitems, List.mem_append] at hx
    rw [hextends.position]
    rcases hx with hx | hx
    · exact Nat.lt_of_lt_of_le (hbelow x hx) (Nat.le_add_right _ _)
    · exact (hrange x hx).2

/-- A group that fails after some entries leaves them in the lists. -/
theorem Stored.ghost {sources failed ghosts n m : ℕ} (h : Stored cup b sources failed ghosts)
    (hbelow : Below cup b) (hextends : Extends cup b b' n) :
    Stored cup { b' with center := b.center } (sources + m) (failed + m) (ghosts + n) ∧
      Below cup { b' with center := b.center } := by
  obtain ⟨new, -, hlength, hpks, -⟩ := hextends.items
  refine ⟨⟨?_, ?_, ?_, h.allocations, h.positions⟩, ?_⟩
  · have hcount := h.count
    simp only [hpks, List.length_append, List.length_map, hlength, hcount]
    omega
  · intro hzero
    have hnew : new = [] := List.length_eq_zero_iff.mp (by omega)
    simpa [hpks, hnew] using h.items (by omega)
  · have haccounted := h.accounted
    show (b.center.itemsOf cup).length + (failed + m) = sources + m
    omega
  · intro x hx
    have hlt : x.position < b.position := hbelow x hx
    show x.position < b'.position
    rw [hextends.position]
    omega

/-- The inbounds that a result says have failed. -/
def PanelResult.failedCount (r : PanelResult) : ℕ :=
  (r.inboundResults.filter fun d => d.createdCupItem = false).length

@[simp] theorem failedCount_rejected (g : PanelGroup) (createSuccess : Bool) (error : String) :
    (g.rejected createSuccess error).failedCount = g.inbounds.length := by
  simp [PanelResult.failedCount, PanelGroup.rejected, List.filter_map, Function.comp_def]

@[simp] theorem failedCount_stored (g : PanelGroup) : g.stored.failedCount = 0 := by
  simp [PanelResult.failedCount, PanelGroup.stored, List.filter_map, Function.comp_def]

theorem ghosts_of_not_made {g : PanelGroup} (h : ¬ g.Made lacksPublicKey) :
    g.ghosts lacksPublicKey = 0 := if_neg fun hfails => h hfails.1

/-- A group that is turned down before anything is stored. -/
theorem Stored.reject {sources failed ghosts : ℕ} (h : Stored cup b sources failed ghosts)
    (hbelow : Below cup b) (m : ℕ) :
    Stored cup b (sources + m) (failed + m) ghosts ∧ Below cup b := by
  have hsame := h.ghost (m := m) hbelow (Extends.refl b)
  exact hsame

theorem Stored.buildGroup {sources failed ghosts : ℕ} (h : Stored cup b sources failed ghosts)
    (hbelow : Below cup b) (g : PanelGroup) :
    let r := buildGroup format cup lacksPublicKey g b
    Stored cup r.2 (sources + g.inbounds.length) (failed + r.1.failedCount)
        (ghosts + g.ghosts lacksPublicKey) ∧ Below cup r.2 ∧
      r.2.center.cups = b.center.cups := by
  intro r
  have hr : r = CupCenter.buildGroup format cup lacksPublicKey g b := rfl
  cases hrefusal : g.refusal with
  | some error =>
      have hmade : ¬ g.Made lacksPublicKey := by simp [PanelGroup.Made, hrefusal]
      rw [hr, CupCenter.buildGroup, hrefusal, ghosts_of_not_made hmade]
      dsimp only
      rw [failedCount_rejected]
      obtain ⟨hstored, hb⟩ := h.reject hbelow g.inbounds.length
      exact ⟨hstored, hb, rfl⟩
  | none =>
      rw [hr, CupCenter.buildGroup, hrefusal]
      dsimp only
      by_cases hmissing : "" ∈ g.entries
      · have hmade : ¬ g.Made lacksPublicKey := by simp [PanelGroup.Made, hmissing]
        rw [if_pos hmissing, ghosts_of_not_made hmade]
        dsimp only
        rw [failedCount_rejected]
        obtain ⟨hstored, hb⟩ := h.reject hbelow g.inbounds.length
        exact ⟨hstored, hb, rfl⟩
      rw [if_neg hmissing]
      by_cases hkey : g.entries.any lacksPublicKey = true
      · have hmade : ¬ g.Made lacksPublicKey := by
          rintro ⟨_, _, hnone⟩
          rw [hkey] at hnone
          cases hnone
        rw [if_pos hkey, ghosts_of_not_made hmade]
        dsimp only
        rw [failedCount_rejected]
        obtain ⟨hstored, hb⟩ := h.reject hbelow g.inbounds.length
        exact ⟨hstored, hb, rfl⟩
      rw [if_neg hkey]
      have hmade : g.Made lacksPublicKey :=
        ⟨hrefusal, hmissing, by simpa using hkey⟩
      have hlength := length_entries g
      rcases @storeEntries_spec format cup (g.failure.map (·.entry)) g.entries b
        with ⟨hlate, hdone, hextends⟩ | ⟨k, hk, hlt, hdone, hextends⟩
      · have hghosts : g.ghosts lacksPublicKey = 0 := by
          refine if_neg ?_
          rintro ⟨_, failure, hfailure, _, hlt⟩
          have hle := hlate failure.entry (by rw [Option.mem_def.mp hfailure]; rfl)
          omega
        simp only [storeGroup]
        generalize storeEntries format cup (g.failure.map (·.entry)) g.entries b = stored at *
        obtain ⟨done, b'⟩ := stored
        cases hdone
        dsimp only at hextends ⊢
        rw [failedCount_stored, hghosts, ← hlength]
        obtain ⟨hstored, hb⟩ := h.extend hbelow hextends
        exact ⟨hstored, hb, hextends.cups⟩
      · have hghosts : g.ghosts lacksPublicKey = k := by
          obtain ⟨failure, hfailure, rfl⟩ := Option.mem_map.mp hk
          by_cases hzero : failure.entry = 0
          · rw [hzero]
            refine if_neg ?_
            rintro ⟨_, failure', hfailure', hpos, _⟩
            obtain rfl := Option.some.inj ((Option.mem_def.mp hfailure).symm.trans hfailure')
            omega
          · refine (if_pos ⟨hmade, failure, hfailure, by omega, by omega⟩).trans ?_
            rw [Option.mem_def.mp hfailure]
            rfl
        simp only [storeGroup]
        generalize storeEntries format cup (g.failure.map (·.entry)) g.entries b = stored at *
        obtain ⟨done, b'⟩ := stored
        cases hdone
        dsimp only at hextends ⊢
        rw [failedCount_rejected, hghosts]
        obtain ⟨hstored, hb⟩ := h.ghost (m := g.inbounds.length) hbelow hextends
        exact ⟨hstored, hb, rfl⟩

theorem failedInbounds_cons (r : PanelResult) (results : List PanelResult) :
    failedInbounds (r :: results) = r.failedCount + failedInbounds results := by
  simp [failedInbounds, PanelResult.failedCount]

theorem Stored.buildGroups {sources failed ghosts : ℕ} {groups : List PanelGroup}
    (h : Stored cup b sources failed ghosts) (hbelow : Below cup b) :
    let r := buildGroups format cup lacksPublicKey groups b
    Stored cup r.2 (sources + (groups.map (·.inbounds.length)).sum)
        (failed + failedInbounds r.1) (ghosts + (groups.map (·.ghosts lacksPublicKey)).sum) ∧
      r.2.center.cups = b.center.cups := by
  induction groups generalizing b sources failed ghosts with
  | nil => exact ⟨h, rfl⟩
  | cons g groups ih =>
      obtain ⟨hstored, hb, hcups⟩ :=
        @Stored.buildGroup format _ lacksPublicKey _ _ _ _ h hbelow g
      obtain ⟨hrest, hcups'⟩ := ih hstored hb
      refine ⟨?_, hcups'.trans hcups⟩
      simp only [CupCenter.buildGroups, failedInbounds_cons, List.map_cons, List.sum_cons,
        ← Nat.add_assoc]
      exact hrest

/-! ## Selections -/

/-- The items and allocations of a cup after a draw on the inventory. -/
structure Drawn (cup : ℕ) (c c' : Center) (allocations : List ConfigAllocation) : Prop where
  cups : c'.cups = c.cups
  rows : c'.stock.db.allocations.rows = c.stock.db.allocations.rows ++ allocations
  items : ∃ new : List CupItem, c'.items.rows = c.items.rows ++ new ∧
    (∀ x ∈ new, x.cup = cup) ∧
    new.map (·.metadata.allocation) = allocations.map (fun a => some a.pk) ∧
    new.map (·.position) = List.range' (c.nextPosition cup) allocations.length

theorem createCupItems_spec {allocations : List ConfigAllocation} {position : ℕ}
    (h : createCupItems format cup allocations position c = .ok c') :
    c'.cups = c.cups ∧ c'.stock = c.stock ∧
      ∃ new : List CupItem, c'.items.rows = c.items.rows ++ new ∧ (∀ x ∈ new, x.cup = cup) ∧
        new.map (·.metadata.allocation) = allocations.map (fun a => some a.pk) ∧
        new.map (·.position) = List.range' position allocations.length := by
  induction allocations generalizing c position with
  | nil =>
      cases h
      exact ⟨rfl, rfl, [], by simp, by simp, rfl, rfl⟩
  | cons a allocations ih =>
      rw [createCupItems] at h
      split at h
      · cases h
      rename_i asset _
      split at h
      · cases h
      obtain ⟨hcups, hstock, new, hrows, hcup, hmetadata, hpositions⟩ := ih h
      refine ⟨hcups, hstock, newItem c cup c.links.nextKey position
        { allocation := some a.pk, asset := some a.asset } :: new, ?_, ?_, ?_, ?_⟩
      · rw [hrows]
        exact List.append_assoc _ [_] new
      · intro x hx
        rcases List.mem_cons.mp hx with rfl | hx
        · rfl
        · exact hcup x hx
      · rw [List.map_cons, List.map_cons, hmetadata]
        rfl
      · rw [List.map_cons, List.length_cons, List.range'_succ, hpositions]
        rfl

/-- An allocator that hands out so many allocations. -/
def AllocatesFor (n : ℕ) (allocate : ShopM (List ConfigAllocation)) (s : Shop) : Prop :=
  Prog.wp allocate
    (fun rows s' => s'.db.allocations.rows = s.db.allocations.rows ++ rows ∧ rows.length = n)
    (fun _ _ => True) s

theorem allocatesFor_allocateSelection {quantity pool : ℕ} {source : SelectionSource} {s : Shop}
    (hasked : 0 < source.requested) :
    AllocatesFor source.requested (c.allocateSelection cup quantity pool source) s := by
  cases source with
  | manual assets =>
      refine Prog.wp_mono wp_allocateSelectedAssetsFromPool ?_ fun _ _ _ => trivial
      rintro rows s' ⟨_, _, _, _, hnew, hallocates⟩
      refine ⟨hallocates.rows, ?_⟩
      rw [← List.length_map (·.asset), hnew.assets]
      rfl
  | automatic n =>
      have hn : ¬ n = 0 := Nat.pos_iff_ne_zero.mp hasked
      rw [Center.allocateSelection, if_neg hn]
      refine Prog.wp_mono wp_allocateAssetsFromPool ?_ fun _ _ _ => trivial
      rintro rows s' ⟨p, hp, hstock, hnew, hallocates, _⟩
      refine ⟨hallocates.rows, ?_⟩
      obtain ⟨q, hq, -, -, henough⟩ := hstock
      obtain rfl : p = q := Option.some.inj (hp.symm.trans hq)
      rw [← List.length_map (·.asset), hnew.assets, List.length_map, List.length_take]
      exact Nat.min_eq_left henough

theorem drawn_drawItems {allocate : ShopM (List ConfigAllocation)} {n : ℕ}
    {allocations : List ConfigAllocation} (hallocate : AllocatesFor n allocate c.stock)
    (hdraw : drawItems format cup allocate c = .ok (allocations, c')) :
    Drawn cup c c' allocations ∧ allocations.length = n := by
  unfold drawItems at hdraw
  split at hdraw
  · cases hdraw
  rename_i rows stock hrun
  split at hdraw
  · cases hdraw
  rename_i c'' hitems
  cases hdraw
  have hwp : Prog.wp allocate _ _ c.stock := hallocate
  unfold Prog.wp at hwp
  rw [hrun] at hwp
  obtain ⟨hcups, hstock, hnew⟩ := createCupItems_spec hitems
  refine ⟨⟨hcups, ?_, hnew⟩, hwp.2⟩
  rw [hstock]
  exact hwp.1

theorem position_lt_nextPosition {x : CupItem} (hx : x ∈ c.itemsOf cup) :
    x.position < c.nextPosition cup := by
  have hbound : ∀ ps : List ℕ, ∀ p ∈ ps, p ≤ ps.foldr max 0 := by
    intro ps
    induction ps with
    | nil => simp
    | cons q ps ih =>
        intro p hp
        rcases List.mem_cons.mp hp with rfl | hp
        · exact Nat.le_max_left _ _
        · exact Nat.le_trans (ih p hp) (Nat.le_max_right _ _)
  exact Nat.lt_succ_of_le (hbound _ _ (List.mem_map_of_mem hx))

theorem Stored.draw {sources failed ghosts : ℕ} {allocations : List ConfigAllocation}
    (h : Stored cup b sources failed ghosts) (hdrawn : Drawn cup b.center c' allocations) :
    Stored cup (b.extend c') (sources + allocations.length) failed ghosts := by
  obtain ⟨new, hrows, hcup, hmetadata, hpositions⟩ := hdrawn.items
  have hlength : new.length = allocations.length := by
    simpa using congrArg List.length hmetadata
  have hitems : c'.itemsOf cup = b.center.itemsOf cup ++ new := by
    rw [Center.itemsOf, hrows, List.filter_append]
    congr 1
    exact List.filter_eq_self.mpr fun x hx => decide_eq_true (hcup x hx)
  have hpks : (b.extend c').cupItems = b.cupItems ++ new.map (·.pk) := by
    show b.cupItems ++ (c'.items.rows.drop b.center.items.rows.length).map (·.pk) = _
    rw [hrows, List.drop_left]
  have hcenter : (b.extend c').center = c' := rfl
  refine ⟨?_, ?_, ?_, ?_, ?_⟩
  · rw [hpks, hcenter, hitems, List.length_append, List.length_append, List.length_map, h.count]
    omega
  · intro hzero
    rw [hpks, hcenter, hitems, List.map_append, h.items hzero]
  · rw [hcenter, hitems, List.length_append, hlength, ← h.accounted]
    omega
  · intro a ha hacup hactive
    rw [hcenter, hdrawn.rows, List.mem_append] at ha
    rw [hcenter, hitems]
    rcases ha with ha | ha
    · obtain ⟨x, hx, hx'⟩ := h.allocations a ha hacup hactive
      exact ⟨x, List.mem_append_left new hx, hx'⟩
    · have hmem : some a.pk ∈ new.map (·.metadata.allocation) := by
        rw [hmetadata]
        exact List.mem_map.mpr ⟨a, ha, rfl⟩
      obtain ⟨x, hx, hx'⟩ := List.mem_map.mp hmem
      exact ⟨x, List.mem_append_right _ hx, hx'⟩
  · rw [hcenter, hitems, List.map_append, List.nodup_append]
    refine ⟨h.positions, ?_, ?_⟩
    · rw [hpositions]
      exact List.nodup_range'
    · intro p hp q hq
      obtain ⟨x, hx, rfl⟩ := List.mem_map.mp hp
      rw [hpositions] at hq
      have hlt := position_lt_nextPosition hx
      have hle := (List.mem_range'_1.mp hq).1
      omega

theorem Stored.buildSelection {sources failed ghosts quantity : ℕ}
    (h : Stored cup b sources failed ghosts) (s : InventorySelection) :
    let r := buildSelection format cup quantity s b
    Stored cup r.2 (sources + s.source.requested) (failed + r.1.rejectedCount) ghosts := by
  have hrejected : Stored cup b (sources + s.source.requested) (failed + s.source.requested)
      ghosts := by
    refine ⟨h.count, h.items, ?_, h.allocations, h.positions⟩
    have := h.accounted
    omega
  intro r
  have hr : r = CupCenter.buildSelection format cup quantity s b := rfl
  rw [hr, CupCenter.buildSelection]
  split
  · exact hrejected
  · rename_i allocations c' hdraw
    obtain ⟨hdrawn, hlength⟩ := drawn_drawItems
      (allocatesFor_allocateSelection s.asked) hdraw
    split
    · exact hrejected
    · by_cases hnone : s.source.requested ≠ 0 ∧ allocations = []
      · rw [if_pos hnone]
        exact hrejected
      · rw [if_neg hnone, if_neg (fun hmanual => hmanual.2 hlength)]
        have hstored := h.draw hdrawn
        rw [hlength] at hstored
        have hzero : (s.stored allocations.length).rejectedCount = 0 := by
          simp [InventorySelection.stored, hlength]
        simpa [hzero] using hstored

theorem Stored.buildSelections {sources failed ghosts quantity : ℕ}
    {selections : List InventorySelection} (h : Stored cup b sources failed ghosts) :
    let r := buildSelections format cup quantity selections b
    Stored cup r.2 (sources + (selections.map (·.source.requested)).sum)
      (failed + rejectedAssets r.1) ghosts := by
  induction selections generalizing b sources failed with
  | nil => exact h
  | cons s selections ih =>
      have hstep := @Stored.buildSelection format _ _ _ _ _ quantity h s
      have hrest := ih hstep
      simp only [CupCenter.buildSelections, rejectedAssets, List.map_cons, List.sum_cons,
        ← Nat.add_assoc]
      exact hrest

/-! ## The whole build -/

theorem stored_start (hhoused : c.Housed) (request : BuildRequest) :
    Stored c.cups.nextKey { center := c.createBuildCup request } 0 0 0 ∧
      Below c.cups.nextKey { center := c.createBuildCup request } := by
  have hitems : (c.createBuildCup request).itemsOf c.cups.nextKey = [] := by
    refine List.filter_eq_nil_iff.mpr fun x hx => ?_
    have hcup := hhoused.items x hx
    intro heq
    rw [of_decide_eq_true heq, Table.get?_nextKey] at hcup
    cases hcup
  refine ⟨⟨?_, ?_, ?_, ?_, ?_⟩, ?_⟩
  · simp [hitems]
  · simp [hitems]
  · simp [hitems]
  · intro a ha hacup
    have hcup := hhoused.allocations a ha _ (Option.mem_def.mpr hacup)
    rw [Table.get?_nextKey] at hcup
    cases hcup
  · simp [hitems]
  · intro x hx
    rw [hitems] at hx
    cases hx

theorem sum_ghosts_eq_zero {groups : List PanelGroup} :
    (groups.map (·.ghosts lacksPublicKey)).sum = 0 ↔
      ∀ g ∈ groups, ¬ g.FailsMidway lacksPublicKey := by
  rw [List.sum_eq_zero_iff]
  constructor
  · intro hzero g hg hfails
    have hg0 := hzero _ (List.mem_map_of_mem hg)
    rw [PanelGroup.ghosts, if_pos hfails] at hg0
    obtain ⟨-, failure, hfailure, hpos, -⟩ := hfails
    rw [Option.mem_def.mp hfailure] at hg0
    exact absurd hg0 (Nat.pos_iff_ne_zero.mp hpos)
  · intro hnone n hn
    obtain ⟨g, hg, rfl⟩ := List.mem_map.mp hn
    exact if_neg (hnone g hg)

/-- Something was selected. -/
theorem selectedSourcesCount_pos {request : BuildRequest}
    (h : ¬ (request.groups = [] ∧ request.selections = [])) : 0 < selectedSourcesCount request := by
  rw [selectedSourcesCount]
  cases hgroups : request.groups with
  | cons g groups =>
      have := List.length_pos_of_ne_nil g.selected
      simp only [List.map_cons, List.sum_cons]
      omega
  | nil =>
      cases hselections : request.selections with
      | nil => exact absurd ⟨hgroups, hselections⟩ h
      | cons s selections =>
          have := s.asked
          simp only [List.map_cons, List.sum_cons]
          omega

/-- A build reports what it stored if and only if no group of it fails midway. -/
theorem truthful_quickBuildMultiPanel_iff (format : LinkFormat) (lacksPublicKey : String → Bool)
    (request : BuildRequest) (c c' : Center) (report : QuickBuildReport) (hhoused : c.Housed)
    (hbuild : quickBuildMultiPanel format lacksPublicKey request c = .ok (report, c')) :
    Truthful request report c' ↔ ∀ g ∈ request.groups, ¬ g.FailsMidway lacksPublicKey := by
  rw [← sum_ghosts_eq_zero]
  unfold quickBuildMultiPanel at hbuild
  split at hbuild
  · cases hbuild
  rename_i hselected
  obtain ⟨hstart, hbelow⟩ := stored_start hhoused request
  obtain ⟨hgroups, -⟩ := @Stored.buildGroups format _ lacksPublicKey _ _ _ _ request.groups hstart
    hbelow
  have hstored := @Stored.buildSelections format _ _ _ _ _ request.inventoryQuantity
    request.selections hgroups
  obtain ⟨rfl, rfl⟩ := Prod.mk.inj (Except.ok.inj hbuild)
  clear hbuild hgroups
  generalize buildGroups format c.cups.nextKey lacksPublicKey request.groups
    { center := c.createBuildCup request } = panels at hstored ⊢
  generalize buildSelections format c.cups.nextKey request.inventoryQuantity request.selections
    panels.2 = pools at hstored ⊢
  obtain ⟨panelResults, b⟩ := panels
  obtain ⟨inventoryResults, b'⟩ := pools
  simp only [Nat.zero_add] at hstored
  have hpos := selectedSourcesCount_pos hselected
  have haccounted : (b'.center.itemsOf c.cups.nextKey).length +
      (failedInbounds panelResults + rejectedAssets inventoryResults) =
      selectedSourcesCount request := hstored.accounted
  constructor
  · intro htrue
    have hcreated : b'.cupItems.length = (b'.center.itemsOf c.cups.nextKey).length := htrue.created
    have hcount := hstored.count
    omega
  · intro hzero
    have hitems := hstored.items hzero
    have hcreated : b'.cupItems.length = (b'.center.itemsOf c.cups.nextKey).length := by
      rw [hitems, List.length_map]
    have hnil : b'.center.itemsOf c.cups.nextKey = [] ↔
        (b'.center.itemsOf c.cups.nextKey).length = 0 := List.length_eq_zero_iff.symm
    refine ⟨hitems, hcreated, ?_, ?_, ?_, hstored.allocations, hstored.positions⟩
    · show b'.cupItems.length + _ = _
      rw [hcreated]
      exact haccounted
    · show quickStatus (selectedSourcesCount request) b'.cupItems.length
          (failedInbounds panelResults + rejectedAssets inventoryResults) = _ ↔
        (b'.center.itemsOf c.cups.nextKey).length = _
      rw [hcreated, quickStatus]
      split
      · simp only [reduceCtorEq, false_iff]
        omega
      · split
        · simp only [reduceCtorEq, false_iff]
          omega
        · simp only [true_iff]
          omega
    · show quickStatus (selectedSourcesCount request) b'.cupItems.length
          (failedInbounds panelResults + rejectedAssets inventoryResults) = _ ↔
        b'.center.itemsOf c.cups.nextKey = []
      rw [hcreated, quickStatus, hnil]
      split
      · simp only [true_iff]
        omega
      · split
        · simp only [reduceCtorEq, false_iff]
          omega
        · simp only [reduceCtorEq, false_iff]
          omega

/-- Two inbounds of a panel that makes both clients. -/
def twoInbounds (failure : Option StoreFailure) : BuildRequest where
  token := "t"
  groups := [{ inbounds := [1, 2], selected := by decide,
               directLinks := ["vless://a", "vless://b"], failure := failure }]

theorem housed_twoCups : twoCups.Housed where
  items x hx := by cases hx
  allocations a ha := by cases ha

/-- Both clients are stored and reported. -/
theorem truthful_two_inbounds :
    ∃ report c', quickBuildMultiPanel anyLink (fun _ => false) (twoInbounds none) twoCups =
      .ok (report, c') ∧ Truthful (twoInbounds none) report c' := by
  have hbuilt : (quickBuildMultiPanel anyLink (fun _ => false) (twoInbounds none)
      twoCups).toOption.isSome = true := by decide +kernel
  cases hbuild : quickBuildMultiPanel anyLink (fun _ => false) (twoInbounds none) twoCups with
  | error e =>
      rw [hbuild] at hbuilt
      exact nomatch hbuilt
  | ok r =>
      refine ⟨r.1, r.2, rfl, ?_⟩
      refine (truthful_quickBuildMultiPanel_iff _ _ _ _ _ _ housed_twoCups hbuild).mpr ?_
      decide +kernel

/-- The database fails at the second entry: nothing is stored, and an item is reported. -/
theorem ghost_item_of_failed_entry :
    ¬ ∀ report c', quickBuildMultiPanel anyLink (fun _ => false) (twoInbounds (some ⟨1, "locked"⟩))
      twoCups = .ok (report, c') → Truthful (twoInbounds (some ⟨1, "locked"⟩)) report c' := by
  have hrun : (quickBuildMultiPanel anyLink (fun _ => false) (twoInbounds (some ⟨1, "locked"⟩))
      twoCups).toOption.map (fun r => (r.1.cupItemsCreated, (r.2.itemsOf r.1.cup).length)) =
      some (1, 0) := by decide +kernel
  intro h
  cases hbuild : quickBuildMultiPanel anyLink (fun _ => false) (twoInbounds (some ⟨1, "locked"⟩))
      twoCups with
  | error e =>
      rw [hbuild] at hrun
      cases hrun
  | ok r =>
      rw [hbuild] at hrun
      obtain ⟨hcreated, hstored⟩ := Prod.mk.inj (Option.some.inj hrun)
      have htrue := (h r.1 r.2 hbuild).created
      rw [hcreated, hstored] at htrue
      cases htrue

end Qasedak.CupCenter
