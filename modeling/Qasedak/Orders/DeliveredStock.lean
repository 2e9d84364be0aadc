import Qasedak.Orders.DeliveryRetries

/-! The stock that an order holds while its sources are executed: the links of the successful
results come from the active allocations of the executed sources, and from all of them. -/

namespace Qasedak.Orders

open Foundation Store Panels

/-- The active allocations of an order. -/
def heldAllocations (db : Db) (order : ℕ) : List ConfigAllocation :=
  db.allocations.rows.filter fun a => a.order = some order ∧ a.isActive

/-- The allocations that the links of the successful results come from. -/
def resultAllocations (results : List SourceResult) : List ℕ :=
  ((results.filter (·.ok)).flatMap (·.links)).filterMap (·.allocation)

/-- Every asset has a link, as the field demands. -/
def AssetsLinked (db : Db) : Prop := ∀ a ∈ db.assets.rows, strip a.rawLink ≠ ""

/-- The stock of an order: its allocations are of assets that exist and have a link, and a
source has nothing or its whole quantity. -/
structure SoundStock (k : ℕ) (db : Db) : Prop where
  linked : AssetsLinked db
  backed : ∀ a ∈ heldAllocations db k, ∃ asset ∈ db.assets.rows, asset.pk = a.asset
  units : ∀ source ∈ db.deliverySources.rows, (sourceAllocations db k source.pk).length = 0 ∨
    (sourceAllocations db k source.pk).length = DeliverySource.units source

/-- The allocation is of an inventory source of the list. -/
def DrawnBy (sources : List DeliverySource) (a : ConfigAllocation) : Prop :=
  ∃ t ∈ sources, t.sourceType = .inventoryPool ∧ a.deliverySource = some t.pk

variable {platform : Platform} {now : Instant} {k : ℕ} {o : Order} {source : DeliverySource}
  {sources more : List DeliverySource} {s : Shop} {db db' db'' : Db}
  {results results' : List SourceResult}

theorem mem_heldAllocations {a : ConfigAllocation} :
    a ∈ heldAllocations db k ↔ a ∈ db.allocations.rows ∧ a.order = some k ∧ a.isActive = true := by
  simp [heldAllocations]

theorem mem_sourceAllocations {a : ConfigAllocation} {n : ℕ} :
    a ∈ sourceAllocations db k n ↔ a ∈ heldAllocations db k ∧ a.deliverySource = some n := by
  simp only [sourceAllocations, mem_heldAllocations, List.mem_filter, decide_eq_true_eq]
  constructor
  · rintro ⟨hrow, horder, hsource, hactive⟩
    exact ⟨⟨hrow, horder, hactive⟩, hsource⟩
  · rintro ⟨⟨hrow, horder, hactive⟩, hsource⟩
    exact ⟨hrow, horder, hsource, hactive⟩

theorem resultAllocations_append (results results' : List SourceResult) :
    resultAllocations (results ++ results') =
      resultAllocations results ++ resultAllocations results' := by
  simp [resultAllocations]

/-- The links of allocations are no blanks. -/
def StockRendered (results : List SourceResult) : Prop :=
  ∀ r ∈ results, ∀ link ∈ r.links, link.allocation.isSome = true → strip link.rawLink ≠ ""

theorem StockRendered.append (h : StockRendered results) (h' : StockRendered results') :
    StockRendered (results ++ results') := fun r hr =>
  (List.mem_append.mp hr).elim (h r) (h' r)

/-- The sources were executed: what is new is theirs, and the results deliver all they have. -/
structure Executed (k : ℕ) (sources : List DeliverySource) (db db' : Db)
    (results : List SourceResult) : Prop where
  configured : db'.deliverySources = db.deliverySources
  rows : ∃ new, db'.allocations.rows = db.allocations.rows ++ new ∧
    ∀ a ∈ new, a.order = some k ∧ a.isActive = true ∧ DrawnBy sources a
  sound : SoundStock k db'
  delivered : ∀ n, n ∈ resultAllocations results ↔
    ∃ a ∈ heldAllocations db' k, a.pk = n ∧ DrawnBy sources a
  rendered : StockRendered results

theorem DrawnBy.append_left {a : ConfigAllocation} (h : DrawnBy sources a) :
    DrawnBy (sources ++ more) a := by
  obtain ⟨t, ht, hlabel⟩ := h
  exact ⟨t, List.mem_append_left _ ht, hlabel⟩

theorem DrawnBy.append_right {a : ConfigAllocation} (h : DrawnBy more a) :
    DrawnBy (sources ++ more) a := by
  obtain ⟨t, ht, hlabel⟩ := h
  exact ⟨t, List.mem_append_right _ ht, hlabel⟩

theorem drawnBy_append {a : ConfigAllocation} :
    DrawnBy (sources ++ more) a ↔ DrawnBy sources a ∨ DrawnBy more a := by
  constructor
  · rintro ⟨t, ht, hlabel⟩
    rcases List.mem_append.mp ht with ht | ht
    · exact .inl ⟨t, ht, hlabel⟩
    · exact .inr ⟨t, ht, hlabel⟩
  · intro h
    rcases h with h | h
    · exact h.append_left
    · exact h.append_right

/-- Sources with other keys have other allocations. -/
theorem DrawnBy.disjoint {a : ConfigAllocation}
    (hnodup : ((sources ++ more).map (·.pk)).Nodup) (h : DrawnBy sources a) :
    ¬ DrawnBy more a := by
  intro h'
  obtain ⟨t, ht, -, hlabel⟩ := h
  obtain ⟨u, hu, -, hlabel'⟩ := h'
  rw [List.map_append, List.nodup_append] at hnodup
  have hsame : t.pk = u.pk := Option.some.inj (hlabel.symm.trans hlabel')
  exact hnodup.2.2 _ (List.mem_map_of_mem ht) _ (List.mem_map_of_mem hu) hsame

namespace Executed

theorem held (h : Executed k sources db db' results) {a : ConfigAllocation}
    (ha : a ∈ heldAllocations db' k) : a ∈ heldAllocations db k ∨ DrawnBy sources a := by
  obtain ⟨new, hrows, hnew⟩ := h.rows
  rw [mem_heldAllocations, hrows, List.mem_append] at ha
  rcases ha with ⟨hold | hadded, horder, hactive⟩
  · exact .inl (mem_heldAllocations.mpr ⟨hold, horder, hactive⟩)
  · exact .inr (hnew a hadded).2.2

theorem mono (h : Executed k sources db db' results) {a : ConfigAllocation}
    (ha : a ∈ heldAllocations db k) : a ∈ heldAllocations db' k := by
  obtain ⟨new, hrows, -⟩ := h.rows
  rw [mem_heldAllocations] at ha ⊢
  rw [hrows]
  exact ⟨List.mem_append_left _ ha.1, ha.2⟩

/-- Some sources, and others after them. -/
theorem append (h : Executed k sources db db' results) (h' : Executed k more db' db'' results')
    (hnodup : ((sources ++ more).map (·.pk)).Nodup) :
    Executed k (sources ++ more) db db'' (results ++ results') where
  configured := h'.configured.trans h.configured
  rows := by
    obtain ⟨new, hrows, hnew⟩ := h.rows
    obtain ⟨new', hrows', hnew'⟩ := h'.rows
    refine ⟨new ++ new', by rw [hrows', hrows, List.append_assoc], ?_⟩
    intro a ha
    rcases List.mem_append.mp ha with ha | ha
    · have := hnew a ha
      exact ⟨this.1, this.2.1, this.2.2.append_left⟩
    · have := hnew' a ha
      exact ⟨this.1, this.2.1, this.2.2.append_right⟩
  sound := h'.sound
  delivered n := by
    rw [resultAllocations_append, List.mem_append, h.delivered, h'.delivered]
    constructor
    · intro hn
      rcases hn with ⟨a, ha, hpk, hdrawn⟩ | ⟨a, ha, hpk, hdrawn⟩
      · exact ⟨a, h'.mono ha, hpk, hdrawn.append_left⟩
      · exact ⟨a, ha, hpk, hdrawn.append_right⟩
    · rintro ⟨a, ha, hpk, hdrawn⟩
      rcases drawnBy_append.mp hdrawn with hdrawn | hdrawn
      · -- The later sources drew nothing under a key of the earlier ones.
        have hbefore := (h'.held ha).resolve_right (hdrawn.disjoint hnodup)
        exact .inl ⟨a, hbefore, hpk, hdrawn⟩
      · exact .inr ⟨a, ha, hpk, hdrawn⟩
  rendered := h.rendered.append h'.rendered

theorem nil (h : SoundStock k db) : Executed k [] db db [] where
  configured := rfl
  rows := ⟨[], by simp, by simp⟩
  sound := h
  delivered n := by simp [resultAllocations, DrawnBy]
  rendered := by simp [StockRendered]

end Executed

/-! ## An inventory source -/

/-- The link of an allocation of a linked asset. -/
theorem allocatedLink_of_linked {a : ConfigAllocation} {n : ℕ} (hlinked : AssetsLinked db)
    (hasset : ∃ asset ∈ db.assets.rows, asset.pk = a.asset) :
    ∃ raw, allocatedLink db n a = [{ rawLink := raw, sources := [n], allocation := some a.pk }] := by
  obtain ⟨asset, hrow, hpk⟩ := hasset
  have hget : db.assets.get? a.asset = some asset := Table.get?_eq_some_iff.mpr ⟨hrow, hpk⟩
  refine ⟨strip asset.rawLink, ?_⟩
  rw [allocatedLink]
  simp only [hget, Option.map_some, Option.getD_some]
  rw [if_neg (hlinked asset hrow)]

theorem slots_subset {p : InventoryPool} {quantity : ℕ} {mode : AllocationMode} :
    slots db now p quantity mode ⊆ db.assets.rows := by
  have hcandidates : sharedCandidates db now p ⊆ db.assets.rows := by
    intro a ha
    rw [sharedCandidates] at ha
    exact (List.mem_filter.mp ((List.perm_insertionSort _ _).mem_iff.mp ha)).1
  intro a ha
  cases mode with
  | exclusive => exact (List.mem_filter.mp ha).1
  | sharedLimited =>
      obtain ⟨b, hb, hmem⟩ := List.mem_flatMap.mp ha
      rw [List.eq_of_mem_replicate hmem]
      exact hcandidates hb
  | sharedUnlimited =>
      obtain ⟨b, hb, hmem⟩ := List.mem_flatMap.mp ha
      rw [List.eq_of_mem_replicate hmem]
      exact hcandidates (List.mem_of_head? (Option.mem_toList.mp hb))

/-- An assignment keeps the assets and their links. -/
theorem mem_assignAssets {assets : List ℕ} {asset : InventoryAsset} :
    asset ∈ (db.assignAssets assets).assets.rows ↔
      ∃ a ∈ db.assets.rows, assignSelected assets a = asset := List.mem_map

theorem assignSelected_rawLink (assets : List ℕ) (a : InventoryAsset) :
    (assignSelected assets a).rawLink = a.rawLink := by
  rw [assignSelected]
  split <;> rfl

theorem AssetsLinked.assignAssets (h : AssetsLinked db) (assets : List ℕ) :
    AssetsLinked (db.assignAssets assets) := by
  intro asset hasset
  obtain ⟨a, ha, rfl⟩ := mem_assignAssets.mp hasset
  rw [assignSelected_rawLink]
  exact h a ha

theorem exists_assignAssets {assets : List ℕ} {n : ℕ}
    (h : ∃ asset ∈ db.assets.rows, asset.pk = n) :
    ∃ asset ∈ (db.assignAssets assets).assets.rows, asset.pk = n := by
  obtain ⟨a, ha, hpk⟩ := h
  exact ⟨_, mem_assignAssets.mpr ⟨a, ha, rfl⟩, (assignSelected_pk assets a).trans hpk⟩

theorem mem_resultAllocations_single {r : SourceResult} {n : ℕ} :
    n ∈ resultAllocations [r] ↔ r.ok = true ∧ n ∈ r.links.filterMap (·.allocation) := by
  rw [resultAllocations]
  cases hok : r.ok <;> simp [hok]

theorem linked_allocations {rows : List ConfigAllocation} {n : ℕ} (hlinked : AssetsLinked db)
    (hassets : ∀ a ∈ rows, ∃ asset ∈ db.assets.rows, asset.pk = a.asset) :
    (rows.flatMap (allocatedLink db n)).filterMap (·.allocation) = rows.map (·.pk) := by
  induction rows with
  | nil => rfl
  | cons a rows ih =>
      obtain ⟨raw, hlink⟩ := allocatedLink_of_linked hlinked (hassets a List.mem_cons_self)
      have hrest := ih fun b hb => hassets b (List.mem_cons_of_mem a hb)
      rw [List.flatMap_cons, hlink, List.filterMap_append, hrest]
      rfl

/-- The links of an inventory source are those of all it has. -/
theorem sourceResult_allocations {rows : List ConfigAllocation} {n : ℕ} {required : Bool}
    (hlinked : AssetsLinked db) (hsome : rows ≠ [])
    (hassets : ∀ a ∈ rows, ∃ asset ∈ db.assets.rows, asset.pk = a.asset) (m : ℕ) :
    m ∈ resultAllocations [sourceResult required (.ok (rows.flatMap (allocatedLink db n), []))] ↔
      ∃ a ∈ rows, a.pk = m := by
  have hkeys := @linked_allocations db rows n hlinked hassets
  have hlinks : rows.flatMap (allocatedLink db n) ≠ [] := by
    intro hnil
    rw [hnil, List.filterMap_nil] at hkeys
    exact hsome (List.map_eq_nil_iff.mp hkeys.symm)
  rw [mem_resultAllocations_single, sourceResult]
  simp only [hkeys]
  simp [hlinks]

theorem drawnBy_singleton {a : ConfigAllocation} (htype : source.sourceType = .inventoryPool) :
    DrawnBy [source] a ↔ a.deliverySource = some source.pk := by
  constructor
  · intro h
    obtain ⟨t, ht, -, hlabel⟩ := h
    rw [List.mem_singleton.mp ht] at hlabel
    exact hlabel
  · intro hlabel
    exact ⟨source, List.mem_singleton_self _, htype, hlabel⟩

/-- What a source has, as the executed source sees it. -/
theorem exists_sourceAllocations (htype : source.sourceType = .inventoryPool) (n : ℕ) :
    (∃ a ∈ heldAllocations db k, a.pk = n ∧ DrawnBy [source] a) ↔
      ∃ a ∈ sourceAllocations db k source.pk, a.pk = n := by
  constructor
  · rintro ⟨a, ha, hpk, hdrawn⟩
    exact ⟨a, mem_sourceAllocations.mpr ⟨ha, (drawnBy_singleton htype).mp hdrawn⟩, hpk⟩
  · rintro ⟨a, ha, hpk⟩
    obtain ⟨hheld, hlabel⟩ := mem_sourceAllocations.mp ha
    exact ⟨a, hheld, hpk, (drawnBy_singleton htype).mpr hlabel⟩

section TopUp

variable {p : InventoryPool} {missing : ℕ} {mode : AllocationMode} {cup : Option ℕ}
  {label : ConfigAllocation → ConfigAllocation} {added : List ConfigAllocation}

theorem TopsUp.linked {order : Option ℕ} (h : TopsUp db db' now p missing mode cup order label added)
    (hlinked : AssetsLinked db) : AssetsLinked db' := by
  rw [AssetsLinked, h.allocates.frame]
  exact hlinked.assignAssets _

/-- What the order takes follows what it held. -/
theorem TopsUp.held (h : TopsUp db db' now p missing mode cup (some k) label added)
    (hlabel : ∀ a, (label a).order = a.order ∧ (label a).isActive = a.isActive) :
    heldAllocations db' k = heldAllocations db k ++ added.map label := by
  rw [heldAllocations, heldAllocations, h.allocates.rows, List.filter_append]
  congr 1
  refine List.filter_eq_self.mpr fun r hr => ?_
  obtain ⟨a, ha, rfl⟩ := List.mem_map.mp hr
  have hnew := h.new.new a ha
  simp [hlabel a, hnew.order, hnew.active]

/-- The assets of what was taken are there, like those of what was held. -/
theorem TopsUp.backed (h : TopsUp db db' now p missing mode cup (some k) label added)
    (hlabel : ∀ a, (label a).order = a.order ∧ (label a).isActive = a.isActive)
    (hasset : ∀ a, (label a).asset = a.asset)
    (hbacked : ∀ a ∈ heldAllocations db k, ∃ asset ∈ db.assets.rows, asset.pk = a.asset) :
    ∀ a ∈ heldAllocations db' k, ∃ asset ∈ db'.assets.rows, asset.pk = a.asset := by
  intro a ha
  rw [h.allocates.frame]
  refine exists_assignAssets ?_
  rw [h.held hlabel, List.mem_append] at ha
  rcases ha with hold | hadded
  · exact hbacked a hold
  · obtain ⟨b, hb, rfl⟩ := List.mem_map.mp hadded
    have hslot : b.asset ∈ ((slots db now p missing mode).take missing).map (·.pk) := by
      rw [← h.new.assets]
      exact List.mem_map_of_mem hb
    obtain ⟨asset, hrow, hpk⟩ := List.mem_map.mp hslot
    exact ⟨asset, slots_subset (List.mem_of_mem_take hrow), hpk.trans (hasset b).symm⟩

end TopUp

/-- The units that a source takes are sound stock of the order. -/
theorem SoundStock.topsUp {p : InventoryPool} {missing : ℕ} {mode : AllocationMode}
    {added : List ConfigAllocation} (h : SoundStock k db)
    (htops : TopsUp db db' now p missing mode none (some k) (labelSource source.pk) added)
    (hdraws : Draws k db db') : SoundStock k db' where
  linked := htops.linked h.linked
  backed := htops.backed (fun _ => ⟨rfl, rfl⟩) (fun _ => rfl) h.backed
  units t ht := by
    rw [hdraws.sources] at ht
    have hbefore := h.units t ht
    have hafter := hdraws.units t ht
    omega

/-- A source has all its units, or takes what is missing of them, or fails as it is. -/
theorem wp_executeInventorySource_cases :
    Prog.wp (executeInventorySource now o source)
      (fun r s' =>
        (s' = s ∧ DeliverySource.units source ≤ (sourceAllocations s.db o.pk source.pk).length ∧
          r = sourceResult source.required (.ok ((sourceAllocations s.db o.pk source.pk).flatMap
            (allocatedLink s.db source.pk), []))) ∨
        (∃ p mode missing added, 0 < missing ∧
          TopsUp s.db s'.db now p missing mode none (some o.pk) (labelSource source.pk) added ∧
          r = sourceResult source.required (.ok ((sourceAllocations s.db o.pk source.pk ++
            added).flatMap (allocatedLink s'.db source.pk), []))) ∨
        s' = s ∧ (sourceAllocations s.db o.pk source.pk).length < DeliverySource.units source ∧
          ∃ e, r = sourceResult source.required (.error e))
      (fun _ _ => False) s := by
  have hmissing : missingUnits s.db (fun a => a.order = some o.pk ∧
      a.deliverySource = some source.pk ∧ a.isActive) source.quantity =
        DeliverySource.units source - (sourceAllocations s.db o.pk source.pk).length := rfl
  rw [executeInventorySource, Prog.wp_bind, Prog.wp_caught, Prog.wp_bind]
  refine Prog.wp_mono wp_topUpAllocations ?_ ?_
  · rw [hmissing]
    intro rows s' hrows
    rw [Prog.wp_bind, Prog.wp_readDb]
    rcases hrows with ⟨hzero, rfl, rfl⟩ | ⟨p, added, hpos, -, -, htops, rfl, -⟩
    · refine .inl ⟨rfl, ?_, rfl⟩
      omega
    · exact .inr (.inl ⟨p, _, _, added, hpos, htops, rfl⟩)
  · intro h s' hfailed
    obtain ⟨⟨e, rfl⟩, rfl, hpos, -⟩ := hfailed
    rw [hmissing] at hpos
    refine .inr (.inr ⟨rfl, ?_, e, rfl⟩)
    omega

theorem resultAllocations_error (required : Bool) (e : String) :
    resultAllocations [sourceResult required (.error e)] = [] := rfl

/-- The units that were taken follow those that the source had. -/
theorem TopsUp.sourceAllocations_self {p : InventoryPool} {missing n : ℕ} {mode : AllocationMode}
    {added : List ConfigAllocation}
    (h : TopsUp db db' now p missing mode none (some k) (labelSource n) added) :
    Orders.sourceAllocations db' k n =
      Orders.sourceAllocations db k n ++ added.map (labelSource n) := by
  unfold Orders.sourceAllocations
  rw [h.allocates.rows, List.filter_append]
  congr 1
  refine List.filter_eq_self.mpr fun r hr => ?_
  obtain ⟨a, ha, rfl⟩ := List.mem_map.mp hr
  have hnew := h.new.new a ha
  simp [labelSource, hnew.order, hnew.active]

theorem stockRendered_allocatedLinks {rows : List ConfigAllocation} {n : ℕ} {required : Bool} :
    StockRendered [sourceResult required (.ok (rows.flatMap (allocatedLink db n), []))] := by
  intro r hr link hlink _
  rw [List.mem_singleton.mp hr] at hlink
  obtain ⟨a, -, hmem⟩ := List.mem_flatMap.mp hlink
  rw [allocatedLink] at hmem
  split at hmem
  · simp at hmem
  · rw [List.mem_singleton.mp hmem]
    dsimp only
    rwa [strip_strip]

theorem Executed.of_inventorySource (hstock : SoundStock o.pk s.db)
    (hsource : source ∈ s.db.deliverySources.rows) (htype : source.sourceType = .inventoryPool) :
    Prog.wp (executeInventorySource now o source)
      (fun r s' => Executed o.pk [source] s.db s'.db [r]) (fun _ _ => False) s := by
  have hunits := hstock.units source hsource
  have hpos : 1 ≤ DeliverySource.units source := Nat.le_max_right _ _
  refine Prog.wp_mono (Prog.wp_and (wp_executeInventorySource hsource)
    wp_executeInventorySource_cases) ?_ fun _ _ h => h.1
  rintro r s' ⟨⟨hdraws, _⟩, hcases⟩
  rcases hcases with ⟨rfl, hall, rfl⟩ | ⟨p, mode, missing, added, hmissing, htops, rfl⟩ |
    ⟨rfl, hless, e, rfl⟩
  · refine ⟨rfl, ⟨[], by simp, by simp⟩, hstock, fun n => ?_, stockRendered_allocatedLinks⟩
    have hsome : sourceAllocations s'.db o.pk source.pk ≠ [] := by
      intro hnil
      rw [hnil, List.length_nil] at hall
      omega
    rw [exists_sourceAllocations htype]
    exact sourceResult_allocations hstock.linked hsome
      (fun a ha => hstock.backed a (mem_sourceAllocations.mp ha).1) n
  · have hself := htops.sourceAllocations_self
    have hkeys : (sourceAllocations s.db o.pk source.pk ++ added).map (·.pk) =
        (sourceAllocations s'.db o.pk source.pk).map (·.pk) := by
      rw [hself, List.map_append, List.map_append, List.map_map]
      rfl
    have hassets : (sourceAllocations s.db o.pk source.pk ++ added).map (·.asset) =
        (sourceAllocations s'.db o.pk source.pk).map (·.asset) := by
      rw [hself, List.map_append, List.map_append, List.map_map]
      rfl
    have hstock' := hstock.topsUp htops hdraws
    have hsome : sourceAllocations s.db o.pk source.pk ++ added ≠ [] := by
      intro hnil
      have hlength := htops.length
      rw [(List.append_eq_nil_iff.mp hnil).2, List.length_nil] at hlength
      omega
    refine ⟨hdraws.sources, ⟨_, htops.allocates.rows, ?_⟩, hstock', fun n => ?_,
      stockRendered_allocatedLinks⟩
    · intro a ha
      obtain ⟨b, hb, rfl⟩ := List.mem_map.mp ha
      have hnew := htops.new.new b hb
      exact ⟨hnew.order, hnew.active, (drawnBy_singleton htype).mpr rfl⟩
    · rw [exists_sourceAllocations htype, sourceResult_allocations hstock'.linked hsome]
      · rw [← List.mem_map, ← List.mem_map, hkeys]
      · intro a ha
        have hasset : a.asset ∈ (sourceAllocations s'.db o.pk source.pk).map (·.asset) := by
          rw [← hassets]
          exact List.mem_map_of_mem ha
        obtain ⟨b, hb, hsame⟩ := List.mem_map.mp hasset
        rw [← hsame]
        exact hstock'.backed b (mem_sourceAllocations.mp hb).1
  · have hnone : sourceAllocations s'.db o.pk source.pk = [] := by
      rw [← List.length_eq_zero_iff]
      omega
    refine ⟨rfl, ⟨[], by simp, by simp⟩, hstock, fun n => ?_, ?_⟩
    swap
    · simp [StockRendered, sourceResult]
    rw [exists_sourceAllocations htype, hnone, resultAllocations_error]
    simp

/-! ## Panel sources -/

/-- The links come from no allocation. -/
def FromNoAllocation (links : List DeliveredLink) : Prop := ∀ link ∈ links, link.allocation = none

theorem FromNoAllocation.append {links links' : List DeliveredLink} (h : FromNoAllocation links)
    (h' : FromNoAllocation links') : FromNoAllocation (links ++ links') := fun link hlink =>
  (List.mem_append.mp hlink).elim (h link) (h' link)

theorem fromNoAllocation_directLinkOf (n : ℕ) (r : ClientResult) : FromNoAllocation (directLinkOf n r) := by
  intro link hlink
  rw [directLinkOf] at hlink
  split at hlink
  · simp at hlink
  · rw [List.mem_singleton.mp hlink]

/-- The results of panel sources. -/
def FromPanels (results : List SourceResult) : Prop := ∀ r ∈ results, FromNoAllocation r.links

theorem FromPanels.snoc {r : SourceResult} (h : FromPanels results) (hr : FromNoAllocation r.links) :
    FromPanels (results ++ [r]) := by
  intro r' hr'
  rcases List.mem_append.mp hr' with hr' | hr'
  · exact h r' hr'
  · rw [List.mem_singleton.mp hr']
    exact hr

theorem wp_deliverClients {indices : List ℕ} {client : ℕ → ShopM (List DeliveredLink × ℕ)}
    (hclient : ∀ i s, Prog.wp (client i) (fun r _ => FromNoAllocation r.1) (fun _ _ => True) s) :
    Prog.wp (deliverClients indices client) (fun r _ => FromNoAllocation r.1) (fun _ _ => True) s := by
  have hstart : FromNoAllocation (([], []) : List DeliveredLink × List ℕ).1 := by simp [FromNoAllocation]
  refine Prog.wp_forEach (I := fun _ (delivered : List DeliveredLink × List ℕ) _ =>
    FromNoAllocation delivered.1) hstart fun i rest delivered s' h => ?_
  rw [Prog.wp_bind]
  refine Prog.wp_mono (hclient i s') (fun r _ hr => ?_) fun _ _ h => h
  exact h.append hr

theorem wp_sourceResult {required : Bool} {q : ShopM (List DeliveredLink × List ℕ)}
    (h : ∀ s, Prog.wp q (fun r _ => FromNoAllocation r.1) (fun _ _ => True) s) :
    Prog.wp (do
        let outcome ← Prog.caught q
        return sourceResult required outcome)
      (fun r _ => FromNoAllocation r.links) (fun _ _ => True) s := by
  rw [Prog.wp_bind, Prog.wp_caught]
  refine Prog.wp_mono (h s) (fun r _ hr => hr) fun halt _ _ => ?_
  cases halt with
  | crashed => trivial
  | raised e => exact fun link hlink => by simp [sourceResult] at hlink

theorem wp_executeSinglePanelSource :
    Prog.wp (executeSinglePanelSource platform now o source) (fun r _ => FromNoAllocation r.links)
      (fun _ _ => True) s := by
  refine wp_sourceResult fun s => ?_
  refine Prog.wp_bind_of_forall fun db s => Prog.wp_bind_of_forall fun i s => ?_
  refine Prog.wp_bind_of_forall fun p s => Prog.wp_bind_of_forall fun plan s => ?_
  refine wp_deliverClients fun index s => ?_
  refine Prog.wp_bind_of_forall fun result s => Prog.wp_bind_of_forall fun recorded s => ?_
  exact fromNoAllocation_directLinkOf source.pk result

theorem wp_executePasarguardPanelGroup {dynamicSubscription : Bool} :
    Prog.wp (executePasarguardPanelGroup platform now o dynamicSubscription source sources)
      (fun r _ => FromNoAllocation r.links) (fun _ _ => True) s := by
  refine wp_sourceResult fun s => ?_
  refine Prog.wp_bind_of_forall fun db s => Prog.wp_bind_of_forall fun p s => ?_
  refine Prog.wp_bind_of_forall fun _ s => Prog.wp_bind_of_forall fun inbound s => ?_
  refine Prog.wp_bind_of_forall fun plan s => wp_deliverClients fun index s => ?_
  refine Prog.wp_bind_of_forall fun user s => Prog.wp_bind_of_forall fun recorded s => ?_
  refine Prog.wp_bind_of_forall fun links s link hlink => ?_
  obtain ⟨raw, -, rfl⟩ := List.mem_map.mp hlink
  rfl

theorem wp_executeMultiPanelGroup :
    Prog.wp (executeMultiPanelGroup platform now o source sources)
      (fun r _ => FromNoAllocation r.links) (fun _ _ => True) s := by
  refine wp_sourceResult fun s => ?_
  refine Prog.wp_bind_of_forall fun db s => Prog.wp_bind_of_forall fun inbounds s => ?_
  refine Prog.wp_bind_of_forall fun p s => Prog.wp_bind_of_forall fun inbound s => ?_
  refine Prog.wp_bind_of_forall fun plan s => wp_deliverClients fun index s => ?_
  refine Prog.wp_bind_of_forall fun verified s => Prog.wp_bind_of_forall fun result s => ?_
  refine Prog.wp_bind_of_forall fun recorded s link hlink => ?_
  obtain ⟨⟨t, r⟩, -, hmem⟩ := List.mem_flatMap.mp hlink
  exact fromNoAllocation_directLinkOf t.pk r link hmem

theorem wp_executePanelGroup {dynamicSubscription : Bool} (h : FromPanels results) :
    Prog.wp (executePanelGroup platform now o dynamicSubscription sources results)
      (fun rs _ => FromPanels rs) (fun _ _ => True) s := by
  rw [executePanelGroup, Prog.wp_bind, Prog.wp_readDb]
  cases sources with
  | nil => exact h
  | cons first rest =>
      refine Prog.wp_bind_of_forall fun p s => ?_
      rw [Prog.wp_ite]
      refine ⟨fun _ => ?_, fun _ => ?_⟩
      · rw [Prog.wp_bind]
        exact Prog.wp_mono wp_executePasarguardPanelGroup (fun _ _ hr => h.snoc hr) fun _ _ h => h
      rw [Prog.wp_ite]
      refine ⟨fun _ => ?_, fun _ => ?_⟩
      · rw [Prog.wp_bind]
        exact Prog.wp_mono wp_executeMultiPanelGroup (fun _ _ hr => h.snoc hr) fun _ _ h => h
      · refine Prog.wp_forEach (I := fun _ rs _ => FromPanels rs) h fun t _ rs s hrs => ?_
        rw [Prog.wp_bind]
        exact Prog.wp_mono wp_executeSinglePanelSource (fun _ _ hr => hrs.snoc hr) fun _ _ h => h

/-! ## All sources -/

theorem resultAllocations_fromPanels (h : FromPanels results) : resultAllocations results = [] := by
  refine List.filterMap_eq_nil_iff.mpr fun link hlink => ?_
  obtain ⟨r, hr, hmem⟩ := List.mem_flatMap.mp hlink
  exact h r (List.mem_filter.mp hr).1 link hmem

theorem SoundStock.of_withoutServices (h : SoundStock k db)
    (hkept : db'.withoutServices = db.withoutServices) : SoundStock k db' := by
  rw [eq_of_withoutServices hkept]
  exact ⟨h.linked, h.backed, h.units⟩

/-- Panel sources draw nothing. -/
theorem Executed.of_panels (h : SoundStock k db) (hkept : db'.withoutServices = db.withoutServices)
    (hpanels : FromPanels results) (htypes : ∀ t ∈ sources, t.sourceType ≠ .inventoryPool) :
    Executed k sources db db' results where
  configured := by rw [eq_of_withoutServices hkept]
  rows := ⟨[], by rw [eq_of_withoutServices hkept, List.append_nil], by simp⟩
  sound := h.of_withoutServices hkept
  delivered n := by
    rw [resultAllocations_fromPanels hpanels]
    constructor
    · simp
    · intro h
      obtain ⟨a, -, -, t, ht, htype, -⟩ := h
      exact absurd htype (htypes t ht)
  rendered r hr link hlink hsome := by
    rw [hpanels r hr link hlink] at hsome
    cases hsome

theorem Executed.congr (h : Executed k sources db db' results)
    (hsame : ∀ a, DrawnBy sources a ↔ DrawnBy more a) : Executed k more db db' results where
  configured := h.configured
  rows := by
    obtain ⟨new, hrows, hnew⟩ := h.rows
    refine ⟨new, hrows, fun a ha => ?_⟩
    have := hnew a ha
    exact ⟨this.1, this.2.1, (hsame a).mp this.2.2⟩
  sound := h.sound
  delivered n := by
    rw [h.delivered]
    simp only [hsame]
  rendered := h.rendered

theorem Executed.of_inventorySources (hstock : SoundStock o.pk s.db)
    (hsources : sources ⊆ s.db.deliverySources.rows) (hnodup : (sources.map (·.pk)).Nodup)
    (htypes : ∀ t ∈ sources, t.sourceType = .inventoryPool) :
    Prog.wp (Prog.forEach sources results fun source results => do
        let result ← executeInventorySource now o source
        return results ++ [result])
      (fun rs s' => ∃ added, rs = results ++ added ∧ Executed o.pk sources s.db s'.db added)
      (fun _ _ => True) s := by
  induction sources generalizing s results with
  | nil => exact ⟨[], by simp, .nil hstock⟩
  | cons source sources ih =>
      rw [Prog.forEach, Prog.wp_bind, Prog.wp_bind]
      refine Prog.wp_mono (Executed.of_inventorySource hstock (hsources List.mem_cons_self)
        (htypes source List.mem_cons_self)) ?_ fun _ _ h => h.elim
      intro r s₁ hfirst
      rw [Prog.wp_pure]
      have hrest : sources ⊆ s₁.db.deliverySources.rows := by
        rw [hfirst.configured]
        exact fun t ht => hsources (List.mem_cons_of_mem source ht)
      rw [List.map_cons, List.nodup_cons] at hnodup
      refine Prog.wp_mono (ih hfirst.sound hrest hnodup.2 fun t ht =>
        htypes t (List.mem_cons_of_mem source ht)) ?_ fun _ _ h => h
      rintro rs s₂ ⟨added, hrs, hmore⟩
      refine ⟨r :: added, by rw [hrs, List.append_assoc]; rfl, ?_⟩
      refine hfirst.append hmore ?_
      rw [List.singleton_append, List.map_cons, List.nodup_cons]
      exact hnodup

section Split

variable {p q : DeliverySource → Bool}

/-- The sources in two parts. -/
theorem drawnBy_split {a : ConfigAllocation}
    (hcover : ∀ t, t.sourceType = .inventoryPool → p t = true ∨ q t = true) :
    DrawnBy (sources.filter p ++ sources.filter q) a ↔ DrawnBy sources a := by
  constructor
  · rintro ⟨t, ht, hlabel⟩
    refine ⟨t, ?_, hlabel⟩
    exact (List.mem_append.mp ht).elim (fun ht => (List.mem_filter.mp ht).1)
      fun ht => (List.mem_filter.mp ht).1
  · rintro ⟨t, ht, htype, hlabel⟩
    refine ⟨t, List.mem_append.mpr ?_, htype, hlabel⟩
    rcases hcover t htype with hp | hq
    · exact .inl (List.mem_filter.mpr ⟨ht, hp⟩)
    · exact .inr (List.mem_filter.mpr ⟨ht, hq⟩)

theorem nodup_split (hdisjoint : ∀ t, p t = true → ¬ q t = true)
    (hnodup : (sources.map (·.pk)).Nodup) :
    ((sources.filter p ++ sources.filter q).map (·.pk)).Nodup := by
  rw [List.map_append, List.nodup_append]
  refine ⟨hnodup.sublist (List.filter_sublist.map _), hnodup.sublist (List.filter_sublist.map _), ?_⟩
  intro n hn m hm hsame
  obtain ⟨t, ht, rfl⟩ := List.mem_map.mp hn
  obtain ⟨u, hu, rfl⟩ := List.mem_map.mp hm
  obtain ⟨ht, hp⟩ := List.mem_filter.mp ht
  obtain ⟨hu, hq⟩ := List.mem_filter.mp hu
  obtain rfl := List.inj_on_of_nodup_map hnodup ht hu hsame
  exact hdisjoint t hp hq

end Split

theorem Executed.of_executeSources {dynamicSubscription : Bool} (hstock : SoundStock o.pk s.db)
    (hsources : sources ⊆ s.db.deliverySources.rows) (hnodup : (sources.map (·.pk)).Nodup) :
    Prog.wp (executeSources platform now o dynamicSubscription sources)
      (fun rs s' => Executed o.pk sources s.db s'.db rs) (fun _ _ => True) s := by
  have hkeeps : Prog.Keeps Db.withoutServices (Prog.forEach
      (groupByPanel s.db (sources.filter (·.sourceType = .panelInbound))) []
        (executePanelGroup platform now o dynamicSubscription)) :=
    Prog.Keeps.forEach fun _ _ => keeps_executePanelGroup
  have hpanels : Prog.wp (Prog.forEach
      (groupByPanel s.db (sources.filter (·.sourceType = .panelInbound))) []
        (executePanelGroup platform now o dynamicSubscription))
      (fun rs _ => FromPanels rs) (fun _ _ => True) s :=
    Prog.wp_forEach (I := fun _ rs _ => FromPanels rs) (by simp [FromPanels])
      fun group _ rs s' h => wp_executePanelGroup h
  rw [executeSources, Prog.wp_bind, Prog.wp_readDb, Prog.wp_bind]
  refine Prog.wp_mono (hkeeps.wp_and hpanels) ?_ fun _ _ _ => trivial
  rintro results s₁ ⟨hfrom, hkept⟩
  have hfirst : Executed o.pk (sources.filter (·.sourceType = .panelInbound)) s.db s₁.db results := by
    refine .of_panels hstock hkept.view hfrom fun t ht htype => ?_
    have hpanel := of_decide_eq_true (List.mem_filter.mp ht).2
    rw [hpanel] at htype
    cases htype
  have hinventory : sources.filter (·.sourceType = .inventoryPool) ⊆ s₁.db.deliverySources.rows := by
    rw [hfirst.configured]
    exact fun t ht => hsources (List.mem_filter.mp ht).1
  refine Prog.wp_mono (Executed.of_inventorySources hfirst.sound hinventory
    (hnodup.sublist (List.filter_sublist.map _))
    fun t ht => of_decide_eq_true (List.mem_filter.mp ht).2) ?_ fun _ _ _ => trivial
  rintro rs s₂ ⟨added, hrs, hmore⟩
  rw [hrs]
  have hdisjoint : ∀ t : DeliverySource, decide (t.sourceType = .panelInbound) = true →
      ¬ decide (t.sourceType = .inventoryPool) = true := by
    intro t hpanel hstock
    rw [of_decide_eq_true hpanel] at hstock
    cases hstock
  refine (hfirst.append hmore (nodup_split hdisjoint hnodup)).congr fun a => ?_
  exact drawnBy_split fun t htype => .inr (decide_eq_true htype)

/-- What the sources of a configuration leave: all of them were executed, or the primary ones
alone. -/
theorem Executed.of_executeConfiguredSources {dynamicSubscription : Bool}
    {P : List SourceResult → Prop} (hstock : SoundStock o.pk s.db)
    (hsources : sources ⊆ s.db.deliverySources.rows) (hnodup : (sources.map (·.pk)).Nodup)
    (hprimary : Prog.wp (executeSources platform now o dynamicSubscription
      (sources.filter (!·.isFallback))) (fun rs _ => P rs) (fun _ _ => True) s) :
    Prog.wp (executeConfiguredSources platform now o dynamicSubscription sources)
      (fun rs s' => Executed o.pk sources s.db s'.db rs ∨
        shouldUseFallback rs = false ∧ P rs ∧
          Executed o.pk (sources.filter (!·.isFallback)) s.db s'.db rs)
      (fun _ _ => True) s := by
  have hcover : ∀ t : DeliverySource, t.sourceType = .inventoryPool →
      (!t.isFallback) = true ∨ t.isFallback = true := by
    intro t _
    cases t.isFallback
    · exact .inl rfl
    · exact .inr rfl
  have hfilter : ∀ keep : DeliverySource → Bool, sources.filter keep ⊆
      s.db.deliverySources.rows := fun _ t ht => hsources (List.mem_filter.mp ht).1
  rw [executeConfiguredSources, Prog.wp_bind]
  refine Prog.wp_mono (Prog.wp_and (Executed.of_executeSources hstock (hfilter _)
    (hnodup.sublist (List.filter_sublist.map _))) hprimary) ?_ fun _ _ _ => trivial
  rintro results s₁ ⟨hfirst, hP⟩
  rw [Prog.wp_ite]
  refine ⟨fun _ => ?_, fun hnone => ?_⟩
  · have hfallbacks : sources.filter (·.isFallback) ⊆ s₁.db.deliverySources.rows :=
      hfirst.configured ▸ hfilter _
    rw [Prog.wp_bind]
    refine Prog.wp_mono (Executed.of_executeSources hfirst.sound hfallbacks
      (hnodup.sublist (List.filter_sublist.map _))) ?_ fun _ _ _ => trivial
    intro more s₂ hmore
    rw [Prog.wp_pure]
    have hdisjoint : ∀ t : DeliverySource, (!t.isFallback) = true → ¬ t.isFallback = true := by
      intro t hprimary hfallback
      simp [hfallback] at hprimary
    exact .inl ((hfirst.append hmore (nodup_split hdisjoint hnodup)).congr
      fun a => drawnBy_split hcover)
  · rw [Prog.wp_pure]
    by_cases huse : shouldUseFallback results = true
    · -- There is no fallback source, so that the primary ones are all.
      have hempty : sources.filter (·.isFallback) = [] := by
        by_contra hsome
        exact hnone ⟨hsome, huse⟩
      have hall := @drawnBy_split sources (!·.isFallback) (·.isFallback)
      refine .inl (hfirst.congr fun a => ?_)
      rw [← hall hcover, hempty, List.append_nil]
    · exact .inr ⟨Bool.eq_false_iff.mpr huse, hP, hfirst⟩

end Qasedak.Orders
