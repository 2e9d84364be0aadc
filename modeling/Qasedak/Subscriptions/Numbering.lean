import Mathlib
import Qasedak.Subscriptions.Reordering
import Qasedak.Subscriptions.Adoption
import Qasedak.Foundation.Run

/-! Which numbers the writers of a cup give to its items, and the runs of them after which every item
can be moved: those in which no item gets the number of one that its writer leaves alone. -/

namespace Qasedak.Subscriptions

open Foundation Store

variable {db db' : CupDb} {cup k position count : ℕ} {content : LinkContent}
  {contents : List LinkContent} {reusable : Reusable} {x y : CupItem}

/-! ## Numbers that are free -/

/-- The keys of the items that the links of a list take over. -/
def takenKeys (raws : List String) (reusable : Reusable) : List ℕ :=
  (matchItems raws reusable).reduceOption.map (·.pk)

/-- The items of a cup without those of some keys. -/
def CupDb.leftItems (db : CupDb) (cup : ℕ) (keys : List ℕ) : List CupItem :=
  (db.cupItems cup).filter fun x => x.pk ∉ keys

/-- No item that stays has one of the consecutive numbers. -/
def CupDb.AreFree (db : CupDb) (cup : ℕ) (keys : List ℕ) (position count : ℕ) : Prop :=
  ∀ x ∈ db.leftItems cup keys, x.position < position ∨ position + count ≤ x.position

instance (db : CupDb) (cup : ℕ) (keys : List ℕ) (position count : ℕ) :
    Decidable (db.AreFree cup keys position count) :=
  inferInstanceAs (Decidable (∀ _ ∈ _, _))

/-- The checks of `_reconcile_success` let the links in. -/
def acceptsRefresh (original : ExternalSubscriptionFeed) (token : Option String)
    (allowDisabled : Bool) (now clock : Instant) (f : ExternalSubscriptionFeed)
    (row : SubscriptionCup) : Bool :=
  !(token.any fun t => !f.isHeldBy t now) && !f.sourceChanged original &&
    row.isAccessible clock && !(f.isDisabled && !allowDisabled)

/-- The writer gives the items of a cup no number that one of the others has. -/
def CupWrite.NumbersFreely (k : ℕ) (w : CupWrite) (db : CupDb) : Prop :=
  match w with
  | .rebuild _ order vpnClient entries forceActive token _ =>
      let order := order <|> (vpnClient.bind db.clients.get?).bind (·.order)
      let target := db.withCup order vpnClient forceActive token
      let entries := target.2.unmanagedEntries target.1 vpnClient entries
      target.1 = k → db.AreFree k
        (takenKeys (entries.map (·.rawLink)) ((db.unmanagedItems k).map fun x => (x, db.rawLink x)))
        1 entries.length
  | .refresh original result token allowDisabled now clock =>
      ∀ f ∈ db.feeds.get? original.pk, ∀ row ∈ db.cups.get? f.cup,
        f.cup = k → acceptsRefresh original token allowDisabled now clock f row = true →
          db.AreFree k (takenKeys result.rawLinks (db.reusableItems f)) (db.basePosition f)
            result.selectedCount
  | .deliver cup links => cup = k → db.AreFree k [] 1 links.length
  | .append _ _ => True
  | .remove _ _ => True
  | .move _ _ _ => True

/-- The positions after some items stay and some are numbered consecutively. -/
theorem nodup_numbered_iff {keys : List ℕ} (h : (db.positions k).Nodup)
    (hperm : (db'.positions k).Perm
      ((db.leftItems k keys).map (·.position) ++ List.range' position count)) :
    (db'.positions k).Nodup ↔ db.AreFree k keys position count := by
  have hleft : ((db.leftItems k keys).map (·.position)).Nodup :=
    h.sublist (List.filter_sublist.map _)
  rw [hperm.nodup_iff, List.nodup_append]
  constructor
  · intro ⟨_, _, hdisjoint⟩ x hx
    have hne := hdisjoint x.position (List.mem_map_of_mem hx)
    by_contra hin
    refine hne x.position (List.mem_range'_1.mpr ?_) rfl
    omega
  · intro hfree
    refine ⟨hleft, List.nodup_range', ?_⟩
    intro p hp q hq heq
    obtain ⟨x, hx, rfl⟩ := List.mem_map.mp hp
    have hrange := List.mem_range'_1.mp hq
    have hapart := hfree x hx
    omega

@[simp] theorem leftItems_nil (db : CupDb) (cup : ℕ) : db.leftItems cup [] = db.cupItems cup := by
  simp [CupDb.leftItems]

/-! ## A refill -/

theorem positions_of_rows (h : db'.items.rows = db.items.rows) :
    db'.positions k = db.positions k := by
  rw [CupDb.positions, CupDb.positions, CupDb.cupItems, CupDb.cupItems, h]

/-- A change of the items that leaves their cups and positions alone. -/
theorem positions_of_map {f : CupItem → CupItem} (h : db'.items.rows = db.items.rows.map f)
    (hf : ∀ x, (f x).cup = x.cup ∧ (f x).position = x.position) :
    db'.positions k = db.positions k := by
  rw [CupDb.positions, CupDb.positions, CupDb.cupItems, CupDb.cupItems, h, List.filter_map,
    List.map_map]
  have hcup : ((fun x : CupItem => decide (x.cup = k)) ∘ f) = fun x => decide (x.cup = k) := by
    funext x
    simp [(hf x).1]
  rw [hcup]
  exact List.map_congr_left fun x _ => (hf x).2

/-- Rows of the cup, each once. -/
structure Standing (db : CupDb) (cup : ℕ) (reusable : Reusable) : Prop where
  rows : ∀ x ∈ reusable, x.1 ∈ db.items.rows ∧ x.1.cup = cup
  keys : (reusable.map (·.1.pk)).Nodup

theorem mem_takenKeys {raws : List String} {reusable : Reusable} {key : ℕ}
    (h : key ∈ takenKeys raws reusable) : ∃ x ∈ reusable, x.1.pk = key := by
  obtain ⟨x, hx, rfl⟩ := List.mem_map.mp h
  obtain ⟨o, ho, hid⟩ := List.mem_filterMap.mp hx
  obtain rfl : o = some x := hid
  obtain ⟨raw, hraw⟩ := mem_of_matchItems ho
  exact ⟨(x, raw), hraw, rfl⟩

theorem cupItems_insert {row : CupItem} (hrow : row.pk = db.items.nextKey)
    (h : db'.items.rows = (db.items.insert row hrow).rows) :
    db'.cupItems k = db.cupItems k ++ if row.cup = k then [row] else [] := by
  rw [CupDb.cupItems, CupDb.cupItems, h, Table.rows_insert, List.filter_append]
  by_cases hk : row.cup = k <;> simp [hk]

theorem not_mem_takenKeys_nextKey (hstanding : Standing db cup reusable) {raws : List String} :
    db.items.nextKey ∉ takenKeys raws reusable := by
  intro hmem
  obtain ⟨x, hx, hkey⟩ := mem_takenKeys hmem
  have hlt := Table.lt_nextKey (hstanding.rows x hx).1
  omega

/-- The new item of a link stays. -/
theorem leftItems_new {keys : List ℕ} (hkey : db.items.nextKey ∉ keys) :
    (db.placeLink cup position content none).leftItems cup keys =
      db.leftItems cup keys ++ [db.newItem cup position] := by
  have hitems := @cupItems_insert db (db.placeLink cup position content none) cup
    (db.newItem cup position) (db.newItem_pk cup position) rfl
  rw [if_pos (show (db.newItem cup position).cup = cup from rfl)] at hitems
  rw [CupDb.leftItems, hitems, List.filter_append, ← CupDb.leftItems]
  have hnew : (db.newItem cup position).pk ∉ keys := hkey
  rw [List.filter_cons_of_pos (by simpa using hnew), List.filter_nil]

/-- An item that is taken over stays with its new position. -/
theorem leftItems_taken {keys : List ℕ} (hy : y ∈ db.items.rows) (hcup : y.cup = cup)
    (hkey : y.pk ∉ keys) : ∃ front back, db.leftItems cup (y.pk :: keys) = front ++ back ∧
      (db.placeLink cup position content (some y)).leftItems cup keys =
        front ++ CupDb.placedItem position y :: back := by
  obtain ⟨before, after, hsplit⟩ := List.append_of_mem hy
  have hrows : (db.placeLink cup position content (some y)).items.rows =
      before ++ CupDb.placedItem position y :: after :=
    Table.rows_modify_of_append hsplit _ (CupDb.placedItem_pk position)
  have hnodup := db.items.keys_nodup
  rw [hsplit, List.map_append, List.map_cons, List.nodup_middle, List.nodup_cons,
    ← List.map_append] at hnodup
  have hplacedCup : (CupDb.placedItem position y).cup = cup := hcup
  have hplacedKey : (CupDb.placedItem position y).pk ∉ keys := hkey
  have hkeys (zs : List CupItem) (hzs : zs ⊆ before ++ after) :
      (zs.filter fun x => x.cup = cup).filter (fun x => x.pk ∉ y.pk :: keys) =
        (zs.filter fun x => x.cup = cup).filter fun x => x.pk ∉ keys := by
    refine List.filter_congr fun z hz => ?_
    have hne : z.pk ≠ y.pk := fun heq =>
      hnodup.1 (List.mem_map.mpr ⟨z, hzs (List.mem_filter.mp hz).1, heq⟩)
    simp [hne]
  refine ⟨(before.filter fun x => x.cup = cup).filter fun x => x.pk ∉ keys,
    (after.filter fun x => x.cup = cup).filter fun x => x.pk ∉ keys, ?_, ?_⟩
  · rw [← hkeys before (List.subset_append_left _ _), ← hkeys after (List.subset_append_right _ _),
      CupDb.leftItems, CupDb.cupItems, hsplit, List.filter_append,
      List.filter_cons_of_pos (by simpa using hcup), List.filter_append,
      List.filter_cons_of_neg (by simp)]
  · rw [CupDb.leftItems, CupDb.cupItems, hrows, List.filter_append,
      List.filter_cons_of_pos (by simpa using hplacedCup), List.filter_append,
      List.filter_cons_of_pos (by exact decide_eq_true hplacedKey)]

theorem positions_placeLink_of_ne (hk : k ≠ cup) {old : Option CupItem}
    (hold : ∀ x ∈ old, x ∈ db.items.rows ∧ x.cup = cup) :
    (db.placeLink cup position content old).positions k = db.positions k := by
  cases old with
  | none =>
      rw [CupDb.positions, CupDb.positions, cupItems_insert (db.newItem_pk cup position) rfl,
        if_neg (show ¬ (db.newItem cup position).cup = k from Ne.symm hk), List.append_nil]
  | some y =>
      obtain ⟨hy, hcup⟩ := hold y rfl
      obtain ⟨before, after, hsplit⟩ := List.append_of_mem hy
      have hrows : (db.placeLink cup position content (some y)).items.rows =
          before ++ CupDb.placedItem position y :: after :=
        Table.rows_modify_of_append hsplit _ (CupDb.placedItem_pk position)
      have hne : ¬ y.cup = k := fun h => hk (h.symm.trans hcup)
      have hplaced : ¬ (CupDb.placedItem position y).cup = k := hne
      rw [CupDb.positions, CupDb.positions, CupDb.cupItems, CupDb.cupItems, hrows, hsplit,
        List.filter_append, List.filter_append, List.filter_cons_of_neg (by simpa using hplaced),
        List.filter_cons_of_neg (by simpa using hne)]

theorem Standing.place (hstanding : Standing db cup reusable) (raw : String) :
    Standing (db.placeLink cup position content (takeItem raw reusable).1) cup
      (takeItem raw reusable).2 := by
  rcases takeItem_cases raw reusable with ⟨htake, -⟩ | ⟨y, before, after, rfl, htake⟩
  · rw [htake]
    exact ⟨fun x hx => ⟨List.mem_append_left _ (hstanding.rows x hx).1, (hstanding.rows x hx).2⟩,
      hstanding.keys⟩
  · rw [htake]
    have hkeys := hstanding.keys
    rw [List.map_append, List.map_cons, List.nodup_middle, List.nodup_cons, ← List.map_append]
      at hkeys
    refine ⟨fun x hx => ?_, hkeys.2⟩
    have hx' : x ∈ before ++ (y, raw) :: after := by
      rcases List.mem_append.mp hx with hx | hx
      · exact List.mem_append_left _ hx
      · exact List.mem_append_right _ (List.mem_cons_of_mem _ hx)
    obtain ⟨hrow, hcup⟩ := hstanding.rows x hx'
    have hne : x.1.pk ≠ y.pk := fun heq => hkeys.1 (List.mem_map.mpr ⟨x, hx, heq⟩)
    refine ⟨?_, hcup⟩
    have hmodified := @Table.rows_modify _ CupItem.pk db.items y.pk (CupDb.placedItem position)
      (CupDb.placedItem_pk position)
    change x.1 ∈ (db.items.modify y.pk _ (CupDb.placedItem_pk position)).rows
    rw [hmodified]
    exact List.mem_map.mpr ⟨x.1, hrow, if_neg hne⟩

theorem taken_row (hstanding : Standing db cup reusable) (raw : String) :
    ∀ x ∈ (takeItem raw reusable).1, x ∈ db.items.rows ∧ x.cup = cup := by
  intro x hx
  rcases takeItem_cases raw reusable with ⟨htake, -⟩ | ⟨y, before, after, rfl, htake⟩
  · rw [htake] at hx
    cases hx
  · rw [htake] at hx
    obtain rfl : y = x := Option.some.inj hx
    exact hstanding.rows (y, raw) (by simp)

/-- A refill leaves the positions of the other cups alone. -/
theorem positions_refill_of_ne (hk : k ≠ cup) (hstanding : Standing db cup reusable) :
    (refill cup position contents reusable db).1.positions k = db.positions k := by
  induction contents generalizing position reusable db with
  | nil => rfl
  | cons content contents ih =>
      rw [refill]
      dsimp only
      rw [ih (hstanding.place content.rawLink),
        positions_placeLink_of_ne hk (taken_row hstanding content.rawLink)]

/-- In its own cup it numbers the items that it writes consecutively. -/
theorem positions_refill (hstanding : Standing db cup reusable) :
    ((refill cup position contents reusable db).1.positions cup).Perm
      ((db.leftItems cup (takenKeys (contents.map (·.rawLink)) reusable)).map (·.position) ++
        List.range' position contents.length) := by
  induction contents generalizing position reusable db with
  | nil => simp [refill, takenKeys, matchItems, CupDb.positions, CupDb.leftItems]
  | cons content contents ih =>
      have hrest := @ih (db.placeLink cup position content (takeItem content.rawLink reusable).1)
        (position + 1) (takeItem content.rawLink reusable).2 (hstanding.place content.rawLink)
      rw [refill]
      dsimp only
      refine hrest.trans ?_
      rw [List.map_cons, List.length_cons, List.range'_succ]
      rcases takeItem_cases content.rawLink reusable with ⟨htake, -⟩ |
        ⟨y, before, after, rfl, htake⟩
      · have hkeys : takenKeys (content.rawLink :: contents.map (·.rawLink)) reusable =
            takenKeys (contents.map (·.rawLink)) reusable := by
          rw [takenKeys, matchItems, htake, List.reduceOption_cons_of_none, ← takenKeys]
        rw [hkeys, htake, leftItems_new (not_mem_takenKeys_nextKey hstanding), List.map_append,
          List.append_assoc]
        exact .refl _
      · have hkeys : takenKeys (content.rawLink :: contents.map (·.rawLink))
            (before ++ (y, content.rawLink) :: after) =
              y.pk :: takenKeys (contents.map (·.rawLink)) (before ++ after) := by
          rw [takenKeys, matchItems, htake, List.reduceOption_cons_of_some, List.map_cons,
            ← takenKeys]
        have hfresh : y.pk ∉ takenKeys (contents.map (·.rawLink)) (before ++ after) := by
          intro hmem
          obtain ⟨x, hx, hkey⟩ := mem_takenKeys hmem
          have hnodup := hstanding.keys
          rw [List.map_append, List.map_cons, List.nodup_middle, List.nodup_cons,
            ← List.map_append] at hnodup
          exact hnodup.1 (List.mem_map.mpr ⟨x, hx, hkey⟩)
        obtain ⟨hrow, hcup⟩ := hstanding.rows (y, content.rawLink) (by simp)
        obtain ⟨front, back, hleft, hplaced⟩ :=
          @leftItems_taken db cup position content y _ hrow hcup hfresh
        rw [hkeys, htake, hleft, hplaced, List.map_append, List.map_append, List.map_cons,
          List.append_assoc, List.append_assoc]
        exact List.perm_middle.symm.append_left _

/-! ## The writers -/

theorem standing_unmanagedItems (db : CupDb) (cup : ℕ) :
    Standing db cup ((db.unmanagedItems cup).map fun x => (x, db.rawLink x)) := by
  refine ⟨fun x hx => ?_, ?_⟩
  · obtain ⟨y, hy, rfl⟩ := List.mem_map.mp hx
    have hy := mem_listed.mp hy
    simp only [List.mem_filter, Bool.and_eq_true, decide_eq_true_eq] at hy
    exact ⟨hy.1, hy.2.1⟩
  · rw [List.map_map]
    exact nodup_listed_pk ((List.filter_sublist.map _).nodup db.items.keys_nodup)

theorem standing_reusableItems (db : CupDb) (f : ExternalSubscriptionFeed) :
    Standing db f.cup (db.reusableItems f) := by
  have hreusable := @reusables_reusableItems db f
  exact ⟨fun x hx => ⟨(Table.mem_of_get? (hreusable.rows x hx).1).1, (hreusable.rows x hx).2.1⟩,
    hreusable.keys⟩

theorem retireItem_fields (placed : List CupItem) (managed : CupItem → Bool) (cup : ℕ)
    (x : CupItem) : (retireItem placed managed cup x).cup = x.cup ∧
      (retireItem placed managed cup x).position = x.position := by
  unfold retireItem
  split <;> exact ⟨rfl, rfl⟩

theorem dropItem_fields (stale : List CupItem) (x : CupItem) :
    (CupDb.dropItem stale x).cup = x.cup ∧ (CupDb.dropItem stale x).position = x.position := by
  unfold CupDb.dropItem
  split <;> exact ⟨rfl, rfl⟩

theorem hideItem_fields (cup : ℕ) (x : CupItem) :
    (hideItem cup x).cup = x.cup ∧ (hideItem cup x).position = x.position := by
  unfold hideItem
  split <;> exact ⟨rfl, rfl⟩

theorem positions_rebuildItems (db : CupDb) (vpnClient : Option ℕ) (entries : List CupEntry) :
    (db.rebuildItems cup vpnClient entries).positions k =
      (db.refillUnmanaged cup vpnClient entries).1.positions k :=
  positions_of_map rfl (retireItem_fields _ _ cup)

theorem positions_ensure {env : SyncEnv} {clock : Instant} :
    (((ensurePasarguardFeedsForCup env cup clock db).map (·.1)).getD db).positions k =
      db.positions k := by
  unfold ensurePasarguardFeedsForCup
  cases db.cups.get? cup with
  | none => rfl
  | some row =>
      simp only [Option.map_some, Option.getD_some]
      split
      · obtain ⟨links, feeds, hrest⟩ := (adopts_foldl env row
          (groupItems env db row (db.adoptableItems cup)).1 db
          (groupItems env db row (db.adoptableItems cup)).2).1.rest
        refine positions_of_rows ?_
        rw [hrest]
      · rfl

theorem withCup_items (order vpnClient : Option ℕ) (forceActive : Bool) (token : String) :
    (db.withCup order vpnClient forceActive token).2.items = db.items ∧
      (db.withCup order vpnClient forceActive token).2.links = db.links := by
  unfold CupDb.withCup
  split <;> exact ⟨rfl, rfl⟩

theorem map_rawLink_entries (vpnClient : Option ℕ) (entries : List CupEntry) :
    (entries.map (·.content vpnClient)).map (·.rawLink) = entries.map (·.rawLink) := by
  rw [List.map_map]
  rfl

/-- A rebuild keeps distinct positions exactly where it numbers freely. -/
theorem rebuild_nodup_iff {env : SyncEnv} {order vpnClient : Option ℕ} {entries : List CupEntry}
    {forceActive : Bool} {token : String} {clock : Instant} (h : (db.positions k).Nodup) :
    ((rebuildCup env order vpnClient entries forceActive token clock db).2.positions k).Nodup ↔
      CupWrite.NumbersFreely k (.rebuild env order vpnClient entries forceActive token clock) db := by
  rw [rebuildCup, CupWrite.NumbersFreely]
  dsimp only
  rw [positions_ensure, positions_rebuildItems]
  obtain ⟨hitems, hlinks⟩ := @withCup_items db
    (order <|> (vpnClient.bind db.clients.get?).bind (·.order)) vpnClient forceActive token
  generalize db.withCup (order <|> (vpnClient.bind db.clients.get?).bind (·.order)) vpnClient
    forceActive token = target at hitems hlinks ⊢
  obtain ⟨cup, made⟩ := target
  dsimp only at hitems hlinks ⊢
  have hmade : (made.positions k).Nodup := by rwa [positions_of_rows (congrArg _ hitems)]
  have hunmanaged : (made.unmanagedItems cup).map (fun x => (x, made.rawLink x)) =
      (db.unmanagedItems cup).map fun x => (x, db.rawLink x) := by
    unfold CupDb.unmanagedItems CupDb.feedOf CupDb.rawLink
    rw [hitems, hlinks]
  have hfree (keys : List ℕ) (n : ℕ) : made.AreFree k keys 1 n ↔ db.AreFree k keys 1 n := by
    unfold CupDb.AreFree CupDb.leftItems CupDb.cupItems
    rw [hitems]
  rw [CupDb.refillUnmanaged]
  by_cases hk : cup = k
  · subst hk
    have hperm := @positions_refill made cup 1
      ((made.unmanagedEntries cup vpnClient entries).map (·.content vpnClient)) _
      (standing_unmanagedItems made cup)
    rw [map_rawLink_entries, List.length_map] at hperm
    rw [nodup_numbered_iff hmade hperm, hfree, hunmanaged]
    exact ⟨fun hfree _ => hfree, fun hfree => hfree rfl⟩
  · rw [positions_refill_of_ne (Ne.symm hk) (standing_unmanagedItems made cup)]
    exact ⟨fun _ heq => absurd heq hk, fun _ => hmade⟩

theorem reconcileSuccess_eq {original : ExternalSubscriptionFeed}
    {result : NativeConfigFilterResult} {token : Option String} {allowDisabled : Bool}
    {now clock : Instant} {f : ExternalSubscriptionFeed} {row : SubscriptionCup}
    (hf : db.feeds.get? original.pk = some f) (hrow : db.cups.get? f.cup = some row) :
    ((reconcileSuccess original result token allowDisabled now clock db).map (·.2)).getD db =
      if acceptsRefresh original token allowDisabled now clock f row = true then
        (db.writeConfigs f result.selectedConfigs).modifyFeed f.pk (·.succeeded result now)
          (ExternalSubscriptionFeed.succeeded_pk result now)
      else db := by
  unfold reconcileSuccess acceptsRefresh
  rw [hf]
  simp only [Option.bind_eq_bind, Option.bind_some, hrow]
  cases token.any fun t => !f.isHeldBy t now <;> cases f.sourceChanged original <;>
    cases row.isAccessible clock <;> cases f.isDisabled <;> cases allowDisabled <;> rfl

/-- A refresh keeps distinct positions exactly where it numbers freely. -/
theorem refresh_nodup_iff {original : ExternalSubscriptionFeed}
    {result : NativeConfigFilterResult} {token : Option String} {allowDisabled : Bool}
    {now clock : Instant} (h : (db.positions k).Nodup) :
    ((((reconcileSuccess original result token allowDisabled now clock db).map (·.2)).getD
      db).positions k).Nodup ↔
      CupWrite.NumbersFreely k (.refresh original result token allowDisabled now clock) db := by
  rw [CupWrite.NumbersFreely]
  cases hf : db.feeds.get? original.pk with
  | none => simpa [reconcileSuccess, hf] using h
  | some f =>
      cases hrow : db.cups.get? f.cup with
      | none => simpa [reconcileSuccess, hf, hrow] using h
      | some row =>
          rw [reconcileSuccess_eq hf hrow]
          have hwritten : ((db.writeConfigs f result.selectedConfigs).modifyFeed f.pk
              (·.succeeded result now)
              (ExternalSubscriptionFeed.succeeded_pk result now)).positions k =
                (db.refillOf f result.selectedConfigs).1.positions k :=
            positions_of_map rfl (dropItem_fields _)
          have hcase : (∀ f' ∈ some f, ∀ row' ∈ db.cups.get? f'.cup, f'.cup = k →
              acceptsRefresh original token allowDisabled now clock f' row' = true →
                db.AreFree k (takenKeys result.rawLinks (db.reusableItems f'))
                  (db.basePosition f') result.selectedCount) ↔
              (f.cup = k → acceptsRefresh original token allowDisabled now clock f row = true →
                db.AreFree k (takenKeys result.rawLinks (db.reusableItems f)) (db.basePosition f)
                  result.selectedCount) := by
            simp [hrow]
          rw [hcase]
          split
          · rename_i haccepted
            rw [hwritten, CupDb.refillOf]
            by_cases hk : f.cup = k
            · subst hk
              have hperm := @positions_refill db f.cup (db.basePosition f)
                (result.selectedConfigs.map f.content) _ (standing_reusableItems db f)
              rw [map_rawLink_content, List.length_map] at hperm
              rw [nodup_numbered_iff h hperm]
              exact ⟨fun hfree _ _ => hfree, fun hfree => hfree rfl haccepted⟩
            · rw [positions_refill_of_ne (Ne.symm hk) (standing_reusableItems db f)]
              exact ⟨fun _ heq => absurd heq hk, fun _ => h⟩
          · rename_i hrefused
            exact ⟨fun _ _ haccepted => absurd haccepted hrefused, fun _ => h⟩

theorem positions_createItems (links : List ℕ) :
    (createItems cup position links db).positions k =
      db.positions k ++ if cup = k then List.range' position links.length else [] := by
  induction links generalizing position db with
  | nil => simp [createItems]
  | cons link links ih =>
      rw [createItems, ih, CupDb.positions, cupItems_insert (itemOf_pk db cup link position) rfl,
        List.map_append, ← CupDb.positions, List.append_assoc]
      by_cases hk : cup = k
      · rw [if_pos (show (itemOf db cup link position).cup = k from hk), if_pos hk, if_pos hk,
          List.length_cons, List.range'_succ]
        rfl
      · rw [if_neg (show ¬ (itemOf db cup link position).cup = k from hk), if_neg hk, if_neg hk]
        rfl

/-- Created items keep the positions distinct exactly where their numbers are free. -/
theorem createItems_nodup_iff {links : List ℕ} (h : (db.positions k).Nodup) :
    ((createItems cup position links db).positions k).Nodup ↔
      (cup = k → db.AreFree k [] position links.length) := by
  by_cases hk : cup = k
  · have hperm : ((createItems cup position links db).positions k).Perm
        ((db.leftItems k []).map (·.position) ++ List.range' position links.length) := by
      rw [positions_createItems, if_pos hk, leftItems_nil, ← CupDb.positions]
    rw [nodup_numbered_iff h hperm]
    exact ⟨fun hfree _ => hfree, fun hfree => hfree hk⟩
  · rw [positions_createItems, if_neg hk, List.append_nil]
    exact ⟨fun _ heq => absurd heq hk, fun _ => h⟩

theorem deliver_nodup_iff {links : List ℕ} (h : (db.positions k).Nodup) :
    ((deliverItems cup links db).positions k).Nodup ↔ (cup = k → db.AreFree k [] 1 links.length) := by
  rw [deliverItems]
  set hidden : CupDb := { db with items := db.items.map (hideItem cup) (hideItem_pk cup) }
  have hsame : hidden.positions k = db.positions k := positions_of_map rfl (hideItem_fields cup)
  have hfree : hidden.AreFree k [] 1 links.length ↔ db.AreFree k [] 1 links.length := by
    rw [CupDb.AreFree, CupDb.AreFree, leftItems_nil, leftItems_nil,
      ← List.forall_mem_map (f := fun x : CupItem => x.position)
        (P := fun p => p < 1 ∨ 1 + links.length ≤ p),
      ← List.forall_mem_map (f := fun x : CupItem => x.position)
        (P := fun p => p < 1 ∨ 1 + links.length ≤ p)]
    rw [CupDb.positions, CupDb.positions] at hsame
    rw [hsame]
  rw [createItems_nodup_iff (by rwa [hsame]), hfree]

theorem lt_nextPosition (hx : x ∈ db.cupItems cup) : x.position < db.nextPosition cup := by
  have hle (ps : List ℕ) (p : ℕ) (hp : p ∈ ps) : p ≤ ps.foldr max 0 := by
    induction ps with
    | nil => cases hp
    | cons q ps ih =>
        rcases List.mem_cons.mp hp with rfl | hp
        · exact Nat.le_max_left _ _
        · exact (ih hp).trans (Nat.le_max_right _ _)
  exact Nat.lt_succ_of_le (hle _ _ (List.mem_map_of_mem hx))

theorem append_nodup {links : List ℕ} (h : (db.positions k).Nodup) :
    ((appendItems cup links db).positions k).Nodup := by
  rw [appendItems, createItems_nodup_iff h]
  intro hk x hx
  rw [leftItems_nil, ← hk] at hx
  exact .inl (lt_nextPosition hx)

theorem remove_nodup {item : ℕ} (h : (db.positions k).Nodup) :
    ((removeCupItem cup item db).positions k).Nodup := by
  rw [removeCupItem]
  split
  · have hrows : (db.items.erase item).rows.Sublist db.items.rows := List.filter_sublist
    exact h.sublist ((hrows.filter _).map _)
  · exact h

theorem swapIndex_ne {up : Bool} {index length other : ℕ}
    (h : swapIndex up index length = some other) : index ≠ other := by
  unfold swapIndex at h
  split at h <;> split at h <;> first | cases h | simp at h
  all_goals omega

/-- A move exchanges the positions of two items of the cup, if it changes anything. -/
theorem moveCupItem_cases {item : ℕ} {up : Bool} (h : moveCupItem cup item up db = some db') :
    db' = db ∨ ∃ x ∈ db.cupItems cup, ∃ y ∈ db.cupItems cup, x.pk ≠ y.pk ∧
      db' = (db.savePosition x.pk y.position).savePosition y.pk x.position := by
  rw [moveCupItem] at h
  obtain ⟨index, -, rfl⟩ := Option.map_eq_some_iff.mp h
  cases hcurrent : (listed (db.cupItems cup))[index]? with
  | none => exact .inl rfl
  | some x =>
      cases hswap : swapIndex up index (listed (db.cupItems cup)).length with
      | none => exact .inl rfl
      | some other =>
          rw [Option.bind_some, Option.bind_some]
          cases hother : (listed (db.cupItems cup))[other]? with
          | none => exact .inl rfl
          | some y =>
              refine .inr ⟨x, mem_listed.mp (List.mem_of_getElem? hcurrent), y,
                mem_listed.mp (List.mem_of_getElem? hother), fun heq => ?_, rfl⟩
              have hindex : index < ((listed (db.cupItems cup)).map (·.pk)).length := by
                rw [List.length_map]
                exact (List.getElem?_eq_some_iff.mp hcurrent).1
              refine swapIndex_ne hswap ((List.getElem?_inj hindex
                (nodup_listed_pk (nodup_cupItems db cup))).mp ?_)
              rw [List.getElem?_map, List.getElem?_map, hcurrent, hother, Option.map_some,
                Option.map_some, heq]

/-- Where positions are distinct, they are permuted by a move. -/
theorem position_exchange (h : (db.positions cup).Nodup) (hx : x ∈ db.cupItems cup)
    (hy : y ∈ db.cupItems cup) {z : CupItem} (hz : z ∈ db.cupItems cup) :
    (exchange x y z).position = Equiv.swap x.position y.position z.position := by
  have hkeys := nodup_cupItems db cup
  rw [exchange]
  by_cases hzx : z.pk = x.pk
  · obtain rfl := List.inj_on_of_nodup_map hkeys hz hx hzx
    rw [if_pos rfl, Equiv.swap_apply_left]
    rfl
  · by_cases hzy : z.pk = y.pk
    · obtain rfl := List.inj_on_of_nodup_map hkeys hz hy hzy
      rw [if_neg hzx, if_pos rfl, Equiv.swap_apply_right]
      rfl
    · have hpx : z.position ≠ x.position := fun heq =>
        hzx (congrArg _ (List.inj_on_of_nodup_map h hz hx heq))
      have hpy : z.position ≠ y.position := fun heq =>
        hzy (congrArg _ (List.inj_on_of_nodup_map h hz hy heq))
      rw [if_neg hzx, if_neg hzy, Equiv.swap_apply_of_ne_of_ne hpx hpy]

theorem move_nodup {item : ℕ} {up : Bool} (h : (db.positions k).Nodup) :
    (((moveCupItem cup item up db).getD db).positions k).Nodup := by
  cases hmove : moveCupItem cup item up db with
  | none => exact h
  | some moved =>
      rw [Option.getD_some]
      rcases moveCupItem_cases hmove with rfl | ⟨x, hx, y, hy, hne, hmoved⟩
      · exact h
      · have hrows : moved.items.rows = db.items.rows.map (exchange x y) := by
          rw [hmoved]
          exact rows_exchange hne
        rw [CupDb.positions, cupItems_exchange hrows, List.map_map]
        by_cases hk : k = cup
        · subst hk
          have hswap : (db.cupItems k).map ((·.position) ∘ exchange x y) =
              (db.positions k).map (Equiv.swap x.position y.position) := by
            rw [CupDb.positions, List.map_map]
            exact List.map_congr_left fun z hz => position_exchange h hx hy hz
          rw [hswap]
          exact h.map (Equiv.injective _)
        · have hother (z w : CupItem) (hz : z ∈ db.cupItems k) (hw : w ∈ db.cupItems cup) :
              z.pk ≠ w.pk := by
            intro heq
            rw [CupDb.cupItems, List.mem_filter, decide_eq_true_eq] at hz hw
            obtain rfl := List.inj_on_of_nodup_map db.items.keys_nodup hz.1 hw.1 heq
            exact hk (hz.2.symm.trans hw.2)
          have hsame : (db.cupItems k).map ((·.position) ∘ exchange x y) = db.positions k := by
            refine List.map_congr_left fun z hz => ?_
            rw [Function.comp_apply, exchange_of_ne (hother z x hz hx) (hother z y hz hy)]
          rwa [hsame]

/-! ## Runs -/

/-- A writer keeps the positions of a cup distinct exactly where it numbers freely. -/
theorem run_nodup_iff (w : CupWrite) (h : (db.positions cup).Nodup) :
    ((w.run db).positions cup).Nodup ↔ w.NumbersFreely cup db := by
  cases w with
  | rebuild env order vpnClient entries forceActive token clock => exact rebuild_nodup_iff h
  | refresh original result token allowDisabled now clock => exact refresh_nodup_iff h
  | deliver target links => exact deliver_nodup_iff h
  | append target links => exact ⟨fun _ => trivial, fun _ => append_nodup h⟩
  | remove target item => exact ⟨fun _ => trivial, fun _ => remove_nodup h⟩
  | move target item up => exact ⟨fun _ => trivial, fun _ => move_nodup h⟩

/-- From a cup without items on, every item can be moved after all of the writes exactly where each
of them gives the items of the cup numbers that no other has. -/
theorem movesWork_run_iff (db : CupDb) (cup : ℕ) (hnew : db.cupItems cup = [])
    (ws : List CupWrite) :
    (∀ before after, ws = before ++ after → MovesWork (runWrites before db) cup) ↔
      Guarded (fun db w => w.run db) (fun db w => w.NumbersFreely cup db) db ws := by
  have hstart : (db.positions cup).Nodup := by
    rw [CupDb.positions, hnew]
    exact List.nodup_nil
  have hruns := @invariant_iff_guarded CupDb CupWrite (fun db w => w.run db)
    (fun db w => w.NumbersFreely cup db) (fun db => (db.positions cup).Nodup)
    (fun _ w h => run_nodup_iff w h) db ws hstart
  rw [← hruns]
  refine forall_congr' fun before => forall_congr' fun after => imp_congr_right fun _ => ?_
  exact movesWork_iff

theorem nodup_oneCup : [1].Nodup := List.nodup_singleton 1

/-- The cup of an order, without items. -/
def emptyCups : CupDb where
  cups := ⟨[{ pk := 1, order := some 7, token := "token" }], nodup_oneCup⟩

/-- A cup of a delivery, to which two links are added. -/
theorem delivered_and_added_moves :
    MovesWork (runWrites [.deliver 1 [1, 2], .append 1 [3, 4], .move 1 2 false] emptyCups) 1 := by
  refine (movesWork_run_iff emptyCups 1 rfl
    [.deliver 1 [1, 2], .append 1 [3, 4], .move 1 2 false]).mpr
    ⟨fun _ => ?_, trivial, trivial, trivial⟩ _ [] (List.append_nil _).symm
  decide

/-- What the rebuilds of this cup call. -/
def rebuildEnv : SyncEnv where
  urlsplit _ := none
  resolvedFilterPolicy _ := { protocols := [], security := [], transport := [] }

/-- A rebuild of the cup of an order with one link. -/
def rebuildWith (link : String) : CupWrite :=
  .rebuild rebuildEnv (some 7) none [{ rawLink := link }] true "token" 0

/-- Two rebuilds with different links number both items from one: none of them can be moved. -/
theorem rebuilt_items_stuck : ¬ ∀ (db : CupDb) (cup : ℕ) (ws : List CupWrite),
    db.cupItems cup = [] → MovesWork (runWrites ws db) cup := by
  intro h
  have hnodup := movesWork_iff.mp
    (h emptyCups 1 [rebuildWith "vless://old", rebuildWith "vless://new"] rfl)
  revert hnodup
  decide +kernel

end Qasedak.Subscriptions
