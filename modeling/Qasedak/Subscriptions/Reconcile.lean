import Qasedak.Subscriptions.Feeds

/-! A reconcile makes the items of a feed mirror its source. The rows of the other items stay as
they are, and where a longer list runs into them the items of two sources end up mixed. -/

namespace Qasedak.Subscriptions

open Foundation Store

variable {σ : Type*} {sourceOf : CupItem → σ} {db db' : CupDb} {f : ExternalSubscriptionFeed}
  {configs : List ParsedNativeConfig} {x y : CupItem}

/-! ## The statement -/

/-- One of two lists of items stands before the other. -/
def Apart (xs ys : List CupItem) : Prop :=
  (∀ x ∈ xs, ∀ y ∈ ys, x.Before y) ∨ ∀ x ∈ xs, ∀ y ∈ ys, y.Before x

instance (xs ys : List CupItem) : Decidable (Apart xs ys) := inferInstanceAs (Decidable (_ ∨ _))

namespace CupDb

/-- The items of the feed that are shown. -/
def block (db : CupDb) (f : ExternalSubscriptionFeed) : List CupItem :=
  db.liveItemsOf f.cup (some f.pk)

/-- The items of another source that are shown in the feed's cup. -/
def others [DecidableEq σ] (db : CupDb) (f : ExternalSubscriptionFeed) (sourceOf : CupItem → σ)
    (source : σ) : List CupItem :=
  (db.liveItems f.cup).filter fun x => db.feedOf x ≠ some f.pk && sourceOf x = source

/-- The items of the feed that the links of a list take over. -/
def keptItems (db : CupDb) (f : ExternalSubscriptionFeed) (links : List String) : List CupItem :=
  (matchItems links (db.reusableItems f)).filterMap id

end CupDb

section Statement

variable [DecidableEq σ]

/-- The feed's items show the links of a list, the other items are as they were, and no source
that was apart from the feed's items is mixed with them. -/
structure Mirrors (sourceOf : CupItem → σ) (f : ExternalSubscriptionFeed) (links : List String)
    (db db' : CupDb) : Prop where
  shown : (db'.block f).map db'.rawLink = links
  kept : ∀ x ∈ db.items.rows, db.feedOf x ≠ some f.pk →
    db'.items.get? x.pk = some x ∧ db'.links.get? x.configLink = db.links.get? x.configLink
  apart : ∀ source, Apart (db.block f) (db.others f sourceOf source) →
    Apart (db'.block f) (db'.others f sourceOf source)

/-- The item stands before the first of the positions that the links of a list get. -/
def CupDb.IsBeforeBlock (db : CupDb) (f : ExternalSubscriptionFeed) (links : List String)
    (y : CupItem) : Prop :=
  ∀ first ∈ (matchItems links (db.reusableItems f)).head?,
    y.position < db.basePosition f ∨
      y.position = db.basePosition f ∧ y.pk ≤ (first.map (·.pk)).getD db.items.nextKey

/-- The item stands behind the last of them. -/
def CupDb.IsBehindBlock (db : CupDb) (f : ExternalSubscriptionFeed) (links : List String)
    (y : CupItem) : Prop :=
  ∀ last ∈ (matchItems links (db.reusableItems f)).getLast?,
    db.basePosition f + links.length ≤ y.position ∨
      db.basePosition f + links.length = y.position + 1 ∧
        (last.map (·.pk)).getD db.items.nextKey ≤ y.pk

structure Mirrorable (sourceOf : CupItem → σ) (f : ExternalSubscriptionFeed)
    (links : List String) (db : CupDb) : Prop where
  stripped : ∀ link ∈ links, strip link = link
  /-- An item that is dropped shows no link that one of the others keeps. -/
  unshared : ∀ y ∈ db.itemsOf f, y ∉ db.keptItems f links →
    ∀ x ∈ db.keptItems f links, y.configLink ≠ x.configLink
  room : ∀ source, Apart (db.block f) (db.others f sourceOf source) →
    (∀ y ∈ db.others f sourceOf source, db.IsBeforeBlock f links y) ∨
      ∀ y ∈ db.others f sourceOf source, db.IsBehindBlock f links y

end Statement

/-! ## The items that can be taken over -/

theorem mem_itemsOf : x ∈ db.itemsOf f ↔
    x ∈ db.items.rows ∧ x.cup = f.cup ∧ db.feedOf x = some f.pk := by
  unfold CupDb.itemsOf
  rw [mem_listed]
  simp

theorem get?_of_mem_rows (hx : x ∈ db.items.rows) : db.items.get? x.pk = some x :=
  Table.get?_eq_some_iff.mpr ⟨hx, rfl⟩

theorem reusables_reusableItems : Reusables db f.cup (db.reusableItems f) := by
  unfold CupDb.reusableItems
  refine ⟨?_, ?_, ?_⟩
  · intro x hx
    obtain ⟨y, hy, rfl⟩ := List.mem_map.mp hx
    obtain ⟨hrow, hcup, hfeed⟩ := mem_itemsOf.mp hy
    obtain ⟨l, hl, -⟩ := exists_link_of_feedOf hfeed
    exact ⟨get?_of_mem_rows hrow, hcup, by simp [hl]⟩
  · rw [List.map_map]
    exact nodup_listed_pk ((List.filter_sublist.map _).nodup db.items.keys_nodup)
  · intro x hx y hy hlink
    obtain ⟨a, -, rfl⟩ := List.mem_map.mp hx
    obtain ⟨b, -, rfl⟩ := List.mem_map.mp hy
    unfold CupDb.rawLink
    rw [hlink]

theorem mem_itemsOf_of_reusable {raw : String} (h : (x, raw) ∈ db.reusableItems f) :
    x ∈ db.itemsOf f := by
  obtain ⟨y, hy, heq⟩ := List.mem_map.mp h
  cases heq
  exact hy

theorem mem_itemsOf_of_mem_keptItems {links : List String} (h : x ∈ db.keptItems f links) :
    x ∈ db.itemsOf f := by
  obtain ⟨o, ho, hid⟩ := List.mem_filterMap.mp h
  obtain rfl : o = some x := hid
  obtain ⟨raw, hraw⟩ := mem_of_matchItems ho
  exact mem_itemsOf_of_reusable hraw

/-! ## What is written -/

theorem refilled_refillOf (db : CupDb) (f : ExternalSubscriptionFeed)
    (configs : List ParsedNativeConfig) :
    Refilled f.cup (db.basePosition f) (configs.map f.content) (db.reusableItems f) db
      (db.refillOf f configs).1 (db.refillOf f configs).2 :=
  refilled _ _ _ _ _ reusables_reusableItems

theorem writeConfigs_rest : ∃ items links,
    db.writeConfigs f configs = { db with items := items, links := links } := by
  obtain ⟨items, links, hrest⟩ := (refilled_refillOf db f configs).rest
  unfold CupDb.writeConfigs CupDb.dropItems
  rw [hrest]
  exact ⟨_, _, rfl⟩

theorem map_rawLink_content : (configs.map f.content).map (·.rawLink) = configs.map (·.rawLink) := by
  rw [List.map_map]
  rfl

/-- An item that is placed is one of those that are kept, or new with its link. -/
theorem placed_cases (hx : x ∈ (db.refillOf f configs).2) :
    (∃ y ∈ db.keptItems f (configs.map (·.rawLink)), x.pk = y.pk ∧ x.configLink = y.configLink) ∨
      Takes db x none := by
  rcases (refilled_refillOf db f configs).placed_cases hx with ⟨y, hy, hpk, hlink⟩ | hnew
  · rw [map_rawLink_content] at hy
    exact .inl ⟨y, List.mem_filterMap.mpr ⟨_, hy, rfl⟩, hpk, hlink⟩
  · exact .inr hnew

/-- The items that are kept are those of the feed that are placed. -/
theorem mem_keptItems_iff (hy : y ∈ db.itemsOf f) :
    y ∈ db.keptItems f (configs.map (·.rawLink)) ↔ y.pk ∈ (db.refillOf f configs).2.map (·.pk) := by
  have hrow := (mem_itemsOf.mp hy).1
  constructor
  · intro h
    have horigin := (refilled_refillOf db f configs).origin
    rw [map_rawLink_content] at horigin
    obtain ⟨o, ho, hid⟩ := List.mem_filterMap.mp h
    obtain rfl : o = some y := hid
    obtain ⟨x, hx, htakes⟩ := exists_of_forall₂ horigin.flip ho
    exact List.mem_map.mpr ⟨x, hx, htakes.1⟩
  · intro h
    obtain ⟨x, hx, hpk⟩ := List.mem_map.mp h
    rcases placed_cases hx with ⟨k, hk, hkey, -⟩ | ⟨hnew, -⟩
    · have hkrow := (mem_itemsOf.mp (mem_itemsOf_of_mem_keptItems hk)).1
      have : k = y := List.inj_on_of_nodup_map db.items.keys_nodup hkrow hrow (hkey ▸ hpk)
      exact this ▸ hk
    · have := hnew y hrow
      omega

theorem mem_staleItems : y ∈ db.staleItems f configs ↔
    y ∈ db.itemsOf f ∧ y ∉ db.keptItems f (configs.map (·.rawLink)) := by
  unfold CupDb.staleItems
  rw [List.mem_filter]
  constructor
  · rintro ⟨hy, hpk⟩
    exact ⟨hy, fun h => of_decide_eq_true hpk ((mem_keptItems_iff hy).mp h)⟩
  · rintro ⟨hy, hkept⟩
    exact ⟨hy, decide_eq_true fun h => hkept ((mem_keptItems_iff hy).mpr h)⟩

theorem get?_items_dropItems {stale : List CupItem} (k : ℕ) :
    (db.dropItems f stale).items.get? k = (db.items.get? k).map (CupDb.dropItem stale) :=
  Table.get?_map _ _ (CupDb.dropItem_pk stale) k

theorem get?_links_dropItems {stale : List CupItem} (k : ℕ) :
    (db.dropItems f stale).links.get? k = (db.links.get? k).map (CupDb.dropLink f stale) :=
  Table.get?_map _ _ (CupDb.dropLink_pk f stale) k

theorem dropLink_fields (stale : List CupItem) (l : ConfigLink) :
    (CupDb.dropLink f stale l).externalFeed = l.externalFeed ∧
      (CupDb.dropLink f stale l).rawLink = l.rawLink := by
  unfold CupDb.dropLink
  split <;> exact ⟨rfl, rfl⟩

/-- Dropping items changes no link's feed and no link's text. -/
theorem feedOf_dropItems (stale : List CupItem) (x : CupItem) :
    (db.dropItems f stale).feedOf x = db.feedOf x ∧
      (db.dropItems f stale).rawLink x = db.rawLink x := by
  unfold CupDb.feedOf CupDb.rawLink
  rw [get?_links_dropItems]
  cases db.links.get? x.configLink with
  | none => exact ⟨rfl, rfl⟩
  | some l => simp [dropLink_fields]

theorem dropItem_of_not_mem {stale : List CupItem} (h : x.pk ∉ stale.map (·.pk)) :
    CupDb.dropItem stale x = x :=
  if_neg h

theorem get?_of_placed (hx : x ∈ (db.refillOf f configs).2) :
    (db.writeConfigs f configs).items.get? x.pk = some x := by
  unfold CupDb.writeConfigs
  rw [get?_items_dropItems, (refilled_refillOf db f configs).items x hx, Option.map_some,
    dropItem_of_not_mem]
  intro hstale
  obtain ⟨y, hy, hpk⟩ := List.mem_map.mp hstale
  have hnot := of_decide_eq_true (List.mem_filter.mp hy).2
  exact hnot (hpk ▸ List.mem_map_of_mem hx)

/-- A row that is not placed is one of another source, as it was, or one that is dropped. -/
theorem not_placed_cases (hx : x.pk ∉ (db.refillOf f configs).2.map (·.pk))
    (h : x ∈ (db.writeConfigs f configs).items.rows) :
    x ∈ db.items.rows ∧ x ∉ db.itemsOf f ∨
      x.isActive = false ∧ ∃ y ∈ db.itemsOf f, x.configLink = y.configLink := by
  have hget := get?_of_mem_rows h
  unfold CupDb.writeConfigs at hget
  rw [get?_items_dropItems, (refilled_refillOf db f configs).others _ hx,
    Option.map_eq_some_iff] at hget
  obtain ⟨y, hy, rfl⟩ := hget
  have hrow := (Table.mem_of_get? hy).1
  rw [CupDb.dropItem_pk] at hx
  by_cases hstale : y.pk ∈ (db.staleItems f configs).map (·.pk)
  · obtain ⟨z, hz, hpk⟩ := List.mem_map.mp hstale
    have hitem := (mem_staleItems.mp hz).1
    have : z = y := List.inj_on_of_nodup_map db.items.keys_nodup (mem_itemsOf.mp hitem).1 hrow hpk
    subst this
    refine .inr ⟨?_, z, hitem, ?_⟩ <;> simp [CupDb.dropItem, hstale]
  · rw [dropItem_of_not_mem hstale]
    refine .inl ⟨hrow, fun hitem => hstale ?_⟩
    have hleft : y ∈ db.staleItems f configs := by
      refine mem_staleItems.mpr ⟨hitem, fun hkept => hx ?_⟩
      exact (mem_keptItems_iff hitem).mp hkept
    exact List.mem_map_of_mem hleft

/-- The links that the feed's items show are the feed's. -/
theorem feedOf_placed (hx : x ∈ (db.refillOf f configs).2) :
    (db.writeConfigs f configs).feedOf x = some f.pk := by
  unfold CupDb.writeConfigs
  rw [(feedOf_dropItems _ _).1]
  obtain ⟨content, -, hshows⟩ := exists_of_forall₂ (refilled_refillOf db f configs).shown hx
  obtain ⟨l, hl, -⟩ := hshows.link
  have hfeed : l.externalFeed = some f.pk := by
    refine refill_feed reusables_reusableItems ?_ x hx l hl
    intro content hcontent
    obtain ⟨parsed, -, rfl⟩ := List.mem_map.mp hcontent
    rfl
  unfold CupDb.feedOf
  rw [hl]
  exact hfeed

/-- An item of another source shows a link that no item of the feed gets. -/
theorem get?_link_of_other (hlinked : db.Linked) (hx : x ∈ db.items.rows)
    (hfeed : db.feedOf x ≠ some f.pk) :
    (db.writeConfigs f configs).links.get? x.configLink = db.links.get? x.configLink := by
  obtain ⟨l, hl⟩ := Option.isSome_iff_exists.mp (hlinked x hx)
  have hforeign : l.externalFeed ≠ some f.pk := by simpa [CupDb.feedOf, hl] using hfeed
  have hother : x.configLink ∉ (db.refillOf f configs).2.map (·.configLink) := by
    intro hmem
    obtain ⟨y, raw, hy, hlink⟩ := (refilled_refillOf db f configs).link_of_reusable (hlinked x hx)
      hmem
    have hyfeed := (mem_itemsOf.mp (mem_itemsOf_of_reusable hy)).2.2
    refine hfeed ?_
    unfold CupDb.feedOf at hyfeed ⊢
    rw [← hlink, hyfeed]
  unfold CupDb.writeConfigs
  rw [get?_links_dropItems, (refilled_refillOf db f configs).links _ hother, hl, Option.map_some,
    CupDb.dropLink, if_neg fun h => hforeign h.2]

theorem get?_of_other (hx : x ∈ db.items.rows) (hfeed : db.feedOf x ≠ some f.pk) :
    (db.writeConfigs f configs).items.get? x.pk = some x := by
  have hplaced : x.pk ∉ (db.refillOf f configs).2.map (·.pk) := by
    intro hmem
    obtain ⟨raw, hraw⟩ := (refilled_refillOf db f configs).mem_reusable reusables_reusableItems hx
      hmem
    exact hfeed (mem_itemsOf.mp (mem_itemsOf_of_reusable hraw)).2.2
  unfold CupDb.writeConfigs
  rw [get?_items_dropItems, (refilled_refillOf db f configs).others _ hplaced, get?_of_mem_rows hx,
    Option.map_some, dropItem_of_not_mem]
  intro hstale
  obtain ⟨y, hy, hpk⟩ := List.mem_map.mp hstale
  obtain ⟨hrow, -, hyfeed⟩ := mem_itemsOf.mp (mem_staleItems.mp hy).1
  have : y = x := List.inj_on_of_nodup_map db.items.keys_nodup hrow hx hpk
  exact hfeed (this ▸ hyfeed)

/-- No item that is dropped shows the link of the item. -/
def IsUnshared (db : CupDb) (f : ExternalSubscriptionFeed) (configs : List ParsedNativeConfig)
    (x : CupItem) : Prop :=
  ∀ y ∈ db.staleItems f configs, y.configLink ≠ x.configLink

instance (db : CupDb) (f : ExternalSubscriptionFeed) (configs : List ParsedNativeConfig) :
    DecidablePred (IsUnshared db f configs) :=
  fun _ => inferInstanceAs (Decidable (∀ _ ∈ _, _))

/-- The link of an item that is placed is active unless the item of a dropped one. -/
theorem isLive_placed_iff (hx : x ∈ (db.refillOf f configs).2) :
    (db.writeConfigs f configs).isLive x = true ↔ IsUnshared db f configs x := by
  have hactive := ((refilled_refillOf db f configs).rows x hx).2
  obtain ⟨content, -, hshows⟩ := exists_of_forall₂ (refilled_refillOf db f configs).shown hx
  obtain ⟨l, hl, -, hlactive⟩ := hshows.link
  have hlkey := (Table.mem_of_get? hl).2
  have hfeed := feedOf_placed hx
  unfold CupDb.isLive IsUnshared
  unfold CupDb.writeConfigs at hfeed ⊢
  rw [(feedOf_dropItems _ _).1] at hfeed
  unfold CupDb.feedOf at hfeed
  rw [hl] at hfeed
  have hlfeed : l.externalFeed = some f.pk := hfeed
  rw [get?_links_dropItems, hl, Option.map_some, hactive]
  unfold CupDb.dropLink
  by_cases hstale : l.pk ∈ (db.staleItems f configs).map (·.configLink)
  · obtain ⟨y, hy, hlink⟩ := List.mem_map.mp hstale
    have hshared : ¬ ∀ y ∈ db.staleItems f configs, y.configLink ≠ x.configLink :=
      fun h => h y hy (hlink.trans hlkey)
    simp [hstale, hlfeed, hshared]
  · have hunshared : ∀ y ∈ db.staleItems f configs, y.configLink ≠ x.configLink := by
      intro y hy hlink
      exact hstale (List.mem_map.mpr ⟨y, hy, hlink.trans hlkey.symm⟩)
    simpa [hstale, hlactive] using hunshared

/-- The items that the feed shows afterwards. -/
theorem block_writeConfigs (hlinked : db.Linked) :
    (db.writeConfigs f configs).block f =
      (db.refillOf f configs).2.filter fun x => IsUnshared db f configs x := by
  have hplaced := refilled_refillOf db f configs
  refine CupDb.filter_liveItems_eq _ (fun x => ?_) ?_ ?_
  · rw [List.mem_filter, decide_eq_true_iff, decide_eq_true_iff]
    constructor
    · rintro ⟨hx, hunshared⟩
      exact ⟨(Table.mem_of_get? (get?_of_placed hx)).1, (hplaced.rows x hx).1,
        (isLive_placed_iff hx).mpr hunshared, feedOf_placed hx⟩
    · rintro ⟨hrow, hcup, hlive, hfeed⟩
      by_cases hpk : x.pk ∈ (db.refillOf f configs).2.map (·.pk)
      · obtain ⟨z, hz, hkey⟩ := List.mem_map.mp hpk
        have hsame : z = x :=
          List.inj_on_of_nodup_map (db.writeConfigs f configs).items.keys_nodup
            (Table.mem_of_get? (get?_of_placed hz)).1 hrow hkey
        subst hsame
        exact ⟨hz, (isLive_placed_iff hz).mp hlive⟩
      · rcases not_placed_cases hpk hrow with ⟨hold, hother⟩ | ⟨hinactive, -⟩
        · have hforeign : db.feedOf x ≠ some f.pk :=
            fun h => hother (mem_itemsOf.mpr ⟨hold, hcup, h⟩)
          have hlink := @get?_link_of_other _ _ configs _ hlinked hold hforeign
          unfold CupDb.feedOf at hfeed hforeign
          rw [hlink] at hfeed
          exact absurd hfeed hforeign
        · simp [CupDb.isLive, hinactive] at hlive
  · exact (hplaced.pairwise.imp .inl).filter _
  · exact (List.filter_sublist.map _).nodup hplaced.keys

section Others

variable [DecidableEq σ]

theorem mem_others {source : σ} : x ∈ db.others f sourceOf source ↔
    x ∈ db.items.rows ∧ x.cup = f.cup ∧ db.isLive x = true ∧
      db.feedOf x ≠ some f.pk ∧ sourceOf x = source := by
  unfold CupDb.others
  rw [List.mem_filter, CupDb.mem_liveItems]
  simp [and_assoc]

/-- The other sources show what they showed. -/
theorem others_writeConfigs (hlinked : db.Linked) (source : σ) :
    (db.writeConfigs f configs).others f sourceOf source = db.others f sourceOf source := by
  have hsame : ∀ x ∈ db.items.rows, db.feedOf x ≠ some f.pk →
      (db.writeConfigs f configs).isLive x = db.isLive x ∧
        (db.writeConfigs f configs).feedOf x = db.feedOf x := by
    intro x hx hfeed
    unfold CupDb.isLive CupDb.feedOf
    rw [get?_link_of_other hlinked hx hfeed]
    exact ⟨rfl, rfl⟩
  refine CupDb.filter_liveItems_eq _ (fun x => ?_) ?_ ?_
  · rw [mem_others, Bool.and_eq_true, decide_eq_true_iff, decide_eq_true_iff]
    constructor
    · rintro ⟨hrow, hcup, hlive, hfeed, hsource⟩
      obtain ⟨hlive', hfeed'⟩ := hsame x hrow hfeed
      exact ⟨(Table.mem_of_get? (get?_of_other hrow hfeed)).1, hcup, hlive' ▸ hlive,
        hfeed' ▸ hfeed, hsource⟩
    · rintro ⟨hrow, hcup, hlive, hfeed, hsource⟩
      have hplaced : x.pk ∉ (db.refillOf f configs).2.map (·.pk) := by
        intro hpk
        obtain ⟨z, hz, hkey⟩ := List.mem_map.mp hpk
        have hzx : z = x :=
          List.inj_on_of_nodup_map (db.writeConfigs f configs).items.keys_nodup
            (Table.mem_of_get? (get?_of_placed hz)).1 hrow hkey
        exact hfeed (hzx ▸ feedOf_placed hz)
      rcases not_placed_cases hplaced hrow with ⟨hold, hother⟩ | ⟨hinactive, -⟩
      · have hforeign : db.feedOf x ≠ some f.pk :=
          fun h => hother (mem_itemsOf.mpr ⟨hold, hcup, h⟩)
        obtain ⟨hlive', -⟩ := hsame x hold hforeign
        exact ⟨hold, hcup, hlive' ▸ hlive, hforeign, hsource⟩
      · simp [CupDb.isLive, hinactive] at hlive
  · exact (pairwise_listed _).filter _
  · exact (List.filter_sublist.map _).nodup (db.nodup_liveItems_pk f.cup)

end Others

/-! ## When the items mirror the source -/

theorem rawLinks_placed :
    (db.refillOf f configs).2.map (db.writeConfigs f configs).rawLink =
      configs.map fun parsed => strip parsed.rawLink := by
  have hshown := (refilled_refillOf db f configs).shown
  have hraw : ∀ x (content : LinkContent),
      Shows db (db.refillOf f configs).1 (db.reusableItems f) x content →
        (db.writeConfigs f configs).rawLink x = strip content.rawLink := by
    intro x content hshows
    obtain ⟨l, hl, hlraw, -⟩ := hshows.link
    unfold CupDb.writeConfigs
    rw [(feedOf_dropItems _ _).2]
    unfold CupDb.rawLink
    rw [hl]
    exact hlraw
  have heq := List.forall₂_eq_eq_eq ▸
    List.forall₂_map_left_iff.mpr (List.forall₂_map_right_iff.mpr (hshown.imp hraw))
  rw [heq, List.map_map]
  rfl

theorem length_placed : (db.refillOf f configs).2.length = configs.length :=
  (refilled_refillOf db f configs).length_eq.trans (List.length_map _)

/-- All the items are shown when none shares its link with one that is dropped. -/
theorem unshared_iff : (∀ x ∈ (db.refillOf f configs).2, IsUnshared db f configs x) ↔
    ∀ y ∈ db.itemsOf f, y ∉ db.keptItems f (configs.map (·.rawLink)) →
      ∀ x ∈ db.keptItems f (configs.map (·.rawLink)), y.configLink ≠ x.configLink := by
  constructor
  · intro h y hy hleft x hx hlink
    have hitem := mem_itemsOf_of_mem_keptItems hx
    obtain ⟨z, hz, hkey⟩ := List.mem_map.mp ((mem_keptItems_iff hitem).mp hx)
    refine h z hz y (mem_staleItems.mpr ⟨hy, hleft⟩) (hlink.trans ?_)
    rcases placed_cases hz with ⟨k, hk, hkpk, hklink⟩ | ⟨hnew, -⟩
    · have hkrow := (mem_itemsOf.mp (mem_itemsOf_of_mem_keptItems hk)).1
      have : k = x := List.inj_on_of_nodup_map db.items.keys_nodup hkrow (mem_itemsOf.mp hitem).1
        (hkpk ▸ hkey)
      rw [hklink, this]
    · have := hnew x (mem_itemsOf.mp hitem).1
      omega
  · intro h x hx y hy hlink
    obtain ⟨hitem, hleft⟩ := mem_staleItems.mp hy
    rcases placed_cases hx with ⟨k, hk, -, hklink⟩ | ⟨-, hfresh⟩
    · exact h y hitem hleft k hk (hlink.trans hklink)
    · obtain ⟨l, hl, -⟩ := exists_link_of_feedOf (mem_itemsOf.mp hitem).2.2
      rw [← hlink, hl] at hfresh
      cases hfresh

theorem takes_pk {o : Option CupItem} (h : Takes db x o) (hy : y ∈ db.items.rows) :
    (y.pk ≤ x.pk ↔ y.pk ≤ (o.map (·.pk)).getD db.items.nextKey) ∧
      (x.pk ≤ y.pk ↔ (o.map (·.pk)).getD db.items.nextKey ≤ y.pk) := by
  cases o with
  | some k =>
      rw [h.1]
      exact ⟨Iff.rfl, Iff.rfl⟩
  | none =>
      have hnew := h.1 y hy
      have hnext : y.pk < db.items.nextKey := Table.lt_nextKey hy
      change (_ ↔ y.pk ≤ db.items.nextKey) ∧ (_ ↔ db.items.nextKey ≤ y.pk)
      omega

theorem before_placed_iff (hy : y ∈ db.items.rows) :
    (∀ x ∈ (db.refillOf f configs).2, y.Before x) ↔
      db.IsBeforeBlock f (configs.map (·.rawLink)) y := by
  have hplaced := refilled_refillOf db f configs
  have horigin := hplaced.origin
  have hpositions := hplaced.positions
  have hsorted := hplaced.pairwise
  rw [map_rawLink_content] at horigin
  unfold CupDb.IsBeforeBlock
  cases hcase : (db.refillOf f configs).2 with
  | nil =>
      rw [hcase, List.forall₂_nil_left_iff] at horigin
      rw [horigin]
      simp
  | cons x rest =>
      rw [hcase] at horigin hpositions hsorted
      obtain ⟨o, os, htakes, -, hmatch⟩ := List.forall₂_cons_left_iff.mp horigin
      have hposition : x.position = db.basePosition f := by
        cases hn : (configs.map f.content).length with
        | zero => simp [hn] at hpositions
        | succ n =>
            rw [hn, List.map_cons, List.range'_succ] at hpositions
            exact (List.cons.inj hpositions).1
      have hkeys := (takes_pk htakes hy).1
      have hfirst : (∀ z ∈ x :: rest, y.Before z) ↔ y.Before x := by
        refine ⟨fun h => h x List.mem_cons_self, fun h z hz => ?_⟩
        rcases List.mem_cons.mp hz with rfl | hz
        · exact h
        · exact h.trans (.inl (List.rel_of_pairwise_cons hsorted hz))
      rw [hfirst, hmatch]
      simp only [List.head?_cons, Option.mem_some_iff, forall_eq']
      rw [← hkeys, ← hposition]
      exact Iff.rfl

theorem behind_placed_iff (hy : y ∈ db.items.rows) :
    (∀ x ∈ (db.refillOf f configs).2, x.Before y) ↔
      db.IsBehindBlock f (configs.map (·.rawLink)) y := by
  have hplaced := refilled_refillOf db f configs
  have horigin := List.forall₂_reverse_iff.mpr hplaced.origin
  have hpositions := congrArg List.reverse hplaced.positions
  have hsorted := List.pairwise_reverse.mpr hplaced.pairwise
  rw [map_rawLink_content] at horigin
  rw [← List.map_reverse] at hpositions
  unfold CupDb.IsBehindBlock
  rw [List.getLast?_eq_head?_reverse]
  have hmem : (∀ x ∈ (db.refillOf f configs).2, x.Before y) ↔
      ∀ x ∈ (db.refillOf f configs).2.reverse, x.Before y := by simp
  rw [hmem]
  cases hcase : (db.refillOf f configs).2.reverse with
  | nil =>
      rw [hcase, List.forall₂_nil_left_iff] at horigin
      rw [horigin]
      simp
  | cons x rest =>
      rw [hcase] at horigin hpositions hsorted
      obtain ⟨o, os, htakes, -, hmatch⟩ := List.forall₂_cons_left_iff.mp horigin
      have hposition : x.position + 1 = db.basePosition f + configs.length := by
        rw [List.length_map] at hpositions
        cases hn : configs.length with
        | zero => simp [hn] at hpositions
        | succ n =>
            rw [hn, List.range'_concat, List.reverse_append] at hpositions
            have hlast : x.position = db.basePosition f + 1 * n := (List.cons.inj hpositions).1
            omega
      have hkeys := (takes_pk htakes hy).2
      have hfirst : (∀ z ∈ x :: rest, z.Before y) ↔ x.Before y := by
        refine ⟨fun h => h x List.mem_cons_self, fun h z hz => ?_⟩
        rcases List.mem_cons.mp hz with rfl | hz
        · exact h
        · exact CupItem.Before.trans (.inl (List.rel_of_pairwise_cons hsorted hz)) h
      rw [hfirst, hmatch, List.length_map]
      simp only [List.head?_cons, Option.mem_some_iff, forall_eq']
      rw [← hkeys, ← hposition]
      unfold CupItem.Before
      omega

theorem apart_placed_iff {ys : List CupItem} (hys : ∀ y ∈ ys, y ∈ db.items.rows) :
    Apart (db.refillOf f configs).2 ys ↔
      (∀ y ∈ ys, db.IsBeforeBlock f (configs.map (·.rawLink)) y) ∨
        ∀ y ∈ ys, db.IsBehindBlock f (configs.map (·.rawLink)) y := by
  have hbefore : (∀ x ∈ (db.refillOf f configs).2, ∀ y ∈ ys, y.Before x) ↔
      ∀ y ∈ ys, db.IsBeforeBlock f (configs.map (·.rawLink)) y :=
    ⟨fun h y hy => (before_placed_iff (hys y hy)).mp fun x hx => h x hx y hy,
      fun h x hx y hy => (before_placed_iff (hys y hy)).mpr (h y hy) x hx⟩
  have hbehind : (∀ x ∈ (db.refillOf f configs).2, ∀ y ∈ ys, x.Before y) ↔
      ∀ y ∈ ys, db.IsBehindBlock f (configs.map (·.rawLink)) y :=
    ⟨fun h y hy => (behind_placed_iff (hys y hy)).mp fun x hx => h x hx y hy,
      fun h x hx y hy => (behind_placed_iff (hys y hy)).mpr (h y hy) x hx⟩
  unfold Apart
  rw [hbefore, hbehind, or_comm]

theorem mirrors_writeConfigs_iff [DecidableEq σ] (sourceOf : CupItem → σ) (hlinked : db.Linked) :
    Mirrors sourceOf f (configs.map (·.rawLink)) db (db.writeConfigs f configs) ↔
      Mirrorable sourceOf f (configs.map (·.rawLink)) db := by
  have hrows : ∀ source, ∀ y ∈ db.others f sourceOf source, y ∈ db.items.rows :=
    fun source y hy => (mem_others.mp hy).1
  have hblock : (∀ x ∈ (db.refillOf f configs).2, IsUnshared db f configs x) →
      (db.writeConfigs f configs).block f = (db.refillOf f configs).2 := by
    intro hunshared
    rw [block_writeConfigs hlinked, List.filter_eq_self]
    exact fun x hx => decide_eq_true (hunshared x hx)
  constructor
  · intro h
    have hunshared : ∀ x ∈ (db.refillOf f configs).2, IsUnshared db f configs x := by
      have hlength := congrArg List.length h.shown
      rw [block_writeConfigs hlinked, List.length_map, List.length_map, ← @length_placed db f _] at hlength
      intro x hx
      have := List.length_filter_eq_length_iff.mp hlength x hx
      exact of_decide_eq_true this
    have hshown := h.shown
    rw [hblock hunshared, rawLinks_placed] at hshown
    refine ⟨?_, unshared_iff.mp hunshared, ?_⟩
    · intro link hlink
      obtain ⟨parsed, hparsed, rfl⟩ := List.mem_map.mp hlink
      exact List.map_inj_left.mp hshown parsed hparsed
    · intro source hapart
      have := h.apart source hapart
      rwa [hblock hunshared, others_writeConfigs hlinked, apart_placed_iff (hrows source)] at this
  · intro h
    have hunshared := unshared_iff.mpr h.unshared
    refine ⟨?_, fun x hx hfeed => ⟨get?_of_other hx hfeed, get?_link_of_other hlinked hx hfeed⟩, ?_⟩
    · rw [hblock hunshared, rawLinks_placed, List.map_inj_left]
      exact fun parsed hparsed => h.stripped _ (List.mem_map_of_mem hparsed)
    · intro source hapart
      rw [hblock hunshared, others_writeConfigs hlinked, apart_placed_iff (hrows source)]
      exact h.room source hapart

/-- The feed's own row is not looked at. -/
theorem mirrors_modifyFeed_iff [DecidableEq σ] {links : List String} {pk : ℕ}
    {change : ExternalSubscriptionFeed → ExternalSubscriptionFeed}
    {hchange : ∀ f, (change f).pk = f.pk} :
    Mirrors sourceOf f links db (db'.modifyFeed pk change hchange) ↔
      Mirrors sourceOf f links db db' :=
  ⟨fun h => ⟨h.shown, h.kept, h.apart⟩, fun h => ⟨h.shown, h.kept, h.apart⟩⟩

/-- A claim that succeeds finds the feed without a running lease. -/
theorem claimFeed_ok {feed minIntervalSeconds : ℕ} {force : Bool} {token : String}
    {now clock : Instant} (h : claimFeed feed force minIntervalSeconds token now clock db =
      some (.ok db')) :
    ∃ f, db.feeds.get? feed = some f ∧ (f.refreshLeaseUntil.any fun expiry => now < expiry) = false ∧
      db' = db.modifyFeed feed (·.claimed token now)
        (ExternalSubscriptionFeed.claimed_pk token now) := by
  unfold claimFeed at h
  cases hf : db.feeds.get? feed with
  | none => simp [hf] at h
  | some f =>
      cases hcup : db.cups.get? f.cup with
      | none => simp [hf, hcup] at h
      | some cup =>
          simp only [hf, hcup, Option.bind_eq_bind, Option.bind_some] at h
          split at h
          · cases h
          · next havailable =>
              cases h
              simp only [Bool.or_eq_true, not_or, Bool.not_eq_true] at havailable
              exact ⟨f, rfl, havailable.1.2, rfl⟩

/-- A reconcile is refused and changes nothing, or the worker holds the feed and the selected links
are written. -/
theorem reconcileSuccess_cases {original : ExternalSubscriptionFeed}
    {result : NativeConfigFilterResult} {token : Option String} {allowDisabled : Bool}
    {now clock : Instant} {summary : ExternalSubscriptionRefreshSummary}
    (h : reconcileSuccess original result token allowDisabled now clock db = some (summary, db'))
    (hf : db.feeds.get? original.pk = some f) :
    summary.ok = false ∧ db' = db ∨
      summary.ok = true ∧ (∀ t ∈ token, f.isHeldBy t now = true) ∧
        db' = (db.writeConfigs f result.selectedConfigs).modifyFeed f.pk (·.succeeded result now)
          (ExternalSubscriptionFeed.succeeded_pk result now) := by
  unfold reconcileSuccess at h
  rw [hf] at h
  cases hcup : db.cups.get? f.cup with
  | none => simp [hcup] at h
  | some cup =>
      simp only [hcup, Option.bind_eq_bind, Option.bind_some] at h
      split at h
      · cases h
        exact .inl ⟨rfl, rfl⟩
      · next hheld =>
          split at h
          · cases h
            exact .inl ⟨rfl, rfl⟩
          · split at h
            · cases h
              exact .inl ⟨rfl, rfl⟩
            · cases h
              refine .inr ⟨rfl, fun t ht => ?_, rfl⟩
              obtain rfl : token = some t := ht
              simpa using hheld

/-- A failure is not recorded, or the worker holds the feed and only the feed's row is written. -/
theorem markFeedFailure_cases {original : ExternalSubscriptionFeed} {code : String}
    {result : Option NativeConfigFilterResult} {token : Option String} {now clock : Instant}
    {summary : ExternalSubscriptionRefreshSummary}
    (h : markFeedFailure original code result token now clock db = some (summary, db'))
    (hf : db.feeds.get? original.pk = some f) :
    summary.ok = false ∧ (db' = db ∨ (∀ t ∈ token, f.isHeldBy t now = true) ∧
      db' = db.modifyFeed f.pk (·.failed code result now)
        (ExternalSubscriptionFeed.failed_pk code result now)) := by
  unfold markFeedFailure at h
  rw [hf] at h
  cases hcup : db.cups.get? f.cup with
  | none => simp [hcup] at h
  | some cup =>
      simp only [hcup, Option.bind_eq_bind, Option.bind_some] at h
      split at h
      · cases h
        exact ⟨rfl, .inl rfl⟩
      · next hheld =>
          split at h
          · cases h
            exact ⟨rfl, .inl rfl⟩
          · cases h
            refine ⟨rfl, .inr ⟨fun t ht => ?_, rfl⟩⟩
            obtain rfl : token = some t := ht
            simpa using hheld

/-- After a reconcile that succeeds the feed's items mirror the source just when the links are
stripped, no item that is dropped shares its link, and the list does not run into a source that
stood apart. -/
theorem reconcile_mirrors_iff [DecidableEq σ] (sourceOf : CupItem → σ) (db db' : CupDb)
    (original f : ExternalSubscriptionFeed) (result : NativeConfigFilterResult)
    (token : Option String) (allowDisabled : Bool) (now clock : Instant)
    (summary : ExternalSubscriptionRefreshSummary) (hlinked : db.Linked)
    (hf : db.feeds.get? original.pk = some f)
    (h : reconcileSuccess original result token allowDisabled now clock db = some (summary, db'))
    (hok : summary.ok = true) :
    Mirrors sourceOf f result.rawLinks db db' ↔ Mirrorable sourceOf f result.rawLinks db := by
  rcases reconcileSuccess_cases h hf with ⟨hfailed, -⟩ | ⟨-, -, rfl⟩
  · rw [hfailed] at hok
    cases hok
  · rw [mirrors_modifyFeed_iff]
    exact mirrors_writeConfigs_iff sourceOf hlinked

/-! ## A list that grows -/

def growingFeed : ExternalSubscriptionFeed where
  pk := 1
  provider := "pasarguard"
  cup := 1
  resolvedFilterPolicy := { protocols := ["vless"], security := ["tls"], transport := ["tcp"] }
  refreshToken := "token"
  refreshLeaseUntil := some 90
  lastGoodConfigCount := 2

/-- Two items of the feed, and behind them one that is not the feed's. -/
def growingDb : CupDb where
  cups := ⟨[{ pk := 1 }], by decide⟩
  items := ⟨[{ pk := 1, cup := 1, configLink := 1, position := 1 },
    { pk := 2, cup := 1, configLink := 2, position := 2 },
    { pk := 3, cup := 1, configLink := 3, position := 3 }], by decide⟩
  links := ⟨[{ pk := 1, rawLink := "vless://a", externalFeed := some 1 },
    { pk := 2, rawLink := "vless://b", externalFeed := some 1 },
    { pk := 3, rawLink := "vless://own" }], by decide⟩
  feeds := ⟨[growingFeed], by decide⟩

def grownResult : NativeConfigFilterResult where
  policy := growingFeed.resolvedFilterPolicy
  upstreamCount := 3
  filteredCount := 3
  selectedConfigs := [{ rawLink := "vless://a" }, { rawLink := "vless://b" },
    { rawLink := "vless://c" }]

/-- The third link comes behind the item at its position, between it and the first two. -/
theorem reconcile_mixes_sources : ∃ summary db',
    reconcileSuccess growingFeed grownResult (some "token") false 0 0 growingDb =
      some (summary, db') ∧ summary.ok = true ∧
      ¬ Mirrors growingDb.feedOf growingFeed grownResult.rawLinks growingDb db' := by
  refine ⟨_, _, rfl, rfl, fun h => ?_⟩
  have := h.apart none (by decide +kernel)
  revert this
  decide +kernel

/-- Two links of the feed take the places of the two before. -/
theorem reconcile_mirrors_same_list :
    let result := { grownResult with selectedConfigs := grownResult.selectedConfigs.take 2 }
    ∃ summary db',
      reconcileSuccess growingFeed result (some "token") false 0 0 growingDb =
        some (summary, db') ∧
        (Mirrors growingDb.feedOf growingFeed result.rawLinks growingDb db' ↔
          Mirrorable growingDb.feedOf growingFeed result.rawLinks growingDb) :=
  ⟨_, _, rfl, reconcile_mirrors_iff growingDb.feedOf growingDb _ growingFeed growingFeed _
    (some "token") false 0 0 _ (by decide +kernel) (by decide +kernel) rfl rfl⟩

end Qasedak.Subscriptions
