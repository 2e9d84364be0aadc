import Qasedak.Subscriptions.Model

/-! The links of one source are written into a cup: each takes over an item of the source that
shows it already, or a new one, and the items get consecutive positions. Both a feed's refresh
and a rebuild of a cup do this. -/

namespace Qasedak.Subscriptions

open Foundation Store

/-- The arguments of `apply_config_link_parse`. -/
structure LinkContent where
  rawLink : String
  sourceType : Option LinkSourceType := none
  sourcePanel : Option ℕ := none
  sourceInbound : Option ℕ := none
  vpnClient : Option ℕ := none
  /-- None is `UNSET`. -/
  externalFeed : Option (Option ℕ) := none
  metadata : Option LinkMetadata := none
  deriving DecidableEq, Repr

/-- `apply_config_link_parse`. -/
def applyConfigLinkParse (content : LinkContent) (l : ConfigLink) : ConfigLink :=
  { l with
    rawLink := strip content.rawLink
    sourceType := content.sourceType.getD l.sourceType
    sourcePanel := content.sourcePanel
    sourceInbound := content.sourceInbound
    vpnClient := content.vpnClient
    externalFeed := content.externalFeed.getD l.externalFeed
    isActive := true
    metadata := content.metadata.getD l.metadata }

@[simp] theorem applyConfigLinkParse_pk (content : LinkContent) (l : ConfigLink) :
    (applyConfigLinkParse content l).pk = l.pk := rfl

namespace CupDb

/-- The row of `create_config_link_from_raw`. -/
def newLink (db : CupDb) (content : LinkContent) : ConfigLink :=
  applyConfigLinkParse content { pk := db.links.nextKey, rawLink := "" }

theorem newLink_pk (db : CupDb) (content : LinkContent) :
    (db.newLink content).pk = db.links.nextKey := rfl

/-- The item of a new link. -/
def newItem (db : CupDb) (cup position : ℕ) : CupItem where
  pk := db.items.nextKey
  cup := cup
  configLink := db.links.nextKey
  position := position

theorem newItem_pk (db : CupDb) (cup position : ℕ) :
    (db.newItem cup position).pk = db.items.nextKey := rfl

/-- An item that shows its link again, at a new position. -/
def placedItem (position : ℕ) (x : CupItem) : CupItem :=
  { x with position := position, isActive := true }

@[simp] theorem placedItem_pk (position : ℕ) (x : CupItem) : (placedItem position x).pk = x.pk :=
  rfl

/-- One link is written, into an item that is there or a new one. -/
def placeLink (db : CupDb) (cup position : ℕ) (content : LinkContent) : Option CupItem → CupDb
  | some x =>
      { db with
        links := db.links.modify x.configLink (applyConfigLinkParse content)
          (applyConfigLinkParse_pk content)
        items := db.items.modify x.pk (placedItem position) (placedItem_pk position) }
  | none =>
      { db with
        links := db.links.insert (db.newLink content) (db.newLink_pk content)
        items := db.items.insert (db.newItem cup position) (db.newItem_pk cup position) }

/-- The row of that item afterwards. -/
def placedRow (db : CupDb) (cup position : ℕ) : Option CupItem → CupItem
  | some x => placedItem position x
  | none => db.newItem cup position

end CupDb

/-- An item that can be taken over, with the link that it shows. -/
abbrev Reusable := List (CupItem × String)

/-- The first item that shows a link, and the others. -/
def takeItem (raw : String) (reusable : Reusable) : Option CupItem × Reusable :=
  ((reusable.find? (·.2 = raw)).map (·.1), reusable.eraseP (·.2 = raw))

/-- The links of a list in turn, from a position on; with the rows of their items. -/
def refill (cup : ℕ) : ℕ → List LinkContent → Reusable → CupDb → CupDb × List CupItem
  | _, [], _, db => (db, [])
  | position, content :: contents, reusable, db =>
      let taken := takeItem content.rawLink reusable
      let rest := refill cup (position + 1) contents taken.2
        (db.placeLink cup position content taken.1)
      (rest.1, db.placedRow cup position taken.1 :: rest.2)

/-- The items that the links of a list take over. -/
def matchItems : List String → Reusable → List (Option CupItem)
  | [], _ => []
  | raw :: raws, reusable =>
      (takeItem raw reusable).1 :: matchItems raws (takeItem raw reusable).2

/-! ## Items that can be taken over -/

variable {cup position : ℕ} {content : LinkContent} {contents : List LinkContent}
  {reusable : Reusable} {db db' : CupDb} {old : Option CupItem} {raw : String}

/-- No item shows the link, or the first one that does is taken. -/
theorem takeItem_cases (raw : String) (reusable : Reusable) :
    takeItem raw reusable = (none, reusable) ∧ (∀ x ∈ reusable, x.2 ≠ raw) ∨
      ∃ y before after, reusable = before ++ (y, raw) :: after ∧
        takeItem raw reusable = (some y, before ++ after) := by
  unfold takeItem
  cases hfind : reusable.find? (·.2 = raw) with
  | none =>
      have hnone : ∀ x ∈ reusable, ¬ x.2 = raw := by simpa using hfind
      refine .inl ⟨?_, hnone⟩
      rw [List.eraseP_of_forall_not fun x hx => by simpa using hnone x hx]
      rfl
  | some x =>
      obtain ⟨hraw, before, after, rfl, hbefore⟩ := List.find?_eq_some_iff_append.mp hfind
      obtain rfl : x.2 = raw := by simpa using hraw
      refine .inr ⟨x.1, before, after, rfl, ?_⟩
      rw [List.eraseP_append_right _ fun y hy => by simpa using hbefore y hy]
      simp

/-- The items are rows of the cup, and items of one link show the same. -/
structure Reusables (db : CupDb) (cup : ℕ) (reusable : Reusable) : Prop where
  rows : ∀ x ∈ reusable, db.items.get? x.1.pk = some x.1 ∧ x.1.cup = cup ∧
    (db.links.get? x.1.configLink).isSome
  keys : (reusable.map (·.1.pk)).Nodup
  shown : ∀ x ∈ reusable, ∀ y ∈ reusable, x.1.configLink = y.1.configLink → x.2 = y.2

namespace CupDb

/-- The link of an entry, once it is written. -/
def writtenLink (db : CupDb) (content : LinkContent) (old : Option CupItem) : ConfigLink :=
  match old with
  | some x => applyConfigLinkParse content
      ((db.links.get? x.configLink).getD { pk := x.configLink, rawLink := "" })
  | none => db.newLink content

@[simp] theorem placedRow_position : (db.placedRow cup position old).position = position := by
  cases old <;> rfl

@[simp] theorem placedRow_isActive : (db.placedRow cup position old).isActive = true := by
  cases old <;> rfl

theorem placedRow_cup (hold : ∀ x ∈ old, x.cup = cup) :
    (db.placedRow cup position old).cup = cup := by
  cases old with
  | none => rfl
  | some x => exact hold x rfl

theorem get?_items_placeLink (hold : ∀ x ∈ old, db.items.get? x.pk = some x) (k : ℕ) :
    (db.placeLink cup position content old).items.get? k =
      if k = (db.placedRow cup position old).pk then some (db.placedRow cup position old)
      else db.items.get? k := by
  cases old with
  | none => exact Table.get?_insert _ _ (db.newItem_pk cup position) k
  | some x =>
      have hx := hold x rfl
      change (db.items.modify x.pk _ (CupDb.placedItem_pk position)).get? k = if k = x.pk then _ else _
      rw [Table.get?_modify]
      by_cases hk : k = x.pk
      · simp [hk, hx, placedRow]
      · simp [hk]

theorem get?_links_placeLink (hold : ∀ x ∈ old, (db.links.get? x.configLink).isSome) (k : ℕ) :
    (db.placeLink cup position content old).links.get? k =
      if k = (db.placedRow cup position old).configLink then some (db.writtenLink content old)
      else db.links.get? k := by
  cases old with
  | none => exact Table.get?_insert _ _ (db.newLink_pk content) k
  | some x =>
      obtain ⟨l, hl⟩ := Option.isSome_iff_exists.mp (hold x rfl)
      change (db.links.modify x.configLink _ (applyConfigLinkParse_pk content)).get? k = if k = x.configLink then _ else _
      rw [Table.get?_modify]
      by_cases hk : k = x.configLink
      · simp [hk, hl, writtenLink]
      · simp [hk]

theorem writtenLink_rawLink : (db.writtenLink content old).rawLink = strip content.rawLink := by
  cases old <;> rfl

theorem writtenLink_isActive : (db.writtenLink content old).isActive = true := by
  cases old <;> rfl

theorem placeLink_eq : ∃ items links,
    db.placeLink cup position content old = { db with items := items, links := links } := by
  cases old <;> exact ⟨_, _, rfl⟩

end CupDb

/-! ## What a refill writes -/

/-- The row of an item that was taken over, or one that is new with its link. -/
def Takes (db : CupDb) (x : CupItem) : Option CupItem → Prop
  | some y => x.pk = y.pk ∧ x.configLink = y.configLink
  | none => (∀ y ∈ db.items.rows, y.pk < x.pk) ∧ db.links.get? x.configLink = none

/-- The item shows the link of the entry, and was one that showed it before or is new. -/
structure Shows (db db' : CupDb) (reusable : Reusable) (x : CupItem) (content : LinkContent) :
    Prop where
  link : ∃ l, db'.links.get? x.configLink = some l ∧ l.rawLink = strip content.rawLink ∧
    l.isActive = true
  source : (∃ y, (y, content.rawLink) ∈ reusable ∧ Takes db x (some y)) ∨ Takes db x none

structure Refilled (cup position : ℕ) (contents : List LinkContent) (reusable : Reusable)
    (db db' : CupDb) (placed : List CupItem) : Prop where
  rest : ∃ items links, db' = { db with items := items, links := links }
  positions : placed.map (·.position) = List.range' position contents.length
  rows : ∀ x ∈ placed, x.cup = cup ∧ x.isActive = true
  keys : (placed.map (·.pk)).Nodup
  items : ∀ x ∈ placed, db'.items.get? x.pk = some x
  others : ∀ k, k ∉ placed.map (·.pk) → db'.items.get? k = db.items.get? k
  links : ∀ k, k ∉ placed.map (·.configLink) → db'.links.get? k = db.links.get? k
  shown : List.Forall₂ (Shows db db' reusable) placed contents
  origin : List.Forall₂ (Takes db) placed (matchItems (contents.map (·.rawLink)) reusable)

theorem refilled_nil : Refilled cup position [] reusable db db [] where
  rest := ⟨_, _, rfl⟩
  positions := rfl
  rows := by simp
  keys := by simp
  items := by simp
  others := fun _ _ => rfl
  links := fun _ _ => rfl
  shown := .nil
  origin := .nil

/-- What is taken from the reusable items is one of them. -/
theorem Reusables.taken (h : Reusables db cup reusable) :
    ∀ x ∈ (takeItem raw reusable).1, db.items.get? x.pk = some x ∧ x.cup = cup ∧
      (db.links.get? x.configLink).isSome := by
  intro x hx
  rcases takeItem_cases raw reusable with ⟨htake, -⟩ | ⟨y, before, after, rfl, htake⟩
  · rw [htake] at hx
    cases hx
  · rw [htake] at hx
    obtain rfl : y = x := Option.some.inj hx
    exact h.rows (y, raw) (by simp)

theorem Reusables.rest_subset (x : CupItem × String) (hx : x ∈ (takeItem raw reusable).2) :
    x ∈ reusable := by
  rcases takeItem_cases raw reusable with ⟨htake, -⟩ | ⟨y, before, after, rfl, htake⟩
  · rwa [htake] at hx
  · rw [htake] at hx
    rcases List.mem_append.mp hx with hx | hx
    · exact List.mem_append_left _ hx
    · exact List.mem_append_right _ (List.mem_cons_of_mem _ hx)

/-- The item that a link gets is none of those that are left. -/
theorem Reusables.placedRow_pk_ne (h : Reusables db cup reusable) (x : CupItem × String)
    (hx : x ∈ (takeItem raw reusable).2) :
    x.1.pk ≠ (db.placedRow cup position (takeItem raw reusable).1).pk := by
  rcases takeItem_cases raw reusable with ⟨htake, -⟩ | ⟨y, before, after, rfl, htake⟩
  · rw [htake] at hx ⊢
    have hrow := (Table.mem_of_get? (h.rows x hx).1).1
    exact (Table.lt_nextKey hrow).ne
  · rw [htake] at hx ⊢
    have hkeys := h.keys
    rw [List.map_append, List.map_cons, List.nodup_middle, List.nodup_cons, ← List.map_append]
      at hkeys
    intro heq
    exact hkeys.1 (heq ▸ List.mem_map_of_mem hx)

theorem Reusables.place (h : Reusables db cup reusable) :
    Reusables (db.placeLink cup position content (takeItem raw reusable).1) cup
      (takeItem raw reusable).2 := by
  have htaken := @Reusables.taken _ _ _ raw h
  have hitems := @CupDb.get?_items_placeLink cup position content _ _ fun x hx => (htaken x hx).1
  have hlinks := @CupDb.get?_links_placeLink cup position content _ _ fun x hx => (htaken x hx).2.2
  refine ⟨fun x hx => ?_, ?_, fun x hx y hy => ?_⟩
  · obtain ⟨hrow, hcup, hlink⟩ := h.rows x (Reusables.rest_subset x hx)
    refine ⟨?_, hcup, ?_⟩
    · rw [hitems, if_neg (h.placedRow_pk_ne x hx)]
      exact hrow
    · rw [hlinks]
      split
      · rfl
      · exact hlink
  · have hsublist : ((takeItem raw reusable).2).Sublist reusable := List.eraseP_sublist
    exact (hsublist.map _).nodup h.keys
  · exact h.shown x (Reusables.rest_subset x hx) y (Reusables.rest_subset y hy)

section Place

variable (hold : ∀ x ∈ old, db.items.get? x.pk = some x ∧ x.cup = cup ∧
  (db.links.get? x.configLink).isSome)
include hold

theorem takes_placedRow : Takes db (db.placedRow cup position old) old := by
  cases old with
  | some x => exact ⟨rfl, rfl⟩
  | none => exact ⟨fun y hy => Table.lt_nextKey hy, Table.get?_nextKey db.links⟩

/-- What is new after a link was written was new before. -/
theorem Takes.of_place {x : CupItem} {o : Option CupItem}
    (h : Takes (db.placeLink cup position content old) x o) : Takes db x o := by
  cases o with
  | some y => exact h
  | none =>
      obtain ⟨hitem, hlink⟩ := h
      refine ⟨fun y hy => ?_, ?_⟩
      · have hget := @CupDb.get?_items_placeLink cup position content _ _ (fun x hx => (hold x hx).1) y.pk
        split at hget
        · rename_i hkey
          have := hitem _ (Table.mem_of_get? hget).1
          omega
        · rw [Table.get?_eq_some_iff.mpr ⟨hy, rfl⟩] at hget
          exact hitem y (Table.mem_of_get? hget).1
      · rw [CupDb.get?_links_placeLink fun x hx => (hold x hx).2.2] at hlink
        split at hlink
        · cases hlink
        · exact hlink

end Place

theorem exists_of_forall₂ {α β : Type*} {R : α → β → Prop} {xs : List α} {ys : List β}
    (h : List.Forall₂ R xs ys) {a : α} (ha : a ∈ xs) : ∃ b ∈ ys, R a b := by
  induction h with
  | nil => cases ha
  | cons hhead _ ih =>
      rcases List.mem_cons.mp ha with rfl | ha
      · exact ⟨_, List.mem_cons_self, hhead⟩
      · obtain ⟨b, hb, hab⟩ := ih ha
        exact ⟨b, List.mem_cons_of_mem _ hb, hab⟩

/-- An item that shows a link of the list shows none of the head's. -/
theorem Shows.of_place {x : CupItem} {entry : LinkContent}
    (hold : ∀ x ∈ (takeItem raw reusable).1, db.items.get? x.pk = some x ∧ x.cup = cup ∧
      (db.links.get? x.configLink).isSome)
    (h : Shows (db.placeLink cup position content (takeItem raw reusable).1) db'
      (takeItem raw reusable).2 x entry) : Shows db db' reusable x entry := by
  refine ⟨h.link, ?_⟩
  rcases h.source with ⟨y, hy, htakes⟩ | hnew
  · exact .inl ⟨y, Reusables.rest_subset _ hy, htakes⟩
  · exact .inr (Takes.of_place hold hnew)

/-- Items of one link show the same text. -/
theorem Reusables.shown_of_shared (hreusable : Reusables db cup reusable) {x : CupItem}
    {entry : LinkContent}
    (h : Shows (db.placeLink cup position content (takeItem raw reusable).1) db'
      (takeItem raw reusable).2 x entry)
    (hlink : x.configLink = (db.placedRow cup position (takeItem raw reusable).1).configLink) :
    entry.rawLink = raw := by
  have htaken := @Reusables.taken _ _ _ raw hreusable
  rcases h.source with ⟨y, hy, -, hyx⟩ | ⟨-, hnew⟩
  · have hrow := hreusable.rows (y, entry.rawLink) (Reusables.rest_subset _ hy)
    rw [hyx] at hlink
    rcases takeItem_cases raw reusable with ⟨htake, -⟩ | ⟨z, before, after, hsplit, htake⟩
    · rw [htake] at hlink
      rw [hlink] at hrow
      have hfresh : (db.links.get? db.links.nextKey).isSome := hrow.2.2
      rw [Table.get?_nextKey] at hfresh
      cases hfresh
    · rw [htake] at hlink
      exact hreusable.shown (y, entry.rawLink) (Reusables.rest_subset _ hy) (z, raw)
        (by simp [hsplit]) hlink
  · rw [hlink, CupDb.get?_links_placeLink fun x hx => (htaken x hx).2.2, if_pos rfl] at hnew
    cases hnew

theorem refilled_cons (hreusable : Reusables db cup reusable)
    {placed : List CupItem}
    (h : Refilled cup (position + 1) contents (takeItem content.rawLink reusable).2
      (db.placeLink cup position content (takeItem content.rawLink reusable).1) db' placed) :
    Refilled cup position (content :: contents) reusable db db'
      (db.placedRow cup position (takeItem content.rawLink reusable).1 :: placed) := by
  have htaken := @Reusables.taken _ _ _ content.rawLink hreusable
  set old := (takeItem content.rawLink reusable).1 with hold
  set row := db.placedRow cup position old with hrow
  have hitems := @CupDb.get?_items_placeLink cup position content _ _ fun x hx => (htaken x hx).1
  have hlinks := @CupDb.get?_links_placeLink cup position content _ _ fun x hx => (htaken x hx).2.2
  have hrowLink := hlinks row.configLink
  rw [if_pos rfl] at hrowLink
  have hkey : row.pk ∉ placed.map (·.pk) := by
    intro hmem
    obtain ⟨x, hx, hpk⟩ := List.mem_map.mp hmem
    obtain ⟨entry, -, hshows⟩ := exists_of_forall₂ h.shown hx
    rcases hshows.source with ⟨y, hy, htakes⟩ | hnew
    · exact hreusable.placedRow_pk_ne (y, _) hy (htakes.1 ▸ hpk)
    · have hget := hitems row.pk
      rw [if_pos rfl] at hget
      have := hnew.1 row (Table.mem_of_get? hget).1
      omega
  obtain ⟨items, links, hdb⟩ := @CupDb.placeLink_eq cup position content db old
  refine ⟨?_, ?_, ?_, ?_, ?_, ?_, ?_, ?_, ?_⟩
  · obtain ⟨items', links', hrest⟩ := h.rest
    exact ⟨items', links', by rw [hrest, hdb]⟩
  · rw [List.map_cons, h.positions, List.length_cons, List.range'_succ]
    simp [hrow]
  · intro x hx
    rcases List.mem_cons.mp hx with rfl | hx
    · exact ⟨CupDb.placedRow_cup fun y hy => (htaken y hy).2.1, CupDb.placedRow_isActive⟩
    · exact h.rows x hx
  · rw [List.map_cons, List.nodup_cons]
    exact ⟨hkey, h.keys⟩
  · intro x hx
    rcases List.mem_cons.mp hx with rfl | hx
    · rw [h.others _ hkey, hitems, if_pos rfl]
    · exact h.items x hx
  · intro k hk
    rw [List.map_cons, List.mem_cons, not_or] at hk
    rw [h.others k hk.2, hitems, if_neg hk.1]
  · intro k hk
    rw [List.map_cons, List.mem_cons, not_or] at hk
    rw [h.links k hk.2, hlinks, if_neg hk.1]
  · refine .cons ⟨?_, ?_⟩ (h.shown.imp fun x entry => Shows.of_place htaken)
    · by_cases hshared : row.configLink ∈ placed.map (·.configLink)
      · obtain ⟨x, hx, hlink⟩ := List.mem_map.mp hshared
        obtain ⟨entry, -, hshows⟩ := exists_of_forall₂ h.shown hx
        obtain ⟨l, hl, hraw, hactive⟩ := hshows.link
        have hsame := hreusable.shown_of_shared hshows hlink
        exact ⟨l, hlink ▸ hl, hsame ▸ hraw, hactive⟩
      · refine ⟨db.writtenLink content old, ?_, CupDb.writtenLink_rawLink,
          CupDb.writtenLink_isActive⟩
        rw [h.links _ hshared, hrowLink]
    · have htakes : Takes db row old := takes_placedRow htaken
      rcases takeItem_cases content.rawLink reusable with ⟨htake, -⟩ |
        ⟨y, before, after, hsplit, htake⟩
      · have hnone : old = none := by rw [hold, htake]
        exact .inr (hnone ▸ htakes)
      · have hsome : old = some y := by rw [hold, htake]
        exact .inl ⟨y, by simp [hsplit], hsome ▸ htakes⟩
  · rw [List.map_cons, matchItems]
    exact .cons (takes_placedRow htaken) (h.origin.imp fun x o => Takes.of_place htaken)

/-- What a refill writes: the items of the list stand at consecutive positions, with the links
of the list, and no other item is touched. -/
theorem refilled (cup position : ℕ) (contents : List LinkContent) (reusable : Reusable)
    (db : CupDb) (hreusable : Reusables db cup reusable) :
    Refilled cup position contents reusable db (refill cup position contents reusable db).1
      (refill cup position contents reusable db).2 := by
  induction contents generalizing position reusable db with
  | nil => exact refilled_nil
  | cons content contents ih =>
      exact refilled_cons hreusable
        (ih (position + 1) (takeItem content.rawLink reusable).2 _ hreusable.place)

/-- The items that are taken over are reusable ones. -/
theorem mem_of_matchItems {raws : List String} {k : CupItem}
    (h : some k ∈ matchItems raws reusable) : ∃ raw, (k, raw) ∈ reusable := by
  induction raws generalizing reusable with
  | nil => cases h
  | cons raw raws ih =>
      rcases List.mem_cons.mp h with hhead | htail
      · rcases takeItem_cases raw reusable with ⟨htake, -⟩ | ⟨y, before, after, hsplit, htake⟩
        · rw [htake] at hhead
          cases hhead
        · rw [htake] at hhead
          cases hhead
          exact ⟨raw, by simp [hsplit]⟩
      · obtain ⟨raw', hraw⟩ := ih htail
        exact ⟨raw', Reusables.rest_subset _ hraw⟩

section Placed

variable {placed : List CupItem} {x : CupItem}

/-- An item that is placed was taken over, or is new with its link. -/
theorem Refilled.placed_cases (h : Refilled cup position contents reusable db db' placed)
    (hx : x ∈ placed) :
    (∃ y, some y ∈ matchItems (contents.map (·.rawLink)) reusable ∧ x.pk = y.pk ∧
      x.configLink = y.configLink) ∨ Takes db x none := by
  obtain ⟨o, ho, htakes⟩ := exists_of_forall₂ h.origin hx
  cases o with
  | none => exact .inr htakes
  | some y => exact .inl ⟨y, ho, htakes⟩

/-- A row that is placed again was reusable. -/
theorem Refilled.mem_reusable (h : Refilled cup position contents reusable db db' placed)
    (hreusable : Reusables db cup reusable) (hrow : x ∈ db.items.rows)
    (hpk : x.pk ∈ placed.map (·.pk)) : ∃ raw, (x, raw) ∈ reusable := by
  obtain ⟨z, hz, hkey⟩ := List.mem_map.mp hpk
  rcases h.placed_cases hz with ⟨y, hy, hyz, -⟩ | ⟨hnew, -⟩
  · obtain ⟨raw, hraw⟩ := mem_of_matchItems hy
    have hyrow := (Table.mem_of_get? (hreusable.rows (y, raw) hraw).1).1
    have : y = x := List.inj_on_of_nodup_map db.items.keys_nodup hyrow hrow (hyz ▸ hkey)
    exact ⟨raw, this ▸ hraw⟩
  · have := hnew x hrow
    omega

/-- A link that is there and placed again is that of a reusable item. -/
theorem Refilled.link_of_reusable (h : Refilled cup position contents reusable db db' placed)
    {k : ℕ} (hk : (db.links.get? k).isSome) (hmem : k ∈ placed.map (·.configLink)) :
    ∃ y raw, (y, raw) ∈ reusable ∧ y.configLink = k := by
  obtain ⟨z, hz, rfl⟩ := List.mem_map.mp hmem
  rcases h.placed_cases hz with ⟨y, hy, -, hlink⟩ | ⟨-, hfresh⟩
  · obtain ⟨raw, hraw⟩ := mem_of_matchItems hy
    exact ⟨y, raw, hraw, hlink.symm⟩
  · rw [hfresh] at hk
    cases hk

theorem Refilled.length_eq (h : Refilled cup position contents reusable db db' placed) :
    placed.length = contents.length := by
  have hlength := congrArg List.length h.positions
  simpa using hlength

theorem Refilled.pairwise (h : Refilled cup position contents reusable db db' placed) :
    placed.Pairwise fun a b => a.position < b.position := by
  rw [← List.pairwise_map, h.positions]
  exact List.pairwise_lt_range'

end Placed

/-- The links of the list belong to its feed afterwards. -/
theorem refill_feed {feed : Option ℕ} (hreusable : Reusables db cup reusable)
    (hcontents : ∀ content ∈ contents, content.externalFeed = some feed) :
    ∀ x ∈ (refill cup position contents reusable db).2, ∀ l,
      (refill cup position contents reusable db).1.links.get? x.configLink = some l →
        l.externalFeed = feed := by
  induction contents generalizing position reusable db with
  | nil => simp [refill]
  | cons content contents ih =>
      have htaken := @Reusables.taken _ _ _ content.rawLink hreusable
      have hplaced : Reusables (db.placeLink cup position content
          (takeItem content.rawLink reusable).1) cup (takeItem content.rawLink reusable).2 :=
        hreusable.place
      have hrest := refilled cup (position + 1) contents _ _ hplaced
      have ih' := @ih (position + 1) _ _ hplaced
        fun entry hentry => hcontents entry (List.mem_cons_of_mem _ hentry)
      intro x hx l hl
      by_cases hshared : x.configLink ∈
          (refill cup (position + 1) contents (takeItem content.rawLink reusable).2
            (db.placeLink cup position content (takeItem content.rawLink reusable).1)).2.map
              (·.configLink)
      · obtain ⟨y, hy, hlink⟩ := List.mem_map.mp hshared
        exact ih' y hy l (hlink ▸ hl)
      · have hhead : x = db.placedRow cup position (takeItem content.rawLink reusable).1 := by
          rcases List.mem_cons.mp hx with rfl | hx
          · rfl
          · exact absurd (List.mem_map_of_mem hx) hshared
        change (refill cup (position + 1) contents _ _).1.links.get? x.configLink = some l at hl
        rw [hrest.links _ hshared, CupDb.get?_links_placeLink fun x hx => (htaken x hx).2.2,
          if_pos (congrArg _ hhead)] at hl
        cases hl
        have hfeed := hcontents content List.mem_cons_self
        cases hold : (takeItem content.rawLink reusable).1 <;>
          simp [CupDb.writtenLink, CupDb.newLink, applyConfigLinkParse, hfeed]

/-- Links that are written without a feed stay under the feeds that they are under. -/
theorem refill_unset (hreusable : Reusables db cup reusable)
    (hcontents : ∀ content ∈ contents, content.externalFeed = none) (k : ℕ) :
    ((refill cup position contents reusable db).1.links.get? k).bind (·.externalFeed) =
      (db.links.get? k).bind (·.externalFeed) := by
  induction contents generalizing position reusable db with
  | nil => rfl
  | cons content contents ih =>
      have htaken := @Reusables.taken _ _ _ content.rawLink hreusable
      have hunset := hcontents content List.mem_cons_self
      have hplaced : Reusables (db.placeLink cup position content
          (takeItem content.rawLink reusable).1) cup (takeItem content.rawLink reusable).2 :=
        hreusable.place
      have ih' := @ih (position + 1) _ _ hplaced
        fun entry hentry => hcontents entry (List.mem_cons_of_mem _ hentry)
      refine ih'.trans ?_
      rw [CupDb.get?_links_placeLink fun x hx => (htaken x hx).2.2]
      split
      · next hk =>
          rw [hk, Option.bind_some]
          cases hold : (takeItem content.rawLink reusable).1 with
          | none =>
              have hfresh : db.links.get? db.links.nextKey = none := Table.get?_nextKey _
              change (db.newLink content).externalFeed = (db.links.get? db.links.nextKey).bind _
              rw [hfresh]
              simp [CupDb.newLink, applyConfigLinkParse, hunset]
          | some x =>
              obtain ⟨l, hl⟩ := Option.isSome_iff_exists.mp (htaken x hold).2.2
              change (db.writtenLink content (some x)).externalFeed =
                (db.links.get? x.configLink).bind _
              simp [CupDb.writtenLink, applyConfigLinkParse, hunset, hl]
      · rfl

end Qasedak.Subscriptions
