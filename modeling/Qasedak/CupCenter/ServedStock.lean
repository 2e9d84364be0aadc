import Qasedak.CupCenter.Model
import Qasedak.Orders.StockAccounting

/-! Stock that is back on sale and still served: a link may be shown by items of many cups, and
a release looks at one of them. -/

namespace Qasedak.CupCenter

open Foundation Store Orders
open Subscriptions (SubscriptionCup SubscriptionCups)

/-! ## Links of stock that is back on sale -/

/-- The link was delivered from an allocation of the asset. -/
def DeliversAsset (db : Db) (l : ConfigLink) (asset : ℕ) : Prop :=
  ∃ a ∈ db.allocations.rows, l.metadata.allocation = some a.pk ∧ a.asset = asset

/-- The link was delivered from a released allocation of an asset without active ones. -/
def Stale (db : Db) (l : ConfigLink) : Prop :=
  ∃ a ∈ db.allocations.rows, l.metadata.allocation = some a.pk ∧ a.isActive = false ∧
    activeAllocations db a.asset = []

instance (db : Db) (l : ConfigLink) (asset : ℕ) : Decidable (DeliversAsset db l asset) :=
  inferInstanceAs (Decidable (∃ _ ∈ _, _))

instance (db : Db) (l : ConfigLink) : Decidable (Stale db l) :=
  inferInstanceAs (Decidable (∃ _ ∈ _, _))

namespace Center

/-- The link is one that an active item of the cup would serve. -/
structure Shows (c : Center) (cup : ℕ) (l : ConfigLink) : Prop where
  accessible : c.isAccessible cup = true
  active : l.isActive = true
  text : strip l.rawLink ≠ ""

/-- The item renders the link for whoever opens the cup. -/
structure Serves (c : Center) (x : CupItem) (l : ConfigLink) : Prop where
  item : x ∈ c.items.rows
  active : x.isActive = true
  link : c.links.get? x.configLink = some l
  shows : c.Shows x.cup l

/-- No active item of an accessible cup renders a link of stock that is back on sale. -/
def NoStrayLink (c : Center) : Prop := ∀ x l, c.Serves x l → ¬ Stale c.stock.db l

/-- The allocation that the item was delivered from. -/
def deliveredFrom (c : Center) (x : CupItem) : Option ℕ :=
  x.metadata.allocation <|> (c.links.get? x.configLink).bind (·.metadata.allocation)

/-- Removing an item releases no allocation but the one it was delivered from. -/
def ReleasesOne (c : Center) : Prop :=
  ∀ cup item x c', c.getItem cup item = some x → removeCupItem cup item c = .ok c' →
    ∀ a ∈ c.stock.db.allocations.rows, a.isActive = true →
      a ∈ c'.stock.db.allocations.rows ∨ c.deliveredFrom x = some a.pk

end Center

/-! ## The condition on a step -/

namespace Center

/-- The allocations that a removal of the item releases. -/
def releasedFor (c : Center) (x : CupItem) : List ConfigAllocation :=
  let identity := c.itemInventoryIdentity x
  releasedAllocations c.stock.db x.cup identity.allocation identity.asset

/-- The release for the item takes the last active allocation of the asset. -/
def Frees (c : Center) (x : CupItem) (asset : ℕ) : Prop :=
  ∃ r ∈ c.releasedFor x, r.asset = asset ∧ ∀ a ∈ activeAllocations c.stock.db asset, a.pk = r.pk

/-- No other item serves what the release for the item puts back on sale. -/
def FreesUnserved (c : Center) (x : CupItem) : Prop :=
  ∀ asset, c.Frees x asset → ∀ y l, c.Serves y l → y.pk ≠ x.pk → ¬ DeliversAsset c.stock.db l asset

/-- A step that serves nothing of what is or comes back on sale. -/
def Tidy (c : Center) : CenterOp → Prop
  | .addExistingLinks cup links =>
      ∀ l ∈ c.links.rows, l.pk ∈ links → c.Shows cup l → ¬ Stale c.stock.db l
  | .setItemActive cup item isActive =>
      isActive = true → ∀ x l, c.getItem cup item = some x → c.links.get? x.configLink = some l →
        c.Shows cup l → ¬ Stale c.stock.db l
  | .replaceLink cup item link =>
      ∀ x l, c.getItem cup item = some x → c.links.get? link = some l →
        c.FreesUnserved x ∧ (x.isActive = true → c.Shows cup l →
          ¬ Stale c.stock.db l ∧ ∀ asset, c.Frees x asset → ¬ DeliversAsset c.stock.db l asset)
  | .removeItem cup item => ∀ x, c.getItem cup item = some x → c.FreesUnserved x
  | _ => True

end Center

/-- What names an asset names its allocation. -/
def InventoryIdentity.Named (m : InventoryIdentity) : Prop := m.allocation = none → m.asset = none

/-- The items are in cups, and name the allocation of every asset they name, as the links do. -/
structure WellKept (c : Center) : Prop where
  housed : ∀ x ∈ c.items.rows, (c.cups.get? x.cup).isSome
  items : ∀ x ∈ c.items.rows, x.metadata.Named
  links : ∀ l ∈ c.links.rows, l.metadata.Named

/-- The second state is well kept, and serves nothing stray, if the first is and does so. -/
structure Preserves (c c' : Center) : Prop where
  kept : WellKept c → WellKept c'
  noStray : WellKept c → c.NoStrayLink → c'.NoStrayLink

theorem Preserves.refl (c : Center) : Preserves c c := ⟨fun h => h, fun _ h => h⟩

theorem Preserves.trans {c c' c'' : Center} (h : Preserves c c') (h' : Preserves c' c'') :
    Preserves c c'' where
  kept hkept := h'.kept (h.kept hkept)
  noStray hkept hstray := h'.noStray (h.kept hkept) (h.noStray hkept hstray)

variable {c c' : Center} {db db' : Db} {x y : CupItem} {l : ConfigLink} {cup item : ℕ}
  {format : LinkFormat}

/-! ## More allocations -/

/-- Allocations were added, all of them active. -/
def Draws (db db' : Db) : Prop :=
  ∃ rows, db'.allocations.rows = db.allocations.rows ++ rows ∧ ∀ r ∈ rows, r.isActive = true

theorem Draws.refl (db : Db) : Draws db db := ⟨[], by simp, by simp⟩

/-- An allocation makes no link stale. -/
theorem Draws.stale (h : Draws db db') (hstale : Stale db' l) : Stale db l := by
  obtain ⟨rows, hrows, hactive⟩ := h
  obtain ⟨a, ha, hl, hreleased, hfree⟩ := hstale
  rw [hrows, List.mem_append] at ha
  rcases ha with ha | ha
  · refine ⟨a, ha, hl, hreleased, ?_⟩
    unfold activeAllocations at hfree ⊢
    rw [hrows, List.filter_append] at hfree
    exact (List.append_eq_nil_iff.mp hfree).1
  · rw [hactive a ha] at hreleased
    cases hreleased

/-- A link of an active allocation is not stale. -/
theorem not_stale_of_active {a : ConfigAllocation} (ha : a ∈ db.allocations.rows)
    (hactive : a.isActive = true) (hl : l.metadata.allocation = some a.pk) : ¬ Stale db l := by
  rintro ⟨b, hb, hlb, hreleased, -⟩
  have hpk : a.pk = b.pk := Option.some.inj (hl.symm.trans hlb)
  rw [List.inj_on_of_nodup_map db.allocations.keys_nodup ha hb hpk, hreleased] at hactive
  cases hactive

theorem not_stale_of_none (hl : l.metadata.allocation = none) : ¬ Stale db l := by
  rintro ⟨a, -, hla, -⟩
  rw [hl] at hla
  cases hla

/-! ## More items -/

/-- Items and links were added: what is served was served before, or is one of the new links. -/
structure Adds (c c' : Center) (new : ConfigLink → Prop) : Prop where
  stock : c'.stock = c.stock
  now : c'.now = c.now
  cups : c'.cups = c.cups
  kept : WellKept c → WellKept c'
  served : ∀ x l, c'.Serves x l → c.Serves x l ∨ new l

theorem Adds.refl (c : Center) (new : ConfigLink → Prop) : Adds c c new :=
  ⟨rfl, rfl, rfl, fun h => h, fun _ _ h => .inl h⟩

theorem Adds.trans {c'' : Center} {new : ConfigLink → Prop} (h : Adds c c' new)
    (h' : Adds c' c'' new) : Adds c c'' new where
  stock := h'.stock.trans h.stock
  now := h'.now.trans h.now
  cups := h'.cups.trans h.cups
  kept hkept := h'.kept (h.kept hkept)
  served x l hserves := (h'.served x l hserves).elim (h.served x l) .inr

theorem Center.Shows.congr (h : c'.Shows cup l) (hcups : c'.cups = c.cups) (hnow : c'.now = c.now) :
    c.Shows cup l where
  accessible := by
    have := h.accessible
    rwa [Center.isAccessible, hcups, hnow] at this
  active := h.active
  text := h.text

/-- An item serves the link it was added for. -/
theorem adds_addItem {link position : ℕ} {metadata : InventoryIdentity}
    (hcup : (c.cups.get? cup).isSome) (hmetadata : metadata.Named) :
    Adds c (c.addItem cup link position metadata) fun l =>
      c.links.get? link = some l ∧ c.Shows cup l where
  stock := rfl
  now := rfl
  cups := rfl
  kept h := by
    refine ⟨fun x hx => ?_, fun x hx => ?_, h.links⟩
    · rcases List.mem_append.mp hx with hx | hx
      · exact h.housed x hx
      · rw [List.mem_singleton.mp hx]
        exact hcup
    · rcases List.mem_append.mp hx with hx | hx
      · exact h.items x hx
      · rw [List.mem_singleton.mp hx]
        exact hmetadata
  served x l h := by
    have hshows : c.Shows x.cup l := h.shows.congr rfl rfl
    rcases List.mem_append.mp h.item with hx | hx
    · exact .inl ⟨hx, h.active, h.link, hshows⟩
    · have hx := List.mem_singleton.mp hx
      have hlink := h.link
      rw [hx] at hlink hshows
      exact .inr ⟨hlink, hshows⟩

/-- A new link is the only one that comes to be served with it. -/
theorem adds_addLink {position : ℕ} {raw : String} {metadata : InventoryIdentity}
    (hcup : (c.cups.get? cup).isSome) (hmetadata : metadata.Named) :
    Adds c (c.addLink format cup position raw metadata) fun l => l.metadata = metadata := by
  have hlinks : Adds c (c.createLink format raw metadata) fun l => l.metadata = metadata := by
    refine ⟨rfl, rfl, rfl, fun h => ⟨h.housed, h.items, fun l hl => ?_⟩, fun x l h => ?_⟩
    · rcases List.mem_append.mp hl with hl | hl
      · exact h.links l hl
      · rw [List.mem_singleton.mp hl]
        exact hmetadata
    · have hlink := h.link
      rw [Center.createLink, Table.get?_insert] at hlink
      by_cases hnew : x.configLink = c.links.nextKey
      · rw [if_pos hnew] at hlink
        exact .inr (by rw [← Option.some.inj hlink]; rfl)
      · rw [if_neg hnew] at hlink
        exact .inl ⟨h.item, h.active, hlink, h.shows.congr rfl rfl⟩
  refine hlinks.trans ?_
  have hitem := @adds_addItem (c.createLink format raw metadata) cup c.links.nextKey position
    metadata hcup hmetadata
  refine ⟨rfl, rfl, rfl, hitem.kept, fun x l h => ?_⟩
  rcases hitem.served x l h with hserves | ⟨hlink, -⟩
  · exact .inl hserves
  · rw [Center.createLink, Table.get?_insert, if_pos rfl] at hlink
    exact .inr (by rw [← Option.some.inj hlink]; rfl)

/-- New items that show no stale link leave nothing stray. -/
theorem Adds.preserves {new : ConfigLink → Prop} (h : Adds c c' new)
    (hnew : ∀ l, new l → ¬ Stale c.stock.db l) : Preserves c c' where
  kept := h.kept
  noStray _ hstray x l hserves := by
    rw [h.stock]
    exact (h.served x l hserves).elim (hstray x l) (hnew l)

theorem Adds.imp {new new' : ConfigLink → Prop} (h : Adds c c' new) (himp : ∀ l, new l → new' l) :
    Adds c c' new' :=
  ⟨h.stock, h.now, h.cups, h.kept, fun x l hserves => (h.served x l hserves).imp id (himp l)⟩

/-! ## Additions -/

theorem named_empty : InventoryIdentity.Named {} := fun _ => rfl

theorem adds_attachLinks {links : List ConfigLink} {position : ℕ}
    (hcup : (c.cups.get? cup).isSome) :
    Adds c (attachLinks cup links position c) fun l =>
      (∃ l' ∈ links, c.links.get? l'.pk = some l) ∧ c.Shows cup l := by
  induction links generalizing c position with
  | nil => exact Adds.refl c _
  | cons l' links ih =>
      have hitem := @adds_addItem c cup l'.pk position {} hcup named_empty
      have hrest := @ih (c.addItem cup l'.pk position {}) (position + 1) hcup
      refine Adds.trans (hitem.imp ?_) (hrest.imp ?_)
      · rintro l ⟨hlink, hshows⟩
        exact ⟨⟨l', List.mem_cons_self, hlink⟩, hshows⟩
      · rintro l ⟨⟨l'', hl'', hlink⟩, hshows⟩
        exact ⟨⟨l'', List.mem_cons_of_mem l' hl'', hlink⟩, hshows.congr rfl rfl⟩

theorem adds_createCupItems {allocations : List ConfigAllocation} {position : ℕ}
    (hcup : (c.cups.get? cup).isSome)
    (h : createCupItems format cup allocations position c = .ok c') :
    Adds c c' fun l => ∃ a ∈ allocations, l.metadata.allocation = some a.pk := by
  induction allocations generalizing c position with
  | nil =>
      cases h
      exact Adds.refl _ _
  | cons a allocations ih =>
      rw [createCupItems] at h
      split at h
      · cases h
      rename_i asset hasset
      split at h
      · cases h
      have hnamed : InventoryIdentity.Named
          { allocation := some a.pk, asset := some a.asset } := fun hnone => by cases hnone
      have hlink := @adds_addLink c cup format position asset.rawLink _ hcup hnamed
      refine Adds.trans (hlink.imp ?_) ((ih (by rw [hlink.cups]; exact hcup) h).imp ?_)
      · intro l hl
        exact ⟨a, List.mem_cons_self, by rw [hl]⟩
      · rintro l ⟨b, hb, hl⟩
        exact ⟨b, List.mem_cons_of_mem a hb, hl⟩

theorem adds_addPanelLinks {links : List String} {position : ℕ}
    (hcup : (c.cups.get? cup).isSome) :
    Adds c (addPanelLinks format cup links position c) fun l => l.metadata = {} := by
  induction links generalizing c position with
  | nil => exact Adds.refl c _
  | cons raw links ih =>
      have hlink := @adds_addLink c cup format position raw {} hcup named_empty
      exact hlink.trans (ih (by rw [hlink.cups]; exact hcup))

/-- A program that hands out allocations does so, and changes nothing where it fails. -/
def Allocator (allocate : ShopM (List ConfigAllocation)) (s : Shop) : Prop :=
  Prog.wp allocate
    (fun rows s' => s'.db.allocations.rows = s.db.allocations.rows ++ rows ∧
      ∀ r ∈ rows, r.isActive = true)
    (fun _ s' => s' = s) s

theorem allocator_allocateSelected {now : Instant} {pool : Option ℕ} {selected : List ℕ}
    {cup order : Option ℕ} {mode : Option AllocationMode} {s : Shop} :
    Allocator (allocateSelectedAssetsFromPool now pool selected cup order mode) s := by
  refine Prog.wp_mono wp_allocateSelectedAssetsFromPool ?_ fun _ _ h => h
  rintro rows s' ⟨_, _, _, _, hnew, hallocates⟩
  exact ⟨hallocates.rows, fun r hr => (hnew.new r hr).active⟩

theorem allocator_allocate {now : Instant} {pool : Option ℕ} {quantity : ℕ}
    {cup order : Option ℕ} {mode : Option AllocationMode} {s : Shop} :
    Allocator (allocateAssetsFromPool now pool quantity cup order mode) s := by
  refine Prog.wp_mono wp_allocateAssetsFromPool ?_ fun _ _ h => h.2.1
  rintro rows s' ⟨_, _, _, hnew, hallocates, _⟩
  exact ⟨hallocates.rows, fun r hr => (hnew.new r hr).active⟩

theorem allocator_allocateSelection {c : Center} {cup quantity pool : ℕ} {source : SelectionSource} {s : Shop} :
    Allocator (c.allocateSelection cup quantity pool source) s := by
  cases source with
  | manual assets => exact allocator_allocateSelected
  | automatic n => exact allocator_allocate

theorem Allocator.draws {allocate : ShopM (List ConfigAllocation)} {s : Shop}
    (h : Allocator allocate s) : Draws s.db (allocate s).2.db := by
  refine Prog.snd_of_wp (P := fun s' : Shop => Draws s.db s'.db) ?_
  refine Prog.wp_mono h (fun rows s' hrows => ⟨rows, hrows⟩) ?_
  intro _ s' hsame
  rw [hsame]
  exact Draws.refl s.db

/-- More stock in use, and the same links served. -/
theorem Draws.preserves {stock : Shop} (hdraws : Draws c.stock.db stock.db) :
    Preserves c { c with stock := stock } where
  kept h := ⟨h.housed, h.items, h.links⟩
  noStray _ hstray x l hserves hstale := by
    have hshows : c.Shows x.cup l := hserves.shows.congr rfl rfl
    exact hstray x l ⟨hserves.item, hserves.active, hserves.link, hshows⟩ (hdraws.stale hstale)

/-- The items of an allocation show links of active allocations. -/
theorem preserves_drawItems {allocate : ShopM (List ConfigAllocation)}
    {allocations : List ConfigAllocation} (hcup : (c.cups.get? cup).isSome)
    (hallocate : Allocator allocate c.stock)
    (hdraw : drawItems format cup allocate c = .ok (allocations, c')) :
    Preserves c c' ∧ c'.cups = c.cups := by
  unfold drawItems at hdraw
  split at hdraw
  · cases hdraw
  rename_i rows stock hrun
  split at hdraw
  · cases hdraw
  rename_i c'' hitems
  cases hdraw
  have hwp : Prog.wp allocate _ _ c.stock := hallocate
  unfold Prog.wp at hwp
  rw [hrun] at hwp
  obtain ⟨hrows, hactive⟩ := hwp
  have hadds := adds_createCupItems (c := { c with stock := stock }) hcup hitems
  have hdrawn : Preserves c { c with stock := stock } := Draws.preserves ⟨_, hrows, hactive⟩
  refine ⟨hdrawn.trans (hadds.preserves ?_), hadds.cups⟩
  rintro l ⟨a, ha, hl⟩
  refine not_stale_of_active ?_ (hactive a ha) hl
  dsimp only
  rw [hrows]
  exact List.mem_append_right _ ha

theorem preserves_drawSelections {quantity : ℕ} {selections : List (ℕ × SelectionSource)}
    (hcup : (c.cups.get? cup).isSome) :
    Preserves c (drawSelections format cup quantity selections c) := by
  induction selections generalizing c with
  | nil => exact Preserves.refl c
  | cons selection selections ih =>
      rw [drawSelections]
      split
      · exact ih hcup
      · rename_i hdraw
        obtain ⟨hpreserves, hcups⟩ := preserves_drawItems hcup allocator_allocateSelection hdraw
        exact hpreserves.trans (ih (by rw [hcups]; exact hcup))

/-- A new cup is empty. -/
theorem preserves_createCup (c : Center) (request : QuickBuildRequest) :
    Preserves c (c.createCup request) := by
  have hother : WellKept c → ∀ x ∈ c.items.rows, x.cup ≠ c.cups.nextKey := by
    intro h x hx heq
    have hhoused := h.housed x hx
    rw [heq, Table.get?_nextKey] at hhoused
    cases hhoused
  refine ⟨fun h => ⟨fun x hx => ?_, h.items, h.links⟩, fun h hstray x l hserves => ?_⟩
  · rw [Center.createCup, Table.get?_insert, if_neg (hother h x hx)]
    exact h.housed x hx
  · have hopen := hserves.shows.accessible
    rw [Center.isAccessible, Center.createCup, Table.get?_insert,
      if_neg (hother h x hserves.item)] at hopen
    exact hstray x l ⟨hserves.item, hserves.active, hserves.link,
      ⟨hopen, hserves.shows.active, hserves.shows.text⟩⟩

theorem preserves_quickBuild {request : QuickBuildRequest}
    (hbuild : quickBuild format request c = .ok c') : Preserves c c' := by
  unfold quickBuild at hbuild
  split at hbuild
  · cases hbuild
  cases hbuild
  have hcup : ((c.createCup request).cups.get? c.cups.nextKey).isSome := by
    rw [Center.createCup, Table.get?_insert, if_pos rfl]
    rfl
  have hpanel := @adds_addPanelLinks (c.createCup request) c.cups.nextKey format
    (request.groups.filterMap id).flatten 1 hcup
  have hfilled : Preserves c _ :=
    (preserves_createCup c request).trans (hpanel.preserves fun l hl => not_stale_of_none (by rw [hl]))
  exact hfilled.trans (preserves_drawSelections (by rw [hpanel.cups]; exact hcup))

/-! ## Releases -/

theorem snd_releaseInventoryAllocation {allocation asset : Option ℕ} {s : Shop} :
    (releaseInventoryAllocation cup allocation asset s).2 =
      { s with db := (releasedAllocations s.db cup allocation asset).foldl Db.releaseOne s.db } := by
  have hloop : ∀ (rows : List ConfigAllocation) (n : ℕ) (s : Shop),
      ((Prog.forEach rows n fun a count => do
        Prog.writeDb (·.releaseOne a)
        return count + 1 : ShopM ℕ) s).2 = { s with db := rows.foldl Db.releaseOne s.db } := by
    intro rows
    induction rows with
    | nil => exact fun _ _ => rfl
    | cons a rows ih => exact fun n s => ih (n + 1) { s with db := s.db.releaseOne a }
  exact hloop _ 0 s

theorem Center.itemInventoryIdentity_named (h : WellKept c) (hx : x ∈ c.items.rows) :
    (c.itemInventoryIdentity x).Named := by
  unfold Center.itemInventoryIdentity
  split
  · exact h.items x hx
  · cases hl : c.links.get? x.configLink with
    | none => exact named_empty
    | some l => exact h.links l (Table.mem_of_get? hl).1

/-- Where rows are well kept, a removal releases one allocation at most. -/
theorem releasedFor_cases (h : WellKept c) (hx : x ∈ c.items.rows) :
    c.releasedFor x = [] ∨ ∃ r, c.releasedFor x = [r] ∧ r ∈ c.stock.db.allocations.rows ∧
      (c.itemInventoryIdentity x).allocation = some r.pk := by
  have hnamed := Center.itemInventoryIdentity_named h hx
  unfold Center.releasedFor
  generalize c.itemInventoryIdentity x = identity at *
  obtain ⟨allocation, asset⟩ := identity
  cases allocation with
  | none =>
      have hasset : asset = none := hnamed rfl
      subst hasset
      exact .inl rfl
  | some k =>
      have hrelease := toRelease_releasedAllocations c.stock.db x.cup (some k) asset
      have hkey : ∀ r ∈ releasedAllocations c.stock.db x.cup (some k) asset, r.pk = k := by
        intro r hr
        exact of_decide_eq_true (List.mem_filter.mp hr).2
      dsimp only
      cases hrows : releasedAllocations c.stock.db x.cup (some k) asset with
      | nil => exact .inl rfl
      | cons r rows =>
          rw [hrows] at hrelease hkey
          have hr := hkey r List.mem_cons_self
          cases rows with
          | nil => exact .inr ⟨r, rfl, (hrelease.active r List.mem_cons_self).1, by rw [hr]⟩
          | cons r' rows =>
              have hr' := hkey r' (List.mem_cons_of_mem r List.mem_cons_self)
              have hnodup := hrelease.nodup
              simp [hr, hr'] at hnodup

/-- A release makes stale what its asset delivers, once that is free. -/
theorem stale_releaseOne {r : ConfigAllocation} (hr : r ∈ db.allocations.rows)
    (h : Stale (db.releaseOne r) l) :
    Stale db l ∨ (∀ a ∈ activeAllocations db r.asset, a.pk = r.pk) ∧
      DeliversAsset db l r.asset := by
  obtain ⟨a', ha', hl, hreleased, hfree⟩ := h
  obtain ⟨a, ha, rfl⟩ := List.mem_map.mp ha'
  have hpk : (if a.pk = r.pk then releaseAllocation a else a).pk = a.pk := by
    split <;> rfl
  have hasset : (if a.pk = r.pk then releaseAllocation a else a).asset = a.asset := by
    split <;> rfl
  rw [hpk] at hl
  rw [hasset, activeAllocations_releaseOne, List.filter_eq_nil_iff] at hfree
  by_cases hsame : a.asset = r.asset
  · refine .inr ⟨fun b hb => ?_, ⟨a, ha, hl, hsame⟩⟩
    have hb := hfree b (hsame ▸ hb)
    simpa using hb
  · have hne : ¬ a.pk = r.pk := fun heq => hsame <| by
      rw [List.inj_on_of_nodup_map db.allocations.keys_nodup ha hr heq]
    rw [if_neg hne] at hreleased
    refine .inl ⟨a, ha, hl, hreleased, List.filter_eq_nil_iff.mpr fun b hb hactive => ?_⟩
    have hactive := of_decide_eq_true hactive
    refine hfree b (mem_activeAllocations.mpr ⟨hb, hactive⟩) (decide_eq_true fun heq => hsame ?_)
    rw [← hactive.1, List.inj_on_of_nodup_map db.allocations.keys_nodup hb hr heq]

theorem releaseForItem_eq (x : CupItem) (c : Center) :
    releaseForItem x c =
      { c with stock := { c.stock with db := (c.releasedFor x).foldl Db.releaseOne c.stock.db } } := by
  unfold releaseForItem Center.releasedFor
  dsimp only
  rw [snd_releaseInventoryAllocation]

/-- What the release for an item makes stale is delivered from an asset that it frees. -/
theorem stale_releaseForItem (h : WellKept c) (hx : x ∈ c.items.rows)
    (hstale : Stale (releaseForItem x c).stock.db l) :
    Stale c.stock.db l ∨ ∃ asset, c.Frees x asset ∧ DeliversAsset c.stock.db l asset := by
  rw [releaseForItem_eq] at hstale
  rcases releasedFor_cases h hx with hnil | ⟨r, hone, hr, -⟩
  · rw [hnil] at hstale
    exact .inl hstale
  · rw [hone] at hstale
    refine (stale_releaseOne hr hstale).imp id fun ⟨hlast, hdelivers⟩ => ?_
    refine ⟨r.asset, ⟨r, ?_, rfl, hlast⟩, hdelivers⟩
    rw [hone]
    exact List.mem_singleton_self r

/-! ## One item -/

theorem getItem_eq_some_iff :
    c.getItem cup item = some x ↔ x ∈ c.items.rows ∧ x.pk = item ∧ x.cup = cup := by
  unfold Center.getItem
  rw [Option.filter_eq_some_iff, Table.get?_eq_some_iff]
  simp [and_assoc]

/-- Serving is a matter of the item, its link and its cup. -/
theorem Center.Serves.congr (h : c'.Serves x l) (hitem : x ∈ c.items.rows)
    (hlinks : c'.links = c.links) (hcups : c'.cups = c.cups) (hnow : c'.now = c.now) :
    c.Serves x l where
  item := hitem
  active := h.active
  link := by rw [← hlinks]; exact h.link
  shows := h.shows.congr hcups hnow

theorem setCupItemActive_eq {isActive : Bool}
    (h : setCupItemActive cup item isActive c = .ok c') :
    ∃ x, c.getItem cup item = some x ∧
      c' = { c with items := c.items.modify item (setActive isActive) (setActive_pk isActive) } := by
  unfold setCupItemActive at h
  split at h
  · cases h
  · rename_i x hx
    exact ⟨x, hx, (Except.ok.inj h).symm⟩

theorem removeCupItem_eq (h : removeCupItem cup item c = .ok c') :
    ∃ x, c.getItem cup item = some x ∧
      c' = { releaseForItem x c with items := c.items.erase item } := by
  unfold removeCupItem at h
  split at h
  · cases h
  · rename_i x hx
    exact ⟨x, hx, (Except.ok.inj h).symm⟩

theorem replaceCupItemConfigLink_eq {link : ℕ}
    (h : replaceCupItemConfigLink cup item link c = .ok c') :
    ∃ x l, c.getItem cup item = some x ∧ c.links.get? link = some l ∧
      c' = { releaseForItem x c with
        items := c.items.modify item (setLink link) (setLink_pk link) } := by
  unfold replaceCupItemConfigLink at h
  split at h
  · cases h
  · cases h
  · rename_i x l hx hl
    exact ⟨x, l, hx, hl, (Except.ok.inj h).symm⟩

/-- Changed items are in the cups they were in, and name what they named. -/
theorem WellKept.modify {f : CupItem → CupItem} {stock : Shop} (h : WellKept c)
    (hf : ∀ x, (f x).pk = x.pk) (hcup : ∀ x, (f x).cup = x.cup)
    (hmetadata : ∀ x, (f x).metadata = x.metadata) :
    WellKept { c with stock := stock, items := c.items.modify item f hf } := by
  have hrow : ∀ y ∈ (c.items.modify item f hf).rows,
      ∃ x ∈ c.items.rows, y.cup = x.cup ∧ y.metadata = x.metadata := by
    intro y hy
    obtain ⟨x, hx, rfl⟩ := List.mem_map.mp hy
    refine ⟨x, hx, ?_⟩
    split
    · exact ⟨hcup x, hmetadata x⟩
    · exact ⟨rfl, rfl⟩
  refine ⟨fun y hy => ?_, fun y hy => ?_, h.links⟩
  · obtain ⟨x, hx, hsame, -⟩ := hrow y hy
    rw [hsame]
    exact h.housed x hx
  · obtain ⟨x, hx, -, hsame⟩ := hrow y hy
    rw [hsame]
    exact h.items x hx

theorem WellKept.remove (h : WellKept c) (hremove : removeCupItem cup item c = .ok c') :
    WellKept c' := by
  obtain ⟨x, -, rfl⟩ := removeCupItem_eq hremove
  have hsub : ∀ y ∈ (c.items.erase item).rows, y ∈ c.items.rows := fun y hy =>
    (List.mem_filter.mp hy).1
  exact ⟨fun y hy => h.housed y (hsub y hy), fun y hy => h.items y (hsub y hy), h.links⟩

theorem noStray_setCupItemActive {isActive : Bool}
    (hrun : setCupItemActive cup item isActive c = .ok c')
    (htidy : c.Tidy (.setItemActive cup item isActive)) (h : c.NoStrayLink) : c'.NoStrayLink := by
  obtain ⟨x, hx, rfl⟩ := setCupItemActive_eq hrun
  obtain ⟨hxmem, hxpk, hxcup⟩ := getItem_eq_some_iff.mp hx
  intro y l hserves
  obtain ⟨z, hz, hzy⟩ := List.mem_map.mp hserves.item
  by_cases hzpk : z.pk = item
  · obtain rfl : z = x :=
      List.inj_on_of_nodup_map c.items.keys_nodup hz hxmem (hzpk.trans hxpk.symm)
    rw [if_pos hzpk] at hzy
    subst hzy
    have hshows : c.Shows z.cup l := hserves.shows.congr rfl rfl
    rw [hxcup] at hshows
    exact htidy hserves.active z l hx hserves.link hshows
  · rw [if_neg hzpk] at hzy
    subst hzy
    exact h z l (hserves.congr hz rfl rfl rfl)

/-- Other items serve nothing that a release for the item puts back on sale. -/
theorem not_stale_of_other (hkept : WellKept c) (hxmem : x ∈ c.items.rows)
    (hfrees : c.FreesUnserved x) (h : c.NoStrayLink) (hserves : c.Serves y l)
    (hne : y.pk ≠ x.pk) : ¬ Stale (releaseForItem x c).stock.db l := by
  intro hstale
  rcases stale_releaseForItem hkept hxmem hstale with hstale | ⟨asset, hasset, hdelivers⟩
  · exact h y l hserves hstale
  · exact hfrees asset hasset y l hserves hne hdelivers

theorem noStray_removeCupItem (hrun : removeCupItem cup item c = .ok c') (hkept : WellKept c)
    (htidy : c.Tidy (.removeItem cup item)) (h : c.NoStrayLink) : c'.NoStrayLink := by
  obtain ⟨x, hx, rfl⟩ := removeCupItem_eq hrun
  obtain ⟨hxmem, hxpk, -⟩ := getItem_eq_some_iff.mp hx
  intro y l hserves
  obtain ⟨hy, hne⟩ := List.mem_filter.mp hserves.item
  have hne : y.pk ≠ x.pk := by
    rw [hxpk]
    exact of_decide_eq_true hne
  exact not_stale_of_other hkept hxmem (htidy x hx) h (hserves.congr hy rfl rfl rfl) hne

theorem noStray_replaceCupItemConfigLink {link : ℕ}
    (hrun : replaceCupItemConfigLink cup item link c = .ok c') (hkept : WellKept c)
    (htidy : c.Tidy (.replaceLink cup item link)) (h : c.NoStrayLink) : c'.NoStrayLink := by
  obtain ⟨x, l', hx, hl', rfl⟩ := replaceCupItemConfigLink_eq hrun
  obtain ⟨hxmem, hxpk, hxcup⟩ := getItem_eq_some_iff.mp hx
  obtain ⟨hfrees, hlink⟩ := htidy x l' hx hl'
  intro y l hserves
  obtain ⟨z, hz, hzy⟩ := List.mem_map.mp hserves.item
  by_cases hzpk : z.pk = item
  · obtain rfl : z = x :=
      List.inj_on_of_nodup_map c.items.keys_nodup hz hxmem (hzpk.trans hxpk.symm)
    rw [if_pos hzpk] at hzy
    subst hzy
    have hll' : l = l' := by
      have hget : c.links.get? link = some l := hserves.link
      exact Option.some.inj (hget.symm.trans hl')
    subst hll'
    have hshows : c.Shows z.cup l := hserves.shows.congr rfl rfl
    rw [hxcup] at hshows
    obtain ⟨hold, hnew⟩ := hlink hserves.active hshows
    intro hstale
    rcases stale_releaseForItem hkept hxmem hstale with hstale | ⟨asset, hasset, hdelivers⟩
    · exact hold hstale
    · exact hnew asset hasset hdelivers
  · rw [if_neg hzpk] at hzy
    subst hzy
    refine not_stale_of_other hkept hxmem hfrees h (hserves.congr hz rfl rfl rfl) fun heq => ?_
    exact hzpk (heq.trans hxpk)

/-! ## Runs -/

theorem preserves_orSelf {result : Except String Center}
    (h : ∀ c', result = .ok c' → Preserves c c') : Preserves c (c.orSelf result) := by
  cases result with
  | error e => exact Preserves.refl c
  | ok c' => exact h c' rfl

theorem preserves_inCup (h : (c.cups.get? cup).isSome → Preserves c c') :
    Preserves c (c.inCup cup c') := by
  unfold Center.inCup
  split
  · rename_i hcup
    exact h hcup
  · exact Preserves.refl c

theorem kept_orSelf {result : Except String Center} (hkept : WellKept c)
    (h : ∀ c', result = .ok c' → WellKept c') : WellKept (c.orSelf result) := by
  cases result with
  | error e => exact hkept
  | ok c' => exact h c' rfl

/-- An operation that takes no item away and attaches none that is there. -/
theorem preserves_addInventoryAssetsToCup {pool : ℕ} {ids : List ℕ}
    (hcup : (c.cups.get? cup).isSome) :
    Preserves c (addInventoryAssetsToCup format cup pool ids c).2 := by
  unfold addInventoryAssetsToCup
  split
  · exact Preserves.refl c
  · split
    · exact Preserves.refl c
    · rename_i hdraw
      exact (preserves_drawItems hcup allocator_allocateSelected hdraw).1

theorem adds_addExistingLinksToCup {ids : List ℕ} (hcup : (c.cups.get? cup).isSome) :
    Adds c (addExistingLinksToCup cup ids c).2 fun l =>
      l ∈ c.links.rows ∧ l.pk ∈ ids ∧ c.Shows cup l := by
  unfold addExistingLinksToCup
  dsimp only
  split
  · exact Adds.refl c _
  · refine (adds_attachLinks hcup).imp fun l ⟨⟨l', hl', hlink⟩, hshows⟩ => ?_
    obtain ⟨hl, hpk⟩ := Table.mem_of_get? hlink
    rw [List.mem_insertionSort, List.mem_filter] at hl'
    exact ⟨hl, hpk ▸ of_decide_eq_true hl'.2, hshows⟩

theorem kept_centerStep {op : CenterOp} (h : WellKept c) : WellKept (centerStep format c op) := by
  cases op with
  | addInventoryAssets cup pool assets =>
      exact (preserves_inCup preserves_addInventoryAssetsToCup).kept h
  | addExistingLinks cup links =>
      unfold centerStep Center.inCup
      dsimp only
      split
      · rename_i hcup
        exact (adds_addExistingLinksToCup hcup).kept h
      · exact h
  | quickBuild request =>
      exact (preserves_orSelf fun _ hbuild => preserves_quickBuild hbuild).kept h
  | setItemActive cup item isActive =>
      refine kept_orSelf h fun c' hrun => ?_
      obtain ⟨x, -, rfl⟩ := setCupItemActive_eq hrun
      exact h.modify (setActive_pk isActive) (fun _ => rfl) fun _ => rfl
  | replaceLink cup item link =>
      refine kept_orSelf h fun c' hrun => ?_
      obtain ⟨x, l, -, -, rfl⟩ := replaceCupItemConfigLink_eq hrun
      exact h.modify (setLink_pk link) (fun _ => rfl) fun _ => rfl
  | removeItem cup item => exact kept_orSelf h fun c' hrun => h.remove hrun
  | allocate pool quantity cup order mode => exact ⟨h.housed, h.items, h.links⟩
  | allocateSelected pool assets cup order mode => exact ⟨h.housed, h.items, h.links⟩
  | wait time => exact ⟨h.housed, h.items, h.links⟩

/-- A cup that is open later is open now. -/
theorem isAccessible_of_later {later : Instant} (hle : c.now ≤ later)
    (h : { c with now := later }.isAccessible cup = true) : c.isAccessible cup = true := by
  unfold Center.isAccessible at h ⊢
  dsimp only at h
  cases hcup : c.cups.get? cup with
  | none => simp [hcup] at h
  | some k =>
      rw [hcup, Option.any_some, SubscriptionCup.isAccessible, Bool.and_eq_true] at h
      rw [Option.any_some, SubscriptionCup.isAccessible, Bool.and_eq_true]
      refine ⟨h.1, ?_⟩
      cases hexpires : k.expiresAt with
      | none => rfl
      | some e =>
          have hlater : later < e := by simpa [hexpires] using h.2
          have hnow : c.now < e := lt_of_le_of_lt hle hlater
          simpa using hnow

theorem noStray_orSelf {result : Except String Center} (h : c.NoStrayLink)
    (hok : ∀ c', result = .ok c' → c'.NoStrayLink) : (c.orSelf result).NoStrayLink := by
  cases result with
  | error e => exact h
  | ok c' => exact hok c' rfl

/-- A tidy step serves nothing that is on sale. -/
theorem noStray_centerStep {op : CenterOp} (hkept : WellKept c) (h : c.NoStrayLink)
    (htidy : c.Tidy op) : (centerStep format c op).NoStrayLink := by
  cases op with
  | addInventoryAssets cup pool assets =>
      exact (preserves_inCup preserves_addInventoryAssetsToCup).noStray hkept h
  | addExistingLinks cup links =>
      unfold centerStep Center.inCup
      dsimp only
      split
      · rename_i hcup
        refine ((adds_addExistingLinksToCup hcup).preserves ?_).noStray hkept h
        rintro l ⟨hl, hpk, hshows⟩
        exact htidy l hl hpk hshows
      · exact h
  | quickBuild request =>
      exact (preserves_orSelf fun _ hbuild => preserves_quickBuild hbuild).noStray hkept h
  | setItemActive cup item isActive =>
      exact noStray_orSelf h fun c' hrun => noStray_setCupItemActive hrun htidy h
  | replaceLink cup item link =>
      exact noStray_orSelf h fun c' hrun => noStray_replaceCupItemConfigLink hrun hkept htidy h
  | removeItem cup item =>
      exact noStray_orSelf h fun c' hrun => noStray_removeCupItem hrun hkept htidy h
  | allocate pool quantity cup order mode =>
      exact (Draws.preserves allocator_allocate.draws).noStray hkept h
  | allocateSelected pool assets cup order mode =>
      exact (Draws.preserves allocator_allocateSelected.draws).noStray hkept h
  | wait time =>
      intro x l hserves
      refine h x l ⟨hserves.item, hserves.active, hserves.link, ?_, hserves.shows.active,
        hserves.shows.text⟩
      have hlater : c.now ≤ c.now + time := Int.le_add_of_nonneg_right (Int.natCast_nonneg time)
      exact isAccessible_of_later hlater hserves.shows.accessible

/-- Where rows are well kept, a removal releases what its item was delivered from, or nothing. -/
theorem WellKept.releasesOne (h : WellKept c) : c.ReleasesOne := by
  intro cup item x c' hx hremove a ha hactive
  obtain ⟨x', hx', rfl⟩ := removeCupItem_eq hremove
  obtain rfl : x' = x := Option.some.inj (hx'.symm.trans hx)
  obtain ⟨hxmem, -, -⟩ := getItem_eq_some_iff.mp hx
  rw [releaseForItem_eq]
  rcases releasedFor_cases h hxmem with hnil | ⟨r, hone, hr, hidentity⟩
  · rw [hnil]
    exact .inl ha
  · by_cases hpk : a.pk = r.pk
    · right
      rw [hpk, Center.deliveredFrom]
      unfold Center.itemInventoryIdentity at hidentity
      split at hidentity
      · rw [hidentity]
        rfl
      · rename_i hplain
        have hplain : x'.metadata = {} := not_not.mp hplain
        rw [hplain]
        cases hl : c.links.get? x'.configLink with
        | none => simp [hl] at hidentity
        | some l => simpa [hl] using hidentity
    · left
      rw [hone]
      refine List.mem_map.mpr ⟨a, ha, ?_⟩
      rw [if_neg hpk]

/-- Nothing that is on sale is served after a tidy run, and a removal after any run releases
one allocation at most, the one its item was delivered from. -/
theorem noStrayLink_of_tidy_run (hkept : WellKept c) (h : c.NoStrayLink) :
    (∀ ops, Guarded (centerStep format) Center.Tidy c ops →
      (run (centerStep format) c ops).NoStrayLink) ∧
    ∀ ops, (run (centerStep format) c ops).ReleasesOne := by
  constructor
  · intro ops hops
    have hinvariant := @Guarded.invariant _ _ (centerStep format) Center.Tidy
      (fun c => WellKept c ∧ c.NoStrayLink)
      (fun _ _ hc htidy => ⟨kept_centerStep hc.1, noStray_centerStep hc.1 hc.2 htidy⟩) c ops hops
    exact (hinvariant ⟨hkept, h⟩).2
  · intro ops
    have hrun : WellKept (run (centerStep format) c ops) :=
      run_invariant (fun _ _ hc => kept_centerStep hc) ops hkept
    exact hrun.releasesOne

/-- Any link will do. -/
def anyLink : LinkFormat where
  check _ := .ok ()
  normalizedHash raw := raw

/-- Two empty cups, and a pool of two assets, each for one customer. -/
def twoCups : Center where
  stock := sampleStock .exclusive
  now := 0
  cups := (Table.empty.put { pk := 1 }).put { pk := 2 }

theorem wellKept_twoCups : WellKept twoCups where
  housed x hx := by cases hx
  items x hx := by cases hx
  links l hl := by cases hl

theorem noStrayLink_twoCups : twoCups.NoStrayLink := by
  intro x l hserves
  cases hserves.item

/-- An asset is added to a cup and taken out again, with nobody else to serve it. -/
theorem noStrayLink_of_asset_removed :
    (run (centerStep anyLink) twoCups
      [.addInventoryAssets 1 1 [11], .removeItem 1 0]).NoStrayLink := by
  refine (noStrayLink_of_tidy_run wellKept_twoCups noStrayLink_twoCups).1 _
    ⟨trivial, fun x hx => ?_, trivial⟩
  intro asset _ y l hserves hne
  have hall : ∀ y ∈ (centerStep anyLink twoCups (.addInventoryAssets 1 1 [11])).items.rows,
      y.pk = 0 := by decide +kernel
  exact absurd ((hall y hserves.item).trans (hall x (getItem_eq_some_iff.mp hx).1).symm) hne

/-- The link of an asset is put into a second cup, and its item taken out of the first: the
asset is on sale again, and the second cup goes on serving it. -/
theorem strayLink_of_shared_link :
    WellKept twoCups ∧ twoCups.NoStrayLink ∧
      ¬ (run (centerStep anyLink) twoCups
        [.addInventoryAssets 1 1 [11], .addExistingLinks 2 [0], .removeItem 1 0]).NoStrayLink := by
  refine ⟨wellKept_twoCups, noStrayLink_twoCups, fun h => ?_⟩
  refine h { pk := 1, cup := 2, configLink := 0, position := 1 }
    { pk := 0, rawLink := "vless://a", normalizedHash := "vless://a"
      metadata := { allocation := some 0, asset := some 11 } } ?_ ?_
  · exact ⟨by decide +kernel, rfl, by decide +kernel, by decide +kernel, rfl, by decide +kernel⟩
  · decide +kernel

end Qasedak.CupCenter
