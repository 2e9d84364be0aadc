import Qasedak.Subscriptions.Rebuild

/-! A second rebuild takes over the items of the first, one by one, and writes the links as they
are: it changes no row, unless an item that the first one left over shows one of the links. -/

namespace Qasedak.Subscriptions

open Foundation Store

variable {cup position : ℕ} {content content' : LinkContent} {contents : List LinkContent}
  {reusable : Reusable} {db db' : CupDb} {placed : List CupItem} {raws : List String}

/-! ## The last content of a link -/

/-- Every field of a link is written but its feed. -/
structure LinkContent.Overwrites (content : LinkContent) : Prop where
  sourceType : content.sourceType.isSome
  metadata : content.metadata.isSome
  externalFeed : content.externalFeed = none

theorem LinkContent.Overwrites.absorb (h : content.Overwrites) (h' : content'.Overwrites)
    (l : ConfigLink) :
    applyConfigLinkParse content (applyConfigLinkParse content' l) =
      applyConfigLinkParse content l := by
  obtain ⟨s, hs⟩ := Option.isSome_iff_exists.mp h.sourceType
  obtain ⟨m, hm⟩ := Option.isSome_iff_exists.mp h.metadata
  simp [applyConfigLinkParse, hs, hm, h.externalFeed, h'.externalFeed]

/-- The content that is written last into a link. -/
def lastContent : List (CupItem × LinkContent) → ℕ → Option LinkContent
  | [], _ => none
  | (x, content) :: written, k =>
      match lastContent written k with
      | some last => some last
      | none => if x.configLink = k then some content else none

theorem lastContent_cons_of_none {x : CupItem} {written : List (CupItem × LinkContent)} {k : ℕ}
    (h : lastContent written k = none) :
    lastContent ((x, content) :: written) k = if x.configLink = k then some content else none := by
  rw [lastContent, h]

theorem lastContent_cons_of_some {x : CupItem} {written : List (CupItem × LinkContent)} {k : ℕ}
    (h : lastContent written k = some content') :
    lastContent ((x, content) :: written) k = some content' := by
  rw [lastContent, h]

theorem not_mem_of_lastContent {k : ℕ} (hlength : placed.length = contents.length)
    (h : lastContent (placed.zip contents) k = none) : k ∉ placed.map (·.configLink) := by
  induction placed generalizing contents with
  | nil => simp
  | cons x placed ih =>
      cases contents with
      | nil => cases hlength
      | cons content contents =>
          rw [List.zip_cons_cons] at h
          cases hrest : lastContent (placed.zip contents) k with
          | some last =>
              rw [lastContent_cons_of_some hrest] at h
              cases h
          | none =>
              rw [lastContent_cons_of_none hrest] at h
              rw [List.map_cons, List.mem_cons, not_or]
              refine ⟨fun hk => ?_, ih (Nat.succ.inj hlength) hrest⟩
              rw [if_pos hk.symm] at h
              cases h

theorem mem_of_lastContent {written : List (CupItem × LinkContent)} {k : ℕ}
    (h : lastContent written k = some content) : ∃ x, (x, content) ∈ written := by
  induction written with
  | nil => cases h
  | cons pair written ih =>
      obtain ⟨x, c⟩ := pair
      cases hrest : lastContent written k with
      | some last =>
          rw [lastContent_cons_of_some hrest] at h
          obtain ⟨y, hy⟩ := ih (h ▸ hrest)
          exact ⟨y, List.mem_cons_of_mem _ hy⟩
      | none =>
          rw [lastContent_cons_of_none hrest] at h
          split at h
          · cases h
            exact ⟨x, List.mem_cons_self⟩
          · cases h

theorem exists_writtenLink {old : Option CupItem} :
    ∃ l, db.writtenLink content old = applyConfigLinkParse content l := by
  cases old <;> exact ⟨_, rfl⟩

/-- A link of the list is left with the content that was written last. -/
theorem refill_lastContent (hreusable : Reusables db cup reusable) {k : ℕ}
    (h : lastContent ((refill cup position contents reusable db).2.zip contents) k = some content) :
    ∃ l, (refill cup position contents reusable db).1.links.get? k =
      some (applyConfigLinkParse content l) := by
  induction contents generalizing position reusable db with
  | nil => cases h
  | cons head contents ih =>
      have htaken := @Reusables.taken _ _ _ head.rawLink hreusable
      have hplaced : Reusables (db.placeLink cup position head (takeItem head.rawLink reusable).1)
          cup (takeItem head.rawLink reusable).2 := hreusable.place
      have hrest := refilled cup (position + 1) contents _ _ hplaced
      change lastContent ((db.placedRow cup position (takeItem head.rawLink reusable).1, head) ::
        (refill cup (position + 1) contents (takeItem head.rawLink reusable).2
          (db.placeLink cup position head (takeItem head.rawLink reusable).1)).2.zip contents) k =
          some content at h
      change ∃ l, (refill cup (position + 1) contents (takeItem head.rawLink reusable).2
          (db.placeLink cup position head (takeItem head.rawLink reusable).1)).1.links.get? k = _
      cases hlast : lastContent ((refill cup (position + 1) contents
          (takeItem head.rawLink reusable).2 (db.placeLink cup position head
            (takeItem head.rawLink reusable).1)).2.zip contents) k with
      | some last =>
          rw [lastContent_cons_of_some hlast] at h
          exact ih hplaced (h ▸ hlast)
      | none =>
          rw [lastContent_cons_of_none hlast] at h
          split at h
          · next hk =>
              cases h
              rw [hrest.links _ (not_mem_of_lastContent hrest.length_eq hlast),
                CupDb.get?_links_placeLink fun x hx => (htaken x hx).2.2, if_pos hk.symm]
              obtain ⟨l, hl⟩ := @exists_writtenLink content db ((takeItem content.rawLink reusable).1)
              exact ⟨l, congrArg some hl⟩
          · cases h

/-! ## Items taken over in turn -/

/-- Among the reusable items that show a link of the list are just those to be taken over. -/
theorem matchItems_of_filter (all : List String) (hraws : raws ⊆ all)
    (hlength : placed.length = raws.length)
    (h : (reusable.filter fun y => y.2 ∈ all) = placed.zip raws) :
    matchItems raws reusable = placed.map some := by
  induction raws generalizing reusable placed with
  | nil =>
      obtain rfl : placed = [] := List.length_eq_zero_iff.mp hlength
      rfl
  | cons raw raws ih =>
      cases placed with
      | nil => cases hlength
      | cons x placed =>
          have hraw : raw ∈ all := hraws List.mem_cons_self
          have hfind : reusable.find? (·.2 = raw) = some (x, raw) := by
            have hsame : reusable.find? (·.2 = raw) =
                (reusable.filter fun y => y.2 ∈ all).find? (·.2 = raw) := by
              rw [List.find?_filter]
              congr 1
              funext y
              by_cases hy : y.2 = raw <;> simp [hy, hraw]
            rw [hsame, h, List.zip_cons_cons, List.find?_cons_of_pos (by simp)]
          have herase : ((reusable.eraseP (·.2 = raw)).filter fun y => y.2 ∈ all) =
              placed.zip raws := by
            have hsame : (reusable.filter fun y => y.2 ∈ all).eraseP (·.2 = raw) =
                (reusable.eraseP (·.2 = raw)).filter fun y => y.2 ∈ all := by
              rw [List.eraseP_filter]
              congr 2
              funext y
              by_cases hy : y.2 = raw <;> simp [hy, hraw]
            rw [← hsame, h, List.zip_cons_cons, List.eraseP_cons_of_pos (by simp)]
          unfold matchItems takeItem
          rw [hfind, List.map_cons]
          congr 1
          exact ih (fun _ hr => hraws (List.mem_cons_of_mem _ hr)) (Nat.succ.inj hlength) herase

/-- Items that are taken over where they stand are left as they are, and their links get the
content that is written last. -/
theorem refill_of_placed (hmatch : matchItems (contents.map (·.rawLink)) reusable = placed.map some)
    (hpositions : placed.map (·.position) = List.range' position contents.length)
    (hrows : ∀ x ∈ placed, db.items.get? x.pk = some x ∧ x.isActive = true)
    (hoverwrites : ∀ content ∈ contents, content.Overwrites) :
    ∃ links : ConfigLinks,
      refill cup position contents reusable db = ({ db with links := links }, placed) ∧
      links.rows.map (·.pk) = db.links.rows.map (·.pk) ∧
      ∀ k, links.get? k = match lastContent (placed.zip contents) k with
        | some last => (db.links.get? k).map (applyConfigLinkParse last)
        | none => db.links.get? k := by
  induction contents generalizing position reusable db placed with
  | nil =>
      obtain rfl : placed = [] := List.map_eq_nil_iff.mp hmatch.symm
      exact ⟨db.links, rfl, rfl, fun _ => rfl⟩
  | cons content contents ih =>
      cases placed with
      | nil => cases hmatch
      | cons x placed =>
          rw [List.map_cons, matchItems, List.map_cons] at hmatch
          obtain ⟨htaken, hrest⟩ := List.cons.inj hmatch
          rw [List.map_cons, List.length_cons, List.range'_succ] at hpositions
          obtain ⟨hposition, hpositions⟩ := List.cons.inj hpositions
          obtain ⟨hrow, hactive⟩ := hrows x List.mem_cons_self
          have hself : CupDb.placedItem position x = x := by
            unfold CupDb.placedItem
            rw [← hposition, ← hactive]
          have hplace : db.placeLink cup position content (some x) =
              { db with
                links := db.links.modify x.configLink (applyConfigLinkParse content)
                  (applyConfigLinkParse_pk content) } := by
            have hitems := Table.modify_eq_self (CupDb.placedItem_pk position) hrow hself
            exact congrArg (fun items => ({ db with
              items := items
              links := db.links.modify x.configLink (applyConfigLinkParse content)
                (applyConfigLinkParse_pk content) } : CupDb)) hitems
          obtain ⟨links, hrefill, hkeys, hget⟩ := @ih (position + 1) _
            (db.placeLink cup position content (some x)) _ hrest hpositions
            (fun y hy => by
              rw [hplace]
              exact hrows y (List.mem_cons_of_mem _ hy))
            fun c hc => hoverwrites c (List.mem_cons_of_mem _ hc)
          refine ⟨links, ?_, ?_, fun k => ?_⟩
          · unfold refill
            simp only [htaken, hrefill]
            rw [hplace]
            exact congrArg (fun y => ({ db with links := links }, y :: placed)) hself
          · rw [hkeys, hplace]
            exact Table.map_key_modify _ _ _ (applyConfigLinkParse_pk content)
          · rw [hget, List.zip_cons_cons, hplace]
            change (match lastContent (placed.zip contents) k with
              | some last => ((db.links.modify x.configLink (applyConfigLinkParse content)
                  (applyConfigLinkParse_pk content)).get? k).map (applyConfigLinkParse last)
              | none => (db.links.modify x.configLink (applyConfigLinkParse content)
                  (applyConfigLinkParse_pk content)).get? k) = _
            rw [Table.get?_modify]
            cases hlast : lastContent (placed.zip contents) k with
            | some last =>
                rw [lastContent_cons_of_some hlast]
                obtain ⟨y, hy⟩ := mem_of_lastContent hlast
                have hover := hoverwrites last (List.mem_cons_of_mem _ (List.of_mem_zip hy).2)
                have habsorb := hover.absorb (hoverwrites content List.mem_cons_self)
                dsimp only
                rw [Option.map_map]
                congr 1
                funext l
                rw [Function.comp_apply]
                split
                · exact habsorb l
                · rfl
            | none =>
                rw [lastContent_cons_of_none hlast]
                by_cases hk : x.configLink = k
                · simp [hk]
                · simp [hk, Ne.symm hk]

/-! ## The second rebuild -/

variable {vpnClient : Option ℕ} {entries : List CupEntry} {x : CupItem}

theorem overwrites_content {e : CupEntry} : (e.content vpnClient).Overwrites := ⟨rfl, rfl, rfl⟩

/-- No item that is left over shows a link of the entries. -/
def CupDb.LeavesNone (db : CupDb) (cup : ℕ) (entries : List CupEntry) : Prop :=
  ∀ x ∈ db.unmanagedItems cup, x.isActive = false → db.rawLink x ∉ entries.map (·.rawLink)

instance (db : CupDb) (cup : ℕ) (entries : List CupEntry) : Decidable (db.LeavesNone cup entries) :=
  inferInstanceAs (Decidable (∀ _ ∈ _, _ → _))

/-- The items of the first rebuild are the ones that show a link of the entries. -/
theorem filter_unmanagedItems (hlinked : db.Linked)
    (hstripped : ∀ e ∈ entries, strip e.rawLink = e.rawLink)
    (hleft : (db.rebuildItems cup vpnClient entries).LeavesNone cup entries) :
    ((db.rebuildItems cup vpnClient entries).unmanagedItems cup).filter
        (fun x => (db.rebuildItems cup vpnClient entries).rawLink x ∈ entries.map (·.rawLink)) =
      (db.refillUnmanaged cup vpnClient entries).2 := by
  have hactive := @activeUnmanaged_rebuildItems _ cup vpnClient entries hlinked
  rw [← hactive]
  unfold CupDb.activeUnmanaged
  refine List.filter_congr fun x hx => ?_
  cases hflag : x.isActive with
  | false => simpa using hleft x hx hflag
  | true =>
      have hplaced : x ∈ (db.refillUnmanaged cup vpnClient entries).2 := by
        rw [← hactive]
        exact List.mem_filter.mpr ⟨hx, hflag⟩
      have hraws := @rawLinks_refillUnmanaged _ cup vpnClient entries hlinked
      have hmem := List.mem_map_of_mem (f := (db.rebuildItems cup vpnClient entries).rawLink)
        hplaced
      rw [hraws] at hmem
      obtain ⟨e, he, heq⟩ := List.mem_map.mp hmem
      refine decide_eq_true ?_
      rw [← heq, hstripped e he]
      exact List.mem_map_of_mem he

theorem rebuildItems_again (hlinked : db.Linked)
    (hstripped : ∀ e ∈ entries, strip e.rawLink = e.rawLink)
    (hleft : (db.rebuildItems cup vpnClient entries).LeavesNone cup entries) :
    (db.rebuildItems cup vpnClient entries).rebuildItems cup vpnClient entries =
      db.rebuildItems cup vpnClient entries := by
  have hplaced := @refilled_refillUnmanaged _ cup vpnClient entries hlinked
  have hraws := @rawLinks_refillUnmanaged _ cup vpnClient entries hlinked
  have hstripped' : (entries.map fun e => strip e.rawLink) = entries.map (·.rawLink) :=
    List.map_congr_left hstripped
  rw [hstripped'] at hraws
  have hcontents : (entries.map (·.content vpnClient)).map (·.rawLink) =
      entries.map (·.rawLink) := by
    rw [List.map_map]
    rfl
  have hactive := @activeUnmanaged_rebuildItems _ cup vpnClient entries hlinked
  set again := db.rebuildItems cup vpnClient entries with hagain
  set placed := (db.refillUnmanaged cup vpnClient entries).2 with hplacedDef
  have hmatch : matchItems ((entries.map (·.content vpnClient)).map (·.rawLink))
      ((again.unmanagedItems cup).map fun x => (x, again.rawLink x)) = placed.map some := by
    rw [hcontents]
    refine matchItems_of_filter (entries.map (·.rawLink)) (fun _ h => h) ?_ ?_
    · rw [hplaced.length_eq, List.length_map, List.length_map]
    · rw [List.filter_map]
      have hfilter := @filter_unmanagedItems cup _ vpnClient _ hlinked hstripped
        hleft
      have hcomp : ((fun y : CupItem × String => decide (y.2 ∈ entries.map (·.rawLink))) ∘
          fun x => (x, again.rawLink x)) =
          fun x => decide (again.rawLink x ∈ entries.map (·.rawLink)) := rfl
      rw [hcomp, hfilter, ← hraws]
      exact List.map_prod_left_eq_zip
  obtain ⟨links, hrefill, hkeys, hget⟩ := @refill_of_placed cup 1 _ _ again _ hmatch hplaced.positions
    (fun x hx => ⟨get?_of_written hlinked hx, (hplaced.rows x hx).2⟩)
    (fun c hc => by
      obtain ⟨e, -, rfl⟩ := List.mem_map.mp hc
      exact overwrites_content)
  have hlinks : links = again.links := by
    refine Table.ext_get? hkeys fun k => ?_
    rw [hget]
    cases hlast : lastContent (placed.zip (entries.map (·.content vpnClient))) k with
    | none => rfl
    | some last =>
        obtain ⟨l, hl⟩ := refill_lastContent (reusables_unmanagedItems hlinked) hlast
        have hlink : again.links.get? k = some (applyConfigLinkParse last l) := hl
        obtain ⟨y, hy⟩ := mem_of_lastContent hlast
        obtain ⟨e, -, rfl⟩ := List.mem_map.mp (List.of_mem_zip hy).2
        rw [hlink]
        exact congrArg some (overwrites_content.absorb overwrites_content l)
  have hfilled : again.refillUnmanaged cup vpnClient entries = (again, placed) := by
    unfold CupDb.refillUnmanaged
    rw [hrefill, hlinks]
  have hretire : ∀ x ∈ again.items.rows,
      retireItem placed (fun x => (again.feedOf x).isSome) cup x = x := by
    intro x hx
    unfold retireItem
    split
    · next h =>
        have hfeed : again.feedOf x = none := by simpa using h.2.1
        have hinactive : x.isActive = false := by
          by_contra hflag
          refine h.2.2 (List.mem_map_of_mem ?_)
          rw [← hactive]
          exact List.mem_filter.mpr
            ⟨mem_unmanagedItems.mpr ⟨hx, h.1, hfeed⟩, by simpa using hflag⟩
        rw [← hinactive]
    · rfl
  have hitems : again.items.map (retireItem placed (fun x => (again.feedOf x).isSome) cup)
      (retireItem_pk _ _ _) = again.items := by
    refine Table.ext_rows ?_
    change again.items.rows.map _ = again.items.rows
    rw [List.map_congr_left hretire, List.map_id']
  change ({ (again.refillUnmanaged cup vpnClient entries).1 with
    items := (again.refillUnmanaged cup vpnClient entries).1.items.map
      (retireItem (again.refillUnmanaged cup vpnClient entries).2
        (fun x => ((again.refillUnmanaged cup vpnClient entries).1.feedOf x).isSome) cup)
      (retireItem_pk _ _ _) } : CupDb) = again
  rw [hfilled]
  exact congrArg (fun items => { again with items := items }) hitems

/-! ## The whole of it -/

variable {env : SyncEnv} {row : SubscriptionCup} {order : Option ℕ} {forceActive : Bool}
  {token : String}

/-- The feed that a link is under. -/
def CupDb.feedOfLink (db : CupDb) (k : ℕ) : Option ℕ := (db.links.get? k).bind (·.externalFeed)

theorem feedOfLink_adopt {g : AdoptionGroup} (hnonempty : g.items ≠ [])
    (hfree : ∀ x ∈ g.items, ∃ l, db.links.get? x.configLink = some l ∧ l.externalFeed = none)
    (feed : ℕ) : ∃ k, db.feedOfLink k = none ∧ (db.adopt g feed).feedOfLink k = some feed := by
  obtain ⟨x, hx⟩ := List.exists_mem_of_ne_nil _ hnonempty
  obtain ⟨l, hl, hnone⟩ := hfree x hx
  have hget : (db.adopt g feed).links.get? x.configLink =
      (db.links.get? x.configLink).map (adoptLink g feed) :=
    Table.get?_map _ _ (adoptLink_pk g feed) _
  have hkey : l.pk ∈ g.items.map (·.configLink) :=
    List.mem_map.mpr ⟨x, hx, (Table.mem_of_get? hl).2.symm⟩
  refine ⟨x.configLink, ?_, ?_⟩
  · rw [CupDb.feedOfLink, hl, Option.bind_some, hnone]
  · rw [CupDb.feedOfLink, hget, hl, Option.map_some, Option.bind_some, adoptLink,
      if_pos ⟨hkey, hnone⟩]

/-- A link that is under a feed stays there. -/
theorem Adopts.feedOfLink {groups : List AdoptionGroup} (h : Adopts row groups db db') {k feed : ℕ}
    (hk : db.feedOfLink k = some feed) : db'.feedOfLink k = some feed := by
  unfold CupDb.feedOfLink at hk ⊢
  obtain ⟨l, hl, hfeed⟩ := Option.bind_eq_some_iff.mp hk
  obtain ⟨l', hl', rfl | ⟨hnone, -⟩⟩ := h.links k l hl
  · rw [hl', Option.bind_some, hfeed]
  · rw [hnone] at hfeed
    cases hfeed

/-- An adoption that puts no link under a feed changes nothing. -/
theorem foldl_eq_of_unadopted {groups : List AdoptionGroup} {report : AdoptionReport}
    (hgroups : ∀ g ∈ groups, g.items ≠ [] ∧
      ∀ x ∈ g.items, ∃ l, db.links.get? x.configLink = some l ∧ l.externalFeed = none)
    (hsame : ∀ k, (groups.foldl (fun state g => adoptGroup env row g state)
      (db, report)).1.feedOfLink k = db.feedOfLink k) :
    (groups.foldl (fun state g => adoptGroup env row g state) (db, report)).1 = db := by
  induction groups generalizing report with
  | nil => rfl
  | cons g groups ih =>
      rw [List.foldl_cons] at hsame ⊢
      obtain ⟨hnonempty, hfree⟩ := hgroups g List.mem_cons_self
      have hrest := fun g' hg' => hgroups g' (List.mem_cons_of_mem _ hg')
      have hcontra : ∀ db₁ feed report', db₁.links = db.links →
          adoptGroup env row g (db, report) = (CupDb.adopt db₁ g feed, report') → False := by
        intro db₁ feed report' hlinks hstep
        rw [hstep] at hsame
        obtain ⟨k, hnone, hsome⟩ := @feedOfLink_adopt db₁ _ hnonempty (hlinks ▸ hfree) feed
        have hafter := (adopts_foldl env row groups (CupDb.adopt db₁ g feed) report').1.feedOfLink
          hsome
        rw [hsame] at hafter
        unfold CupDb.feedOfLink at hnone hafter
        rw [hlinks, hafter] at hnone
        cases hnone
      cases hfeed : db.feedFor row.pk g.panel g.client with
      | some f =>
          cases hdisabled : f.isDisabled with
          | true =>
              rw [adoptGroup_of_disabled hfeed hdisabled] at hsame ⊢
              exact ih hrest hsame
          | false => exact (hcontra db f.pk _ rfl (adoptGroup_of_enabled hfeed hdisabled)).elim
      | none => exact (hcontra (db.withFeed env row g) _ _ rfl (adoptGroup_of_none hfeed)).elim

theorem ensure_eq_of_unadopted {clock : Instant} {report : AdoptionReport}
    (h : ensurePasarguardFeedsForCup env cup clock db = some (db', report))
    (hsame : ∀ k, db'.feedOfLink k = db.feedOfLink k) : db' = db := by
  unfold ensurePasarguardFeedsForCup at h
  obtain ⟨row, -, h⟩ := Option.map_eq_some_iff.mp h
  split at h
  · have hgrouped := grouped_groupItems env db row (db.adoptableItems cup)
    have hdb : db' = _ := (congrArg Prod.fst h).symm
    rw [hdb] at hsame ⊢
    refine foldl_eq_of_unadopted (fun g hg => ⟨hgrouped.nonempty g hg, fun x hx => ?_⟩) hsame
    have hadoptable := (hgrouped.sound g hg x hx).1
    unfold CupDb.adoptableItems at hadoptable
    have hfree := (List.mem_filter.mp hadoptable).2
    cases hl : db.links.get? x.configLink with
    | none =>
        rw [hl] at hfree
        cases hfree
    | some l =>
        rw [hl, Option.any_some, Bool.and_eq_true, decide_eq_true_iff] at hfree
        exact ⟨l, rfl, hfree.1⟩
  · cases h
    rfl

theorem withCup_rest (db : CupDb) (order vpnClient : Option ℕ) (forceActive : Bool)
    (token : String) :
    ∃ cups, (db.withCup order vpnClient forceActive token).2 = { db with cups := cups } := by
  unfold CupDb.withCup
  cases db.cupForTarget order vpnClient <;> exact ⟨_, rfl⟩

/-- The cup of a target is found again as it is. -/
theorem cupForTarget_withCup (db : CupDb) (order vpnClient : Option ℕ) (forceActive : Bool)
    (token : String) :
    ∃ c, (db.withCup order vpnClient forceActive token).2.cupForTarget order vpnClient = some c ∧
      c.pk = (db.withCup order vpnClient forceActive token).1 ∧
      db.updatedCup order vpnClient forceActive c = c := by
  have hupdated : ∀ c : SubscriptionCup, CupDb.isCupFor order vpnClient
      (db.updatedCup order vpnClient forceActive c) = true := by
    intro c
    cases vpnClient <;> simp [CupDb.isCupFor, CupDb.updatedCup]
  have hagain : ∀ c : SubscriptionCup, db.updatedCup order vpnClient forceActive
      (db.updatedCup order vpnClient forceActive c) = db.updatedCup order vpnClient forceActive c := by
    intro c
    cases forceActive <;> rfl
  have hnone : ∀ c ∈ db.cups.rows, db.cupForTarget order vpnClient = none →
      CupDb.isCupFor order vpnClient c = false := by
    intro c hc hcup
    rw [CupDb.cupForTarget, List.argmin_eq_none, List.filter_eq_nil_iff] at hcup
    simpa using hcup c hc
  unfold CupDb.withCup
  cases hcup : db.cupForTarget order vpnClient with
  | some c =>
      refine ⟨db.updatedCup order vpnClient forceActive c, ?_, rfl, hagain c⟩
      rw [CupDb.cupForTarget, Table.argmin_filter_eq_some_iff] at hcup ⊢
      obtain ⟨⟨hrow, -⟩, hmin⟩ := hcup
      refine ⟨⟨List.mem_map.mpr ⟨c, hrow, if_pos rfl⟩, hupdated c⟩, fun c' hc' hfor => ?_⟩
      obtain ⟨r, hr, rfl⟩ := List.mem_map.mp hc'
      by_cases hpk : r.pk = c.pk
      · rw [if_pos hpk]
        exact hpk.ge
      · rw [if_neg hpk] at hfor ⊢
        exact hmin r hr hfor
  | none =>
      refine ⟨db.newCup order vpnClient forceActive token, ?_, rfl, hagain _⟩
      have hrows : ∀ c' ∈ db.cups.rows ++ [db.newCup order vpnClient forceActive token],
          CupDb.isCupFor order vpnClient c' = true →
            c' = db.newCup order vpnClient forceActive token := by
        intro c' hc' hfor
        rcases List.mem_append.mp hc' with hold | hnew
        · rw [hnone c' hold hcup] at hfor
          cases hfor
        · exact List.mem_singleton.mp hnew
      rw [CupDb.cupForTarget, Table.argmin_filter_eq_some_iff]
      refine ⟨⟨List.mem_append_right _ (List.mem_singleton_self _), hupdated _⟩,
        fun c' hc' hfor => ?_⟩
      rw [hrows c' hc' hfor]

/-- What a rebuild leaves: what was under a feed is as it was, and the cup has items for the
entries, one each and in order, of which those that were adopted are under its feeds. -/
structure Rebuilt (db db' : CupDb) (cup : ℕ) (written : List CupEntry) : Prop where
  managed : ∀ x ∈ db.items.rows, db.feedOf x ≠ none →
    db'.items.get? x.pk = some x ∧ db'.links.get? x.configLink = db.links.get? x.configLink
  shown : ∃ placed : List CupItem, placed.map db'.rawLink = written.map (fun e => strip e.rawLink) ∧
    placed.map (·.position) = List.range' 1 written.length ∧
    (∀ x ∈ placed, x ∈ db'.items.rows ∧ x.cup = cup ∧ x.isActive = true ∧
      ∀ k ∈ db'.feedOf x, ∃ f ∈ db'.feeds.rows, f.pk = k ∧ f.cup = cup) ∧
    db'.activeUnmanaged cup = placed.filter fun x => db'.feedOf x = none

theorem nodup_activeUnmanaged_pk (db : CupDb) (cup : ℕ) :
    ((db.activeUnmanaged cup).map (·.pk)).Nodup :=
  (List.filter_sublist.map _).nodup
    (nodup_listed_pk ((List.filter_sublist.map _).nodup db.items.keys_nodup))

/-- An adoption after the entries were written. -/
theorem Adopts.rebuilt {groups : List AdoptionGroup} (hlinked : db.Linked)
    (h : Adopts row groups (db.rebuildItems row.pk vpnClient entries) db') :
    Rebuilt db db' row.pk entries := by
  have hplaced := @refilled_refillUnmanaged _ row.pk vpnClient entries hlinked
  have hactive := @activeUnmanaged_rebuildItems _ row.pk vpnClient entries hlinked
  have hraws := @rawLinks_refillUnmanaged _ row.pk vpnClient entries hlinked
  have hwritten : ∀ x ∈ (db.refillUnmanaged row.pk vpnClient entries).2,
      x ∈ (db.rebuildItems row.pk vpnClient entries).items.rows :=
    fun x hx => (Table.mem_of_get? (get?_of_written hlinked hx)).1
  have hmanaged : ∀ x ∈ db.items.rows, db.feedOf x ≠ none → _ :=
    fun x hx hfeed => @managed_rebuildItems _ row.pk vpnClient entries _ hlinked hx hfeed
  have hunmanaged := @feedOf_rebuildItems _ row.pk vpnClient entries hlinked
  set rebuilt := db.rebuildItems row.pk vpnClient entries
  have hitems : db'.items = rebuilt.items := by
    obtain ⟨links, feeds, rfl⟩ := h.rest
    rfl
  have hraw : ∀ x, db'.rawLink x = rebuilt.rawLink x := by
    intro x
    unfold CupDb.rawLink
    cases hl : rebuilt.links.get? x.configLink with
    | none => rw [h.noLink _ hl]
    | some l =>
        obtain ⟨l', hl', hcase⟩ := h.links _ l hl
        rw [hl']
        rcases hcase with rfl | ⟨-, g, -, -, f, -, -, -, -, rfl⟩ <;> rfl
  have hnone : ∀ x, db'.feedOf x = none → rebuilt.feedOf x = none := by
    intro x hx
    by_contra hne
    obtain ⟨k, hk⟩ := Option.ne_none_iff_exists'.mp hne
    have hafter : db'.feedOf x = some k := h.feedOfLink (k := x.configLink) hk
    rw [hx] at hafter
    cases hafter
  refine ⟨fun x hx hfeed => ?_, (db.refillUnmanaged row.pk vpnClient entries).2, ?_,
    hplaced.positions.trans (by rw [List.length_map]), fun x hx => ?_, ?_⟩
  · obtain ⟨hrow, hlink⟩ := hmanaged x hx hfeed
    refine ⟨hitems ▸ hrow, ?_⟩
    cases hl : db.links.get? x.configLink with
    | none =>
        rw [hl] at hlink
        exact h.noLink _ hlink
    | some l =>
        obtain ⟨l', hl', rfl | ⟨hfree, -⟩⟩ := h.links _ l (hlink.trans hl)
        · exact hl'
        · unfold CupDb.feedOf at hfeed
          rw [hl, Option.bind_some, hfree] at hfeed
          exact absurd rfl hfeed
  · rw [List.map_congr_left fun x _ => hraw x]
    exact hraws
  · obtain ⟨hcup, hflag⟩ := hplaced.rows x hx
    refine ⟨hitems ▸ hwritten x hx, hcup, hflag, fun k hk => ?_⟩
    obtain ⟨l', hl', hfeed⟩ := exists_link_of_feedOf hk
    cases hl : rebuilt.links.get? x.configLink with
    | none =>
        rw [h.noLink _ hl] at hl'
        cases hl'
    | some l =>
        obtain ⟨l₁, hl₁, hcase⟩ := h.links _ l hl
        rw [hl'] at hl₁
        cases hl₁
        rcases hcase with rfl | ⟨-, g, -, -, f, hf, hfcup, -, -, rfl⟩
        · have hbefore : rebuilt.feedOf x = none := by
            rw [hunmanaged x]
            exact feedOf_refillUnmanaged hlinked hx
          unfold CupDb.feedOf at hbefore
          rw [hl, Option.bind_some, hfeed] at hbefore
          cases hbefore
        · exact ⟨f, hf, Option.some.inj hfeed, hfcup⟩
  · rw [← hactive]
    refine eq_of_mem_iff (fun x => ?_) ((pairwise_listed _).filter _)
      (((pairwise_listed _).filter _).filter _) (nodup_activeUnmanaged_pk db' row.pk)
      ((List.filter_sublist.map _).nodup (nodup_activeUnmanaged_pk rebuilt row.pk))
    unfold CupDb.activeUnmanaged
    rw [List.mem_filter, List.mem_filter, List.mem_filter, mem_unmanagedItems, mem_unmanagedItems,
      decide_eq_true_iff, hitems]
    exact ⟨fun ⟨⟨hrow, hcup, hfeed⟩, hflag⟩ => ⟨⟨⟨hrow, hcup, hnone x hfeed⟩, hflag⟩, hfeed⟩,
      fun ⟨⟨⟨hrow, hcup, _⟩, hflag⟩, hfeed⟩ => ⟨⟨hrow, hcup, hfeed⟩, hflag⟩⟩

theorem feedOfLink_rebuildItems (hlinked : db.Linked) (k : ℕ) :
    (db.rebuildItems cup vpnClient entries).feedOfLink k = db.feedOfLink k :=
  feedOf_rebuildItems hlinked { pk := 0, cup := 0, configLink := k }

theorem rebuildItems_rest (hlinked : db.Linked) :
    ∃ items links, db.rebuildItems cup vpnClient entries =
      { db with items := items, links := links } := by
  obtain ⟨items, links, hrest⟩ := (@refilled_refillUnmanaged _ cup vpnClient entries hlinked).rest
  exact ⟨(db.rebuildItems cup vpnClient entries).items, links,
    congrArg (fun filled : CupDb => { filled with
      items := (db.rebuildItems cup vpnClient entries).items }) hrest⟩

/-! ### The adoption at the end -/

/-- The rows after the adoption at the end of a rebuild. -/
def CupDb.ensured (db : CupDb) (env : SyncEnv) (cup : ℕ) (clock : Instant) : CupDb :=
  ((ensurePasarguardFeedsForCup env cup clock db).map (·.1)).getD db

theorem adopts_ensured (env : SyncEnv) (cup : ℕ) (clock : Instant) (db : CupDb) :
    ∃ row groups, row.pk = cup ∧ Adopts row groups db (db.ensured env cup clock) := by
  unfold CupDb.ensured
  cases h : ensurePasarguardFeedsForCup env cup clock db with
  | none => exact ⟨{ pk := cup }, [], rfl, Adopts.refl _ _ db⟩
  | some result =>
      obtain ⟨row, groups, hrow, hadopts, -⟩ := ensurePasarguardFeeds_spec h
      exact ⟨row, groups, (Table.mem_of_get? hrow).2, hadopts⟩

theorem ensured_eq_of_unadopted {clock : Instant}
    (hsame : ∀ k, (db.ensured env cup clock).feedOfLink k = db.feedOfLink k) :
    db.ensured env cup clock = db := by
  unfold CupDb.ensured at hsame ⊢
  cases h : ensurePasarguardFeedsForCup env cup clock db with
  | none => rfl
  | some result =>
      rw [h] at hsame
      exact ensure_eq_of_unadopted h hsame

theorem ensured_again {clock clock' : Instant} (hclock : clock ≤ clock')
    (h : db.ensured env cup clock = db) : db.ensured env cup clock' = db := by
  unfold CupDb.ensured at h ⊢
  cases hfirst : ensurePasarguardFeedsForCup env cup clock db with
  | none =>
      have hcup : db.cups.get? cup = none := by
        unfold ensurePasarguardFeedsForCup at hfirst
        simpa using hfirst
      unfold ensurePasarguardFeedsForCup
      rw [hcup]
      rfl
  | some result =>
      rw [hfirst] at h
      have hsame : result.1 = db := h
      obtain ⟨report, hsecond, -⟩ := ensurePasarguardFeeds_again
        (show ensurePasarguardFeedsForCup env cup clock db = some (result.1, result.2) from hfirst)
        hclock
      rw [hsame] at hsecond
      rw [hsecond]
      rfl

/-- The cup of a target is there on a second run and is left as it is. -/
theorem withCup_again {db' : CupDb} {token' : String}
    (hcups : db'.cups = (db.withCup order vpnClient forceActive token).2.cups)
    (hclients : db'.clients = db.clients) (horders : db'.orders = db.orders) :
    db'.withCup order vpnClient forceActive token' =
      ((db.withCup order vpnClient forceActive token).1, db') := by
  obtain ⟨c, hfound, hkey, hupdated⟩ := cupForTarget_withCup db order vpnClient forceActive token
  have hfound' : db'.cupForTarget order vpnClient = some c := by
    unfold CupDb.cupForTarget at hfound ⊢
    rw [hcups]
    exact hfound
  have hget : db'.cups.get? c.pk = some c := by
    have hmem := List.argmin_mem hfound'
    exact Table.get?_eq_some_iff.mpr ⟨(List.mem_filter.mp hmem).1, rfl⟩
  have hself : db'.updatedCup order vpnClient forceActive c = c := by
    have hsame : db'.updatedCup order vpnClient forceActive c =
        db.updatedCup order vpnClient forceActive c := by
      unfold CupDb.updatedCup
      rw [hclients, horders]
    exact hsame.trans hupdated
  have hmodify := Table.modify_eq_self (db'.updatedCup_pk order vpnClient forceActive) hget hself
  have hstep : db'.withCup order vpnClient forceActive token' =
      (c.pk, { db' with
        cups := db'.cups.modify c.pk (db'.updatedCup order vpnClient forceActive)
          (db'.updatedCup_pk order vpnClient forceActive) }) := by
    unfold CupDb.withCup
    rw [hfound']
  rw [hstep, ← hkey]
  exact congrArg (fun cups => (c.pk, { db' with cups := cups })) hmodify

/-! ### The rebuild -/

/-- What feeds manage stays, entries that feeds of the cup are for are not written, and the others
are, in order; run again on what it left, a rebuild that adopted nothing changes no row, unless a
link has space around it or is shown by an item that was left over. -/
theorem rebuildCup_spec (env : SyncEnv) (order vpnClient : Option ℕ) (entries : List CupEntry)
    (forceActive : Bool) (token : String) (clock : Instant) (db : CupDb) (hlinked : db.Linked) :
    let result := rebuildCup env order vpnClient entries forceActive token clock db
    let written := db.unmanagedEntries result.1 vpnClient entries
    Rebuilt db result.2 result.1 written ∧
      ((∀ k, result.2.feedOfLink k = db.feedOfLink k) →
        (∀ e ∈ written, strip e.rawLink = e.rawLink) →
        result.2.LeavesNone result.1 written →
        ∀ token' clock', clock ≤ clock' →
          rebuildCup env order vpnClient entries forceActive token' clock' result.2 = result) := by
  obtain ⟨owner, howner⟩ : ∃ owner, owner =
      (order <|> (vpnClient.bind db.clients.get?).bind (·.order)) := ⟨_, rfl⟩
  have hstart : ∀ token clock (db' : CupDb), db'.clients = db.clients →
      rebuildCup env order vpnClient entries forceActive token clock db' =
        ((db'.withCup owner vpnClient forceActive token).1,
          ((db'.withCup owner vpnClient forceActive token).2.rebuildItems
            (db'.withCup owner vpnClient forceActive token).1 vpnClient
            ((db'.withCup owner vpnClient forceActive token).2.unmanagedEntries
              (db'.withCup owner vpnClient forceActive token).1 vpnClient entries)).ensured env
                (db'.withCup owner vpnClient forceActive token).1 clock) := by
    intro token clock db' hclients
    rw [howner, ← hclients]
    rfl
  rw [hstart token clock db rfl]
  obtain ⟨cups, hcups⟩ := withCup_rest db owner vpnClient forceActive token
  have hagain : ∀ (db' : CupDb) token',
      db'.cups = (db.withCup owner vpnClient forceActive token).2.cups →
      db'.clients = db.clients → db'.orders = db.orders →
        db'.withCup owner vpnClient forceActive token' =
          ((db.withCup owner vpnClient forceActive token).1, db') :=
    fun _ _ hcups hclients horders => withCup_again hcups hclients horders
  obtain ⟨cup, hcup⟩ : ∃ cup, cup = (db.withCup owner vpnClient forceActive token).1 := ⟨_, rfl⟩
  rw [hcups] at hagain ⊢
  rw [← hcup] at hagain ⊢
  have hlinked' : ({ db with cups := cups } : CupDb).Linked := hlinked
  obtain ⟨written, hwritten⟩ : ∃ written, written = db.unmanagedEntries cup vpnClient entries :=
    ⟨_, rfl⟩
  have hentries : ({ db with cups := cups } : CupDb).unmanagedEntries cup vpnClient entries =
      written := hwritten.symm
  rw [hentries]
  obtain ⟨row, groups, rfl, hadopts⟩ := adopts_ensured env cup clock
    (({ db with cups := cups } : CupDb).rebuildItems cup vpnClient written)
  obtain ⟨items, links, hrest⟩ := @rebuildItems_rest row.pk ({ db with cups := cups }) vpnClient written hlinked'
  have hwhole : ({ db with cups := cups } : CupDb).rebuildItems row.pk vpnClient written =
      { db with cups := cups, items := items, links := links } := hrest
  have hrebuilt := hadopts.rebuilt hlinked'
  refine ⟨hwritten ▸ ⟨hrebuilt.managed, hrebuilt.shown⟩, ?_⟩
  intro hsame hstripped hleft token' clock' hclock
  have hnone := ensured_eq_of_unadopted fun k =>
    (hsame k).trans (feedOfLink_rebuildItems hlinked' k).symm
  rw [← hwritten] at hstripped hleft
  dsimp only at hleft ⊢
  rw [hnone] at hleft ⊢
  have hclients : ({ db with cups := cups, items := items, links := links } : CupDb).clients =
      db.clients := rfl
  have hitemsAgain := rebuildItems_again hlinked' hstripped hleft
  have hensured := ensured_again hclock hnone
  rw [hwhole] at hitemsAgain hensured ⊢
  rw [hstart token' clock' _ hclients,
    hagain { db with cups := cups, items := items, links := links } token' rfl hclients rfl]
  have hentriesAgain : ({ db with cups := cups, items := items, links := links } :
      CupDb).unmanagedEntries row.pk vpnClient entries = written := hwritten.symm
  rw [hentriesAgain, hitemsAgain, hensured]

/-! ## A service on two panels -/

def twoPanelClient : VPNClient where
  pk := 1
  order := some 1
  plan := none
  inbound := some 1
  username := "u"
  subLink := "https://p.example/sub/abc"

def twoPanelRaw : BundleRaw where
  inboundPks := [1, 2]
  inboundResults :=
    [some { directLink := "vless://a", sourceInboundPk := some 1 },
      some { directLink := "vless://b", sourceInboundPk := some 2 }]

/-- The first panel is a PasarGuard. -/
def twoPanelDb : CupDb where
  cups := ⟨[{ pk := 1, order := some 1, vpnClient := some 1, token := "cup" }], by decide⟩
  clients := ⟨[twoPanelClient], by decide⟩
  orders := oneLinkDb.orders
  panels := ⟨[{ pk := 1, family := .pasarguard }, { pk := 2, family := .xui }], by decide⟩
  inbounds := ⟨[{ pk := 1, panel := 1, inboundId := 1 }, { pk := 2, panel := 2, inboundId := 1 }],
    by decide⟩

/-- `rebuild_subscription_cup_for_vpn_client` of the service. -/
def rebuildTwoPanel (db : CupDb) : ℕ × CupDb :=
  rebuildCup oneLinkEnv (some 1) (some 1)
    (db.configEntriesForVpnClient twoPanelClient twoPanelRaw) false "new" 0 db

/-- The first link is adopted; a second rebuild leaves it to its feed and moves the other one up. -/
theorem rebuild_moves_items :
    let first := rebuildTwoPanel twoPanelDb
    let second := rebuildTwoPanel first.2
    (twoPanelDb.configEntriesForVpnClient twoPanelClient twoPanelRaw).map (·.rawLink) =
        ["vless://a", "vless://b"] ∧
      (first.2.activeUnmanaged first.1).map first.2.rawLink = ["vless://b"] ∧
      second.2.items.rows ≠ first.2.items.rows := by
  decide +kernel

theorem plainPanels_nodup : [1, 2].Nodup := by decide

theorem plainRow_nodup : [1].Nodup := List.nodup_singleton 1

/-- A service without a PasarGuard, in whose cup another link was. -/
def plainDb : CupDb :=
  { twoPanelDb with
    panels := ⟨[{ pk := 1, family := .xui }, { pk := 2, family := .xui }], plainPanels_nodup⟩
    items := ⟨[{ pk := 1, cup := 1, configLink := 1, position := 1 }], plainRow_nodup⟩
    links := ⟨[{ pk := 1, rawLink := "vless://c", sourceType := .panelGenerated }],
      plainRow_nodup⟩ }

theorem feedOfLink_eq_none (h : ∀ l ∈ db.links.rows, l.externalFeed = none) (k : ℕ) :
    db.feedOfLink k = none := by
  unfold CupDb.feedOfLink
  cases hl : db.links.get? k with
  | none => rfl
  | some l => exact h l (Table.mem_of_get? hl).1

theorem plain_rebuilt_once : rebuildTwoPanel (rebuildTwoPanel plainDb).2 = rebuildTwoPanel plainDb := by
  have hspec := rebuildCup_spec oneLinkEnv (some 1) (some 1)
    (plainDb.configEntriesForVpnClient twoPanelClient twoPanelRaw) false "new" 0 plainDb (by decide)
  have hentries : (rebuildTwoPanel plainDb).2.configEntriesForVpnClient twoPanelClient twoPanelRaw =
      plainDb.configEntriesForVpnClient twoPanelClient twoPanelRaw := by decide +kernel
  have hlinks : ∀ l ∈ (rebuildTwoPanel plainDb).2.links.rows, l.externalFeed = none := by
    decide +kernel
  have hagain := hspec.2
    (fun k => (feedOfLink_eq_none hlinks k).trans (feedOfLink_eq_none (by decide) k).symm)
    (by decide +kernel) (by decide +kernel) "new" 0 le_rfl
  have hcall := congrArg (fun entries => rebuildCup oneLinkEnv (some 1) (some 1) entries false "new" 0
    (rebuildTwoPanel plainDb).2) hentries
  exact hcall.trans hagain

end Qasedak.Subscriptions
