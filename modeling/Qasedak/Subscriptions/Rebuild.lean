import Qasedak.Subscriptions.Cups
import Qasedak.Subscriptions.Adoption

/-! A rebuild of a cup writes the entries that no feed of the cup is for, in order, and touches
nothing that a feed manages. One that adopts nothing is repeated without a change. -/

namespace Qasedak.Subscriptions

open Foundation Store

variable {env : SyncEnv} {db db' : CupDb} {cup : ℕ} {order vpnClient : Option ℕ}
  {entries : List CupEntry} {forceActive : Bool} {token : String} {x y : CupItem}

/-! ## What a rebuild writes -/

theorem mem_unmanagedItems : x ∈ db.unmanagedItems cup ↔
    x ∈ db.items.rows ∧ x.cup = cup ∧ db.feedOf x = none := by
  unfold CupDb.unmanagedItems
  rw [mem_listed]
  simp

theorem reusables_unmanagedItems (hlinked : db.Linked) :
    Reusables db cup ((db.unmanagedItems cup).map fun x => (x, db.rawLink x)) := by
  refine ⟨?_, ?_, ?_⟩
  · intro x hx
    obtain ⟨y, hy, rfl⟩ := List.mem_map.mp hx
    obtain ⟨hrow, hcup, -⟩ := mem_unmanagedItems.mp hy
    exact ⟨Table.get?_eq_some_iff.mpr ⟨hrow, rfl⟩, hcup, hlinked y hrow⟩
  · rw [List.map_map]
    exact nodup_listed_pk ((List.filter_sublist.map _).nodup db.items.keys_nodup)
  · intro x hx y hy hlink
    obtain ⟨a, -, rfl⟩ := List.mem_map.mp hx
    obtain ⟨b, -, rfl⟩ := List.mem_map.mp hy
    unfold CupDb.rawLink
    rw [hlink]

theorem refilled_refillUnmanaged (hlinked : db.Linked) :
    Refilled cup 1 (entries.map (·.content vpnClient))
      ((db.unmanagedItems cup).map fun x => (x, db.rawLink x)) db
      (db.refillUnmanaged cup vpnClient entries).1 (db.refillUnmanaged cup vpnClient entries).2 :=
  refilled _ _ _ _ _ (reusables_unmanagedItems hlinked)

theorem feedOf_rebuildItems (hlinked : db.Linked) (x : CupItem) :
    (db.rebuildItems cup vpnClient entries).feedOf x = db.feedOf x := by
  refine refill_unset (reusables_unmanagedItems hlinked) ?_ x.configLink
  intro content hcontent
  obtain ⟨e, -, rfl⟩ := List.mem_map.mp hcontent
  rfl

theorem rawLink_rebuildItems (x : CupItem) :
    (db.rebuildItems cup vpnClient entries).rawLink x =
      (db.refillUnmanaged cup vpnClient entries).1.rawLink x := rfl

theorem get?_rebuildItems (k : ℕ) :
    (db.rebuildItems cup vpnClient entries).items.get? k =
      ((db.refillUnmanaged cup vpnClient entries).1.items.get? k).map
        (retireItem (db.refillUnmanaged cup vpnClient entries).2
          (fun x => ((db.refillUnmanaged cup vpnClient entries).1.feedOf x).isSome) cup) :=
  Table.get?_map _ _ (retireItem_pk _ _ _) k

/-- What a feed manages stays as it is. -/
theorem managed_rebuildItems (hlinked : db.Linked) (hx : x ∈ db.items.rows)
    (hmanaged : db.feedOf x ≠ none) :
    (db.rebuildItems cup vpnClient entries).items.get? x.pk = some x ∧
      (db.rebuildItems cup vpnClient entries).links.get? x.configLink =
        db.links.get? x.configLink := by
  have hplaced := @refilled_refillUnmanaged _ cup vpnClient entries hlinked
  have hfeed : (db.refillUnmanaged cup vpnClient entries).1.feedOf x = db.feedOf x :=
    feedOf_rebuildItems hlinked x
  constructor
  · have hpk : x.pk ∉ (db.refillUnmanaged cup vpnClient entries).2.map (·.pk) := by
      intro hmem
      obtain ⟨raw, hraw⟩ := hplaced.mem_reusable (reusables_unmanagedItems hlinked) hx hmem
      obtain ⟨y, hy, heq⟩ := List.mem_map.mp hraw
      cases heq
      exact hmanaged (mem_unmanagedItems.mp hy).2.2
    have hretire : retireItem (db.refillUnmanaged cup vpnClient entries).2
        (fun x => ((db.refillUnmanaged cup vpnClient entries).1.feedOf x).isSome) cup x = x := by
      refine if_neg fun h => hmanaged ?_
      rw [← hfeed]
      simpa using h.2.1
    rw [get?_rebuildItems, hplaced.others _ hpk, Table.get?_eq_some_iff.mpr ⟨hx, rfl⟩,
      Option.map_some, hretire]
  · refine hplaced.links _ fun hmem => ?_
    obtain ⟨y, raw, hraw, hlink⟩ := hplaced.link_of_reusable (hlinked x hx) hmem
    obtain ⟨z, hz, heq⟩ := List.mem_map.mp hraw
    cases heq
    have hunmanaged := (mem_unmanagedItems.mp hz).2.2
    unfold CupDb.feedOf at hunmanaged hmanaged
    rw [hlink] at hunmanaged
    exact hmanaged hunmanaged

/-- The items that are written are under no feed. -/
theorem feedOf_refillUnmanaged (hlinked : db.Linked)
    (hx : x ∈ (db.refillUnmanaged cup vpnClient entries).2) : db.feedOf x = none := by
  rcases (refilled_refillUnmanaged hlinked).placed_cases hx with ⟨y, hy, -, hlink⟩ | ⟨-, hfresh⟩
  · obtain ⟨raw, hraw⟩ := mem_of_matchItems hy
    obtain ⟨z, hz, heq⟩ := List.mem_map.mp hraw
    cases heq
    have hunmanaged := (mem_unmanagedItems.mp hz).2.2
    unfold CupDb.feedOf at hunmanaged ⊢
    rw [hlink, hunmanaged]
  · unfold CupDb.feedOf
    rw [hfresh]
    rfl

theorem rawLinks_refillUnmanaged (hlinked : db.Linked) :
    (db.refillUnmanaged cup vpnClient entries).2.map
        (db.rebuildItems cup vpnClient entries).rawLink =
      entries.map fun e => strip e.rawLink := by
  have hshown := (@refilled_refillUnmanaged _ cup vpnClient entries hlinked).shown
  have hraw : ∀ x (content : LinkContent),
      Shows db (db.refillUnmanaged cup vpnClient entries).1
        ((db.unmanagedItems cup).map fun x => (x, db.rawLink x)) x content →
      (db.rebuildItems cup vpnClient entries).rawLink x = strip content.rawLink := by
    intro x content hshows
    obtain ⟨l, hl, hlraw, -⟩ := hshows.link
    rw [rawLink_rebuildItems]
    unfold CupDb.rawLink
    rw [hl]
    exact hlraw
  have heq := List.forall₂_eq_eq_eq ▸
    List.forall₂_map_left_iff.mpr (List.forall₂_map_right_iff.mpr (hshown.imp hraw))
  rw [heq, List.map_map]
  rfl

theorem get?_of_written (hlinked : db.Linked)
    (hx : x ∈ (db.refillUnmanaged cup vpnClient entries).2) :
    (db.rebuildItems cup vpnClient entries).items.get? x.pk = some x := by
  rw [get?_rebuildItems, (refilled_refillUnmanaged hlinked).items x hx, Option.map_some, retireItem,
    if_neg fun h => h.2.2 (List.mem_map_of_mem hx)]

/-- The active items of the cup under no feed. -/
def CupDb.activeUnmanaged (db : CupDb) (cup : ℕ) : List CupItem :=
  (db.unmanagedItems cup).filter (·.isActive)

theorem activeUnmanaged_rebuildItems (hlinked : db.Linked) :
    (db.rebuildItems cup vpnClient entries).activeUnmanaged cup =
      (db.refillUnmanaged cup vpnClient entries).2 := by
  have hplaced := @refilled_refillUnmanaged _ cup vpnClient entries hlinked
  unfold CupDb.activeUnmanaged
  refine eq_of_mem_iff (fun x => ?_) ((pairwise_listed _).filter _) (hplaced.pairwise.imp .inl)
    ((List.filter_sublist.map _).nodup
      (nodup_listed_pk ((List.filter_sublist.map _).nodup (Table.keys_nodup _)))) hplaced.keys
  rw [List.mem_filter, mem_unmanagedItems]
  constructor
  · rintro ⟨⟨hrow, hcup, hfeed⟩, hactive⟩
    have hget : (db.rebuildItems cup vpnClient entries).items.get? x.pk = some x :=
      Table.get?_eq_some_iff.mpr ⟨hrow, rfl⟩
    rw [get?_rebuildItems, Option.map_eq_some_iff] at hget
    obtain ⟨y, hy, hretire⟩ := hget
    have hpk : y.pk = x.pk := (Table.mem_of_get? hy).2
    by_cases hmem : x.pk ∈ (db.refillUnmanaged cup vpnClient entries).2.map (·.pk)
    · obtain ⟨z, hz, hkey⟩ := List.mem_map.mp hmem
      have hzget := get?_of_written hlinked hz
      rw [hkey, Table.get?_eq_some_iff.mpr ⟨hrow, rfl⟩] at hzget
      exact Option.some.inj hzget ▸ hz
    · rw [feedOf_rebuildItems hlinked] at hfeed
      unfold retireItem at hretire
      split at hretire
      · rw [← hretire] at hactive
        cases hactive
      · next hkept =>
          subst hretire
          have hnone : ((db.refillUnmanaged cup vpnClient entries).1.feedOf y).isSome = false := by
            have hsame : (db.refillUnmanaged cup vpnClient entries).1.feedOf y = db.feedOf y :=
              feedOf_rebuildItems hlinked y
            rw [hsame, hfeed]
            rfl
          exact absurd ⟨hcup, hnone, hmem⟩ hkept
  · intro hx
    have hrow := hplaced.rows x hx
    refine ⟨⟨(Table.mem_of_get? (get?_of_written hlinked hx)).1, hrow.1, ?_⟩, hrow.2⟩
    rw [feedOf_rebuildItems hlinked]
    exact feedOf_refillUnmanaged hlinked hx

end Qasedak.Subscriptions
