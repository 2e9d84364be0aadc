import Mathlib
import Qasedak.Subscriptions.Reconcile
import Qasedak.Subscriptions.Cups

/-! The order of the items of a cup: its writers, and `move_cup_item`, which exchanges the
positions of two items. -/

namespace Qasedak.Subscriptions

open Foundation Store

/-! ## Moves -/

namespace CupDb

variable (db : CupDb)

/-- `cup.items`. -/
def cupItems (cup : ℕ) : List CupItem := db.items.rows.filter fun x => x.cup = cup

/-- The keys of the items in the order in which they are shown. -/
def itemOrder (cup : ℕ) : List ℕ := (listed (db.cupItems cup)).map (·.pk)

def movedItem (position : ℕ) (x : CupItem) : CupItem := { x with position := position }

@[simp] theorem movedItem_pk (position : ℕ) (x : CupItem) : (movedItem position x).pk = x.pk := rfl

/-- `item.save(update_fields=["position", "updated_at"])`. -/
def savePosition (pk position : ℕ) : CupDb :=
  { db with items := db.items.modify pk (movedItem position) (movedItem_pk position) }

end CupDb

/-- `swap_index`, where there is an item. -/
def swapIndex (up : Bool) (index length : ℕ) : Option ℕ :=
  if up then (if index = 0 then none else some (index - 1))
  else if index + 1 < length then some (index + 1) else none

/-- `move_cup_item`; none is an item that the cup does not have. -/
def moveCupItem (cup item : ℕ) (up : Bool) (db : CupDb) : Option CupDb :=
  let items := listed (db.cupItems cup)
  (items.findIdx? (·.pk = item)).map fun index =>
    ((items[index]?).bind fun current =>
      ((swapIndex up index items.length).bind (items[·]?)).map fun other =>
        (db.savePosition current.pk other.position).savePosition other.pk current.position).getD db

/-! ## Other writers -/

/-- The item of a link that is there. -/
def itemOf (db : CupDb) (cup link position : ℕ) : CupItem where
  pk := db.items.nextKey
  cup := cup
  configLink := link
  position := position

theorem itemOf_pk (db : CupDb) (cup link position : ℕ) :
    (itemOf db cup link position).pk = db.items.nextKey := rfl

/-- `CupItem.objects.create` for some links in turn, from a position on. -/
def createItems (cup : ℕ) : ℕ → List ℕ → CupDb → CupDb
  | _, [], db => db
  | position, link :: links, db =>
      createItems cup (position + 1) links
        { db with
          items := db.items.insert (itemOf db cup link position) (itemOf_pk db cup link position) }

def hideItem (cup : ℕ) (x : CupItem) : CupItem :=
  if x.cup = cup then { x with isActive := false } else x

@[simp] theorem hideItem_pk (cup : ℕ) (x : CupItem) : (hideItem cup x).pk = x.pk := by
  unfold hideItem
  split <;> rfl

/-- The items of `_ensure_subscription_cup`: those that are there go, and the links of the delivery
are numbered from one. -/
def deliverItems (cup : ℕ) (links : List ℕ) (db : CupDb) : CupDb :=
  createItems cup 1 links { db with items := db.items.map (hideItem cup) (hideItem_pk cup) }

/-- `_next_position`. -/
def CupDb.nextPosition (db : CupDb) (cup : ℕ) : ℕ :=
  ((db.cupItems cup).map (·.position)).foldr max 0 + 1

/-- The items of the cup center and of a recipe: they follow those that are there. -/
def appendItems (cup : ℕ) (links : List ℕ) (db : CupDb) : CupDb :=
  createItems cup (db.nextPosition cup) links db

/-- `remove_cup_item`. -/
def removeCupItem (cup item : ℕ) (db : CupDb) : CupDb :=
  if (db.items.get? item).any (·.cup = cup) then { db with items := db.items.erase item } else db

/-- A writer of the items of cups. -/
inductive CupWrite where
  | rebuild (env : SyncEnv) (order vpnClient : Option ℕ) (entries : List CupEntry)
      (forceActive : Bool) (token : String) (clock : Instant)
  | refresh (original : ExternalSubscriptionFeed) (result : NativeConfigFilterResult)
      (token : Option String) (allowDisabled : Bool) (now clock : Instant)
  | deliver (cup : ℕ) (links : List ℕ)
  | append (cup : ℕ) (links : List ℕ)
  | remove (cup item : ℕ)
  | move (cup item : ℕ) (up : Bool)

def CupWrite.run (w : CupWrite) (db : CupDb) : CupDb :=
  match w with
  | .rebuild env order vpnClient entries forceActive token clock =>
      (rebuildCup env order vpnClient entries forceActive token clock db).2
  | .refresh original result token allowDisabled now clock =>
      ((reconcileSuccess original result token allowDisabled now clock db).map (·.2)).getD db
  | .deliver cup links => deliverItems cup links db
  | .append cup links => appendItems cup links db
  | .remove cup item => removeCupItem cup item db
  | .move cup item up => (moveCupItem cup item up db).getD db

/-- The writers in turn. -/
def runWrites (ws : List CupWrite) (db : CupDb) : CupDb := ws.foldl (fun db w => w.run db) db

variable {db db' : CupDb} {cup item : ℕ} {x y z : CupItem} {front back : List CupItem}

/-! ## One move -/

/-- The positions of the items of a cup. -/
def CupDb.positions (db : CupDb) (cup : ℕ) : List ℕ := (db.cupItems cup).map (·.position)

/-- A move of the item does what it says, and the move back undoes it. -/
structure MoveWorks (db : CupDb) (cup item : ℕ) : Prop where
  down : ∀ front other back, db.itemOrder cup = front ++ item :: other :: back →
    ∃ moved back', moveCupItem cup item false db = some moved ∧
      moved.itemOrder cup = front ++ other :: item :: back ∧
      moveCupItem cup item true moved = some back' ∧ back'.itemOrder cup = db.itemOrder cup
  up : ∀ front other back, db.itemOrder cup = front ++ other :: item :: back →
    ∃ moved back', moveCupItem cup item true db = some moved ∧
      moved.itemOrder cup = front ++ item :: other :: back ∧
      moveCupItem cup item false moved = some back' ∧ back'.itemOrder cup = db.itemOrder cup
  last : ∀ front, db.itemOrder cup = front ++ [item] → moveCupItem cup item false db = some db
  first : ∀ back, db.itemOrder cup = item :: back → moveCupItem cup item true db = some db

/-- Every item of a cup can be moved. -/
def MovesWork (db : CupDb) (cup : ℕ) : Prop := ∀ item, MoveWorks db cup item

theorem nodup_cupItems (db : CupDb) (cup : ℕ) : ((db.cupItems cup).map (·.pk)).Nodup :=
  db.items.keys_nodup.sublist (List.filter_sublist.map _)

theorem findIdx_listed (hitems : listed (db.cupItems cup) = front ++ x :: back) :
    (listed (db.cupItems cup)).findIdx? (·.pk = x.pk) = some front.length := by
  have hnodup := nodup_listed_pk (nodup_cupItems db cup)
  rw [hitems] at hnodup ⊢
  rw [List.map_append, List.map_cons] at hnodup
  have hfront : ∀ z ∈ front, ¬ z.pk = x.pk := fun z hz heq =>
    (List.nodup_append.mp hnodup).2.2 z.pk (List.mem_map_of_mem hz) x.pk List.mem_cons_self heq
  rw [List.findIdx?_append, List.findIdx?_eq_none_iff.mpr (by simpa using hfront),
    List.findIdx?_cons]
  simp

/-- A move down exchanges the positions of two neighbours, and so does a move up of the other. -/
theorem move_neighbours (hitems : listed (db.cupItems cup) = front ++ x :: y :: back) :
    moveCupItem cup x.pk false db =
        some ((db.savePosition x.pk y.position).savePosition y.pk x.position) ∧
      moveCupItem cup y.pk true db =
        some ((db.savePosition y.pk x.position).savePosition x.pk y.position) := by
  constructor
  · rw [moveCupItem]
    rw [findIdx_listed hitems, hitems]
    simp [swapIndex]
  · have hsecond : listed (db.cupItems cup) = (front ++ [x]) ++ y :: back := by
      rw [hitems, List.append_assoc]
      rfl
    rw [moveCupItem]
    rw [findIdx_listed hsecond, hitems]
    simp [swapIndex]

theorem move_last (hitems : listed (db.cupItems cup) = front ++ [x]) :
    moveCupItem cup x.pk false db = some db := by
  rw [moveCupItem]
  rw [findIdx_listed hitems, hitems]
  simp [swapIndex]

theorem move_first (hitems : listed (db.cupItems cup) = x :: back) :
    moveCupItem cup x.pk true db = some db := by
  rw [moveCupItem]
  rw [@findIdx_listed db cup x [] back hitems, hitems]
  simp [swapIndex]

/-! ## Exchanged positions -/

/-- Two items with each other's positions. -/
def exchange (x y z : CupItem) : CupItem :=
  if z.pk = x.pk then CupDb.movedItem y.position z
  else if z.pk = y.pk then CupDb.movedItem x.position z
  else z

theorem rows_exchange (hne : x.pk ≠ y.pk) :
    ((db.savePosition x.pk y.position).savePosition y.pk x.position).items.rows =
      db.items.rows.map (exchange x y) := by
  simp only [CupDb.savePosition, Table.rows_modify, List.map_map]
  refine List.map_congr_left fun z _ => ?_
  rw [exchange, Function.comp_apply]
  by_cases hx : z.pk = x.pk
  · have hy : z.pk ≠ y.pk := fun h => hne (hx.symm.trans h)
    simp [hx, hne]
  · by_cases hy : z.pk = y.pk
    · have hyx : y.pk ≠ x.pk := hne.symm
      simp [hy, hyx]
    · simp [hx, hy]

theorem exchange_comm (hne : x.pk ≠ y.pk) : exchange x y = exchange y x := by
  funext z
  rw [exchange, exchange]
  by_cases hx : z.pk = x.pk
  · have hy : z.pk ≠ y.pk := fun h => hne (hx.symm.trans h)
    simp [hx, hne]
  · simp [hx]

theorem cupItems_exchange (hrows : db'.items.rows = db.items.rows.map (exchange x y)) :
    db'.cupItems cup = (db.cupItems cup).map (exchange x y) := by
  have hcup (z : CupItem) : (exchange x y z).cup = z.cup := by
    rw [exchange]
    split
    · rfl
    · split <;> rfl
  rw [CupDb.cupItems, CupDb.cupItems, hrows, List.filter_map]
  congr 1
  refine List.filter_congr fun z _ => ?_
  simp [hcup]

theorem exchange_of_ne (hx : z.pk ≠ x.pk) (hy : z.pk ≠ y.pk) : exchange x y z = z := by
  rw [exchange, if_neg hx, if_neg hy]

/-- The items of a cup after two neighbours with distinct positions have exchanged them, where no
other item has one of these positions. -/
theorem listed_exchange (hitems : listed (db.cupItems cup) = front ++ x :: y :: back)
    (hstrict : (listed (db.cupItems cup)).Pairwise fun a b => a.position < b.position)
    (hrows : db'.items.rows = db.items.rows.map (exchange x y)) :
    listed (db'.cupItems cup) =
      front ++ CupDb.movedItem x.position y :: CupDb.movedItem y.position x :: back := by
  have hnodup := nodup_listed_pk (nodup_cupItems db cup)
  rw [hitems] at hnodup hstrict
  rw [List.map_append, List.map_cons, List.map_cons, List.nodup_append, List.nodup_cons,
    List.nodup_cons] at hnodup
  obtain ⟨-, ⟨hx, hy, -⟩, hfront⟩ := hnodup
  rw [List.mem_cons, not_or] at hx
  have hsame (zs : List CupItem) (hzs : ∀ z ∈ zs, z.pk ≠ x.pk ∧ z.pk ≠ y.pk) :
      zs.map (exchange x y) = zs := by
    conv_rhs => rw [← List.map_id zs]
    exact List.map_congr_left fun z hz => exchange_of_ne (hzs z hz).1 (hzs z hz).2
  have hkeep : front.map (exchange x y) = front := hsame front fun z hz =>
    ⟨fun h => hfront z.pk (List.mem_map_of_mem hz) x.pk List.mem_cons_self h,
      fun h => hfront z.pk (List.mem_map_of_mem hz) y.pk
        (List.mem_cons_of_mem _ List.mem_cons_self) h⟩
  have hrest : back.map (exchange x y) = back := hsame back fun z hz =>
    ⟨fun h => hx.2 (h ▸ List.mem_map_of_mem hz), fun h => hy (h ▸ List.mem_map_of_mem hz)⟩
  have hperm : (front ++ CupDb.movedItem x.position y :: CupDb.movedItem y.position x :: back).Perm
      (db'.cupItems cup) := by
    have hlisted := (perm_listed (db.cupItems cup)).map (exchange x y)
    have hxe : exchange x y x = CupDb.movedItem y.position x := if_pos rfl
    have hye : exchange x y y = CupDb.movedItem x.position y := by
      rw [exchange, if_neg (Ne.symm hx.1), if_pos rfl]
    rw [hitems, List.map_append, List.map_cons, List.map_cons, hkeep, hrest, hxe, hye,
      ← cupItems_exchange hrows] at hlisted
    exact ((List.Perm.swap _ _ _).append_left front).trans hlisted
  rw [List.pairwise_append, List.pairwise_cons, List.pairwise_cons] at hstrict
  obtain ⟨hf, ⟨hxs, hys, hb⟩, hcross⟩ := hstrict
  have hxy := hxs y List.mem_cons_self
  refine ((perm_listed _).trans hperm.symm).eq_of_pairwise ?_ (pairwise_listed _) ?_
  · intro a b ha hb hab hba
    have ha := (perm_listed _).subset ha
    have hb := hperm.subset hb
    exact List.inj_on_of_nodup_map (nodup_cupItems db' cup) ha hb (hab.antisymm hba).2
  · have hweak {zs : List CupItem} (h : zs.Pairwise fun a b => a.position < b.position) :
        zs.Pairwise CupItem.Before := h.imp fun hlt => .inl hlt
    refine List.pairwise_append.mpr ⟨hweak hf, List.pairwise_cons.mpr ⟨?_,
      List.pairwise_cons.mpr ⟨?_, hweak hb⟩⟩, ?_⟩
    · intro z hz
      rcases List.mem_cons.mp hz with rfl | hz
      · exact .inl hxy
      · exact .inl (hxs z (List.mem_cons_of_mem y hz))
    · exact fun z hz => .inl (hys z hz)
    · intro a ha z hz
      rcases List.mem_cons.mp hz with rfl | hz
      · exact .inl (hcross a ha x List.mem_cons_self)
      · rcases List.mem_cons.mp hz with rfl | hz
        · exact .inl (hcross a ha y (List.mem_cons_of_mem x List.mem_cons_self))
        · exact .inl (hcross a ha z (List.mem_cons_of_mem x (List.mem_cons_of_mem y hz)))

/-! ## When all moves work -/

theorem itemOrder_of_listed {zs : List CupItem} (hitems : listed (db.cupItems cup) = zs) :
    db.itemOrder cup = zs.map (·.pk) := by
  rw [CupDb.itemOrder, hitems]

theorem pk_ne_of_listed (hitems : listed (db.cupItems cup) = front ++ x :: y :: back) :
    x.pk ≠ y.pk := by
  have hnodup := nodup_listed_pk (nodup_cupItems db cup)
  rw [hitems, List.map_append, List.map_cons, List.map_cons, List.nodup_append,
    List.nodup_cons] at hnodup
  exact fun heq => hnodup.2.1.1 (heq ▸ List.mem_cons_self)

theorem strict_listed (h : (db.positions cup).Nodup) :
    (listed (db.cupItems cup)).Pairwise fun a b => a.position < b.position := by
  have hnodup : ((listed (db.cupItems cup)).map (·.position)).Nodup :=
    ((perm_listed (db.cupItems cup)).map _).nodup_iff.mpr h
  rw [List.Nodup, List.pairwise_map] at hnodup
  exact ((pairwise_listed _).and hnodup).imp fun hab => by
    obtain ⟨hbefore | ⟨heq, -⟩, hne⟩ := hab
    · exact hbefore
    · exact absurd heq hne

theorem strict_exchanged
    (hstrict : (front ++ x :: y :: back).Pairwise fun a b : CupItem => a.position < b.position) :
    (front ++ CupDb.movedItem x.position y :: CupDb.movedItem y.position x :: back).Pairwise
      fun a b => a.position < b.position := by
  rw [← List.pairwise_map (f := fun z : CupItem => z.position) (R := fun p q => p < q)] at hstrict ⊢
  simpa [CupDb.movedItem] using hstrict

/-- The lists of keys split as those of the items do. -/
theorem listed_of_order {keys keys' : List ℕ} {k j : ℕ}
    (horder : db.itemOrder cup = keys ++ k :: j :: keys') :
    ∃ front x y back, listed (db.cupItems cup) = front ++ x :: y :: back ∧
      front.map (·.pk) = keys ∧ x.pk = k ∧ y.pk = j ∧ back.map (·.pk) = keys' := by
  obtain ⟨front, rest, hsplit, hfront, hrest⟩ := List.map_eq_append_iff.mp horder
  obtain ⟨x, rest, rfl, hx, hrest⟩ := List.map_eq_cons_iff.mp hrest
  obtain ⟨y, back, rfl, hy, hback⟩ := List.map_eq_cons_iff.mp hrest
  exact ⟨front, x, y, back, hsplit, hfront, hx, hy, hback⟩

theorem moveWorks_of_nodup (h : (db.positions cup).Nodup) : MovesWork db cup := by
  have hstrict := strict_listed h
  intro item
  constructor
  · intro keys other keys' horder
    obtain ⟨front, x, y, back, hitems, rfl, rfl, rfl, rfl⟩ := listed_of_order horder
    have hne := pk_ne_of_listed hitems
    have hrows := @rows_exchange db x y hne
    have hlisted := listed_exchange hitems hstrict hrows
    have hback := (move_neighbours hlisted).2
    rw [hitems] at hstrict
    have hstrict' := strict_exchanged hstrict
    rw [← hlisted] at hstrict'
    have hne' := pk_ne_of_listed hlisted
    have hagain := listed_exchange hlisted hstrict'
      ((rows_exchange hne'.symm).trans (by rw [exchange_comm hne'.symm]))
    refine ⟨_, _, (move_neighbours hitems).1, ?_, hback, ?_⟩
    · rw [itemOrder_of_listed hlisted]
      simp
    · rw [itemOrder_of_listed hagain, horder]
      simp
  · intro keys other keys' horder
    obtain ⟨front, x, y, back, hitems, rfl, rfl, rfl, rfl⟩ := listed_of_order horder
    have hne := pk_ne_of_listed hitems
    have hrows := (@rows_exchange db y x hne.symm).trans (by rw [exchange_comm hne.symm])
    have hlisted := listed_exchange hitems hstrict hrows
    have hback := (move_neighbours hlisted).1
    rw [hitems] at hstrict
    have hstrict' := strict_exchanged hstrict
    rw [← hlisted] at hstrict'
    have hagain := listed_exchange hlisted hstrict' (rows_exchange (pk_ne_of_listed hlisted))
    refine ⟨_, _, (move_neighbours hitems).2, ?_, hback, ?_⟩
    · rw [itemOrder_of_listed hlisted]
      simp
    · rw [itemOrder_of_listed hagain, horder]
      simp
  · intro keys horder
    obtain ⟨front, rest, hsplit, -, hrest⟩ := List.map_eq_append_iff.mp horder
    obtain ⟨x, rest, rfl, rfl, hnil⟩ := List.map_eq_cons_iff.mp hrest
    obtain rfl : rest = [] := List.map_eq_nil_iff.mp hnil
    exact move_last hsplit
  · intro keys horder
    obtain ⟨x, rest, hsplit, rfl, -⟩ := List.map_eq_cons_iff.mp horder
    exact move_first hsplit

/-- Neighbours everywhere in relation are all in relation, where it is transitive. -/
theorem pairwise_of_neighbours {α : Type*} {R : α → α → Prop} (htrans : ∀ a b c, R a b → R b c → R a c)
    {zs : List α} (h : ∀ front a b back, zs = front ++ a :: b :: back → R a b) : zs.Pairwise R := by
  have : Trans R R R := ⟨fun {a b c} => htrans a b c⟩
  rw [← List.isChain_iff_pairwise]
  induction zs with
  | nil => exact List.isChain_nil
  | cons a zs ih =>
      cases zs with
      | nil => exact List.isChain_singleton a
      | cons b zs =>
          refine List.isChain_cons_cons.mpr ⟨h [] a b zs rfl, ih fun front c d back hsplit => ?_⟩
          exact h (a :: front) c d back (by rw [hsplit]; rfl)

/-- Items with one position cannot be moved past each other. -/
theorem position_ne_of_works (h : MovesWork db cup)
    (hitems : listed (db.cupItems cup) = front ++ x :: y :: back) : x.position ≠ y.position := by
  intro heq
  have hne := pk_ne_of_listed hitems
  have horder : db.itemOrder cup = front.map (·.pk) ++ x.pk :: y.pk :: back.map (·.pk) := by
    rw [itemOrder_of_listed hitems]
    simp
  obtain ⟨moved, -, hmoved, hswapped, -⟩ := (h x.pk).down _ _ _ horder
  rw [(move_neighbours hitems).1, Option.some.injEq] at hmoved
  have hrows : moved.items.rows = db.items.rows := by
    have hmem (z : CupItem) (hz : z ∈ listed (db.cupItems cup)) : z ∈ db.items.rows :=
      (List.mem_filter.mp (mem_listed.mp hz)).1
    rw [hitems] at hmem
    have hx : x ∈ db.items.rows := hmem x (by simp)
    have hy : y ∈ db.items.rows := hmem y (by simp)
    rw [← hmoved, rows_exchange hne]
    conv_rhs => rw [← List.map_id db.items.rows]
    refine List.map_congr_left fun z hz => ?_
    rw [exchange]
    by_cases hzx : z.pk = x.pk
    · obtain rfl : z = x := List.inj_on_of_nodup_map db.items.keys_nodup hz hx hzx
      rw [if_pos rfl, CupDb.movedItem, ← heq]
      rfl
    · by_cases hzy : z.pk = y.pk
      · obtain rfl : z = y := List.inj_on_of_nodup_map db.items.keys_nodup hz hy hzy
        rw [if_neg hzx, if_pos rfl, CupDb.movedItem, heq]
        rfl
      · rw [if_neg hzx, if_neg hzy]
        rfl
  have hsame : moved.itemOrder cup = db.itemOrder cup := by
    rw [CupDb.itemOrder, CupDb.itemOrder, CupDb.cupItems, CupDb.cupItems, hrows]
  rw [hsame, horder] at hswapped
  exact hne (List.cons.inj (List.append_cancel_left hswapped)).1

/-- All moves work in a cup exactly where its positions are pairwise distinct. -/
theorem movesWork_iff : MovesWork db cup ↔ (db.positions cup).Nodup := by
  refine ⟨fun h => ?_, moveWorks_of_nodup⟩
  have hstrict : (listed (db.cupItems cup)).Pairwise fun a b => a.position < b.position := by
    refine @pairwise_of_neighbours CupItem (fun a b => a.position < b.position)
      (fun _ _ _ => Nat.lt_trans) _ fun front a b back hsplit => ?_
    have hpair := pairwise_listed (db.cupItems cup)
    rw [hsplit, List.pairwise_append, List.pairwise_cons] at hpair
    rcases hpair.2.1.1 b List.mem_cons_self with hlt | ⟨heq, -⟩
    · exact hlt
    · exact absurd heq (position_ne_of_works h hsplit)
  have hnodup : ((listed (db.cupItems cup)).map (·.position)).Nodup := by
    rw [List.Nodup, List.pairwise_map]
    exact hstrict.imp fun hlt => Nat.ne_of_lt hlt
  exact ((perm_listed (db.cupItems cup)).map _).nodup_iff.mp hnodup

end Qasedak.Subscriptions
