import Qasedak.Foundation.Separated
import Qasedak.Orders.Identity

/-! # Requests for identities

Four paths derive the identities of an order's clients: the modern one and that of a bundle by
the index of the client, a delivery source and a panel rule by an index in which their own id is
packed. -/

namespace Qasedak.Orders

open Foundation Store Panels

/-- What the clients of an order are created for. -/
inductive IdentityOwner where
  | inbound (i : Inbound)
  | source (pk : ℕ) (i : Inbound)
  | bundle (inbounds : List Inbound)
  | rule (pk : ℕ) (inbounds : List Inbound)

/-- The owners that count as one: a bundle is the set of its inbounds. -/
def IdentityOwner.Same : IdentityOwner → IdentityOwner → Prop
  | .inbound i, .inbound j => i.pk = j.pk
  | .source k _, .source l _ => k = l
  | .bundle is, .bundle js => (is.map (·.pk)).Perm (js.map (·.pk))
  | .rule k _, .rule l _ => k = l
  | _, _ => False

structure IdentityRequest where
  order : Order
  owner : IdentityOwner
  index : ℕ

/-- Two requests for the same client. -/
def IdentityRequest.Same (x y : IdentityRequest) : Prop :=
  x.order.pk = y.order.pk ∧ x.owner.Same y.owner ∧ x.index = y.index

/-- `int(source.pk or 0) * 1000`, and the same for a rule. -/
def IdentityOwner.offset : IdentityOwner → ℕ
  | .inbound _ | .bundle _ => 0
  | .source pk _ | .rule pk _ => pk * 1000

/-- The index that goes into the digests. -/
def IdentityRequest.packedIndex (r : IdentityRequest) : ℕ := r.owner.offset + r.index

variable (platform : Platform)

def IdentityRequest.base (r : IdentityRequest) : String :=
  match r.owner with
  | .inbound i | .source _ i => orderIdentityBase r.order i r.packedIndex
  | .bundle inbounds | .rule _ inbounds =>
      multiInboundOrderIdentityBase r.order inbounds r.packedIndex

def IdentityRequest.identity (db : Db) (r : IdentityRequest) : ClientIdentity :=
  match r.owner with
  | .inbound i | .source _ i => orderIdentity platform db r.order i r.packedIndex
  | .bundle inbounds | .rule _ inbounds =>
      multiInboundOrderIdentity platform db r.order inbounds r.packedIndex

/-- Where a client is created, as far as the digests tell. -/
inductive IdentityScope where
  | inbound (panel : ℕ) (node : String) (inboundId : ℕ)
  | bundle (panel : ℕ) (keys : String)
  deriving DecidableEq

def IdentityOwner.scope : IdentityOwner → IdentityScope
  | .inbound i | .source _ i =>
      .inbound i.panel (if i.xuiNodeId = "" then "local" else i.xuiNodeId) i.inboundId
  | .bundle inbounds | .rule _ inbounds =>
      .bundle ((inbounds.head?.map (·.panel)).getD 0)
        (",".intercalate ((inbounds.map inboundRemoteKey).insertionSort (· ≤ ·)))

/-- Two requests under one packed index, in one order and one scope. -/
def IdentityRequest.Clash (x y : IdentityRequest) : Prop :=
  x.order.pk = y.order.pk ∧ x.owner.scope = y.owner.scope ∧ x.packedIndex = y.packedIndex

/-! ## Reading a base back -/

def barFree (s : String) : Prop := '|' ∉ s.toList

theorem barFree_toString (n : ℕ) : barFree (toString n) := by
  intro hmem
  have hmem' : '|' ∈ Nat.toDigits 10 n := by
    rw [← Nat.toList_repr]
    exact hmem
  have hdigit : '|'.isDigit := Nat.isDigit_of_mem_toDigits (by omega) (by omega) hmem'
  exact absurd hdigit (by decide)

theorem barFree_textOrEmpty (n : ℕ) : barFree (textOrEmpty n) := by
  unfold textOrEmpty
  split
  · simp [barFree]
  · exact barFree_toString n

theorem textOrEmpty_injective {m n : ℕ} (h : textOrEmpty m = textOrEmpty n) : m = n := by
  have hne (k : ℕ) : toString k ≠ "" := by
    intro hk
    have hdigits : Nat.toDigits 10 k = [] := by
      rw [← Nat.toList_repr]
      exact congrArg String.toList hk
    exact Nat.toDigits_ne_nil hdigits
  unfold textOrEmpty at h
  split at h <;> split at h
  · omega
  · exact absurd h.symm (hne n)
  · exact absurd h (hne m)
  · exact toString_injective h

/-- A base: its kind, its order, its panel, then the rest of its scope and the index. -/
theorem toList_orderIdentityBase (o : Order) (i : Inbound) (index : ℕ) :
    (orderIdentityBase o i index).toList =
      "qasedak".toList ++ '|' :: ("paid-provisioning".toList ++ '|' :: (o.publicId.toList ++ '|' ::
        (o.orderTrackingCode.toList ++ '|' :: ((textOrEmpty i.panel).toList ++ '|' ::
          (((if i.xuiNodeId = "" then "local" else i.xuiNodeId).toList ++ '|' ::
            (textOrEmpty i.inboundId).toList) ++ '|' :: (toString index).toList))))) := by
  have hbar : "|".toList = ['|'] := rfl
  simp only [orderIdentityBase, String.intercalate_cons_cons, String.intercalate_singleton,
    String.toList_append, hbar, List.append_assoc, List.cons_append, List.nil_append]

theorem toList_multiInboundOrderIdentityBase (o : Order) (is : List Inbound) (index : ℕ) :
    (multiInboundOrderIdentityBase o is index).toList =
      "qasedak".toList ++ '|' :: ("paid-multi-inbound-provisioning".toList ++ '|' ::
        (o.publicId.toList ++ '|' :: (o.orderTrackingCode.toList ++ '|' ::
          ((textOrEmpty ((is.head?.map (·.panel)).getD 0)).toList ++ '|' ::
            ((",".intercalate ((is.map inboundRemoteKey).insertionSort (· ≤ ·))).toList ++ '|' ::
              (toString index).toList))))) := by
  have hbar : "|".toList = ['|'] := rfl
  simp only [multiInboundOrderIdentityBase, String.intercalate_cons_cons, String.intercalate_singleton,
    String.toList_append, hbar, List.append_assoc, List.cons_append, List.nil_append]

variable {o o' : Order} {m n : ℕ}

/-- The public id of an order is a UUID, and its tracking code has letters, digits and hyphens. -/
def PlainTexts (o : Order) : Prop := barFree o.publicId ∧ barFree o.orderTrackingCode

theorem orderIdentityBase_inj {i j : Inbound} (ho : PlainTexts o) (ho' : PlainTexts o')
    (h : orderIdentityBase o i m = orderIdentityBase o' j n) :
    o.publicId = o'.publicId ∧
      IdentityOwner.scope (.inbound i) = IdentityOwner.scope (.inbound j) ∧ m = n := by
  have hlist := congrArg String.toList h
  rw [toList_orderIdentityBase, toList_orderIdentityBase] at hlist
  have hkind := List.append_cancel_left hlist
  have horder := List.append_cancel_left (List.cons.inj hkind).2
  have hpublic := append_sep_inj ho.1 ho'.1 (List.cons.inj horder).2
  have htracking := append_sep_inj ho.2 ho'.2 hpublic.2
  have hpanel := append_sep_inj (barFree_textOrEmpty _) (barFree_textOrEmpty _) htracking.2
  have hindex := sep_append_inj (barFree_toString m) (barFree_toString n) hpanel.2
  have hnode := sep_append_inj (barFree_textOrEmpty _) (barFree_textOrEmpty _) hindex.1
  refine ⟨String.toList_inj.mp hpublic.1, ?_, toString_injective (String.toList_inj.mp hindex.2)⟩
  simp only [IdentityOwner.scope, IdentityScope.inbound.injEq]
  exact ⟨textOrEmpty_injective (String.toList_inj.mp hpanel.1), String.toList_inj.mp hnode.1,
    textOrEmpty_injective (String.toList_inj.mp hnode.2)⟩

theorem multiInboundOrderIdentityBase_inj {is js : List Inbound} (ho : PlainTexts o)
    (ho' : PlainTexts o')
    (h : multiInboundOrderIdentityBase o is m = multiInboundOrderIdentityBase o' js n) :
    o.publicId = o'.publicId ∧
      IdentityOwner.scope (.bundle is) = IdentityOwner.scope (.bundle js) ∧ m = n := by
  have hlist := congrArg String.toList h
  rw [toList_multiInboundOrderIdentityBase, toList_multiInboundOrderIdentityBase] at hlist
  have hkind := List.append_cancel_left hlist
  have horder := List.append_cancel_left (List.cons.inj hkind).2
  have hpublic := append_sep_inj ho.1 ho'.1 (List.cons.inj horder).2
  have htracking := append_sep_inj ho.2 ho'.2 hpublic.2
  have hpanel := append_sep_inj (barFree_textOrEmpty _) (barFree_textOrEmpty _) htracking.2
  have hindex := sep_append_inj (barFree_toString m) (barFree_toString n) hpanel.2
  refine ⟨String.toList_inj.mp hpublic.1, ?_, toString_injective (String.toList_inj.mp hindex.2)⟩
  simp only [IdentityOwner.scope, IdentityScope.bundle.injEq]
  exact ⟨textOrEmpty_injective (String.toList_inj.mp hpanel.1), String.toList_inj.mp hindex.1⟩

/-- A client of one inbound never has the base of a client of a bundle. -/
theorem orderIdentityBase_ne_multi (o o' : Order) (i : Inbound) (is : List Inbound) (m n : ℕ) :
    orderIdentityBase o i m ≠ multiInboundOrderIdentityBase o' is n := by
  intro h
  have hlist := congrArg String.toList h
  rw [toList_orderIdentityBase, toList_multiInboundOrderIdentityBase] at hlist
  have hkind := List.append_cancel_left hlist
  have hname := append_sep_inj (by decide) (by decide) (List.cons.inj hkind).2
  exact absurd hname.1 (by decide)

variable {x y : IdentityRequest}

theorem base_inj (hx : PlainTexts x.order) (hy : PlainTexts y.order) (h : x.base = y.base) :
    x.order.publicId = y.order.publicId ∧ x.owner.scope = y.owner.scope ∧
      x.packedIndex = y.packedIndex := by
  unfold IdentityRequest.base at h
  cases hxo : x.owner <;> cases hyo : y.owner <;> simp only [hxo, hyo] at h
  case inbound.inbound | inbound.source | source.inbound | source.source =>
    exact orderIdentityBase_inj hx hy h
  case bundle.bundle | bundle.rule | rule.bundle | rule.rule =>
    exact multiInboundOrderIdentityBase_inj hx hy h
  case inbound.bundle | inbound.rule | source.bundle | source.rule =>
    exact absurd h (orderIdentityBase_ne_multi _ _ _ _ _ _)
  case bundle.inbound | bundle.source | rule.inbound | rule.source =>
    exact absurd h.symm (orderIdentityBase_ne_multi _ _ _ _ _ _)

/-! ## Collisions -/

theorem uuid_identity (db : Db) (r : IdentityRequest) :
    (r.identity platform db).uuid = platform.hash.uuid5 r.base := by
  unfold IdentityRequest.identity IdentityRequest.base
  cases r.owner <;> rfl

/-- One order, one scope and one packed index make one identity. -/
theorem identity_eq_of_clash (db : Db) (horder : x.order = y.order)
    (hscope : x.owner.scope = y.owner.scope) (hindex : x.packedIndex = y.packedIndex) :
    x.identity platform db = y.identity platform db := by
  unfold IdentityRequest.identity
  rw [horder, hindex]
  cases hxo : x.owner <;> cases hyo : y.owner <;> rw [hxo, hyo] at hscope
  case inbound.inbound | inbound.source | source.inbound | source.source =>
    simp only [IdentityOwner.scope, IdentityScope.inbound.injEq] at hscope
    simp only [orderIdentity, orderIdentityBase, hscope]
  case bundle.bundle | bundle.rule | rule.bundle | rule.rule =>
    simp only [IdentityOwner.scope, IdentityScope.bundle.injEq] at hscope
    simp only [multiInboundOrderIdentity, multiInboundOrderIdentityBase, hscope]
  all_goals exact absurd hscope (by simp [IdentityOwner.scope])

/-- Requests of the orders of one shop, whose bases the digest tells apart. -/
structure OfOneShop (db : Db) (rs : List IdentityRequest) : Prop where
  known : ∀ r ∈ rs, db.orders.get? r.order.pk = some r.order
  publicId_unique : ∀ o ∈ db.orders.rows, ∀ o' ∈ db.orders.rows,
    o.publicId = o'.publicId → o.pk = o'.pk
  plainTexts : ∀ r ∈ rs, PlainTexts r.order
  digest_injective : ∀ x ∈ rs, ∀ y ∈ rs,
    platform.hash.uuid5 x.base = platform.hash.uuid5 y.base → x.base = y.base

variable {platform}

theorem OfOneShop.order_eq {db : Db} {rs : List IdentityRequest} (h : OfOneShop platform db rs)
    (hx : x ∈ rs) (hy : y ∈ rs) (hpk : x.order.pk = y.order.pk) : x.order = y.order := by
  have hknown := h.known x hx
  rw [hpk, h.known y hy] at hknown
  exact (Option.some_inj.mp hknown).symm

theorem uuid_eq_iff_clash {db : Db} {rs : List IdentityRequest} (h : OfOneShop platform db rs)
    (hx : x ∈ rs) (hy : y ∈ rs) :
    (x.identity platform db).uuid = (y.identity platform db).uuid ↔ x.Clash y := by
  constructor
  · intro huuid
    rw [uuid_identity, uuid_identity] at huuid
    have hbase := base_inj (h.plainTexts x hx) (h.plainTexts y hy)
      (h.digest_injective x hx y hy huuid)
    have hpk : x.order.pk = y.order.pk :=
      h.publicId_unique x.order (Table.get?_eq_some_iff.mp (h.known x hx)).1 y.order
        (Table.get?_eq_some_iff.mp (h.known y hy)).1 hbase.1
    exact ⟨hpk, hbase.2⟩
  · rintro ⟨hpk, hscope, hindex⟩
    rw [identity_eq_of_clash platform db (h.order_eq hx hy hpk) hscope hindex]

/-! ## The order of a bundle -/

theorem insertionSort_eq_of_perm {as bs : List String} (h : as.Perm bs) :
    as.insertionSort (· ≤ ·) = bs.insertionSort (· ≤ ·) := by
  have hperm : (as.insertionSort (· ≤ ·)).Perm (bs.insertionSort (· ≤ ·)) :=
    (as.perm_insertionSort (· ≤ ·)).trans (h.trans (bs.perm_insertionSort (· ≤ ·)).symm)
  exact hperm.eq_of_pairwise' (as.pairwise_insertionSort (· ≤ ·)) (bs.pairwise_insertionSort (· ≤ ·))

theorem head?_panel_eq {is : List Inbound} {p : ℕ} (hpanel : ∀ i ∈ is, i.panel = p) (h : is ≠ []) :
    is.head?.map (·.panel) = some p := by
  cases is with
  | nil => exact absurd rfl h
  | cons i is => simpa using hpanel i List.mem_cons_self

/-- The identity of a bundle of one panel does not depend on the order of its inbounds. -/
theorem multiInboundOrderIdentity_perm (db : Db) (o : Order) {is js : List Inbound} {p : ℕ}
    (h : is.Perm js) (hpanel : ∀ i ∈ is, i.panel = p) (index : ℕ) :
    multiInboundOrderIdentity platform db o is index =
      multiInboundOrderIdentity platform db o js index := by
  have hkeys := insertionSort_eq_of_perm (h.map inboundRemoteKey)
  have hhead : is.head?.map (·.panel) = js.head?.map (·.panel) := by
    by_cases hnil : is = []
    · subst hnil
      rw [List.nil_perm.mp h]
    · have hnil' : js ≠ [] := fun hjs => hnil (List.perm_nil.mp (hjs ▸ h))
      rw [head?_panel_eq hpanel hnil,
        head?_panel_eq (fun i hi => hpanel i (h.mem_iff.mpr hi)) hnil']
  simp only [multiInboundOrderIdentity, multiInboundOrderIdentityBase, hkeys, hhead]

/-- Bundles of one panel get their identity in any order, and different requests get different
identities, exactly when no two different ones clash: one order, one scope and one packed index. -/
theorem identities_collision_free_iff (platform : Platform) (db : Db) (rs : List IdentityRequest)
    (h : OfOneShop platform db rs) :
    ((∀ (o : Order) (is js : List Inbound) (p index : ℕ), is.Perm js → (∀ i ∈ is, i.panel = p) →
        multiInboundOrderIdentity platform db o is index =
          multiInboundOrderIdentity platform db o js index) ∧
      ∀ x ∈ rs, ∀ y ∈ rs, ¬ x.Same y →
        (x.identity platform db).uuid ≠ (y.identity platform db).uuid ∧
          x.identity platform db ≠ y.identity platform db) ↔
      ∀ x ∈ rs, ∀ y ∈ rs, ¬ x.Same y → ¬ x.Clash y := by
  constructor
  · exact fun hdiffer x hx y hy hsame hclash =>
      (hdiffer.2 x hx y hy hsame).1 ((uuid_eq_iff_clash h hx hy).mpr hclash)
  · refine fun hclash => ⟨fun o is js p index hperm hpanel =>
      multiInboundOrderIdentity_perm db o hperm hpanel index, fun x hx y hy hsame => ?_⟩
    have huuid : (x.identity platform db).uuid ≠ (y.identity platform db).uuid :=
      fun heq => hclash x hx y hy hsame ((uuid_eq_iff_clash h hx hy).mp heq)
    exact ⟨huuid, fun heq => huuid (congrArg ClientIdentity.uuid heq)⟩

/-! ## A large quantity -/

def sharedInbound : Inbound := { pk := 7, panel := 4, inboundId := 3 }

def bulkOrder : Order := { pk := 1, publicId := "o1", orderTrackingCode := "T1", plan := 3 }

/-- The last client of a source of quantity 1001. -/
def lastOfBulk : IdentityRequest :=
  { order := bulkOrder, owner := .source 1 sharedInbound, index := 1001 }

/-- The first client of the next source. -/
def firstOfNext : IdentityRequest :=
  { order := bulkOrder, owner := .source 2 sharedInbound, index := 1 }

def bulkShop : Db where
  orders := Table.empty.put bulkOrder
  sms := .empty
  clients := .empty
  inbounds := .empty
  panels := .empty
  plans := .empty
  stores := .empty
  automations := .empty

theorem bulk_ofOneShop : OfOneShop (.ofTables [] []) bulkShop [lastOfBulk, firstOfNext] where
  known := by decide
  publicId_unique := by decide
  plainTexts := by
    unfold PlainTexts barFree
    decide
  digest_injective := by
    have hbase : lastOfBulk.base = firstOfNext.base := rfl
    intro x hx y hy _
    simp only [List.mem_cons, List.not_mem_nil, or_false] at hx hy
    rcases hx with rfl | rfl <;> rcases hy with rfl | rfl <;> simp only [hbase]

/-- Two sources on one inbound share a client. -/
theorem bulk_sources_collide :
    OfOneShop (.ofTables [] []) bulkShop [lastOfBulk, firstOfNext] ∧
      ¬ lastOfBulk.Same firstOfNext ∧
      lastOfBulk.identity (.ofTables [] []) bulkShop =
        firstOfNext.identity (.ofTables [] []) bulkShop :=
  ⟨bulk_ofOneShop, fun h => absurd h.2.1 (by decide : (1 : ℕ) ≠ 2),
    identity_eq_of_clash _ _ rfl rfl rfl⟩

/-- The rule at those two requests. -/
theorem bulk_rule :
    ((∀ (o : Order) (is js : List Inbound) (p index : ℕ), is.Perm js → (∀ i ∈ is, i.panel = p) →
        multiInboundOrderIdentity (.ofTables [] []) bulkShop o is index =
          multiInboundOrderIdentity (.ofTables [] []) bulkShop o js index) ∧
      ∀ x ∈ [lastOfBulk, firstOfNext], ∀ y ∈ [lastOfBulk, firstOfNext], ¬ x.Same y →
        (x.identity (.ofTables [] []) bulkShop).uuid ≠
            (y.identity (.ofTables [] []) bulkShop).uuid ∧
          x.identity (.ofTables [] []) bulkShop ≠ y.identity (.ofTables [] []) bulkShop) ↔
      ∀ x ∈ [lastOfBulk, firstOfNext], ∀ y ∈ [lastOfBulk, firstOfNext],
        ¬ x.Same y → ¬ x.Clash y :=
  identities_collision_free_iff (.ofTables [] []) bulkShop [lastOfBulk, firstOfNext] bulk_ofOneShop

end Qasedak.Orders
