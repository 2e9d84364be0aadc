import Qasedak.Foundation.Silence
import Qasedak.Orders.AdminGrants
import Qasedak.Orders.StockAccounting

/-! The assignment of an existing configuration: it allocates one asset at most, and it sends
nothing to a panel. -/

namespace Qasedak.Orders

open Foundation Store Panels Prog

variable {now : Instant} {k : ℕ} {α : Type} {s s' : Shop}

/-! ## Requests -/

theorem silent_getOrder : Silent (getOrder k) :=
  (silent_readDb _).bind fun _ => silent_orRaise _ _

theorem silent_ensureCup : Silent (ensureCup k) := by
  refine (silent_readDb _).bind fun db => ?_
  split
  · exact silent_pure _
  · exact (silent_writeDb _).bind fun _ => silent_pure _

theorem silent_writeAllocations {assets : List ℕ} {cup order : Option ℕ} {mode : AllocationMode} :
    Silent (writeAllocations assets cup order mode) :=
  (silent_writeDb _).bind fun _ => Silent.forEach fun _ _ =>
    (silent_readDb _).bind fun _ => (silent_writeDb _).bind fun _ => silent_pure _

theorem silent_allocateSelectedAssetsFromPool {pool : Option ℕ} {selected : List ℕ}
    {cup order : Option ℕ} {mode : Option AllocationMode} :
    Silent (allocateSelectedAssetsFromPool now pool selected cup order mode) := by
  refine (silent_readDb _).bind fun _ => (silent_orRaise _ _).bind fun _ => ?_
  refine Silent.ite (silent_raise _) (Silent.ite (silent_raise _) (Silent.ite (silent_raise _) ?_))
  exact Silent.ite (silent_raise _) ((silent_ofExcept _).bind fun _ => silent_writeAllocations)

variable (checkLink : LinkCheck)

theorem silent_createCupItems {cup : ℕ} {allocations : List ConfigAllocation} :
    Silent (createCupItems checkLink cup allocations) :=
  Silent.forEach fun _ _ => (silent_readDb _).bind fun _ => (silent_orRaise _ _).bind fun _ =>
    (silent_ofExcept _).bind fun _ => silent_writeDb _

theorem silent_addInventoryAssetToCup {cup pool asset : ℕ} :
    Silent (addInventoryAssetToCup checkLink now cup pool asset) := by
  refine Silent.onError (Silent.atomic ?_) fun _ => silent_pure _
  refine silent_allocateSelectedAssetsFromPool.bind fun _ => ?_
  exact (silent_createCupItems checkLink).bind fun _ => silent_pure _

theorem silent_assignInventoryAsset {asset : ℕ} :
    Silent (assignInventoryAsset checkLink now k asset) := by
  refine silent_getOrder.bind fun o => (silent_readDb _).bind fun db => ?_
  split
  · exact silent_pure _
  · refine silent_ensureCup.bind fun cup => ?_
    refine (silent_addInventoryAssetToCup checkLink).bind fun error => ?_
    exact Silent.ite ((silent_writeDb _).bind fun _ => silent_pure _) (silent_pure _)

variable {delivery : Delivery} {actor : Option ℕ} {notify : Bool}

theorem silent_completeInventoryAssignment
    (h : ∀ now order asset, Silent (delivery.assignAsset now order asset)) :
    Silent (completeInventoryAssignment delivery now actor notify k) := by
  refine Silent.bind (Silent.atomic ?_) fun outcome => ?_
  · refine silent_getOrder.bind fun o => (silent_readDb _).bind fun db => ?_
    refine Silent.ite (silent_pure _) (Silent.ite (silent_pure _) (Silent.ite (silent_pure _) ?_))
    refine (h _ _ _).bind fun error => ?_
    cases error with
    | some e => exact (silent_writeDb _).bind fun _ => silent_pure _
    | none => exact (silent_writeDb _).bind fun _ => silent_pure _
  · cases outcome with
    | answered r => exact silent_pure _
    | attempted r =>
        exact Silent.ite ((silent_remoteRead _ _).bind fun _ => silent_pure _) (silent_pure _)

/-! ## Allocations -/

/-- How many allocations there are. -/
def Db.allocationCount (db : Db) : ℕ := db.allocations.rows.length

/-- At most one allocation is added, however the program ends. -/
def AllocatesOne (p : ShopM α) : Prop :=
  ∀ s, wp p (fun _ s' => s'.db.allocationCount ≤ s.db.allocationCount + 1)
    (fun _ s' => s'.db.allocationCount ≤ s.db.allocationCount + 1) s

variable {β : Type} {p : ShopM β} {f : β → ShopM α}

theorem AllocatesOne.of_keeps {p : ShopM α} (hp : Keeps Db.allocationCount p) : AllocatesOne p :=
  fun s => wp_mono (hp s) (fun _ _ h => h.view.le.trans (Nat.le_succ _))
    fun _ _ h => h.1.view.le.trans (Nat.le_succ _)

/-- The allocation is in the first part. -/
theorem AllocatesOne.bind_keeps (hp : AllocatesOne p)
    (hf : ∀ b, Keeps Db.allocationCount (f b)) : AllocatesOne (p >>= f) := by
  intro s
  rw [wp_bind]
  refine wp_mono (hp s) (fun b s' hs' => ?_) fun _ _ hs' => hs'
  exact wp_mono (hf b s') (fun _ _ h => h.view.le.trans hs') fun _ _ h => h.1.view.le.trans hs'

/-- The allocation is in the second part. -/
theorem AllocatesOne.keeps_bind (hp : Keeps Db.allocationCount p)
    (hf : ∀ b, AllocatesOne (f b)) : AllocatesOne (p >>= f) := by
  intro s
  rw [wp_bind]
  refine wp_mono (hp s) (fun b s' hs' => ?_) fun _ s' hs' => hs'.1.view.le.trans (Nat.le_succ _)
  have hcount : s'.db.allocationCount = s.db.allocationCount := hs'.view
  exact wp_mono (hf b s') (fun _ _ h => hcount ▸ h) fun _ _ h => hcount ▸ h

theorem AllocatesOne.ite {c : Prop} [Decidable c] {p q : ShopM α} (hp : AllocatesOne p)
    (hq : AllocatesOne q) : AllocatesOne (if c then p else q) := by
  split
  · exact hp
  · exact hq

theorem AllocatesOne.atomic {p : ShopM α} (hp : AllocatesOne p) :
    AllocatesOne (Prog.atomic p) := by
  intro s
  rw [wp_atomic]
  exact wp_mono (hp s) (fun _ _ h => h) fun _ _ _ => Nat.le_succ _

theorem keepsCount_getOrder : Keeps Db.allocationCount (getOrder k) :=
  (keeps_readDb _).bind fun _ => keeps_orRaise _ _

theorem keepsCount_ensureCup : Keeps Db.allocationCount (ensureCup k) := by
  refine (keeps_readDb _).bind fun db => ?_
  split
  · exact keeps_pure _
  · exact (keeps_writeDb (by exact fun _ => rfl)).bind fun _ => keeps_pure _

theorem keepsCount_createCupItems {cup : ℕ} {allocations : List ConfigAllocation} :
    Keeps Db.allocationCount (createCupItems checkLink cup allocations) := by
  refine Keeps.forEach fun _ _ => (keeps_readDb _).bind fun _ => (keeps_orRaise _ _).bind fun _ => ?_
  exact (keeps_ofExcept _).bind fun _ => keeps_writeDb fun _ => rfl

theorem allocatesOne_allocateSelectedAssetsFromPool {pool cup order : Option ℕ} {asset : ℕ}
    {mode : Option AllocationMode} :
    AllocatesOne (allocateSelectedAssetsFromPool now pool [asset] cup order mode) := by
  intro s
  refine wp_mono wp_allocateSelectedAssetsFromPool ?_ ?_
  · rintro rows s' ⟨_, _, _, _, hnew, hallocates⟩
    have hone : rows.length = 1 := by simpa using congrArg List.length hnew.assets
    have hrows := congrArg List.length hallocates.rows
    simp only [List.length_append] at hrows
    simp only [Db.allocationCount]
    omega
  · intro _ s' h
    rw [h]
    exact Nat.le_succ _

/-- A refused allocation is rolled back: the error that is returned comes with none. -/
theorem allocatesOne_addInventoryAssetToCup {cup pool asset : ℕ} :
    AllocatesOne (addInventoryAssetToCup checkLink now cup pool asset) := by
  intro s
  rw [addInventoryAssetToCup, wp_onError, wp_atomic]
  have hbody : AllocatesOne (do
      let allocations ← allocateSelectedAssetsFromPool now (some pool) [asset] (some cup) none none
      createCupItems checkLink cup allocations
      return (none : Option String)) :=
    allocatesOne_allocateSelectedAssetsFromPool.bind_keeps fun _ =>
      (keepsCount_createCupItems checkLink).bind fun _ => keeps_pure _
  refine wp_mono (hbody s) (fun _ _ h => h) fun h s' _ => ?_
  cases h with
  | crashed => exact Nat.le_succ _
  | raised e => exact Nat.le_succ _

theorem allocatesOne_assignInventoryAsset {asset : ℕ} :
    AllocatesOne (assignInventoryAsset checkLink now k asset) := by
  refine .keeps_bind keepsCount_getOrder fun o => .keeps_bind (keeps_readDb _) fun db => ?_
  split
  · exact .of_keeps (keeps_pure _)
  · refine .keeps_bind keepsCount_ensureCup fun cup => ?_
    refine (allocatesOne_addInventoryAssetToCup checkLink).bind_keeps fun error => ?_
    refine Keeps.ite (Keeps.bind (keeps_writeDb fun db => ?_) fun _ => keeps_pure _) (keeps_pure _)
    -- The rows only learn their order.
    exact List.length_map _

theorem allocatesOne_completeInventoryAssignment
    (h : ∀ now order asset, AllocatesOne (delivery.assignAsset now order asset)) :
    AllocatesOne (completeInventoryAssignment delivery now actor notify k) := by
  refine AllocatesOne.bind_keeps (AllocatesOne.atomic ?_) fun outcome => ?_
  · refine .keeps_bind keepsCount_getOrder fun o => .keeps_bind (keeps_readDb _) fun db => ?_
    refine .ite (.of_keeps (keeps_pure _)) (.ite (.of_keeps (keeps_pure _)) ?_)
    refine .ite (.of_keeps (keeps_pure _)) ((h _ _ _).bind_keeps fun error => ?_)
    cases error with
    | some e => exact (keeps_writeDb (by exact fun _ => rfl)).bind fun _ => keeps_pure _
    | none => exact (keeps_writeDb (by exact fun _ => rfl)).bind fun _ => keeps_pure _
  · cases outcome with
    | answered r => exact keeps_pure _
    | attempted r =>
        exact Keeps.ite ((keeps_remoteRead _ _).bind fun _ => keeps_pure _) (keeps_pure _)

end Qasedak.Orders
