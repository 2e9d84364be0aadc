import Qasedak.Foundation.Frame
import Qasedak.Orders.Stock

/-! `topUpAllocations`: what a source or a rule has of its pool, and what it takes in addition.
It takes all that is missing, or nothing. -/

namespace Qasedak.Orders

open Foundation Store

variable {now : Instant} {pool : Option ℕ} {quantity : ℕ} {cup order : Option ℕ}
  {mode : Option AllocationMode} {has : ConfigAllocation → Bool}
  {label : ConfigAllocation → ConfigAllocation} {hlabel : ∀ a, (label a).pk = a.pk} {s : Shop}

theorem wp_labelAllocations {old done added : List ConfigAllocation}
    (hrows : s.db.allocations.rows = old ++ done.map label ++ added) :
    Prog.wp (Prog.forEach added () fun a _ =>
        Prog.writeDb (·.labelAllocation a.pk label hlabel) : ShopM Unit)
      (fun _ s' => s' = { s with db := { s.db with allocations := s'.db.allocations } } ∧
        s'.db.allocations.rows = old ++ (done ++ added).map label)
      (fun _ _ => False) s := by
  induction added generalizing s done with
  | nil =>
      rw [List.append_nil] at hrows ⊢
      exact ⟨rfl, hrows⟩
  | cons a added ih =>
      have hlabelled := Table.rows_modify_of_append hrows label hlabel
      have hnext : (s.db.labelAllocation a.pk label hlabel).allocations.rows =
          old ++ (done ++ [a]).map label ++ added := by
        rw [Db.labelAllocation, hlabelled]
        simp
      rw [Prog.forEach, Prog.wp_bind, Prog.wp_writeDb]
      refine Prog.wp_mono (ih (s := { s with db := s.db.labelAllocation a.pk label hlabel }) hnext)
        ?_ fun _ _ h => h
      rintro _ s' ⟨hshop, hrows'⟩
      refine ⟨?_, by simpa using hrows'⟩
      rw [hshop]
      rfl

/-- What is missing of the quantity that a source or a rule is to have. -/
def missingUnits (db : Db) (has : ConfigAllocation → Bool) (quantity : ℕ) : ℕ :=
  max quantity 1 - (db.allocations.rows.filter has).length

/-- The missing units were taken from the pool and labelled. -/
structure TopsUp (db db' : Db) (now : Instant) (p : InventoryPool) (missing : ℕ)
    (mode : AllocationMode) (cup order : Option ℕ) (label : ConfigAllocation → ConfigAllocation)
    (added : List ConfigAllocation) : Prop where
  new : NewAllocations (((slots db now p missing mode).take missing).map (·.pk)) cup order mode
    added
  allocates : Allocates db db' (((slots db now p missing mode).take missing).map (·.pk))
    (added.map label)
  length : added.length = missing

/-- A top-up has nothing to do, or takes what is missing, or fails and changes nothing. -/
theorem wp_topUpAllocations :
    Prog.wp (topUpAllocations now pool quantity cup order mode has label hlabel)
      (fun rows s' => (missingUnits s.db has quantity = 0 ∧ s' = s ∧
          rows = s.db.allocations.rows.filter has) ∨
        ∃ p added, 0 < missingUnits s.db has quantity ∧ pool.bind s.db.pools.get? = some p ∧
          InStock s.db now pool (missingUnits s.db has quantity) mode ∧
          TopsUp s.db s'.db now p (missingUnits s.db has quantity) (mode.getD p.allocationMode)
            cup order label added ∧
          rows = s.db.allocations.rows.filter has ++ added ∧ s' = { s with db := s'.db })
      (fun h s' => (∃ e, h = .raised e) ∧ s' = s ∧ 0 < missingUnits s.db has quantity ∧
        ¬ InStock s.db now pool (missingUnits s.db has quantity) mode) s := by
  rw [topUpAllocations, Prog.wp_bind, Prog.wp_readDb]
  dsimp only [id]
  rw [← missingUnits, Prog.wp_ite]
  refine ⟨fun hzero => .inl ⟨hzero, rfl, rfl⟩, fun hmissing => ?_⟩
  rw [Prog.wp_bind]
  refine Prog.wp_mono wp_allocateAssetsFromPool ?_ ?_
  · rintro added s' ⟨p, hpool, hstock, hnew, hallocates, hshop⟩
    have hrows : s'.db.allocations.rows =
        s.db.allocations.rows ++ ([] : List ConfigAllocation).map label ++ added := by
      rw [hallocates.rows]
      simp
    rw [Prog.wp_bind]
    refine Prog.wp_mono (wp_labelAllocations hrows) ?_ fun _ _ h => h.elim
    rintro _ s'' ⟨hlabelled, hrows'⟩
    have hlength : added.length = missingUnits s.db has quantity := by
      obtain ⟨q, hq, -, -, henough⟩ := hstock
      obtain rfl : q = p := Option.some.inj (hq.symm.trans hpool)
      rw [← List.length_map (·.asset), hnew.assets, List.length_map, List.length_take]
      omega
    refine .inr ⟨p, added, Nat.pos_of_ne_zero hmissing, hpool, hstock, ⟨hnew, ⟨?_, ?_⟩, hlength⟩,
      rfl, ?_⟩
    · rw [hlabelled]
      dsimp only
      rw [hallocates.frame]
    · rw [hrows', List.nil_append]
    · rw [hlabelled, hshop]
  · rintro h s' ⟨hraised, hsame, hstock⟩
    exact ⟨hraised, hsame, Nat.pos_of_ne_zero hmissing, hstock⟩

/-! ## What a top-up leaves alone -/

/-- The database without the assets and their allocations. -/
def Db.withoutStock (db : Db) : Db := { db with assets := .empty, allocations := .empty }

theorem keeps_allocateAssetsFromPool :
    Prog.Keeps Db.withoutStock (allocateAssetsFromPool now pool quantity cup order mode) := by
  refine (Prog.keeps_readDb _).bind fun db => (Prog.keeps_orRaise _ _).bind fun p => ?_
  refine Prog.Keeps.ite (Prog.keeps_raise _) (Prog.Keeps.ite (Prog.keeps_raise _) ?_)
  refine (Prog.keeps_ofExcept _).bind fun assets => Prog.Keeps.bind (Prog.keeps_writeDb ?_) fun _ => ?_
  · exact fun _ => rfl
  · refine Prog.Keeps.forEach fun a rows => (Prog.keeps_readDb _).bind fun db => ?_
    refine Prog.Keeps.bind (Prog.keeps_writeDb ?_) fun _ => Prog.keeps_pure _
    exact fun _ => rfl

theorem keeps_topUpAllocations : Prog.Keeps Db.withoutStock
    (topUpAllocations now pool quantity cup order mode has label hlabel) := by
  refine (Prog.keeps_readDb _).bind fun db => Prog.Keeps.ite (Prog.keeps_pure _) ?_
  refine keeps_allocateAssetsFromPool.bind fun added => Prog.Keeps.bind ?_ fun _ => Prog.keeps_pure _
  refine Prog.Keeps.forEach fun a _ => Prog.keeps_writeDb ?_
  exact fun _ => rfl

end Qasedak.Orders
