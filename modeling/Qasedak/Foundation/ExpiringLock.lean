import Mathlib.Logic.Function.Basic
import Mathlib.Order.Basic

/-! Locks of a cache: an entry is added under a key that has none, or has one that expired, and
whoever deletes a key deletes the entry of whoever added it. An entry that was lost does not come
back to the one who lost it. -/

namespace Foundation

/-- An entry, with the one who added it. -/
structure Lock (κ τ : Type*) where
  holder : κ
  deadline : τ
  deriving DecidableEq, Repr

/-- An expired entry stays until another takes its place. -/
abbrev Locks (K κ τ : Type*) := K → Option (Lock κ τ)

namespace Locks

variable {K κ τ : Type*} [DecidableEq K] {locks : Locks K κ τ} {k l : K} {i j : κ} {d : τ}

/-- `cache.add` goes through. -/
def IsFree [LE τ] (locks : Locks K κ τ) (k : K) (now : τ) : Prop :=
  ∀ lock ∈ locks k, lock.deadline ≤ now

instance [LE τ] [DecidableLE τ] (locks : Locks K κ τ) (k : K) (now : τ) :
    Decidable (locks.IsFree k now) :=
  inferInstanceAs (Decidable (∀ lock ∈ locks k, lock.deadline ≤ now))

def add (locks : Locks K κ τ) (k : K) (i : κ) (d : τ) : Locks K κ τ :=
  Function.update locks k (some ⟨i, d⟩)

def delete (locks : Locks K κ τ) (k : K) : Locks K κ τ :=
  Function.update locks k none

/-- The entry is that of `i`. -/
def HeldBy (locks : Locks K κ τ) (k : K) (i : κ) : Prop := ∃ lock ∈ locks k, lock.holder = i

instance [DecidableEq κ] (locks : Locks K κ τ) (k : K) (i : κ) : Decidable (locks.HeldBy k i) :=
  inferInstanceAs (Decidable (∃ lock ∈ locks k, lock.holder = i))

omit [DecidableEq K] in
theorem HeldBy.unique (hi : locks.HeldBy k i) (hj : locks.HeldBy k j) : i = j := by
  obtain ⟨a, ha, rfl⟩ := hi
  obtain ⟨b, hb, rfl⟩ := hj
  rw [Option.mem_unique ha hb]

theorem heldBy_add_self : (locks.add k i d).HeldBy k i :=
  ⟨⟨i, d⟩, by simp [add], rfl⟩

/-- Others hold no more than they did. -/
theorem HeldBy.of_add (h : (locks.add k j d).HeldBy l i) (hij : i ≠ j) : locks.HeldBy l i := by
  by_cases hl : l = k
  · subst hl
    exact absurd (h.unique heldBy_add_self) hij
  · simpa [add, HeldBy, hl] using h

theorem HeldBy.of_delete (h : (locks.delete k).HeldBy l i) : locks.HeldBy l i := by
  by_cases hl : l = k
  · subst hl
    simp [delete, HeldBy] at h
  · simpa [delete, HeldBy, hl] using h

end Locks

end Foundation
