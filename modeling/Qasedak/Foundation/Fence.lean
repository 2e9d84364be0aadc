import Qasedak.Foundation.Run

/-! Fencing tokens: whoever takes the fence puts a fresh token on it, and only the one whose token
is on it may write. The token of one who was overtaken never comes back. -/

namespace Foundation

variable {τ : Type*} [DecidableEq τ]

structure Fence (τ : Type*) where
  current : Option τ
  /-- The tokens that were ever taken. -/
  used : List τ
  deriving DecidableEq

inductive FenceStep (τ : Type*) where
  | take (t : τ)
  | drop (t : τ)
  | rest
  deriving DecidableEq

namespace Fence

def step (s : Fence τ) : FenceStep τ → Fence τ
  | .take t => { current := some t, used := t :: s.used }
  | .drop t => if s.current = some t then { s with current := none } else s
  | .rest => s

theorem step_drop {s : Fence τ} {t : τ} (h : s.current = some t) :
    s.step (.drop t) = { s with current := none } :=
  if_pos h

theorem step_drop_of_ne {s : Fence τ} {t : τ} (h : s.current ≠ some t) : s.step (.drop t) = s :=
  if_neg h

/-- A token is taken once. -/
def Fresh (s : Fence τ) : FenceStep τ → Prop
  | .take t => t ∉ s.used
  | .drop _ => True
  | .rest => True

/-- The token was taken, and is on the fence no more. -/
def Overtaken (t : τ) (s : Fence τ) : Prop := t ∈ s.used ∧ s.current ≠ some t

theorem mem_used_step {s : Fence τ} {t : τ} (a : FenceStep τ) (h : t ∈ s.used) :
    t ∈ (s.step a).used := by
  cases a with
  | take t' => exact List.mem_cons_of_mem t' h
  | drop t' =>
      by_cases hdrop : s.current = some t'
      · rw [step_drop hdrop]
        exact h
      · rw [step_drop_of_ne hdrop]
        exact h
  | rest => exact h

theorem overtaken_of_take {s : Fence τ} {t t' : τ} (h : t ∈ s.used) (hfresh : s.Fresh (.take t')) :
    (s.step (.take t')).Overtaken t := by
  refine ⟨mem_used_step _ h, fun hsame => hfresh ?_⟩
  obtain rfl : t' = t := Option.some.inj hsame
  exact h

theorem Overtaken.step {s : Fence τ} {t : τ} (h : s.Overtaken t) {a : FenceStep τ}
    (hfresh : s.Fresh a) : (s.step a).Overtaken t := by
  cases a with
  | take t' => exact overtaken_of_take h.1 hfresh
  | drop t' =>
      refine ⟨mem_used_step _ h.1, ?_⟩
      by_cases hdrop : s.current = some t'
      · rw [step_drop hdrop]
        simp
      · rw [step_drop_of_ne hdrop]
        exact h.2
  | rest => exact h

/-- Whoever is overtaken stays so. -/
theorem Overtaken.run {s : Fence τ} {t : τ} {steps : List (FenceStep τ)} (h : s.Overtaken t)
    (hsteps : Guarded Fence.step Fresh s steps) : (run Fence.step s steps).Overtaken t :=
  hsteps.invariant (fun _ _ hs hfresh => hs.step hfresh) h

end Fence

end Foundation
