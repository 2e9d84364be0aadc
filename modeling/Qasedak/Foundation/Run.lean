import Mathlib.Data.List.Basic

/-! Runs of a deterministic system: an operation at a time, in the order given.
An invariant is proved for one operation and holds after every run. -/

namespace Foundation

variable {σ α : Type*}

/-- The state after the operations of a list, applied from the left. -/
def run (step : σ → α → σ) (s : σ) (ops : List α) : σ :=
  ops.foldl step s

@[simp] theorem run_nil (step : σ → α → σ) (s : σ) : run step s [] = s := rfl

@[simp] theorem run_cons (step : σ → α → σ) (s : σ) (a : α) (ops : List α) :
    run step s (a :: ops) = run step (step s a) ops := rfl

theorem run_append (step : σ → α → σ) (s : σ) (as bs : List α) :
    run step s (as ++ bs) = run step (run step s as) bs := by
  simp [run]

/-- Every operation of the run meets `ok` in the state it is applied to. -/
def Guarded (step : σ → α → σ) (ok : σ → α → Prop) : σ → List α → Prop
  | _, [] => True
  | s, a :: ops => ok s a ∧ Guarded step ok (step s a) ops

@[simp] theorem guarded_nil (step : σ → α → σ) (ok : σ → α → Prop) (s : σ) :
    Guarded step ok s [] := trivial

@[simp] theorem guarded_cons (step : σ → α → σ) (ok : σ → α → Prop) (s : σ) (a : α)
    (ops : List α) :
    Guarded step ok s (a :: ops) ↔ ok s a ∧ Guarded step ok (step s a) ops := Iff.rfl

instance Guarded.decidable {step : σ → α → σ} {ok : σ → α → Prop} [∀ s a, Decidable (ok s a)] :
    ∀ (s : σ) (ops : List α), Decidable (Guarded step ok s ops)
  | _, [] => inferInstanceAs (Decidable True)
  | s, a :: ops =>
      have : Decidable (Guarded step ok (step s a) ops) := Guarded.decidable (step s a) ops
      inferInstanceAs (Decidable (ok s a ∧ Guarded step ok (step s a) ops))

theorem guarded_append {step : σ → α → σ} {ok : σ → α → Prop} {s : σ} {as bs : List α} :
    Guarded step ok s (as ++ bs) ↔
      Guarded step ok s as ∧ Guarded step ok (run step s as) bs := by
  induction as generalizing s with
  | nil => simp
  | cons a as ih => simp [ih, and_assoc]

/-- What is known of the operations of the run joins the guard. -/
theorem Guarded.imp {step : σ → α → σ} {ok ok' : σ → α → Prop} {s : σ} {ops : List α}
    (hops : Guarded step ok s ops) (h : ∀ a ∈ ops, ∀ s, ok s a → ok' s a) :
    Guarded step ok' s ops := by
  induction ops generalizing s with
  | nil => trivial
  | cons a ops ih =>
      obtain ⟨ha, hrest⟩ := hops
      exact ⟨h a List.mem_cons_self s ha, ih hrest fun b hb => h b (List.mem_cons_of_mem a hb)⟩

theorem guarded_true {step : σ → α → σ} (s : σ) (ops : List α) :
    Guarded step (fun _ _ => True) s ops := by
  induction ops generalizing s with
  | nil => trivial
  | cons a ops ih => exact ⟨trivial, ih _⟩

/-- A guard that does not look at the state. -/
theorem guarded_const {step : σ → α → σ} {p : α → Prop} {s : σ} {ops : List α} :
    Guarded step (fun _ a => p a) s ops ↔ ∀ a ∈ ops, p a := by
  induction ops generalizing s with
  | nil => simp
  | cons a ops ih => simp [ih]

/-- Operations that are allowed in every state. -/
theorem Guarded.of_forall {step : σ → α → σ} {ok : σ → α → Prop} {ops : List α}
    (h : ∀ a ∈ ops, ∀ s, ok s a) (s : σ) : Guarded step ok s ops :=
  (guarded_true s ops).imp fun a ha s _ => h a ha s

/-- An invariant that every guarded operation keeps holds after every guarded run. -/
theorem Guarded.invariant {step : σ → α → σ} {ok : σ → α → Prop} {Inv : σ → Prop}
    (hstep : ∀ s a, Inv s → ok s a → Inv (step s a)) {s : σ} {ops : List α}
    (hops : Guarded step ok s ops) (hs : Inv s) : Inv (run step s ops) := by
  induction ops generalizing s with
  | nil => exact hs
  | cons a ops ih =>
      obtain ⟨ha, hrest⟩ := hops
      exact ih hrest (hstep s a hs ha)

/-- An invariant that every operation keeps holds after every run. -/
theorem run_invariant {step : σ → α → σ} {Inv : σ → Prop}
    (hstep : ∀ s a, Inv s → Inv (step s a)) {s : σ} (ops : List α) (hs : Inv s) :
    Inv (run step s ops) := by
  induction ops generalizing s with
  | nil => exact hs
  | cons a ops ih => exact ih (hstep s a hs)

/-- An operation that keeps an invariant exactly when it is allowed: the invariant holds in every
state of a run exactly when the run is guarded. -/
theorem invariant_iff_guarded {step : σ → α → σ} {ok : σ → α → Prop} {Inv : σ → Prop}
    (hstep : ∀ s a, Inv s → (Inv (step s a) ↔ ok s a)) {s : σ} (ops : List α) (hs : Inv s) :
    (∀ before after, ops = before ++ after → Inv (run step s before)) ↔ Guarded step ok s ops := by
  constructor
  · intro h
    induction ops generalizing s with
    | nil => trivial
    | cons a ops ih =>
        have hnext : Inv (step s a) := h [a] ops rfl
        refine ⟨(hstep s a hs).mp hnext, ih hnext fun before after hops => ?_⟩
        exact h (a :: before) after (by rw [hops, List.cons_append])
  · intro h before after hops
    subst hops
    exact (guarded_append.mp h).1.invariant (fun s a hs ha => (hstep s a hs).mpr ha) hs

end Foundation
