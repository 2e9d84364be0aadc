import Mathlib.Order.Basic
import Qasedak.Foundation.Frame

/-! Programs that take nothing away: what a view shows of the database before is there
afterwards, however the program ends. -/

namespace Foundation

namespace Prog

variable {δ ρ κ ε α β γ : Type} [Preorder γ] {view : δ → γ} {s s' : Sys δ ρ κ}

/-- The view only grows, whether or not the program returns. -/
def Grows (view : δ → γ) (p : Prog δ ρ κ ε α) : Prop :=
  ∀ s, wp p (fun _ s' => view s.db ≤ view s'.db) (fun _ s' => view s.db ≤ view s'.db) s

theorem Grows.snd {p : Prog δ ρ κ ε α} (hp : Grows view p) (s : Sys δ ρ κ) :
    view s.db ≤ view (p s).2.db :=
  snd_of_wp (P := fun s' => view s.db ≤ view s'.db) (hp s)

/-- What follows a part under which the view has grown. -/
theorem Grows.after {p : Prog δ ρ κ ε α} (hp : Grows view p) (h : view s.db ≤ view s'.db) :
    wp p (fun _ s'' => view s.db ≤ view s''.db) (fun _ s'' => view s.db ≤ view s''.db) s' :=
  wp_mono (hp s') (fun _ _ hs => h.trans hs) fun _ _ hs => h.trans hs

theorem Grows.bind {p : Prog δ ρ κ ε β} {f : β → Prog δ ρ κ ε α} (hp : Grows view p)
    (hf : ∀ b, Grows view (f b)) : Grows view (p >>= f) := by
  intro s
  rw [wp_bind]
  exact wp_mono (hp s) (fun b s' hs' => (hf b).after hs') fun _ _ hs' => hs'

theorem Grows.ite {c : Prop} [Decidable c] {p q : Prog δ ρ κ ε α} (hp : Grows view p)
    (hq : Grows view q) : Grows view (if c then p else q) := by
  split
  · exact hp
  · exact hq

theorem Grows.atomic {p : Prog δ ρ κ ε α} (hp : Grows view p) : Grows view (atomic p) := by
  intro s
  rw [wp_atomic]
  exact wp_mono (hp s) (fun _ _ hs' => hs') fun _ _ _ => le_rfl

theorem Grows.onError {p : Prog δ ρ κ ε α} {handler : ε → Prog δ ρ κ ε α} (hp : Grows view p)
    (hhandler : ∀ e, Grows view (handler e)) : Grows view (onError p handler) := by
  intro s
  rw [wp_onError]
  refine wp_mono (hp s) (fun _ _ hs' => hs') fun h s' hs' => ?_
  cases h with
  | crashed => exact hs'
  | raised e => exact (hhandler e).after hs'

theorem Grows.forEach {xs : List α} {b : β} {body : α → β → Prog δ ρ κ ε β}
    (hbody : ∀ x b, Grows view (body x b)) : Grows view (forEach xs b body) := by
  induction xs generalizing b with
  | nil => exact fun s => le_refl (view s.db)
  | cons x xs ih => exact (hbody x b).bind fun _ => ih

/-- A loop over elements of a kind. -/
theorem Grows.forEach_of_mem {xs : List α} {b : β} {body : α → β → Prog δ ρ κ ε β}
    (hbody : ∀ x ∈ xs, ∀ b, Grows view (body x b)) : Grows view (Prog.forEach xs b body) := by
  induction xs generalizing b with
  | nil => exact fun s => le_refl (view s.db)
  | cons x xs ih =>
      exact (hbody x List.mem_cons_self b).bind fun _ =>
        ih fun y hy => hbody y (List.mem_cons_of_mem x hy)

theorem grows_writeDb {f : δ → δ} (h : ∀ db, view db ≤ view (f db)) :
    Grows view (writeDb f : Prog δ ρ κ ε Unit) := fun s => h s.db

/-- A program that leaves alone what the view depends on. -/
theorem Leaves.grows {γ' : Type} {view' : δ → γ'} {p : Prog δ ρ κ ε α} (hp : Leaves view' p)
    (h : ∀ db db', view' db' = view' db → view db ≤ view db') : Grows view p := fun s =>
  wp_mono (hp s) (fun _ s' hs' => h s.db s'.db hs') fun _ s' hs' => h s.db s'.db hs'

theorem Keeps.grows {γ' : Type} {view' : δ → γ'} {p : Prog δ ρ κ ε α} (hp : Keeps view' p)
    (h : ∀ db db', view' db' = view' db → view db ≤ view db') : Grows view p :=
  hp.leaves.grows h

theorem grows_pure (a : α) : Grows view (pure a : Prog δ ρ κ ε α) := fun s => le_refl (view s.db)

theorem grows_raise (e : ε) : Grows view (raise e : Prog δ ρ κ ε α) := fun s =>
  le_refl (view s.db)

theorem Grows.caught {p : Prog δ ρ κ ε α} (hp : Grows view p) : Grows view (caught p) :=
  (hp.bind fun _ => grows_pure _).onError fun _ => grows_pure _

theorem grows_readDb (f : δ → α) : Grows view (readDb f : Prog δ ρ κ ε α) := fun s =>
  le_refl (view s.db)

/-! ## Invariants -/

variable {P : δ → Prop}

/-- What is read from the database comes from one that meets the invariant. -/
theorem grows_readDb_bind {g : δ → β} {f : β → Prog δ ρ κ ε α}
    (h : ∀ db, P db → Grows P (f (g db))) : Grows P (readDb g >>= f) := by
  intro s
  rw [wp_bind, wp_readDb]
  by_cases hP : P s.db
  · exact h s.db hP s
  · unfold wp
    split <;> exact fun hs => absurd hs hP

end Prog

end Foundation
