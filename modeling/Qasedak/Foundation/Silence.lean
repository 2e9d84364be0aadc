import Qasedak.Foundation.Program

/-! Programs that send no write request to the remote service, however they end. -/

namespace Foundation

namespace Prog

variable {δ ρ κ ε α β : Type} {s s' : Sys δ ρ κ}

/-- The journal of write requests stays as it is. -/
def Silent (p : Prog δ ρ κ ε α) : Prop :=
  ∀ s, wp p (fun _ s' => s'.calls = s.calls) (fun _ s' => s'.calls = s.calls) s

/-- What follows a part that was silent. -/
theorem Silent.after {p : Prog δ ρ κ ε α} (hp : Silent p) (h : s'.calls = s.calls) :
    wp p (fun _ s'' => s''.calls = s.calls) (fun _ s'' => s''.calls = s.calls) s' :=
  wp_mono (hp s') (fun _ _ hs => hs.trans h) fun _ _ hs => hs.trans h

theorem silent_pure (a : α) : Silent (pure a : Prog δ ρ κ ε α) := fun _ => rfl

theorem silent_raise (e : ε) : Silent (raise e : Prog δ ρ κ ε α) := fun _ => rfl

theorem silent_readDb (f : δ → α) : Silent (readDb f : Prog δ ρ κ ε α) := fun _ => rfl

theorem silent_writeDb (f : δ → δ) : Silent (writeDb f : Prog δ ρ κ ε Unit) := fun _ => rfl

theorem silent_orRaise (e : ε) (o : Option α) : Silent (orRaise e o : Prog δ ρ κ ε α) := by
  cases o with
  | none => exact silent_raise e
  | some a => exact silent_pure a

theorem silent_ofExcept (r : Except ε α) : Silent (ofExcept r : Prog δ ρ κ ε α) := by
  cases r with
  | ok a => exact silent_pure a
  | error e => exact silent_raise e

theorem silent_remoteRead (lost : ε) (f : ρ → Except ε α) :
    Silent (remoteRead lost f : Prog δ ρ κ ε α) := fun _ =>
  wp_remoteRead (fun _ _ _ => rfl) fun _ _ => rfl

theorem Silent.bind {p : Prog δ ρ κ ε β} {f : β → Prog δ ρ κ ε α} (hp : Silent p)
    (hf : ∀ b, Silent (f b)) : Silent (p >>= f) := by
  intro s
  rw [wp_bind]
  exact wp_mono (hp s) (fun b s' hs' => (hf b).after hs') fun _ _ hs' => hs'

theorem Silent.ite {c : Prop} [Decidable c] {p q : Prog δ ρ κ ε α} (hp : Silent p)
    (hq : Silent q) : Silent (if c then p else q) := by
  split
  · exact hp
  · exact hq

theorem Silent.atomic {p : Prog δ ρ κ ε α} (hp : Silent p) : Silent (atomic p) := by
  intro s
  rw [wp_atomic]
  exact hp s

theorem Silent.onError {p : Prog δ ρ κ ε α} {handler : ε → Prog δ ρ κ ε α} (hp : Silent p)
    (hhandler : ∀ e, Silent (handler e)) : Silent (onError p handler) := by
  intro s
  rw [wp_onError]
  refine wp_mono (hp s) (fun _ _ hs' => hs') fun h s' hs' => ?_
  cases h with
  | crashed => exact hs'
  | raised e => exact (hhandler e).after hs'

theorem Silent.forEach {xs : List α} {b : β} {body : α → β → Prog δ ρ κ ε β}
    (hbody : ∀ x b, Silent (body x b)) : Silent (Prog.forEach xs b body) := by
  induction xs generalizing b with
  | nil => exact silent_pure b
  | cons x xs ih => exact (hbody x b).bind fun _ => ih

end Prog

end Foundation
