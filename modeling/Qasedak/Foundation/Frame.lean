import Qasedak.Foundation.Program
import Mathlib.Data.List.Basic

/-! Programs that leave a part of the database alone, however they end. The part is what
a view of the database shows. Such a program dies only where its process is killed. -/

namespace Foundation

namespace Prog

variable {δ ρ κ ε α β γ : Type}

/-- The view of the database is the same, and nothing kills the process later that did not
before. -/
structure Kept (view : δ → γ) (s s' : Sys δ ρ κ) : Prop where
  view : view s'.db = view s.db
  calm : Calm s.signals → Calm s'.signals

/-- Whatever happens, the view of the database is the same afterwards. -/
def Keeps (view : δ → γ) (p : Prog δ ρ κ ε α) : Prop :=
  ∀ s, wp p (fun _ s' => Kept view s s')
    (fun h s' => Kept view s s' ∧ (Calm s.signals → h ≠ .crashed)) s

variable {view : δ → γ} {s s' s'' : Sys δ ρ κ}

theorem Kept.refl (s : Sys δ ρ κ) : Kept view s s := ⟨rfl, id⟩

theorem Kept.next (s : Sys δ ρ κ) : Kept view s s.next := ⟨rfl, Calm.tail⟩

theorem Kept.trans (h : Kept view s s') (h' : Kept view s' s'') : Kept view s s'' :=
  ⟨h'.view.trans h.view, fun hcalm => h'.calm (h.calm hcalm)⟩

theorem keeps_pure (a : α) : Keeps view (pure a : Prog δ ρ κ ε α) := Kept.refl

theorem keeps_raise (e : ε) : Keeps view (raise e : Prog δ ρ κ ε α) := fun s =>
  ⟨Kept.refl s, fun _ h => by cases h⟩

theorem keeps_readDb (f : δ → α) : Keeps view (readDb f : Prog δ ρ κ ε α) := Kept.refl

theorem keeps_writeDb {f : δ → δ} (h : ∀ db, view (f db) = view db) :
    Keeps view (writeDb f : Prog δ ρ κ ε Unit) := fun s => ⟨h s.db, id⟩

theorem keeps_orRaise (e : ε) (o : Option α) : Keeps view (orRaise e o : Prog δ ρ κ ε α) := by
  cases o with
  | none => exact keeps_raise e
  | some a => exact keeps_pure a

theorem keeps_ofExcept (r : Except ε α) : Keeps view (ofExcept r : Prog δ ρ κ ε α) := by
  cases r with
  | ok a => exact keeps_pure a
  | error e => exact keeps_raise e

theorem keeps_remoteRead (lost : ε) (f : ρ → Except ε α) :
    Keeps view (remoteRead lost f : Prog δ ρ κ ε α) := by
  intro s
  refine wp_remoteRead (fun _ _ _ => Kept.next s) fun h hcrash => ⟨Kept.next s, fun hcalm hh => ?_⟩
  exact hcalm.signal (hcrash.mp hh)

theorem keeps_remoteWrite (lost : ε) (call : κ) (apply : ρ → Except ε (ρ × α)) :
    Keeps view (remoteWrite lost call apply) := by
  intro s
  refine wp_remoteWrite (fun _ _ _ _ => ⟨rfl, Calm.tail⟩) (fun h _ _ _ hlost => ?_)
    fun h s' hs' hcrash => ⟨?_, fun hcalm hh => hcalm.signal (hcrash.mp hh)⟩
  · refine ⟨⟨rfl, Calm.tail⟩, fun hcalm hh => hcalm.signal ?_⟩
    rcases hlost with ⟨-, hraised⟩ | ⟨hsignal, -⟩
    · rw [hraised] at hh
      cases hh
    · exact .inr hsignal
  · rcases hs' with rfl | rfl <;> exact ⟨rfl, Calm.tail⟩

/-- What follows a part that kept the view. -/
theorem Keeps.after {p : Prog δ ρ κ ε α} (hp : Keeps view p) (h : Kept view s s') :
    wp p (fun _ s'' => Kept view s s'')
      (fun e s'' => Kept view s s'' ∧ (Calm s.signals → e ≠ .crashed)) s' :=
  wp_mono (hp s') (fun _ _ hs => h.trans hs) fun _ _ hs =>
    ⟨h.trans hs.1, fun hcalm => hs.2 (h.calm hcalm)⟩

theorem Keeps.bind {p : Prog δ ρ κ ε β} {f : β → Prog δ ρ κ ε α} (hp : Keeps view p)
    (hf : ∀ b, Keeps view (f b)) : Keeps view (p >>= f) := by
  intro s
  rw [wp_bind]
  exact wp_mono (hp s) (fun b s' hs' => (hf b).after hs') fun _ _ hs' => hs'

theorem Keeps.ite {c : Prop} [Decidable c] {p q : Prog δ ρ κ ε α} (hp : Keeps view p)
    (hq : Keeps view q) : Keeps view (if c then p else q) := by
  split
  · exact hp
  · exact hq

theorem Keeps.onError {p : Prog δ ρ κ ε α} {handler : ε → Prog δ ρ κ ε α} (hp : Keeps view p)
    (hhandler : ∀ e, Keeps view (handler e)) : Keeps view (onError p handler) := by
  intro s
  rw [wp_onError]
  refine wp_mono (hp s) (fun _ _ hs' => hs') fun h s' hs' => ?_
  cases h with
  | crashed => exact hs'
  | raised e => exact (hhandler e).after hs'.1

theorem Keeps.caught {p : Prog δ ρ κ ε α} (hp : Keeps view p) : Keeps view (caught p) :=
  (hp.bind fun _ => keeps_pure _).onError fun _ => keeps_pure _

/-- A transaction that keeps the view keeps it also where it is undone. -/
theorem Keeps.atomic {p : Prog δ ρ κ ε α} (hp : Keeps view p) : Keeps view (atomic p) := by
  intro s
  rw [wp_atomic]
  exact wp_mono (hp s) (fun _ _ hkept => hkept) fun _ _ hkept =>
    ⟨⟨rfl, hkept.1.calm⟩, hkept.2⟩

theorem Keeps.forEach {xs : List α} {b : β} {body : α → β → Prog δ ρ κ ε β}
    (hbody : ∀ x b, Keeps view (body x b)) : Keeps view (forEach xs b body) := by
  induction xs generalizing b with
  | nil => exact keeps_pure b
  | cons x xs ih => exact (hbody x b).bind fun _ => ih

/-- A smaller part is left alone, too. -/
theorem Keeps.of_view {γ' : Type} {view' : δ → γ'} {p : Prog δ ρ κ ε α} (hp : Keeps view p)
    (h : ∀ db db', view db = view db' → view' db = view' db') : Keeps view' p := fun s =>
  wp_mono (hp s) (fun _ s' hs' => ⟨h s'.db s.db hs'.view, hs'.calm⟩) fun _ s' hs' =>
    ⟨⟨h s'.db s.db hs'.1.view, hs'.1.calm⟩, hs'.2⟩

/-! ## Without a word on how it ends -/

/-- The view is the same afterwards, whether or not the process was killed. -/
def Leaves (view : δ → γ) (p : Prog δ ρ κ ε α) : Prop :=
  ∀ s, wp p (fun _ s' => view s'.db = view s.db) (fun _ s' => view s'.db = view s.db) s

theorem Keeps.leaves {p : Prog δ ρ κ ε α} (hp : Keeps view p) : Leaves view p := fun s =>
  wp_mono (hp s) (fun _ _ hs => hs.view) fun _ _ hs => hs.1.view

/-- What follows a part that left the view alone. -/
theorem Leaves.after {p : Prog δ ρ κ ε α} (hp : Leaves view p) (h : view s'.db = view s.db) :
    wp p (fun _ s'' => view s''.db = view s.db) (fun _ s'' => view s''.db = view s.db) s' :=
  wp_mono (hp s') (fun _ _ hs => hs.trans h) fun _ _ hs => hs.trans h

theorem Leaves.bind {p : Prog δ ρ κ ε β} {f : β → Prog δ ρ κ ε α} (hp : Leaves view p)
    (hf : ∀ b, Leaves view (f b)) : Leaves view (p >>= f) := by
  intro s
  rw [wp_bind]
  exact wp_mono (hp s) (fun b s' hs' => (hf b).after hs') fun _ _ hs' => hs'

theorem Leaves.ite {c : Prop} [Decidable c] {p q : Prog δ ρ κ ε α} (hp : Leaves view p)
    (hq : Leaves view q) : Leaves view (if c then p else q) := by
  split
  · exact hp
  · exact hq

theorem Leaves.atomic {p : Prog δ ρ κ ε α} (hp : Leaves view p) : Leaves view (atomic p) := by
  intro s
  rw [wp_atomic]
  exact wp_mono (hp s) (fun _ _ hs' => hs') fun _ _ _ => rfl

theorem keeps_checkpoint : Keeps view (checkpoint : Prog δ ρ κ ε Unit) := fun s =>
  wp_checkpoint (fun _ => Kept.next s) fun hs => ⟨Kept.next s, fun hcalm => absurd hs hcalm.signal⟩

theorem wp_of_forall {p : Prog δ ρ κ ε α} {Q : α → Sys δ ρ κ → Prop}
    {X : Halt ε → Sys δ ρ κ → Prop} (hQ : ∀ a s', Q a s') (hX : ∀ h s', X h s') : wp p Q X s := by
  unfold wp
  rcases p s with ⟨r, s'⟩
  cases r with
  | ok a => exact hQ a s'
  | error h => exact hX h s'

/-- A program whose end holds whatever came before it. -/
theorem wp_bind_of_forall {p : Prog δ ρ κ ε β} {f : β → Prog δ ρ κ ε α}
    {Q : α → Sys δ ρ κ → Prop} (hf : ∀ b s', wp (f b) Q (fun _ _ => True) s') :
    wp (p >>= f) Q (fun _ _ => True) s := by
  rw [wp_bind]
  exact wp_of_forall hf fun _ _ => trivial

/-- A program whose errors are values raises none. -/
theorem wp_caught_value {p : Prog δ ρ κ ε α} {f : Except ε α → Prog δ ρ κ ε β}
    (hf : ∀ r s', wp (f r) (fun _ _ => True) (fun h _ => h = .crashed) s') :
    wp (Prog.caught p >>= f) (fun _ _ => True) (fun h _ => h = .crashed) s := by
  rw [wp_bind, wp_caught]
  refine wp_of_forall (fun a s' => hf _ s') fun h s' => ?_
  cases h with
  | crashed => rfl
  | raised e => exact hf _ s'

/-- Where nothing is raised and nothing kills the process, the program returns. -/
theorem Keeps.wp_returns {p : Prog δ ρ κ ε α} (hp : Keeps view p)
    (hraise : wp p (fun _ _ => True) (fun h _ => h = .crashed) s) (hcalm : Calm s.signals) :
    wp p (fun _ s' => Kept view s s') (fun _ _ => False) s :=
  wp_mono (Prog.wp_and (hp s) hraise) (fun _ _ h => h.1) fun _ _ h => h.1.2 hcalm h.2

/-- What holds of the view is still so where the program returns. -/
theorem Keeps.wp_and {p : Prog δ ρ κ ε α} {Q : α → Sys δ ρ κ → Prop}
    {X : Halt ε → Sys δ ρ κ → Prop} (hp : Keeps view p) (h : wp p Q X s) :
    wp p (fun a s' => Q a s' ∧ Kept view s s') X s :=
  wp_mono (Prog.wp_and h (hp s)) (fun _ _ h => h) fun _ _ h => h.1

end Prog

end Foundation
