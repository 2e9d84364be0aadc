import Mathlib.Data.List.Basic
import Mathlib.Data.Nat.Notation

/-! Programs that work on a database in transactions and call a remote service whose
answers may be lost. A program returns, raises an error or dies with its process; a
transaction that does not return restores the database, and never the remote service.

Weakest preconditions take one postcondition for a return and one for the two ways a
program can halt. -/

namespace Foundation

/-- How a program ends that does not return. -/
inductive Halt (ε : Type) where
  | raised (e : ε)
  | crashed
  deriving DecidableEq, Repr

/-- What becomes of one interaction with the remote service. -/
inductive Signal where
  /-- It happens and the answer arrives. -/
  | acknowledged
  /-- It happens and the answer is lost. -/
  | unacknowledged
  /-- It does not happen, and the caller sees an error. -/
  | notApplied
  /-- The process dies before it. -/
  | crashBefore
  /-- It happens and the process dies. -/
  | crashAfter
  deriving DecidableEq, Repr

/-- The process dies at the interaction. -/
def Signal.Crashes (sig : Signal) : Prop := sig = .crashBefore ∨ sig = .crashAfter

instance (sig : Signal) : Decidable sig.Crashes := inferInstanceAs (Decidable (_ ∨ _))

/-- The database, the remote service, the write requests sent to it (the latest first,
each with whether it took effect), and the fate of the interactions to come; past their
end all are acknowledged. -/
structure Sys (δ ρ κ : Type) where
  db : δ
  remote : ρ
  calls : List (κ × Bool) := []
  signals : List Signal := []

namespace Sys

variable {δ ρ κ : Type}

/-- The fate of the next interaction. -/
def signal (s : Sys δ ρ κ) : Signal := s.signals.headD .acknowledged

/-- The system with that signal used up. -/
def next (s : Sys δ ρ κ) : Sys δ ρ κ := { s with signals := s.signals.tail }

@[simp] theorem next_db (s : Sys δ ρ κ) : s.next.db = s.db := rfl

@[simp] theorem next_remote (s : Sys δ ρ κ) : s.next.remote = s.remote := rfl

@[simp] theorem next_calls (s : Sys δ ρ κ) : s.next.calls = s.calls := rfl

@[simp] theorem next_signals (s : Sys δ ρ κ) : s.next.signals = s.signals.tail := rfl

/-- The system after a request that took effect. -/
def applied (s : Sys δ ρ κ) (call : κ) (remote : ρ) : Sys δ ρ κ :=
  { s.next with remote := remote, calls := (call, true) :: s.calls }

@[simp] theorem applied_db (s : Sys δ ρ κ) (call : κ) (remote : ρ) :
    (s.applied call remote).db = s.db := rfl

@[simp] theorem applied_remote (s : Sys δ ρ κ) (call : κ) (remote : ρ) :
    (s.applied call remote).remote = remote := rfl

@[simp] theorem applied_calls (s : Sys δ ρ κ) (call : κ) (remote : ρ) :
    (s.applied call remote).calls = (call, true) :: s.calls := rfl

@[simp] theorem applied_signals (s : Sys δ ρ κ) (call : κ) (remote : ρ) :
    (s.applied call remote).signals = s.signals.tail := rfl

/-- The system after a request without effect. -/
def refused (s : Sys δ ρ κ) (call : κ) : Sys δ ρ κ :=
  { s.next with calls := (call, false) :: s.calls }

@[simp] theorem refused_db (s : Sys δ ρ κ) (call : κ) : (s.refused call).db = s.db := rfl

@[simp] theorem refused_remote (s : Sys δ ρ κ) (call : κ) :
    (s.refused call).remote = s.remote := rfl

@[simp] theorem refused_calls (s : Sys δ ρ κ) (call : κ) :
    (s.refused call).calls = (call, false) :: s.calls := rfl

@[simp] theorem refused_signals (s : Sys δ ρ κ) (call : κ) :
    (s.refused call).signals = s.signals.tail := rfl

end Sys

/-- Programs over a database `δ`, a remote service `ρ` with calls `κ`, and errors `ε`. -/
def Prog (δ ρ κ ε α : Type) : Type :=
  Sys δ ρ κ → Except (Halt ε) α × Sys δ ρ κ

/-- No interaction to come kills the process. -/
def Calm (signals : List Signal) : Prop := ∀ sig ∈ signals, ¬ sig.Crashes

/-- The interaction happens. -/
def Signal.TakesEffect (sig : Signal) : Prop :=
  sig = .acknowledged ∨ sig = .unacknowledged ∨ sig = .crashAfter

instance (sig : Signal) : Decidable sig.TakesEffect := inferInstanceAs (Decidable (_ ∨ _ ∨ _))

/-- The interactions before the `n`th are answered, and the `n`th happens. -/
def Carried : ℕ → List Signal → Prop
  | 0, signals => (signals.headD .acknowledged).TakesEffect
  | n + 1, signals => signals.headD .acknowledged = .acknowledged ∧ Carried n signals.tail

/-- The process dies at an interaction that takes effect, or after one did. -/
def CrashAfterEffect : List Signal → Prop
  | [] => False
  | .notApplied :: rest => CrashAfterEffect rest
  | .crashBefore :: _ => False
  | .crashAfter :: _ => True
  | _ :: rest => ¬ Calm rest

theorem Calm.tail {signals : List Signal} (h : Calm signals) : Calm signals.tail :=
  fun sig hsig => h sig (List.mem_of_mem_tail hsig)

theorem Calm.signal {δ ρ κ : Type} {s : Sys δ ρ κ} (h : Calm s.signals) : ¬ s.signal.Crashes := by
  unfold Sys.signal
  cases hs : s.signals with
  | nil => simp [Signal.Crashes]
  | cons sig rest => exact h sig (by simp [hs])

/-- Where no crash follows an effect, an interaction that took effect is followed by calm. -/
theorem calm_of_effect {δ ρ κ : Type} {s : Sys δ ρ κ} (h : ¬ CrashAfterEffect s.signals)
    (hs : s.signal = .acknowledged ∨ s.signal = .unacknowledged) : Calm s.signals.tail := by
  unfold Sys.signal at hs
  cases hsig : s.signals with
  | nil => simp [Calm]
  | cons sig rest =>
      rw [hsig] at h hs
      rcases hs with hs | hs <;>
        simp only [List.headD_cons] at hs <;> subst hs <;>
        exact not_not.mp h

theorem not_crashAfter_of_effect {δ ρ κ : Type} {s : Sys δ ρ κ}
    (h : ¬ CrashAfterEffect s.signals) : s.signal ≠ .crashAfter := by
  unfold Sys.signal
  cases hsig : s.signals with
  | nil => simp
  | cons sig rest =>
      rintro rfl
      rw [hsig] at h
      exact h trivial

theorem Calm.not_crashAfterEffect {signals : List Signal} (h : Calm signals) :
    ¬ CrashAfterEffect signals := by
  induction signals with
  | nil => exact id
  | cons sig rest ih =>
      have hrest : Calm rest := h.tail
      cases sig with
      | acknowledged => exact not_not.mpr hrest
      | unacknowledged => exact not_not.mpr hrest
      | notApplied => exact ih hrest
      | crashBefore => exact id
      | crashAfter => exact absurd (.inr rfl) (h .crashAfter (by simp))

/-- The signals after an interaction that did not kill the process. -/
theorem not_crashAfterEffect_tail {δ ρ κ : Type} {s : Sys δ ρ κ}
    (h : ¬ CrashAfterEffect s.signals) (hs : ¬ s.signal.Crashes) :
    ¬ CrashAfterEffect s.signals.tail := by
  unfold Sys.signal at hs
  cases hsig : s.signals with
  | nil => exact id
  | cons sig rest =>
      rw [hsig] at h hs
      cases sig with
      | acknowledged => exact (not_not.mp h).not_crashAfterEffect
      | unacknowledged => exact (not_not.mp h).not_crashAfterEffect
      | notApplied => exact h
      | crashBefore => exact absurd (.inl rfl) hs
      | crashAfter => exact absurd (.inr rfl) hs

namespace Prog

variable {δ ρ κ ε α β : Type}

instance : Monad (Prog δ ρ κ ε) where
  pure a := fun s => (.ok a, s)
  bind p f := fun s =>
    match p s with
    | (.ok a, s') => f a s'
    | (.error h, s') => (.error h, s')

/-! ## Operations -/

def raise (e : ε) : Prog δ ρ κ ε α := fun s => (.error (.raised e), s)

def readDb (f : δ → α) : Prog δ ρ κ ε α := fun s => (.ok (f s.db), s)

def writeDb (f : δ → δ) : Prog δ ρ κ ε Unit := fun s => (.ok (), { s with db := f s.db })

/-- A value that may be missing, with the error for that case. -/
def orRaise (e : ε) : Option α → Prog δ ρ κ ε α
  | some a => pure a
  | none => raise e

def ofExcept : Except ε α → Prog δ ρ κ ε α
  | .ok a => pure a
  | .error e => raise e

/-- A point between two transactions, where the process may die. -/
def checkpoint : Prog δ ρ κ ε Unit := fun s =>
  match s.signal with
  | .crashBefore | .crashAfter => (.error .crashed, s.next)
  | _ => (.ok (), s.next)

/-- Ask the remote service, without changing it. -/
def remoteRead (lost : ε) (f : ρ → Except ε α) : Prog δ ρ κ ε α := fun s =>
  match s.signal with
  | .acknowledged => ofExcept (f s.remote) s.next
  | .unacknowledged | .notApplied => (.error (.raised lost), s.next)
  | .crashBefore | .crashAfter => (.error .crashed, s.next)

/-- Make the remote service do something; a request that it refuses changes nothing. -/
def remoteWrite (lost : ε) (call : κ) (apply : ρ → Except ε (ρ × α)) : Prog δ ρ κ ε α := fun s =>
  match s.signal, apply s.remote with
  | .acknowledged, .ok (remote, a) => (.ok a, s.applied call remote)
  | .acknowledged, .error e => (.error (.raised e), s.refused call)
  | .unacknowledged, .ok (remote, _) => (.error (.raised lost), s.applied call remote)
  | .crashAfter, .ok (remote, _) => (.error .crashed, s.applied call remote)
  | .crashAfter, .error _ => (.error .crashed, s.refused call)
  | .crashBefore, _ => (.error .crashed, s.next)
  | _, _ => (.error (.raised lost), s.refused call)

/-- A transaction: what it wrote to the database is undone unless it returns. -/
def atomic (p : Prog δ ρ κ ε α) : Prog δ ρ κ ε α := fun s =>
  match p s with
  | (.ok a, s') => (.ok a, s')
  | (.error h, s') => (.error h, { s' with db := s.db })

/-- Handle an error; a crash cannot be handled. -/
def onError (p : Prog δ ρ κ ε α) (handler : ε → Prog δ ρ κ ε α) : Prog δ ρ κ ε α := fun s =>
  match p s with
  | (.error (.raised e), s') => handler e s'
  | r => r

/-- An error as a value; a crash stays one. -/
def caught (p : Prog δ ρ κ ε α) : Prog δ ρ κ ε (Except ε α) :=
  onError (do
    let a ← p
    return .ok a) fun e => return .error e

/-- The elements in turn, with an accumulator. -/
def forEach (xs : List α) (b : β) (body : α → β → Prog δ ρ κ ε β) : Prog δ ρ κ ε β :=
  match xs with
  | [] => pure b
  | x :: xs => do
      let b' ← body x b
      forEach xs b' body

/-! ## Weakest preconditions -/

/-- Run from `s`, the program returns with `Q` or halts with `X`. -/
def wp (p : Prog δ ρ κ ε α) (Q : α → Sys δ ρ κ → Prop) (X : Halt ε → Sys δ ρ κ → Prop)
    (s : Sys δ ρ κ) : Prop :=
  match p s with
  | (.ok a, s') => Q a s'
  | (.error h, s') => X h s'

section Rules

variable {Q : α → Sys δ ρ κ → Prop} {X : Halt ε → Sys δ ρ κ → Prop} {s : Sys δ ρ κ}

theorem wp_mono {p : Prog δ ρ κ ε α} {Q' : α → Sys δ ρ κ → Prop}
    {X' : Halt ε → Sys δ ρ κ → Prop} (h : wp p Q X s) (hQ : ∀ a s', Q a s' → Q' a s')
    (hX : ∀ e s', X e s' → X' e s') : wp p Q' X' s := by
  unfold wp at h ⊢
  cases hp : p s with
  | mk r s' =>
      rw [hp] at h
      cases r with
      | ok a => exact hQ a s' h
      | error e => exact hX e s' h

/-- A property of every outcome holds of the system after the program. -/
theorem snd_of_wp {p : Prog δ ρ κ ε α} {P : Sys δ ρ κ → Prop}
    (h : wp p (fun _ s' => P s') (fun _ s' => P s') s) : P (p s).2 := by
  unfold wp at h
  rcases hp : p s with ⟨r, s'⟩
  rw [hp] at h
  cases r <;> exact h

theorem wp_and {p : Prog δ ρ κ ε α} {Q' : α → Sys δ ρ κ → Prop}
    {X' : Halt ε → Sys δ ρ κ → Prop} (h : wp p Q X s) (h' : wp p Q' X' s) :
    wp p (fun a s' => Q a s' ∧ Q' a s') (fun e s' => X e s' ∧ X' e s') s := by
  unfold wp at h h' ⊢
  cases hp : p s with
  | mk r s' =>
      rw [hp] at h h'
      cases r <;> exact ⟨h, h'⟩

@[simp] theorem wp_pure (a : α) : wp (pure a : Prog δ ρ κ ε α) Q X s ↔ Q a s := Iff.rfl

@[simp] theorem wp_bind (p : Prog δ ρ κ ε β) (f : β → Prog δ ρ κ ε α) :
    wp (p >>= f) Q X s ↔ wp p (fun b s' => wp (f b) Q X s') X s := by
  change wp (fun s => match p s with
    | (.ok a, s') => f a s'
    | (.error h, s') => (.error h, s')) Q X s ↔ _
  unfold wp
  rcases hp : p s with ⟨r, s'⟩
  cases r <;> simp [hp]

@[simp] theorem wp_raise (e : ε) : wp (raise e : Prog δ ρ κ ε α) Q X s ↔ X (.raised e) s := Iff.rfl

@[simp] theorem wp_readDb (f : δ → α) :
    wp (readDb f : Prog δ ρ κ ε α) Q X s ↔ Q (f s.db) s := Iff.rfl

@[simp] theorem wp_writeDb (f : δ → δ) {Q : Unit → Sys δ ρ κ → Prop} :
    wp (writeDb f : Prog δ ρ κ ε Unit) Q X s ↔ Q () { s with db := f s.db } := Iff.rfl

@[simp] theorem wp_atomic (p : Prog δ ρ κ ε α) :
    wp (atomic p) Q X s ↔ wp p Q (fun h s' => X h { s' with db := s.db }) s := by
  unfold wp atomic
  rcases hp : p s with ⟨r, s'⟩
  cases r <;> simp

@[simp] theorem wp_onError (p : Prog δ ρ κ ε α) (handler : ε → Prog δ ρ κ ε α) :
    wp (onError p handler) Q X s ↔
      wp p Q (fun h s' => match h with
        | .raised e => wp (handler e) Q X s'
        | .crashed => X .crashed s') s := by
  unfold wp onError
  rcases hp : p s with ⟨r, s'⟩
  cases r with
  | ok a => simp
  | error h => cases h <;> simp

/-- An error is answered with a value. -/
theorem wp_catch {p : Prog δ ρ κ ε α} {a : α} (h : wp p Q X s)
    (hcatch : ∀ e s', X (.raised e) s' → Q a s') : wp (onError p fun _ => pure a) Q X s := by
  rw [wp_onError]
  refine wp_mono h (fun _ _ hQ => hQ) fun e s' hX => ?_
  cases e with
  | raised e => exact hcatch e s' hX
  | crashed => exact hX

theorem wp_caught {p : Prog δ ρ κ ε α} {Q : Except ε α → Sys δ ρ κ → Prop} :
    wp (caught p) Q X s ↔
      wp p (fun a s' => Q (.ok a) s') (fun h s' => match h with
        | .raised e => Q (.error e) s'
        | .crashed => X .crashed s') s := by
  rw [caught, wp_onError, wp_bind]
  rfl

theorem wp_orRaise (e : ε) (o : Option α) :
    wp (orRaise e o : Prog δ ρ κ ε α) Q X s ↔
      match o with
      | some a => Q a s
      | none => X (.raised e) s := by
  cases o <;> rfl

theorem wp_ofExcept (r : Except ε α) :
    wp (ofExcept r : Prog δ ρ κ ε α) Q X s ↔
      match r with
      | .ok a => Q a s
      | .error e => X (.raised e) s := by
  cases r <;> rfl

/-- A check passes, or its error is raised. -/
theorem wp_check {r : Except ε α} (hok : ∀ a, r = .ok a → Q a s)
    (herror : ∀ e, r = .error e → X (.raised e) s) : wp (ofExcept r : Prog δ ρ κ ε α) Q X s := by
  rw [wp_ofExcept]
  cases r with
  | ok a => exact hok a rfl
  | error e => exact herror e rfl

theorem wp_ite {c : Prop} [Decidable c] (p q : Prog δ ρ κ ε α) :
    wp (if c then p else q) Q X s ↔ (c → wp p Q X s) ∧ (¬ c → wp q Q X s) := by
  split <;> simp_all

/-- A crash point keeps everything but the signals. -/
theorem wp_checkpoint {Q : Unit → Sys δ ρ κ → Prop} (hQ : ¬ s.signal.Crashes → Q () s.next)
    (hX : s.signal.Crashes → X .crashed s.next) :
    wp (checkpoint : Prog δ ρ κ ε Unit) Q X s := by
  unfold wp checkpoint
  cases hs : s.signal <;> simp_all [Signal.Crashes]

/-- A read returns what the remote service answers, or halts; it changes nothing. -/
theorem wp_remoteRead {lost : ε} {f : ρ → Except ε α}
    (hok : ∀ a, f s.remote = .ok a → s.signal = .acknowledged → Q a s.next)
    (hX : ∀ h, (h = .crashed ↔ s.signal.Crashes) → X h s.next) :
    wp (remoteRead lost f) Q X s := by
  unfold wp remoteRead
  cases hs : s.signal
  case acknowledged =>
    change wp (ofExcept (f s.remote)) Q X s.next
    rw [wp_ofExcept]
    cases hf : f s.remote with
    | ok a => exact hok a hf hs
    | error e => exact hX _ (by simp [hs, Signal.Crashes])
  all_goals exact hX _ (by simp [hs, Signal.Crashes])

/-- A write returns only when it took effect and the answer arrived. Where it halts, it
took effect and the answer was lost, or it changed nothing. -/
theorem wp_remoteWrite {lost : ε} {call : κ} {apply : ρ → Except ε (ρ × α)}
    (hok : ∀ remote a, apply s.remote = .ok (remote, a) → s.signal = .acknowledged →
      Q a (s.applied call remote))
    (hlost : ∀ h remote a, apply s.remote = .ok (remote, a) →
      (s.signal = .unacknowledged ∧ h = .raised lost ∨ s.signal = .crashAfter ∧ h = .crashed) →
      X h (s.applied call remote))
    (hidle : ∀ h s', s' = s.next ∨ s' = s.refused call → (h = .crashed ↔ s.signal.Crashes) →
      X h s') :
    wp (remoteWrite lost call apply) Q X s := by
  unfold wp remoteWrite
  cases ha : apply s.remote with
  | ok r =>
      cases hs : s.signal
      · exact hok r.1 r.2 ha hs
      · exact hlost _ r.1 r.2 ha (.inl ⟨hs, rfl⟩)
      · exact hidle _ _ (.inr rfl) (by simp [hs, Signal.Crashes])
      · exact hidle _ _ (.inl rfl) (by simp [hs, Signal.Crashes])
      · exact hlost _ r.1 r.2 ha (.inr ⟨hs, rfl⟩)
  | error e =>
      cases hs : s.signal
      case crashBefore => exact hidle _ _ (.inl rfl) (by simp [hs, Signal.Crashes])
      all_goals exact hidle _ _ (.inr rfl) (by simp [hs, Signal.Crashes])

/-- A read that is answered. -/
theorem wp_remoteRead_acknowledged {lost : ε} {f : ρ → Except ε α} (hs : s.signal = .acknowledged)
    (h : wp (ofExcept (f s.remote)) Q X s.next) : wp (remoteRead lost f) Q X s := by
  unfold wp remoteRead
  rw [hs]
  exact h

/-- A request that is answered is in the journal, whether it was carried out or refused. -/
theorem wp_remoteWrite_acknowledged {lost : ε} {call : κ} {apply : ρ → Except ε (ρ × α)}
    (hs : s.signal = .acknowledged)
    (hok : ∀ remote a, apply s.remote = .ok (remote, a) → Q a (s.applied call remote))
    (herror : ∀ e, apply s.remote = .error e → X (.raised e) (s.refused call)) :
    wp (remoteWrite lost call apply) Q X s := by
  unfold wp remoteWrite
  rw [hs]
  cases ha : apply s.remote with
  | ok r => exact hok r.1 r.2 ha
  | error e => exact herror e ha

/-- A write that does not happen changes nothing, and does not return. -/
theorem wp_remoteWrite_idle {lost : ε} {call : κ} {apply : ρ → Except ε (ρ × α)}
    (hs : ¬ s.signal.TakesEffect)
    (hidle : ∀ h s', s' = s.next ∨ s' = s.refused call → X h s') :
    wp (remoteWrite lost call apply) Q X s := by
  refine wp_remoteWrite (fun _ _ _ h => absurd (.inl h) hs) (fun _ _ _ _ h => ?_)
    (fun h s' hs' _ => hidle h s' hs')
  exact absurd (h.elim (fun h => .inr (.inl h.1)) fun h => .inr (.inr h.1)) hs

/-- A write keeps the database, and adds at most its own request to the journal. -/
theorem wp_remoteWrite_frame {lost : ε} {call : κ} {apply : ρ → Except ε (ρ × α)}
    {P : Sys δ ρ κ → Prop} (h : ∀ s', s'.db = s.db →
      (s'.calls = s.calls ∨ ∃ effect, s'.calls = (call, effect) :: s.calls) → P s') :
    wp (remoteWrite lost call apply) (fun _ s' => P s') (fun _ s' => P s') s := by
  refine wp_remoteWrite (fun _ _ _ _ => ?_) (fun _ _ _ _ _ => ?_) (fun _ s' hs' _ => ?_)
  · exact h _ rfl (.inr ⟨true, rfl⟩)
  · exact h _ rfl (.inr ⟨true, rfl⟩)
  · rcases hs' with rfl | rfl
    · exact h _ rfl (.inl rfl)
    · exact h _ rfl (.inr ⟨false, rfl⟩)

/-- A loop keeps the invariant of its accumulator that every turn keeps. -/
theorem wp_forEach {xs : List α} {b : β} {body : α → β → Prog δ ρ κ ε β}
    {I : List α → β → Sys δ ρ κ → Prop} (h : I xs b s)
    (hbody : ∀ x xs b s, I (x :: xs) b s → wp (body x b) (I xs) X s) :
    wp (forEach xs b body) (I []) X s := by
  induction xs generalizing b s with
  | nil => exact h
  | cons x xs ih =>
      rw [forEach, wp_bind]
      exact wp_mono (hbody x xs b s h) (fun b' s' hI => ih hI) (fun _ _ hX => hX)

end Rules

end Prog

/-- Every index gets its entry of a remote service and then its row. -/
def ensureAll {δ ρ κ ε ι α β : Type} (ensure : ι → Prog δ ρ κ ε α)
    (record : ι → α → Prog δ ρ κ ε β) (indices : List ι) : Prog δ ρ κ ε (List β) :=
  Prog.forEach indices [] fun j rows => do
    let a ← ensure j
    let b ← record j a
    return rows ++ [b]

end Foundation
