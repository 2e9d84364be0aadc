import Qasedak.Broadcasts.Senders
import Qasedak.Foundation.Run
import Mathlib.Data.Fintype.Basic

/-! A cancelled campaign stays cancelled where every sender reads its status again before it writes
it. -/

namespace Qasedak.Broadcasts

open Foundation Store BroadcastSystem

variable {κ : Type*} [DecidableEq κ] {py : TextFunctions} {s : BroadcastSystem κ} {i : κ}

def Mode.isQueue : Mode → Bool
  | .queue _ _ => true
  | _ => false

/-- The sender reads the status before it writes it the next time, or writes it no more. -/
def Sender.Yields (k : Sender) : Prop :=
  match k.phase with
  | .idle => True
  | .begun => k.mode ≠ .direct ∨ k.campaign.status = .cancelled
  | .creating => k.mode = .recreate
  | .committing _ => k.mode = .recreate
  | .listing => k.mode.isQueue = true
  | .looping _ => k.mode.isQueue = true
  | .sending _ _ => k.mode.isQueue = true
  | .marking _ _ _ _ => k.mode.isQueue = true
  | .ending => k.mode.isQueue = true
  | .counting _ writes => writes = false
  | _ => False

instance : DecidablePred Sender.Yields := fun k => by
  unfold Sender.Yields
  split <;> infer_instance

/-- The messages that a sender has sent. -/
def sentBy (s : BroadcastSystem κ) (i : κ) : ℕ := s.delivered.countP fun d => d.sender = i

/-- The message for which a sender has looked at the status. -/
def Sender.inFlight (k : Sender) : ℕ :=
  match k.phase with
  | .sending _ _ => 1
  | _ => 0

/-- The campaign is cancelled, and nobody is about to write another status. -/
structure Quiet (s : BroadcastSystem κ) : Prop where
  cancelled : s.campaign.status = .cancelled
  yields : ∀ j, (s.senders j).Yields

/-- What a step of a sender comes to after the cancellation: the status is kept, and a message is
sent by one that has it in flight. -/
def Settles (s : BroadcastSystem κ) (i : κ) (s' : BroadcastSystem κ) : Prop :=
  s'.campaign.status = .cancelled ∧ (s'.senders i).Yields ∧ (∀ j, j ≠ i → s'.senders j = s.senders j) ∧
    (∀ j, j ≠ i → sentBy s' j = sentBy s j) ∧
    sentBy s' i + (s'.senders i).inFlight ≤ sentBy s i + (s.senders i).inFlight

theorem settles_self (h : Quiet s) : Settles s i s :=
  ⟨h.cancelled, h.yields i, fun _ _ => rfl, fun _ _ => rfl, le_rfl⟩

/-- A step that sends nothing and leaves nothing in flight. -/
theorem settles_set {k : Sender} {c : BroadcastMessage} {recipients : Recipients}
    {locked : List ℕ} (hc : c.status = .cancelled) (hk : k.Yields) (hflight : k.inFlight = 0) :
    Settles s i { s.set i k with
      campaign := c
      recipients := recipients
      locked := locked } := by
  refine ⟨hc, ?_, fun j hj => set_senders_of_ne k hj, fun _ _ => rfl, ?_⟩
  · rw [set_senders_self]
    exact hk
  · rw [set_senders_self, hflight]
    exact Nat.le_add_right _ _

theorem settles_phase (h : Quiet s) {phase : Phase}
    (hyields : ({ s.senders i with phase := phase } : Sender).Yields)
    (hflight : ({ s.senders i with phase := phase } : Sender).inFlight = 0) :
    Settles s i (s.setPhase i phase) :=
  settles_set h.cancelled hyields hflight

theorem isQueue_iff {mode : Mode} :
    mode.isQueue = true ↔ ∃ resumeFailed limit, mode = .queue resumeFailed limit := by
  cases mode <;> simp [Mode.isQueue]

theorem settles_begin (h : Quiet s) (hphase : (s.senders i).phase = .begun) (e : Surroundings) :
    Settles s i (s.advance py i e) := by
  have hyields := h.yields i
  unfold Sender.Yields at hyields
  rw [hphase] at hyields
  unfold advance
  rw [hphase]
  dsimp only
  cases hmode : (s.senders i).mode with
  | queue resumeFailed limit =>
      unfold beginQueue
      rw [if_pos h.cancelled]
      exact settles_set h.cancelled trivial rfl
  | direct =>
      have hcopy : (s.senders i).campaign.status = .cancelled :=
        hyields.resolve_left fun hne => hne hmode
      unfold beginDirect
      rw [if_pos hcopy]
      exact settles_phase h rfl rfl
  | recreate => exact settles_phase h hmode rfl

theorem settles_regeneration (h : Quiet s) (hphase : (s.senders i).phase = .creating)
    (e : Surroundings) : Settles s i (s.openRegeneration i e) := by
  have hmode : (s.senders i).mode = .recreate := by
    have hyields := h.yields i
    unfold Sender.Yields at hyields
    rwa [hphase] at hyields
  unfold openRegeneration
  split
  · split
    · exact settles_self h
    · exact settles_set h.cancelled hmode rfl
  · exact settles_phase h trivial rfl

theorem settles_commit (h : Quiet s) {write : Regeneration}
    (hphase : (s.senders i).phase = .committing write) :
    Settles s i (s.commitRegeneration i write) := by
  have hmode : (s.senders i).mode = .recreate := by
    have hyields := h.yields i
    unfold Sender.Yields at hyields
    rwa [hphase] at hyields
  unfold commitRegeneration
  dsimp only
  rw [hmode]
  exact settles_set h.cancelled trivial rfl

theorem yields_afterMark {k : Sender} (hmode : k.mode.isQueue = true) (status : RecipientStatus)
    (error : String) (left : List BroadcastRecipient) :
    (afterMark py k status error left).Yields ∧
      (afterMark py k status error left).inFlight = 0 := by
  unfold afterMark
  split
  · split_ifs
    · exact ⟨hmode, rfl⟩
    · exact ⟨hmode, rfl⟩
    · exact ⟨hmode, rfl⟩
    · exact ⟨hmode, rfl⟩
    · exact ⟨hmode, rfl⟩
  · exact ⟨hmode, rfl⟩

/-- A message in flight is sent, or not; another one does not follow. -/
theorem settles_send (h : Quiet s) {r : BroadcastRecipient} {left : List BroadcastRecipient}
    (hphase : (s.senders i).phase = .sending r left)
    (hmode : (s.senders i).mode.isQueue = true) (e : Surroundings) :
    Settles s i (s.sendMessage py i r left e) := by
  unfold sendMessage
  split
  · split
    · obtain ⟨hyields, hflight⟩ := @yields_afterMark py _ hmode .skipped "" left
      exact settles_set h.cancelled hyields hflight
    · exact settles_phase h hmode rfl
  · split
    · exact settles_phase h hmode rfl
    · have hafter : ({ s.senders i with
          phase := afterSend py r left e.outcome (s.senders i).mode } : Sender).Yields ∧
          ({ s.senders i with
            phase := afterSend py r left e.outcome (s.senders i).mode } : Sender).inFlight = 0 := by
        obtain ⟨resumeFailed, limit, hqueue⟩ := isQueue_iff.mp hmode
        rw [hqueue]
        cases e.outcome <;> exact ⟨hmode, rfl⟩
      refine ⟨h.cancelled, ?_, fun j hj => set_senders_of_ne _ hj, fun j hj => ?_, ?_⟩
      · simpa only [setPhase, set_senders_self] using hafter.1
      · simp only [sentBy]
        split
        · rw [List.countP_cons_of_neg]
          simpa using fun hij => hj hij.symm
        · rfl
      · have hbefore : (s.senders i).inFlight = 1 := by
          unfold Sender.inFlight
          rw [hphase]
        simp only [sentBy, setPhase, set_senders_self]
        rw [hbefore, hafter.2]
        split
        · rw [List.countP_cons_of_pos (by simp)]
        · omega

theorem settles_mark (h : Quiet s) (hmode : (s.senders i).mode.isQueue = true)
    (r : BroadcastRecipient) (status : RecipientStatus) (error : String)
    (left : List BroadcastRecipient) (e : Surroundings) :
    Settles s i (s.markRecipient py i r status error left e) := by
  unfold markRecipient
  split
  · exact settles_self h
  · split
    · exact settles_phase h trivial rfl
    · obtain ⟨hyields, hflight⟩ := @yields_afterMark py _ hmode status error left
      exact settles_set h.cancelled hyields hflight

theorem settles_count (h : Quiet s) {read : List ℕ} {writes : Bool} (hwrites : writes = false) :
    Settles s i (s.count i read writes) := by
  subst hwrites
  unfold count
  dsimp only
  split
  · exact settles_phase h rfl rfl
  · exact settles_phase h rfl rfl
  · exact settles_phase h rfl rfl
  · exact settles_set h.cancelled trivial rfl

/-- After the cancellation a queue worker stops before the next recipient. -/
theorem settles_next (h : Quiet s) (hmode : (s.senders i).mode.isQueue = true)
    (r : BroadcastRecipient) (left : List BroadcastRecipient) :
    Settles s i (s.nextRecipient i r left) := by
  obtain ⟨resumeFailed, limit, hqueue⟩ := isQueue_iff.mp hmode
  unfold nextRecipient
  dsimp only
  rw [hqueue]
  dsimp only
  rw [if_pos h.cancelled]
  exact settles_set h.cancelled rfl rfl

theorem settles_end (h : Quiet s) (hmode : (s.senders i).mode.isQueue = true) :
    Settles s i (s.endLoop i) := by
  obtain ⟨resumeFailed, limit, hqueue⟩ := isQueue_iff.mp hmode
  unfold endLoop
  dsimp only
  rw [hqueue]
  refine settles_set h.cancelled ?_ rfl
  simp [Sender.Yields, h.cancelled]

theorem settles_list (h : Quiet s) (hmode : (s.senders i).mode.isQueue = true) :
    Settles s i (s.listPending i) := by
  obtain ⟨resumeFailed, limit, hqueue⟩ := isQueue_iff.mp hmode
  unfold listPending
  dsimp only
  rw [hqueue]
  exact settles_phase h hmode rfl

theorem settles_advance (h : Quiet s) (e : Surroundings) : Settles s i (s.advance py i e) := by
  have hyields := h.yields i
  unfold Sender.Yields at hyields
  cases hphase : (s.senders i).phase with
  | begun => exact settles_begin h hphase e
  | idle =>
      unfold advance
      rw [hphase]
      exact settles_self h
  | creating =>
      unfold advance
      rw [hphase]
      exact settles_regeneration h hphase e
  | committing write =>
      unfold advance
      rw [hphase]
      exact settles_commit h hphase
  | listing =>
      rw [hphase] at hyields
      unfold advance
      rw [hphase]
      exact settles_list h hyields
  | looping left =>
      rw [hphase] at hyields
      unfold advance
      rw [hphase]
      cases left with
      | nil => exact settles_phase h hyields rfl
      | cons r left => exact settles_next h hyields r left
  | sending r left =>
      rw [hphase] at hyields
      unfold advance
      rw [hphase]
      exact settles_send h hphase hyields e
  | marking r status error left =>
      rw [hphase] at hyields
      unfold advance
      rw [hphase]
      exact settles_mark h hyields r status error left e
  | ending =>
      rw [hphase] at hyields
      unfold advance
      rw [hphase]
      exact settles_end h hyields
  | counting read writes =>
      rw [hphase] at hyields
      unfold advance
      rw [hphase]
      exact settles_count h hyields
  | _ =>
      rw [hphase] at hyields
      exact hyields.elim

/-! ## Runs -/

theorem settles_beginWith (h : Quiet s) (mode : Mode) : Settles s i (s.beginWith i mode) := by
  unfold beginWith
  split
  · exact settles_set h.cancelled (.inr h.cancelled) rfl
  · exact settles_self h

theorem step_settles (h : Quiet s) (a : BroadcastStep κ) :
    s.step py a = s ∨ ∃ j, Settles s j (s.step py a) := by
  cases a with
  | select j resumeFailed selectedLimit now =>
      refine .inl (if_neg ?_)
      simp [isDue, h.cancelled]
  | call j => exact .inr ⟨j, settles_beginWith h .direct⟩
  | recreate j => exact .inr ⟨j, settles_beginWith h .recreate⟩
  | advance j e => exact .inr ⟨j, settles_advance h e⟩
  | cancel =>
      have hsame : { s.campaign with status := .cancelled } = s.campaign := by
        rw [← h.cancelled]
      exact .inl (by rw [step, hsame])

theorem Quiet.step (h : Quiet s) (a : BroadcastStep κ) : Quiet (s.step py a) := by
  rcases @step_settles κ _ py s h a with hsame | ⟨j, hstatus, hyields, hsenders, -, -⟩
  · rw [hsame]
    exact h
  · refine ⟨hstatus, fun l => ?_⟩
    by_cases hl : l = j
    · rw [hl]
      exact hyields
    · rw [hsenders l hl]
      exact h.yields l

/-- The messages of a sender, with the one in flight. -/
def committed (i : κ) (s : BroadcastSystem κ) : ℕ := sentBy s i + (s.senders i).inFlight

theorem committed_step (h : Quiet s) (a : BroadcastStep κ) :
    committed i (s.step py a) ≤ committed i s := by
  unfold committed
  rcases @step_settles κ _ py s h a with hsame | ⟨j, -, -, hsenders, hsent, hbound⟩
  · rw [hsame]
  · by_cases hi : i = j
    · rw [hi]
      exact hbound
    · rw [hsenders i hi, hsent i hi]

theorem quiet_run (h : Quiet s) (ops : List (BroadcastStep κ)) : Quiet (run (step py) s ops) :=
  run_invariant (fun _ a hs => hs.step a) ops h

theorem committed_run (h : Quiet s) (ops : List (BroadcastStep κ)) :
    committed i (run (step py) s ops) ≤ committed i s := by
  induction ops generalizing s with
  | nil => exact le_rfl
  | cons a ops ih => exact le_trans (ih (h.step a)) (committed_step h a)

/-- A cancellation is committed while every sender reads the status before it writes it. -/
def Lands (s : BroadcastSystem κ) : BroadcastStep κ → Prop
  | .cancel => ∀ j, (s.senders j).Yields
  | _ => True

instance [Fintype κ] (s : BroadcastSystem κ) : DecidablePred (Lands s)
  | .cancel => inferInstanceAs (Decidable (∀ j, (s.senders j).Yields))
  | .select _ _ _ _ | .call _ | .recreate _ | .advance _ _ => inferInstanceAs (Decidable True)

/-- In every run whose cancellations are committed while every sender reads the status before it
writes it: the campaign is cancelled from then on, and each sender sends at most the message that was
in flight. -/
theorem cancelled_stays_cancelled (py : TextFunctions) (text : String) (channel : Channel)
    (status : CampaignStatus) (scheduledAt : Option Instant)
    (before after : List (BroadcastStep κ))
    (hops : Guarded (step py) Lands (start κ text channel status scheduledAt)
      (before ++ .cancel :: after)) :
    (run (step py) (start κ text channel status scheduledAt)
        (before ++ .cancel :: after)).campaign.status = .cancelled ∧
      ∀ i, sentBy (run (step py) (start κ text channel status scheduledAt)
          (before ++ .cancel :: after)) i ≤
        sentBy (run (step py) (start κ text channel status scheduledAt) before) i +
          ((run (step py) (start κ text channel status scheduledAt) before).senders i).inFlight := by
  obtain ⟨-, hyields, -⟩ := guarded_append.mp hops
  generalize hs : run (step py) (start κ text channel status scheduledAt) before = s at hyields
  have hquiet : Quiet (s.step py .cancel) := ⟨rfl, hyields⟩
  rw [run_append, run_cons, hs]
  refine ⟨?_, fun i => ?_⟩
  · exact (quiet_run hquiet after).cancelled
  · exact le_trans (Nat.le_add_right _ _) (committed_run hquiet after)

/-- Three customers with a chat each. -/
def threeCustomers : Surroundings where
  audience := [1, 2, 3]
  chats := fun customer _ => [toString customer]

/-- The only sender takes some steps. -/
def sends (n : ℕ) : List (BroadcastStep (Fin 1)) := List.replicate n (.advance 0 threeCustomers)

/-- A queue worker sends the first message, and has looked at the status for the second one. -/
def queueRun : List (BroadcastStep (Fin 1)) := .select 0 false 50 0 :: sends 11

theorem cancelled_stays_cancelled_queueRun :
    (run (step ⟨id, id⟩) (start (Fin 1) "news" .telegram .queued none)
      (queueRun ++ .cancel :: sends 12)).campaign.status = .cancelled :=
  (cancelled_stays_cancelled ⟨id, id⟩ "news" .telegram .queued none queueRun (sends 12)
    (by decide +kernel)).1

/-- `send_campaign` has sent the first message when the campaign is cancelled. -/
def directRun : List (BroadcastStep (Fin 1)) := .call 0 :: sends 7

theorem sent_after_cancellation :
    (run (step ⟨id, id⟩) (start (Fin 1) "news" .telegram .queued none)
        directRun).delivered.map (·.customer) = [1] ∧
      (run (step ⟨id, id⟩) (start (Fin 1) "news" .telegram .queued none)
        (directRun ++ .cancel :: sends 20)).delivered.map (·.customer) = [3, 2, 1] ∧
      (run (step ⟨id, id⟩) (start (Fin 1) "news" .telegram .queued none)
        (directRun ++ .cancel :: sends 20)).campaign.status = .sent := by
  decide +kernel

end Qasedak.Broadcasts
