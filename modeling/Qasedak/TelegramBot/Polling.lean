import Mathlib
import Qasedak.Foundation.Run

/-! `run_telegram_polling.py`: the updates of a bot are fetched in batches and handled one by one.
No update is lost, whenever the worker is stopped and started again. -/

namespace Qasedak.TelegramBot

open Foundation

/-- A worker, and what Telegram holds for it. `earlier` was handled before the worker was started. -/
structure Polling where
  next : ℕ := 1
  arrived : List ℕ := []
  pending : List ℕ := []
  offset : Option ℕ := none
  batch : List ℕ := []
  handled : List ℕ := []
  earlier : List ℕ := []

/-- Telegram numbers its updates upwards. A request may be answered or not, and a handler may raise;
the worker may be stopped at any time. -/
inductive PollingStep
  | arrive (gap : ℕ)
  | poll (answered : Bool)
  | handle (raised : Bool)
  | confirm
  | restart

namespace Polling

variable {s : Polling} {limit id : ℕ}

/-- What Telegram keeps of the updates when it is asked for those from an offset on. -/
def asked (s : Polling) : List ℕ := s.pending.filter fun id => s.offset.all fun o => o ≤ id

/-- `max(self.offset or next_offset, next_offset)`. -/
def nextOffset (offset : Option ℕ) (id : ℕ) : ℕ :=
  max ((offset.filter (· ≠ 0)).getD (id + 1)) (id + 1)

/-- `poll_once` in its parts, `confirm_processed_updates`, and a new worker. -/
def step (limit : ℕ) (s : Polling) : PollingStep → Polling
  | .arrive gap =>
      { s with
        next := s.next + gap + 1
        arrived := s.arrived ++ [s.next + gap]
        pending := s.pending ++ [s.next + gap] }
  | .poll answered =>
      if s.batch = [] then
        { s with pending := s.asked, batch := if answered then s.asked.take limit else [] }
      else s
  | .handle _ =>
      -- The offset moves on in the `finally` clause, whether or not the handler raises.
      match s.batch with
      | [] => s
      | id :: batch =>
          { s with batch, handled := s.handled ++ [id], offset := some (nextOffset s.offset id) }
  | .confirm => if s.batch = [] then { s with pending := s.asked } else s
  | .restart =>
      { s with offset := none, batch := [], handled := [], earlier := s.earlier ++ s.handled }

/-- The updates below are not asked for again. -/
def floor (s : Polling) : ℕ := s.offset.getD 0

theorem nextOffset_eq (offset : Option ℕ) (id : ℕ) :
    nextOffset offset id = max (offset.getD 0) (id + 1) := by
  rcases offset with _ | _ | o <;> simp [nextOffset, Option.filter]

/-- Telegram holds what this worker has handled, the batch, and the rest, in this order. -/
structure Sound (s : Polling) (done rest : List ℕ) : Prop where
  pending : s.pending = done ++ (s.batch ++ rest)
  ordered : s.pending.Pairwise (· < ·)
  numbered : ∀ id ∈ s.arrived, id < s.next
  floor_le : s.floor ≤ s.next
  done_handled : ∀ id ∈ done, id ∈ s.handled
  passed : ∀ id ∈ s.handled, id < s.floor
  left : ∀ id ∈ s.batch ++ rest, s.floor ≤ id
  upwards : s.handled.Pairwise (· < ·)
  arrived : ∀ id, id ∈ s.arrived ↔ id ∈ s.pending ∨ id ∈ s.handled ∨ id ∈ s.earlier

variable {done rest : List ℕ}

theorem Sound.asked (h : s.Sound done rest) : s.asked = s.batch ++ rest := by
  have hasked : s.asked = s.pending.filter (s.floor ≤ ·) := by
    unfold Polling.asked floor
    cases s.offset <;> simp
  rw [hasked, h.pending, List.filter_append, List.filter_eq_nil_iff.mpr, List.filter_eq_self.mpr]
  · rfl
  · exact fun id hid => decide_eq_true (h.left id hid)
  · intro id hid
    simpa using h.passed id (h.done_handled id hid)

/-- Telegram forgets only what this worker has handled. -/
theorem Sound.ask (h : s.Sound done rest) (hbatch : s.batch = []) :
    Sound { s with pending := s.asked } [] rest where
  pending := h.asked
  ordered := h.ordered.filter _
  numbered := h.numbered
  floor_le := h.floor_le
  done_handled := nofun
  passed := h.passed
  left := h.left
  upwards := h.upwards
  arrived id := by
    have hdone := h.done_handled id
    rw [h.arrived, h.asked, h.pending, hbatch, List.nil_append, List.mem_append]
    tauto

/-- The batch is what comes first. -/
theorem Sound.fetch (h : s.Sound done rest) (hbatch : s.batch = []) (limit : ℕ) :
    Sound { s with pending := s.asked, batch := s.asked.take limit } [] (rest.drop limit) := by
  have hrest : s.asked = rest := by rw [h.asked, hbatch, List.nil_append]
  have hask := h.ask hbatch
  exact { hask with
    pending := by rw [hrest, List.nil_append, List.take_append_drop]
    done_handled := nofun
    left := by
      rw [hrest, List.take_append_drop]
      exact fun id hid => h.left id (List.mem_append_right _ hid) }

theorem Sound.handle {batch : List ℕ} (h : s.Sound done rest) (hbatch : s.batch = id :: batch) :
    Sound { s with batch, handled := s.handled ++ [id], offset := some (nextOffset s.offset id) }
      (done ++ [id]) rest := by
  have hpending := h.pending
  have hordered := h.ordered
  rw [hpending, hbatch] at hordered
  have hid : s.floor ≤ id := h.left id (by simp [hbatch])
  have hmem : id ∈ s.pending := by simp [hpending, hbatch]
  have hfloor : max (s.offset.getD 0) (id + 1) = id + 1 := max_eq_right (Nat.le_succ_of_le hid)
  refine ⟨?_, h.ordered, h.numbered, ?_, ?_, ?_, ?_, ?_, ?_⟩
  · simp [hpending, hbatch]
  · simp only [floor, Option.getD_some, nextOffset_eq, hfloor]
    exact h.numbered id ((h.arrived id).mpr (.inl hmem))
  · intro x hx
    rw [List.mem_append] at hx ⊢
    exact hx.imp_left (h.done_handled x)
  · intro x hx
    simp only [floor, Option.getD_some, nextOffset_eq, hfloor]
    rcases List.mem_append.mp hx with hx | hx
    · exact ((h.passed x hx).trans_le hid).trans (Nat.lt_succ_self id)
    · exact List.mem_singleton.mp hx ▸ Nat.lt_succ_self x
  · intro x hx
    simp only [floor, Option.getD_some, nextOffset_eq, hfloor]
    exact (List.pairwise_cons.mp (List.pairwise_append.mp hordered).2.1).1 x hx
  · refine List.pairwise_append.mpr ⟨h.upwards, List.pairwise_singleton _ _, fun a ha b hb => ?_⟩
    exact List.mem_singleton.mp hb ▸ (h.passed a ha).trans_le hid
  · intro x
    rw [h.arrived, List.mem_append, List.mem_singleton]
    constructor
    · tauto
    · rintro (hx | (hx | rfl) | hx) <;> tauto

theorem Sound.arrive (h : s.Sound done rest) {n : ℕ} (hn : s.next ≤ n) :
    Sound { s with next := n + 1, arrived := s.arrived ++ [n], pending := s.pending ++ [n] }
      done (rest ++ [n]) := by
  have hlater : ∀ id ∈ s.arrived, id < n := fun id hid => (h.numbered id hid).trans_le hn
  refine ⟨?_, ?_, ?_, (h.floor_le.trans hn).trans (Nat.le_succ n), h.done_handled, h.passed, ?_,
    h.upwards, ?_⟩
  · simp [h.pending]
  · refine List.pairwise_append.mpr ⟨h.ordered, List.pairwise_singleton _ _, fun a ha b hb => ?_⟩
    exact List.mem_singleton.mp hb ▸ hlater a ((h.arrived a).mpr (.inl ha))
  · intro id hid
    rcases List.mem_append.mp hid with hid | hid
    · exact Nat.lt_succ_of_lt (hlater id hid)
    · exact List.mem_singleton.mp hid ▸ Nat.lt_succ_self n
  · intro id hid
    rw [← List.append_assoc] at hid
    rcases List.mem_append.mp hid with hid | hid
    · exact h.left id hid
    · exact (List.mem_singleton.mp hid).symm ▸ h.floor_le.trans hn
  · intro id
    rw [List.mem_append, h.arrived, List.mem_append]
    tauto

/-- A new worker knows no offset. -/
theorem Sound.restart (h : s.Sound done rest) :
    Sound { s with
      offset := none, batch := [], handled := [], earlier := s.earlier ++ s.handled }
      [] s.pending where
  pending := rfl
  ordered := h.ordered
  numbered := h.numbered
  floor_le := Nat.zero_le _
  done_handled := nofun
  passed := nofun
  left _ _ := Nat.zero_le _
  upwards := .nil
  arrived id := by
    rw [h.arrived, List.mem_append]
    simp only [List.not_mem_nil, false_or, or_comm (a := id ∈ s.handled)]

theorem Sound.step (h : s.Sound done rest) (a : PollingStep) :
    ∃ done rest, (s.step limit a).Sound done rest := by
  cases a with
  | arrive gap => exact ⟨_, _, h.arrive (Nat.le_add_right s.next gap)⟩
  | poll answered =>
      simp only [Polling.step]
      split
      · next hbatch =>
          cases answered with
          | false => exact ⟨_, _, by simpa [hbatch] using h.ask hbatch⟩
          | true => exact ⟨_, _, h.fetch hbatch limit⟩
      · exact ⟨_, _, h⟩
  | handle raised =>
      simp only [Polling.step]
      split
      · exact ⟨_, _, h⟩
      · next hbatch => exact ⟨_, _, h.handle hbatch⟩
  | confirm =>
      simp only [Polling.step]
      split
      · next hbatch => exact ⟨_, _, h.ask hbatch⟩
      · exact ⟨_, _, h⟩
  | restart => exact ⟨_, _, h.restart⟩

theorem sound_empty : Sound {} [] [] := by
  constructor <;> simp [floor]

end Polling

end Qasedak.TelegramBot
