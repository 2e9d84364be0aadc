import Qasedak.Broadcasts.Senders
import Qasedak.Broadcasts.Recipients
import Qasedak.Foundation.Run
import Mathlib.Data.Fintype.Basic
import Mathlib.Data.List.Pairwise

/-! A customer gets the message of a campaign at most once on a channel, as long as no recipient is
sent, or resolved again, while another sender has it in hand. -/

namespace Qasedak.Broadcasts

open Foundation Store

variable {κ : Type*} [DecidableEq κ] {py : TextFunctions} {s : BroadcastSystem κ} {i : κ}

/-! ## What a sender has in hand -/

/-- The recipients that a sender has listed and is not done with. -/
def Phase.held : Phase → List BroadcastRecipient
  | .looping left => left
  | .sending r left => r :: left
  | .marking r _ _ left => r :: left
  | _ => []

/-- A message to the recipient was sent, or given up, and is to be marked. -/
def Phase.Marks (pk : ℕ) : Phase → Prop
  | .marking r _ _ _ => r.pk = pk
  | _ => False

def Phase.isCommitting : Phase → Bool
  | .committing _ => true
  | _ => false

/-- Some of the numbers of a campaign are read, and are not written yet. -/
def Phase.isMidCount : Phase → Bool
  | .counting (_ :: _) _ => true
  | _ => false

/-- The campaign is to be counted after what the sender has done. -/
def Phase.owesCounts : Phase → Bool
  | .looping _ => true
  | .sending _ _ => true
  | .marking _ _ _ _ => true
  | .ending => true
  | .counting _ _ => true
  | _ => false

instance (pk : ℕ) : DecidablePred (Phase.Marks pk) := fun phase => by
  cases phase <;> unfold Phase.Marks <;> infer_instance

/-! ## The invariant -/

/-- The numbers in the order in which they are read. -/
def Counts.numbers (n : Counts) : List ℕ := [n.total, n.success, n.failed]

def BroadcastMessage.counts (c : BroadcastMessage) : Counts :=
  ⟨c.totalRecipients, c.successCount, c.failedCount⟩

def IsStored (recipients : Recipients) (r : BroadcastRecipient) : Prop :=
  ∃ x ∈ recipients.rows, x.pk = r.pk

/-- What is known of a sender by what comes next. -/
def Phase.Ok (recipients : Recipients) : Phase → Prop
  | .committing write => write.Fits recipients
  | .resetting pks => pks = []
  | .looping left => ∀ r ∈ left, IsStored recipients r
  | .sending r left => ∀ x ∈ r :: left, IsStored recipients x
  | .marking r status _ left => (r ∈ recipients.rows ∧ r.status = .pending) ∧
      (status = .sent ∨ status = .skipped) ∧ ∀ x ∈ left, IsStored recipients x
  | .counting read _ => read = (countsOf recipients.rows).numbers.take read.length
  | _ => True

/-- The recipient of a message is marked as sent, or about to be. -/
def Accounted (s : BroadcastSystem κ) (d : Delivery κ) : Prop :=
  ∃ r ∈ s.recipients.rows, r.pk = d.pk ∧ r.customer = d.customer ∧ r.channel = d.channel ∧
    (r.status = .sent ∨ ∃ j r' error left,
      (s.senders j).phase = .marking r' .sent error left ∧ r'.pk = d.pk)

/-- The invariant of the senders. -/
structure Sound (s : BroadcastSystem κ) : Prop where
  notFailed : ∀ r ∈ s.recipients.rows, r.status ≠ .failed
  keys : s.recipients.rows.Pairwise fun a b => ¬ (a.customer = b.customer ∧ a.channel = b.channel)
  ok : ∀ j, (s.senders j).phase.Ok s.recipients
  /-- A transaction is alone, and nothing is in hand. -/
  alone : ∀ j, (s.senders j).phase.isCommitting = true →
    (∀ j', (s.senders j').phase.held = []) ∧
      ∀ j', (s.senders j').phase.isCommitting = true → j' = j
  marksOnce : ∀ j j' pk, (s.senders j).phase.Marks pk → (s.senders j').phase.Marks pk → j = j'
  accounted : ∀ d ∈ s.delivered, Accounted s d
  once : (s.delivered.map (·.pk)).Nodup
  counted : s.campaign.counts = countsOf s.recipients.rows ∨
    ∃ j, (s.senders j).phase.owesCounts = true

open BroadcastSystem

theorem Phase.not_marks_of_held {phase : Phase} (h : phase.held = []) (pk : ℕ) :
    ¬ phase.Marks pk := by
  cases phase with
  | marking r status error left => cases h
  | _ => exact id

/-- A step of a sender that marks nothing before and after it, and leaves the recipients alone. -/
theorem Sound.quiet (h : Sound s) {k : Sender} {c : BroadcastMessage} {locked : List ℕ}
    (hok : k.phase.Ok s.recipients)
    (hbefore : ∀ pk, ¬ (s.senders i).phase.Marks pk) (hafter : ∀ pk, ¬ k.phase.Marks pk)
    (hclosed : k.phase.isCommitting = false)
    (hheld : ∀ j, (s.senders j).phase.isCommitting = true → k.phase.held = [])
    (hcounted : c.counts = countsOf s.recipients.rows ∨ c.counts = s.campaign.counts ∧
      ((s.senders i).phase.owesCounts = true → k.phase.owesCounts = true)) :
    Sound { s.set i k with campaign := c, locked := locked } := by
  have hsame : ∀ j, j ≠ i → (s.set i k).senders j = s.senders j :=
    fun j hj => set_senders_of_ne k hj
  refine ⟨h.notFailed, h.keys, fun j => ?_, fun j hj => ?_, fun j j' pk hj hj' => ?_,
    fun d hd => ?_, h.once, ?_⟩
  · by_cases hji : j = i
    · subst hji
      simpa using hok
    · simpa [hsame j hji] using h.ok j
  · by_cases hji : j = i
    · subst hji
      simp [hclosed] at hj
    · simp only [hsame j hji] at hj
      obtain ⟨hempty, honly⟩ := h.alone j hj
      refine ⟨fun j' => ?_, fun j' hj' => ?_⟩
      · by_cases hj'i : j' = i
        · subst hj'i
          simpa using hheld j hj
        · simpa [hsame j' hj'i] using hempty j'
      · by_cases hj'i : j' = i
        · subst hj'i
          simp [hclosed] at hj'
        · exact honly j' (by simpa [hsame j' hj'i] using hj')
  · by_cases hji : j = i
    · subst hji
      exact absurd (by simpa using hj) (hafter pk)
    · by_cases hj'i : j' = i
      · subst hj'i
        exact absurd (by simpa using hj') (hafter pk)
      · exact h.marksOnce j j' pk (by simpa [hsame j hji] using hj)
          (by simpa [hsame j' hj'i] using hj')
  · obtain ⟨r, hr, hpk, hcustomer, hchannel, hstatus⟩ := h.accounted d hd
    refine ⟨r, hr, hpk, hcustomer, hchannel, hstatus.imp_right ?_⟩
    rintro ⟨j, r', error, left, hj, hpk'⟩
    have hji : j ≠ i := by
      rintro rfl
      refine hbefore r'.pk ?_
      rw [hj]
      exact rfl
    exact ⟨j, r', error, left, by simpa [hsame j hji] using hj, hpk'⟩
  · rcases hcounted with hcounted | ⟨hcounts, howes⟩
    · exact .inl hcounted
    · rcases h.counted with hcounted | ⟨j, hj⟩
      · exact .inl (hcounts.trans hcounted)
      · refine .inr ⟨j, ?_⟩
        by_cases hji : j = i
        · subst hji
          simpa using howes hj
        · simpa [hsame j hji] using hj

/-- A transaction is opened while nobody has recipients in hand and no other one is open. -/
theorem Sound.opened (h : Sound s) {k : Sender} {locked : List ℕ} {write : Regeneration}
    (hphase : k.phase = .committing write) (hfits : write.Fits s.recipients)
    (hempty : ∀ j, (s.senders j).phase.held = [])
    (hnone : ∀ j, (s.senders j).phase.isCommitting = false)
    (howes : (s.senders i).phase.owesCounts = false) :
    Sound { s.set i k with locked := locked } := by
  have hsame : ∀ j, j ≠ i → (s.set i k).senders j = s.senders j :=
    fun j hj => set_senders_of_ne k hj
  have hheld : ∀ j, ((s.set i k).senders j).phase.held = [] := by
    intro j
    by_cases hji : j = i
    · subst hji
      simp [hphase, Phase.held]
    · rw [hsame j hji]
      exact hempty j
  refine ⟨h.notFailed, h.keys, fun j => ?_, fun j hj => ⟨hheld, fun j' hj' => ?_⟩,
    fun j j' pk hj _ => absurd hj (Phase.not_marks_of_held (hheld j) pk), fun d hd => ?_, h.once, ?_⟩
  · by_cases hji : j = i
    · subst hji
      simpa [hphase, Phase.Ok] using hfits
    · simpa [hsame j hji] using h.ok j
  · have hi : ∀ x, ((s.set i k).senders x).phase.isCommitting = true → x = i := by
      intro x hx
      by_contra hxi
      rw [hsame x hxi, hnone x] at hx
      cases hx
    rw [hi j hj, hi j' hj']
  · obtain ⟨r, hr, hpk, hcustomer, hchannel, hstatus⟩ := h.accounted d hd
    refine ⟨r, hr, hpk, hcustomer, hchannel, hstatus.imp_right ?_⟩
    rintro ⟨j, r', error, left, hj, hpk'⟩
    have hj' := hempty j
    rw [hj] at hj'
    cases hj'
  · refine h.counted.imp_right fun ⟨j, hj⟩ => ⟨j, ?_⟩
    have hji : j ≠ i := by
      rintro rfl
      rw [howes] at hj
      cases hj
    simpa [hsame j hji] using hj

/-- A transaction is committed while nobody counts. -/
theorem Sound.committed (h : Sound s) {k : Sender} {c : BroadcastMessage} {locked : List ℕ}
    {write : Regeneration} (hwrite : (s.senders i).phase = .committing write)
    (hidle : ∀ j, (s.senders j).phase.isMidCount = false)
    (hk : k.phase = afterRegeneration (s.senders i).mode)
    (hc : c.counts = write.counts) :
    Sound { s.set i k with
      campaign := c
      recipients := write.apply s.recipients
      locked := locked } := by
  have hsame : ∀ j, j ≠ i → (s.set i k).senders j = s.senders j :=
    fun j hj => set_senders_of_ne k hj
  have hfits : write.Fits s.recipients := by
    have hok := h.ok i
    rw [hwrite] at hok
    exact hok
  obtain ⟨hempty, honly⟩ := h.alone i (by rw [hwrite]; rfl)
  obtain ⟨new, hrows, hnew⟩ := hfits.rows
  have hafter : k.phase.held = [] ∧ k.phase.isCommitting = false ∧
      ∀ recipients, k.phase.Ok recipients := by
    rw [hk]
    cases (s.senders i).mode <;> simp [afterRegeneration, Phase.held, Phase.isCommitting, Phase.Ok]
  have hheld : ∀ j, ((s.set i k).senders j).phase.held = [] := by
    intro j
    by_cases hji : j = i
    · subst hji
      simpa using hafter.1
    · rw [hsame j hji]
      exact hempty j
  have hclosed : ∀ j, ((s.set i k).senders j).phase.isCommitting = false := by
    intro j
    by_cases hji : j = i
    · subst hji
      simpa using hafter.2.1
    · rw [hsame j hji, Bool.eq_false_iff]
      exact fun hj => hji (honly j hj)
  refine ⟨fun r hr => ?_, hfits.keys h.keys, fun j => ?_, fun j hj => ?_, fun j j' pk hj _ =>
    absurd hj (Phase.not_marks_of_held (hheld j) pk), fun d hd => ?_, h.once,
    .inl (hc.trans hfits.counts_apply)⟩
  · simp only [hrows] at hr
    rcases List.mem_append.mp hr with hr | hr
    · exact h.notFailed r (List.mem_filter.mp hr).1
    · obtain ⟨row, hrow, pk, rfl⟩ := Serial.exists_of_made hnew hr
      exact hfits.notFailed row hrow
  · by_cases hji : j = i
    · subst hji
      simpa using hafter.2.2 _
    · -- what the others know does not depend on the recipients
      have hok := h.ok j
      have hj := hempty j
      have hmid := hidle j
      have hcommit := hclosed j
      simp only [hsame j hji] at hcommit ⊢
      cases hphase : (s.senders j).phase with
      | committing write' =>
          rw [hphase] at hcommit
          cases hcommit
      | resetting pks =>
          rw [hphase] at hok
          exact hok
      | looping left =>
          rw [hphase] at hj
          obtain rfl : left = [] := hj
          simp [Phase.Ok]
      | sending r left =>
          rw [hphase] at hj
          cases hj
      | marking r status error left =>
          rw [hphase] at hj
          cases hj
      | counting read writes =>
          rw [hphase] at hmid
          cases read with
          | nil => simp [Phase.Ok]
          | cons n read => cases hmid
      | _ => trivial
  · have hj' := hclosed j
    rw [hj'] at hj
    cases hj
  · obtain ⟨r, hr, hpk, hcustomer, hchannel, hstatus⟩ := h.accounted d hd
    have hsent : r.status = .sent := by
      rcases hstatus with hsent | ⟨j, r', error, left, hj, -⟩
      · exact hsent
      · have hj' := hempty j
        rw [hj] at hj'
        cases hj'
    refine ⟨r, ?_, hpk, hcustomer, hchannel, .inl hsent⟩
    simp only [hrows]
    refine List.mem_append_left new (List.mem_filter.mpr ⟨hr, ?_⟩)
    simp [BroadcastRecipient.renewable, hsent]

/-- A message goes to a recipient that is pending and that nobody else is to mark, or is given up
before. -/
theorem Sound.sends (h : Sound s) {k : Sender} {r : BroadcastRecipient}
    {left : List BroadcastRecipient} {status : RecipientStatus} {error : String}
    {delivered : List (Delivery κ)} (hphase : (s.senders i).phase = .sending r left)
    (hk : k.phase = .marking r status error left)
    (hr : r ∈ s.recipients.rows ∧ r.status = .pending)
    (hfree : ∀ j, ¬ (s.senders j).phase.Marks r.pk)
    (hdelivered : status = .sent ∧ delivered = ⟨i, r.pk, r.customer, r.channel⟩ :: s.delivered ∨
      status = .skipped ∧ delivered = s.delivered) :
    Sound { s.set i k with delivered := delivered } := by
  have hsame : ∀ j, j ≠ i → (s.set i k).senders j = s.senders j :=
    fun j hj => set_senders_of_ne k hj
  have hmarks : ∀ j pk, ((s.set i k).senders j).phase.Marks pk → pk ≠ r.pk → j ≠ i := by
    rintro j pk hj hpk rfl
    rw [set_senders_self, hk] at hj
    exact hpk hj.symm
  have hothers : ∀ d ∈ s.delivered, Accounted { s.set i k with delivered := delivered } d := by
    intro d hd
    obtain ⟨x, hx, hpk, hcustomer, hchannel, hstatus⟩ := h.accounted d hd
    refine ⟨x, hx, hpk, hcustomer, hchannel, hstatus.imp_right ?_⟩
    rintro ⟨j, r', error, left', hj, hpk'⟩
    have hji : j ≠ i := by
      rintro rfl
      rw [hphase] at hj
      cases hj
    exact ⟨j, r', error, left', by simpa [hsame j hji] using hj, hpk'⟩
  refine ⟨h.notFailed, h.keys, fun j => ?_, fun j hj => ?_, fun j j' pk hj hj' => ?_,
    fun d hd => ?_, ?_, .inr ⟨i, by simp [hk, Phase.owesCounts]⟩⟩
  · by_cases hji : j = i
    · subst hji
      have hok := h.ok j
      rw [hphase] at hok
      simp only [set_senders_self, hk]
      refine ⟨hr, hdelivered.imp And.left And.left, fun x hx => hok x (List.mem_cons_of_mem r hx)⟩
    · simpa [hsame j hji] using h.ok j
  · have hji : j ≠ i := by
      rintro rfl
      simp [hk, Phase.isCommitting] at hj
    have hempty := (h.alone j (by simpa [hsame j hji] using hj)).1 i
    rw [hphase] at hempty
    cases hempty
  · by_cases hpk : pk = r.pk
    · subst hpk
      have hi : ∀ x, ((s.set i k).senders x).phase.Marks r.pk → x = i := by
        intro x hx
        by_contra hxi
        rw [hsame x hxi] at hx
        exact hfree x hx
      rw [hi j hj, hi j' hj']
    · have hji := hmarks j pk hj hpk
      have hj'i := hmarks j' pk hj' hpk
      exact h.marksOnce j j' pk (by simpa [hsame j hji] using hj)
        (by simpa [hsame j' hj'i] using hj')
  · rcases hdelivered with ⟨hstatus, rfl⟩ | ⟨-, rfl⟩
    · rcases List.mem_cons.mp hd with rfl | hd
      · subst hstatus
        exact ⟨r, hr.1, rfl, rfl, rfl, .inr ⟨i, r, error, left, by simp [hk], rfl⟩⟩
      · exact hothers d hd
    · exact hothers d hd
  · rcases hdelivered with ⟨-, rfl⟩ | ⟨-, rfl⟩
    · refine List.nodup_cons.mpr ⟨fun hmem => ?_, h.once⟩
      obtain ⟨d, hd, hpk⟩ := List.mem_map.mp hmem
      obtain ⟨x, hx, hxpk, -, -, hstatus⟩ := h.accounted d hd
      obtain rfl : x = r := Serial.eq_of_key_eq hx hr.1 (hxpk.trans hpk)
      rcases hstatus with hsent | ⟨j, r', error', left', hj, hpk'⟩
      · rw [hr.2] at hsent
        cases hsent
      · refine hfree j ?_
        rw [hj]
        exact hpk'.trans hpk
    · exact h.once

/-- A recipient is marked while nobody counts. -/
theorem Sound.marked (h : Sound s) {k : Sender} {r : BroadcastRecipient}
    {left : List BroadcastRecipient} {status : RecipientStatus} {error : String}
    {mark : BroadcastRecipient → BroadcastRecipient}
    (hphase : (s.senders i).phase = .marking r status error left)
    (hidle : ∀ j, (s.senders j).phase.isMidCount = false)
    (hk : k.phase = .looping left ∨ k.phase = .ending)
    (hmark : ∀ x, (mark x).pk = x.pk)
    (hwhat : ∀ x, (mark x).customer = x.customer ∧ (mark x).channel = x.channel ∧
      (mark x).status = status) :
    Sound { s.set i k with
      recipients := s.recipients.modify (fun x => x.pk = r.pk) mark hmark } := by
  have hsame : ∀ j, j ≠ i → (s.set i k).senders j = s.senders j :=
    fun j hj => set_senders_of_ne k hj
  have hoki := h.ok i
  rw [hphase] at hoki
  obtain ⟨⟨hr, hpending⟩, hstatus, hleft⟩ := hoki
  have hmem : ∀ x ∈ s.recipients.rows, (if x.pk = r.pk then mark x else x) ∈
      (s.recipients.modify (fun x => x.pk = r.pk) mark hmark).rows :=
    fun x hx => Serial.mem_rows_modify.mpr ⟨x, hx, by simp⟩
  have hstored : ∀ x, IsStored s.recipients x →
      IsStored (s.recipients.modify (fun x => x.pk = r.pk) mark hmark) x := by
    rintro x ⟨y, hy, hpk⟩
    refine ⟨_, hmem y hy, ?_⟩
    split
    · rw [hmark, hpk]
    · exact hpk
  have hnotme : ∀ j r' status' error' left', j ≠ i →
      (s.senders j).phase = .marking r' status' error' left' → r'.pk ≠ r.pk := by
    intro j r' status' error' left' hji hj hpk
    refine hji (h.marksOnce j i r.pk ?_ ?_)
    · rw [hj]
      exact hpk
    · rw [hphase]
      exact rfl
  have hheld : k.phase.owesCounts = true ∧ k.phase.isCommitting = false ∧
      (∀ pk, ¬ k.phase.Marks pk) ∧
      k.phase.Ok (s.recipients.modify (fun x => x.pk = r.pk) mark hmark) := by
    rcases hk with hk | hk
    · rw [hk]
      exact ⟨rfl, rfl, fun pk => id, fun x hx => hstored x (hleft x hx)⟩
    · rw [hk]
      exact ⟨rfl, rfl, fun pk => id, trivial⟩
  refine ⟨fun x hx => ?_, ?_, fun j => ?_, fun j hj => ?_, fun j j' pk hj hj' => ?_,
    fun d hd => ?_, h.once, .inr ⟨i, by simpa using hheld.1⟩⟩
  · obtain ⟨y, hy, rfl⟩ := (@Serial.mem_rows_modify _ _ s.recipients x _ mark hmark).mp hx
    split
    · rw [(hwhat y).2.2]
      rcases hstatus with rfl | rfl <;> simp
    · exact h.notFailed y hy
  · rw [Serial.rows_modify, List.pairwise_map]
    refine h.keys.imp fun {a b} hab => ?_
    have hwho : ∀ x : BroadcastRecipient,
        (if decide (x.pk = r.pk) = true then mark x else x).customer = x.customer ∧
        (if decide (x.pk = r.pk) = true then mark x else x).channel = x.channel := by
      intro x
      split
      · exact ⟨(hwhat x).1, (hwhat x).2.1⟩
      · exact ⟨rfl, rfl⟩
    rw [(hwho a).1, (hwho a).2, (hwho b).1, (hwho b).2]
    exact hab
  · by_cases hji : j = i
    · subst hji
      simpa using hheld.2.2.2
    · have hok := h.ok j
      have hmid := hidle j
      have halone := h.alone j
      simp only [hsame j hji]
      cases hj : (s.senders j).phase with
      | committing write =>
          -- a transaction would be alone
          have hempty := (halone (by rw [hj]; rfl)).1 i
          rw [hphase] at hempty
          cases hempty
      | resetting pks =>
          rw [hj] at hok
          exact hok
      | looping left' =>
          rw [hj] at hok
          exact fun x hx => hstored x (hok x hx)
      | sending r' left' =>
          rw [hj] at hok
          exact fun x hx => hstored x (hok x hx)
      | marking r' status' error' left' =>
          rw [hj] at hok
          obtain ⟨⟨hr', hpending'⟩, hstatus', hleft'⟩ := hok
          have hne := hnotme j r' status' error' left' hji hj
          have hmem' := hmem r' hr'
          rw [if_neg hne] at hmem'
          exact ⟨⟨hmem', hpending'⟩, hstatus', fun x hx => hstored x (hleft' x hx)⟩
      | counting read writes =>
          rw [hj] at hmid
          cases read with
          | nil => simp [Phase.Ok]
          | cons n read => cases hmid
      | _ => trivial
  · have hji : j ≠ i := by
      rintro rfl
      simp [hheld.2.1] at hj
    have hempty := (h.alone j (by simpa [hsame j hji] using hj)).1 i
    rw [hphase] at hempty
    cases hempty
  · have hne : ∀ x, ((s.set i k).senders x).phase.Marks pk → x ≠ i := by
      rintro x hx rfl
      rw [set_senders_self] at hx
      exact hheld.2.2.1 pk hx
    exact h.marksOnce j j' pk (by simpa [hsame j (hne j hj)] using hj)
      (by simpa [hsame j' (hne j' hj')] using hj')
  · obtain ⟨x, hx, hpk, hcustomer, hchannel, hsent⟩ := h.accounted d hd
    by_cases hxr : x.pk = r.pk
    · obtain rfl : x = r := Serial.eq_of_key_eq hx hr hxr
      have hmem' := hmem x hx
      rw [if_pos rfl] at hmem'
      refine ⟨mark x, hmem', (hmark x).trans hpk, (hwhat x).1.trans hcustomer,
        (hwhat x).2.1.trans hchannel, .inl ?_⟩
      rcases hsent with hsent | ⟨j, r', error', left', hj, hpk'⟩
      · rw [hpending] at hsent
        cases hsent
      · -- the message is this sender's own
        have hji : j = i := by
          by_contra hji
          exact hnotme j r' _ error' left' hji hj (hpk'.trans hpk.symm)
        rw [hji, hphase] at hj
        rw [(hwhat x).2.2]
        injection hj
    · have hmem' := hmem x hx
      rw [if_neg hxr] at hmem'
      refine ⟨x, hmem', hpk, hcustomer, hchannel, hsent.imp_right ?_⟩
      rintro ⟨j, r', error', left', hj, hpk'⟩
      have hji : j ≠ i := by
        rintro rfl
        rw [hphase] at hj
        injection hj with hrr
        rw [← hrr] at hpk'
        exact hxr (hpk.trans hpk'.symm)
      exact ⟨j, r', error', left', by simpa [hsame j hji] using hj, hpk'⟩

/-! ## Steps -/

/-- A sender's next step leaves alone what another one is at: recipients are resolved again while
none is in hand, listed while none is resolved again, sent while they are pending and nobody else is
to mark them, and changed while nobody counts them. -/
def Phase.Careful (s : BroadcastSystem κ) : Phase → Prop
  | .creating => (∀ j, (s.senders j).phase.held = []) ∧
      ∀ j, (s.senders j).phase.isCommitting = false
  | .listing => ∀ j, (s.senders j).phase.isCommitting = false
  | .sending r _ => (r ∈ s.recipients.rows ∧ r.status = .pending) ∧
      ∀ j, ¬ (s.senders j).phase.Marks r.pk
  | .committing _ => ∀ j, (s.senders j).phase.isMidCount = false
  | .marking _ _ _ _ => ∀ j, (s.senders j).phase.isMidCount = false
  | _ => True

def Careful (s : BroadcastSystem κ) : BroadcastStep κ → Prop
  | .advance i _ => (s.senders i).phase.Careful s
  | _ => True

instance [Fintype κ] (s : BroadcastSystem κ) : DecidablePred (Phase.Careful s)
  | .creating => inferInstanceAs (Decidable (_ ∧ _))
  | .listing => inferInstanceAs (Decidable (∀ _, _))
  | .sending _ _ => inferInstanceAs (Decidable (_ ∧ _))
  | .committing _ => inferInstanceAs (Decidable (∀ _, _))
  | .marking _ _ _ _ => inferInstanceAs (Decidable (∀ _, _))
  | .idle | .begun | .failing _ | .checked | .resuming | .resetting _ | .opening | .looping _
  | .ending | .counting _ _ | .deciding | .closing _ => inferInstanceAs (Decidable True)

instance [Fintype κ] (s : BroadcastSystem κ) : DecidablePred (Careful s)
  | .advance i _ => inferInstanceAs (Decidable ((s.senders i).phase.Careful s))
  | .select _ _ _ _ | .call _ | .recreate _ | .cancel => inferInstanceAs (Decidable True)

/-- The message of the step, where it sends one, succeeds. -/
def Succeeds : BroadcastStep κ → Prop
  | .advance _ e => e.outcome = .sent
  | _ => True

instance : DecidablePred (@Succeeds κ)
  | .advance _ e => inferInstanceAs (Decidable (e.outcome = .sent))
  | .select _ _ _ _ | .call _ | .recreate _ | .cancel => inferInstanceAs (Decidable True)

/-- Neither before nor after the step are recipients in hand, and nothing is counted. -/
theorem Sound.plain (h : Sound s) {k : Sender} {c : BroadcastMessage}
    (hok : k.phase.Ok s.recipients) (hheld : k.phase.held = [])
    (hclosed : k.phase.isCommitting = false)
    (hbefore : (s.senders i).phase.held = []) (howes : (s.senders i).phase.owesCounts = false)
    (hcounts : c.counts = s.campaign.counts) : Sound { s.set i k with campaign := c } :=
  h.quiet hok (Phase.not_marks_of_held hbefore) (Phase.not_marks_of_held hheld) hclosed
    (fun _ _ => hheld) (.inr ⟨hcounts, fun hb => by rw [howes] at hb; cases hb⟩)

theorem Sound.begin (h : Sound s) (mode : Mode) : Sound (s.beginWith i mode) := by
  unfold beginWith
  split
  · rename_i hphase
    exact h.plain trivial rfl rfl (by rw [hphase]; rfl) (by rw [hphase]; rfl) rfl
  · exact h

theorem Sound.beginQueue (h : Sound s) (hphase : (s.senders i).phase = .begun)
    (e : Surroundings) : Sound (s.beginQueue i e) := by
  have hplain : ∀ k : Sender, k.phase.Ok s.recipients → k.phase.held = [] →
      k.phase.isCommitting = false → Sound (s.set i k) :=
    fun k hok hheld hclosed =>
      h.plain hok hheld hclosed (by rw [hphase]; rfl) (by rw [hphase]; rfl) rfl
  unfold BroadcastSystem.beginQueue
  dsimp only
  split_ifs
  · exact hplain _ trivial rfl rfl
  · exact hplain _ trivial rfl rfl
  · exact hplain _ trivial rfl rfl
  · exact hplain _ trivial rfl rfl

theorem Sound.beginDirect (h : Sound s) (hphase : (s.senders i).phase = .begun)
    (e : Surroundings) : Sound (s.beginDirect i e) := by
  have hheld : (s.senders i).phase.held = [] := by
    rw [hphase]
    rfl
  have howes : (s.senders i).phase.owesCounts = false := by
    rw [hphase]
    rfl
  unfold BroadcastSystem.beginDirect
  dsimp only
  split_ifs
  · exact h.plain rfl rfl rfl hheld howes rfl
  · exact h.plain trivial rfl rfl hheld howes rfl
  · exact h.plain rfl rfl rfl hheld howes rfl
  · exact h.plain rfl rfl rfl hheld howes rfl
  · exact h.plain trivial rfl rfl hheld howes rfl

theorem Sound.openRegeneration (h : Sound s) (hphase : (s.senders i).phase = .creating)
    (hempty : ∀ j, (s.senders j).phase.held = [])
    (hnone : ∀ j, (s.senders j).phase.isCommitting = false) (e : Surroundings) :
    Sound (s.openRegeneration i e) := by
  have howes : (s.senders i).phase.owesCounts = false := by
    rw [hphase]
    rfl
  unfold BroadcastSystem.openRegeneration
  cases hwrite : regenerate (s.senders i).campaign.channel e s.recipients with
  | none => exact h.plain trivial rfl rfl (hempty i) howes rfl
  | some write =>
      dsimp only
      split
      · exact h
      · exact h.opened rfl (regenerate_fits hwrite) hempty hnone howes

/-- Where no recipient has failed, none is set back. -/
theorem Sound.resetRecipients (h : Sound s) {pks : List ℕ}
    (hphase : (s.senders i).phase = .resetting pks) : Sound (s.resetRecipients i pks) := by
  have hok := h.ok i
  rw [hphase] at hok
  obtain rfl : pks = [] := hok
  have hrows : (s.recipients.modify (fun r => ([] : List ℕ).contains r.pk) resetToPending
      fun _ => rfl) = s.recipients := by
    unfold Serial.modify
    simp
  unfold BroadcastSystem.resetRecipients
  rw [hrows]
  exact h.plain trivial rfl rfl (by rw [hphase]; rfl) (by rw [hphase]; rfl) rfl

omit [DecidableEq κ] in
theorem Sound.retryableIds (h : Sound s) : s.retryableIds py = [] := by
  unfold BroadcastSystem.retryableIds
  rw [List.map_eq_nil_iff, List.filter_eq_nil_iff]
  intro r hr
  simp [h.notFailed r hr]

theorem Sound.listPending (h : Sound s) (hphase : (s.senders i).phase = .listing)
    (hnone : ∀ j, (s.senders j).phase.isCommitting = false) : Sound (s.listPending i) := by
  have hlist : ∀ left : List BroadcastRecipient,
      left ⊆ s.recipients.rows → Sound (s.setPhase i (.looping left)) := by
    intro left hleft
    refine h.quiet (fun r hr => ⟨r, hleft hr, rfl⟩)
      (Phase.not_marks_of_held (by rw [hphase]; rfl)) (fun _ => id) rfl (fun j hj => ?_)
      (.inr ⟨rfl, fun _ => rfl⟩)
    rw [hnone j] at hj
    cases hj
  have hpending : (s.recipients.rows.filter fun r => r.status = .pending) ⊆ s.recipients.rows :=
    List.filter_subset_self _
  unfold BroadcastSystem.listPending
  dsimp only
  split
  · exact hlist _ fun r hr => hpending (List.mem_of_mem_take hr)
  · exact hlist _ hpending

omit [DecidableEq κ] in
/-- While a sender has recipients in hand no transaction is open. -/
theorem Sound.not_open_of_held (h : Sound s) (hheld : (s.senders i).phase.held ≠ []) (j : κ) :
    (s.senders j).phase.isCommitting = false := by
  by_contra hj
  exact hheld ((h.alone j (by simpa using hj)).1 i)

theorem Sound.nextRecipient (h : Sound s) {r : BroadcastRecipient}
    {left : List BroadcastRecipient} (hphase : (s.senders i).phase = .looping (r :: left)) :
    Sound (s.nextRecipient i r left) := by
  have hok := h.ok i
  rw [hphase] at hok
  have hnot : ∀ pk, ¬ (s.senders i).phase.Marks pk := by
    rw [hphase]
    exact fun _ => id
  have hnone := @Sound.not_open_of_held κ s i h (by rw [hphase]; simp [Phase.held])
  have hgo : ∀ k : Sender, k.phase = .ending ∨ (∃ x, k.phase = .sending x left ∧ x.pk = r.pk) →
      Sound (s.set i k) := by
    intro k hk
    refine h.quiet ?_ hnot ?_ ?_ (fun j hj => ?_) (.inr ⟨rfl, fun _ => ?_⟩)
    · rcases hk with hk | ⟨x, hk, hpk⟩
      · rw [hk]
        trivial
      · rw [hk]
        intro y hy
        rcases List.mem_cons.mp hy with rfl | hy
        · obtain ⟨z, hz, hzr⟩ := hok r List.mem_cons_self
          exact ⟨z, hz, hzr.trans hpk.symm⟩
        · exact hok y (List.mem_cons_of_mem r hy)
    · rcases hk with hk | ⟨x, hk, -⟩ <;> rw [hk] <;> exact fun _ => id
    · rcases hk with hk | ⟨x, hk, -⟩ <;> rw [hk] <;> rfl
    · rw [hnone j] at hj
      cases hj
    · rcases hk with hk | ⟨x, hk, -⟩ <;> rw [hk] <;> rfl
  unfold BroadcastSystem.nextRecipient
  dsimp only
  split
  · refine hgo _ ?_
    dsimp only
    split
    · exact .inl rfl
    · exact .inr ⟨r, rfl, rfl⟩
  · obtain ⟨x, hx, hpk⟩ := hok r List.mem_cons_self
    rw [Serial.get?_eq_some_iff.mpr ⟨hx, hpk⟩]
    refine hgo _ ?_
    dsimp only
    split
    · exact .inl rfl
    · exact .inr ⟨x, rfl, hpk⟩

theorem Sound.sendMessage (h : Sound s) {r : BroadcastRecipient}
    {left : List BroadcastRecipient} {e : Surroundings} (he : e.outcome = .sent)
    (hphase : (s.senders i).phase = .sending r left)
    (hr : r ∈ s.recipients.rows ∧ r.status = .pending)
    (hfree : ∀ j, ¬ (s.senders j).phase.Marks r.pk) : Sound (s.sendMessage py i r left e) := by
  have hskip : ∀ error, Sound (s.setPhase i (.marking r .skipped error left)) :=
    fun error => h.sends hphase rfl hr hfree (.inr ⟨rfl, rfl⟩)
  unfold BroadcastSystem.sendMessage
  split
  · rw [if_neg (by rw [hr.2]; simp)]
    exact hskip _
  · split
    · exact hskip _
    · rw [he]
      exact h.sends hphase rfl hr hfree (.inl ⟨rfl, rfl⟩)

theorem afterMark_phase (k : Sender) (status : RecipientStatus) (error : String)
    (left : List BroadcastRecipient) :
    (afterMark py k status error left).phase = .looping left ∨
      (afterMark py k status error left).phase = .ending := by
  unfold afterMark
  split
  · split_ifs
    · exact .inr rfl
    · exact .inr rfl
    · exact .inl rfl
    · exact .inl rfl
    · exact .inl rfl
  · exact .inl rfl

theorem Sound.markRecipient (h : Sound s) {r : BroadcastRecipient} {status : RecipientStatus}
    {error : String} {left : List BroadcastRecipient} {e : Surroundings}
    (hphase : (s.senders i).phase = .marking r status error left)
    (hidle : ∀ j, (s.senders j).phase.isMidCount = false) :
    Sound (s.markRecipient py i r status error left e) := by
  have hok := h.ok i
  rw [hphase] at hok
  unfold BroadcastSystem.markRecipient
  split
  · exact h
  · rw [Serial.get?_eq_some_iff.mpr ⟨hok.1.1, rfl⟩]
    exact @Sound.marked κ _ s i h _ r left status error (markedAs status error e.now) hphase hidle
      (afterMark_phase _ _ _ _) (fun _ => rfl) fun _ => ⟨rfl, rfl, rfl⟩

theorem Sound.endLoop (h : Sound s) (hphase : (s.senders i).phase = .ending) :
    Sound (s.endLoop i) := by
  have hgo : ∀ k : Sender, (∃ writes, k.phase = .counting [] writes) → Sound (s.set i k) := by
    rintro k ⟨writes, hk⟩
    refine h.quiet (by rw [hk]; rfl) (Phase.not_marks_of_held (by rw [hphase]; rfl))
      (Phase.not_marks_of_held (by rw [hk]; rfl)) (by rw [hk]; rfl) (fun _ _ => by rw [hk]; rfl)
      (.inr ⟨rfl, fun _ => by rw [hk]; rfl⟩)
  unfold BroadcastSystem.endLoop
  dsimp only
  split
  · exact hgo _ ⟨_, rfl⟩
  · exact hgo _ ⟨_, rfl⟩

theorem Sound.count (h : Sound s) {read : List ℕ} {writes : Bool}
    (hphase : (s.senders i).phase = .counting read writes) : Sound (s.count i read writes) := by
  have hok := h.ok i
  rw [hphase] at hok
  have hheld : (s.senders i).phase.held = [] := by
    rw [hphase]
    rfl
  have hread : ∀ read' : List ℕ,
      read' = (countsOf s.recipients.rows).numbers.take read'.length →
      Sound (s.setPhase i (.counting read' writes)) := by
    intro read' hread'
    exact h.quiet hread' (Phase.not_marks_of_held hheld) (fun _ => id) rfl (fun _ _ => rfl)
      (.inr ⟨rfl, fun _ => rfl⟩)
  unfold BroadcastSystem.count
  dsimp only
  split
  · exact hread _ rfl
  · rename_i total
    obtain rfl : total = (countsOf s.recipients.rows).total := by
      simpa [Phase.Ok, Counts.numbers] using hok
    exact hread _ rfl
  · rename_i total success
    obtain ⟨rfl, rfl⟩ : total = (countsOf s.recipients.rows).total ∧
        success = (countsOf s.recipients.rows).success := by
      simpa [Phase.Ok, Counts.numbers] using hok
    exact hread _ rfl
  · rename_i total success failed rest
    have hnumbers : total = (countsOf s.recipients.rows).total ∧
        success = (countsOf s.recipients.rows).success ∧
        failed = (countsOf s.recipients.rows).failed := by
      have hok' : total :: success :: failed :: rest =
          (countsOf s.recipients.rows).numbers.take (rest.length + 3) := hok
      rw [Counts.numbers, List.take_of_length_le (by simp)] at hok'
      simp only [List.cons.injEq] at hok'
      exact ⟨hok'.1, hok'.2.1, hok'.2.2.1⟩
    have hafter : ∀ k : Sender, (afterCounts writes k).held = [] ∧
        (afterCounts writes k).isCommitting = false ∧
        (afterCounts writes k).Ok s.recipients := by
      intro k
      unfold afterCounts
      cases writes with
      | false => exact ⟨rfl, rfl, trivial⟩
      | true => cases k.mode <;> exact ⟨rfl, rfl, trivial⟩
    obtain ⟨hempty, hclosed, hokAfter⟩ := hafter (s.senders i)
    refine h.quiet hokAfter (Phase.not_marks_of_held hheld) (Phase.not_marks_of_held hempty) hclosed
      (fun _ _ => hempty) (.inl ?_)
    rw [hnumbers.1, hnumbers.2.1, hnumbers.2.2]
    rfl

theorem Sound.settle (h : Sound s) (hphase : (s.senders i).phase = .deciding) :
    Sound (s.settle i) := by
  have hplain : ∀ status, Sound (s.setPhase i (.closing status)) := fun status =>
    h.plain trivial rfl rfl (by rw [hphase]; rfl) (by rw [hphase]; rfl) rfl
  unfold BroadcastSystem.settle
  dsimp only
  split_ifs
  · exact hplain _
  · exact hplain _
  · exact hplain _

theorem Sound.advance (h : Sound s) {e : Surroundings} (he : e.outcome = .sent)
    (hcareful : Careful s (.advance i e)) : Sound (s.advance py i e) := by
  unfold BroadcastSystem.advance
  have hplain : ∀ phase : Phase, phase.Ok s.recipients → phase.held = [] →
      phase.isCommitting = false → (s.senders i).phase.held = [] →
      (s.senders i).phase.owesCounts = false → Sound (s.setPhase i phase) :=
    fun phase hok hheld hclosed hbefore howes => h.plain hok hheld hclosed hbefore howes rfl
  cases hphase : (s.senders i).phase with
  | idle => exact h
  | begun =>
      dsimp only
      split
      · exact h.beginQueue hphase e
      · exact h.beginDirect hphase e
      · exact hplain _ trivial rfl rfl (by rw [hphase]; rfl) (by rw [hphase]; rfl)
  | failing error =>
      exact h.plain trivial rfl rfl (by rw [hphase]; rfl) (by rw [hphase]; rfl) rfl
  | checked =>
      dsimp only
      split
      · exact hplain _ trivial rfl rfl (by rw [hphase]; rfl) (by rw [hphase]; rfl)
      · exact hplain _ trivial rfl rfl (by rw [hphase]; rfl) (by rw [hphase]; rfl)
  | creating =>
      simp only [Careful, hphase, Phase.Careful] at hcareful
      exact h.openRegeneration hphase hcareful.1 hcareful.2 e
  | committing write =>
      simp only [Careful, hphase, Phase.Careful] at hcareful
      exact h.committed hphase hcareful rfl rfl
  | resuming =>
      dsimp only
      split
      · exact hplain _ h.retryableIds rfl rfl (by rw [hphase]; rfl) (by rw [hphase]; rfl)
      · exact hplain _ trivial rfl rfl (by rw [hphase]; rfl) (by rw [hphase]; rfl)
  | resetting pks => exact h.resetRecipients hphase
  | opening => exact h.plain trivial rfl rfl (by rw [hphase]; rfl) (by rw [hphase]; rfl) rfl
  | listing =>
      simp only [Careful, hphase, Phase.Careful] at hcareful
      exact h.listPending hphase hcareful
  | looping left =>
      cases left with
      | nil =>
          exact h.quiet trivial (Phase.not_marks_of_held (by rw [hphase]; rfl)) (fun _ => id) rfl
            (fun _ _ => rfl) (.inr ⟨rfl, fun _ => rfl⟩)
      | cons r left => exact h.nextRecipient hphase
  | sending r left =>
      simp only [Careful, hphase, Phase.Careful] at hcareful
      exact h.sendMessage he hphase hcareful.1 hcareful.2
  | marking r status error left =>
      simp only [Careful, hphase, Phase.Careful] at hcareful
      exact h.markRecipient hphase hcareful
  | ending => exact h.endLoop hphase
  | counting read writes => exact h.count hphase
  | deciding => exact h.settle hphase
  | closing status =>
      exact h.plain trivial rfl rfl (by rw [hphase]; rfl) (by rw [hphase]; rfl) rfl

theorem Sound.step (h : Sound s) {a : BroadcastStep κ} (ha : Succeeds a) (hcareful : Careful s a) :
    Sound (s.step py a) := by
  cases a with
  | select i resumeFailed selectedLimit now =>
      unfold BroadcastSystem.step
      dsimp only
      split
      · exact h.begin _
      · exact h
  | call i => exact h.begin _
  | recreate i => exact h.begin _
  | advance i e => exact h.advance ha hcareful
  | cancel =>
      exact ⟨h.notFailed, h.keys, h.ok, h.alone, h.marksOnce, h.accounted, h.once, h.counted⟩

/-! ## Runs -/

omit [DecidableEq κ] in
theorem sound_start (text : String) (channel : Channel) (status : CampaignStatus)
    (scheduledAt : Option Instant) : Sound (start κ text channel status scheduledAt) where
  notFailed := by simp [start, Serial.empty]
  keys := List.Pairwise.nil
  ok _ := trivial
  alone _ h := nomatch h
  marksOnce _ _ _ h := h.elim
  accounted := by simp [start]
  once := List.nodup_nil
  counted := .inl rfl

omit [DecidableEq κ] in
/-- Two messages to one customer on one channel are one. -/
theorem Sound.nodup_customers (h : Sound s) :
    (s.delivered.map fun d => (d.customer, d.channel)).Nodup := by
  have honce := h.once
  rw [List.Nodup, List.pairwise_map] at honce ⊢
  refine honce.imp_of_mem fun {a b} ha hb hne hsame => hne ?_
  obtain ⟨r, hr, hpk, hcustomer, hchannel, -⟩ := h.accounted a ha
  obtain ⟨r', hr', hpk', hcustomer', hchannel', -⟩ := h.accounted b hb
  obtain ⟨hcustomers, hchannels⟩ := Prod.mk.inj hsame
  have hrr : r = r' := by
    have hsymm : Std.Symm fun a b : BroadcastRecipient =>
        ¬ (a.customer = b.customer ∧ a.channel = b.channel) :=
      ⟨fun _ _ hxy hyx => hxy ⟨hyx.1.symm, hyx.2.symm⟩⟩
    by_contra hdiff
    exact h.keys.forall hr hr' hdiff ⟨hcustomer.trans (hcustomers.trans hcustomer'.symm),
      hchannel.trans (hchannels.trans hchannel'.symm)⟩
  rw [← hpk, ← hpk', hrr]

theorem length_eq_countStatus (rows : List BroadcastRecipient) :
    rows.length = countStatus rows .pending + countStatus rows .sent + countStatus rows .failed +
      countStatus rows .skipped := by
  induction rows with
  | nil => rfl
  | cons r rows ih =>
      simp only [countStatus, List.length_cons, List.countP_cons] at ih ⊢
      cases r.status <;> simp <;> omega

/-- What the numbers of the campaign are to be once no recipient is pending. -/
def Balanced (s : BroadcastSystem κ) : Prop :=
  (∀ i, (s.senders i).phase = .idle) → (∀ r ∈ s.recipients.rows, r.status ≠ .pending) →
    s.campaign.totalRecipients = s.campaign.successCount + s.campaign.failedCount +
      countStatus s.recipients.rows .skipped

omit [DecidableEq κ] in
theorem Sound.balanced (h : Sound s) : Balanced s := by
  intro hidle hpending
  have hcounts : s.campaign.counts = countsOf s.recipients.rows := by
    rcases h.counted with hcounts | ⟨j, hj⟩
    · exact hcounts
    · rw [hidle j] at hj
      cases hj
  obtain ⟨htotal, hsuccess, hfailed⟩ := Counts.mk.inj hcounts
  have hzero : countStatus s.recipients.rows .pending = 0 := by
    rw [countStatus, List.countP_eq_zero]
    simpa using hpending
  have hlength := length_eq_countStatus s.recipients.rows
  rw [htotal, hsuccess, hfailed]
  omega

/-- One customer with one chat. -/
def oneCustomer : Surroundings where
  audience := [7]
  chats := fun _ _ => ["100"]

/-- A sender takes some steps. -/
def advances (i : Bool) (n : ℕ) : List (BroadcastStep Bool) :=
  List.replicate n (.advance i oneCustomer)

/-- Two queue workers list the recipient before either of them sends. -/
def twoWorkers : List (BroadcastStep Bool) :=
  .select true false 50 0 :: advances true 6 ++ .select false false 50 0 :: advances false 5 ++
    advances true 3 ++ advances false 3

end Qasedak.Broadcasts
