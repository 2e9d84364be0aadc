import Mathlib
import Qasedak.Reminders.LiveRun
import Qasedak.Reminders.Policy

/-! A dry run of the reminders: when it leaves everything as it was, and the run after it sends
what was reported. -/

namespace Qasedak.Reminders

open Foundation Store Panels

/-! ## The log, by keys -/

section Logs

variable {logs : List ReminderLog} {key : ReminderKey} {r : ReminderRecord} {clock : Instant}
  {p : ReminderKey → Bool}

/-- A record does not show among other keys. -/
theorem record_filter (hp : p key = false) :
    (recordReminderLog logs key r clock).filter (p ·.key) = logs.filter (p ·.key) := by
  rw [recordReminderLog]
  split
  · rw [List.filter_map]
    have hkeys : ((fun log : ReminderLog => p log.key) ∘ fun log =>
        if log.key = key then log.recorded r clock else log) = fun log => p log.key := by
      funext log
      by_cases hlog : log.key = key <;> simp [hlog]
    rw [hkeys]
    conv_rhs => rw [← List.map_id (logs.filter fun log => p log.key)]
    refine List.map_congr_left fun log hlog => if_neg ?_
    rintro rfl
    rw [(List.mem_filter.mp hlog).2] at hp
    cases hp
  · rw [List.filter_append]
    simp [hp]

theorem map_own (hn : (logs.map (·.key)).Nodup) {log : ReminderLog} (hlog : log ∈ logs)
    (hkey : log.key = key) :
    (logs.map fun log => if log.key = key then log.recorded r clock else log).filter
      (fun log => log.key = key) = [log.recorded r clock] := by
  induction logs with
  | nil => cases hlog
  | cons x logs ih =>
      obtain ⟨hx, hn⟩ := List.nodup_cons.mp hn
      rw [List.map_cons]
      rcases List.mem_cons.mp hlog with rfl | hlog
      · have hrest : (logs.map fun log => if log.key = key then log.recorded r clock else log).filter
            (fun log => log.key = key) = [] := by
          rw [List.filter_eq_nil_iff]
          intro y hy
          obtain ⟨z, hz, rfl⟩ := List.mem_map.mp hy
          have hne : z.key ≠ key := fun h => hx (List.mem_map.mpr ⟨z, hz, h.trans hkey.symm⟩)
          simp [hne]
        rw [if_pos hkey, List.filter_cons_of_pos (by simp [hkey]), hrest]
      · have hne : x.key ≠ key := by
          intro h
          exact hx (List.mem_map.mpr ⟨log, hlog, hkey.trans h.symm⟩)
        rw [if_neg hne, List.filter_cons_of_neg (by simp [hne])]
        exact ih hn hlog

/-- The one row of a key after its record. -/
theorem record_own (hn : (logs.map (·.key)).Nodup) :
    ∃ log, (recordReminderLog logs key r clock).filter (fun log => log.key = key) = [log] ∧
      log.key = key ∧ log.status = r.status ∧ log.updatedAt = clock := by
  rw [recordReminderLog]
  split
  · rename_i hany
    obtain ⟨log, hlog, hkey⟩ := List.any_eq_true.mp hany
    have hkey : log.key = key := by simpa using hkey
    exact ⟨_, map_own hn hlog hkey, hkey, rfl, rfl⟩
  · rename_i hany
    have hnone : logs.filter (fun log => log.key = key) = [] := by
      rw [List.filter_eq_nil_iff]
      simpa using hany
    rw [List.filter_append, hnone, List.nil_append,
      List.filter_cons_of_pos (by simp [ReminderLog.recorded]), List.filter_nil]
    exact ⟨_, rfl, rfl, rfl, rfl⟩

/-- A record of a key that was not sent counts where it is of a message. -/
theorem count_record (hn : (logs.map (·.key)).Nodup) (hnot : ¬ SentIn logs key) :
    dailySentCount (recordReminderLog logs key r clock) key.client key.triggerDate =
      dailySentCount logs key.client key.triggerDate + if r.status = .sent then 1 else 0 := by
  have hsplit (l : List ReminderLog) : dailySentCount l key.client key.triggerDate =
      dailySentCount (l.filter fun log => log.key = key) key.client key.triggerDate +
        dailySentCount (l.filter fun log => ¬ log.key = key) key.client key.triggerDate := by
    unfold dailySentCount
    rw [List.countP_eq_countP_filter_add l _ fun log => decide (log.key = key)]
    simp
  have hother : (recordReminderLog logs key r clock).filter (fun log => ¬ log.key = key) =
      logs.filter fun log => ¬ log.key = key :=
    @record_filter logs key r clock (fun k => ¬ k = key) (by simp)
  have hown : dailySentCount (logs.filter fun log => log.key = key) key.client key.triggerDate = 0 := by
    unfold dailySentCount
    rw [List.countP_eq_zero]
    intro log hlog
    obtain ⟨hlog, hkey⟩ := List.mem_filter.mp hlog
    have hkey : log.key = key := by simpa using hkey
    have hsent : log.status ≠ .sent := fun h => hnot ⟨log, hlog, hkey, h⟩
    simp [hsent]
  obtain ⟨log, hlog, hkey, hstatus, -⟩ := @record_own logs key r clock hn
  rw [hsplit (recordReminderLog logs key r clock), hsplit logs, hother, hown, hlog]
  by_cases hsent : r.status = .sent <;>
    simp [dailySentCount, hkey, hstatus, hsent, Nat.add_comm]

end Logs

/-! ## One reminder -/

section Reminder

variable {s t : ReminderSystem} {key : ReminderKey} {expiryAt : Option Instant}
  {settings : ReminderSettings} {dryRun : Bool} {now : Instant} {answer : Attempt}

/-- Neither sent before nor in its cooldown. -/
def Pending (logs : List ReminderLog) (settings : ReminderSettings) (now : Instant)
    (key : ReminderKey) : Bool :=
  !sentDuplicateExists logs key && !cooldownActive logs key settings now

/-- The messages of the day leave room for one more. -/
def Below (logs : List ReminderLog) (settings : ReminderSettings) (key : ReminderKey) : Prop :=
  dailySentCount logs key.client key.triggerDate < settings.reminderMaxPerClientPerDay

instance (logs : List ReminderLog) (settings : ReminderSettings) (key : ReminderKey) :
    Decidable (Below logs settings key) :=
  inferInstanceAs (Decidable (_ < _))

theorem send_blocked (h : Pending s.logs settings now key = false) :
    (sendReminderToCustomer s key expiryAt settings dryRun now answer).2 = s ∧
      ∃ reason, (sendReminderToCustomer s key expiryAt settings dryRun now answer).1 =
        .skipped reason := by
  rw [sendReminderToCustomer]
  by_cases hduplicate : sentDuplicateExists s.logs key = true
  · rw [if_pos hduplicate]
    exact ⟨rfl, _, rfl⟩
  · have hcooldown : cooldownActive s.logs key settings now = true := by
      simpa [Pending, hduplicate] using h
    rw [if_neg hduplicate, if_pos hcooldown]
    exact ⟨rfl, _, rfl⟩

theorem send_pending (h : Pending s.logs settings now key = true) :
    sendReminderToCustomer s key expiryAt settings dryRun now answer =
      if settings.reminderMaxPerClientPerDay ≤ dailySentCount s.logs key.client key.triggerDate then
        skipResult s key dailyLimitReason answer.before
      else
        answer.target.elim
          (if dryRun then (.skipped noTargetReason, s)
            else skipResult s key noTargetReason answer.before)
          fun chat => if dryRun then (.wouldSend, s) else deliver s key expiryAt chat answer := by
  have hboth : sentDuplicateExists s.logs key = false ∧
      cooldownActive s.logs key settings now = false := by
    simpa [Pending] using h
  rw [sendReminderToCustomer, hboth.1, hboth.2, if_neg (by simp), if_neg (by simp)]
  cases answer.target <;> rfl

theorem not_sentIn_of_pending (h : Pending s.logs settings now key = true) :
    ¬ SentIn s.logs key := by
  intro hsent
  have hduplicate := sentDuplicateExists_iff.mpr ⟨key, hsent, sameTrigger_refl key⟩
  simp [Pending, hduplicate] at h

/-- The log of a reminder is as before, or was written for its key. -/
theorem send_logs :
    (sendReminderToCustomer s key expiryAt settings dryRun now answer).2.logs = s.logs ∨
      (∃ r clock, (sendReminderToCustomer s key expiryAt settings dryRun now answer).2.logs =
        recordReminderLog s.logs key r clock) ∨
      ∃ r clock r' clock', (sendReminderToCustomer s key expiryAt settings dryRun now answer).2.logs =
        recordReminderLog (recordReminderLog s.logs key r clock) key r' clock' := by
  cases h : Pending s.logs settings now key with
  | false => exact .inl (by rw [(send_blocked h).1])
  | true =>
      rw [send_pending h]
      split
      · exact .inr (.inl ⟨_, _, rfl⟩)
      cases answer.target with
      | none =>
          cases dryRun with
          | false => exact .inr (.inl ⟨_, _, rfl⟩)
          | true => exact .inl rfl
      | some chat =>
          cases dryRun with
          | true => exact .inl rfl
          | false =>
              rw [Option.elim_some, if_neg (by simp), deliver]
              cases answer.outcome with
              | error e => exact .inr (.inr ⟨_, _, _, _, rfl⟩)
              | ok _ => exact .inr (.inr ⟨_, _, _, _, rfl⟩)

theorem send_filter {p : ReminderKey → Bool} (hp : p key = false) :
    (sendReminderToCustomer s key expiryAt settings dryRun now answer).2.logs.filter (p ·.key) =
      s.logs.filter (p ·.key) := by
  rcases @send_logs s key expiryAt settings dryRun now answer with h | ⟨_, _, h⟩ | ⟨_, _, _, _, h⟩
  · rw [h]
  · rw [h, record_filter hp]
  · rw [h, record_filter hp, record_filter hp]

theorem send_nodup (hn : (s.logs.map (·.key)).Nodup) :
    ((sendReminderToCustomer s key expiryAt settings dryRun now answer).2.logs.map (·.key)).Nodup := by
  rcases @send_logs s key expiryAt settings dryRun now answer with h | ⟨_, _, h⟩ | ⟨_, _, _, _, h⟩
  · rwa [h]
  · rw [h]
    exact nodup_record hn
  · rw [h]
    exact nodup_record (nodup_record hn)

end Reminder

/-! ## What a reminder depends on -/

section Depends

variable {logs logs' : List ReminderLog} {key : ReminderKey} {settings : ReminderSettings}
  {now : Instant}

/-- The same rows of a client and a type. -/
def SameType (client : ℕ) (type : ReminderType) (logs logs' : List ReminderLog) : Prop :=
  (logs.filter fun log => log.key.client = client ∧ log.key.reminderType = type) =
    logs'.filter fun log => log.key.client = client ∧ log.key.reminderType = type

theorem pending_of_filter (logs : List ReminderLog) :
    Pending logs settings now key = Pending (logs.filter fun log =>
      log.key.client = key.client ∧ log.key.reminderType = key.reminderType) settings now key := by
  have hduplicate : sentDuplicateExists logs key = sentDuplicateExists (logs.filter fun log =>
      log.key.client = key.client ∧ log.key.reminderType = key.reminderType) key := by
    rw [sentDuplicateExists, sentDuplicateExists, List.any_filter]
    congr 1
    funext log
    by_cases hsame : SameTrigger key log.key
    · simp [hsame, hsame.1.symm, hsame.2.1.symm]
    · simp [hsame]
  have hlatest : latestAttempt logs key = latestAttempt (logs.filter fun log =>
      log.key.client = key.client ∧ log.key.reminderType = key.reminderType) key := by
    rw [latestAttempt, latestAttempt, List.filter_filter]
    congr 2
    funext log
    by_cases hclient : log.key.client = key.client <;>
      by_cases htype : log.key.reminderType = key.reminderType <;> simp [hclient, htype]
  rw [Pending, Pending, hduplicate, cooldownActive, cooldownActive, hlatest]

theorem pending_congr (h : SameType key.client key.reminderType logs logs') :
    Pending logs settings now key = Pending logs' settings now key := by
  rw [pending_of_filter logs, pending_of_filter logs', h]

end Depends

/-! ## The reminders of one client -/

section Client

variable {localDate : Instant → ℤ} {o : RunOptions} {v : LiveVisit} {expiryAt : Option Instant}
  {ds : List ReminderDecision} {d : ReminderDecision} {s t : ReminderSystem} {n : ℕ}
  {logs : List ReminderLog}

/-- The messages to the client on the day of the run. -/
def LiveVisit.sentToday (localDate : Instant → ℤ) (o : RunOptions) (v : LiveVisit)
    (logs : List ReminderLog) : ℕ :=
  dailySentCount logs v.client (localDate o.now)

/-- The decisions that only the limit of the day may stand against. -/
def LiveVisit.sendable (localDate : Instant → ℤ) (o : RunOptions) (v : LiveVisit)
    (logs : List ReminderLog) (ds : List ReminderDecision) : List ReminderDecision :=
  ds.filter fun d => Pending logs v.settings o.now (v.key localDate o d) &&
    (v.attempt d).target.isSome

/-- No two decisions of one type. -/
def Apart (ds : List ReminderDecision) : Prop :=
  ds.Pairwise fun d d' => d.reminderType ≠ d'.reminderType

/-- The log of a run within the reminders of a client: about the decisions that are still to come
it says what it said before, and some messages were sent. -/
structure Follows (localDate : Instant → ℤ) (o : RunOptions) (v : LiveVisit)
    (logs : List ReminderLog) (n : ℕ) (ds : List ReminderDecision) (t : ReminderSystem) : Prop where
  nodup : (t.logs.map (·.key)).Nodup
  types : ∀ d ∈ ds, SameType v.client d.reminderType t.logs logs
  count : v.sentToday localDate o t.logs = v.sentToday localDate o logs + n

theorem Follows.tail (h : Follows localDate o v logs n (d :: ds) t) :
    Follows localDate o v logs n ds t :=
  ⟨h.nodup, fun d' hd' => h.types d' (List.mem_cons_of_mem d hd'), h.count⟩

theorem Follows.pending (h : Follows localDate o v logs n ds t) (hd : d ∈ ds) :
    Pending t.logs v.settings o.now (v.key localDate o d) =
      Pending logs v.settings o.now (v.key localDate o d) :=
  pending_congr (h.types d hd)

/-- A record of a decision that is over. -/
theorem Follows.record {r : ReminderRecord} {clock : Instant}
    (h : Follows localDate o v logs n ds t)
    (hapart : ∀ d' ∈ ds, d.reminderType ≠ d'.reminderType)
    (hnot : ¬ SentIn t.logs (v.key localDate o d)) :
    Follows localDate o v logs (n + if r.status = .sent then 1 else 0) ds
      (t.record (v.key localDate o d) r clock) := by
  refine ⟨nodup_record h.nodup, fun d' hd' => ?_, ?_⟩
  · have hother : (decide ((v.key localDate o d).client = v.client ∧
        (v.key localDate o d).reminderType = d'.reminderType)) = false := by
      have hne : (v.key localDate o d).reminderType ≠ d'.reminderType := hapart d' hd'
      simp [hne]
    exact (@record_filter t.logs (v.key localDate o d) r clock (fun k => k.client = v.client ∧
      k.reminderType = d'.reminderType) hother).trans (h.types d' hd')
  · have hcount := @count_record t.logs (v.key localDate o d) r clock h.nodup hnot
    have hbefore := h.count
    rw [LiveVisit.sentToday] at hbefore ⊢
    change dailySentCount (recordReminderLog t.logs (v.key localDate o d) r clock)
      (v.key localDate o d).client (v.key localDate o d).triggerDate = _
    rw [hcount]
    change dailySentCount t.logs v.client (localDate o.now) + _ = _
    rw [hbefore, Nat.add_assoc]

theorem Follows.skip {reason : String} {clock : Instant}
    (h : Follows localDate o v logs n ds t)
    (hapart : ∀ d' ∈ ds, d.reminderType ≠ d'.reminderType)
    (hnot : ¬ SentIn t.logs (v.key localDate o d)) :
    Follows localDate o v logs n ds (skipResult t (v.key localDate o d) reason clock).2 :=
  @Follows.record localDate o v ds d t n logs ⟨.skipped, "", reason, none⟩ clock h hapart hnot

theorem Follows.deliver {chat : String} {answer : Attempt} (hok : answer.outcome = .ok ())
    (h : Follows localDate o v logs n ds t)
    (hapart : ∀ d' ∈ ds, d.reminderType ≠ d'.reminderType)
    (hnot : ¬ SentIn t.logs (v.key localDate o d)) :
    Follows localDate o v logs (n + 1) ds
        (deliver t (v.key localDate o d) expiryAt chat answer).2 ∧
      (deliver t (v.key localDate o d) expiryAt chat answer).2.sent =
        ⟨v.key localDate o d, expiryAt⟩ :: t.sent := by
  have hfirst := @Follows.record localDate o v ds d t n logs ⟨.skipped, chat, "", none⟩
    answer.before h hapart hnot
  have hstill : ¬ SentIn (t.record (v.key localDate o d) ⟨.skipped, chat, "", none⟩
      answer.before).logs (v.key localDate o d) := by
    rw [ReminderSystem.record, sentIn_record, if_pos rfl]
    simp
  have hsecond := @Follows.record localDate o v ds d _ n logs ⟨.sent, chat, "", some answer.after⟩
    answer.after hfirst hapart hstill
  rw [Reminders.deliver]
  dsimp only
  rw [hok]
  exact ⟨⟨hsecond.nodup, hsecond.types, hsecond.count⟩, rfl⟩

/-- The messages of a real run: the first ones that the limit of the day leaves room for. -/
theorem sendDue_real (hreal : o.dryRun = false) (hapart : Apart ds)
    (hok : ∀ d ∈ ds, (v.attempt d).outcome = .ok ()) (h : Follows localDate o v logs n ds t) :
    (sendDue localDate o v expiryAt ds t).1.sent.map (·.key) =
      (((v.sendable localDate o logs ds).take
        (v.settings.reminderMaxPerClientPerDay - (v.sentToday localDate o logs + n))).map
          (v.key localDate o)).reverse ++ t.sent.map (·.key) := by
  induction ds generalizing t n with
  | nil => simp [sendDue, LiveVisit.sendable]
  | cons d ds ih =>
      obtain ⟨hfirst, hrest⟩ := List.pairwise_cons.mp hapart
      have hrestok : ∀ d' ∈ ds, (v.attempt d').outcome = .ok () := fun d' hd' =>
        hok d' (List.mem_cons_of_mem d hd')
      have hpending := h.pending (List.mem_cons_self (a := d) (l := ds))
      rw [sendDue]
      dsimp only
      cases hp : Pending t.logs v.settings o.now (v.key localDate o d) with
      | false =>
          have hskip : v.sendable localDate o logs (d :: ds) = v.sendable localDate o logs ds := by
            rw [LiveVisit.sendable, List.filter_cons_of_neg (by simp [← hpending, hp])]
            rfl
          rw [(send_blocked hp).1, ih hrest hrestok h.tail, hskip]
      | true =>
          have hnot := not_sentIn_of_pending hp
          have hcount : dailySentCount t.logs (v.key localDate o d).client
              (v.key localDate o d).triggerDate = v.sentToday localDate o logs + n := h.count
          rw [send_pending hp, hcount, hreal]
          by_cases hlimit : v.settings.reminderMaxPerClientPerDay ≤ v.sentToday localDate o logs + n
          · rw [if_pos hlimit, ih hrest hrestok (h.tail.skip hfirst hnot),
              Nat.sub_eq_zero_of_le hlimit]
            rfl
          · rw [if_neg hlimit]
            cases htarget : (v.attempt d).target with
            | none =>
                have hskip : v.sendable localDate o logs (d :: ds) =
                    v.sendable localDate o logs ds := by
                  rw [LiveVisit.sendable, List.filter_cons_of_neg (by simp [htarget])]
                  rfl
                rw [Option.elim_none, if_neg (by simp),
                  ih hrest hrestok (h.tail.skip hfirst hnot), hskip]
                rfl
            | some chat =>
                have htake : v.sendable localDate o logs (d :: ds) =
                    d :: v.sendable localDate o logs ds := by
                  rw [LiveVisit.sendable,
                    List.filter_cons_of_pos (by simp [htarget, ← hpending, hp])]
                  rfl
                obtain ⟨hnext, hsent⟩ := @Follows.deliver localDate o v expiryAt ds d t n logs chat
                  (v.attempt d) (hok d List.mem_cons_self) h.tail hfirst hnot
                obtain ⟨m, hm⟩ : ∃ m, v.settings.reminderMaxPerClientPerDay -
                    (v.sentToday localDate o logs + n) = m + 1 := by
                  refine ⟨v.settings.reminderMaxPerClientPerDay -
                    (v.sentToday localDate o logs + n) - 1, ?_⟩
                  omega
                have hm' : v.settings.reminderMaxPerClientPerDay -
                    (v.sentToday localDate o logs + (n + 1)) = m := by omega
                rw [Option.elim_some, if_neg (by simp), ih hrest hrestok hnext, hsent, htake, hm, hm',
                  List.take_succ_cons]
                simp

/-- What a dry run reports as due. -/
def wouldKeys (results : ReminderResults) : List ReminderKey :=
  (results.filter fun x => x.2 = .wouldSend).map (·.1)

/-- Where every decision that is pending is below the limit of the day, a dry run writes nothing and
reports what may be sent. -/
theorem sendDue_dry (hdry : o.dryRun = true)
    (hbelow : ∀ d ∈ ds, Pending t.logs v.settings o.now (v.key localDate o d) = true →
      Below t.logs v.settings (v.key localDate o d)) :
    (sendDue localDate o v expiryAt ds t).1 = t ∧
      wouldKeys (sendDue localDate o v expiryAt ds t).2 =
        (v.sendable localDate o t.logs ds).map (v.key localDate o) := by
  induction ds with
  | nil => exact ⟨rfl, rfl⟩
  | cons d ds ih =>
      obtain ⟨hsame, hresults⟩ := ih fun d' hd' => hbelow d' (List.mem_cons_of_mem d hd')
      rw [sendDue]
      dsimp only
      cases hp : Pending t.logs v.settings o.now (v.key localDate o d) with
      | false =>
          obtain ⟨hstate, reason, hresult⟩ := @send_blocked t (v.key localDate o d) expiryAt
            v.settings o.dryRun o.now (v.attempt d) hp
          rw [hstate, hresult]
          refine ⟨hsame, ?_⟩
          rw [LiveVisit.sendable, List.filter_cons_of_neg (by simp [hp]), wouldKeys,
            List.filter_cons_of_neg (by simp)]
          exact hresults
      | true =>
          rw [send_pending hp, if_neg (not_le.mpr (hbelow d List.mem_cons_self hp)), hdry]
          cases htarget : (v.attempt d).target with
          | none =>
              refine ⟨hsame, ?_⟩
              rw [LiveVisit.sendable, List.filter_cons_of_neg (by simp [htarget]), wouldKeys,
                List.filter_cons_of_neg (by simp)]
              exact hresults
          | some chat =>
              refine ⟨hsame, ?_⟩
              rw [LiveVisit.sendable, List.filter_cons_of_pos (by simp [htarget, hp]), wouldKeys,
                List.filter_cons_of_pos (by simp)]
              exact congrArg (v.key localDate o d :: ·) hresults

theorem sendDue_filter {p : ReminderKey → Bool} (hp : ∀ d ∈ ds, p (v.key localDate o d) = false) :
    (sendDue localDate o v expiryAt ds t).1.logs.filter (p ·.key) = t.logs.filter (p ·.key) := by
  induction ds generalizing t with
  | nil => rfl
  | cons d ds ih =>
      rw [sendDue]
      dsimp only
      rw [ih fun d' hd' => hp d' (List.mem_cons_of_mem d hd'), send_filter (hp d List.mem_cons_self)]

/-- A pending decision that the limit of the day stands against is written by a dry run. -/
theorem sendDue_written (hdry : o.dryRun = true) (hapart : Apart ds)
    (h : Follows localDate o v logs 0 ds t) (hd : d ∈ ds)
    (hp : Pending logs v.settings o.now (v.key localDate o d) = true)
    (hlimit : ¬ Below logs v.settings (v.key localDate o d)) :
    ∃ log, ((sendDue localDate o v expiryAt ds t).1.logs.filter fun log =>
        log.key = v.key localDate o d) = [log] ∧ log.updatedAt = (v.attempt d).before := by
  induction ds generalizing t with
  | nil => cases hd
  | cons x ds ih =>
      obtain ⟨hfirst, hrest⟩ := List.pairwise_cons.mp hapart
      have hpending := h.pending (List.mem_cons_self (a := x) (l := ds))
      have hcount : dailySentCount t.logs (v.key localDate o d).client
          (v.key localDate o d).triggerDate = dailySentCount logs (v.key localDate o d).client
            (v.key localDate o d).triggerDate := h.count
      have hfull : v.settings.reminderMaxPerClientPerDay ≤ dailySentCount t.logs
          (v.key localDate o d).client (v.key localDate o d).triggerDate := by
        rw [hcount]
        exact not_lt.mp hlimit
      rw [sendDue]
      dsimp only
      by_cases hxd : x = d
      · subst hxd
        rw [send_pending (hpending.trans hp), if_pos hfull]
        obtain ⟨log, hlog, -, -, hclock⟩ := @record_own t.logs (v.key localDate o x)
          ⟨.skipped, "", dailyLimitReason, none⟩ (v.attempt x).before h.nodup
        refine ⟨log, ?_, hclock⟩
        have hother : ∀ d' ∈ ds, decide (v.key localDate o d' = v.key localDate o x) = false := by
          intro d' hd'
          have hne := hfirst d' hd'
          rw [decide_eq_false_iff_not]
          intro heq
          exact hne (congrArg ReminderKey.reminderType heq).symm
        rw [sendDue_filter (p := fun k => decide (k = v.key localDate o x)) hother]
        exact hlog
      · have hd : d ∈ ds := (List.mem_cons.mp hd).resolve_left fun heq => hxd heq.symm
        cases hx : Pending t.logs v.settings o.now (v.key localDate o x) with
        | false =>
            rw [(send_blocked hx).1]
            exact ih hrest h.tail hd
        | true =>
            have hfull : v.settings.reminderMaxPerClientPerDay ≤ dailySentCount t.logs
                (v.key localDate o x).client (v.key localDate o x).triggerDate := hfull
            rw [send_pending hx, if_pos hfull]
            exact ih hrest (h.tail.skip hfirst (not_sentIn_of_pending hx)) hd

end Client

/-! ## Whole runs -/

section Runs

variable {localDate : Instant → ℤ} {o : RunOptions} {v : LiveVisit} {vs : List LiveVisit}
  {s t : LiveSystem}

theorem shouldSendExpiryReminder_cases (settings : ReminderSettings) (now : Instant)
    (expiryAt : Option Instant) : shouldSendExpiryReminder localDate settings now expiryAt = [] ∨
      ∃ d, shouldSendExpiryReminder localDate settings now expiryAt = [d] ∧
        d.reminderType ≠ .lowTraffic := by
  unfold shouldSendExpiryReminder
  by_cases henabled : settings.renewalRemindersEnabled = false
  · exact .inl (if_pos henabled)
  · rw [if_neg henabled]
    cases expiryAt with
    | none => exact .inl rfl
    | some expiry =>
        dsimp only
        split
        · exact .inr ⟨_, rfl, fun h => by cases h⟩
        split
        · exact .inr ⟨_, rfl, fun h => by cases h⟩
        split
        · exact .inr ⟨_, rfl, fun h => by cases h⟩
        · exact .inl rfl

theorem reminderType_of_lowTraffic {settings : ReminderSettings} {now : Instant} {usage : LiveUsage}
    {expiryAt : Option Instant} {d : ReminderDecision}
    (h : shouldSendLowTrafficReminder settings now usage expiryAt = some d) :
    d.reminderType = .lowTraffic := by
  unfold shouldSendLowTrafficReminder at h
  split at h
  · cases h
  split at h
  · cases h
  split at h
  · cases h
  split at h
  · cases h
  dsimp only at h
  split at h
  · cases h
  split at h
  · exact (congrArg (·.reminderType) (Option.some.inj h)).symm
  split at h
  · exact (congrArg (·.reminderType) (Option.some.inj h)).symm
  · cases h

theorem apart_due (c : UsageClient) : Apart (v.due localDate o c) := by
  have hpairwise : Apart (calculateClientReminderStatus localDate v.settings o.now
      (getLiveClientUsage v.clock c v.answer) (v.expiryAt c)) := by
    rw [Apart, calculateClientReminderStatus, List.pairwise_append]
    have hexpiry := @shouldSendExpiryReminder_cases localDate v.settings o.now (v.expiryAt c)
    refine ⟨?_, ?_, fun d hd d' hd' => ?_⟩
    · rcases hexpiry with hnil | ⟨d, hone, -⟩
      · rw [hnil]
        exact List.Pairwise.nil
      · rw [hone]
        exact List.pairwise_singleton _ _
    · cases shouldSendLowTrafficReminder v.settings o.now (getLiveClientUsage v.clock c v.answer)
        (v.expiryAt c) with
      | none => exact List.Pairwise.nil
      | some d => exact List.pairwise_singleton _ _
    · rw [reminderType_of_lowTraffic (Option.mem_toList.mp hd')]
      rcases hexpiry with hnil | ⟨e, hone, htype⟩
      · rw [hnil] at hd
        cases hd
      · rw [hone] at hd
        rwa [List.mem_singleton.mp hd]
  exact hpairwise.sublist List.filter_sublist

/-- The clients that a run looks at. -/
def visited : Option ℕ → List LiveVisit → List LiveVisit
  | _, [] => []
  | limit, v :: visits =>
      if v.isBeforeStart then visited limit visits
      else if limit = some 0 then []
      else v :: visited (limit.map (· - 1)) visits

/-- The visits of a run without its limit. -/
def liveAll (localDate : Instant → ℤ) (o : RunOptions) :
    List LiveVisit → LiveSystem → LiveSystem × ReminderResults
  | [], s => (s, [])
  | v :: visits, s =>
      let one := liveVisit localDate o s v
      let rest := liveAll localDate o visits one.1
      (rest.1, one.2 ++ rest.2)

theorem liveRun_eq (limit : Option ℕ) :
    liveRun localDate o limit vs s = liveAll localDate o (visited limit vs) s := by
  induction vs generalizing limit s with
  | nil => rfl
  | cons v vs ih =>
      rw [liveRun, visited]
      by_cases hstart : v.isBeforeStart = true
      · rw [if_pos hstart, if_pos hstart]
        exact ih limit
      · by_cases hlimit : limit = some 0
        · rw [if_neg hstart, if_neg hstart, if_pos hlimit, if_pos hlimit]
          rfl
        · rw [if_neg hstart, if_neg hstart, if_neg hlimit, if_neg hlimit, liveAll]
          dsimp only
          rw [ih]

theorem visited_sublist (limit : Option ℕ) : (visited limit vs).Sublist vs := by
  induction vs generalizing limit with
  | nil => exact List.Sublist.refl []
  | cons v vs ih =>
      rw [visited]
      by_cases hstart : v.isBeforeStart = true
      · rw [if_pos hstart]
        exact (ih limit).cons v
      · by_cases hlimit : limit = some 0
        · rw [if_neg hstart, if_pos hlimit]
          exact List.nil_sublist _
        · rw [if_neg hstart, if_neg hlimit]
          exact (ih _).cons_cons v

/-- The state within a run: of the clients that are still to come nothing has changed. -/
structure Ahead (s : LiveSystem) (vs : List LiveVisit) (t : LiveSystem) : Prop where
  nodup : (t.reminders.logs.map (·.key)).Nodup
  clients : ∀ v ∈ vs, t.clients v.client = s.clients v.client
  logs : ∀ v ∈ vs, (t.reminders.logs.filter fun log => log.key.client = v.client) =
    s.reminders.logs.filter fun log => log.key.client = v.client

theorem Ahead.follows (h : Ahead s (v :: vs) t) (ds : List ReminderDecision) :
    Follows localDate o v s.reminders.logs 0 ds t.reminders := by
  have hlogs := h.logs v List.mem_cons_self
  refine ⟨h.nodup, fun d _ => ?_, ?_⟩
  · have hsplit (l : List ReminderLog) : (l.filter fun log => log.key.client = v.client ∧
        log.key.reminderType = d.reminderType) =
        (l.filter fun log => log.key.client = v.client).filter fun log =>
          log.key.reminderType = d.reminderType := by
      rw [List.filter_filter]
      congr 1
      funext log
      simp [Bool.and_comm]
    rw [SameType, hsplit, hsplit s.reminders.logs, hlogs]
  · have hcount (l : List ReminderLog) : v.sentToday localDate o l =
        v.sentToday localDate o (l.filter fun log => log.key.client = v.client) := by
      rw [LiveVisit.sentToday, LiveVisit.sentToday, dailySentCount, dailySentCount,
        List.countP_filter]
      congr 1
      funext log
      by_cases hclient : log.key.client = v.client <;> simp [hclient]
    rw [hcount t.reminders.logs, hcount s.reminders.logs, hlogs, Nat.add_zero]

theorem sendDue_nodup {expiryAt : Option Instant} {ds : List ReminderDecision}
    {r : ReminderSystem} (hn : (r.logs.map (·.key)).Nodup) :
    ((sendDue localDate o v expiryAt ds r).1.logs.map (·.key)).Nodup := by
  induction ds generalizing r with
  | nil => exact hn
  | cons d ds ih =>
      rw [sendDue]
      exact ih (send_nodup hn)

theorem Ahead.next (h : Ahead s (v :: vs) t) (hdistinct : ∀ v' ∈ vs, v.client ≠ v'.client) :
    Ahead s vs (liveVisit localDate o t v).1 := by
  refine ⟨sendDue_nodup h.nodup, fun v' hv' => ?_, fun v' hv' => ?_⟩
  · change Function.update t.clients v.client _ v'.client = _
    rw [Function.update_of_ne (hdistinct v' hv').symm]
    exact h.clients v' (List.mem_cons_of_mem v hv')
  · rw [← h.logs v' (List.mem_cons_of_mem v hv')]
    refine @sendDue_filter localDate o v _ _ t.reminders (fun k => k.client = v'.client) ?_
    intro d _
    have hne : (v.key localDate o d).client ≠ v'.client := hdistinct v' hv'
    simp [hne]

/-- The messages of a real run to a client. -/
def LiveVisit.messages (localDate : Instant → ℤ) (o : RunOptions) (s : LiveSystem) (v : LiveVisit) :
    List ReminderKey :=
  ((v.sendable localDate o s.reminders.logs (v.due localDate o (s.clients v.client))).take
    (v.settings.reminderMaxPerClientPerDay - v.sentToday localDate o s.reminders.logs)).map
      (v.key localDate o)

/-- What a dry run reports of a client, where it writes nothing. -/
def LiveVisit.report (localDate : Instant → ℤ) (o : RunOptions) (s : LiveSystem) (v : LiveVisit) :
    List ReminderKey :=
  (v.sendable localDate o s.reminders.logs (v.due localDate o (s.clients v.client))).map
    (v.key localDate o)

theorem liveAll_real (hreal : o.dryRun = false) (hn : (vs.map (·.client)).Nodup)
    (hok : ∀ v ∈ vs, ∀ d, (v.attempt d).outcome = .ok ()) (h : Ahead s vs t) :
    (liveAll localDate o vs t).1.reminders.sent.map (·.key) =
      (vs.flatMap (LiveVisit.messages localDate o s)).reverse ++
        t.reminders.sent.map (·.key) := by
  induction vs generalizing t with
  | nil => rfl
  | cons v vs ih =>
      obtain ⟨hfresh, hn⟩ := List.nodup_cons.mp hn
      have hdistinct : ∀ v' ∈ vs, v.client ≠ v'.client := fun v' hv' heq =>
        hfresh (List.mem_map.mpr ⟨v', hv', heq.symm⟩)
      have hone : (liveVisit localDate o t v).1.reminders.sent.map (·.key) =
          (v.messages localDate o s).reverse ++ t.reminders.sent.map (·.key) := by
        have hrow := h.clients v List.mem_cons_self
        rw [liveVisit, hrow]
        exact sendDue_real hreal (apart_due _) (fun d _ => hok v List.mem_cons_self d) (h.follows _)
      rw [liveAll]
      dsimp only
      rw [ih hn (fun v' hv' => hok v' (List.mem_cons_of_mem v hv')) (h.next hdistinct), hone,
        List.flatMap_cons, List.reverse_append, List.append_assoc]

/-- The panel of a client is not asked, or cannot be read. -/
def Unread (c : UsageClient) (answer : UsageAnswer) : Prop :=
  c.isDeleted = true ∨ c.inbound = none ∨ answer = .refused ∨ answer = .failed

theorem syncedClient_eq_iff {clock : Instant} {c : UsageClient} {answer : UsageAnswer}
    (hclock : c.lastSyncedAt ≠ some clock) : syncedClient clock c answer = c ↔ Unread c answer := by
  rw [syncedClient, syncStats, Unread]
  by_cases hasked : c.isDeleted = true ∨ c.inbound.isNone = true
  · have hnone : c.isDeleted = true ∨ c.inbound = none := by rwa [← Option.isNone_iff_eq_none]
    rw [if_pos hasked, syncVpnClientStats, if_pos hasked]
    exact iff_of_true rfl (hnone.imp_right .inl)
  · have hnone : ¬ (c.isDeleted = true ∨ c.inbound = none) := by rwa [← Option.isNone_iff_eq_none]
    rw [if_neg hasked, syncVpnClientStats, if_neg hasked]
    rw [not_or] at hnone
    cases answer with
    | refused => simp [getClientStats]
    | failed => simp [getClientStats, localStats]
    | read traffic clients online =>
        refine iff_of_false (fun heq => ?_) (by simp [hnone.1, hnone.2])
        have hsynced : some clock = c.lastSyncedAt := congrArg UsageClient.lastSyncedAt heq
        exact hclock hsynced.symm

/-- The pending decisions about a client are below the limit of the day. -/
def LiveVisit.AllBelow (localDate : Instant → ℤ) (o : RunOptions) (s : LiveSystem) (v : LiveVisit) :
    Prop :=
  ∀ d ∈ v.due localDate o (s.clients v.client),
    Pending s.reminders.logs v.settings o.now (v.key localDate o d) = true →
      Below s.reminders.logs v.settings (v.key localDate o d)

theorem wouldKeys_append (a b : ReminderResults) : wouldKeys (a ++ b) = wouldKeys a ++ wouldKeys b := by
  rw [wouldKeys, List.filter_append, List.map_append]
  rfl

theorem liveAll_dry (hdry : o.dryRun = true)
    (hsynced : ∀ v ∈ vs, syncedClient v.clock (s.clients v.client) v.answer = s.clients v.client)
    (hbelow : ∀ v ∈ vs, v.AllBelow localDate o s) :
    (liveAll localDate o vs s).1 = s ∧
      wouldKeys (liveAll localDate o vs s).2 = vs.flatMap (LiveVisit.report localDate o s) := by
  induction vs with
  | nil => exact ⟨rfl, rfl⟩
  | cons v vs ih =>
      obtain ⟨hsame, hreport⟩ := ih (fun v' hv' => hsynced v' (List.mem_cons_of_mem v hv'))
        fun v' hv' => hbelow v' (List.mem_cons_of_mem v hv')
      obtain ⟨hquiet, hresults⟩ := @sendDue_dry localDate o v (v.expiryAt (s.clients v.client))
        (v.due localDate o (s.clients v.client)) s.reminders hdry (hbelow v List.mem_cons_self)
      have hone : (liveVisit localDate o s v).1 = s := by
        rw [liveVisit]
        dsimp only
        rw [hquiet, hsynced v List.mem_cons_self, Function.update_eq_self]
      rw [liveAll]
      dsimp only
      rw [hone, hsame, wouldKeys_append, hreport, List.flatMap_cons]
      exact ⟨rfl, congrArg (· ++ _) hresults⟩

/-- The clients that a run did not look at. -/
theorem liveAll_other {client : ℕ} (hclient : ∀ v ∈ vs, v.client ≠ client) :
    (liveAll localDate o vs t).1.clients client = t.clients client ∧
      ∀ key : ReminderKey, key.client = client →
        ((liveAll localDate o vs t).1.reminders.logs.filter fun log => log.key = key) =
          t.reminders.logs.filter fun log => log.key = key := by
  induction vs generalizing t with
  | nil => exact ⟨rfl, fun _ _ => rfl⟩
  | cons v vs ih =>
      obtain ⟨hrow, hlogs⟩ := @ih (liveVisit localDate o t v).1
        fun v' hv' => hclient v' (List.mem_cons_of_mem v hv')
      have hne := hclient v List.mem_cons_self
      rw [liveAll]
      dsimp only
      refine ⟨hrow.trans (Function.update_of_ne hne.symm _ _), fun key hkey => ?_⟩
      rw [hlogs key hkey]
      refine @sendDue_filter localDate o v _ _ t.reminders (fun k => k = key) ?_
      intro d _
      have hother : v.key localDate o d ≠ key := fun heq => hne ((congrArg ReminderKey.client heq).trans hkey)
      simp [hother]

theorem liveAll_dry_visit (hdry : o.dryRun = true) (hn : (vs.map (·.client)).Nodup)
    (h : Ahead s vs t) (hv : v ∈ vs) :
    (liveAll localDate o vs t).1.clients v.client =
        syncedClient v.clock (s.clients v.client) v.answer ∧
      ∀ d ∈ v.due localDate o (s.clients v.client),
        Pending s.reminders.logs v.settings o.now (v.key localDate o d) = true →
          ¬ Below s.reminders.logs v.settings (v.key localDate o d) →
            ∃ log, ((liveAll localDate o vs t).1.reminders.logs.filter fun log =>
              log.key = v.key localDate o d) = [log] ∧ log.updatedAt = (v.attempt d).before := by
  induction vs generalizing t with
  | nil => cases hv
  | cons x vs ih =>
      obtain ⟨hfresh, hn⟩ := List.nodup_cons.mp hn
      have hdistinct : ∀ v' ∈ vs, x.client ≠ v'.client := fun v' hv' heq =>
        hfresh (List.mem_map.mpr ⟨v', hv', heq.symm⟩)
      rw [liveAll]
      dsimp only
      rcases List.mem_cons.mp hv with rfl | hv
      · obtain ⟨hrow, hlogs⟩ := @liveAll_other localDate o vs (liveVisit localDate o t v).1 v.client
          fun v' hv' => (hdistinct v' hv').symm
        have hown := h.clients v List.mem_cons_self
        refine ⟨?_, fun d hd hp hlimit => ?_⟩
        · rw [hrow, liveVisit, hown]
          exact Function.update_self _ _ _
        · rw [hlogs _ rfl, liveVisit, hown]
          exact sendDue_written hdry (apart_due _) (h.follows _) hd hp hlimit
      · exact ih hn (h.next hdistinct) hv

end Runs

/-! ## The dry run -/

section DryRun

variable {localDate : Instant → ℤ} {call : ReminderCall} {s : LiveSystem}

/-- The clients that a call looks at. -/
def ReminderCall.visited (call : ReminderCall) (s : LiveSystem) : List LiveVisit :=
  Reminders.visited (call.limit.filter (0 < ·)) (call.candidates s.clients)

/-- The log has one row for each key, the clock has moved on, and messages go out. -/
structure Orderly (call : ReminderCall) (s : LiveSystem) : Prop where
  nodup : (s.reminders.logs.map (·.key)).Nodup
  logged : ∀ v ∈ call.candidates s.clients, ∀ d, ∀ log ∈ s.reminders.logs,
    log.updatedAt < (v.attempt d).before
  synced : ∀ v ∈ call.candidates s.clients, (s.clients v.client).lastSyncedAt ≠ some v.clock
  succeeds : ∀ v ∈ call.candidates s.clients, ∀ d, (v.attempt d).outcome = .ok ()

/-- A dry run leaves the logs and the clients, every real run after it sends what it would have
sent, and the one at its moment sends what was reported. -/
structure ChangesNothing (localDate : Instant → ℤ) (call : ReminderCall) (s : LiveSystem) :
    Prop where
  logs : (call.run localDate true s).1.reminders.logs = s.reminders.logs
  clients : (call.run localDate true s).1.clients = s.clients
  unsent : (call.run localDate true s).1.reminders.sent = s.reminders.sent
  following : ∀ later : ReminderCall,
    (later.run localDate false (call.run localDate true s).1).1.reminders.sent =
      (later.run localDate false s).1.reminders.sent
  predicted : (call.run localDate false s).1.reminders.sent.map (·.key) =
    (wouldKeys (call.run localDate true s).2).reverse ++ s.reminders.sent.map (·.key)

/-- No panel of a visited client is read, no pending reminder finds the limit of its day, and the
limit leaves room for all that may be sent. -/
structure QuietPreview (localDate : Instant → ℤ) (call : ReminderCall) (s : LiveSystem) :
    Prop where
  unread : ∀ v ∈ call.visited s, Unread (s.clients v.client) v.answer
  below : ∀ v ∈ call.visited s, v.AllBelow localDate (call.options true) s
  room : ∀ v ∈ call.visited s, (v.sendable localDate (call.options true) s.reminders.logs
      (v.due localDate (call.options true) (s.clients v.client))).length ≤
    v.settings.reminderMaxPerClientPerDay -
      v.sentToday localDate (call.options true) s.reminders.logs

theorem mem_candidates {v : LiveVisit} (hv : v ∈ call.visited s) : v ∈ call.candidates s.clients :=
  (visited_sublist _).subset hv

theorem nodup_visited : ((call.visited s).map (·.client)).Nodup :=
  (call.distinct s.clients).sublist ((visited_sublist _).map _)

theorem ahead_start (h : Orderly call s) (vs : List LiveVisit) : Ahead s vs s :=
  ⟨h.nodup, fun _ _ => rfl, fun _ _ => rfl⟩

theorem messages_eq_report_iff {v : LiveVisit} :
    v.messages localDate (call.options false) s = v.report localDate (call.options true) s ↔
      (v.sendable localDate (call.options true) s.reminders.logs
        (v.due localDate (call.options true) (s.clients v.client))).length ≤
      v.settings.reminderMaxPerClientPerDay -
        v.sentToday localDate (call.options true) s.reminders.logs := by
  change ((v.sendable localDate (call.options true) s.reminders.logs
    (v.due localDate (call.options true) (s.clients v.client))).take
      (v.settings.reminderMaxPerClientPerDay -
        v.sentToday localDate (call.options true) s.reminders.logs)).map _ = _ ↔ _
  constructor
  · intro heq
    have hlength := congrArg List.length heq
    rw [LiveVisit.report, List.length_map, List.length_map, List.length_take] at hlength
    omega
  · intro hroom
    rw [List.take_of_length_le hroom]
    rfl

/-- Two ways to collect keys of distinct clients. -/
theorem flatMap_eq_iff {vs : List LiveVisit} {f g : LiveVisit → List ReminderKey}
    (hn : (vs.map (·.client)).Nodup) (hf : ∀ v, ∀ k ∈ f v, k.client = v.client)
    (hg : ∀ v, ∀ k ∈ g v, k.client = v.client) :
    vs.flatMap f = vs.flatMap g ↔ ∀ v ∈ vs, f v = g v := by
  have hown (h : LiveVisit → List ReminderKey) (hh : ∀ v, ∀ k ∈ h v, k.client = v.client)
      (v : LiveVisit) (hv : v ∈ vs) : (vs.flatMap h).filter (·.client = v.client) = h v := by
    induction vs with
    | nil => cases hv
    | cons x vs ih =>
        obtain ⟨hfresh, hn⟩ := List.nodup_cons.mp hn
        rw [List.flatMap_cons, List.filter_append]
        rcases List.mem_cons.mp hv with rfl | hv
        · have hrest : (vs.flatMap h).filter (·.client = v.client) = [] := by
            rw [List.filter_eq_nil_iff]
            intro k hk
            obtain ⟨y, hy, hk⟩ := List.mem_flatMap.mp hk
            have hne : y.client ≠ v.client := fun heq =>
              hfresh (List.mem_map.mpr ⟨y, hy, heq⟩)
            simp [hh y k hk, hne]
          rw [hrest, List.append_nil, List.filter_eq_self]
          intro k hk
          simp [hh v k hk]
        · have hne : x.client ≠ v.client := fun heq =>
            hfresh (List.mem_map.mpr ⟨v, hv, heq.symm⟩)
          have hfirst : (h x).filter (·.client = v.client) = [] := by
            rw [List.filter_eq_nil_iff]
            intro k hk
            simp [hh x k hk, hne]
          rw [hfirst, List.nil_append]
          exact ih hn hv
  constructor
  · intro heq v hv
    rw [← hown f hf v hv, ← hown g hg v hv, heq]
  · intro heq
    rw [List.flatMap_congr heq]

/-- A dry run changes nothing, and predicts the run after it, exactly where it is quiet. -/
theorem dryRun_changesNothing_iff (h : Orderly call s) :
    ChangesNothing localDate call s ↔ QuietPreview localDate call s := by
  have hdry : call.run localDate true s =
      liveAll localDate (call.options true) (call.visited s) s := liveRun_eq _
  have hreal : (call.run localDate false s).1.reminders.sent.map (·.key) =
      ((call.visited s).flatMap (LiveVisit.messages localDate (call.options false) s)).reverse ++
        s.reminders.sent.map (·.key) := by
    rw [ReminderCall.run, liveRun_eq]
    exact liveAll_real rfl nodup_visited (fun v hv => h.succeeds v (mem_candidates hv))
      (ahead_start h _)
  have hkeys : (call.visited s).flatMap (LiveVisit.messages localDate (call.options false) s) =
      (call.visited s).flatMap (LiveVisit.report localDate (call.options true) s) ↔
        ∀ v ∈ call.visited s, v.messages localDate (call.options false) s =
          v.report localDate (call.options true) s := by
    refine flatMap_eq_iff nodup_visited (fun v k hk => ?_) fun v k hk => ?_
    all_goals
      obtain ⟨d, -, rfl⟩ := List.mem_map.mp hk
      rfl
  constructor
  · intro hnothing
    have hvisit (v : LiveVisit) (hv : v ∈ call.visited s) :=
      @liveAll_dry_visit localDate (call.options true) v (call.visited s) s s rfl nodup_visited
        (ahead_start h _) hv
    have hunread : ∀ v ∈ call.visited s, Unread (s.clients v.client) v.answer := by
      intro v hv
      rw [← syncedClient_eq_iff (h.synced v (mem_candidates hv)), ← (hvisit v hv).1, ← hdry,
        hnothing.clients]
    have hbelow : ∀ v ∈ call.visited s, v.AllBelow localDate (call.options true) s := by
      intro v hv d hd hp
      by_contra hlimit
      obtain ⟨log, hlog, hclock⟩ := (hvisit v hv).2 d hd hp hlimit
      rw [← hdry, hnothing.logs] at hlog
      have hmem : log ∈ s.reminders.logs :=
        (List.mem_filter.mp (hlog ▸ List.mem_singleton_self log)).1
      exact absurd (h.logged v (mem_candidates hv) d log hmem) (by rw [hclock]; exact lt_irrefl _)
    have hsynced : ∀ v ∈ call.visited s,
        syncedClient v.clock (s.clients v.client) v.answer = s.clients v.client := fun v hv =>
      (syncedClient_eq_iff (h.synced v (mem_candidates hv))).mpr (hunread v hv)
    have hreport := (liveAll_dry rfl hsynced hbelow).2
    refine ⟨hunread, hbelow, fun v hv => messages_eq_report_iff.mp (hkeys.mp ?_ v hv)⟩
    have hpredicted := hnothing.predicted
    rw [hreal, hdry, hreport] at hpredicted
    exact List.reverse_injective (List.append_cancel_right hpredicted)
  · intro hquiet
    have hsynced : ∀ v ∈ call.visited s,
        syncedClient v.clock (s.clients v.client) v.answer = s.clients v.client := fun v hv =>
      (syncedClient_eq_iff (h.synced v (mem_candidates hv))).mpr (hquiet.unread v hv)
    obtain ⟨hsame, hreport⟩ := liveAll_dry rfl hsynced hquiet.below
    rw [← hdry] at hsame hreport
    refine ⟨by rw [hsame], by rw [hsame], by rw [hsame], fun later => by rw [hsame], ?_⟩
    rw [hreal, hreport, hkeys.mpr fun v hv => messages_eq_report_iff.mpr (hquiet.room v hv)]

end DryRun

/-! ## Calls on one client -/

/-- The day of an instant. -/
def utcDate (t : Instant) : ℤ := t / 86400000000

/-- A client whose service ends in three days. -/
def endingClient : UsageClient where
  pk := 1
  order := none
  plan := none
  inbound := some 1
  username := "ali"
  status := .active
  expiresAt := some (3 * 86400000000)

/-- Its panel cannot be read, and its chat is known. -/
def endingVisit : LiveVisit where
  client := 1
  settings := {}
  answer := .failed
  clock := 10
  attempt _ := { target := some "100", before := 20, after := 30 }

def endingCall : ReminderCall where
  now := 10
  candidates _ := [endingVisit]
  distinct _ := List.nodup_singleton 1

/-- The log of another reminder that was sent to the client on that day. -/
def sentLog : ReminderLog where
  key := ⟨1, .lowTraffic, "low_traffic_20pct", 0⟩
  status := .sent
  sentAt := some 5
  createdAt := 5
  updatedAt := 5

theorem orderly_ending {logs : List ReminderLog} (hn : (logs.map (·.key)).Nodup)
    (hclock : ∀ log ∈ logs, log.updatedAt < 20) :
    Orderly endingCall { reminders := { logs := logs }, clients := fun _ => endingClient } := by
  have honly (v : LiveVisit) (hv : v ∈ endingCall.candidates fun _ => endingClient) :
      v = endingVisit := List.mem_singleton.mp hv
  refine ⟨hn, fun v hv d log hlog => ?_, fun v hv => ?_, fun v hv d => ?_⟩
  all_goals
    obtain rfl := honly v hv
  · exact hclock log hlog
  · simp [endingClient]
  · rfl

/-- With an empty log the dry run changes nothing. -/
theorem ending_previewed :
    ChangesNothing utcDate endingCall { clients := fun _ => endingClient } := by
  have honly (v : LiveVisit)
      (hv : v ∈ endingCall.visited { clients := fun _ => endingClient }) : v = endingVisit :=
    List.mem_singleton.mp (mem_candidates hv)
  refine (dryRun_changesNothing_iff (orderly_ending (by simp) (by simp))).mpr
    ⟨fun v hv => ?_, fun v hv d _ _ => ?_, fun v hv => ?_⟩
  all_goals
    obtain rfl := honly v hv
  · exact .inr (.inr (.inr rfl))
  · exact Nat.one_pos
  · decide +kernel

/-- After a reminder of the day the dry run writes a log, as a skipped reminder. -/
theorem dryRun_writes_skipped :
    ¬ ChangesNothing utcDate endingCall
      { reminders := { logs := [sentLog] }, clients := fun _ => endingClient } := by
  intro h
  have hlength := congrArg List.length h.logs
  revert hlength
  decide +kernel

end Qasedak.Reminders
