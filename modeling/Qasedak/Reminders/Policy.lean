import Qasedak.Reminders.Model
import Qasedak.Foundation.Run
import Mathlib.Data.List.Perm.Basic
import Mathlib.Data.List.Perm.Subperm
import Mathlib.Data.List.MinMax

/-! What the log of the reminders comes to over any runs: a trigger is sent once, or once a day, and
no more is sent on a day than was configured. -/

namespace Qasedak.Reminders

open Foundation Store

variable {logs : List ReminderLog} {key : ReminderKey} {r : ReminderRecord} {clock : Instant}
  {s : ReminderSystem}

/-! ## The log -/

/-- The log says that the reminder of a key was sent. -/
def SentIn (logs : List ReminderLog) (key : ReminderKey) : Prop :=
  ∃ log ∈ logs, log.key = key ∧ log.status = .sent

@[simp] theorem recorded_key (log : ReminderLog) : (log.recorded r clock).key = log.key := rfl

@[simp] theorem recorded_status (log : ReminderLog) :
    (log.recorded r clock).status = r.status := rfl

/-- A record is about its key and about no other. -/
theorem sentIn_record (k : ReminderKey) :
    SentIn (recordReminderLog logs key r clock) k ↔
      if k = key then r.status = .sent else SentIn logs k := by
  unfold recordReminderLog
  split
  · rename_i hany
    obtain ⟨log, hlog, hkey⟩ := List.any_eq_true.mp hany
    have hkey : log.key = key := by simpa using hkey
    by_cases hk : k = key
    · rw [if_pos hk]
      constructor
      · rintro ⟨x, hx, hxk, hsent⟩
        obtain ⟨y, hy, rfl⟩ := List.mem_map.mp hx
        by_cases hykey : y.key = key
        · simpa [hykey] using hsent
        · rw [if_neg hykey] at hxk
          exact absurd (hxk.trans hk) hykey
      · intro hsent
        refine ⟨log.recorded r clock, List.mem_map.mpr ⟨log, hlog, if_pos hkey⟩, ?_, hsent⟩
        exact hkey.trans hk.symm
    · rw [if_neg hk]
      constructor
      · rintro ⟨x, hx, hxk, hsent⟩
        obtain ⟨y, hy, rfl⟩ := List.mem_map.mp hx
        by_cases hykey : y.key = key
        · rw [if_pos hykey] at hxk
          exact absurd (hxk.symm.trans hykey) hk
        · rw [if_neg hykey] at hxk hsent
          exact ⟨y, hy, hxk, hsent⟩
      · rintro ⟨y, hy, hyk, hsent⟩
        have hykey : y.key ≠ key := fun h => hk (hyk.symm.trans h)
        exact ⟨y, List.mem_map.mpr ⟨y, hy, if_neg hykey⟩, hyk, hsent⟩
  · rename_i hany
    have hnone : ∀ log ∈ logs, log.key ≠ key := by simpa using hany
    by_cases hk : k = key
    · rw [if_pos hk]
      constructor
      · rintro ⟨x, hx, hxk, hsent⟩
        rcases List.mem_append.mp hx with hx | hx
        · exact absurd (hxk.trans hk) (hnone x hx)
        · rw [List.mem_singleton.mp hx] at hsent
          exact hsent
      · intro hsent
        exact ⟨_, List.mem_append_right logs (List.mem_singleton_self _), hk.symm, hsent⟩
    · rw [if_neg hk]
      constructor
      · rintro ⟨x, hx, hxk, hsent⟩
        rcases List.mem_append.mp hx with hx | hx
        · exact ⟨x, hx, hxk, hsent⟩
        · rw [List.mem_singleton.mp hx] at hxk
          exact absurd hxk.symm hk
      · rintro ⟨x, hx, hxk, hsent⟩
        exact ⟨x, List.mem_append_left _ hx, hxk, hsent⟩

/-- The unique constraint of the log. -/
theorem nodup_record (h : (logs.map (·.key)).Nodup) :
    ((recordReminderLog logs key r clock).map (·.key)).Nodup := by
  unfold recordReminderLog
  split
  · have hsame : (logs.map fun log => if log.key = key then log.recorded r clock else log).map
        (·.key) = logs.map (·.key) := by
      rw [List.map_map]
      refine List.map_congr_left fun log _ => ?_
      by_cases hlog : log.key = key <;> simp [hlog]
    rw [hsame]
    exact h
  · rename_i hany
    have hnone : ∀ log ∈ logs, log.key ≠ key := by simpa using hany
    rw [List.map_append, List.nodup_append]
    refine ⟨h, List.nodup_singleton _, ?_⟩
    intro a ha b hb
    obtain ⟨log, hlog, rfl⟩ := List.mem_map.mp ha
    obtain rfl : b = key := by simpa using hb
    exact hnone log hlog

theorem sentDuplicateExists_iff :
    sentDuplicateExists logs key = true ↔ ∃ k, SentIn logs k ∧ SameTrigger key k := by
  unfold sentDuplicateExists
  rw [List.any_eq_true]
  constructor
  · rintro ⟨log, hlog, h⟩
    rw [Bool.and_eq_true, decide_eq_true_eq, decide_eq_true_eq] at h
    exact ⟨log.key, ⟨log, hlog, rfl, h.1⟩, h.2⟩
  · rintro ⟨k, ⟨log, hlog, hkey, hsent⟩, hsame⟩
    refine ⟨log, hlog, ?_⟩
    rw [Bool.and_eq_true, decide_eq_true_eq, decide_eq_true_eq, hkey]
    exact ⟨hsent, hsame⟩

theorem sameTrigger_refl (key : ReminderKey) : SameTrigger key key := ⟨rfl, rfl, rfl, fun _ => rfl⟩

/-! ## The invariant -/

/-- The log says of the messages that were sent what there is to say. -/
structure Logged (s : ReminderSystem) : Prop where
  keys : (s.logs.map (·.key)).Nodup
  sent : ∀ k, SentIn s.logs k ↔ ∃ x ∈ s.sent, x.key = k
  apart : s.sent.Pairwise fun x y => ¬ SameTrigger x.key y.key

/-- A record that is not of a message, for a key of which none was sent. -/
theorem Logged.record (h : Logged s) (hkey : ¬ SentIn s.logs key) (hr : r.status ≠ .sent) :
    Logged (s.record key r clock) ∧ ¬ SentIn (s.record key r clock).logs key := by
  have hsent : ∀ k, SentIn (s.record key r clock).logs k ↔ SentIn s.logs k := by
    intro k
    rw [ReminderSystem.record, sentIn_record]
    by_cases hk : k = key
    · rw [if_pos hk, hk]
      exact iff_of_false hr hkey
    · rw [if_neg hk]
  refine ⟨⟨nodup_record h.keys, fun k => (hsent k).trans (h.sent k), h.apart⟩, ?_⟩
  rw [hsent]
  exact hkey

/-- A message that is sent, where none of its trigger was. -/
theorem Logged.send (h : Logged s) (hfree : ∀ k, SentIn s.logs k → ¬ SameTrigger key k)
    (hr : r.status = .sent) (expiryAt : Option Instant) :
    Logged { s.record key r clock with sent := ⟨key, expiryAt⟩ :: s.sent } := by
  refine ⟨nodup_record h.keys, fun k => ?_, List.Pairwise.cons (fun x hx => ?_) h.apart⟩
  · rw [ReminderSystem.record, sentIn_record]
    by_cases hk : k = key
    · rw [if_pos hk]
      exact iff_of_true hr ⟨_, List.mem_cons_self, hk.symm⟩
    · rw [if_neg hk, h.sent k]
      constructor
      · rintro ⟨x, hx, hxk⟩
        exact ⟨x, List.mem_cons_of_mem _ hx, hxk⟩
      · rintro ⟨x, hx, hxk⟩
        rcases List.mem_cons.mp hx with rfl | hx
        · exact absurd hxk.symm hk
        · exact ⟨x, hx, hxk⟩
  · exact hfree x.key ((h.sent x.key).mpr ⟨x, hx, rfl⟩)

/-- The messages to a client on a day. -/
def sentOn (s : ReminderSystem) (client : ℕ) (date : ℤ) : ℕ :=
  s.sent.countP fun x => x.key.client = client && x.key.triggerDate = date

/-- The log counts the messages of a day. -/
theorem Logged.dailySentCount (h : Logged s) (client : ℕ) (date : ℤ) :
    dailySentCount s.logs client date = sentOn s client date := by
  have hperm : ((s.logs.filter fun log => log.key.client = client &&
      log.key.triggerDate = date && log.status = .sent).map (·.key)).Perm
      ((s.sent.filter fun x => x.key.client = client && x.key.triggerDate = date).map (·.key)) := by
    refine (List.perm_ext_iff_of_nodup ?_ ?_).mpr fun k => ?_
    · exact h.keys.sublist (List.filter_sublist.map _)
    · rw [List.Nodup, List.pairwise_map]
      refine (h.apart.sublist List.filter_sublist).imp fun {x y} hxy hkey => hxy ?_
      rw [hkey]
      exact sameTrigger_refl y.key
    · have hsent := h.sent k
      simp only [List.mem_map, List.mem_filter, Bool.and_eq_true, decide_eq_true_eq]
      constructor
      · rintro ⟨log, ⟨hlog, hwhere, hstatus⟩, hkey⟩
        obtain ⟨x, hx, hxk⟩ := hsent.mp ⟨log, hlog, hkey, hstatus⟩
        refine ⟨x, ⟨hx, ?_⟩, hxk⟩
        rw [hxk, ← hkey]
        exact hwhere
      · rintro ⟨x, ⟨hx, hwhere⟩, hxk⟩
        obtain ⟨log, hlog, hkey, hstatus⟩ := hsent.mpr ⟨x, hx, hxk⟩
        refine ⟨log, ⟨hlog, ?_, hstatus⟩, hkey⟩
        rw [hkey, ← hxk]
        exact hwhere
  unfold Reminders.dailySentCount sentOn
  rw [List.countP_eq_length_filter, List.countP_eq_length_filter]
  simpa using hperm.length_eq

/-! ## One reminder -/

section Reminder

variable {expiryAt : Option Instant} {settings : ReminderSettings} {dryRun : Bool} {now : Instant}
  {answer : Attempt}

/-- What a call changes in what was sent. -/
def Sends (key : ReminderKey) (expiryAt : Option Instant) (settings : ReminderSettings)
    (s s' : ReminderSystem) : Prop :=
  s'.sent = s.sent ∨ s'.sent = ⟨key, expiryAt⟩ :: s.sent ∧
    sentOn s key.client key.triggerDate < settings.reminderMaxPerClientPerDay

theorem Logged.deliver (h : Logged s) (hfree : ∀ k, SentIn s.logs k → ¬ SameTrigger key k)
    (hcount : sentOn s key.client key.triggerDate < settings.reminderMaxPerClientPerDay)
    (chat : String) :
    Logged (deliver s key expiryAt chat answer).2 ∧
      Sends key expiryAt settings s (deliver s key expiryAt chat answer).2 := by
  have hnot : ¬ SentIn s.logs key := fun hkey => hfree key hkey (sameTrigger_refl key)
  obtain ⟨hbefore, hstill⟩ := @Logged.record key ⟨.skipped, chat, "", none⟩ answer.before s h hnot
    (by simp)
  have hsame : ∀ k, SentIn (s.record key ⟨.skipped, chat, "", none⟩ answer.before).logs k →
      ¬ SameTrigger key k := by
    intro k hk
    rw [hbefore.sent] at hk
    exact hfree k ((h.sent k).mpr hk)
  unfold Reminders.deliver
  dsimp only
  cases answer.outcome with
  | error error => exact ⟨(hbefore.record hstill (by simp)).1, .inl rfl⟩
  | ok _ => exact ⟨hbefore.send hsame rfl expiryAt, .inr ⟨rfl, hcount⟩⟩

theorem Logged.skip (h : Logged s) (hnot : ¬ SentIn s.logs key) (reason : String)
    (clock : Instant) :
    Logged (skipResult s key reason clock).2 ∧
      Sends key expiryAt settings s (skipResult s key reason clock).2 :=
  ⟨(h.record hnot (by simp)).1, .inl rfl⟩

theorem Logged.reminder (h : Logged s) :
    Logged (sendReminderToCustomer s key expiryAt settings dryRun now answer).2 ∧
      Sends key expiryAt settings s
        (sendReminderToCustomer s key expiryAt settings dryRun now answer).2 := by
  unfold sendReminderToCustomer
  split
  · exact ⟨h, .inl rfl⟩
  · rename_i hduplicate
    have hfree : ∀ k, SentIn s.logs k → ¬ SameTrigger key k := fun k hk hsame =>
      hduplicate (sentDuplicateExists_iff.mpr ⟨k, hk, hsame⟩)
    have hnot : ¬ SentIn s.logs key := fun hkey => hfree key hkey (sameTrigger_refl key)
    split
    · exact ⟨h, .inl rfl⟩
    · split
      · exact h.skip hnot _ _
      · rename_i hlimit
        rw [h.dailySentCount, not_le] at hlimit
        cases answer.target with
        | none =>
            dsimp only
            split
            · exact ⟨h, .inl rfl⟩
            · exact h.skip hnot _ _
        | some chat =>
            dsimp only
            split
            · exact ⟨h, .inl rfl⟩
            · exact h.deliver hfree hlimit chat

/-- A reminder that nothing stands against is sent. -/
theorem reminder_sent (h : Logged s) {chat : String} (htarget : answer.target = some chat)
    (houtcome : answer.outcome = .ok ()) (hnew : ∀ x ∈ s.sent, ¬ SameTrigger key x.key)
    (hcooldown : cooldownActive s.logs key settings now = false)
    (hcount : sentOn s key.client key.triggerDate < settings.reminderMaxPerClientPerDay) :
    (sendReminderToCustomer s key expiryAt settings false now answer).1 = .sent := by
  have hduplicate : ¬ sentDuplicateExists s.logs key = true := by
    intro hsome
    obtain ⟨k, hk, hsame⟩ := sentDuplicateExists_iff.mp hsome
    obtain ⟨x, hx, rfl⟩ := (h.sent k).mp hk
    exact hnew x hx hsame
  unfold sendReminderToCustomer
  rw [if_neg hduplicate, hcooldown, if_neg (by simp), h.dailySentCount, if_neg (not_le.mpr hcount),
    htarget]
  simp [deliver, houtcome]

end Reminder

/-! ## Runs -/

section Runs

variable {localDate : Instant → ℤ} {o : RunOptions} {client : ℕ} {date : ℤ} {n : ℕ}

/-- The log is right, and no more was sent to a client on a day than a number. -/
def Within (client : ℕ) (date : ℤ) (n : ℕ) (s : ReminderSystem) : Prop :=
  Logged s ∧ sentOn s client date ≤ n

/-- Where the visits of the client allow no more on the day. -/
def Allows (localDate : Instant → ℤ) (o : RunOptions) (client : ℕ) (date : ℤ) (n : ℕ)
    (v : Visit) : Prop :=
  localDate o.now = date → v.client = client → v.settings.reminderMaxPerClientPerDay ≤ n

theorem Within.reminder (h : Within client date n s) {v : Visit}
    (hallows : Allows localDate o client date n v) (d : ReminderDecision)
    (expiryAt : Option Instant) :
    Within client date n (sendReminderToCustomer s (v.key localDate o d) expiryAt v.settings
      o.dryRun o.now (v.attempt d)).2 := by
  obtain ⟨hlogged, hsends⟩ := @Logged.reminder (v.key localDate o d) s expiryAt v.settings o.dryRun
    o.now (v.attempt d) h.1
  refine ⟨hlogged, ?_⟩
  rcases hsends with hsame | ⟨hsent, hcount⟩
  · unfold sentOn
    rw [hsame]
    exact h.2
  · unfold sentOn
    rw [hsent]
    by_cases hkey : v.client = client ∧ localDate o.now = date
    · obtain ⟨hclient, hdate⟩ := hkey
      have hmax := hallows hdate hclient
      have hcount' : sentOn s client date < v.settings.reminderMaxPerClientPerDay := by
        rw [← hclient, ← hdate]
        exact hcount
      rw [List.countP_cons_of_pos (by simp [Visit.key, hclient, hdate])]
      unfold sentOn at hcount'
      omega
    · rw [List.countP_cons_of_neg]
      · exact h.2
      · intro hboth
        rw [Bool.and_eq_true, decide_eq_true_eq, decide_eq_true_eq] at hboth
        exact hkey hboth

theorem Within.visit (h : Within client date n s) {v : Visit}
    (hallows : Allows localDate o client date n v) : Within client date n (visit localDate o s v) := by
  unfold Reminders.visit
  generalize v.decisions localDate o s = decisions
  generalize v.expiryAt s = expiryAt
  induction decisions generalizing s with
  | nil => exact h
  | cons d decisions ih => exact ih (h.reminder hallows d expiryAt)

theorem Within.run {visits : List Visit} (h : Within client date n s)
    (hallows : ∀ v ∈ visits, Allows localDate o client date n v) (limit : Option ℕ) :
    Within client date n (runRenewalReminders localDate o limit visits s) := by
  induction visits generalizing s limit with
  | nil => exact h
  | cons v visits ih =>
      have hrest : ∀ x ∈ visits, Allows localDate o client date n x :=
        fun x hx => hallows x (List.mem_cons_of_mem v hx)
      unfold runRenewalReminders
      split
      · exact ih h hrest limit
      · split
        · exact h
        · exact ih (h.visit (hallows v List.mem_cons_self)) hrest _

/-- The largest number that the settings allow to a client on a day of one event. -/
def allowedIn (localDate : Instant → ℤ) (client : ℕ) (date : ℤ) : ReminderEvent → ℕ
  | .run o _ visits =>
      if localDate o.now = date then
        ((visits.filter fun v => v.client = client).map
          (·.settings.reminderMaxPerClientPerDay)).foldr max 0
      else 0
  | .renew _ _ => 0

/-- The largest number that was configured for a client on a day. -/
def configuredMax (localDate : Instant → ℤ) (client : ℕ) (date : ℤ)
    (events : List ReminderEvent) : ℕ :=
  (events.map (allowedIn localDate client date)).foldr max 0

theorem Within.remind (h : Within client date n s) {event : ReminderEvent}
    (hevent : allowedIn localDate client date event ≤ n) :
    Within client date n (remind localDate s event) := by
  cases event with
  | run o limit visits =>
      refine h.run (fun v hv hdate hclient => le_trans ?_ hevent) _
      rw [allowedIn, if_pos hdate]
      have hv' : v ∈ visits.filter fun v => v.client = client :=
        List.mem_filter.mpr ⟨hv, by simpa using hclient⟩
      exact List.le_max_of_le' 0 (List.mem_map_of_mem hv') le_rfl
  | renew c expiresAt => exact ⟨⟨h.1.keys, h.1.sent, h.1.apart⟩, h.2⟩

theorem within_run (client : ℕ) (date : ℤ) (events : List ReminderEvent) :
    Within client date (configuredMax localDate client date events)
      (Foundation.run (remind localDate) {} events) := by
  have hempty : ∀ n, Within client date n {} :=
    fun n => ⟨⟨List.nodup_nil, by simp [SentIn], List.Pairwise.nil⟩, Nat.zero_le n⟩
  have hallowed : ∀ event ∈ events,
      allowedIn localDate client date event ≤ configuredMax localDate client date events :=
    fun event hevent => List.le_max_of_le' 0 (List.mem_map_of_mem hevent) le_rfl
  generalize configuredMax localDate client date events = n at hallowed
  have hrun : ∀ s, Within client date n s →
      Within client date n (Foundation.run (remind localDate) s events) := by
    induction events with
    | nil => exact fun _ hs => hs
    | cons event events ih =>
        intro s hs
        exact ih (fun e he => hallowed e (List.mem_cons_of_mem event he)) _
          (hs.remind (hallowed event List.mem_cons_self))
  exact hrun {} (hempty n)

end Runs

/-- After any runs and renewals: a reminder of the expiry is sent at most once for one expiry, one of
the traffic at most once on a day, and on a day no more to a client than was configured; and one
that is due is sent unless its trigger was sent before (for the traffic: on that day), the cooldown
is active or the day's number is reached. -/
theorem reminders_follow_policy (localDate : Instant → ℤ) (events : List ReminderEvent) :
    (((run (remind localDate) {} events).sent.filter
        fun x => x.key.reminderType ≠ .lowTraffic).map
        fun x => (x.key.client, x.key.reminderType, x.key.triggerKey, x.expiryAt)).Nodup ∧
      (((run (remind localDate) {} events).sent.filter
        fun x => x.key.reminderType = .lowTraffic).map (·.key)).Nodup ∧
      (∀ client date, sentOn (run (remind localDate) {} events) client date ≤
        configuredMax localDate client date events) ∧
      ∀ key expiryAt settings now (answer : Attempt) chat,
        answer.target = some chat → answer.outcome = .ok () →
        (∀ x ∈ (run (remind localDate) {} events).sent, ¬ SameTrigger key x.key) →
        cooldownActive (run (remind localDate) {} events).logs key settings now = false →
        sentOn (run (remind localDate) {} events) key.client key.triggerDate <
          settings.reminderMaxPerClientPerDay →
        (sendReminderToCustomer (run (remind localDate) {} events) key expiryAt settings false now
          answer).1 = .sent := by
  have hlogged : Logged (run (remind localDate) {} events) := (within_run 0 0 events).1
  refine ⟨?_, ?_, fun client date => (within_run client date events).2,
    fun key expiryAt settings now answer chat htarget houtcome hnew hcooldown hcount =>
      reminder_sent hlogged htarget houtcome hnew hcooldown hcount⟩
  · rw [List.Nodup, List.pairwise_map]
    refine (hlogged.apart.sublist List.filter_sublist).imp_of_mem
      fun {x y} hx _ hxy hsame => hxy ?_
    have htype : x.key.reminderType ≠ .lowTraffic := by simpa using (List.mem_filter.mp hx).2
    simp only [Prod.mk.injEq] at hsame
    exact ⟨hsame.1, hsame.2.1, hsame.2.2.1, fun hlow => absurd hlow htype⟩
  · rw [List.Nodup, List.pairwise_map]
    refine (hlogged.apart.sublist List.filter_sublist).imp fun {x y} hxy hsame => hxy ?_
    rw [hsame]
    exact sameTrigger_refl y.key

/-- A visit to a client with little traffic left. -/
def lowVisit : Visit where
  client := 1
  settings := {}
  usage := ⟨100, some 10, some (minutes 100000), true⟩
  attempt := fun _ => ⟨some "7", .ok (), 0, minutes 1⟩

/-- The traffic is low on two days before one expiry. -/
theorem lowTraffic_sent_each_day :
    (run (remind fun t => t / minutes 1440) {} [.run ⟨0, false, .all⟩ none [lowVisit],
        .run ⟨minutes 1500, false, .all⟩ none [lowVisit]]).sent.map
      (fun x => (x.key.client, x.key.reminderType, x.key.triggerKey, x.expiryAt)) =
      [(1, .lowTraffic, "low_traffic_20pct", some (minutes 100000)),
        (1, .lowTraffic, "low_traffic_20pct", some (minutes 100000))] := by
  decide +kernel

end Qasedak.Reminders
