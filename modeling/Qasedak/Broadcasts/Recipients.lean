import Qasedak.Broadcasts.Model
import Mathlib.Data.List.Forall2

/-! What `create_campaign_recipients` leaves: one recipient for each customer and channel, and
the recipients that were sent as they were. -/

namespace Qasedak.Broadcasts

open Foundation Store

/-- What an open transaction writes is still right for the recipients. -/
structure Regeneration.Fits (write : Regeneration) (recipients : Recipients) : Prop where
  deleted : write.deleted = (recipients.rows.filter (·.renewable)).map (·.pk)
  distinct : write.created.Pairwise fun a b => ¬ (a.customer = b.customer ∧ a.channel = b.channel)
  fresh : ∀ row ∈ write.created, ∀ r ∈ recipients.rows, r.renewable = false → r.isFor row = false
  notFailed : ∀ row ∈ write.created, row.status ≠ .failed
  counts : write.counts =
    countsOf (recipients.rows.filter (fun r => !r.renewable) ++
      write.created.map (·.toRecipient 0))

theorem isFor_iff {r : BroadcastRecipient} {row : ResolvedRow} :
    r.isFor row = true ↔ r.customer = row.customer ∧ r.channel = row.channel := by
  unfold BroadcastRecipient.isFor
  rw [Bool.and_eq_true, decide_eq_true_eq, decide_eq_true_eq]

/-- Rows of a transaction that are of different customers or channels, and of none that is
kept. -/
def Created (kept : List BroadcastRecipient) (created : List ResolvedRow) : Prop :=
  (created.Pairwise fun a b => ¬ (a.customer = b.customer ∧ a.channel = b.channel)) ∧
    (∀ row ∈ created, ∀ r ∈ kept, r.isFor row = false) ∧ ∀ row ∈ created, row.status ≠ .failed

theorem created_addRow {kept : List BroadcastRecipient} {created : List ResolvedRow}
    {row : ResolvedRow} (h : Created kept created) (hrow : row.status ≠ .failed) :
    Created kept (addRow kept created row) := by
  obtain ⟨hdistinct, hfresh, hstatus⟩ := h
  unfold addRow
  by_cases hkept : kept.any (·.isFor row) = true
  · rw [if_pos hkept]
    exact ⟨hdistinct, hfresh, hstatus⟩
  · rw [if_neg hkept]
    have hnone : ∀ r ∈ kept, r.isFor row = false := by
      simpa using hkept
    split
    · -- the row of the same customer and channel is replaced
      refine ⟨?_, ?_, ?_⟩
      · rw [List.pairwise_map]
        refine hdistinct.imp fun {a b} hab => ?_
        simp only [Bool.and_eq_true, decide_eq_true_eq]
        split_ifs with ha hb hb
        · exact absurd ⟨ha.1.trans hb.1.symm, ha.2.trans hb.2.symm⟩ hab
        · intro hsame
          exact hb ⟨hsame.1.symm, hsame.2.symm⟩
        · intro hsame
          exact ha hsame
        · exact hab
      · intro x hx r hr
        obtain ⟨c, hc, rfl⟩ := List.mem_map.mp hx
        split
        · exact hnone r hr
        · exact hfresh c hc r hr
      · intro x hx
        obtain ⟨c, hc, rfl⟩ := List.mem_map.mp hx
        split
        · exact hrow
        · exact hstatus c hc
    · rename_i hnew
      have hnew : ∀ c ∈ created, ¬ (c.customer = row.customer ∧ c.channel = row.channel) := by
        simpa using hnew
      refine ⟨?_, ?_, ?_⟩
      · rw [List.pairwise_append]
        refine ⟨hdistinct, List.pairwise_singleton _ _, fun a ha b hb => ?_⟩
        rw [List.mem_singleton.mp hb]
        exact hnew a ha
      · intro x hx r hr
        rcases List.mem_append.mp hx with hx | hx
        · exact hfresh x hx r hr
        · rw [List.mem_singleton.mp hx]
          exact hnone r hr
      · intro x hx
        rcases List.mem_append.mp hx with hx | hx
        · exact hstatus x hx
        · rw [List.mem_singleton.mp hx]
          exact hrow

theorem created_foldl {kept : List BroadcastRecipient} {rows : List ResolvedRow}
    (hrows : ∀ row ∈ rows, row.status ≠ .failed) :
    Created kept (rows.foldl (addRow kept) []) := by
  have h : ∀ created, Created kept created → Created kept (rows.foldl (addRow kept) created) := by
    induction rows with
    | nil => exact fun _ h => h
    | cons row rows ih =>
        intro created h
        exact ih (fun x hx => hrows x (List.mem_cons_of_mem row hx)) _
          (created_addRow h (hrows row List.mem_cons_self))
  exact h [] ⟨List.Pairwise.nil, by simp, by simp⟩

theorem resolved_not_failed (channel : Channel) (e : Surroundings) :
    ∀ row ∈ resolveCampaignRecipients channel e, row.status ≠ .failed := by
  intro row hrow
  obtain ⟨customer, -, hrow⟩ := List.mem_flatMap.mp hrow
  unfold resolveCustomer at hrow
  dsimp only at hrow
  split at hrow
  · rw [List.mem_singleton.mp hrow]
    simp
  · obtain ⟨c, -, hc⟩ := List.mem_filterMap.mp hrow
    obtain ⟨chat, -, rfl⟩ := Option.map_eq_some_iff.mp hc
    simp

/-- A transaction is opened with what is right for the recipients. -/
theorem regenerate_fits {channel : Channel} {e : Surroundings} {recipients : Recipients}
    {write : Regeneration} (h : regenerate channel e recipients = some write) :
    write.Fits recipients := by
  unfold regenerate at h
  dsimp only at h
  split at h
  · cases h
  · obtain ⟨hdistinct, hfresh, hstatus⟩ :=
      @created_foldl (recipients.rows.filter fun r => !r.renewable) _
        (resolved_not_failed channel e)
    rw [← Option.some.inj h]
    refine ⟨rfl, hdistinct, fun row hrow r hr hkept => ?_, hstatus, rfl⟩
    exact hfresh row hrow r (List.mem_filter.mpr ⟨hr, by simp [hkept]⟩)

/-- The recipients after the commit: those that are kept, and the new ones. -/
theorem Regeneration.Fits.rows {write : Regeneration} {recipients : Recipients}
    (h : write.Fits recipients) :
    ∃ new : List BroadcastRecipient,
      (write.apply recipients).rows = recipients.rows.filter (fun r => !r.renewable) ++ new ∧
      List.Forall₂ (fun row r => ∃ k, r = ResolvedRow.toRecipient row k) write.created new := by
  obtain ⟨new, hrows, hnew⟩ :=
    @Serial.rows_appendAll _ _ _ (recipients.remove fun r => write.deleted.contains r.pk)
      ResolvedRow.toRecipient (fun _ _ => rfl) write.created
  refine ⟨new, ?_, hnew⟩
  unfold Regeneration.apply
  rw [hrows, Serial.rows_remove]
  congr 1
  refine List.filter_congr fun r hr => ?_
  -- a row's key is deleted only with the row itself
  rw [h.deleted]
  congr 1
  rw [Bool.eq_iff_iff, List.contains_iff_mem, List.mem_map]
  constructor
  · rintro ⟨x, hx, hpk⟩
    obtain ⟨hx, hrenew⟩ := List.mem_filter.mp hx
    rwa [← Serial.eq_of_key_eq hx hr hpk]
  · intro hrenew
    exact ⟨r, List.mem_filter.mpr ⟨hr, hrenew⟩, rfl⟩

/-- The counts depend on the states of the recipients. -/
theorem countsOf_congr {rows rows' : List BroadcastRecipient}
    (h : rows.map (·.status) = rows'.map (·.status)) : countsOf rows = countsOf rows' := by
  have hcount : ∀ status, countStatus rows status = countStatus rows' status := by
    intro status
    have hmap : ∀ l : List BroadcastRecipient,
        countStatus l status = (l.map (·.status)).countP fun x => x = status := by
      intro l
      rw [List.countP_map]
      rfl
    rw [hmap, hmap, h]
  have hlength : rows.length = rows'.length := by
    simpa using congrArg List.length h
  unfold countsOf
  rw [hcount, hcount, hlength]

theorem Regeneration.Fits.counts_apply {write : Regeneration} {recipients : Recipients}
    (h : write.Fits recipients) : write.counts = countsOf (write.apply recipients).rows := by
  obtain ⟨new, hrows, hnew⟩ := h.rows
  rw [h.counts, hrows]
  refine countsOf_congr ?_
  rw [List.map_append, List.map_append, List.map_map]
  congr 1
  clear hrows
  generalize write.created = created at hnew ⊢
  induction hnew with
  | nil => rfl
  | cons hrow _ ih =>
      obtain ⟨k, rfl⟩ := hrow
      exact congrArg (List.cons _) ih

/-- After the commit no two recipients are of one customer on one channel. -/
theorem Regeneration.Fits.keys {write : Regeneration} {recipients : Recipients}
    (h : write.Fits recipients)
    (hkeys : recipients.rows.Pairwise fun a b =>
      ¬ (a.customer = b.customer ∧ a.channel = b.channel)) :
    (write.apply recipients).rows.Pairwise fun a b =>
      ¬ (a.customer = b.customer ∧ a.channel = b.channel) := by
  obtain ⟨new, hrows, hnew⟩ := h.rows
  rw [hrows, List.pairwise_append]
  refine ⟨hkeys.sublist List.filter_sublist, ?_, ?_⟩
  · have hdistinct := h.distinct
    clear hrows
    generalize write.created = created at hdistinct hnew
    induction hnew with
    | nil => exact List.Pairwise.nil
    | cons hrow hrest ih =>
        obtain ⟨k, rfl⟩ := hrow
        obtain ⟨hhead, htail⟩ := List.pairwise_cons.mp hdistinct
        refine List.Pairwise.cons (fun r hr => ?_) (ih htail)
        obtain ⟨row, hrow, k', rfl⟩ := Serial.exists_of_made hrest hr
        exact hhead row hrow
  · intro a ha b hb hsame
    obtain ⟨hmem, hkept⟩ := List.mem_filter.mp ha
    obtain ⟨row, hrow, k, rfl⟩ := Serial.exists_of_made hnew hb
    have hnot := h.fresh row hrow a hmem (by simpa using hkept)
    rw [isFor_iff.mpr hsame] at hnot
    cases hnot

end Qasedak.Broadcasts
