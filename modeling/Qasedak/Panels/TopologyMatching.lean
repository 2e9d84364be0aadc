import Qasedak.Panels.TopologySync

/-! # A stable one-to-one matching

What a run of `sync_xui_topology` leaves behind, and what a second run on the same remote inbounds
does with it. -/

namespace Qasedak.Panels

open Foundation Store Payments WizwizImport

/-! ## One run -/

/-- The rows after a run are matched with the remote inbounds. -/
structure MatchedOneToOne (options : SyncOptions) (remotes : List RemoteInbound)
    (t after : InboundTable) (plan : TopologyPlan) : Prop where
  /-- The updates of one row come from one scope. -/
  one_scope : ∀ u ∈ plan.updates, ∀ u' ∈ plan.updates, u.inbound.pk = u'.inbound.pk →
    u.remote.scope = u'.remote.scope
  /-- Each remote inbound is in the plan once. -/
  used_once : (plan.updates.map TopologyUpdate.remote ++
    plan.skipped.map TopologySkip.remote).Perm remotes
  updated : ∀ u ∈ plan.updates, u.inbound ∈ t.rows ∧ u.inbound.panel = options.panel ∧
    u.remote.applyTo options.now u.inbound ∈ after.rows
  kept : ∀ row ∈ t.rows, (∀ u ∈ plan.updates, u.inbound.pk ≠ row.pk) → row ∈ after.rows
  /-- What is neither skipped as ambiguous nor for want of a unique match has its one row. -/
  one_row : ∀ r ∈ remotes, ∀ n, r.number? = some n →
    (∀ s ∈ plan.skipped, s.remote = r → s.reason = .missing) →
    ∃! row, row ∈ after.rows ∧ row.panel = options.panel ∧ row.inboundId = n ∧
      row.xuiNodeId = r.nodeExternalId

/-- A row is updated once where no scope comes twice. -/
theorem MatchedOneToOne.updated_once {options : SyncOptions} {remotes : List RemoteInbound}
    {t after : InboundTable} {plan : TopologyPlan}
    (h : MatchedOneToOne options remotes t after plan)
    (hscopes : (remotes.map RemoteInbound.scope).Nodup) :
    (plan.updates.map fun u => u.inbound.pk).Nodup := by
  have hplanned : ((plan.updates.map TopologyUpdate.remote ++
      plan.skipped.map TopologySkip.remote).map RemoteInbound.scope).Nodup :=
    (h.used_once.map _).nodup_iff.mpr hscopes
  rw [List.map_append, List.nodup_append, List.map_map] at hplanned
  have hupdates := List.pairwise_map.mp hplanned.1
  refine List.pairwise_map.mpr (hupdates.imp_of_mem fun hu hu' hne hpk => ?_)
  exact hne (h.one_scope _ hu _ hu' hpk)

section Run

variable {rt : Runtime} {nodes : NodeDirectory} {options : SyncOptions}
  {remotes : List RemoteInbound} {t after : InboundTable} {created : ℕ}

theorem syncTopology_ok (h : syncTopology rt options remotes t = .ok (after, created)) :
    let plan := planUpdates (t.ofPanel options.panel) remotes
    ∃ mid : InboundTable,
      applyUpdates options.engine options.now t plan.updates = .ok mid ∧
        createMissingInbounds rt options mid plan.skipped = .ok (after, created) := by
  unfold syncTopology at h
  cases happly : applyUpdates options.engine options.now t
      (planUpdates (t.ofPanel options.panel) remotes).updates with
  | error e =>
      simp only [happly] at h
      cases h
  | ok mid =>
      simp only [happly] at h
      exact ⟨mid, happly, h⟩

/-- Two updates of one row come from one scope. -/
theorem one_scope_of_matched {u u' : TopologyUpdate}
    (hu : u ∈ (planUpdates (t.ofPanel options.panel) remotes).updates)
    (hu' : u' ∈ (planUpdates (t.ofPanel options.panel) remotes).updates)
    (hpk : u.inbound.pk = u'.inbound.pk) : u.remote.scope = u'.remote.scope := by
  obtain ⟨hr, hmatch⟩ := mem_updates.mp hu
  obtain ⟨hr', hmatch'⟩ := mem_updates.mp hu'
  obtain ⟨hrow, hid, hnode⟩ := matchRemote_ok hmatch
  obtain ⟨hrow', hid', hnode'⟩ := matchRemote_ok hmatch'
  have hsame : u.inbound = u'.inbound := Serial.eq_of_key_eq (InboundTable.mem_ofPanel.mp hrow).1
    (InboundTable.mem_ofPanel.mp hrow').1 hpk
  have hids : u.remote.inboundExternalId = u'.remote.inboundExternalId := by
    rw [← hid, ← hid', hsame]
  rcases hnode with hnode | ⟨hcount, -⟩
  · rcases hnode' with hnode' | ⟨hcount', -⟩
    · have hnodes : u.remote.nodeExternalId = u'.remote.nodeExternalId := by
        rw [← hnode, ← hnode', hsame]
      exact Prod.ext hids hnodes
    · rw [eq_of_remoteInboundCount_le_one hcount' hr' hr hids]
  · rw [eq_of_remoteInboundCount_le_one hcount hr hr' hids.symm]

variable (hlisted : ∀ r ∈ remotes, r.Listed rt nodes options)
include hlisted

/-- The row of an update after the updates. -/
theorem updated_inbound {u : TopologyUpdate} {now : Instant}
    (hu : u ∈ (planUpdates (t.ofPanel options.panel) remotes).updates) :
    updated now (planUpdates (t.ofPanel options.panel) remotes).updates u.inbound =
      u.remote.applyTo now u.inbound := by
  have hlist := hlisted _ (mem_updates.mp hu).1
  rw [updated_eq hlist.key_ne fun v hv hpk =>
    (hlisted _ (mem_updates.mp hv).1).applyTo_eq hlist (one_scope_of_matched hv hu hpk) now]
  exact if_pos ⟨u, hu, rfl⟩

theorem createsFor_iff {s : TopologySkip} (hs : s.remote ∈ remotes) :
    CreatesFor options s = true ↔
      s.reason = .missing ∧ isDigitText s.remote.inboundExternalId = true := by
  have hlist := hlisted _ hs
  have hskip : (options.activeOnly && s.remote.active == some false) = false := by
    cases hopt : options.activeOnly with
    | false => rfl
    | true => simpa using hlist.active hopt
  simp [CreatesFor, hskip, hlist.strip_id]

theorem matchedOneToOne_of_ok (h : syncTopology rt options remotes t = .ok (after, created)) :
    MatchedOneToOne options remotes t after (planUpdates (t.ofPanel options.panel) remotes) := by
  obtain ⟨mid, happly, hcreate⟩ := syncTopology_ok h
  have hmid := applyUpdates_ok happly
  have hcreates := createMissingInbounds_ok hcreate
  obtain ⟨new, hafter, -, -⟩ := hcreates.rows
  have hstays (row : LocalInbound) (hrow : row ∈ t.rows) : updated options.now (planUpdates
      (t.ofPanel options.panel) remotes).updates row ∈ after.rows := by
    rw [hafter, hmid]
    exact List.mem_append_left _ (List.mem_map_of_mem hrow)
  have hupdated (u : TopologyUpdate)
      (hu : u ∈ (planUpdates (t.ofPanel options.panel) remotes).updates) :
      u.inbound ∈ t.rows ∧ u.inbound.panel = options.panel ∧
        u.remote.applyTo options.now u.inbound ∈ after.rows := by
    obtain ⟨hrow, -, -⟩ := matchRemote_ok (mem_updates.mp hu).2
    obtain ⟨hrow, hpanel⟩ := InboundTable.mem_ofPanel.mp hrow
    refine ⟨hrow, hpanel, ?_⟩
    rw [← updated_inbound hlisted hu]
    exact hstays _ hrow
  refine ⟨fun u hu u' hu' => one_scope_of_matched hu hu', planUpdates_perm _ _, hupdated,
    fun row hrow hnone => ?_, fun r hr n hn hskip => ?_⟩
  · rw [← updated_of_not_mem hnone]
    exact hstays row hrow
  · obtain ⟨row, hrow, hpanel, hid, hnode⟩ : after.Holds options.panel r.nodeExternalId n := by
      unfold RemoteInbound.number? at hn
      split at hn
      · rename_i hdigits
        cases hmatch : matchRemote (t.ofPanel options.panel) remotes r with
        | ok row =>
            obtain ⟨-, hpanel, hmem⟩ := hupdated ⟨row, r⟩ (mem_updates.mpr ⟨hr, hmatch⟩)
            obtain ⟨-, hid, -⟩ := matchRemote_ok hmatch
            rw [← hid] at hn
            exact ⟨_, hmem, hpanel, eq_of_intOfDigitText_toString hn, rfl⟩
        | error reason =>
            have hs : (⟨r, reason⟩ : TopologySkip) ∈
                (planUpdates (t.ofPanel options.panel) remotes).skipped :=
              mem_skipped.mpr ⟨hr, hmatch⟩
            obtain ⟨number, hnumber, hheld⟩ := hcreates.held _ hs
              ((createsFor_iff hlisted hr).mpr ⟨hskip _ hs rfl, hdigits⟩)
            rw [(hlisted r hr).strip_id, hn] at hnumber
            rw [(hlisted r hr).strip_node, ← Option.some.inj hnumber] at hheld
            exact hheld
      · cases hn
    refine ⟨row, ⟨hrow, hpanel, hid, hnode⟩, ?_⟩
    rintro row' ⟨hrow', hpanel', hid', hnode'⟩
    exact InboundTable.eq_of_scope_eq hrow' hrow (hpanel'.trans hpanel.symm) (hid'.trans hid.symm)
      (hnode'.trans hnode.symm)

end Run

/-! ## A second run -/

/-- A row without what a further run writes of the same inbound: the name of its node, which a new
row has cut off, and the time. -/
def LocalInbound.settled (row : LocalInbound) : LocalInbound :=
  { row with xuiNodeName := "", lastSyncedAt := none }

/-- The row holds what a remote inbound writes. -/
structure LocalInbound.WrittenBy (r : RemoteInbound) (row : LocalInbound) : Prop where
  node : row.xuiNodeId = r.nodeExternalId
  source : row.xuiSource = r.source
  key : row.xuiRemoteKey = r.remoteKey
  synced : row.isSyncedFromNode = decide (r.nodeExternalId ≠ "")

/-- No two ids are different numerals of one number. -/
def OneNumeral (remotes : List RemoteInbound) : Prop :=
  ∀ r ∈ remotes, ∀ r' ∈ remotes, ∀ n, r.number? = some n → r'.number? = some n →
    r.inboundExternalId = r'.inboundExternalId

section Rerun

variable {rt : Runtime} {nodes : NodeDirectory} {options : SyncOptions}
  {remotes : List RemoteInbound} {t t' after : InboundTable} {created : ℕ} {now : Instant}

theorem settled_applyTo (now : Instant) {r : RemoteInbound} {row : LocalInbound}
    (h : row.WrittenBy r) (hkey : r.remoteKey ≠ "") : (r.applyTo now row).settled = row.settled := by
  have hkept : row.xuiRemoteKey ≠ "" := h.key ▸ hkey
  simp only [LocalInbound.settled, RemoteInbound.applyTo, ← h.node, ← h.source, ← h.key, h.synced,
    if_neg hkept]

theorem writtenBy_applyTo {r : RemoteInbound} (hkey : r.remoteKey ≠ "") (row : LocalInbound) :
    (r.applyTo now row).WrittenBy r :=
  ⟨rfl, rfl, if_neg hkey, rfl⟩

theorem LocalInbound.WrittenBy.of_settled {r : RemoteInbound} {row row' : LocalInbound}
    (h : row.WrittenBy r) (heq : row'.settled = row.settled) : row'.WrittenBy r := by
  simp only [settled, mk.injEq] at heq
  obtain ⟨-, -, -, -, -, -, -, -, -, -, -, hnode, -, hsource, hkey, hsynced, -⟩ := heq
  exact ⟨hnode.trans h.node, hsource.trans h.source, hkey.trans h.key, hsynced.trans h.synced⟩

/-- Updates that write what a row holds leave it. -/
theorem settled_updated {updates : List TopologyUpdate} {row : LocalInbound}
    (h : ∀ u ∈ updates, u.inbound.pk = row.pk →
      u.remote.remoteKey ≠ "" ∧ row.WrittenBy u.remote) :
    (updated now updates row).settled = row.settled := by
  induction updates generalizing row with
  | nil => rfl
  | cons u updates ih =>
      rw [updated, List.foldl_cons]
      change (updated now updates _).settled = _
      have hrest (v : TopologyUpdate) (hv : v ∈ updates) := h v (List.mem_cons_of_mem u hv)
      by_cases hpk : row.pk = u.inbound.pk
      · obtain ⟨hkey, hwritten⟩ := h u List.mem_cons_self hpk.symm
        have hsettled := settled_applyTo now hwritten hkey
        rw [if_pos hpk, ih fun v hv hv' => ?_, hsettled]
        obtain ⟨hkey', hwritten'⟩ := hrest v hv hv'
        exact ⟨hkey', hwritten'.of_settled hsettled⟩
      · rw [if_neg hpk]
        exact ih hrest

/-- Where every row is there, none is created. -/
theorem createMissingInbounds_held {skipped : List TopologySkip}
    (h : ∀ s ∈ skipped, CreatesFor options s → ∃ number,
      intOfDigitText (strip s.remote.inboundExternalId) = some number ∧
        t.Holds options.panel (strip s.remote.nodeExternalId) number) :
    createMissingInbounds rt options t skipped = .ok (t, 0) := by
  unfold createMissingInbounds
  induction skipped with
  | nil => rfl
  | cons s skipped ih =>
      have hstep : createStep rt options (t, 0) s = .ok (t, 0) := by
        unfold createStep
        split
        · rename_i hs
          obtain ⟨number, hnumber, hheld⟩ := h s List.mem_cons_self hs
          simp only [createMissing, hnumber, if_pos (InboundTable.holds_iff.mp hheld)]
          rfl
        · rfl
      rw [List.foldlM_cons, hstep]
      exact ih fun s' hs' => h s' (List.mem_cons_of_mem s hs')

theorem updated_fields (now : Instant) (updates : List TopologyUpdate) (row : LocalInbound) :
    (updated now updates row).pk = row.pk ∧ (updated now updates row).panel = row.panel ∧
      (updated now updates row).inboundId = row.inboundId := by
  induction updates generalizing row with
  | nil => exact ⟨rfl, rfl, rfl⟩
  | cons u updates ih =>
      obtain ⟨hpk, hpanel, hid⟩ := ih
        (if row.pk = u.inbound.pk then u.remote.applyTo now row else row)
      rw [updated, List.foldl_cons]
      refine ⟨hpk.trans ?_, hpanel.trans ?_, hid.trans ?_⟩ <;> split <;> rfl

/-- The rows that were there are among the rows after a run. -/
theorem updated_mem_after {row : LocalInbound}
    (h : syncTopology rt options remotes t = .ok (after, created)) (hrow : row ∈ t.rows) :
    updated options.now (planUpdates (t.ofPanel options.panel) remotes).updates row ∈
      after.rows := by
  obtain ⟨mid, happly, hcreate⟩ := syncTopology_ok h
  obtain ⟨new, hafter, -, -⟩ := (createMissingInbounds_ok hcreate).rows
  rw [hafter, applyUpdates_ok happly]
  exact List.mem_append_left _ (List.mem_map_of_mem hrow)

variable (hlisted : ∀ r ∈ remotes, r.Listed rt nodes options)
include hlisted

/-- A row after a run was there before it, or is made of an inbound that was missing. -/
theorem mem_after (h : syncTopology rt options remotes t = .ok (after, created))
    {row : LocalInbound} (hrow : row ∈ after.rows) :
    (∃ row₀ ∈ t.rows, row = updated options.now
      (planUpdates (t.ofPanel options.panel) remotes).updates row₀) ∨
    ∃ r ∈ remotes, matchRemote (t.ofPanel options.panel) remotes r = .error .missing ∧
      ∃ n pk, r.number? = some n ∧ row = newInbound rt options r n pk ∧
        row.Fits options.engine := by
  obtain ⟨mid, happly, hcreate⟩ := syncTopology_ok h
  obtain ⟨new, hafter, -, hnew⟩ := (createMissingInbounds_ok hcreate).rows
  rw [hafter, applyUpdates_ok happly] at hrow
  rcases List.mem_append.mp hrow with hrow | hrow
  · obtain ⟨row₀, hrow₀, rfl⟩ := List.mem_map.mp hrow
    exact Or.inl ⟨row₀, hrow₀, rfl⟩
  · obtain ⟨s, hs, hcreates, n, pk, hn, hmade, hfits⟩ := hnew row hrow
    obtain ⟨hr, hmatch⟩ := mem_skipped.mp hs
    obtain ⟨hreason, hdigits⟩ := (createsFor_iff hlisted hr).mp hcreates
    rw [(hlisted _ hr).strip_id] at hn
    refine Or.inr ⟨s.remote, hr, hreason ▸ hmatch, n, pk, ?_, hmade, hfits⟩
    rw [RemoteInbound.number?, if_pos hdigits, hn]

/-- An inbound without a match of its own scope has none among the rows that were there. -/
theorem not_exact_updated (now : Instant) {r : RemoteInbound} {row : LocalInbound}
    (hr : r ∈ remotes)
    (hexact : NoExact (t.ofPanel options.panel) r)
    (hmatch : ∀ found, matchRemote (t.ofPanel options.panel) remotes r ≠ .ok found)
    (hrow : row ∈ t.ofPanel options.panel) (hid : toString row.inboundId = r.inboundExternalId) :
    (updated now (planUpdates (t.ofPanel options.panel) remotes).updates row).xuiNodeId ≠
      r.nodeExternalId := by
  intro hnode
  by_cases hsome : ∃ u ∈ (planUpdates (t.ofPanel options.panel) remotes).updates,
      u.inbound.pk = row.pk
  · obtain ⟨u, hu, hpk⟩ := hsome
    obtain ⟨hr', hmatch'⟩ := mem_updates.mp hu
    obtain ⟨hinbound, hid', hnode'⟩ := matchRemote_ok hmatch'
    have hsame : u.inbound = row := Serial.eq_of_key_eq (InboundTable.mem_ofPanel.mp hinbound).1
      (InboundTable.mem_ofPanel.mp hrow).1 hpk
    have hremote : u.remote.nodeExternalId = r.nodeExternalId := by
      rw [← hnode, ← hsame, updated_inbound hlisted hu]
      rfl
    have hids : u.remote.inboundExternalId = r.inboundExternalId := by rw [← hid', hsame, hid]
    rcases hnode' with hnode' | ⟨hcount, -⟩
    · have hkept : row.xuiNodeId = r.nodeExternalId := by rw [← hremote, ← hnode', hsame]
      exact hexact row hrow (Prod.ext hid hkept)
    · rw [← eq_of_remoteInboundCount_le_one hcount hr' hr hids.symm] at hmatch'
      exact hmatch _ hmatch'
  · rw [updated_of_not_mem fun u hu hpk => hsome ⟨u, hu, hpk⟩] at hnode
    exact hexact row hrow (Prod.ext hid hnode)

/-- What a second run finds for an inbound holds already what the inbound writes. -/
theorem writtenBy_of_rematched (h : syncTopology rt options remotes t = .ok (after, created))
    (hone : OneNumeral remotes) {r : RemoteInbound} {row : LocalInbound} (hr : r ∈ remotes)
    (hagain : matchRemote (after.ofPanel options.panel) remotes r = .ok row) :
    row.WrittenBy r := by
  have hrun := matchedOneToOne_of_ok hlisted h
  cases hmatch : matchRemote (t.ofPanel options.panel) remotes r with
  | ok found =>
      -- The row that the first run found has the scope of the inbound now.
      obtain ⟨-, hpanel, hmem⟩ := hrun.updated ⟨found, r⟩ (mem_updates.mpr ⟨hr, hmatch⟩)
      obtain ⟨-, hid, -⟩ := matchRemote_ok hmatch
      have hexact : matchRemote (after.ofPanel options.panel) remotes r = .ok _ :=
        matchRemote_of_exact (after.nodup_ofPanel options.panel)
          (InboundTable.mem_ofPanel.mpr ⟨hmem, hpanel⟩) (Prod.ext hid rfl)
      rw [hexact] at hagain
      rw [← Except.ok.inj hagain]
      exact writtenBy_applyTo (hlisted r hr).key_ne found
  | error reason =>
      obtain ⟨hexact, hreason⟩ := matchRemote_error (t.nodup_ofPanel options.panel) hmatch
      obtain ⟨hrow, hid, hnode⟩ := matchRemote_ok hagain
      obtain ⟨hrow, hpanel⟩ := InboundTable.mem_ofPanel.mp hrow
      rcases mem_after hlisted h hrow with
        ⟨row₀, hrow₀, rfl⟩ | ⟨r', hr', hmissing, n, pk, hn, hmade, hfits⟩
      · -- No row that was there comes to have the scope of the inbound.
        obtain ⟨-, hpanel₀, hid₀⟩ := updated_fields options.now
          (planUpdates (t.ofPanel options.panel) remotes).updates row₀
        have hmem₀ : row₀ ∈ t.ofPanel options.panel :=
          InboundTable.mem_ofPanel.mpr ⟨hrow₀, hpanel₀ ▸ hpanel⟩
        rw [hid₀] at hid
        rcases hnode with hnode | ⟨hcount, hsole⟩
        · have hother := not_exact_updated hlisted options.now hr hexact
            (fun found => by rw [hmatch]; exact nofun) hmem₀ hid
          exact absurd hnode hother
        · cases reason with
          | ambiguous => exact absurd hreason (Nat.not_lt.mpr hcount)
          | missing => exact absurd hid (hreason.2 row₀ hmem₀)
          | notUnique =>
              obtain ⟨-, a, ha, b, hb, hne, hida, hidb⟩ := hreason
              have honly (x : LocalInbound) (hx : x ∈ t.ofPanel options.panel)
                  (hidx : toString x.inboundId = r.inboundExternalId) : x.pk = row₀.pk := by
                obtain ⟨hx, hpanelx⟩ := InboundTable.mem_ofPanel.mp hx
                obtain ⟨hpk', hpanel', hid'⟩ := updated_fields options.now
                  (planUpdates (t.ofPanel options.panel) remotes).updates x
                have hsame := hsole _ (InboundTable.mem_ofPanel.mpr
                  ⟨updated_mem_after h hx, hpanel'.trans hpanelx⟩) (hid' ▸ hidx)
                rw [← hpk', hsame, (updated_fields _ _ row₀).1]
              exact absurd (Serial.eq_of_key_eq (InboundTable.mem_ofPanel.mp ha).1
                (InboundTable.mem_ofPanel.mp hb).1
                ((honly a ha hida).trans (honly b hb hidb).symm)) hne
      · -- A new row was made of this very inbound.
        obtain ⟨-, hcount, -⟩ := matchRemote_error (t.nodup_ofPanel options.panel) hmissing
        have hbound : n < 10 ^ 19 := by
          have hfit := hfits.2.1
          rw [hmade] at hfit
          have hmax : options.engine.intMax < 10 ^ 19 := by
            cases options.engine <;> decide
          have hle : (n : ℤ) ≤ options.engine.intMax := hfit.2
          omega
        have htext : toString n = r.inboundExternalId := by rw [← hid, hmade]; rfl
        have hnumber : r.number? = some n := by
          rw [RemoteInbound.number?, ← htext, if_pos (isDigitText_toString n),
            intOfDigitText_toString hbound]
        have hids := hone r hr r' hr' n hnumber hn
        rw [eq_of_remoteInboundCount_le_one hcount hr' hr hids, hmade]
        have hstrip := (hlisted r' hr').strip_node
        exact ⟨hstrip, rfl, rfl, by simp only [newInbound, hstrip]⟩

/-- A second run finds a row for every inbound that it takes for missing. -/
theorem held_of_missing_again (h : syncTopology rt options remotes t = .ok (after, created))
    {r : RemoteInbound} (hr : r ∈ remotes) (hdigits : isDigitText r.inboundExternalId = true)
    (hagain : matchRemote (after.ofPanel options.panel) remotes r = .error .missing) :
    ∃ n, intOfDigitText (strip r.inboundExternalId) = some n ∧
      after.Holds options.panel (strip r.nodeExternalId) n := by
  obtain ⟨-, hcount, hnone⟩ := matchRemote_error (after.nodup_ofPanel options.panel) hagain
  have hgone (row : LocalInbound) (hrow : row ∈ t.ofPanel options.panel) :
      toString row.inboundId ≠ r.inboundExternalId := by
    obtain ⟨hrow, hpanel⟩ := InboundTable.mem_ofPanel.mp hrow
    obtain ⟨-, hpanel', hid'⟩ := updated_fields options.now
      (planUpdates (t.ofPanel options.panel) remotes).updates row
    rw [← hid']
    exact hnone _ (InboundTable.mem_ofPanel.mpr ⟨updated_mem_after h hrow, hpanel'.trans hpanel⟩)
  cases hmatch : matchRemote (t.ofPanel options.panel) remotes r with
  | ok found =>
      obtain ⟨hfound, hid, -⟩ := matchRemote_ok hmatch
      exact absurd hid (hgone found hfound)
  | error reason =>
      obtain ⟨-, hreason⟩ := matchRemote_error (t.nodup_ofPanel options.panel) hmatch
      cases reason with
      | ambiguous => exact absurd hreason (Nat.not_lt.mpr hcount)
      | notUnique =>
          obtain ⟨-, a, ha, -, -, -, hid, -⟩ := hreason
          exact absurd hid (hgone a ha)
      | missing =>
          obtain ⟨mid, happly, hcreate⟩ := syncTopology_ok h
          exact (createMissingInbounds_ok hcreate).held ⟨r, .missing⟩ (mem_skipped.mpr ⟨hr, hmatch⟩)
            ((createsFor_iff hlisted hr).mpr ⟨rfl, hdigits⟩)

/-- A second run creates no row, and changes no scope, source or key. -/
theorem rerun_settled (h : syncTopology rt options remotes t = .ok (after, created))
    (hone : OneNumeral remotes) {again : InboundTable} {createdAgain : ℕ}
    (hagain : syncTopology rt { options with now } remotes after = .ok (again, createdAgain)) :
    createdAgain = 0 ∧
      again.rows.map LocalInbound.settled = after.rows.map LocalInbound.settled := by
  obtain ⟨mid, happly, hcreate⟩ := syncTopology_ok hagain
  have hrows := applyUpdates_ok happly
  have hsettled (row : LocalInbound) (hrow : row ∈ after.rows) :
      (updated now (planUpdates (after.ofPanel options.panel) remotes).updates row).settled =
        row.settled := by
    refine settled_updated fun u hu hpk => ?_
    obtain ⟨hr, hmatch⟩ := mem_updates.mp hu
    have hsame : u.inbound = row := Serial.eq_of_key_eq
      (InboundTable.mem_ofPanel.mp (matchRemote_ok hmatch).1).1 hrow hpk
    refine ⟨(hlisted _ hr).key_ne, ?_⟩
    rw [← hsame]
    exact writtenBy_of_rematched hlisted h hone hr hmatch
  have hheld : createMissingInbounds rt { options with now } mid
      (planUpdates (after.ofPanel options.panel) remotes).skipped = .ok (mid, 0) := by
    refine createMissingInbounds_held fun s hs hcreates => ?_
    obtain ⟨hr, hmatch⟩ := mem_skipped.mp hs
    obtain ⟨hreason, hdigits⟩ := (createsFor_iff hlisted hr).mp hcreates
    obtain ⟨n, hn, row, hrow, hpanel, hid, hnode⟩ :=
      held_of_missing_again hlisted h hr hdigits (hreason ▸ hmatch)
    obtain ⟨-, hpanel', hid'⟩ := updated_fields now
      (planUpdates (after.ofPanel options.panel) remotes).updates row
    have hnode' := congrArg LocalInbound.xuiNodeId (hsettled row hrow)
    refine ⟨n, hn, _, ?_, hpanel'.trans hpanel, hid'.trans hid, hnode'.trans hnode⟩
    rw [hrows]
    exact List.mem_map_of_mem hrow
  rw [hheld] at hcreate
  obtain ⟨rfl, rfl⟩ := Prod.mk.inj (Except.ok.inj hcreate)
  refine ⟨rfl, ?_⟩
  rw [hrows, List.map_map]
  exact List.map_congr_left fun row hrow => hsettled row hrow

end Rerun

/-! ## Runs that go through -/

/-- The columns take what the run may write of a remote inbound, and `int` reads its id where
`isdigit` holds of it. -/
structure RemoteInbound.Storable (rt : Runtime) (options : SyncOptions) (r : RemoteInbound) :
    Prop where
  node : options.engine.FitsText 100 r.nodeExternalId
  name : options.engine.FitsText 150 r.nodeName
  key : options.engine.FitsText 300 r.remoteKey
  number : isDigitText r.inboundExternalId = true → ∃ n, r.number? = some n ∧
    ∀ pk, (newInbound rt options r n pk).Fits options.engine

section Storable

variable {rt : Runtime} {nodes : NodeDirectory} {options : SyncOptions}
  {remotes : List RemoteInbound} {t : InboundTable} {now : Instant}

/-- The only row of its panel under its id. -/
def InboundTable.Sole (t : InboundTable) (row : LocalInbound) : Prop :=
  ∀ row' ∈ t.rows, row'.panel = row.panel → row'.inboundId = row.inboundId → row' = row

/-- Rows of the table that have changed their nodes only where they are alone under their ids. -/
def Apart (t : InboundTable) (rows : List LocalInbound) : Prop :=
  ∀ row ∈ rows, ∃ row₀ ∈ t.rows, row₀.pk = row.pk ∧ row₀.panel = row.panel ∧
    row₀.inboundId = row.inboundId ∧ (row.xuiNodeId = row₀.xuiNodeId ∨ t.Sole row₀)

/-- Such rows keep the constraint. -/
theorem Apart.nodup {rows : Serial LocalInbound.pk} (h : Apart t rows.rows) :
    (rows.rows.map LocalInbound.remoteScope).Nodup := by
  refine List.Nodup.map_on (fun row hrow row' hrow' hscope => ?_) (rows.keys_nodup.of_map _)
  simp only [LocalInbound.remoteScope, Prod.mk.injEq] at hscope
  obtain ⟨hpanels, hnodes, hids⟩ := hscope
  obtain ⟨row₀, hrow₀, hpk, hpanel, hid, hnode⟩ := h row hrow
  obtain ⟨row₀', hrow₀', hpk', hpanel', hid', hnode'⟩ := h row' hrow'
  have hpanel₀ : row₀'.panel = row₀.panel := by rw [hpanel', ← hpanels, hpanel]
  have hid₀ : row₀'.inboundId = row₀.inboundId := by rw [hid', ← hids, hid]
  have hsame : row₀' = row₀ := by
    rcases hnode with hnode | hsole
    · rcases hnode' with hnode' | hsole'
      · exact InboundTable.eq_of_scope_eq hrow₀' hrow₀ hpanel₀ hid₀
          (by rw [← hnode', ← hnodes, hnode])
      · exact (hsole' row₀ hrow₀ hpanel₀.symm hid₀.symm).symm
    · exact hsole row₀' hrow₀' hpanel₀ hid₀
  exact Serial.eq_of_key_eq hrow hrow' (by rw [← hpk, ← hpk', hsame])

/-- A planned update keeps the rows apart. -/
theorem Apart.update (now : Instant) {rows : List LocalInbound} {u : TopologyUpdate}
    (h : Apart t rows)
    (hu : u ∈ (planUpdates (t.ofPanel options.panel) remotes).updates) :
    Apart t (rows.map fun row =>
      if row.pk = u.inbound.pk then u.remote.applyTo now row else row) := by
  intro row hrow
  obtain ⟨row', hrow', rfl⟩ := List.mem_map.mp hrow
  obtain ⟨row₀, hrow₀, hpk, hpanel, hid, hnode⟩ := h row' hrow'
  by_cases hself : row'.pk = u.inbound.pk
  · rw [if_pos hself]
    refine ⟨row₀, hrow₀, hpk, hpanel, hid, ?_⟩
    obtain ⟨hinbound, hid', hnode'⟩ := matchRemote_ok (mem_updates.mp hu).2
    obtain ⟨hinbound, hpanel'⟩ := InboundTable.mem_ofPanel.mp hinbound
    obtain rfl : row₀ = u.inbound := Serial.eq_of_key_eq hrow₀ hinbound (hpk.trans hself)
    refine hnode'.imp Eq.symm ?_
    rintro ⟨-, hsole⟩ other hother hotherPanel hotherId
    exact hsole other (InboundTable.mem_ofPanel.mpr ⟨hother, hotherPanel.trans hpanel'⟩)
      (by rw [hotherId, hid'])
  · rw [if_neg hself]
    exact ⟨row₀, hrow₀, hpk, hpanel, hid, hnode⟩

theorem InboundTable.save_isOk (now : Instant) {cur : InboundTable} {u : TopologyUpdate}
    (hstorable : u.remote.Storable rt options) (hkey : u.remote.remoteKey ≠ "")
    (hu : u ∈ (planUpdates (t.ofPanel options.panel) remotes).updates) (h : Apart t cur.rows) :
    ∃ next, cur.save options.engine u.inbound.pk (u.remote.applyTo now) (u.remote.pk_applyTo now) =
      .ok next ∧ Apart t next.rows := by
  have hfits : ∀ row ∈ cur.rows, row.pk = u.inbound.pk →
      (u.remote.applyTo now row).FitsScope options.engine := by
    intro row _ _
    refine ⟨hstorable.node, hstorable.name, ?_⟩
    simp only [RemoteInbound.applyTo, if_neg hkey]
    exact hstorable.key
  have hrows : (cur.modify (fun row => row.pk = u.inbound.pk) (u.remote.applyTo now)
      (u.remote.pk_applyTo now)).rows =
      cur.rows.map fun row => if row.pk = u.inbound.pk then u.remote.applyTo now row else row := by
    simp
  have hnext := hrows ▸ h.update now hu
  exact ⟨⟨_, hnext.nodup⟩, by rw [save, if_pos hfits, commit, dif_pos hnext.nodup], hnext⟩

theorem createMissing_isOk {r : RemoteInbound} (hlist : r.Listed rt nodes options)
    (hstorable : r.Storable rt options) (hdigits : isDigitText r.inboundExternalId = true) :
    ∃ result, createMissing rt options t r = .ok result := by
  obtain ⟨n, hn, hfits⟩ := hstorable.number hdigits
  rw [RemoteInbound.number?, if_pos hdigits] at hn
  unfold createMissing
  simp only [hlist.strip_id, hn]
  split
  · exact ⟨_, rfl⟩
  · rename_i hmem
    have hnodup : ((t.append (newInbound rt options r n) fun _ => rfl).rows.map
        LocalInbound.remoteScope).Nodup := by
      have hrows : (t.append (newInbound rt options r n) fun _ => rfl).rows =
          t.rows ++ [newInbound rt options r n t.next] := rfl
      rw [hrows, List.map_append, List.nodup_append]
      refine ⟨t.scopes_nodup, List.nodup_singleton _, fun scope hscope scope' hscope' => ?_⟩
      rintro rfl
      rw [List.mem_singleton.mp hscope'] at hscope
      exact hmem hscope
    have hcreate : t.create options.engine (newInbound rt options r n) (fun _ => rfl) =
        .ok ⟨_, hnodup⟩ := by
      unfold InboundTable.create InboundTable.commit
      rw [if_pos (hfits t.next), dif_pos hnodup]
    exact ⟨(⟨_, hnodup⟩, 1), by rw [hcreate]; rfl⟩

variable (hlisted : ∀ r ∈ remotes, r.Listed rt nodes options)
  (hstorable : ∀ r ∈ remotes, r.Storable rt options)
include hlisted hstorable

theorem applyUpdates_isOk (t : InboundTable) : ∃ mid, applyUpdates options.engine options.now t
    (planUpdates (t.ofPanel options.panel) remotes).updates = .ok mid := by
  suffices h : ∀ us ⊆ (planUpdates (t.ofPanel options.panel) remotes).updates,
      ∀ cur : InboundTable, Apart t cur.rows →
        ∃ mid, applyUpdates options.engine options.now cur us = .ok mid from
    h _ (List.Subset.refl _) t fun row hrow => ⟨row, hrow, rfl, rfl, rfl, Or.inl rfl⟩
  intro us
  induction us with
  | nil => exact fun _ cur _ => ⟨cur, rfl⟩
  | cons u us ih =>
      intro hsub cur hcur
      have hu := hsub List.mem_cons_self
      have hr := (mem_updates.mp hu).1
      obtain ⟨next, hsave, hnext⟩ := InboundTable.save_isOk options.now (hstorable _ hr)
        (hlisted _ hr).key_ne hu hcur
      obtain ⟨mid, hmid⟩ := ih (fun v hv => hsub (List.mem_cons_of_mem u hv)) next hnext
      refine ⟨mid, ?_⟩
      rw [applyUpdates, List.foldlM_cons, hsave]
      exact hmid

theorem createSteps_isOk {skipped : List TopologySkip}
    (hskipped : ∀ s ∈ skipped, s.remote ∈ remotes) (state : InboundTable × ℕ) :
    ∃ result, skipped.foldlM (createStep rt options) state = .ok result := by
  induction skipped generalizing state with
  | nil => exact ⟨state, rfl⟩
  | cons s skipped ih =>
      have hs := hskipped s List.mem_cons_self
      have hrest := ih fun s' hs' => hskipped s' (List.mem_cons_of_mem s hs')
      rw [List.foldlM_cons, createStep]
      split
      · rename_i hcreates
        obtain ⟨result, hresult⟩ := createMissing_isOk (t := state.1) (hlisted _ hs)
          (hstorable _ hs) ((createsFor_iff hlisted hs).mp hcreates).2
        rw [hresult]
        exact hrest _
      · exact hrest state

theorem syncTopology_isOk (t : InboundTable) :
    ∃ result, syncTopology rt options remotes t = .ok result := by
  obtain ⟨mid, hmid⟩ := applyUpdates_isOk hlisted hstorable t
  obtain ⟨result, hresult⟩ := createSteps_isOk hlisted hstorable
    (fun s hs => (mem_skipped.mp hs).1) (mid, 0)
  exact ⟨result, by rw [syncTopology, hmid]; exact hresult⟩

end Storable

/-! ## The matching -/

/-- A run that goes through matches one to one, and no further run creates a row or changes a
scope, a source or a key; with values that the columns take, every run goes through. -/
theorem syncTopology_stable (rt : Runtime) (nodes : NodeDirectory) (options : SyncOptions)
    (payloads : List JsonObject) (t : InboundTable) :
    let remotes := fetchTopology rt nodes options payloads
    (∀ after created, syncTopology rt options remotes t = .ok (after, created) →
      MatchedOneToOne options remotes t after (planUpdates (t.ofPanel options.panel) remotes) ∧
      ((remotes.map RemoteInbound.scope).Nodup →
        ((planUpdates (t.ofPanel options.panel) remotes).updates.map fun u => u.inbound.pk).Nodup) ∧
      (OneNumeral remotes → ∀ now again createdAgain,
        syncTopology rt { options with now } remotes after = .ok (again, createdAgain) →
          createdAgain = 0 ∧
            again.rows.map LocalInbound.settled = after.rows.map LocalInbound.settled)) ∧
    ((∀ r ∈ remotes, r.Storable rt options) → ∀ (t : InboundTable) (now : Instant),
      ∃ result, syncTopology rt { options with now } remotes t = .ok result) := by
  intro remotes
  have hlisted : ∀ r ∈ remotes, r.Listed rt nodes options := fun _ => listed_of_fetched
  refine ⟨fun after created hrun => ?_, fun hstorable t now => ?_⟩
  · have hmatched := matchedOneToOne_of_ok hlisted hrun
    exact ⟨hmatched, hmatched.updated_once, fun hone now again createdAgain hagain =>
      rerun_settled hlisted hrun hone hagain⟩
  · have hlater (r : RemoteInbound) (hr : r ∈ remotes) :
        r.Listed rt nodes { options with now } := by
      obtain ⟨hid, hnode, hname, hsource, hkey, hactive⟩ := hlisted r hr
      exact ⟨hid, hnode, hname, hsource, hkey, hactive⟩
    refine syncTopology_isOk hlater (fun r hr => ?_) t
    obtain ⟨hnode, hname, hkey, hnumber⟩ := hstorable r hr
    exact ⟨hnode, hname, hkey, hnumber⟩

/-! ## Sample panels -/

/-- Nothing of Python's texts is needed for ids in lower case. -/
def plainTexts : Runtime where
  loads _ := none
  lower text := text
  reprOf _ := ""
  converts _ := true
  safeError _ text := text

def sampleSync : SyncOptions := { engine := .sqlite, panel := 1, now := 0 }

def listedInbound (id node : String) : JsonObject := [("id", .str id), ("nodeGuid", .str node)]

def sampleRow (pk inboundId : ℕ) (node : String) : LocalInbound :=
  { pk, panel := 1, inboundId, xuiNodeId := node }

def sampleRemotes (payloads : List JsonObject) : List RemoteInbound :=
  fetchTopology plainTexts {} sampleSync payloads

def noRows : InboundTable where
  toSerial := Serial.empty
  scopes_nodup := List.nodup_nil

/-- Inbound 5 without a node. -/
def oneRow : InboundTable where
  rows := [sampleRow 1 5 ""]
  next := 2
  keys_nodup := by decide
  keys_lt := by decide
  scopes_nodup := by decide

/-- Inbound 5 on two nodes. -/
def twoRows : InboundTable where
  rows := [sampleRow 1 5 "a", sampleRow 2 5 "b"]
  next := 3
  keys_nodup := by decide
  keys_lt := by decide
  scopes_nodup := by decide

/-- The keys of the rows after a run, and after a second one. -/
def keysAfter (payloads : List JsonObject) (t : InboundTable) : Option (List String) :=
  (syncTopology plainTexts sampleSync (sampleRemotes payloads) t).toOption.map fun result =>
    result.1.rows.map LocalInbound.xuiRemoteKey

def keysAfterTwo (payloads : List JsonObject) (t : InboundTable) : Option (List String) :=
  (syncTopology plainTexts sampleSync (sampleRemotes payloads) t).toOption.bind fun result =>
    keysAfter payloads result.1

/-- The inbound of a node takes the row without a node, and another one gets a row of its own. -/
theorem syncTopology_stable_oneRow :
    let remotes := sampleRemotes [listedInbound "5" "a", listedInbound "6" ""]
    ∃ after created, syncTopology plainTexts sampleSync remotes oneRow = .ok (after, created) ∧
      MatchedOneToOne sampleSync remotes oneRow after (planUpdates (oneRow.ofPanel 1) remotes) ∧
      ∃ again, syncTopology plainTexts { sampleSync with now := 1 } remotes after = .ok (again, 0) ∧
        again.rows.map LocalInbound.settled = after.rows.map LocalInbound.settled := by
  intro remotes
  have hstable := syncTopology_stable plainTexts {} sampleSync
    [listedInbound "5" "a", listedInbound "6" ""] oneRow
  have hfive : (normalizeInbound plainTexts {} 1 (listedInbound "5" "a")).number? = some 5 := by
    decide +kernel
  have hsix : (normalizeInbound plainTexts {} 1 (listedInbound "6" "")).number? = some 6 := by
    decide +kernel
  have hremotes (r : RemoteInbound) (hr : r ∈ remotes) :
      r = normalizeInbound plainTexts {} 1 (listedInbound "5" "a") ∨
        r = normalizeInbound plainTexts {} 1 (listedInbound "6" "") := by
    have hmem := List.mem_of_mem_filter hr
    simpa [sampleSync] using hmem
  have hstorable (r : RemoteInbound) (hr : r ∈ remotes) : r.Storable plainTexts sampleSync := by
    have hfits : ∀ n ∈ [5, 6], Engine.FitsInt .sqlite (n : ℕ) := by decide
    refine ⟨nofun, nofun, nofun, fun _ => ?_⟩
    rcases hremotes r hr with rfl | rfl
    · exact ⟨5, hfive, fun pk =>
        ⟨⟨nofun, nofun, nofun⟩, hfits 5 (by simp), nofun, nofun, nofun, nofun⟩⟩
    · exact ⟨6, hsix, fun pk =>
        ⟨⟨nofun, nofun, nofun⟩, hfits 6 (by simp), nofun, nofun, nofun, nofun⟩⟩
  have hone : OneNumeral remotes := by
    intro r hr r' hr' n hn hn'
    rcases hremotes r hr with rfl | rfl <;> rcases hremotes r' hr' with rfl | rfl
    · rfl
    · rw [hfive] at hn
      rw [hsix, ← hn] at hn'
      exact absurd hn' (by decide)
    · rw [hsix] at hn
      rw [hfive, ← hn] at hn'
      exact absurd hn' (by decide)
    · rfl
  obtain ⟨⟨after, created⟩, hrun⟩ := hstable.2 hstorable oneRow 0
  obtain ⟨⟨again, createdAgain⟩, hagain⟩ := hstable.2 hstorable after 1
  obtain ⟨hmatched, -, hrerun⟩ := hstable.1 after created hrun
  obtain ⟨rfl, hsettled⟩ := hrerun hone 1 again createdAgain hagain
  exact ⟨after, created, hrun, hmatched, again, hagain, hsettled⟩

/-- A scope that comes twice updates its row twice. An inbound of a third node gets no row beside
those of two others. Of two numerals of one number, the second run takes the row that the first run
made for the other. And not every digit is one that `int` reads. -/
theorem unstable_topologies :
    (planUpdates (twoRows.ofPanel 1) (sampleRemotes
        [listedInbound "5" "a", listedInbound "5" "a"])).updates.map (fun u => u.inbound.pk) =
      [1, 1] ∧
    ((planUpdates (twoRows.ofPanel 1) (sampleRemotes [listedInbound "5" "c"])).skipped.map
        TopologySkip.reason = [.notUnique] ∧
      (syncTopology plainTexts sampleSync (sampleRemotes [listedInbound "5" "c"])
        twoRows).toOption.map (fun result => result.1.rows) = some twoRows.rows) ∧
    (keysAfter [listedInbound "5" "b", listedInbound "5" "c", listedInbound "05" "b"] noRows =
        some ["1:b:05"] ∧
      keysAfterTwo [listedInbound "5" "b", listedInbound "5" "c", listedInbound "05" "b"] noRows =
        some ["1:b:5"]) ∧
    (isDigitText "²" = true ∧ keysAfter [listedInbound "²" ""] noRows = none) := by
  refine ⟨?_, ⟨?_, ?_⟩, ⟨?_, ?_⟩, ?_, ?_⟩ <;> decide +kernel

end Qasedak.Panels
