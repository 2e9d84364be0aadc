import Qasedak.Reconciliation.SoundChecks

/-! `soft_delete_remote_missing_clients`: the clients that a recent check missed on their
panel are checked again, and those that are missed again are deleted in the shop. It deletes only
such clients, and changes no other client but in the record of its last check. -/

namespace Qasedak.Reconciliation

open Foundation Store Orders Panels

/-! ## The deletion of one client -/

/-- `VPNClient.mark_deleted`. -/
def markDeleted (c : VPNClient) : VPNClient :=
  { c with
    status := .deleted
    isSoftDeleted := true
    subLink := ""
    directLink := "" }

theorem markDeleted_pk (c : VPNClient) : (markDeleted c).pk = c.pk := rfl

/-- A text of the order is cleared where it is the deleted client's. -/
def clearIfSame (old : String) (value : Option String) : Option String :=
  if old ≠ "" ∧ value = some old then some "" else value

/-- What `cleanup_vpn_client_related_records` does to the order of the client. -/
def clearClientLinks (c : VPNClient) (o : Order) : Order :=
  { o with
    uuid := clearIfSame (c.uuid.getD "") o.uuid
    directLink := clearIfSame c.directLink o.directLink
    subLink := clearIfSame c.subLink o.subLink }

/-- `mark_local_vpn_client_deleted`; none where the row is gone. -/
def markLocalVpnClientDeleted (k : ℕ) (db : Db) : Option Db :=
  (db.clients.get? k).map fun c =>
    let marked := db.setClient k markDeleted fun _ => rfl
    match c.order with
    | none => marked
    | some o => marked.setOrder o (clearClientLinks c) fun _ => rfl

/-! ## The cleanup -/

/-- What surrounds a cleanup: what others write to the shop between its steps, the panel's
answers, the transactions that fail with an error, and the times. -/
structure Surroundings where
  startedAt : Instant
  beforeCheck : Db → Db := id
  batch : Batch
  visits : ScopeKey → Visit
  beforeDecision : Db → Db := id
  decidedAt : Instant
  beforeDeletion : ℕ → Db → Db := fun _ => id
  failure : ℕ → Option String := fun _ => none

/-- The clients of some ids that are not deleted. -/
def undeletedClients (db : Db) (ids : List ℕ) : List VPNClient :=
  db.clients.rows.filter fun c => ids.contains c.pk && !c.isDeleted

/-- `eligible_ids`. -/
def eligibleIds (db : Db) (now : Instant) (ids : List ℕ) : List ℕ :=
  ((undeletedClients db ids).filter (remoteStatusIsCleanupEligible db · now)).map (·.pk)

/-- `revalidate_missing_clients`. -/
def revalidateMissingClients (rt : Runtime) (s : Surroundings) (ids : List ℕ) (db : Db) :
    ReconciliationRun :=
  reconcileVpnClients rt s.visits true s.batch (fun c => ids.contains c.pk) db

/-- Where the loop over the candidates stands. -/
structure Deletions where
  db : Db
  deleted : List ℕ := []
  blocked : ℕ
  errors : List String := []

/-- The transaction that deletes a client, with the text of its error. -/
def deleteClient (s : Surroundings) (k : ℕ) (db : Db) : Except String Db :=
  match s.failure k with
  | some error => .error error
  | none =>
      match markLocalVpnClientDeleted k db with
      | none => .error "VPNClient matching query does not exist."
      | some db' => .ok db'

/-- One candidate, as it was read again. -/
def deleteCandidate (rt : Runtime) (s : Surroundings) (reread : Db) (d : Deletions)
    (c : VPNClient) : Deletions :=
  if remoteStatusIsCleanupEligible reread c s.decidedAt then
    let db := s.beforeDeletion c.pk d.db
    match deleteClient s c.pk db with
    | .ok db' => { d with db := db', deleted := d.deleted ++ [c.pk] }
    | .error error =>
        { d with
          db := db
          blocked := d.blocked + 1
          errors := d.errors ++ [rt.safeError (((clientInbound reread c).map (·.2.pk)).getD 0) error] }
  else { d with blocked := d.blocked + 1 }

/-- What a cleanup returns and leaves behind. -/
structure CleanupRun where
  db : Db
  requested : ℕ
  /-- The clients that were deleted, in the order of the deletions. -/
  deleted : List ℕ := []
  blocked : ℕ := 0
  revalidated : Option ReconciliationRun := none
  errors : List String := []

/-- The shop that the revalidation finds. -/
def checkedDb (s : Surroundings) (db : Db) : Db := s.beforeCheck db

/-- The shop in which the candidates are read again. -/
def rereadDb (s : Surroundings) (run : ReconciliationRun) : Db := s.beforeDecision run.db

/-- `soft_delete_remote_missing_clients`. -/
def softDeleteRemoteMissingClients (rt : Runtime) (s : Surroundings) (ids : List ℕ) (db : Db) :
    CleanupRun :=
  if ids = [] then { db := db, requested := 0 }
  else
    let eligible := eligibleIds db s.startedAt ids
    let initiallyBlocked := ids.length - eligible.length
    if eligible = [] then { db := db, requested := ids.length, blocked := initiallyBlocked }
    else
      let run := revalidateMissingClients rt s eligible (checkedDb s db)
      -- an error that leaves the revalidation leaves the cleanup
      if run.raised then
        { db := run.db, requested := ids.length, revalidated := some run }
      else
        let reread := rereadDb s run
        let d := (undeletedClients reread eligible).foldl (deleteCandidate rt s reread)
          { db := reread, blocked := initiallyBlocked }
        { db := d.db
          requested := ids.length
          deleted := d.deleted
          blocked := d.blocked
          revalidated := some run
          errors := d.errors }

/-! ## What a check does to one row -/

/-- Others neither write the check record of the client nor bring it back once deleted. -/
def KeepsRecord (k : ℕ) (f : Db → Db) : Prop :=
  ∀ db c', (f db).clients.get? k = some c' → ∃ c, db.clients.get? k = some c ∧
    c'.lastRemoteCheck = c.lastRemoteCheck ∧ (c.isDeleted = true → c'.isDeleted = true)

/-- Others leave the row of the client alone. -/
def LeavesRow (k : ℕ) (f : Db → Db) : Prop :=
  ∀ db, (f db).clients.get? k = db.clients.get? k

/-- What the checks of a batch make of the record of one client. -/
def RecordedBy (read : Db) (batch : Batch) (k : ℕ) (checks : List ClientCheck) (c c' : VPNClient) :
    Prop :=
  (∃ check ∈ checks, check.client.pk = k ∧
      c'.lastRemoteCheck = checkRecord read batch check) ∨
    ((∀ check ∈ checks, check.client.pk ≠ k) ∧ c'.lastRemoteCheck = c.lastRemoteCheck)

theorem RecordedBy.append {read : Db} {batch : Batch} {k : ℕ} {checks checks' : List ClientCheck}
    {c c' c'' : VPNClient} (h : RecordedBy read batch k checks c c')
    (h' : RecordedBy read batch k checks' c' c'') :
    RecordedBy read batch k (checks ++ checks') c c'' := by
  rcases h' with ⟨check, hcheck, hk, hrecord⟩ | ⟨hnone', hsame'⟩
  · exact .inl ⟨check, List.mem_append_right _ hcheck, hk, hrecord⟩
  · rcases h with ⟨check, hcheck, hk, hrecord⟩ | ⟨hnone, hsame⟩
    · exact .inl ⟨check, List.mem_append_left _ hcheck, hk, hsame'.trans hrecord⟩
    · refine .inr ⟨fun check hcheck => ?_, hsame'.trans hsame⟩
      rcases List.mem_append.mp hcheck with hcheck | hcheck
      · exact hnone check hcheck
      · exact hnone' check hcheck

theorem get?_persistCheckResult {read db : Db} {batch : Batch} {check : ClientCheck} {k : ℕ}
    {c' : VPNClient} (h : (persistCheckResult read batch db check).clients.get? k = some c') :
    ∃ c, db.clients.get? k = some c ∧ c' = { c with lastRemoteCheck := c'.lastRemoteCheck } ∧
      RecordedBy read batch k [check] c c' := by
  simp only [persistCheckResult, Db.setClient, Table.get?_modify, Option.map_eq_some_iff] at h
  obtain ⟨c, hc, rfl⟩ := h
  refine ⟨c, hc, ?_⟩
  by_cases hk : k = check.client.pk
  · rw [if_pos hk]
    exact ⟨rfl, .inl ⟨check, List.mem_singleton_self check, hk.symm, rfl⟩⟩
  · rw [if_neg hk]
    exact ⟨rfl, .inr ⟨fun d hd => by rw [List.mem_singleton.mp hd]; exact Ne.symm hk, rfl⟩⟩

/-- Persisted checks change the record of a client's last check and nothing else of it. -/
theorem get?_persistChecks {read : Db} {batch : Batch} {k : ℕ} (checks : List ClientCheck)
    {db : Db} {c' : VPNClient}
    (h : (persistChecks true read batch checks db).clients.get? k = some c') :
    ∃ c, db.clients.get? k = some c ∧ c' = { c with lastRemoteCheck := c'.lastRemoteCheck } ∧
      RecordedBy read batch k checks c c' := by
  simp only [persistChecks, ite_true] at h
  induction checks generalizing db with
  | nil => exact ⟨c', h, rfl, .inr ⟨fun _ h => absurd h List.not_mem_nil, rfl⟩⟩
  | cons check checks ih =>
      obtain ⟨c₁, hc₁, hsame₁, hrecord₁⟩ := ih h
      obtain ⟨c, hc, hsame, hrecord⟩ := get?_persistCheckResult hc₁
      refine ⟨c, hc, ?_, hrecord.append hrecord₁⟩
      rw [hsame₁, hsame]

/-- The groups of a check, with others writing meanwhile: what becomes of the record of a
client that they do not record themselves. -/
theorem checkGroups_record {rt : Runtime} {visits : ScopeKey → Visit} {read : Db} {batch : Batch}
    {k : ℕ} (hvisits : ∀ key, KeepsRecord k (visits key).meanwhile)
    (groups : List (ScopeKey × List VPNClient)) {db : Db} {c' : VPNClient}
    (h : (checkGroups rt visits true read batch groups db).db.clients.get? k = some c') :
    ∃ c, db.clients.get? k = some c ∧ (c.isDeleted = true → c'.isDeleted = true) ∧
      RecordedBy read batch k (checkGroups rt visits true read batch groups db).checks c c' := by
  induction groups generalizing db with
  | nil => exact ⟨c', h, id, .inr ⟨fun _ h => absurd h List.not_mem_nil, rfl⟩⟩
  | cons g groups ih =>
      simp only [checkGroups] at h ⊢
      cases hg : checkGroup rt read ((visits g.1).meanwhile db) g.2 (visits g.1).answer with
      | none =>
          simp only [hg] at h ⊢
          obtain ⟨c, hc, hrecord, hdeleted⟩ := hvisits g.1 db c' h
          exact ⟨c, hc, hdeleted, .inr ⟨fun _ h => absurd h List.not_mem_nil, hrecord⟩⟩
      | some r =>
          simp only [hg] at h ⊢
          obtain ⟨c₂, hc₂, hdeleted₂, hrecord₂⟩ := ih h
          obtain ⟨c₁, hc₁, hsame₁, hrecord₁⟩ := get?_persistChecks r.1 hc₂
          obtain ⟨c, hc, hrecord, hdeleted⟩ := hvisits g.1 db c₁ hc₁
          have hsame : RecordedBy read batch k [] c c₁ :=
            .inr ⟨fun _ h => absurd h List.not_mem_nil, hrecord⟩
          refine ⟨c, hc, fun hdel => hdeleted₂ ?_, (hsame.append hrecord₁).append hrecord₂⟩
          rw [hsame₁]
          exact hdeleted hdel

/-- A client without the record of its last check. -/
def withoutCheck (c : VPNClient) : VPNClient := { c with lastRemoteCheck := {} }

/-- A row is as it was but for the record of its last check, and altogether where no check
is about it. -/
def RowKept (k : ℕ) (checks : List ClientCheck) (db db' : Db) : Prop :=
  (db'.clients.get? k).map withoutCheck = (db.clients.get? k).map withoutCheck ∧
    ((∀ check ∈ checks, check.client.pk ≠ k) → db'.clients.get? k = db.clients.get? k)

theorem RowKept.append {k : ℕ} {checks checks' : List ClientCheck} {db db' db'' : Db}
    (h : RowKept k checks db db') (h' : RowKept k checks' db' db'') :
    RowKept k (checks ++ checks') db db'' := by
  refine ⟨h'.1.trans h.1, fun hnone => ?_⟩
  have hfirst := h.2 fun check hcheck => hnone check (List.mem_append_left _ hcheck)
  have hsecond := h'.2 fun check hcheck => hnone check (List.mem_append_right _ hcheck)
  exact hsecond.trans hfirst

theorem rowKept_persistCheckResult (k : ℕ) (read db : Db) (batch : Batch) (check : ClientCheck) :
    RowKept k [check] db (persistCheckResult read batch db check) := by
  have hget : (persistCheckResult read batch db check).clients.get? k =
      (db.clients.get? k).map fun c => if k = check.client.pk then
        { c with lastRemoteCheck := checkRecord read batch check } else c := by
    simp only [persistCheckResult, Db.setClient, Table.get?_modify]
  rw [RowKept, hget]
  by_cases hk : k = check.client.pk
  · refine ⟨?_, fun hnone => absurd hk.symm (hnone check (List.mem_singleton_self check))⟩
    simp only [if_pos hk, Option.map_map]
    rfl
  · simp [if_neg hk]

theorem rowKept_persistChecks (k : ℕ) (persist : Bool) (read : Db) (batch : Batch)
    (checks : List ClientCheck) (db : Db) :
    RowKept k checks db (persistChecks persist read batch checks db) := by
  unfold persistChecks
  split
  · induction checks generalizing db with
    | nil => exact ⟨rfl, fun _ => rfl⟩
    | cons check checks ih =>
        exact (rowKept_persistCheckResult k read db batch check).append
          (ih (persistCheckResult read batch db check))
  · exact ⟨rfl, fun _ => rfl⟩

/-- The groups of a check leave a row alone but for the record of its last check. -/
theorem rowKept_checkGroups {rt : Runtime} {visits : ScopeKey → Visit} {persist : Bool} {read : Db}
    {batch : Batch} {k : ℕ} (hvisits : ∀ key, LeavesRow k (visits key).meanwhile)
    (groups : List (ScopeKey × List VPNClient)) (db : Db) :
    RowKept k (checkGroups rt visits persist read batch groups db).checks db
      (checkGroups rt visits persist read batch groups db).db := by
  induction groups generalizing db with
  | nil => exact ⟨rfl, fun _ => rfl⟩
  | cons g groups ih =>
      have hvisit : RowKept k [] db ((visits g.1).meanwhile db) := by
        refine ⟨?_, fun _ => hvisits g.1 db⟩
        rw [hvisits g.1 db]
      simp only [checkGroups]
      cases hg : checkGroup rt read ((visits g.1).meanwhile db) g.2 (visits g.1).answer with
      | none => exact hvisit
      | some r => exact (hvisit.append (rowKept_persistChecks k persist read batch r.1 _)).append (ih _)

/-! ## Who is checked -/

/-- Every check is that of a client of its group. -/
theorem checkGroups_clients {rt : Runtime} {visits : ScopeKey → Visit} {persist : Bool} {read : Db}
    {batch : Batch} {groups : List (ScopeKey × List VPNClient)}
    (hkeys : ∀ g ∈ groups, ∀ c ∈ g.2, scopeKeyForClient read c = some g.1) (db : Db) :
    (∀ check ∈ (checkGroups rt visits persist read batch groups db).checks,
        ∃ g ∈ groups, check.client ∈ g.2) ∧
      ((checkGroups rt visits persist read batch groups db).raised = false →
        ∀ g ∈ groups, ∀ c ∈ g.2,
          ∃ check ∈ (checkGroups rt visits persist read batch groups db).checks,
            check.client = c) := by
  induction groups generalizing db with
  | nil => simp [checkGroups]
  | cons g groups ih =>
      have hg2 := hkeys g List.mem_cons_self
      simp only [checkGroups]
      cases hg : checkGroup rt read ((visits g.1).meanwhile db) g.2 (visits g.1).answer with
      | none =>
          refine ⟨fun _ h => absurd h List.not_mem_nil, fun h => ?_⟩
          cases h
      | some r =>
          obtain ⟨hfrom, hall⟩ := ih (fun g' hg' => hkeys g' (List.mem_cons_of_mem _ hg'))
            (persistChecks persist read batch r.1 ((visits g.1).meanwhile db))
          refine ⟨fun check hcheck => ?_, fun hraised g' hg' c hc => ?_⟩
          · rcases List.mem_append.mp hcheck with hcheck | hcheck
            · exact ⟨g, List.mem_cons_self, (checkGroup_mem hg2 hg hcheck).1⟩
            · obtain ⟨g', hg', hclient⟩ := hfrom check hcheck
              exact ⟨g', List.mem_cons_of_mem _ hg', hclient⟩
          · rcases List.mem_cons.mp hg' with rfl | hg'
            · obtain ⟨check, hcheck, hclient⟩ := exists_check_of_checkGroup hg2 hg hc
              exact ⟨check, List.mem_append_left _ hcheck, hclient⟩
            · obtain ⟨check, hcheck, hclient⟩ := hall hraised g' hg' c hc
              exact ⟨check, List.mem_append_right _ hcheck, hclient⟩

section Reconcile

variable {rt : Runtime} {visits : ScopeKey → Visit} {batch : Batch}
  {queryset : VPNClient → Bool} {db : Db}

theorem mem_candidates {c : VPNClient} :
    c ∈ buildReconciliationCandidates db queryset ↔
      c ∈ db.clients.rows ∧ queryset c = true ∧ c.isDeleted = false := by
  simp [buildReconciliationCandidates]

/-- A check is that of one of the clients that were to be checked. -/
theorem reconcile_clients {check : ClientCheck}
    (h : check ∈ (reconcileVpnClients rt visits true batch queryset db).checks) :
    check.client ∈ buildReconciliationCandidates db queryset := by
  have hgroups := groupsOf_groupOn (scopeKeyForClient db)
    (buildReconciliationCandidates db queryset)
  rcases List.mem_append.mp h with h | h
  · obtain ⟨c, hc, rfl⟩ := List.mem_map.mp h
    exact (List.mem_filter.mp hc).1
  · obtain ⟨g, hg, hclient⟩ :=
      (checkGroups_clients (fun g hg c hc => (hgroups.mem hg hc).2) _).1 check h
    exact (hgroups.mem hg hclient).1

/-- A check that no error leaves checks every client that it was to check. -/
theorem reconcile_checks_all
    (hraised : (reconcileVpnClients rt visits true batch queryset db).raised = false)
    {c : VPNClient} (hc : c ∈ buildReconciliationCandidates db queryset) :
    ∃ check ∈ (reconcileVpnClients rt visits true batch queryset db).checks, check.client = c := by
  have hgroups := groupsOf_groupOn (scopeKeyForClient db)
    (buildReconciliationCandidates db queryset)
  cases hkey : scopeKeyForClient db c with
  | none =>
      refine ⟨unscopedCheck c, List.mem_append_left _ (List.mem_map_of_mem ?_), rfl⟩
      exact List.mem_filter.mpr ⟨hc, by simp [hkey]⟩
  | some key =>
      obtain ⟨g, hg, -, hcg⟩ := hgroups.exists_group hc hkey
      obtain ⟨check, hcheck, hclient⟩ :=
        (checkGroups_clients (fun g hg c hc => (hgroups.mem hg hc).2) _).2 hraised g hg c hcg
      exact ⟨check, List.mem_append_right _ hcheck, hclient⟩

theorem reconcile_record {k : ℕ} (hvisits : ∀ key, KeepsRecord k (visits key).meanwhile)
    {c' : VPNClient}
    (h : (reconcileVpnClients rt visits true batch queryset db).db.clients.get? k = some c') :
    ∃ c, db.clients.get? k = some c ∧ (c.isDeleted = true → c'.isDeleted = true) ∧
      RecordedBy db batch k (reconcileVpnClients rt visits true batch queryset db).checks c c' := by
  obtain ⟨c₁, hc₁, hdeleted, hrecord₁⟩ := checkGroups_record hvisits _ h
  obtain ⟨c, hc, hsame, hrecord⟩ := get?_persistChecks _ hc₁
  refine ⟨c, hc, fun hdel => hdeleted ?_, hrecord.append hrecord₁⟩
  rw [hsame]
  exact hdel

theorem rowKept_reconcile {k : ℕ} (hvisits : ∀ key, LeavesRow k (visits key).meanwhile) :
    RowKept k (reconcileVpnClients rt visits true batch queryset db).checks db
      (reconcileVpnClients rt visits true batch queryset db).db :=
  (rowKept_persistChecks k true db batch _ db).append (rowKept_checkGroups hvisits _ _)

end Reconcile

/-! ## The deletions -/

/-- The clients that are to be decided on were eligible, and their keys are those ids. -/
theorem mem_undeletedClients {db : Db} {ids : List ℕ} {c : VPNClient} :
    c ∈ undeletedClients db ids ↔ c ∈ db.clients.rows ∧ c.pk ∈ ids ∧ c.isDeleted = false := by
  simp [undeletedClients]

theorem mem_eligibleIds {db : Db} {now : Instant} {ids : List ℕ} {k : ℕ} :
    k ∈ eligibleIds db now ids ↔ k ∈ ids ∧ ∃ c, db.clients.get? k = some c ∧
      c.isDeleted = false ∧ remoteStatusIsCleanupEligible db c now = true := by
  simp only [eligibleIds, List.mem_map, List.mem_filter, mem_undeletedClients]
  constructor
  · rintro ⟨c, ⟨⟨hrow, hid, hdeleted⟩, heligible⟩, rfl⟩
    exact ⟨hid, c, Table.get?_eq_some_iff.mpr ⟨hrow, rfl⟩, hdeleted, heligible⟩
  · rintro ⟨hid, c, hc, hdeleted, heligible⟩
    obtain ⟨hrow, rfl⟩ := Table.mem_of_get? hc
    exact ⟨c, ⟨⟨hrow, hid, hdeleted⟩, heligible⟩, rfl⟩

theorem nodup_undeletedClients (db : Db) (ids : List ℕ) :
    ((undeletedClients db ids).map (·.pk)).Nodup :=
  db.clients.keys_nodup.sublist (List.filter_sublist.map _)

theorem nodup_eligibleIds (db : Db) (now : Instant) (ids : List ℕ) :
    (eligibleIds db now ids).Nodup :=
  (nodup_undeletedClients db ids).sublist (List.filter_sublist.map _)

theorem get?_setClient_of_ne {db : Db} {j k : ℕ} {f : VPNClient → VPNClient}
    {hf : ∀ c, (f c).pk = c.pk} (hk : k ≠ j) :
    (db.setClient j f hf).clients.get? k = db.clients.get? k := by
  rw [Db.setClient, Table.get?_modify]
  simp [hk]

/-- The deletion of a client changes its row and no other. -/
theorem get?_markLocalVpnClientDeleted {j k : ℕ} {db db' : Db}
    (h : markLocalVpnClientDeleted j db = some db') (hk : k ≠ j) :
    db'.clients.get? k = db.clients.get? k := by
  obtain ⟨c, -, rfl⟩ := Option.map_eq_some_iff.mp h
  cases horder : c.order with
  | none =>
      exact get?_setClient_of_ne hk
  | some o =>
      change (db.setClient j markDeleted fun _ => rfl).clients.get? k = _
      exact get?_setClient_of_ne hk

theorem deleteClient_ok {s : Surroundings} {k : ℕ} {db db' : Db}
    (h : deleteClient s k db = .ok db') : markLocalVpnClientDeleted k db = some db' := by
  unfold deleteClient at h
  split at h
  · cases h
  · split at h
    · cases h
    · rename_i hmark
      rw [hmark, Except.ok.inj h]

/-- What one candidate adds: it is deleted if it is eligible again, or counted as blocked. -/
theorem deleteCandidate_step (rt : Runtime) (s : Surroundings) (reread : Db) (d : Deletions)
    (c : VPNClient) :
    (remoteStatusIsCleanupEligible reread c s.decidedAt = true ∧
        (deleteCandidate rt s reread d c).deleted = d.deleted ++ [c.pk] ∧
        (deleteCandidate rt s reread d c).blocked = d.blocked ∧
        markLocalVpnClientDeleted c.pk (s.beforeDeletion c.pk d.db) =
          some (deleteCandidate rt s reread d c).db) ∨
      ((deleteCandidate rt s reread d c).deleted = d.deleted ∧
        (deleteCandidate rt s reread d c).blocked = d.blocked + 1 ∧
        ((deleteCandidate rt s reread d c).db = d.db ∨
          (deleteCandidate rt s reread d c).db = s.beforeDeletion c.pk d.db)) := by
  unfold deleteCandidate
  by_cases h : remoteStatusIsCleanupEligible reread c s.decidedAt = true
  · simp only [if_pos h]
    cases hdelete : deleteClient s c.pk (s.beforeDeletion c.pk d.db) with
    | ok db' => exact .inl ⟨h, rfl, rfl, deleteClient_ok hdelete⟩
    | error e => exact .inr ⟨rfl, rfl, .inr rfl⟩
  · rw [if_neg h]
    exact .inr ⟨rfl, rfl, .inl rfl⟩

/-- What the loop over the candidates adds. -/
theorem deleteCandidates_run (rt : Runtime) (s : Surroundings) (reread : Db)
    (cs : List VPNClient) (d : Deletions) :
    (∀ k ∈ (cs.foldl (deleteCandidate rt s reread) d).deleted, k ∈ d.deleted ∨
        ∃ c ∈ cs, c.pk = k ∧ remoteStatusIsCleanupEligible reread c s.decidedAt = true) ∧
      d.deleted ⊆ (cs.foldl (deleteCandidate rt s reread) d).deleted ∧
      (cs.foldl (deleteCandidate rt s reread) d).deleted.length +
          (cs.foldl (deleteCandidate rt s reread) d).blocked =
        d.deleted.length + d.blocked + cs.length ∧
      ∀ k, (∀ j, LeavesRow k (s.beforeDeletion j)) →
        k ∉ (cs.foldl (deleteCandidate rt s reread) d).deleted →
        (cs.foldl (deleteCandidate rt s reread) d).db.clients.get? k = d.db.clients.get? k := by
  induction cs generalizing d with
  | nil => exact ⟨fun k hk => .inl hk, fun _ h => h, rfl, fun _ _ _ => rfl⟩
  | cons c cs ih =>
      obtain ⟨hfrom, hsub, hcount, hrow⟩ := ih (deleteCandidate rt s reread d c)
      simp only [List.foldl_cons, List.length_cons]
      rcases deleteCandidate_step rt s reread d c with
        ⟨heligible, hdeleted, hblocked, hmark⟩ | ⟨hdeleted, hblocked, hdb⟩
      · rw [hdeleted] at hfrom hsub hcount
        rw [hblocked] at hcount
        refine ⟨fun k hk => ?_, fun k hk => hsub (List.mem_append_left _ hk), ?_, ?_⟩
        · rcases hfrom k hk with hk | ⟨c', hc', hpk⟩
          · rcases List.mem_append.mp hk with hk | hk
            · exact .inl hk
            · exact .inr ⟨c, List.mem_cons_self, (List.mem_singleton.mp hk).symm, heligible⟩
          · exact .inr ⟨c', List.mem_cons_of_mem _ hc', hpk⟩
        · rw [hcount, List.length_append, List.length_singleton]
          omega
        · intro k hleaves hk
          have hne : k ≠ c.pk := by
            rintro rfl
            exact hk (hsub (List.mem_append_right _ (List.mem_singleton_self _)))
          rw [hrow k hleaves hk, get?_markLocalVpnClientDeleted hmark hne, hleaves c.pk]
      · rw [hdeleted] at hfrom hsub hcount
        rw [hblocked] at hcount
        refine ⟨fun k hk => ?_, hsub, ?_, ?_⟩
        · rcases hfrom k hk with hk | ⟨c', hc', hpk⟩
          · exact .inl hk
          · exact .inr ⟨c', List.mem_cons_of_mem _ hc', hpk⟩
        · rw [hcount]
          omega
        · intro k hleaves hk
          rw [hrow k hleaves hk]
          rcases hdb with hdb | hdb
          · rw [hdb]
          · rw [hdb, hleaves c.pk]

/-! ## The cleanup -/

/-- What a cleanup shows of a client that it deleted: the stored check it started from, the
row that it decided on, and the check of its own in between. -/
structure DeletedOnEvidence (rt : Runtime) (s : Surroundings) (db : Db) (checks : ReconciliationRun)
    (k : ℕ) : Prop where
  before : ∃ c, db.clients.get? k = some c ∧ c.isDeleted = false ∧
    remoteStatusIsCleanupEligible db c s.startedAt = true
  again : ∃ c, (rereadDb s checks).clients.get? k = some c ∧ c.isDeleted = false ∧
    remoteStatusIsCleanupEligible (rereadDb s checks) c s.decidedAt = true ∧
    ((∀ key, KeepsRecord k (s.visits key).meanwhile) → KeepsRecord k s.beforeDecision →
      ∃ check ∈ checks.checks, (checkedDb s db).clients.get? k = some check.client ∧
        check.status = .remoteMissing ∧
        safeRemoteScope (checkedDb s db) check.client = safeRemoteScope (rereadDb s checks) c)

/-- The row that is decided on carries the record of the cleanup's own check. -/
theorem own_check {rt : Runtime} {s : Surroundings} {ids : List ℕ} {db : Db} {k : ℕ}
    {c : VPNClient} (hk : k ∈ ids)
    (hraised : (revalidateMissingClients rt s ids (checkedDb s db)).raised = false)
    (hc : (rereadDb s (revalidateMissingClients rt s ids (checkedDb s db))).clients.get? k = some c)
    (hdeleted : c.isDeleted = false)
    (heligible : remoteStatusIsCleanupEligible
      (rereadDb s (revalidateMissingClients rt s ids (checkedDb s db))) c s.decidedAt = true)
    (hvisits : ∀ key, KeepsRecord k (s.visits key).meanwhile)
    (hdecision : KeepsRecord k s.beforeDecision) :
    ∃ check ∈ (revalidateMissingClients rt s ids (checkedDb s db)).checks,
      (checkedDb s db).clients.get? k = some check.client ∧ check.status = .remoteMissing ∧
      safeRemoteScope (checkedDb s db) check.client =
        safeRemoteScope (rereadDb s (revalidateMissingClients rt s ids (checkedDb s db))) c := by
  obtain ⟨c₁, hc₁, hrecord₁, hback₁⟩ := hdecision _ c hc
  obtain ⟨c₀, hc₀, hback₀, hrecord₀⟩ := reconcile_record hvisits hc₁
  -- it was not deleted when the check read it, so it was checked
  have hdeleted₀ : c₀.isDeleted = false := by
    rw [← Bool.not_eq_true]
    intro h
    rw [hback₁ (hback₀ h)] at hdeleted
    cases hdeleted
  obtain ⟨hrow₀, hpk₀⟩ := Table.mem_of_get? hc₀
  have hcandidate : c₀ ∈ buildReconciliationCandidates (checkedDb s db) fun d => ids.contains d.pk :=
    mem_candidates.mpr ⟨hrow₀, by simpa [hpk₀] using hk, hdeleted₀⟩
  obtain ⟨own, hown, hclient⟩ := reconcile_checks_all hraised hcandidate
  simp only [remoteStatusIsCleanupEligible, Bool.and_eq_true, decide_eq_true_eq,
    remoteScopeMatchesLatestCheck] at heligible
  obtain ⟨⟨hstatus, -⟩, -, hscope⟩ := heligible
  rcases hrecord₀ with ⟨check, hcheck, hcheckk, hrecord⟩ | ⟨hnone, -⟩
  · have hread := mem_candidates.mp (reconcile_clients hcheck)
    rw [hrecord₁, hrecord] at hstatus hscope
    exact ⟨check, hcheck, Table.get?_eq_some_iff.mpr ⟨hread.1, hcheckk⟩, hstatus, hscope⟩
  · exact absurd (by rw [hclient, hpk₀]) (hnone own hown)

/-- What a cleanup does, by its branches. -/
theorem softDelete_cases (rt : Runtime) (s : Surroundings) (ids : List ℕ) (db : Db) :
    let run := softDeleteRemoteMissingClients rt s ids db
    let eligible := eligibleIds db s.startedAt ids
    let checks := revalidateMissingClients rt s eligible (checkedDb s db)
    run.requested = ids.length ∧
    ((run.db = db ∧ run.deleted = [] ∧ run.revalidated = none ∧ run.blocked = ids.length) ∨
      (checks.raised = true ∧ run.db = checks.db ∧ run.deleted = [] ∧
        run.revalidated = some checks) ∨
      (checks.raised = false ∧ run.revalidated = some checks ∧
        ∃ d, d = (undeletedClients (rereadDb s checks) eligible).foldl
            (deleteCandidate rt s (rereadDb s checks))
            { db := rereadDb s checks, blocked := ids.length - eligible.length } ∧
          run.db = d.db ∧ run.deleted = d.deleted ∧ run.blocked = d.blocked)) := by
  intro run eligible checks
  by_cases hids : ids = []
  · have hrun : run = { db := db, requested := 0 } := if_pos hids
    rw [hrun, hids]
    exact ⟨rfl, .inl ⟨rfl, rfl, rfl, rfl⟩⟩
  have hrun : run = if eligible = [] then
      { db := db, requested := ids.length, blocked := ids.length - eligible.length } else _ :=
    if_neg hids
  by_cases heligible : eligible = []
  · rw [if_pos heligible, heligible] at hrun
    rw [hrun]
    exact ⟨rfl, .inl ⟨rfl, rfl, rfl, Nat.sub_zero _⟩⟩
  rw [if_neg heligible] at hrun
  cases hraised : checks.raised with
  | true =>
      rw [if_pos hraised] at hrun
      rw [hrun]
      exact ⟨rfl, .inr (.inl ⟨rfl, rfl, rfl, rfl⟩)⟩
  | false =>
      rw [if_neg (by rw [hraised]; exact Bool.false_ne_true)] at hrun
      rw [hrun]
      exact ⟨rfl, .inr (.inr ⟨rfl, rfl, _, rfl, rfl, rfl, rfl⟩)⟩

/-- The eligible clients that are read again, where none was deleted meanwhile. -/
theorem length_undeletedClients {db : Db} {ids : List ℕ} (hnodup : ids.Nodup)
    (h : ∀ k ∈ ids, ∃ c, db.clients.get? k = some c ∧ c.isDeleted = false) :
    (undeletedClients db ids).length = ids.length := by
  have hperm : ((undeletedClients db ids).map (·.pk)).Perm ids := by
    refine (List.perm_ext_iff_of_nodup (nodup_undeletedClients db ids) hnodup).mpr fun k => ?_
    constructor
    · intro hk
      obtain ⟨c, hc, rfl⟩ := List.mem_map.mp hk
      exact (mem_undeletedClients.mp hc).2.1
    · intro hk
      obtain ⟨c, hc, hdeleted⟩ := h k hk
      obtain ⟨hrow, rfl⟩ := Table.mem_of_get? hc
      exact List.mem_map.mpr ⟨c, mem_undeletedClients.mpr ⟨hrow, hk, hdeleted⟩, rfl⟩
  simpa using hperm.length_eq

/-- Whatever others do between its steps, a cleanup deletes only clients that were missed by
a fresh check of their scope before it and again when it decides; that second record is of
the cleanup's own check, unless others write it or bring the client back. Other clients
keep their rows but for the record of the cleanup's check. Every requested id is deleted or
blocked, unless others delete an eligible one meanwhile. -/
theorem cleanup_on_two_checks (rt : Runtime) (s : Surroundings) (ids : List ℕ) (db : Db) :
    let run := softDeleteRemoteMissingClients rt s ids db
    let eligible := eligibleIds db s.startedAt ids
    (∀ k ∈ run.deleted, k ∈ ids ∧
        ∃ checks, run.revalidated = some checks ∧ DeletedOnEvidence rt s db checks k) ∧
      (∀ k, k ∉ run.deleted → LeavesRow k s.beforeCheck →
        (∀ key, LeavesRow k (s.visits key).meanwhile) → LeavesRow k s.beforeDecision →
        (∀ j, LeavesRow k (s.beforeDeletion j)) →
        (run.db.clients.get? k).map withoutCheck = (db.clients.get? k).map withoutCheck ∧
          (k ∉ eligible → run.db.clients.get? k = db.clients.get? k)) ∧
      ((∀ checks, run.revalidated = some checks → checks.raised = false ∧
          ∀ k ∈ eligible, ∃ c, (rereadDb s checks).clients.get? k = some c ∧
            c.isDeleted = false) →
        run.requested = run.deleted.length + run.blocked) := by
  intro run eligible
  obtain ⟨hrequested, hbranch⟩ := softDelete_cases rt s ids db
  have hkept : ∀ k, LeavesRow k s.beforeCheck → (∀ key, LeavesRow k (s.visits key).meanwhile) →
      let checks := revalidateMissingClients rt s eligible (checkedDb s db)
      (checks.db.clients.get? k).map withoutCheck = (db.clients.get? k).map withoutCheck ∧
        (k ∉ eligible → checks.db.clients.get? k = db.clients.get? k) := by
    intro k hcheck hvisits checks
    have hrow : RowKept k checks.checks (checkedDb s db) checks.db := rowKept_reconcile hvisits
    rw [RowKept, checkedDb, hcheck db] at hrow
    refine ⟨hrow.1, fun hk => hrow.2 fun check hmem heq => hk ?_⟩
    have hread := mem_candidates.mp (reconcile_clients hmem)
    simpa [heq] using hread.2.1
  rcases hbranch with ⟨hdb, hdeleted, hnone, hblocked⟩ | ⟨hraised, hdb, hdeleted, hsome⟩ |
    ⟨hraised, hsome, d, hd, hdb, hdeleted, hblocked⟩
  · refine ⟨?_, ?_, ?_⟩
    · rw [hdeleted]
      exact fun k hk => (nomatch hk)
    · rw [hdb]
      exact fun k _ _ _ _ _ => ⟨rfl, fun _ => rfl⟩
    · intro _
      rw [hrequested, hdeleted, hblocked, List.length_nil, Nat.zero_add]
  · refine ⟨?_, ?_, ?_⟩
    · rw [hdeleted]
      exact fun k hk => (nomatch hk)
    · intro k _ hcheck hvisits _ _
      rw [hdb]
      exact hkept k hcheck hvisits
    · intro h
      rw [(h _ hsome).1] at hraised
      cases hraised
  · obtain ⟨hfrom, -, hcount, hrow⟩ := deleteCandidates_run rt s
      (rereadDb s (revalidateMissingClients rt s eligible (checkedDb s db)))
      (undeletedClients (rereadDb s (revalidateMissingClients rt s eligible (checkedDb s db)))
        eligible)
      { db := rereadDb s (revalidateMissingClients rt s eligible (checkedDb s db))
        blocked := ids.length - eligible.length }
    rw [← hd, ← hdeleted] at hfrom
    rw [← hd, ← hdeleted, ← hblocked] at hcount
    rw [← hd, ← hdeleted, ← hdb] at hrow
    refine ⟨?_, ?_, ?_⟩
    · intro k hk
      rcases hfrom k hk with hk | ⟨c, hc, rfl, hagain⟩
      · cases hk
      · obtain ⟨hmem, hid, hundeleted⟩ := mem_undeletedClients.mp hc
        obtain ⟨hids, hbefore⟩ := mem_eligibleIds.mp hid
        have hget := Table.get?_eq_some_iff.mpr ⟨hmem, rfl⟩
        refine ⟨hids, _, hsome, hbefore, c, hget, hundeleted, hagain, ?_⟩
        intro hvisits hdecision
        exact own_check hid hraised hget hundeleted hagain hvisits hdecision
    · intro k hk hcheck hvisits hdecision hdeletion
      rw [hrow k hdeletion hk]
      simp only [rereadDb, hdecision _]
      exact hkept k hcheck hvisits
    · intro h
      have hlength := length_undeletedClients (nodup_eligibleIds db s.startedAt ids) (h _ hsome).2
      have hle : eligible.length ≤ ids.length :=
        ((nodup_eligibleIds db s.startedAt ids).subperm fun k hk =>
          (mem_eligibleIds.mp hk).1).length_le
      rw [hlength, List.length_nil, Nat.zero_add] at hcount
      rw [hrequested, hcount]
      exact (Nat.sub_add_cancel hle).symm

/-! ## Cleanups that others disturb -/

/-- A service that a check missed. -/
def missedService : VPNClient :=
  { paidService with
    lastRemoteCheck :=
      { status := .remoteMissing
        checkedAt := some 0
        scope := some ⟨2, 5, 7, "", "2:local:7"⟩ } }

def missedShop : Db := { serviceShop with clients := Table.empty.put missedService }

/-- The panel's answer about an inbound with the service's client. -/
def foundAnswer : PanelAnswer :=
  .body (.obj [("success", .bool true), ("obj", .obj [("id", .int 7),
    ("settings", .obj [("clients", .arr [.obj [("id", .str "3f2a")]])])])])

/-- The service is found when it is checked again. -/
def foundAgain : Surroundings where
  startedAt := minutes 10
  batch := ⟨"b", minutes 10⟩
  visits := undisturbed fun _ => foundAnswer
  decidedAt := minutes 11

/-- Somebody else deletes the service before the decision. -/
def deletedMeanwhile : Surroundings :=
  { foundAgain with beforeDecision := fun db => db.setClient 1 markDeleted markDeleted_pk }

/-- Another check, which read the panel earlier, records its result before the decision. -/
def recordedMeanwhile : Surroundings :=
  { foundAgain with
    beforeDecision := fun db => db.setClient 1
      (fun c => { c with lastRemoteCheck := missedService.lastRemoteCheck }) fun _ => rfl }

def cleanupOf (s : Surroundings) : CleanupRun :=
  softDeleteRemoteMissingClients plainRuntime s [1] missedShop

/-- A client that is not deleted gets a new record; one that others deleted is neither
deleted nor blocked; and one that the cleanup's own check found is deleted by the record of
another check. -/
theorem cleanup_disturbed :
    ((cleanupOf foundAgain).deleted = [] ∧
      (cleanupOf foundAgain).db.clients.get? 1 ≠ missedShop.clients.get? 1) ∧
    ((cleanupOf deletedMeanwhile).requested = 1 ∧ (cleanupOf deletedMeanwhile).deleted = [] ∧
      (cleanupOf deletedMeanwhile).blocked = 0) ∧
    (cleanupOf recordedMeanwhile).deleted = [1] ∧
      ((cleanupOf recordedMeanwhile).revalidated.map (·.checks.map (·.status))) =
        some [.remoteActive] := by
  decide +kernel

end Qasedak.Reconciliation
