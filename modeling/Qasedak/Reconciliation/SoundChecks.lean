import Qasedak.Reconciliation.Evidence

/-! When a check reports a client missing on complete evidence only. -/

namespace Qasedak.Reconciliation

open Foundation Store Orders Panels

/-! ## The inbound that is read for a client -/

theorem clientInbound_eq_some {db : Db} {c : VPNClient} {i : Inbound} {p : Panel}
    (h : clientInbound db c = some (i, p)) :
    db.inbounds.get? i.pk = some i ∧ db.panels.get? i.panel = some p := by
  simp only [clientInbound, Option.bind_eq_some_iff, Option.map_eq_some_iff] at h
  obtain ⟨j, ⟨k, -, hj⟩, q, hq, heq⟩ := h
  obtain ⟨rfl, rfl⟩ := Prod.mk.inj heq
  obtain ⟨hmem, hpk⟩ := Table.mem_of_get? hj
  exact ⟨Table.get?_eq_some_iff.mpr ⟨hmem, rfl⟩, hq⟩

theorem scopeKeyForClient_eq_some {db : Db} {c : VPNClient} {key : ScopeKey}
    (h : scopeKeyForClient db c = some key) :
    ∃ i p, clientInbound db c = some (i, p) ∧ key.inboundPk = i.pk ∧
      key.nodeId = clientNodeId c i := by
  simp only [scopeKeyForClient, Option.bind_eq_some_iff] at h
  obtain ⟨⟨i, p⟩, hi, hkey⟩ := h
  refine ⟨i, p, hi, ?_⟩
  by_cases hzero : i.inboundId = 0
  · simp [hzero] at hkey
  · simp only [if_neg hzero, Option.some.injEq] at hkey
    subst hkey
    exact ⟨rfl, rfl⟩

/-- Clients of one scope have one inbound. -/
theorem clientInbound_congr {db : Db} {c d : VPNClient} {key : ScopeKey}
    (hc : scopeKeyForClient db c = some key) (hd : scopeKeyForClient db d = some key) :
    clientInbound db c = clientInbound db d := by
  obtain ⟨i, p, hi, hpk, -⟩ := scopeKeyForClient_eq_some hc
  obtain ⟨j, q, hj, hpk', -⟩ := scopeKeyForClient_eq_some hd
  obtain ⟨hget, hpanel⟩ := clientInbound_eq_some hi
  obtain ⟨hget', hpanel'⟩ := clientInbound_eq_some hj
  rw [← hpk, hpk', hget'] at hget
  obtain rfl := Option.some.inj hget
  rw [hpanel'] at hpanel
  obtain rfl := Option.some.inj hpanel
  rw [hi, hj]

/-! ## The classification of one client -/

/-- What the read of a scope says about one of its clients. -/
def classify (rt : Runtime) (c : VPNClient) (result : ScopeFetchResult) :
    RemoteCheckStatus × String :=
  if result.status ≠ .remoteActive ∨ ¬ result.complete then (result.status, result.error)
  else matchLocalClientToRemote rt c result.remoteClients

/-- A group's clients are classified one by one, after one read of their inbound. -/
theorem checkGroup_eq {rt : Runtime} {read db : Db} {clients : List VPNClient} {key : ScopeKey}
    {answer : PanelAnswer} {c : VPNClient} {i : Inbound} {p : Panel}
    (hkey : ∀ d ∈ clients, scopeKeyForClient read d = some key) (hc : c ∈ clients)
    (hi : clientInbound read c = some (i, p)) :
    (checkGroup rt read db clients answer).map Prod.fst =
      (fetchRemoteScopeClients rt db p i answer).map fun result =>
        clients.map fun d => ⟨d, (classify rt d result).1, (classify rt d result).2⟩ := by
  cases clients with
  | nil => cases hc
  | cons first rest =>
      have hfirst : clientInbound read first = some (i, p) := by
        rw [← hi]
        exact clientInbound_congr (hkey first List.mem_cons_self) (hkey c hc)
      simp only [checkGroup, List.head?_cons, Option.bind_some, hfirst]
      cases fetchRemoteScopeClients rt db p i answer with
      | none => rfl
      | some result =>
          by_cases hbad : result.status ≠ .remoteActive ∨ ¬ result.complete
          · simp only [Option.map_some, classify, if_pos hbad]
          · simp only [Option.map_some, classify, if_neg hbad]

theorem statusFromException_ne_missing (rt : Runtime) (panel : ℕ) (e : XuiException) :
    (statusFromException rt panel e).1 ≠ .remoteMissing := by
  cases e with
  | other text =>
      simp only [statusFromException]
      split_ifs <;> simp
  | _ => simp [statusFromException]

theorem matchLocal_eq_missing_iff {rt : Runtime} {i : Inbound} {data : JsonObject}
    {c : VPNClient} :
    (matchLocalClientToRemote rt c (remoteRows rt i data)).1 = .remoteMissing ↔
      ¬ (localIdentityValues c = [] ∧ strip c.remoteClientKey = "") ∧
        ¬ NamedInAnswer rt i data c := by
  have hnamed : ¬ NamedInAnswer rt i data c ↔
      (remoteRows rt i data).filter (matchesRow rt c) = [] := by
    simp [NamedInAnswer, List.filter_eq_nil_iff]
  rw [hnamed, matchLocalClientToRemote]
  by_cases hnone : localIdentityValues c = [] ∧ strip c.remoteClientKey = ""
  · simp [hnone]
  · rw [if_neg hnone]
    simp only [hnone, not_false_eq_true, true_and]
    rcases hrows : (remoteRows rt i data).filter (matchesRow rt c) with _ | ⟨row, _ | ⟨row', rows⟩⟩
    · simp
    · simp only [reduceCtorEq, iff_false]
      split_ifs <;> simp
    · simp

/-! ## What one answer must show -/

/-- The answer to the read for a client can be told from a defective one, names the client,
or is complete and of the client's own node. -/
def Trustworthy (rt : Runtime) (i : Inbound) (data : JsonObject) (c : VPNClient) : Prop :=
  settingsClients rt data = none ∨
    (RowsConvert rt data ∧
      ((localIdentityValues c = [] ∧ strip c.remoteClientKey = "") ∨ NamedInAnswer rt i data c ∨
        (clientNodeId c i = strip i.xuiNodeId ∧ CompleteSettings rt data ∧
          CompleteStats rt data ∧ ¬ NamedByMergedUuid rt data c)))

/-- Where the panel answers the read for a client with success, the answer is trustworthy. -/
def ReadTrustworthy (rt : Runtime) (db : Db) (answers : ScopeKey → PanelAnswer) (c : VPNClient) :
    Prop :=
  ∀ i p key v, clientInbound db c = some (i, p) → scopeKeyForClient db c = some key →
    readScope rt db p i (answers key) = .ok v →
    ∃ data, v = .obj data ∧ Trustworthy rt i data c

theorem readScope_ok {rt : Runtime} {db : Db} {p : Panel} {i : Inbound} {answer : PanelAnswer}
    {v : Json} (h : readScope rt db p i answer = .ok v) : getInbound rt answer = .ok v := by
  unfold readScope at h
  split at h
  · cases h
  · exact h

theorem rowsConvert_of_normalize {rt : Runtime} {i : Inbound} {data : JsonObject}
    {r : List RemoteRow × Bool} (h : normalizeRemoteClients rt i data = some r) :
    (settingsClients rt data = none ∧ r = ([], false)) ∨
      (RowsConvert rt data ∧ r = (remoteRows rt i data, true)) := by
  cases hclients : settingsClients rt data with
  | none =>
      rw [normalizeRemoteClients_of_none hclients] at h
      exact .inl ⟨rfl, (Option.some.inj h).symm⟩
  | some items =>
      by_cases hrows : RowsConvert rt data
      · rw [normalizeRemoteClients_of_list hclients hrows] at h
        exact .inr ⟨hrows, (Option.some.inj h).symm⟩
      · rw [normalizeRemoteClients_of_not_convert hclients hrows] at h
        cases h

/-- A client is classified, and as missing on evidence only, exactly where the read for it is
trustworthy. -/
theorem classify_sound_iff {rt : Runtime} {db : Db} {answers : ScopeKey → PanelAnswer}
    {c : VPNClient} {i : Inbound} {p : Panel} {key : ScopeKey}
    (hi : clientInbound db c = some (i, p)) (hkey : scopeKeyForClient db c = some key) :
    (∃ result, fetchRemoteScopeClients rt db p i (answers key) = some result ∧
        ((classify rt c result).1 = .remoteMissing → MissingEvidence rt db answers c)) ↔
      ReadTrustworthy rt db answers c := by
  have hnode : key.nodeId = clientNodeId c i := by
    obtain ⟨j, q, hj, -, hnode⟩ := scopeKeyForClient_eq_some hkey
    obtain ⟨rfl, rfl⟩ := Prod.mk.inj (Option.some.inj (hi.symm.trans hj))
    exact hnode
  constructor
  · rintro ⟨result, hfetch, hsound⟩ i' p' key' v hi' hkey' hread
    obtain ⟨rfl, rfl⟩ := Prod.mk.inj (Option.some.inj (hi.symm.trans hi'))
    obtain rfl := Option.some.inj (hkey.symm.trans hkey')
    simp only [fetchRemoteScopeClients, hread] at hfetch
    cases v with
    | obj data =>
        refine ⟨data, rfl, ?_⟩
        obtain ⟨⟨rows, complete⟩, hnormal, rfl⟩ := Option.map_eq_some_iff.mp hfetch
        rcases rowsConvert_of_normalize hnormal with ⟨hnone, -⟩ | ⟨hrows, heq⟩
        · exact .inl hnone
        · obtain ⟨rfl, rfl⟩ := Prod.mk.inj heq
          refine .inr ⟨hrows, ?_⟩
          by_cases hnoid : localIdentityValues c = [] ∧ strip c.remoteClientKey = ""
          · exact .inl hnoid
          · by_cases hnamed : NamedInAnswer rt i data c
            · exact .inr (.inl hnamed)
            · obtain ⟨i', p', key', data', hi'', hkey'', hown, hok, hsettings, hstats, hrow⟩ :=
                hsound (by simpa [classify] using matchLocal_eq_missing_iff.mpr ⟨hnoid, hnamed⟩)
              obtain ⟨rfl, rfl⟩ := Prod.mk.inj (Option.some.inj (hi.symm.trans hi''))
              obtain rfl := Option.some.inj (hkey.symm.trans hkey'')
              rw [readScope_ok hread] at hok
              obtain rfl := Json.obj.inj (Except.ok.inj hok)
              refine .inr (.inr ⟨hnode.symm.trans hown, hsettings, hstats, ?_⟩)
              rintro ⟨client, -, j, s, -, hs, w, hw, hlower⟩
              refine hrow s (List.mem_append_right _ (List.mem_of_getElem? hs)) ⟨w, hw, ?_⟩
              rw [rowIdentities, List.map_append]
              exact List.mem_append_right _ hlower
    | _ => cases hfetch
  · intro htrust
    cases hread : readScope rt db p i (answers key) with
    | error e =>
        refine ⟨{ status := (statusFromException rt p.pk e).1,
                  error := (statusFromException rt p.pk e).2 }, ?_, ?_⟩
        · simp only [fetchRemoteScopeClients, hread]
        · intro hmissing
          simp only [classify, Bool.false_eq_true, not_false_eq_true, or_true, ite_true]
            at hmissing
          exact absurd hmissing (statusFromException_ne_missing rt p.pk e)
    | ok v =>
        obtain ⟨data, rfl, hdata⟩ := htrust i p key v hi hkey hread
        simp only [fetchRemoteScopeClients, hread]
        rcases hdata with hnone | ⟨hrows, hdata⟩
        · rw [normalizeRemoteClients_of_none hnone]
          refine ⟨_, rfl, ?_⟩
          simp [classify]
        · cases hclients : settingsClients rt data with
          | none =>
              rw [normalizeRemoteClients_of_none hclients]
              refine ⟨_, rfl, ?_⟩
              simp [classify]
          | some items =>
              rw [normalizeRemoteClients_of_list hclients hrows]
              refine ⟨_, rfl, ?_⟩
              intro hmissing
              have hmatch : (matchLocalClientToRemote rt c (remoteRows rt i data)).1 =
                  .remoteMissing := by simpa [classify] using hmissing
              obtain ⟨hnoid, hnamed⟩ := matchLocal_eq_missing_iff.mp hmatch
              rcases hdata with h | h | ⟨hown, hsettings, hstats, hmerged⟩
              · exact absurd h hnoid
              · exact absurd h hnamed
              · exact ⟨i, p, key, data, hi, hkey, hnode.trans hown, readScope_ok hread, hsettings,
                  hstats, fun row hrow => not_carriesIdentity hnamed hmerged hrow⟩

/-! ## The whole check -/

theorem assertPreciseScope_read {db db' : Db} (h : db'.inbounds = db.inbounds) (p : Panel)
    (i : Inbound) : assertPreciseScope db' p i "" .read = assertPreciseScope db p i "" .read := by
  simp [assertPreciseScope, localScopeConflicts, localClientMatches, h]

theorem checkGroup_congr {rt : Runtime} {read db db' : Db} (h : db'.inbounds = db.inbounds)
    (clients : List VPNClient) (answer : PanelAnswer) :
    checkGroup rt read db' clients answer = checkGroup rt read db clients answer := by
  have hfetch : ∀ p i, fetchRemoteScopeClients rt db' p i answer =
      fetchRemoteScopeClients rt db p i answer := by
    intro p i
    simp only [fetchRemoteScopeClients, readScope, assertPreciseScope_read h]
  simp only [checkGroup, hfetch]

theorem persistChecks_inbounds (persist : Bool) (read : Db) (batch : Batch)
    (checks : List ClientCheck) (db : Db) :
    (persistChecks persist read batch checks db).inbounds = db.inbounds := by
  unfold persistChecks
  split
  · induction checks generalizing db with
    | nil => rfl
    | cons check checks ih => exact ih (persistCheckResult read batch db check)
  · rfl

/-- The scopes are read, and nobody else writes meanwhile. -/
def undisturbed (answers : ScopeKey → PanelAnswer) (key : ScopeKey) : Visit where
  answer := answers key

section Run

variable {rt : Runtime} {answers : ScopeKey → PanelAnswer} {persist : Bool} {read : Db}
  {batch : Batch}

/-- The checks of a run are those of its groups, up to the one that an error leaves. -/
theorem checkGroups_run (groups : List (ScopeKey × List VPNClient)) {db : Db}
    (h : db.inbounds = read.inbounds) :
    let run := checkGroups rt (undisturbed answers) persist read batch groups db
    (∀ check ∈ run.checks, ∃ g ∈ groups, ∃ r,
        checkGroup rt read read g.2 (answers g.1) = some r ∧ check ∈ r.1) ∧
      (run.raised = true → ∃ g ∈ groups, checkGroup rt read read g.2 (answers g.1) = none) ∧
      (run.raised = false → ∀ g ∈ groups, ∃ r,
        checkGroup rt read read g.2 (answers g.1) = some r ∧ r.1 ⊆ run.checks) := by
  induction groups generalizing db with
  | nil => simp [checkGroups]
  | cons g groups ih =>
      have hsame : checkGroup rt read db g.2 (answers g.1) =
          checkGroup rt read read g.2 (answers g.1) := checkGroup_congr h _ _
      simp only [checkGroups, undisturbed, id, hsame]
      cases hg : checkGroup rt read read g.2 (answers g.1) with
      | none =>
          refine ⟨fun _ h => (nomatch h), fun _ => ⟨g, List.mem_cons_self, hg⟩, ?_⟩
          intro hraised
          cases hraised
      | some r =>
          obtain ⟨hfrom, hraised, hall⟩ :=
            @ih (persistChecks persist read batch r.1 db)
              ((persistChecks_inbounds persist read batch r.1 db).trans h)
          refine ⟨?_, ?_, ?_⟩
          · intro check hcheck
            rcases List.mem_append.mp hcheck with hcheck | hcheck
            · exact ⟨g, List.mem_cons_self, r, hg, hcheck⟩
            · obtain ⟨g', hg', hr'⟩ := hfrom check hcheck
              exact ⟨g', List.mem_cons_of_mem _ hg', hr'⟩
          · intro h
            obtain ⟨g', hg', hnone⟩ := hraised h
            exact ⟨g', List.mem_cons_of_mem _ hg', hnone⟩
          · intro h g' hg'
            rcases List.mem_cons.mp hg' with rfl | hg'
            · exact ⟨r, hg, List.subset_append_left _ _⟩
            · obtain ⟨r', hr', hsub⟩ := hall h g' hg'
              exact ⟨r', hr', fun _ hx => List.mem_append_right _ (hsub hx)⟩

/-- A check of a group is that of one of its clients, by the read of the client's inbound. -/
theorem checkGroup_mem {db : Db} {clients : List VPNClient} {key : ScopeKey}
    {answer : PanelAnswer} {r : List ClientCheck × List String}
    (hkey : ∀ d ∈ clients, scopeKeyForClient read d = some key)
    (hr : checkGroup rt read db clients answer = some r) {check : ClientCheck}
    (hcheck : check ∈ r.1) :
    check.client ∈ clients ∧ ∃ i p result, clientInbound read check.client = some (i, p) ∧
      fetchRemoteScopeClients rt db p i answer = some result ∧
      check.status = (classify rt check.client result).1 := by
  cases hclients : clients with
  | nil =>
      rw [hclients] at hr
      simp only [checkGroup, List.head?_nil, Option.bind_none, Option.some.injEq] at hr
      rw [← hr] at hcheck
      cases hcheck
  | cons first rest =>
      have hfirst : first ∈ clients := by simp [hclients]
      obtain ⟨i, p, hi, -⟩ := scopeKeyForClient_eq_some (hkey first hfirst)
      have heq := @checkGroup_eq rt read db clients key answer first i p hkey hfirst hi
      rw [hr] at heq
      obtain ⟨result, hresult, hmap⟩ := Option.map_eq_some_iff.mp heq.symm
      rw [← hmap] at hcheck
      obtain ⟨d, hd, rfl⟩ := List.mem_map.mp hcheck
      rw [← hclients]
      refine ⟨hd, i, p, result, ?_, hresult, rfl⟩
      rw [clientInbound_congr (hkey d hd) (hkey first hfirst), hi]

/-- The check of a client from the check of its group. -/
theorem exists_check_of_checkGroup {db : Db} {clients : List VPNClient} {key : ScopeKey}
    {answer : PanelAnswer} {r : List ClientCheck × List String}
    (hkey : ∀ d ∈ clients, scopeKeyForClient read d = some key)
    (hr : checkGroup rt read db clients answer = some r) {c : VPNClient} (hc : c ∈ clients) :
    ∃ check ∈ r.1, check.client = c := by
  obtain ⟨i, p, hi, -⟩ := scopeKeyForClient_eq_some (hkey c hc)
  have heq := @checkGroup_eq rt read db clients key answer c i p hkey hc hi
  rw [hr] at heq
  obtain ⟨result, -, hmap⟩ := Option.map_eq_some_iff.mp heq.symm
  exact ⟨_, by rw [← hmap]; exact List.mem_map_of_mem hc, rfl⟩

end Run

/-- A check classifies every one of its clients, and reports missing on complete evidence
only, exactly where each client's read is trustworthy. -/
theorem reconcile_sound_iff (rt : Runtime) (answers : ScopeKey → PanelAnswer) (persist : Bool)
    (batch : Batch) (queryset : VPNClient → Bool) (db : Db) :
    SoundChecks rt db answers (buildReconciliationCandidates db queryset)
        (reconcileVpnClients rt (undisturbed answers) persist batch queryset db).checks ↔
      ∀ c ∈ buildReconciliationCandidates db queryset, ReadTrustworthy rt db answers c := by
  set clients := buildReconciliationCandidates db queryset with hclients
  have hgroups := groupsOf_groupOn (scopeKeyForClient db) clients
  have hkeys : ∀ g ∈ groupOn (scopeKeyForClient db) clients, ∀ d ∈ g.2,
      scopeKeyForClient db d = some g.1 := fun g hg d hd => (hgroups.mem hg hd).2
  have hrun := @checkGroups_run rt answers persist db batch
    (groupOn (scopeKeyForClient db) clients) _
    (persistChecks_inbounds persist db batch
      ((clients.filter fun c => scopeKeyForClient db c = none).map unscopedCheck) db)
  simp only [reconcileVpnClients, groupClientsByRemoteScope, ← hclients]
  obtain ⟨hfrom, hraised, hall⟩ := hrun
  constructor
  · rintro ⟨hclassified, hsound⟩ c hc
    cases hkey : scopeKeyForClient db c with
    | none =>
        intro i p key v hi hkey'
        rw [hkey] at hkey'
        cases hkey'
    | some key =>
        obtain ⟨check, hcheck, rfl⟩ := hclassified c hc
        have hevidence := hsound check hcheck
        rcases List.mem_append.mp hcheck with hcheck | hcheck
        · obtain ⟨d, hd, rfl⟩ := List.mem_map.mp hcheck
          have hnone := (List.mem_filter.mp hd).2
          simp only [unscopedCheck] at hkey
          simp [hkey] at hnone
        · obtain ⟨g, hg, r, hr, hmem⟩ := hfrom check hcheck
          obtain ⟨hin, i, p, result, hi, hfetch, hstatus⟩ := checkGroup_mem (hkeys g hg) hr hmem
          have hkey' := hkeys g hg _ hin
          exact (classify_sound_iff hi hkey').mp ⟨result, hfetch, hstatus ▸ hevidence⟩
  · intro htrust
    have hmem : ∀ g ∈ groupOn (scopeKeyForClient db) clients, ∀ d ∈ g.2, d ∈ clients :=
      fun g hg d hd => (hgroups.mem hg hd).1
    -- no group's read ends with an error that leaves the check
    have hsome : ∀ g ∈ groupOn (scopeKeyForClient db) clients,
        checkGroup rt db db g.2 (answers g.1) ≠ none := by
      intro g hg hnone
      cases hg2 : g.2 with
      | nil =>
          rw [hg2] at hnone
          cases hnone
      | cons first rest =>
          have hfirst : first ∈ g.2 := by simp [hg2]
          have hkey := hkeys g hg first hfirst
          obtain ⟨i, p, hi, -⟩ := scopeKeyForClient_eq_some hkey
          obtain ⟨result, hfetch, -⟩ :=
            (classify_sound_iff hi hkey).mpr (htrust first (hmem g hg first hfirst))
          have heq := @checkGroup_eq rt db db g.2 g.1 (answers g.1) first i p
            (hkeys g hg) hfirst hi
          rw [hnone, hfetch] at heq
          cases heq
    have hdone : (checkGroups rt (undisturbed answers) persist db batch
        (groupOn (scopeKeyForClient db) clients) (persistChecks persist db batch
          ((clients.filter fun c => scopeKeyForClient db c = none).map unscopedCheck)
          db)).raised = false := by
      rw [← Bool.not_eq_true]
      intro h
      obtain ⟨g, hg, hnone⟩ := hraised h
      exact hsome g hg hnone
    refine ⟨?_, ?_⟩
    · intro c hc
      cases hkey : scopeKeyForClient db c with
      | none =>
          refine ⟨unscopedCheck c, List.mem_append_left _ (List.mem_map_of_mem ?_), rfl⟩
          exact List.mem_filter.mpr ⟨hc, by simp [hkey]⟩
      | some key =>
          obtain ⟨g, hg, -, hcg⟩ := hgroups.exists_group hc hkey
          obtain ⟨r, hr, hsub⟩ := hall hdone g hg
          obtain ⟨check, hcheck, hclient⟩ := exists_check_of_checkGroup (hkeys g hg) hr hcg
          exact ⟨check, List.mem_append_right _ (hsub hcheck), hclient⟩
    · intro check hcheck hmissing
      rcases List.mem_append.mp hcheck with hcheck | hcheck
      · obtain ⟨d, -, rfl⟩ := List.mem_map.mp hcheck
        cases hmissing
      · obtain ⟨g, hg, r, hr, hin⟩ := hfrom check hcheck
        obtain ⟨hclient, i, p, result, hi, hfetch, hstatus⟩ := checkGroup_mem (hkeys g hg) hr hin
        have hkey := hkeys g hg _ hclient
        obtain ⟨result', hfetch', hevidence⟩ :=
          (classify_sound_iff hi hkey).mpr (htrust _ (hmem g hg _ hclient))
        obtain rfl := Option.some.inj (hfetch.symm.trans hfetch')
        exact hevidence (hstatus ▸ hmissing)

/-! ## Settings that are empty -/

/-- A service of the shop. -/
def paidService : VPNClient where
  pk := 1
  order := some 1
  plan := some 3
  inbound := some 5
  username := "ali"
  uuid := some "3f2a"
  status := .active

def serviceShop : Db where
  orders := .empty
  sms := .empty
  clients := Table.empty.put paidService
  inbounds := Table.empty.put { pk := 5, panel := 2, inboundId := 7 }
  panels := Table.empty.put { pk := 2 }
  plans := .empty
  stores := .empty
  automations := .empty

/-- Python on texts that are not JSON. -/
def plainRuntime : Runtime where
  loads _ := none
  lower s := String.ofList (s.toList.map Char.toLower)
  reprOf _ := ""
  converts _ := true
  safeError _ text := text

/-- The panel's answer about an inbound whose settings are empty. -/
def emptySettings : PanelAnswer :=
  .body (.obj [("success", .bool true), ("obj", .obj [("id", .int 7), ("settings", .str "")])])

/-- Empty settings are read as an inbound without clients. -/
theorem empty_settings_reported_missing :
    ¬ SoundChecks plainRuntime serviceShop (fun _ => emptySettings)
      (buildReconciliationCandidates serviceShop fun _ => true)
      (reconcileVpnClients plainRuntime (undisturbed fun _ => emptySettings) true
        { batchId := "b", checkedAt := 0 } (fun _ => true) serviceShop).checks := by
  rintro ⟨-, hsound⟩
  have hchecks : (reconcileVpnClients plainRuntime (undisturbed fun _ => emptySettings) true
      { batchId := "b", checkedAt := 0 } (fun _ => true) serviceShop).checks =
      [⟨paidService, .remoteMissing, ""⟩] := by decide +kernel
  rw [hchecks] at hsound
  obtain ⟨i, p, key, data, -, -, -, hok, ⟨items, hitems, -⟩, -⟩ :=
    hsound _ List.mem_cons_self rfl
  obtain rfl := Json.obj.inj (Except.ok.inj hok)
  cases hitems

end Qasedak.Reconciliation
