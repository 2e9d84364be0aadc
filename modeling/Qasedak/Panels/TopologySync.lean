import Qasedak.Panels.Topology

/-! # The topology sync matches one to one

A run of `sync_xui_topology` writes every row from the inbounds of one remote scope, and leaves one
row for every remote inbound that it does not skip. A second run changes no scope. -/

namespace Qasedak.Panels

open Foundation Store Payments WizwizImport

/-! ## Ids -/

theorem digitValue_of_isDigit {c : Char} (h : c.isDigit) : digitValue c = some (c.toNat - 48) := by
  have hrange : 48 ≤ c.toNat ∧ c.toNat ≤ 57 := by
    simpa [Char.isDigit, UInt32.le_iff_toNat_le] using h
  have hfirst : (48 : ℕ) ≤ c.toNat && c.toNat < 48 + 10 := by simp; omega
  simp only [digitValue, decimalZeros, List.find?_cons, hfirst, Option.map_some]

theorem isDigit_of_mem_toString {n : ℕ} {c : Char} (h : c ∈ (toString n).toList) : c.isDigit := by
  have hmem : c ∈ Nat.toDigits 10 n := by
    rw [← Nat.toList_repr]
    exact h
  exact Nat.isDigit_of_mem_toDigits (by omega) (by omega) hmem

theorem intOfDigits_eq_ofDigitChars {cs : List Char} (h : ∀ c ∈ cs, c.isDigit) :
    intOfDigits cs = Nat.ofDigitChars 10 cs 0 := by
  unfold intOfDigits
  rw [Nat.ofDigitChars_eq_foldl]
  refine List.foldl_ext _ _ _ fun n c hc => ?_
  rw [digitValue_of_isDigit (h c hc)]
  rfl

theorem intOfDigits_toString (n : ℕ) : intOfDigits (toString n).toList = n := by
  rw [intOfDigits_eq_ofDigitChars fun c hc => isDigit_of_mem_toString hc]
  have hdigits : (toString n).toList = Nat.toDigits 10 n := Nat.toList_repr
  rw [hdigits, Nat.ofDigitChars_ten_toDigits]

theorem intText_injective {m n : ℕ} (h : toString m = toString n) : m = n := by
  rw [← intOfDigits_toString m, h, intOfDigits_toString]

theorem isDigitText_toString (n : ℕ) : isDigitText (toString n) = true := by
  have hne : toString n ≠ "" := fun h => by
    have hpos : 0 < (toString n).length := Nat.length_repr_pos
    simp [h] at hpos
  simp only [isDigitText, hne, ne_eq, not_false_eq_true, decide_true, Bool.true_and,
    List.all_eq_true]
  intro c hc
  simp [isDigitChar, isDecimal, digitValue_of_isDigit (isDigit_of_mem_toString hc)]

/-- `int` reads back the number of a column. -/
theorem intOfDigitText_toString {n : ℕ} (h : n < 10 ^ 19) :
    intOfDigitText (toString n) = some n := by
  have hshort : (toString n).length ≤ 19 := (Nat.length_repr_le_iff (by omega)).mpr h
  have hlength : (toString n).length ≤ 4300 := by omega
  have hall : (toString n).toList.all isDecimal = true := by
    rw [List.all_eq_true]
    intro c hc
    simp [isDecimal, digitValue_of_isDigit (isDigit_of_mem_toString hc)]
  rw [intOfDigitText, if_pos ⟨hall, hlength⟩, intOfDigits_toString]

/-- `int` reads the id of a row as that id. -/
theorem eq_of_intOfDigitText_toString {m n : ℕ} (h : intOfDigitText (toString m) = some n) :
    m = n := by
  unfold intOfDigitText at h
  split at h
  · rw [intOfDigits_toString] at h
    exact Option.some.inj h
  · cases h

/-! ## The plan -/

section Plan

variable {rows : List LocalInbound} {remotes : List RemoteInbound} {r : RemoteInbound}

/-- The plan holds the listed inbounds, each with what is found for it. -/
structure Planned (rows : List LocalInbound) (remotes listed : List RemoteInbound)
    (plan : TopologyPlan) : Prop where
  updates : plan.updates.map TopologyUpdate.remote =
    listed.filter fun r => (matchRemote rows remotes r).isOk
  skipped : plan.skipped.map TopologySkip.remote =
    listed.filter fun r => !(matchRemote rows remotes r).isOk
  matched : ∀ u ∈ plan.updates, matchRemote rows remotes u.remote = .ok u.inbound
  refused : ∀ s ∈ plan.skipped, matchRemote rows remotes s.remote = .error s.reason

theorem Planned.add {listed : List RemoteInbound} {plan : TopologyPlan}
    (h : Planned rows remotes listed plan) (r : RemoteInbound) :
    Planned rows remotes (listed ++ [r]) (plan.add r (matchRemote rows remotes r)) := by
  cases hr : matchRemote rows remotes r with
  | ok row =>
      refine ⟨?_, ?_, ?_, h.refused⟩
      · simp [TopologyPlan.add, h.updates, hr, Except.isOk, Except.toBool]
      · simp [TopologyPlan.add, h.skipped, hr, Except.isOk, Except.toBool]
      · intro u hu
        rcases List.mem_append.mp hu with hu | hu
        · exact h.matched u hu
        · rw [List.mem_singleton.mp hu]
          exact hr
  | error reason =>
      refine ⟨?_, ?_, h.matched, ?_⟩
      · simp [TopologyPlan.add, h.updates, hr, Except.isOk, Except.toBool]
      · simp [TopologyPlan.add, h.skipped, hr, Except.isOk, Except.toBool]
      · intro s hs
        rcases List.mem_append.mp hs with hs | hs
        · exact h.refused s hs
        · rw [List.mem_singleton.mp hs]
          exact hr

theorem planned_planUpdates (rows : List LocalInbound) (remotes : List RemoteInbound) :
    Planned rows remotes remotes (planUpdates rows remotes) := by
  suffices h : ∀ listed, Planned rows remotes listed
      (listed.foldl (fun plan r => plan.add r (matchRemote rows remotes r)) {}) from h remotes
  intro listed
  induction listed using List.reverseRecOn with
  | nil => exact ⟨rfl, rfl, by simp, by simp⟩
  | append_singleton listed r ih =>
      rw [List.foldl_append]
      exact ih.add r

/-- Every remote inbound is in the plan once, as an update or as a skip. -/
theorem planUpdates_perm (rows : List LocalInbound) (remotes : List RemoteInbound) :
    ((planUpdates rows remotes).updates.map TopologyUpdate.remote ++
      (planUpdates rows remotes).skipped.map TopologySkip.remote).Perm remotes := by
  have h := planned_planUpdates rows remotes
  rw [h.updates, h.skipped]
  exact List.filter_append_perm _ remotes

theorem mem_updates {u : TopologyUpdate} :
    u ∈ (planUpdates rows remotes).updates ↔
      u.remote ∈ remotes ∧ matchRemote rows remotes u.remote = .ok u.inbound := by
  have h := planned_planUpdates rows remotes
  constructor
  · intro hu
    refine ⟨?_, h.matched u hu⟩
    have hmem := List.mem_map_of_mem (f := TopologyUpdate.remote) hu
    rw [h.updates] at hmem
    exact List.mem_of_mem_filter hmem
  · rintro ⟨hr, hmatch⟩
    have hmem : u.remote ∈ (planUpdates rows remotes).updates.map TopologyUpdate.remote := by
      rw [h.updates, List.mem_filter]
      exact ⟨hr, by rw [hmatch]; rfl⟩
    obtain ⟨⟨inbound, remote⟩, hu', rfl⟩ := List.mem_map.mp hmem
    have hmatch' := h.matched _ hu'
    obtain rfl : u.inbound = inbound := Except.ok.inj (hmatch.symm.trans hmatch')
    exact hu'

theorem mem_skipped {s : TopologySkip} :
    s ∈ (planUpdates rows remotes).skipped ↔
      s.remote ∈ remotes ∧ matchRemote rows remotes s.remote = .error s.reason := by
  have h := planned_planUpdates rows remotes
  constructor
  · intro hs
    refine ⟨?_, h.refused s hs⟩
    have hmem := List.mem_map_of_mem (f := TopologySkip.remote) hs
    rw [h.skipped] at hmem
    exact List.mem_of_mem_filter hmem
  · rintro ⟨hr, hmatch⟩
    have hmem : s.remote ∈ (planUpdates rows remotes).skipped.map TopologySkip.remote := by
      rw [h.skipped, List.mem_filter]
      exact ⟨hr, by rw [hmatch]; rfl⟩
    obtain ⟨⟨remote, reason⟩, hs', rfl⟩ := List.mem_map.mp hmem
    have hmatch' := h.refused _ hs'
    obtain rfl : s.reason = reason := Except.error.inj (hmatch.symm.trans hmatch')
    exact hs'

/-- No row has the scope of the inbound. -/
def NoExact (rows : List LocalInbound) (r : RemoteInbound) : Prop :=
  ∀ row ∈ rows, row.scope ≠ r.scope

theorem matchRemote_of_exact {row : LocalInbound} (hrows : (rows.map LocalInbound.scope).Nodup)
    (hrow : row ∈ rows) (hscope : row.scope = r.scope) :
    matchRemote rows remotes r = .ok row := by
  have hfilter : rows.filter (fun row => row.scope = r.scope) = [row] := by
    refine List.perm_singleton.mp ((List.perm_ext_iff_of_nodup
      ((hrows.of_map _).filter _) (List.nodup_singleton row)).mpr fun row' => ?_)
    rw [List.mem_filter, List.mem_singleton]
    constructor
    · rintro ⟨hrow', hscope'⟩
      exact List.inj_on_of_nodup_map hrows hrow' hrow
        ((of_decide_eq_true hscope').trans hscope.symm)
    · rintro rfl
      exact ⟨hrow, decide_eq_true hscope⟩
  rw [matchRemote, hfilter]

theorem matchRemote_of_noExact (h : NoExact rows r) :
    matchRemote rows remotes r =
      if 1 < remoteInboundCount remotes r.inboundExternalId then .error .ambiguous
      else onlyMatch (rows.filter fun row => toString row.inboundId = r.inboundExternalId) := by
  have hfilter : rows.filter (fun row => row.scope = r.scope) = [] := by
    rw [List.filter_eq_nil_iff]
    exact fun row hrow hscope => h row hrow (of_decide_eq_true hscope)
  rw [matchRemote, hfilter]

theorem onlyMatch_ok {found : List LocalInbound} {row : LocalInbound}
    (h : onlyMatch found = .ok row) : found = [row] := by
  match found, h with
  | [row'], h =>
      obtain rfl : row' = row := Except.ok.inj h
      rfl

theorem onlyMatch_error {found : List LocalInbound} {reason : SkipReason}
    (h : onlyMatch found = .error reason) :
    reason = .missing ∧ found = [] ∨
      reason = .notUnique ∧ ∃ row row' rest, found = row :: row' :: rest := by
  match found, h with
  | [], h => exact Or.inl ⟨(Except.error.inj h).symm, rfl⟩
  | row :: row' :: rest, h => exact Or.inr ⟨(Except.error.inj h).symm, row, row', rest, rfl⟩

/-- A match has the scope of the inbound, or is the only row under an id that comes once. -/
theorem matchRemote_ok {row : LocalInbound} (h : matchRemote rows remotes r = .ok row) :
    row ∈ rows ∧ toString row.inboundId = r.inboundExternalId ∧
      (row.xuiNodeId = r.nodeExternalId ∨
        remoteInboundCount remotes r.inboundExternalId ≤ 1 ∧
          ∀ row' ∈ rows, toString row'.inboundId = r.inboundExternalId → row' = row) := by
  unfold matchRemote at h
  split at h
  · rename_i row' hfilter
    obtain rfl : row' = row := Except.ok.inj h
    have hmem : row' ∈ rows.filter fun row => row.scope = r.scope := by simp [hfilter]
    obtain ⟨hrow, hscope⟩ := List.mem_filter.mp hmem
    obtain ⟨hid, hnode⟩ := Prod.mk.inj (of_decide_eq_true hscope)
    exact ⟨hrow, hid, Or.inl hnode⟩
  · split at h
    · cases h
    · rename_i hcount
      have hfilter := onlyMatch_ok h
      have hmem (row' : LocalInbound) (hrow' : row' ∈ rows)
          (hid : toString row'.inboundId = r.inboundExternalId) : row' = row := by
        rw [← List.mem_singleton, ← hfilter, List.mem_filter]
        exact ⟨hrow', decide_eq_true hid⟩
      have hrow : row ∈ rows.filter fun row => toString row.inboundId = r.inboundExternalId := by
        rw [hfilter]
        exact List.mem_singleton_self row
      obtain ⟨hrow, hid⟩ := List.mem_filter.mp hrow
      exact ⟨hrow, of_decide_eq_true hid, Or.inr ⟨by omega, hmem⟩⟩

/-- What a reason says of the rows and of the remote inbounds. -/
def SkipReason.Holds (rows : List LocalInbound) (remotes : List RemoteInbound)
    (r : RemoteInbound) : SkipReason → Prop
  | .ambiguous => 1 < remoteInboundCount remotes r.inboundExternalId
  | .notUnique => remoteInboundCount remotes r.inboundExternalId ≤ 1 ∧
      ∃ row ∈ rows, ∃ row' ∈ rows, row ≠ row' ∧ toString row.inboundId = r.inboundExternalId ∧
        toString row'.inboundId = r.inboundExternalId
  | .missing => remoteInboundCount remotes r.inboundExternalId ≤ 1 ∧
      ∀ row ∈ rows, toString row.inboundId ≠ r.inboundExternalId

/-- An inbound is skipped where no row has its scope, and the reason holds. -/
theorem matchRemote_error (hrows : (rows.map LocalInbound.scope).Nodup) {reason : SkipReason}
    (h : matchRemote rows remotes r = .error reason) :
    NoExact rows r ∧ reason.Holds rows remotes r := by
  have hexact : NoExact rows r := by
    intro row hrow hscope
    rw [matchRemote_of_exact hrows hrow hscope] at h
    cases h
  refine ⟨hexact, ?_⟩
  rw [matchRemote_of_noExact hexact] at h
  split at h
  · rename_i hcount
    obtain rfl : .ambiguous = reason := Except.error.inj h
    exact hcount
  · rename_i hcount
    have hle : remoteInboundCount remotes r.inboundExternalId ≤ 1 := by omega
    rcases onlyMatch_error h with ⟨rfl, hnone⟩ | ⟨rfl, row, row', rest, hmany⟩
    · refine ⟨hle, fun row hrow hid => ?_⟩
      exact List.filter_eq_nil_iff.mp hnone row hrow (decide_eq_true hid)
    · have hfound (x : LocalInbound) (hx : x ∈ row :: row' :: rest) :
          x ∈ rows ∧ toString x.inboundId = r.inboundExternalId := by
        rw [← hmany, List.mem_filter] at hx
        exact ⟨hx.1, of_decide_eq_true hx.2⟩
      have hnodup : (row :: row' :: rest).Nodup := hmany ▸ (hrows.of_map _).filter _
      have hne : row ≠ row' := fun heq => (List.nodup_cons.mp hnodup).1 (heq ▸ List.mem_cons_self)
      obtain ⟨hrow, hid⟩ := hfound row List.mem_cons_self
      obtain ⟨hrow', hid'⟩ := hfound row' (List.mem_cons_of_mem _ List.mem_cons_self)
      exact ⟨hle, row, hrow, row', hrow', hne, hid, hid'⟩

/-- An id that comes once belongs to one remote inbound. -/
theorem eq_of_remoteInboundCount_le_one {r' : RemoteInbound}
    (h : remoteInboundCount remotes r.inboundExternalId ≤ 1) (hr : r ∈ remotes) (hr' : r' ∈ remotes)
    (hid : r'.inboundExternalId = r.inboundExternalId) : r' = r := by
  rw [remoteInboundCount, List.countP_eq_length_filter] at h
  have hmem : r ∈ remotes.filter fun x => x.inboundExternalId = r.inboundExternalId :=
    List.mem_filter.mpr ⟨hr, decide_eq_true rfl⟩
  have hmem' : r' ∈ remotes.filter fun x => x.inboundExternalId = r.inboundExternalId :=
    List.mem_filter.mpr ⟨hr', decide_eq_true hid⟩
  match hfilter : remotes.filter fun x => x.inboundExternalId = r.inboundExternalId with
  | [] => rw [hfilter] at hmem; cases hmem
  | [x] =>
      rw [hfilter, List.mem_singleton] at hmem hmem'
      rw [hmem, hmem']
  | _ :: _ :: _ => rw [hfilter] at h; simp at h

end Plan

/-! ## The table -/

theorem InboundTable.eq_of_scope_eq {t : InboundTable} {row row' : LocalInbound}
    (h : row ∈ t.rows) (h' : row' ∈ t.rows) (hpanel : row.panel = row'.panel)
    (hid : row.inboundId = row'.inboundId) (hnode : row.xuiNodeId = row'.xuiNodeId) : row = row' :=
  List.inj_on_of_nodup_map t.scopes_nodup h h'
    (by simp only [LocalInbound.remoteScope, hpanel, hid, hnode])

theorem InboundTable.mem_ofPanel {t : InboundTable} {panel : ℕ} {row : LocalInbound} :
    row ∈ t.ofPanel panel ↔ row ∈ t.rows ∧ row.panel = panel := by
  simp [ofPanel]

theorem InboundTable.nodup_ofPanel (t : InboundTable) (panel : ℕ) :
    ((t.ofPanel panel).map LocalInbound.scope).Nodup := by
  refine List.Nodup.map_on (fun row h row' h' hscope => ?_)
    ((t.keys_nodup.of_map _).filter _)
  obtain ⟨hrow, hpanel⟩ := mem_ofPanel.mp h
  obtain ⟨hrow', hpanel'⟩ := mem_ofPanel.mp h'
  obtain ⟨hid, hnode⟩ := Prod.mk.inj hscope
  exact eq_of_scope_eq hrow hrow' (hpanel.trans hpanel'.symm) (intText_injective hid) hnode

theorem InboundTable.commit_ok {rows : Serial LocalInbound.pk} {t : InboundTable}
    (h : commit rows = .ok t) : t.toSerial = rows := by
  unfold commit at h
  split at h
  · cases h
    rfl
  · cases h

/-! ## `apply_updates` -/

section Apply

variable {engine : Engine} {now : Instant} {t t' : InboundTable}

/-- A row after the updates of its key. -/
def updated (now : Instant) (updates : List TopologyUpdate) (row : LocalInbound) : LocalInbound :=
  updates.foldl (fun row u => if row.pk = u.inbound.pk then u.remote.applyTo now row else row) row

theorem InboundTable.save_ok {pk : ℕ} {f : LocalInbound → LocalInbound}
    {hf : ∀ row, (f row).pk = row.pk} (h : t.save engine pk f hf = .ok t') :
    t'.rows = t.rows.map fun row => if row.pk = pk then f row else row := by
  unfold save at h
  split at h
  · rw [commit_ok h]
    simp
  · cases h

theorem applyUpdates_ok {updates : List TopologyUpdate}
    (h : applyUpdates engine now t updates = .ok t') :
    t'.rows = t.rows.map (updated now updates) := by
  induction updates generalizing t with
  | nil =>
      cases h
      exact (List.map_id _).symm
  | cons u updates ih =>
      rw [applyUpdates, List.foldlM_cons] at h
      cases hsave : t.save engine u.inbound.pk (u.remote.applyTo now) (u.remote.pk_applyTo now) with
      | error e =>
          rw [hsave] at h
          cases h
      | ok next =>
          rw [hsave] at h
          rw [ih h, InboundTable.save_ok hsave, List.map_map]
          rfl

/-- An update overwrites whatever another one wrote. -/
theorem RemoteInbound.applyTo_applyTo {r : RemoteInbound} (hkey : r.remoteKey ≠ "")
    (row : LocalInbound) : r.applyTo now (r.applyTo now row) = r.applyTo now row := by
  simp only [applyTo, if_neg hkey]

/-- Where the updates of a row agree, it is written as by one of them. -/
theorem updated_eq {updates : List TopologyUpdate} {row : LocalInbound} {r : RemoteInbound}
    (hkey : r.remoteKey ≠ "")
    (hagree : ∀ u ∈ updates, u.inbound.pk = row.pk → u.remote.applyTo now = r.applyTo now) :
    updated now updates row =
      if ∃ u ∈ updates, u.inbound.pk = row.pk then r.applyTo now row else row := by
  induction updates generalizing row with
  | nil => simp [updated]
  | cons u updates ih =>
      rw [updated, List.foldl_cons]
      change updated now updates _ = _
      by_cases hpk : row.pk = u.inbound.pk
      · have hrest := @ih (r.applyTo now row) fun v hv => hagree v (List.mem_cons_of_mem u hv)
        rw [r.applyTo_applyTo hkey, ite_self] at hrest
        rw [if_pos hpk, hagree u List.mem_cons_self hpk.symm, hrest,
          if_pos ⟨u, List.mem_cons_self, hpk.symm⟩]
      · rw [if_neg hpk, ih fun v hv => hagree v (List.mem_cons_of_mem u hv)]
        simp [Ne.symm hpk]

theorem updated_of_not_mem {updates : List TopologyUpdate} {row : LocalInbound}
    (h : ∀ u ∈ updates, u.inbound.pk ≠ row.pk) : updated now updates row = row := by
  induction updates with
  | nil => rfl
  | cons u updates ih =>
      rw [updated, List.foldl_cons, if_neg (Ne.symm (h u List.mem_cons_self))]
      exact ih fun v hv => h v (List.mem_cons_of_mem u hv)

end Apply

/-! ## Remote inbounds -/

section Listed

variable {rt : Runtime} {nodes : NodeDirectory} {options : SyncOptions} {r r' : RemoteInbound}

/-- A remote inbound as `fetch_topology` makes them: its ids are stripped, and its node's name, its
source and its key follow from them. -/
structure RemoteInbound.Listed (rt : Runtime) (nodes : NodeDirectory) (options : SyncOptions)
    (r : RemoteInbound) : Prop where
  strip_id : strip r.inboundExternalId = r.inboundExternalId
  strip_node : strip r.nodeExternalId = r.nodeExternalId
  name : r.nodeName =
    if r.nodeExternalId = "" then "" else stringOf rt (nodes.name r.nodeExternalId)
  source : r.source = if r.nodeExternalId = "" then .onPanel else .synchronizedNode
  key : r.remoteKey = toString options.panel ++ ":" ++
    (if r.nodeExternalId = "" then "local" else r.nodeExternalId) ++ ":" ++ r.inboundExternalId
  active : options.activeOnly = true → r.active ≠ some false

theorem listed_of_fetched {payloads : List JsonObject}
    (h : r ∈ fetchTopology rt nodes options payloads) : r.Listed rt nodes options := by
  rw [fetchTopology, List.mem_filter, List.mem_map] at h
  obtain ⟨⟨payload, -, rfl⟩, hactive⟩ := h
  refine ⟨strip_strip _, strip_strip _, rfl, rfl, rfl, fun honly hfalse => ?_⟩
  simp [honly, hfalse] at hactive

theorem RemoteInbound.Listed.key_ne (h : r.Listed rt nodes options) : r.remoteKey ≠ "" := by
  rw [h.key]
  intro hempty
  have hlength := congrArg String.length hempty
  simp only [String.length_append] at hlength
  have hcolon : ":".length = 1 := rfl
  simp [hcolon] at hlength

/-- Inbounds of one scope write the same. -/
theorem RemoteInbound.Listed.applyTo_eq (h : r.Listed rt nodes options)
    (h' : r'.Listed rt nodes options) (hscope : r.scope = r'.scope) (now : Instant) :
    r.applyTo now = r'.applyTo now := by
  obtain ⟨hid, hnode⟩ := Prod.mk.inj hscope
  funext row
  simp only [applyTo, h.name, h'.name, h.source, h'.source, h.key, h'.key, hid, hnode]

end Listed

/-! ## `create_missing_inbounds` -/

section Create

variable {rt : Runtime} {options : SyncOptions} {t t' : InboundTable}

/-- The number that an id names, as far as `int` reads it. -/
def RemoteInbound.number? (r : RemoteInbound) : Option ℕ :=
  if isDigitText r.inboundExternalId then intOfDigitText r.inboundExternalId else none

/-- The table has a row of the panel for the number and the node. -/
def InboundTable.Holds (t : InboundTable) (panel : ℕ) (node : String) (n : ℕ) : Prop :=
  ∃ row ∈ t.rows, row.panel = panel ∧ row.inboundId = n ∧ row.xuiNodeId = node

theorem InboundTable.holds_iff {panel n : ℕ} {node : String} :
    t.Holds panel node n ↔ (panel, node, n) ∈ t.rows.map LocalInbound.remoteScope := by
  simp only [Holds, List.mem_map, LocalInbound.remoteScope, Prod.mk.injEq]
  exact exists_congr fun row => and_congr_right fun _ => and_congr_right fun _ => And.comm

theorem createMissing_ok {r : RemoteInbound} {n : ℕ}
    (h : createMissing rt options t r = .ok (t', n)) :
    ∃ number, intOfDigitText (strip r.inboundExternalId) = some number ∧
      t'.Holds options.panel (strip r.nodeExternalId) number ∧
      ((t' = t ∧ n = 0) ∨
        (n = 1 ∧ t'.rows = t.rows ++ [newInbound rt options r number t.next] ∧
          (newInbound rt options r number t.next).Fits options.engine)) := by
  unfold createMissing at h
  split at h
  · cases h
  · rename_i number hnumber
    refine ⟨number, hnumber, ?_⟩
    split at h
    · rename_i hmem
      cases h
      exact ⟨InboundTable.holds_iff.mpr hmem, Or.inl ⟨rfl, rfl⟩⟩
    · unfold InboundTable.create at h
      split at h
      · rename_i hfits
        cases hcommit : InboundTable.commit
            (t.append (newInbound rt options r number) fun _ => rfl) with
        | error e =>
            rw [hcommit] at h
            cases h
        | ok after =>
            rw [hcommit] at h
            cases h
            have hrows : t'.rows = t.rows ++ [newInbound rt options r number t.next] := by
              rw [InboundTable.commit_ok hcommit]
              rfl
            refine ⟨⟨newInbound rt options r number t.next, ?_, rfl, rfl, rfl⟩,
              Or.inr ⟨rfl, hrows, hfits⟩⟩
            rw [hrows]
            exact List.mem_append_right _ (List.mem_singleton_self _)
      · cases h

/-- The rows that were there stay, and each new one is made of a skipped inbound. -/
structure Creates (rt : Runtime) (options : SyncOptions) (skipped : List TopologySkip)
    (t t' : InboundTable) (created : ℕ) : Prop where
  rows : ∃ new, t'.rows = t.rows ++ new ∧ new.length = created ∧
    ∀ row ∈ new, ∃ s ∈ skipped, CreatesFor options s ∧
      ∃ number pk, intOfDigitText (strip s.remote.inboundExternalId) = some number ∧
        row = newInbound rt options s.remote number pk ∧ row.Fits options.engine
  held : ∀ s ∈ skipped, CreatesFor options s → ∃ number,
    intOfDigitText (strip s.remote.inboundExternalId) = some number ∧
      t'.Holds options.panel (strip s.remote.nodeExternalId) number

theorem InboundTable.Holds.mono {panel n : ℕ} {node : String} (h : t.Holds panel node n)
    {new : List LocalInbound} (hrows : t'.rows = t.rows ++ new) : t'.Holds panel node n := by
  obtain ⟨row, hrow, hfields⟩ := h
  refine ⟨row, ?_, hfields⟩
  rw [hrows]
  exact List.mem_append_left _ hrow

theorem Creates.skip {s : TopologySkip} {skipped : List TopologySkip} {created : ℕ}
    (h : Creates rt options skipped t t' created) (hs : CreatesFor options s = false) :
    Creates rt options (s :: skipped) t t' created := by
  obtain ⟨new, hrows, hlength, hnew⟩ := h.rows
  refine ⟨⟨new, hrows, hlength, fun row hrow => ?_⟩, fun s' hs' hcreates => ?_⟩
  · obtain ⟨s', hs', hrest⟩ := hnew row hrow
    exact ⟨s', List.mem_cons_of_mem s hs', hrest⟩
  · rcases List.mem_cons.mp hs' with rfl | hs'
    · rw [hs] at hcreates
      cases hcreates
    · exact h.held s' hs' hcreates

theorem Creates.step {s : TopologySkip} {skipped : List TopologySkip} {next : InboundTable}
    {n created : ℕ} (hs : CreatesFor options s = true)
    (hstep : createMissing rt options t s.remote = .ok (next, n))
    (h : Creates rt options skipped next t' created) :
    Creates rt options (s :: skipped) t t' (n + created) := by
  obtain ⟨number, hnumber, hheld, hnext⟩ := createMissing_ok hstep
  obtain ⟨new, hrows, hlength, hnew⟩ := h.rows
  refine ⟨?_, fun s' hs' hcreates => ?_⟩
  · have hrest : ∀ row ∈ new, ∃ s' ∈ s :: skipped, CreatesFor options s' ∧
        ∃ number pk, intOfDigitText (strip s'.remote.inboundExternalId) = some number ∧
          row = newInbound rt options s'.remote number pk ∧ row.Fits options.engine := by
      intro row hrow
      obtain ⟨s', hs', hmade⟩ := hnew row hrow
      exact ⟨s', List.mem_cons_of_mem s hs', hmade⟩
    rcases hnext with ⟨rfl, rfl⟩ | ⟨rfl, hone, hfits⟩
    · exact ⟨new, hrows, by omega, hrest⟩
    · refine ⟨newInbound rt options s.remote number t.next :: new, ?_, ?_, fun row hrow => ?_⟩
      · rw [hrows, hone, List.append_assoc, List.singleton_append]
      · rw [List.length_cons]
        omega
      · rcases List.mem_cons.mp hrow with rfl | hrow
        · exact ⟨s, List.mem_cons_self, hs, number, t.next, hnumber, rfl, hfits⟩
        · exact hrest row hrow
  · rcases List.mem_cons.mp hs' with rfl | hs'
    · exact ⟨number, hnumber, hheld.mono hrows⟩
    · exact h.held s' hs' hcreates

theorem createSteps_ok {skipped : List TopologySkip} {before created : ℕ}
    (h : skipped.foldlM (createStep rt options) (t, before) = .ok (t', created)) :
    ∃ n, created = before + n ∧ Creates rt options skipped t t' n := by
  induction skipped generalizing t before with
  | nil =>
      cases h
      exact ⟨0, rfl, ⟨⟨[], by simp, rfl, by simp⟩, by simp⟩⟩
  | cons s skipped ih =>
      rw [List.foldlM_cons, createStep] at h
      by_cases hs : CreatesFor options s = true
      · rw [if_pos hs] at h
        cases hstep : createMissing rt options t s.remote with
        | error e =>
            rw [hstep] at h
            cases h
        | ok result =>
            obtain ⟨next, n⟩ := result
            rw [hstep] at h
            obtain ⟨m, hm, hcreates⟩ := ih h
            exact ⟨n + m, by omega, hcreates.step hs hstep⟩
      · rw [if_neg hs] at h
        obtain ⟨m, hm, hcreates⟩ := ih h
        exact ⟨m, hm, hcreates.skip (Bool.eq_false_iff.mpr hs)⟩

theorem createMissingInbounds_ok {skipped : List TopologySkip} {created : ℕ}
    (h : createMissingInbounds rt options t skipped = .ok (t', created)) :
    Creates rt options skipped t t' created := by
  obtain ⟨n, hn, hcreates⟩ := createSteps_ok h
  obtain rfl : created = n := by omega
  exact hcreates

end Create

end Qasedak.Panels
