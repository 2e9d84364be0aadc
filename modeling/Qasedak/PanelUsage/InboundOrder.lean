import Mathlib
import Qasedak.Panels.PanelJson
import Qasedak.PanelUsage.Daily

/-! `collect_panel_usage_stats` of `store/xui_api.py`: the totals of a panel, from the payloads of
its inbounds. -/

namespace Qasedak.PanelUsage

open Store Panels

/-- What the collection uses of Python and of the settings. -/
structure UsageReader where
  rt : Runtime
  /-- `int(value)`; none where it raises. -/
  toInt : Json → Option ℤ
  /-- The digest of `hash_xui_identifier`, with its salt. -/
  digest : String → String

structure UsageRow where
  identifierHash : String
  uploadBytes : ℤ
  downloadBytes : ℤ
  usedBytes : ℤ
  statsAvailable : Bool
  deriving DecidableEq, Repr

variable (reader : UsageReader)

/-- `xui_int`. -/
def UsageReader.xuiInt (v : Json) : ℤ := if v.truthy then (reader.toInt v).getD 0 else 0

/-- `xui_int_or_none`. -/
def UsageReader.xuiIntOrNone : Json → Option ℤ
  | .null => none
  | .str s => if s = "" then none else reader.toInt (.str s)
  | v => reader.toInt v

/-- `has_usage_stats`. -/
def hasUsageStats (data : JsonObject) : Bool :=
  ["up", "down", "upload", "download", "used", "usedTraffic", "used_traffic"].any fun key =>
    (data.lookup key).isSome

/-- The row that `_usage_source_and_values` reads. -/
def usageSource (client stats : JsonObject) : JsonObject :=
  if hasUsageStats stats then stats else if hasUsageStats client then client else []

/-- `_client_identifier_for_usage`. -/
def UsageReader.clientIdentifierForUsage (client stats : JsonObject) : String :=
  let values := [client, stats].flatMap fun data =>
    ["id", "uuid", "password", "subId", "sub_id", "email"].map fun key =>
      stringOf reader.rt (field data key)
  (values.find? (· ≠ "")).getD ""

/-- `hash_xui_identifier`. -/
def UsageReader.hashXuiIdentifier (value : String) : String :=
  if strip value = "" then "" else reader.digest (strip value)

/-- `normalize_xui_usage_client`. -/
def UsageReader.normalizeXuiUsageClient (client stats : JsonObject) : Option UsageRow :=
  let identifierHash := reader.hashXuiIdentifier (reader.clientIdentifierForUsage client stats)
  let source := usageSource client stats
  let upload := reader.xuiInt (firstOf [field source "up", field source "upload"])
  let download := reader.xuiInt (firstOf [field source "down", field source "download"])
  let used := (reader.xuiIntOrNone (firstOf
    [field source "used", field source "usedTraffic", field source "used_traffic"])).getD
      (upload + download)
  if identifierHash = "" then none
  else if source = [] then
    some { identifierHash, uploadBytes := 0, downloadBytes := 0, usedBytes := 0,
           statsAvailable := false }
  else
    some { identifierHash, uploadBytes := upload, downloadBytes := download, usedBytes := used,
           statsAvailable := true }

/-- What the payload of an inbound says of its clients. -/
structure InboundUsage where
  clients : List JsonObject
  stats : List JsonObject

def UsageReader.inboundUsage (data : JsonObject) : InboundUsage where
  clients :=
    match field (parseXuiJsonObject reader.rt (field data "settings")) "clients" with
    | .arr items => objectsOf items
    | _ => []
  stats := parseXuiClientStats reader.rt data

variable (i : InboundUsage)

/-- The row of a client, with the stats that are related to it. -/
def UsageReader.clientRow (stats : List JsonObject) (client : JsonObject) : Option UsageRow :=
  reader.normalizeXuiUsageClient client
    (((relatedClientStats reader.rt stats client).bind fun k => stats[k]?).getD [])

def UsageReader.clientRows : List (Option UsageRow) := i.clients.map (reader.clientRow i.stats)

/-- The positions of `matched_stat_ids`. -/
def UsageReader.matchedStats : List ℕ := i.clients.filterMap (relatedClientStats reader.rt i.stats)

/-- The rows of the stats that belong to no client. -/
def UsageReader.leftoverRows : List (Option UsageRow) :=
  (i.stats.zipIdx.filter fun s => s.2 ∉ reader.matchedStats i).map fun s =>
    reader.normalizeXuiUsageClient [] s.1

def UsageReader.rows : List (Option UsageRow) := reader.clientRows i ++ reader.leftoverRows i

/-- What the loop over the inbounds adds up; `seen_per_panel` is the hashes of the clients. -/
structure Tally where
  clients : List UsageRow := []
  totalUpload : ℤ := 0
  totalDownload : ℤ := 0
  totalUsed : ℤ := 0
  missingStats : ℕ := 0
  duplicateUsageCount : ℕ := 0
  deriving DecidableEq, Repr

/-- `add_usage_row`: the first row of an identifier counts. -/
def Tally.addUsageRow (t : Tally) (row : UsageRow) : Tally :=
  if row.identifierHash ∈ t.clients.map (·.identifierHash) then
    { t with duplicateUsageCount := t.duplicateUsageCount + 1 }
  else if row.statsAvailable then
    { t with
      clients := t.clients ++ [row]
      totalUpload := t.totalUpload + row.uploadBytes
      totalDownload := t.totalDownload + row.downloadBytes
      totalUsed := t.totalUsed + row.usedBytes }
  else { t with clients := t.clients ++ [row], missingStats := t.missingStats + 1 }

def Tally.add (t : Tally) : Option UsageRow → Tally
  | none => { t with missingStats := t.missingStats + 1 }
  | some row => t.addUsageRow row

structure PanelUsageStats where
  status : SnapshotStatus
  totalUploadBytes : ℤ
  totalDownloadBytes : ℤ
  totalUsedBytes : ℤ
  clients : List UsageRow
  clientsCount : ℕ
  checkedInboundsCount : ℕ
  activeInboundsCount : ℕ
  errorMessage : String
  inboundErrorCount : ℕ
  missingClientStatsCount : ℕ
  duplicateUsageCount : ℕ
  deriving DecidableEq, Repr

/-- `collect_panel_usage_stats` after its login, on the answers for the inbounds: the payload, or
none where the request raises. -/
def UsageReader.collectPanelUsageStats (answers : List (Option JsonObject)) : PanelUsageStats :=
  let readable := (answers.filterMap id).map reader.inboundUsage
  let tally := readable.foldl (fun t i => (reader.rows i).foldl Tally.add t) {}
  let inboundErrors := answers.countP (·.isNone)
  { status := if inboundErrors ≠ 0 ∨ tally.missingStats ≠ 0 then .partly else .ok
    totalUploadBytes := tally.totalUpload
    totalDownloadBytes := tally.totalDownload
    totalUsedBytes := tally.totalUsed
    clients := tally.clients
    clientsCount := tally.clients.length
    checkedInboundsCount := readable.length
    activeInboundsCount := answers.length
    errorMessage :=
      if inboundErrors ≠ 0 then "One or more inbounds could not be read."
      else if tally.missingStats ≠ 0 then "Some client traffic stats were missing." else ""
    inboundErrorCount := inboundErrors
    missingClientStatsCount := tally.missingStats
    duplicateUsageCount := tally.duplicateUsageCount }

end Qasedak.PanelUsage

/-! # The order of the inbounds

The first row of an identifier counts, so the totals depend on the order of the inbounds unless
the rows that can come first agree. -/

namespace Qasedak.PanelUsage

open Store Panels

/-! ## What a tally holds -/

/-- Upload, download and used bytes. -/
def UsageRow.figures (r : UsageRow) : ℤ × ℤ × ℤ := (r.uploadBytes, r.downloadBytes, r.usedBytes)

/-- What a counted row adds to the totals. -/
def UsageRow.contribution (r : UsageRow) : ℤ × ℤ × ℤ := if r.statsAvailable then r.figures else 0

/-- One for a row without stats. -/
def UsageRow.lacksStats (r : UsageRow) : ℕ := if r.statsAvailable then 0 else 1

def Tally.totals (t : Tally) : ℤ × ℤ × ℤ := (t.totalUpload, t.totalDownload, t.totalUsed)

/-- The first row of an identifier. -/
def firstRow (rows : List (Option UsageRow)) (h : String) : Option UsageRow :=
  (rows.filterMap id).find? fun r => r.identifierHash = h

/-- A tally counts the first row of every identifier, once. -/
structure Tally.Counts (t : Tally) (rows : List (Option UsageRow)) : Prop where
  find : ∀ h, t.clients.find? (fun r => r.identifierHash = h) = firstRow rows h
  nodup : (t.clients.map (·.identifierHash)).Nodup
  totals : t.totals = (t.clients.map (·.contribution)).sum
  missing : t.missingStats = rows.countP (·.isNone) + (t.clients.map (·.lacksStats)).sum

theorem firstRow_append (rows rows' : List (Option UsageRow)) (h : String) :
    firstRow (rows ++ rows') h = (firstRow rows h).or (firstRow rows' h) := by
  simp [firstRow, List.filterMap_append, List.find?_append]

theorem firstRow_singleton (r : UsageRow) (h : String) :
    firstRow [some r] h = if r.identifierHash = h then some r else none := by
  simp [firstRow, List.find?_singleton]

theorem counts_add {t : Tally} {rows : List (Option UsageRow)} (ht : t.Counts rows)
    (row : Option UsageRow) : (t.add row).Counts (rows ++ [row]) := by
  cases row with
  | none =>
      refine ⟨fun h => ?_, ht.nodup, ht.totals, ?_⟩
      · rw [firstRow_append]
        simpa [firstRow, Tally.add] using ht.find h
      · have hmissing := ht.missing
        simp only [Tally.add, List.countP_append, List.countP_singleton, Option.isNone_none, if_true]
        omega
  | some r =>
      simp only [Tally.add, Tally.addUsageRow]
      have hnone : (rows ++ [some r]).countP (·.isNone) = rows.countP (·.isNone) := by
        simp [List.countP_append]
      by_cases hseen : r.identifierHash ∈ t.clients.map (·.identifierHash)
      · rw [if_pos hseen]
        refine ⟨fun h => ?_, ht.nodup, ht.totals, ?_⟩
        · rw [firstRow_append, firstRow_singleton]
          by_cases hh : r.identifierHash = h
          · subst hh
            obtain ⟨x, hx, hxr⟩ := List.mem_map.mp hseen
            have hfound : (t.clients.find? fun y => y.identifierHash = r.identifierHash).isSome := by
              rw [List.find?_isSome]
              exact ⟨x, hx, by simpa using hxr⟩
            have hsome := hfound
            rw [ht.find] at hsome
            rw [Option.or_of_isSome hsome]
            exact ht.find _
          · rw [if_neg hh, Option.or_none]
            exact ht.find h
        · rw [hnone]
          exact ht.missing
      · rw [if_neg hseen]
        have hfind (h : String) : (t.clients ++ [r]).find? (fun y => y.identifierHash = h) =
            firstRow (rows ++ [some r]) h := by
          rw [firstRow_append, firstRow_singleton, List.find?_append, ht.find h,
            List.find?_singleton]
          simp
        have hnodup : ((t.clients ++ [r]).map (·.identifierHash)).Nodup := by
          rw [List.map_append, List.nodup_append]
          refine ⟨ht.nodup, List.nodup_singleton _, ?_⟩
          intro a ha b hb heq
          rw [List.map_singleton, List.mem_singleton] at hb
          exact hseen (hb ▸ heq ▸ ha)
        have htotals := ht.totals
        have hmissing := ht.missing
        by_cases havailable : r.statsAvailable = true
        · rw [if_pos havailable]
          refine ⟨hfind, hnodup, ?_, ?_⟩
          · rw [List.map_append, List.sum_append, ← htotals]
            simp [Tally.totals, UsageRow.contribution, UsageRow.figures, havailable]
          · rw [hnone]
            simpa [UsageRow.lacksStats, havailable] using hmissing
        · rw [if_neg havailable]
          refine ⟨hfind, hnodup, ?_, ?_⟩
          · rw [List.map_append, List.sum_append, ← htotals]
            simp [Tally.totals, UsageRow.contribution, havailable]
          · rw [hnone]
            simp only [List.map_append, List.map_singleton, List.sum_append, List.sum_singleton,
              UsageRow.lacksStats, havailable]
            simp only [UsageRow.lacksStats] at hmissing
            simp only [Bool.false_eq_true, if_false]
            omega

theorem counts_foldl_add (rows' : List (Option UsageRow)) {t : Tally}
    {rows : List (Option UsageRow)} (ht : t.Counts rows) :
    (rows'.foldl Tally.add t).Counts (rows ++ rows') := by
  induction rows' generalizing t rows with
  | nil => simpa using ht
  | cons row rows' ih =>
      have hstep := ih (counts_add ht row)
      rwa [List.append_assoc, List.singleton_append] at hstep

theorem counts_empty : ({} : Tally).Counts [] where
  find _ := rfl
  nodup := List.nodup_nil
  totals := rfl
  missing := rfl

/-- The loop over the inbounds counts the rows of all of them. -/
theorem counts_inbounds (reader : UsageReader) (inbounds : List InboundUsage) :
    (inbounds.foldl (fun t i => (reader.rows i).foldl Tally.add t) {}).Counts
      (inbounds.flatMap reader.rows) := by
  rw [← List.foldl_flatMap]
  simpa using counts_foldl_add (inbounds.flatMap reader.rows) counts_empty

/-! ## Comparing tallies -/

variable {t t' : Tally} {rows rows' : List (Option UsageRow)}

theorem Tally.Counts.find_self (ht : t.Counts rows) {r : UsageRow} (hr : r ∈ t.clients) :
    firstRow rows r.identifierHash = some r := by
  rw [← ht.find]
  cases hfind : t.clients.find? fun x => x.identifierHash = r.identifierHash with
  | none =>
      have h := List.find?_eq_none.mp hfind r hr
      simp at h
  | some x =>
      have hx : x.identifierHash = r.identifierHash := by simpa using List.find?_some hfind
      have hmem := List.mem_of_find?_eq_some hfind
      rw [List.inj_on_of_nodup_map ht.nodup hmem hr hx]

theorem Tally.Counts.mem_hashes (ht : t.Counts rows) (h : String) :
    h ∈ t.clients.map (·.identifierHash) ↔ (firstRow rows h).isSome := by
  rw [← ht.find, List.find?_isSome]
  simp

/-- A sum over the counted rows, by the identifiers. -/
theorem Tally.Counts.sum_eq {M : Type} [AddCommMonoid M] (ht : t.Counts rows) (f : UsageRow → M) :
    (t.clients.map f).sum =
      ((t.clients.map (·.identifierHash)).map fun h => ((firstRow rows h).map f).getD 0).sum := by
  rw [List.map_map]
  congr 1
  refine List.map_congr_left fun r hr => ?_
  rw [Function.comp_apply, ht.find_self hr]
  rfl

theorem Tally.Counts.hashes_perm (ht : t.Counts rows) (ht' : t'.Counts rows')
    (hsome : ∀ h, (firstRow rows h).isSome = (firstRow rows' h).isSome) :
    (t.clients.map (·.identifierHash)).Perm (t'.clients.map (·.identifierHash)) := by
  refine (List.perm_ext_iff_of_nodup ht.nodup ht'.nodup).mpr fun h => ?_
  rw [ht.mem_hashes, ht'.mem_hashes, hsome]

theorem Tally.Counts.sum_congr {M : Type} [AddCommMonoid M] (ht : t.Counts rows)
    (ht' : t'.Counts rows') (f : UsageRow → M)
    (hf : ∀ h, (firstRow rows h).map f = (firstRow rows' h).map f) :
    (t.clients.map f).sum = (t'.clients.map f).sum := by
  have hsome (h : String) : (firstRow rows h).isSome = (firstRow rows' h).isSome := by
    simpa using congrArg Option.isSome (hf h)
  rw [ht.sum_eq, ht'.sum_eq, ((ht.hashes_perm ht' hsome).map _).sum_eq]
  simp only [hf]

/-! ## Listing the inbounds in another order -/

variable (reader : UsageReader)

/-- The clients of an inbound in another order. -/
def SameInbound (p q : InboundUsage) : Prop := p.clients.Perm q.clients ∧ p.stats = q.stats

/-- The same inbounds and clients, in another order. -/
def Relisted (as bs : List (Option JsonObject)) : Prop :=
  ∃ ms, (as.map (Option.map reader.inboundUsage)).Perm ms ∧
    List.Forall₂ (Option.Rel SameInbound) ms (bs.map (Option.map reader.inboundUsage))

def readable (as : List (Option JsonObject)) : List InboundUsage :=
  (as.filterMap id).map reader.inboundUsage

theorem readable_eq (as : List (Option JsonObject)) :
    readable reader as = (as.map (Option.map reader.inboundUsage)).filterMap id := by
  rw [readable, List.filterMap_map, List.map_filterMap]
  rfl

variable {reader} {p q : InboundUsage}

theorem matchedStats_perm (h : SameInbound p q) :
    (reader.matchedStats p).Perm (reader.matchedStats q) := by
  rw [UsageReader.matchedStats, UsageReader.matchedStats, h.2]
  exact h.1.filterMap _

theorem leftoverRows_eq (h : SameInbound p q) : reader.leftoverRows p = reader.leftoverRows q := by
  have hmem (k : ℕ) : k ∈ reader.matchedStats p ↔ k ∈ reader.matchedStats q :=
    (matchedStats_perm h).mem_iff
  simp only [UsageReader.leftoverRows, hmem, h.2]

theorem clientRows_perm (h : SameInbound p q) :
    (reader.clientRows p).Perm (reader.clientRows q) := by
  rw [UsageReader.clientRows, UsageReader.clientRows, h.2]
  exact h.1.map _

theorem rows_perm (h : SameInbound p q) : (reader.rows p).Perm (reader.rows q) := by
  rw [UsageReader.rows, UsageReader.rows, leftoverRows_eq h]
  exact (clientRows_perm h).append_right _

/-- An inbound of the other listing is one of this. -/
theorem exists_same_of_forall₂ {ms ns : List (Option InboundUsage)}
    (h : List.Forall₂ (Option.Rel SameInbound) ms ns) (hq : some q ∈ ns) :
    ∃ p, some p ∈ ms ∧ SameInbound p q := by
  induction h with
  | nil => exact absurd hq List.not_mem_nil
  | cons hrel hrest ih =>
      rcases List.mem_cons.mp hq with heq | hq
      · subst heq
        cases hrel with
        | some hsame => exact ⟨_, List.mem_cons_self, hsame⟩
      · obtain ⟨p, hp, hsame⟩ := ih hq
        exact ⟨p, List.mem_cons_of_mem _ hp, hsame⟩

theorem flatMap_rows_perm {ms ns : List (Option InboundUsage)}
    (h : List.Forall₂ (Option.Rel SameInbound) ms ns) :
    ((ms.filterMap id).flatMap reader.rows).Perm ((ns.filterMap id).flatMap reader.rows) := by
  induction h with
  | nil => exact .nil
  | cons hrel hrest ih =>
      cases hrel with
      | none => simpa using ih
      | some hsame => simpa using (rows_perm hsame).append ih

theorem countP_isNone_eq {ms ns : List (Option InboundUsage)}
    (h : List.Forall₂ (Option.Rel SameInbound) ms ns) :
    ms.countP (·.isNone) = ns.countP (·.isNone) := by
  induction h with
  | nil => rfl
  | cons hrel hrest ih =>
      cases hrel <;> simp [ih]

variable {as bs : List (Option JsonObject)}

theorem Relisted.readable (h : Relisted reader as bs) (hq : q ∈ readable reader bs) :
    ∃ p ∈ PanelUsage.readable reader as, SameInbound p q := by
  obtain ⟨ms, hperm, hrel⟩ := h
  rw [readable_eq, List.mem_filterMap] at hq
  obtain ⟨x, hx, rfl⟩ := hq
  obtain ⟨p, hp, hsame⟩ := exists_same_of_forall₂ hrel hx
  refine ⟨p, ?_, hsame⟩
  rw [readable_eq, List.mem_filterMap]
  exact ⟨some p, hperm.mem_iff.mpr hp, rfl⟩

theorem Relisted.rows_perm (h : Relisted reader as bs) :
    ((PanelUsage.readable reader as).flatMap reader.rows).Perm
      ((PanelUsage.readable reader bs).flatMap reader.rows) := by
  obtain ⟨ms, hperm, hrel⟩ := h
  rw [readable_eq, readable_eq]
  exact ((hperm.filterMap id).flatMap_right reader.rows).trans (flatMap_rows_perm hrel)

theorem Relisted.errors_eq (h : Relisted reader as bs) :
    as.countP (·.isNone) = bs.countP (·.isNone) := by
  obtain ⟨ms, hperm, hrel⟩ := h
  have hcount (cs : List (Option JsonObject)) :
      (cs.map (Option.map reader.inboundUsage)).countP (·.isNone) = cs.countP (·.isNone) := by
    rw [List.countP_map]
    congr 1
    funext c
    cases c <;> rfl
  rw [← hcount as, ← hcount bs, hperm.countP_eq, countP_isNone_eq hrel]

end Qasedak.PanelUsage
