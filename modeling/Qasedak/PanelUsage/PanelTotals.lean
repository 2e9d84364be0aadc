import Qasedak.PanelUsage.InboundOrder

/-! # The totals of a panel

When the totals of a panel are the same for every listing of its inbounds. -/

namespace Qasedak.PanelUsage

open Store Panels

variable (reader : UsageReader) (as : List (Option JsonObject))

/-! ## The rows that can come first -/

/-- Some row of an identifier has stats. -/
def HasUsableStats (h : String) : Prop :=
  ∃ i ∈ readable reader as, ∃ r, some r ∈ reader.rows i ∧ r.identifierHash = h ∧
    r.statsAvailable = true

/-- A row that can come first of an inbound: any row of a client, or, without one, the first of
the leftover stats. -/
def CanLead (i : InboundUsage) (r : UsageRow) : Prop :=
  some r ∈ reader.clientRows i ∨
    (∀ x, some x ∈ reader.clientRows i → x.identifierHash ≠ r.identifierHash) ∧
      firstRow (reader.leftoverRows i) r.identifierHash = some r

/-- A row that comes first of its identifier in some listing. -/
def CanComeFirst (r : UsageRow) : Prop := ∃ i ∈ readable reader as, CanLead reader i r

/-- The rows of a client that can come first all have stats, with the same figures. -/
def LeadersAgree : Prop :=
  ∀ r, CanComeFirst reader as r → HasUsableStats reader as r.identifierHash →
    r.statsAvailable = true ∧ ∀ r', CanComeFirst reader as r' →
      r'.identifierHash = r.identifierHash → r'.figures = r.figures

variable {reader as} {bs : List (Option JsonObject)} {i j : InboundUsage} {h : String}
  {r : UsageRow}

theorem firstRow_spec {rows : List (Option UsageRow)} (hr : firstRow rows h = some r) :
    some r ∈ rows ∧ r.identifierHash = h := by
  refine ⟨?_, by simpa using List.find?_some hr⟩
  have hmem := List.mem_of_find?_eq_some hr
  rw [List.mem_filterMap] at hmem
  obtain ⟨x, hx, rfl⟩ := hmem
  exact hx

theorem firstRow_eq_none {rows : List (Option UsageRow)} :
    firstRow rows h = none ↔ ∀ x, some x ∈ rows → x.identifierHash ≠ h := by
  rw [firstRow, List.find?_eq_none]
  simp

theorem canLead_of_firstRow (hr : firstRow (reader.rows i) h = some r) : CanLead reader i r := by
  rw [UsageReader.rows, firstRow_append] at hr
  cases hclient : firstRow (reader.clientRows i) h with
  | some x =>
      rw [hclient, Option.some_or, Option.some_inj] at hr
      exact Or.inl (hr ▸ (firstRow_spec hclient).1)
  | none =>
      rw [hclient, Option.none_or] at hr
      have hhash := (firstRow_spec hr).2
      refine Or.inr ⟨?_, by rw [hhash, hr]⟩
      rw [hhash]
      exact firstRow_eq_none.mp hclient

theorem CanLead.of_sameInbound (hsame : SameInbound i j) (hr : CanLead reader j r) :
    CanLead reader i r := by
  rcases hr with hclient | ⟨hnone, hleft⟩
  · exact Or.inl ((clientRows_perm hsame).mem_iff.mpr hclient)
  · refine Or.inr ⟨fun x hx => hnone x ((clientRows_perm hsame).mem_iff.mp hx), ?_⟩
    rw [leftoverRows_eq hsame]
    exact hleft

theorem firstRow_flatMap (inbounds : List InboundUsage)
    (hr : firstRow (inbounds.flatMap reader.rows) h = some r) :
    ∃ i ∈ inbounds, firstRow (reader.rows i) h = some r := by
  induction inbounds with
  | nil => exact absurd hr (by simp [firstRow])
  | cons i inbounds ih =>
      rw [List.flatMap_cons, firstRow_append] at hr
      cases hi : firstRow (reader.rows i) h with
      | some x =>
          rw [hi, Option.some_or] at hr
          exact ⟨i, List.mem_cons_self, hi.trans hr⟩
      | none =>
          rw [hi, Option.none_or] at hr
          obtain ⟨j, hj, hrow⟩ := ih hr
          exact ⟨j, List.mem_cons_of_mem _ hj, hrow⟩

/-- What comes first in another listing can come first. -/
theorem canComeFirst_of_relisted (hlist : Relisted reader as bs)
    (hr : firstRow ((readable reader bs).flatMap reader.rows) h = some r) :
    CanComeFirst reader as r := by
  obtain ⟨j, hj, hrow⟩ := firstRow_flatMap _ hr
  obtain ⟨i, hi, hsame⟩ := hlist.readable hj
  exact ⟨i, hi, (canLead_of_firstRow hrow).of_sameInbound hsame⟩

/-! ## A listing in which a row comes first -/

/-- A payload that says no more than this of its clients. -/
def payloadOf (i : InboundUsage) : JsonObject :=
  [("settings", .obj [("clients", .arr (i.clients.map .obj))]),
    ("clientStats", .arr (i.stats.map .obj))]

theorem objectsOf_map_obj (data : List JsonObject) : objectsOf (data.map .obj) = data := by
  induction data with
  | nil => rfl
  | cons x data ih =>
      rw [List.map_cons, objectsOf, List.filterMap_cons]
      exact congrArg (x :: ·) ih

theorem inboundUsage_payloadOf (i : InboundUsage) : reader.inboundUsage (payloadOf i) = i := by
  have hstats : parseXuiClientStats reader.rt (payloadOf i) = i.stats := by
    simp [parseXuiClientStats, clientStatsValues, clientStatsKeys, payloadOf, field, List.lookup,
      parseXuiJsonListOrSingle, objectsOf]
  have hclients : field (parseXuiJsonObject reader.rt (field (payloadOf i) "settings")) "clients" =
      .arr (i.clients.map .obj) := rfl
  rw [UsageReader.inboundUsage, hstats, hclients]
  simp only [objectsOf_map_obj]

/-- A row that can lead an inbound is the first in some order of its clients. -/
theorem exists_sameInbound (hr : CanLead reader i r) :
    ∃ j, SameInbound i j ∧ firstRow (reader.rows j) r.identifierHash = some r := by
  rcases hr with hclient | ⟨hnone, hleft⟩
  · rw [UsageReader.clientRows, List.mem_map] at hclient
    obtain ⟨client, hmem, hrow⟩ := hclient
    obtain ⟨before, after, hsplit⟩ := List.append_of_mem hmem
    refine ⟨⟨client :: (before ++ after), i.stats⟩, ⟨?_, rfl⟩, ?_⟩
    · rw [hsplit]
      exact List.perm_middle
    · simp [UsageReader.rows, UsageReader.clientRows, hrow, firstRow]
  · refine ⟨i, ⟨.refl _, rfl⟩, ?_⟩
    rw [UsageReader.rows, firstRow_append, firstRow_eq_none.mpr hnone, Option.none_or]
    exact hleft

theorem exists_relisted (hr : CanComeFirst reader as r) :
    ∃ bs, Relisted reader as bs ∧
      firstRow ((readable reader bs).flatMap reader.rows) r.identifierHash = some r := by
  obtain ⟨i, hi, hlead⟩ := hr
  obtain ⟨j, hsame, hfirst⟩ := exists_sameInbound hlead
  rw [readable_eq, List.mem_filterMap] at hi
  obtain ⟨x, hx, hxi⟩ := hi
  obtain ⟨before, after, hsplit⟩ := List.append_of_mem hx
  have hparse (inbounds : List (Option InboundUsage)) :
      (inbounds.map (Option.map payloadOf)).map (Option.map reader.inboundUsage) = inbounds := by
    rw [List.map_map]
    refine (List.map_congr_left fun x _ => ?_).trans (List.map_id inbounds)
    cases x with
    | none => rfl
    | some y => exact congrArg some (inboundUsage_payloadOf y)
  refine ⟨(some j :: (before ++ after)).map (Option.map payloadOf),
    ⟨some i :: (before ++ after), ?_, ?_⟩, ?_⟩
  · rw [hsplit]
    obtain rfl : x = some i := hxi
    exact List.perm_middle
  · rw [hparse]
    refine .cons (.some hsame) (List.forall₂_same.mpr fun x _ => ?_)
    cases x with
    | none => exact .none
    | some y => exact .some ⟨.refl _, rfl⟩
  · rw [readable_eq, hparse]
    simp [firstRow_append, hfirst]

/-! ## Independence of the order -/

def PanelUsageStats.totals (s : PanelUsageStats) : ℤ × ℤ × ℤ :=
  (s.totalUploadBytes, s.totalDownloadBytes, s.totalUsedBytes)

/-- In every listing the totals, the count and the status are the same, no client counts twice,
and one with usable stats counts with its usage. -/
def OrderFree (reader : UsageReader) (as : List (Option JsonObject)) : Prop :=
  ∃ usage : String → ℤ × ℤ × ℤ, ∀ bs, Relisted reader as bs →
    (reader.collectPanelUsageStats bs).totals = (reader.collectPanelUsageStats as).totals ∧
    (reader.collectPanelUsageStats bs).clientsCount =
      (reader.collectPanelUsageStats as).clientsCount ∧
    (reader.collectPanelUsageStats bs).status = (reader.collectPanelUsageStats as).status ∧
    ((reader.collectPanelUsageStats bs).clients.map (·.identifierHash)).Nodup ∧
    (reader.collectPanelUsageStats bs).totals =
      ((reader.collectPanelUsageStats bs).clients.map (·.contribution)).sum ∧
    ∀ h, HasUsableStats reader as h → ∃ r ∈ (reader.collectPanelUsageStats bs).clients,
      r.identifierHash = h ∧ r.statsAvailable = true ∧ r.figures = usage h

/-- The tally of a collection. -/
theorem exists_counts (reader : UsageReader) (as : List (Option JsonObject)) :
    ∃ t : Tally, t.Counts ((readable reader as).flatMap reader.rows) ∧
      (reader.collectPanelUsageStats as).totals = t.totals ∧
      (reader.collectPanelUsageStats as).clients = t.clients ∧
      (reader.collectPanelUsageStats as).clientsCount = t.clients.length ∧
      (reader.collectPanelUsageStats as).status =
        if as.countP (·.isNone) ≠ 0 ∨ t.missingStats ≠ 0 then .partly else .ok :=
  ⟨_, counts_inbounds reader (readable reader as), rfl, rfl, rfl, rfl⟩

/-- An identifier has a row in both listings or in neither. -/
theorem firstRow_isSome_eq (hlist : Relisted reader as bs) (h : String) :
    (firstRow ((readable reader as).flatMap reader.rows) h).isSome =
      (firstRow ((readable reader bs).flatMap reader.rows) h).isSome := by
  have hperm := hlist.rows_perm.filterMap id
  rw [Bool.eq_iff_iff, firstRow, firstRow, List.find?_isSome, List.find?_isSome]
  simp only [hperm.mem_iff]

theorem relisted_refl (reader : UsageReader) (as : List (Option JsonObject)) :
    Relisted reader as as := by
  refine ⟨_, .refl _, List.forall₂_same.mpr fun x _ => ?_⟩
  cases x with
  | none => exact .none
  | some y => exact .some ⟨.refl _, rfl⟩

/-- Where the leaders agree, the first rows of two listings count the same. -/
theorem firstRow_agrees (hagree : LeadersAgree reader as) (hlist : Relisted reader as bs)
    (h : String) :
    (firstRow ((readable reader as).flatMap reader.rows) h).map (fun r =>
        (r.contribution, r.lacksStats)) =
      (firstRow ((readable reader bs).flatMap reader.rows) h).map (fun r =>
        (r.contribution, r.lacksStats)) := by
  have hsome := firstRow_isSome_eq hlist h
  cases ha : firstRow ((readable reader as).flatMap reader.rows) h with
  | none =>
      rw [ha, Option.isSome_none] at hsome
      have hb : firstRow ((readable reader bs).flatMap reader.rows) h = none := by
        rw [← Option.not_isSome_iff_eq_none, ← hsome]
        exact Bool.false_ne_true
      rw [hb]
  | some r =>
      rw [ha, Option.isSome_some] at hsome
      obtain ⟨r', hb⟩ := Option.isSome_iff_exists.mp hsome.symm
      rw [hb, Option.map_some, Option.map_some, Option.some_inj]
      have hr := canComeFirst_of_relisted (relisted_refl reader as) ha
      have hr' := canComeFirst_of_relisted hlist hb
      have hh := (firstRow_spec ha).2
      have hh' := (firstRow_spec hb).2
      by_cases husable : HasUsableStats reader as h
      · have hleads := hagree r hr (hh ▸ husable)
        have hleads' := hagree r' hr' (hh' ▸ husable)
        have hfigures := hleads.2 r' hr' (hh'.trans hh.symm)
        simp [UsageRow.contribution, UsageRow.lacksStats, hleads.1, hleads'.1, hfigures]
      · have hlacks (x : UsageRow) (hx : CanComeFirst reader as x) (hxh : x.identifierHash = h) :
            x.statsAvailable = false := by
          obtain ⟨i, hi, hlead⟩ := hx
          refine Bool.eq_false_iff.mpr fun hstats => husable ⟨i, hi, x, ?_, hxh, hstats⟩
          rw [UsageReader.rows, List.mem_append]
          rcases hlead with hclient | ⟨-, hleft⟩
          · exact Or.inl hclient
          · exact Or.inr (firstRow_spec hleft).1
        simp [UsageRow.contribution, UsageRow.lacksStats, hlacks r hr hh, hlacks r' hr' hh']

theorem exists_counted (husable : HasUsableStats reader as h) (hlist : Relisted reader as bs) :
    ∃ r, firstRow ((readable reader bs).flatMap reader.rows) h = some r := by
  obtain ⟨i, hi, r, hr, hh, -⟩ := husable
  rw [← Option.isSome_iff_exists, ← firstRow_isSome_eq hlist, firstRow, List.find?_isSome]
  refine ⟨r, ?_, by simpa using hh⟩
  rw [List.mem_filterMap]
  exact ⟨some r, List.mem_flatMap.mpr ⟨i, hi, hr⟩, rfl⟩

/-- The collection of a panel does not depend on the order of its inbounds and clients exactly
when the rows of a client that can come first all have stats, with the same figures. -/
theorem collectPanelUsageStats_orderFree_iff (reader : UsageReader)
    (as : List (Option JsonObject)) : OrderFree reader as ↔ LeadersAgree reader as := by
  constructor
  · rintro ⟨usage, hfree⟩
    have hleads (r : UsageRow) (hr : CanComeFirst reader as r)
        (husable : HasUsableStats reader as r.identifierHash) :
        r.statsAvailable = true ∧ r.figures = usage r.identifierHash := by
      obtain ⟨bs, hlist, hfirst⟩ := exists_relisted hr
      obtain ⟨x, hx, hhash, hstats, hfigures⟩ :=
        (hfree bs hlist).2.2.2.2.2 r.identifierHash husable
      obtain ⟨t, ht, -, hclients, -, -⟩ := exists_counts reader bs
      rw [hclients] at hx
      have hself := ht.find_self hx
      rw [hhash, hfirst, Option.some_inj] at hself
      subst hself
      exact ⟨hstats, hfigures⟩
    intro r hr husable
    refine ⟨(hleads r hr husable).1, fun r' hr' hhash => ?_⟩
    rw [(hleads r hr husable).2, (hleads r' hr' (hhash ▸ husable)).2, hhash]
  · intro hagree
    refine ⟨fun h => ((firstRow ((readable reader as).flatMap reader.rows) h).map (·.figures)).getD 0,
      fun bs hlist => ?_⟩
    obtain ⟨t, ht, htotals, -, hcount, hstatus⟩ := exists_counts reader as
    obtain ⟨t', ht', htotals', hclients', hcount', hstatus'⟩ := exists_counts reader bs
    have hpair := firstRow_agrees hagree hlist
    have hcontribution (h : String) : (firstRow ((readable reader as).flatMap reader.rows) h).map
        (·.contribution) = (firstRow ((readable reader bs).flatMap reader.rows) h).map
          (·.contribution) := by
      simpa [Option.map_map, Function.comp_def] using congrArg (Option.map Prod.fst) (hpair h)
    have hlacks (h : String) : (firstRow ((readable reader as).flatMap reader.rows) h).map
        (·.lacksStats) = (firstRow ((readable reader bs).flatMap reader.rows) h).map
          (·.lacksStats) := by
      simpa [Option.map_map, Function.comp_def] using congrArg (Option.map Prod.snd) (hpair h)
    have hsum := ht.sum_congr ht' (·.contribution) hcontribution
    have hmissing : t.missingStats = t'.missingStats := by
      rw [ht.missing, ht'.missing, hlist.rows_perm.countP_eq, ht.sum_congr ht' (·.lacksStats) hlacks]
    have hlength : t.clients.length = t'.clients.length := by
      simpa using (ht.hashes_perm ht' (firstRow_isSome_eq hlist)).length_eq
    refine ⟨?_, ?_, ?_, ?_, ?_, fun h husable => ?_⟩
    · rw [htotals, htotals', ht.totals, ht'.totals, hsum]
    · rw [hcount, hcount', hlength]
    · rw [hstatus, hstatus', hlist.errors_eq, hmissing]
    · rw [hclients']
      exact ht'.nodup
    · rw [htotals', hclients']
      exact ht'.totals
    · obtain ⟨r', hr'⟩ := exists_counted husable hlist
      obtain ⟨r, hr⟩ := exists_counted husable (relisted_refl reader as)
      have hh := (firstRow_spec hr).2
      have hh' := (firstRow_spec hr').2
      have hfirst := canComeFirst_of_relisted (relisted_refl reader as) hr
      have hfirst' := canComeFirst_of_relisted hlist hr'
      have hfind := ht'.find h
      rw [hr'] at hfind
      refine ⟨r', hclients' ▸ List.mem_of_find?_eq_some hfind, hh',
        (hagree r' hfirst' (hh' ▸ husable)).1, ?_⟩
      dsimp only
      rw [hr, Option.map_some, Option.getD_some]
      exact (hagree r hfirst (hh ▸ husable)).2 r' hfirst' (hh'.trans hh.symm)

/-! ## A client in two inbounds -/

/-- A reader of payloads whose only number is five. -/
def plainReader : UsageReader where
  rt :=
    { loads := fun _ => none
      lower := id
      reprOf := fun _ => ""
      converts := fun _ => true
      safeError := fun _ e => e }
  toInt _ := some 5
  digest := id

/-- The client has no stats in this inbound. -/
def bareInbound : JsonObject := payloadOf { clients := [[("email", .str "ali")]], stats := [] }

/-- The client has its stats in this one. -/
def meteredInbound : JsonObject :=
  payloadOf { clients := [[("email", .str "ali")]], stats := [[("email", .str "ali"), ("up", .int 5)]] }

/-- The traffic of the client counts in one order of the inbounds alone. -/
theorem bare_inbound_hides_usage :
    Relisted plainReader [some bareInbound, some meteredInbound]
        [some meteredInbound, some bareInbound] ∧
      (plainReader.collectPanelUsageStats [some bareInbound, some meteredInbound]).totals =
        (0, 0, 0) ∧
      (plainReader.collectPanelUsageStats [some meteredInbound, some bareInbound]).totals =
        (5, 0, 5) ∧
      ¬ OrderFree plainReader [some bareInbound, some meteredInbound] := by
  have hlist : Relisted plainReader [some bareInbound, some meteredInbound]
      [some meteredInbound, some bareInbound] :=
    ⟨[_, _], .swap _ _ [], .cons (.some ⟨.refl _, rfl⟩) (.cons (.some ⟨.refl _, rfl⟩) .nil)⟩
  have hbare : (plainReader.collectPanelUsageStats
      [some bareInbound, some meteredInbound]).totals = (0, 0, 0) := by decide +kernel
  have hmetered : (plainReader.collectPanelUsageStats
      [some meteredInbound, some bareInbound]).totals = (5, 0, 5) := by decide +kernel
  refine ⟨hlist, hbare, hmetered, ?_⟩
  rintro ⟨usage, hfree⟩
  have hsame := (hfree _ hlist).1
  rw [hbare, hmetered] at hsame
  exact absurd hsame (by decide)

end Qasedak.PanelUsage
