import Qasedak.Reconciliation.Checks

/-! What a client that is reported missing was missed in. The panel's answers are read
leniently: settings that do not parse are a list without clients. -/

namespace Qasedak.Reconciliation

open Foundation Store Orders Panels

/-! ## Complete answers -/

/-- A value that is a dict. -/
def IsObject (v : Json) : Prop := ∃ fields, v = .obj fields

/-- The settings parse to a list of clients. -/
def CompleteSettings (rt : Runtime) (data : JsonObject) : Prop :=
  ∃ items, field (parseXuiJsonObject rt (field data "settings")) "clients" = .arr items ∧
    ∀ v ∈ items, IsObject v

/-- The traffic rows of a value, where it has any and they parse. -/
def readableStats (rt : Runtime) : Json → Option (List Json)
  | .arr items => some items
  | .obj fields => some [.obj fields]
  | .str s =>
      if s = "" then some []
      else
        match rt.loads s with
        | some (.arr items) => some items
        | some (.obj fields) => some [.obj fields]
        | _ => none
  | v => if v.truthy then none else some []

/-- All the traffic rows parse. -/
def CompleteStats (rt : Runtime) (data : JsonObject) : Prop :=
  ∀ v ∈ clientStatsValues data, ∃ items, readableStats rt v = some items ∧ ∀ x ∈ items, IsObject x

/-- The clients that the settings are read as. -/
def readClients (rt : Runtime) (data : JsonObject) : List JsonObject :=
  objectsOf ((settingsClients rt data).getD [])

/-- The rows of the inbound: its clients and its traffic rows. -/
def panelRows (rt : Runtime) (data : JsonObject) : List JsonObject :=
  readClients rt data ++ parseXuiClientStats rt data

/-- A row of the panel carries an identity of the client, in any case of its letters. -/
def CarriesIdentity (rt : Runtime) (c : VPNClient) (row : JsonObject) : Prop :=
  ∃ v ∈ localIdentityValues c, rt.lower v ∈ (rowIdentities rt row).map rt.lower

/-- The complete evidence that a client is not on its panel. -/
def MissingEvidence (rt : Runtime) (db : Db) (answers : ScopeKey → PanelAnswer) (c : VPNClient) :
    Prop :=
  ∃ i p key data, clientInbound db c = some (i, p) ∧ scopeKeyForClient db c = some key ∧
    key.nodeId = strip i.xuiNodeId ∧ getInbound rt (answers key) = .ok (.obj data) ∧
    CompleteSettings rt data ∧ CompleteStats rt data ∧
    ∀ row ∈ panelRows rt data, ¬ CarriesIdentity rt c row

/-- Every client of the check is classified, and none as missing without the evidence. -/
def SoundChecks (rt : Runtime) (db : Db) (answers : ScopeKey → PanelAnswer)
    (clients : List VPNClient) (checks : List ClientCheck) : Prop :=
  (∀ c ∈ clients, ∃ check ∈ checks, check.client = c) ∧
    ∀ check ∈ checks, check.status = .remoteMissing → MissingEvidence rt db answers check.client

/-! ## The rows that are read -/

/-- The positions and the fields of the clients in the settings. -/
def settingsRows (rt : Runtime) (data : JsonObject) : List (JsonObject × ℕ) :=
  indexedObjects ((settingsClients rt data).getD [])

/-- The traffic rows that belong to no client. -/
def looseRows (rt : Runtime) (data : JsonObject) : List (JsonObject × ℕ) :=
  looseStats rt (parseXuiClientStats rt data) (readClients rt data)

/-- The rows that an answer is read as. -/
def remoteRows (rt : Runtime) (i : Inbound) (data : JsonObject) : List RemoteRow :=
  (settingsRows rt data).map (clientRow rt i (parseXuiClientStats rt data)) ++
    (looseRows rt data).map (statsRow rt i)

/-- The numbers and dates of all those rows convert. -/
def RowsConvert (rt : Runtime) (data : JsonObject) : Prop :=
  ∀ row ∈ settingsRows rt data ++ looseRows rt data, rt.converts row.1 = true

theorem normalizeRemoteClients_of_list {rt : Runtime} {i : Inbound} {data : JsonObject}
    {items : List Json} (h : settingsClients rt data = some items) (hrows : RowsConvert rt data) :
    normalizeRemoteClients rt i data = some (remoteRows rt i data, true) := by
  have hclients : (indexedObjects items).map Prod.fst = readClients rt data := by
    simp [readClients, h, map_fst_indexedObjects]
  simp only [RowsConvert, settingsRows, looseRows, h, Option.getD_some] at hrows
  have hall : (indexedObjects items ++ looseStats rt (parseXuiClientStats rt data)
      (readClients rt data)).all (fun row => rt.converts row.1) = true :=
    List.all_eq_true.mpr hrows
  simp only [normalizeRemoteClients, h, hclients, hall, ite_true, remoteRows, settingsRows,
    looseRows, Option.getD_some]

theorem normalizeRemoteClients_of_not_convert {rt : Runtime} {i : Inbound} {data : JsonObject}
    {items : List Json} (h : settingsClients rt data = some items)
    (hrows : ¬ RowsConvert rt data) : normalizeRemoteClients rt i data = none := by
  have hclients : (indexedObjects items).map Prod.fst = readClients rt data := by
    simp [readClients, h, map_fst_indexedObjects]
  simp only [RowsConvert, settingsRows, looseRows, h, Option.getD_some] at hrows
  have hall : ¬ (indexedObjects items ++ looseStats rt (parseXuiClientStats rt data)
      (readClients rt data)).all (fun row => rt.converts row.1) = true :=
    fun hall => hrows (List.all_eq_true.mp hall)
  simp only [normalizeRemoteClients, h, hclients]
  rw [if_neg hall]

theorem normalizeRemoteClients_of_none {rt : Runtime} {i : Inbound} {data : JsonObject}
    (h : settingsClients rt data = none) :
    normalizeRemoteClients rt i data = some ([], false) := by
  simp [normalizeRemoteClients, h]

/-! ## Which rows name a client -/

/-- A row of the answer names the client in a way that the code compares. -/
def NamedInAnswer (rt : Runtime) (i : Inbound) (data : JsonObject) (c : VPNClient) : Prop :=
  ∃ row ∈ remoteRows rt i data, matchesRow rt c row = true

/-- A traffic row that was merged into a client's has the uuid of the local client. -/
def NamedByMergedUuid (rt : Runtime) (data : JsonObject) (c : VPNClient) : Prop :=
  ∃ client ∈ readClients rt data, ∃ j s,
    relatedClientStats rt (parseXuiClientStats rt data) client = some j ∧
    (parseXuiClientStats rt data)[j]? = some s ∧
    ∃ v ∈ localIdentityValues c,
      rt.lower v ∈ (strippedText (stringOf rt (field s "uuid"))).map rt.lower

theorem lookupValues_subset_remoteValues {rt : Runtime} {sources : List JsonObject}
    {source : JsonObject} (h : source ∈ sources) {v : String} (hv : v ∈ lookupValues rt source) :
    v ∈ remoteValuesFromSources rt sources :=
  List.mem_flatMap.mpr ⟨source, h, List.mem_append_left _ hv⟩

theorem mem_values_of_lookup {rt : Runtime} {i : Inbound} {index : RowIndex}
    {sources : List JsonObject} {normalized : XUIClient} {source : JsonObject}
    (h : source ∈ sources) {v : String} (hv : v ∈ lookupValues rt source) :
    v ∈ (remoteRow rt i index sources normalized).values :=
  lookupValues_subset_remoteValues (List.mem_append_left _ h) hv

theorem mem_values_remoteClientId {rt : Runtime} {i : Inbound} {index : RowIndex}
    {sources : List JsonObject} {normalized : XUIClient}
    (h : strip normalized.remoteClientId ≠ "") :
    strip normalized.remoteClientId ∈ (remoteRow rt i index sources normalized).values := by
  refine lookupValues_subset_remoteValues (List.mem_append_right _ List.mem_cons_self) ?_
  refine List.mem_flatMap.mpr ⟨"id", by simp [clientIdentifierFields], ?_⟩
  have hid : field [("id", Json.str normalized.remoteClientId)] "id" =
      .str normalized.remoteClientId := rfl
  rw [hid]
  simp [identifierTexts, Runtime.strOf, strippedText, h]

theorem strip_stringOf (rt : Runtime) (v : Json) : strip (stringOf rt v) = stringOf rt v := by
  rw [stringOf, strip_strip]

/-- What a row carries is among the values that it is read as, when its own fields and its
own normalised id are. -/
theorem rowIdentities_subset_values {rt : Runtime} {i : Inbound} {index : RowIndex}
    {sources : List JsonObject} {row : JsonObject} (h : row ∈ sources) {v : String}
    (hv : v ∈ rowIdentities rt row) :
    v ∈ (remoteRow rt i index sources (normalizeClient rt row)).values := by
  rcases List.mem_append.mp hv with hv | hv
  · exact mem_values_of_lookup h hv
  · obtain ⟨hstrip, hne⟩ := strip_eq_of_mem_strippedText hv
    rw [strip_stringOf] at hstrip hne
    have hid := remoteClientId_of_uuid hne
    have hidstrip : strip (normalizeClient rt row).remoteClientId = v := by
      rw [hid, strip_stringOf, hstrip]
    have hmem : strip (normalizeClient rt row).remoteClientId ∈
        (remoteRow rt i index sources (normalizeClient rt row)).values :=
      mem_values_remoteClientId (by rw [hidstrip, hstrip]; exact hne)
    rwa [hidstrip] at hmem

theorem matchesRow_of_value {rt : Runtime} {i : Inbound} {index : RowIndex}
    {sources : List JsonObject} {normalized : XUIClient} {c : VPNClient} {v w : String}
    (hv : v ∈ localIdentityValues c) (hw : rt.lower v = rt.lower w)
    (hmem : w ∈ (remoteRow rt i index sources normalized).values) :
    matchesRow rt c (remoteRow rt i index sources normalized) = true := by
  have hlower : rt.lower v ∈ (remoteRow rt i index sources normalized).valuesLower := by
    rw [hw]
    exact List.mem_map_of_mem hmem
  rw [matchesRow, Bool.or_eq_true]
  exact .inr (List.any_eq_true.mpr ⟨v, hv, by simpa using hlower⟩)

/-- Where no row names the client, a row carries none of its identities, unless it is a
traffic row that was merged into a client's. -/
theorem not_carriesIdentity {rt : Runtime} {i : Inbound} {data : JsonObject} {c : VPNClient}
    (hnamed : ¬ NamedInAnswer rt i data c) (hmerged : ¬ NamedByMergedUuid rt data c)
    {row : JsonObject} (hrow : row ∈ panelRows rt data) : ¬ CarriesIdentity rt c row := by
  rintro ⟨v, hv, hlower⟩
  obtain ⟨w, hw, hwv⟩ := List.mem_map.mp hlower
  rcases List.mem_append.mp hrow with hclient | hstats
  · -- a client's own row
    have hmem : row ∈ (settingsRows rt data).map Prod.fst := by
      rw [settingsRows, map_fst_indexedObjects]
      exact hclient
    obtain ⟨⟨_, index⟩, hindexed, rfl⟩ := List.mem_map.mp hmem
    refine hnamed ⟨_, List.mem_append_left _ (List.mem_map_of_mem hindexed), ?_⟩
    exact matchesRow_of_value hv hwv.symm (rowIdentities_subset_values List.mem_cons_self hw)
  · obtain ⟨j, hj, hget⟩ := List.mem_iff_getElem.mp hstats
    by_cases hconsumed : j ∈ consumedStats rt (parseXuiClientStats rt data) (readClients rt data)
    · -- merged into a client's row
      obtain ⟨client, hclient, hrelated⟩ := List.mem_filterMap.mp hconsumed
      have hsome : (parseXuiClientStats rt data)[j]? = some row := by
        rw [List.getElem?_eq_getElem hj, hget]
      rcases List.mem_append.mp hw with hlookup | huuid
      · have hmem : client ∈ (settingsRows rt data).map Prod.fst := by
          rw [settingsRows, map_fst_indexedObjects]
          exact hclient
        obtain ⟨⟨_, index⟩, hindexed, rfl⟩ := List.mem_map.mp hmem
        refine hnamed ⟨_, List.mem_append_left _ (List.mem_map_of_mem hindexed), ?_⟩
        refine matchesRow_of_value hv hwv.symm (mem_values_of_lookup ?_ hlookup)
        simp [hrelated, hsome]
      · exact hmerged ⟨client, hclient, j, row, hrelated, hsome, v, hv,
          List.mem_map.mpr ⟨w, huuid, hwv⟩⟩
    · -- a traffic row of its own
      have hmem : (row, j) ∈ looseRows rt data := by
        refine List.mem_filter.mpr ⟨?_, by simpa using hconsumed⟩
        rw [List.mk_mem_zipIdx_iff_getElem?, List.getElem?_eq_getElem hj, hget]
      refine hnamed ⟨_, List.mem_append_right _ (List.mem_map_of_mem hmem), ?_⟩
      exact matchesRow_of_value hv hwv.symm (rowIdentities_subset_values List.mem_cons_self hw)

end Qasedak.Reconciliation
