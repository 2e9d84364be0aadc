import Qasedak.Store.Naming

/-! What `store/xui_api.rt` and `store/xui_compat/normalizers.rt` read out of the JSON of an
X-UI panel. -/

namespace Qasedak.Panels

open Store

/-- A decoded JSON value. A float is known by its `repr`. -/
inductive Json where
  | null
  | bool (b : Bool)
  | int (n : ℤ)
  | float (text : String)
  | str (s : String)
  | arr (items : List Json)
  | obj (fields : List (String × Json))

/-- A `dict` of JSON values. -/
abbrev JsonObject := List (String × Json)

/-- What the code uses of Python and of its own cleaning of texts. -/
structure Runtime where
  /-- `json.loads`; none where it raises. -/
  loads : String → Option Json
  /-- `str.lower`. -/
  lower : String → String
  /-- `str` of a list or a dict. -/
  reprOf : Json → String
  /-- The numbers, dates and nested traffic of a row that `normalize_client` converts. -/
  converts : JsonObject → Bool
  /-- `_safe_error`, for the panel with a key. -/
  safeError : ℕ → String → String

/-! ## Values -/

/-- `data.get(key)`, where a missing key reads as null. -/
def field (data : JsonObject) (key : String) : Json := (data.lookup key).getD .null

/-- `bool(value)`. -/
def Json.truthy : Json → Bool
  | .null => false
  | .bool b => b
  | .int n => n ≠ 0
  | .float text => text ≠ "0.0" && text ≠ "-0.0"
  | .str s => s ≠ ""
  | .arr items => !items.isEmpty
  | .obj fields => !fields.isEmpty

/-- The name of a value's type. -/
def Json.typeName : Json → String
  | .null => "NoneType"
  | .bool _ => "bool"
  | .int _ => "int"
  | .float _ => "float"
  | .str _ => "str"
  | .arr _ => "list"
  | .obj _ => "dict"

/-- `str(value)`. -/
def Runtime.strOf (rt : Runtime) : Json → String
  | .null => "None"
  | .bool b => if b then "True" else "False"
  | .int n => toString n
  | .float text => text
  | .str s => s
  | v => rt.reprOf v

/-- The dicts of a list. -/
def objectsOf (items : List Json) : List JsonObject :=
  items.filterMap fun v =>
    match v with
    | .obj fields => some fields
    | _ => none

/-- The dicts of a list with their positions. -/
def indexedObjects (items : List Json) : List (JsonObject × ℕ) :=
  items.zipIdx.filterMap fun v =>
    match v.1 with
    | .obj fields => some (fields, v.2)
    | _ => none

theorem map_fst_indexedObjects (items : List Json) :
    (indexedObjects items).map Prod.fst = objectsOf items := by
  have h : ∀ n, ((items.zipIdx n).filterMap fun v : Json × ℕ =>
      match v.1 with
      | .obj fields => some (fields, v.2)
      | _ => none).map Prod.fst = objectsOf items := by
    induction items with
    | nil => exact fun _ => rfl
    | cons v items ih =>
        intro n
        have hrest := ih (n + 1)
        cases v <;> simp_all [objectsOf, List.zipIdx_cons]
  exact h 0

/-- `parse_xui_json_object`. `json.loads` refuses what is not a text. -/
def parseXuiJsonObject (rt : Runtime) : Json → JsonObject
  | .obj fields => fields
  | .str s =>
      if s = "" then []
      else
        match rt.loads s with
        | some (.obj fields) => fields
        | _ => []
  | _ => []

/-- `parse_xui_json_list_or_single`. -/
def parseXuiJsonListOrSingle (rt : Runtime) : Json → List Json
  | .arr items => items
  | .obj fields => [.obj fields]
  | .str s =>
      if s = "" then []
      else
        match rt.loads s with
        | some (.arr items) => items
        | some (.obj fields) => [.obj fields]
        | _ => []
  | _ => []

/-- The keys under which panels send the traffic rows. -/
def clientStatsKeys : List String := ["clientStats", "client_stats", "clientTraffics", "client_traffics"]

/-- The values under those keys, in the inbound and in its nested `obj`. -/
def clientStatsValues (data : JsonObject) : List Json :=
  clientStatsKeys.map (field data) ++
    match field data "obj" with
    | .obj nested => clientStatsKeys.map (field nested)
    | _ => []

/-- `parse_xui_client_stats`. -/
def parseXuiClientStats (rt : Runtime) (data : JsonObject) : List JsonObject :=
  (clientStatsValues data).flatMap fun v => objectsOf (parseXuiJsonListOrSingle rt v)

/-! ## Identifiers -/

/-- `CLIENT_IDENTIFIER_FIELDS`. -/
def clientIdentifierFields : List String :=
  ["id", "email", "password", "subId", "sub_id", "remark", "name", "tgId"]

/-- The stripped text of a value, unless it is blank. -/
def strippedText (text : String) : List String :=
  if strip text = "" then [] else [strip text]

/-- What `lookup_values` takes from one field. -/
def identifierTexts (rt : Runtime) : Json → List String
  | .arr items => items.flatMap fun v => strippedText (rt.strOf v)
  | .null => []
  | v => strippedText (rt.strOf v)

/-- `lookup_values`. -/
def lookupValues (rt : Runtime) (data : JsonObject) : List String :=
  clientIdentifierFields.flatMap fun key => identifierTexts rt (field data key)

/-- Two rows share a value, in any case of its letters. -/
def sharesValue (rt : Runtime) (values values' : List String) : Bool :=
  values.any fun v => (values'.map rt.lower).contains (rt.lower v)

/-- `related_client_stats` of a client: the position of its traffic row. -/
def relatedClientStats (rt : Runtime) (stats : List JsonObject) (client : JsonObject) : Option ℕ :=
  stats.findIdx? fun s => sharesValue rt (lookupValues rt s) (lookupValues rt client)

/-! ## `normalize_client` -/

/-- `_first`. -/
def firstOf (values : List Json) : Json :=
  (values.find? fun v =>
    match v with
    | .null => false
    | .str s => s ≠ ""
    | _ => true).getD .null

/-- `_string`: `str(value or "").strip()`. -/
def stringOf (rt : Runtime) (v : Json) : String := strip (if v.truthy then rt.strOf v else "")

/-- `_bool_or_none`. -/
def boolOrNone (rt : Runtime) : Json → Option Bool
  | .null => none
  | .str s =>
      if s = "" then none
      else some (["1", "true", "yes", "on", "enabled", "online"].contains (rt.lower (strip s)))
  | .bool b => some b
  | .int n => some (Json.int n).truthy
  | .float text => some (Json.float text).truthy
  | v =>
      some (["1", "true", "yes", "on", "enabled", "online"].contains
        (rt.lower (strip (rt.strOf v))))

/-- `XUIClient`. -/
structure XUIClient where
  remoteClientId : String
  enabled : Option Bool
  deriving DecidableEq, Repr

/-- `normalize_client`, on a row that converts. -/
def normalizeClient (rt : Runtime) (payload : JsonObject) : XUIClient where
  remoteClientId := stringOf rt (firstOf [field payload "uuid", field payload "id",
    field payload "password", field payload "email"])
  enabled := boolOrNone rt (field payload "enable")

/-! ## Panel errors -/

/-- The errors that a panel request ends with. -/
inductive XuiException where
  /-- `XUIAmbiguousScopeError`. -/
  | ambiguousScope (text : String)
  /-- `XUIUnknownSafeModeError`. -/
  | unknownSafeMode (text : String)
  /-- A time-out, a lost connection or a proxy error of the transport. -/
  | network
  | other (text : String)
  deriving DecidableEq, Repr

/-- The answer to the request for an inbound: the error that the login, the transport or the
decoding ended with, or the decoded body. -/
inductive PanelAnswer where
  | raised (e : XuiException)
  | body (v : Json)

/-- `get_inbound`: `obj or {}` of an answer with success. -/
def getInbound (rt : Runtime) : PanelAnswer → Except XuiException Json
  | .raised e => .error e
  | .body (.obj data) =>
      if (field data "success").truthy then
        .ok (if (field data "obj").truthy then field data "obj" else .obj [])
      else
        .error (.other (if (field data "msg").truthy then rt.strOf (field data "msg")
          else "Inbound was not found on panel."))
  | .body v => .error (.other ("'" ++ v.typeName ++ "' object has no attribute 'get'"))

/-! ## What a row carries -/

/-- Every identity that a row of the panel carries: its identifier fields and its uuid. -/
def rowIdentities (rt : Runtime) (row : JsonObject) : List String :=
  lookupValues rt row ++ strippedText (stringOf rt (field row "uuid"))

theorem strip_eq_of_mem_strippedText {text v : String} (h : v ∈ strippedText text) :
    v = strip text ∧ strip text ≠ "" := by
  unfold strippedText at h
  split at h
  · cases h
  · rename_i hne
    exact ⟨List.mem_singleton.mp h, hne⟩

theorem strip_empty : strip "" = "" := by
  rw [strip]
  rfl

/-- A uuid that is not blank is the id that a row is normalised to. -/
theorem remoteClientId_of_uuid {rt : Runtime} {row : JsonObject}
    (h : stringOf rt (field row "uuid") ≠ "") :
    (normalizeClient rt row).remoteClientId = stringOf rt (field row "uuid") := by
  unfold normalizeClient firstOf
  cases huuid : field row "uuid" with
  | null =>
      simp only [huuid, stringOf, Json.truthy] at h
      exact absurd strip_empty h
  | str s =>
      by_cases hs : s = ""
      · subst hs
        simp only [huuid, stringOf, Json.truthy, ne_eq, not_true_eq_false, decide_false,
          Bool.false_eq_true, ite_false] at h
        exact absurd strip_empty h
      · simp [hs]
  | bool b => simp
  | int n => simp
  | float text => simp
  | arr items => simp
  | obj fields => simp

end Qasedak.Panels
