import Qasedak.Panels.PanelJson

/-! How `store/xui_api.py` finds a client and its traffic row in the JSON of an inbound, and what the
operations that start from there send to the panel. -/

namespace Qasedak.Panels

open Store

variable (rt : Runtime)

/-! ## Matching -/

/-- A text is an identifier, in any case of its letters. -/
def sameText (text identifier : String) : Bool :=
  text ≠ "" && (text = identifier || rt.lower text = rt.lower identifier)

/-- The values of a field: those of its list, or the one that it has. -/
def candidatesOf : Json → List Json
  | .arr items => items
  | v => [v]

/-- A field of the row has the identifier. -/
def fieldMatches (data : JsonObject) (identifier key : String) : Bool :=
  (candidatesOf (field data key)).any fun v => sameText rt (stringOf rt v) (strip identifier)

/-- `match_client_identifier`: the first field that has the identifier. -/
def matchedField (data : JsonObject) (identifier : String) : Option String :=
  if strip identifier = "" then none
  else clientIdentifierFields.find? (fieldMatches rt data identifier)

/-- A client of the list, which may hold other values. -/
def clientOf : Json → Option JsonObject
  | .obj fields => some fields
  | _ => none

/-- The row shares a value with the client, or has the identifier. -/
def relatedRow (client : JsonObject) (identifier : String) (row : JsonObject) : Bool :=
  (matchedField rt row identifier).isSome ||
    (lookupValues rt row).any fun v =>
      (strip identifier ≠ "" && rt.lower v = rt.lower (strip identifier)) ||
        ((lookupValues rt client).map rt.lower).contains (rt.lower v)

/-- `related_client_stats`. -/
def relatedStats (rows : List JsonObject) (client : Option JsonObject) (identifier : String) :
    Option JsonObject :=
  rows.find? (relatedRow rt (client.getD []) identifier)

/-- `settings.get("clients") or []`, where that is a list. -/
def clientsOf (settings : JsonObject) : List Json :=
  match field settings "clients" with
  | .arr items => items
  | _ => []

/-- The last loop of `find_xui_client_and_stats`, for a traffic row without a client. -/
def clientOfStats (row : JsonObject) : List Json → Except String (Option JsonObject)
  | [] => .ok none
  | .obj c :: clients =>
      if stringOf rt (field row "email") ≠ "" ∧
            stringOf rt (field c "email") = stringOf rt (field row "email") ∨
          stringOf rt (field row "id") ≠ "" ∧
            stringOf rt (field c "id") = stringOf rt (field row "id") then
        .ok (some c)
      else clientOfStats row clients
  | v :: _ => .error ("'" ++ v.typeName ++ "' object has no attribute 'get'")

structure FoundClient where
  client : Option JsonObject
  stats : Option JsonObject
  matchedField : String

/-- The first client of the list with the identifier. -/
def firstClient (clients : List Json) (identifier : String) : Option JsonObject :=
  (clients.filterMap clientOf).find? fun c => (matchedField rt c identifier).isSome

/-- `find_xui_client_and_stats`. -/
def findXuiClientAndStats (data : JsonObject) (identifier : String) : Except String FoundClient :=
  let clients := clientsOf (parseXuiJsonObject rt (field data "settings"))
  let rows := parseXuiClientStats rt data
  let target := firstClient rt clients identifier
  let stats := relatedStats rt rows target identifier
  match target, stats with
  | some c, stats => .ok ⟨some c, stats, (matchedField rt c identifier).getD ""⟩
  | none, none => .ok ⟨none, none, ""⟩
  | none, some row =>
      match clientOfStats rt row clients with
      | .error e => .error e
      | .ok target =>
          .ok ⟨target, some row, (matchedField rt row identifier).getD "clientStats"⟩

/-- `_find_client_in_inbound`, with the inbound as the panel answers it. -/
def findInInbound (data : JsonObject) (identifier : String) : Except String FoundClient :=
  if strip identifier = "" then .error "Client identifier is required."
  else
    match findXuiClientAndStats rt data (strip identifier) with
    | .error e => .error e
    | .ok found =>
        if found.client.isNone ∧ found.stats.isNone then
          .error "Client identifier was not found on this inbound."
        else .ok found

/-- `_client_api_identifier`, of the JSON of a client. -/
def jsonApiIdentifier (client : JsonObject) (identifier : String) : String :=
  ((["id", "uuid", "password"].map fun key => stringOf rt (field client key)).find? (· ≠ "")).getD
    (strip identifier)

/-! ## What is sent -/

/-- `data[key] = value`. -/
def setField (data : JsonObject) (key : String) (value : Json) : JsonObject :=
  (key, value) :: data.filter fun x => x.1 ≠ key

theorem lookup_filter_ne (data : JsonObject) {key key' : String} (h : key' ≠ key) :
    (data.filter fun x => x.1 ≠ key).lookup key' = data.lookup key' := by
  induction data with
  | nil => rfl
  | cons x data ih =>
      obtain ⟨k, v⟩ := x
      by_cases hk : k = key
      · have hne : key' ≠ k := fun heq => h (heq.trans hk)
        rw [List.filter_cons_of_neg (by simp [hk]), ih, List.lookup_cons, beq_eq_false_iff_ne.mpr hne]
      · rw [List.filter_cons_of_pos (by simp [hk]), List.lookup_cons, List.lookup_cons, ih]

theorem field_setField (data : JsonObject) (key key' : String) (value : Json) :
    field (setField data key value) key' = if key' = key then value else field data key' := by
  by_cases h : key' = key
  · simp [field, setField, h]
  · rw [if_neg h, field, setField, List.lookup_cons, beq_eq_false_iff_ne.mpr h]
    dsimp only
    rw [lookup_filter_ne data h, field]

/-- A request that changes clients of the inbound: the client API addresses a client by its
credential or, on the modern panels, by its email. -/
inductive PanelWrite where
  | delete (identifier email : String)
  | update (identifier : String) (client : JsonObject) (email : String)
  | deleteTraffic (email : String)
  | resetTraffic (email : String)

/-- The email that an operation on a client sends. -/
def sentEmail (found : FoundClient) : String :=
  let client := found.client.getD []
  let stats := found.stats.getD []
  stringOf rt (if (field client "email").truthy then field client "email" else field stats "email")

/-- What `delete_client_from_inbound` sends; an answer other than success or "not found" ends it. -/
def deleteClientFromInbound (scope : String → Except String Unit) (data : JsonObject)
    (identifier : String) (accepted : Bool) : List PanelWrite :=
  match findInInbound rt data identifier with
  | .error _ => []
  | .ok found =>
      let email := sentEmail rt found
      let api := jsonApiIdentifier rt (found.client.getD []) identifier
      if api = "" then []
      else
        match scope api with
        | .error _ => []
        | .ok () =>
            .delete api email :: if accepted = true ∧ email ≠ "" then [.deleteTraffic email] else []

/-- The limits that an update writes; none is left alone. -/
structure ClientLimits where
  totalGB : Option ℕ := none
  expiryTime : Option ℤ := none
  enable : Option Bool := none
  limitIp : Option ℕ := none

/-- A field that is written, where there is a value for it. -/
def setOptional (data : JsonObject) (key : String) : Option Json → JsonObject
  | none => data
  | some value => setField data key value

def applyLimits (client : JsonObject) (limits : ClientLimits) : JsonObject :=
  setOptional (setOptional (setOptional (setOptional client
    "totalGB" (limits.totalGB.map fun n => .int n))
    "expiryTime" (limits.expiryTime.map .int))
    "enable" (limits.enable.map .bool))
    "limitIp" (limits.limitIp.map fun n => .int n)

/-- What `update_client_traffic_and_expiry` sends. -/
def updateClientTrafficAndExpiry (scope : String → Except String Unit) (data : JsonObject)
    (identifier : String) (limits : ClientLimits) : List PanelWrite :=
  match findInInbound rt data identifier with
  | .error _ => []
  | .ok found =>
      match found.client with
      | none => []
      | some client =>
          let api := jsonApiIdentifier rt client identifier
          if api = "" then []
          else
            match scope api with
            | .error _ => []
            | .ok () => [.update api (applyLimits client limits) (sentEmail rt found)]

/-! ## Local services -/

/-- What a local client says of itself; the email is `xui_email or username`. -/
structure LocalService where
  uuid : String
  email : String

/-- `client.get(key) == text`. -/
def fieldIs (client : JsonObject) (key text : String) : Bool :=
  match field client key with
  | .str s => s = text
  | _ => false

def servesLocal (s : LocalService) (client : JsonObject) : Bool :=
  fieldIs client "id" s.uuid || fieldIs client "email" s.email

/-- The client of a local service: the first with its id or its email. -/
def findServed (s : LocalService) : List Json → Except String JsonObject
  | [] => .error "Client UUID was not found on the panel."
  | .obj c :: clients => if servesLocal s c then .ok c else findServed s clients
  | v :: _ => .error ("'" ++ v.typeName ++ "' object has no attribute 'get'")

/-- `json.loads(inbound_data.get("settings") or "")` with the clients in it, where a blank text is
an empty object. -/
def loadedClients (data : JsonObject) : Except String (List Json) :=
  match field data "settings" with
  | .str text =>
      if text = "" then .ok []
      else
        match rt.loads text with
        | some (.obj settings) => .ok (clientsOf settings)
        | _ => .error "Inbound settings could not be parsed."
  | v => if v.truthy then .error "Inbound settings could not be parsed." else .ok []

/-- What a renewal has come to: whether its update and its reset of the traffic are done. -/
structure RenewalProgress where
  updated : Bool
  reset : Bool

/-- What `update_client_subscription` sends, given what the renewal intent allows. -/
def sendSubscription (scope : String → Except String Unit)
    (intent : JsonObject → Except String RenewalProgress) (data : JsonObject) (s : LocalService)
    (limits : ClientLimits) : List PanelWrite :=
  match scope s.uuid, loadedClients rt data with
  | .ok (), .ok clients =>
      match findServed s clients with
      | .error _ => []
      | .ok target =>
          match intent target with
          | .error _ => []
          | .ok progress =>
              (if progress.updated = true then []
                else [.update s.uuid (applyLimits target limits) (strip s.email)]) ++
                if progress.reset = true ∨ strip s.email = "" then []
                else [.resetTraffic (strip s.email)]
  | _, _ => []

/-- What `add_client_traffic` sends. -/
def sendTraffic (scope : String → Except String Unit) (data : JsonObject) (s : LocalService)
    (limits : ClientLimits) : List PanelWrite :=
  match scope s.uuid, loadedClients rt data with
  | .ok (), .ok clients =>
      match findServed s clients with
      | .error _ => []
      | .ok target => [.update s.uuid (applyLimits target limits) (strip s.email)]
  | _, _ => []

end Qasedak.Panels
