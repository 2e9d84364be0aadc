import Mathlib
import Qasedak.Panels.PanelJson

/-! `store/external_subscription_sources.py`: what is read out of a raw config link, and the policy
that selects among the configs. -/

namespace Qasedak.NativeConfigs

open Store Panels

/-- `urlsplit`, with the port where `parts.port` does not raise. -/
structure UrlParts where
  query : String
  fragment : String
  hostname : String
  port : Option ℕ

/-- What the parsing uses of Python's library. -/
structure LinkReader where
  rt : Runtime
  /-- `int` of a text; none where it raises. -/
  intOfText : String → Option ℤ
  /-- `int` of a float; none where it raises. -/
  intOfFloat : String → Option ℤ
  /-- `urlsplit`; none where it raises. -/
  urlsplit : String → Option UrlParts
  /-- `parse_qs` with blank values, in the order of the first use of a key. -/
  parseQs : String → List (String × List String)
  unquote : String → String
  /-- `base64.urlsafe_b64decode` and `decode("utf-8", "replace")`; none where they raise. -/
  decodeBase64 : String → Option String

variable (reader : LinkReader)

/-- `int(value)` of a JSON value; none where it raises. -/
def LinkReader.toInt : Json → Option ℤ
  | .bool b => some (if b then 1 else 0)
  | .int n => some n
  | .float text => reader.intOfFloat text
  | .str s => reader.intOfText s
  | _ => none

/-- `text[:n]`. -/
def takeText (n : ℕ) (s : String) : String := String.ofList (s.toList.take n)

/-- `ALL_DYNAMIC_PROTOCOLS`. -/
def allDynamicProtocols : List String :=
  ["vless", "vmess", "trojan", "ss", "hysteria2", "wireguard"]

/-- `ALL_DYNAMIC_SECURITY`. -/
def allDynamicSecurity : List String := ["reality", "tls", "none"]

/-- `ALL_DYNAMIC_TRANSPORTS`. -/
def allDynamicTransports : List String :=
  ["tcp", "raw", "grpc", "ws", "xhttp", "splithttp", "http", "httpupgrade", "kcp", "quic", "udp",
    "wireguard"]

/-! ## Links -/

structure ParsedNativeConfig where
  rawLink : String
  protocol : String
  security : String := "none"
  transport : String := "tcp"
  remark : String := ""
  host : String := ""
  port : Option ℕ := none
  hasPbk : Bool := false
  valid : Bool := false
  validationReason : String := ""
  deriving DecidableEq, Repr

/-- `value or default` of a text. -/
def orText (value default : String) : String := if value = "" then default else value

/-- `_canonical_protocol`. -/
def LinkReader.canonicalProtocol (value : String) : String :=
  let protocol := reader.rt.lower (strip value)
  if protocol = "hy2" then "hysteria2" else protocol

/-- `_as_positive_int`. -/
def LinkReader.asPositiveInt (value : Json) (default : Option ℕ) (maxValue : ℕ) : Option ℕ :=
  match reader.toInt value with
  | none => default
  | some number => if number ≤ 0 then default else some (min number.toNat maxValue)

/-- `_parsed`. -/
def LinkReader.parsed (rawLink protocol security transport remark host : String) (port : Option ℕ)
    (hasPbk valid : Bool) (reason : String) : ParsedNativeConfig where
  rawLink := rawLink
  protocol := reader.canonicalProtocol protocol
  security := orText (reader.rt.lower (strip (orText security "none"))) "none"
  transport := orText (reader.rt.lower (strip (orText transport "tcp"))) "tcp"
  remark := takeText 255 remark
  host := takeText 255 host
  port := port
  hasPbk := hasPbk
  valid := valid
  validationReason := reason

/-- `_query_first`: the first value of the first key that has values. -/
def LinkReader.queryFirst (query : List (String × List String)) (keys : List String)
    (default : String) : String :=
  match keys.findSome? fun key => ((query.lookup key).getD []).head? with
  | some value => reader.rt.lower (strip value)
  | none => default

/-- `_query_has`. -/
def queryHas (query : List (String × List String)) (keys : List String) : Bool :=
  keys.any fun key => ((query.lookup key).getD []).any fun value => strip value ≠ ""

/-- The query with its keys in lower case; of two equal keys the later one stays. -/
def LinkReader.lowerQuery (query : String) : List (String × List String) :=
  ((reader.parseQs query).map fun x => (reader.rt.lower x.1, x.2)).reverse

/-- `payload + "=" * (-len(payload) % 4)`. -/
def padBase64 (payload : String) : String :=
  payload ++ String.ofList (List.replicate ((4 - payload.toList.length % 4) % 4) '=')

/-- `_decode_vmess_payload`. -/
def LinkReader.decodeVmessPayload (payload : String) : JsonObject :=
  if strip payload = "" then []
  else
    match (reader.decodeBase64 (padBase64 (strip payload))).bind reader.rt.loads with
    | some (.obj data) => data
    | _ => []

/-- `_parse_vmess`; the body of the link ends where a fragment starts. -/
def LinkReader.parseVmess (rawLink body : String) : ParsedNativeConfig :=
  let data := reader.decodeVmessPayload (String.ofList (body.toList.takeWhile (· ≠ '#')))
  let host := takeText 255 (stringOf reader.rt (field data "add"))
  let port := reader.asPositiveInt (field data "port") none 65535
  let remark := takeText 255 (stringOf reader.rt (field data "ps"))
  let net := if (field data "net").truthy then reader.rt.strOf (field data "net") else "tcp"
  let transport := orText (reader.rt.lower (strip net)) "tcp"
  let tls := reader.rt.lower (stringOf reader.rt (field data "tls"))
  let security :=
    if tls ∈ allDynamicSecurity then tls else if tls ≠ "" then "tls" else "none"
  let valid := !data.isEmpty
  reader.parsed rawLink "vmess" security transport remark host port false valid
    (if valid then "" else "invalid_vmess_payload")

/-- `_parse_url_style`. -/
def LinkReader.parseUrlStyle (rawLink protocol : String) : ParsedNativeConfig :=
  match reader.urlsplit (strip rawLink) with
  | none => reader.parsed rawLink protocol "none" "tcp" "" "" none false false "invalid_url"
  | some parts =>
      let query := reader.lowerQuery parts.query
      let remark := takeText 255 (strip (reader.unquote parts.fragment))
      let host := takeText 255 (strip parts.hostname)
      let named := reader.queryFirst query ["security", "securitytype"] ""
      let guessed := if named ≠ "" then named else if queryHas query ["tls"] then "tls" else "none"
      let security := if guessed ∈ allDynamicSecurity then guessed else "none"
      let defaultTransport := if protocol = "wireguard" then "wireguard" else "tcp"
      let transport := orText
        (reader.queryFirst query ["type", "transport", "network", "net"] defaultTransport)
        defaultTransport
      let hasPbk := queryHas query ["pbk", "publickey", "public_key"]
      if protocol ∉ allDynamicProtocols then
        reader.parsed rawLink protocol security transport remark host parts.port hasPbk false
          "unsupported_protocol"
      else if security = "reality" ∧ ¬ hasPbk then
        reader.parsed rawLink protocol security transport remark host parts.port hasPbk false
          "reality_missing_pbk"
      else reader.parsed rawLink protocol security transport remark host parts.port hasPbk true ""

/-- `candidate.split("://", 1)` of a link that has the separator. -/
def splitScheme : List Char → List Char → Option (List Char × List Char)
  | scheme, ':' :: '/' :: '/' :: body => some (scheme.reverse, body)
  | scheme, c :: rest => splitScheme (c :: scheme) rest
  | _, [] => none

/-- `parse_native_config`. -/
def LinkReader.parseNativeConfig (rawLink : String) : ParsedNativeConfig :=
  let unsupported :=
    reader.parsed rawLink "unknown" "none" "tcp" "" "" none false false "unsupported_protocol"
  match splitScheme [] (strip rawLink).toList with
  | none => unsupported
  | some (scheme, body) =>
      let protocol := reader.canonicalProtocol (String.ofList scheme)
      if protocol ∉ allDynamicProtocols then unsupported
      else if protocol = "vmess" then reader.parseVmess rawLink (String.ofList body)
      else reader.parseUrlStyle rawLink protocol

/-! ## Policies -/

structure FilterPolicy where
  protocols : List String
  security : List String
  transport : List String
  remarkInclude : String
  remarkExclude : String
  requireRealityPbk : Bool
  deduplicateExact : Bool
  maxConfigs : Option ℕ
  refreshIntervalHours : ℕ
  deriving DecidableEq, Repr

/-- `_as_bool`. -/
def LinkReader.asBool (value : Json) (default : Bool) : Bool :=
  match value with
  | .null => default
  | .bool b => b
  | .int n => (Json.int n).truthy
  | .float text => (Json.float text).truthy
  | v => reader.rt.lower (strip (reader.rt.strOf v)) ∈ ["1", "true", "yes", "on"]

/-- The texts that `_normalize_values` reads, or none where it cannot iterate over the value. -/
def LinkReader.policyTexts : Json → Option (List String)
  | .str s => some ((s.toList.splitOn ',').map fun part => strip (String.ofList part))
  | .arr items => some (items.map (stringOf reader.rt))
  | .obj fields => some (fields.map fun x => strip x.1)
  | _ => none

/-- `value in (None, "", [])`. -/
def isUnset : Json → Bool
  | .null => true
  | .str s => s = ""
  | .arr items => items.isEmpty
  | _ => false

/-- The loop of `_normalize_values`. -/
def LinkReader.collectValues (defaults : List String) (aliases : String → String) :
    List String → List String → List String
  | [], normalized => if normalized = [] then defaults else normalized
  | item :: items, normalized =>
      let lowered := aliases (reader.rt.lower item)
      if lowered = "*" ∨ lowered = "all" then defaults
      else if lowered ∈ defaults ∧ lowered ∉ normalized then
        collectValues defaults aliases items (normalized ++ [lowered])
      else collectValues defaults aliases items normalized

/-- `_normalize_values`; none where it raises. -/
def LinkReader.normalizeValues (value : Json) (defaults : List String)
    (aliases : String → String) : Option (List String) :=
  if isUnset value then some defaults
  else (reader.policyTexts value).map fun texts => reader.collectValues defaults aliases texts []

/-- The alias of `hysteria2`. -/
def hysteriaAlias (s : String) : String := if s = "hy2" then "hysteria2" else s

/-- `str(policy.get(key) or "").strip()[:200]`. -/
def LinkReader.remarkRule (policy : JsonObject) (key : String) : String :=
  takeText 200 (stringOf reader.rt (field policy key))

/-- `normalize_external_subscription_filter_policy`; none where it raises. -/
def LinkReader.normalizePolicy (policy : JsonObject) : Option FilterPolicy := do
  let protocols ← reader.normalizeValues (field policy "protocols") allDynamicProtocols hysteriaAlias
  let security ← reader.normalizeValues (field policy "security") allDynamicSecurity id
  let transport ← reader.normalizeValues
    (if (field policy "transport").truthy then field policy "transport"
      else field policy "transports") allDynamicTransports id
  return {
    protocols
    security
    transport
    remarkInclude := reader.remarkRule policy "remark_include"
    remarkExclude := reader.remarkRule policy "remark_exclude"
    requireRealityPbk := reader.asBool (field policy "require_reality_pbk") true
    deduplicateExact := reader.asBool (field policy "deduplicate_exact") true
    maxConfigs := reader.asPositiveInt (field policy "max_configs") none 1000
    refreshIntervalHours :=
      (reader.asPositiveInt (field policy "refresh_interval_hours") (some 1) 720).getD 1 }

/-- The policy as the object that it is stored as. -/
def FilterPolicy.toObject (p : FilterPolicy) : JsonObject :=
  [("protocols", .arr (p.protocols.map .str)), ("security", .arr (p.security.map .str)),
    ("transport", .arr (p.transport.map .str)), ("remark_include", .str p.remarkInclude),
    ("remark_exclude", .str p.remarkExclude), ("require_reality_pbk", .bool p.requireRealityPbk),
    ("max_configs", p.maxConfigs.elim .null fun n => .int n),
    ("deduplicate_exact", .bool p.deduplicateExact),
    ("refresh_interval_hours", .int p.refreshIntervalHours)]

end Qasedak.NativeConfigs
