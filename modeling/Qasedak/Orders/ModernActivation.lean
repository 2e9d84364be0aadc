import Qasedak.Foundation.Program
import Qasedak.Orders.LocalClients
import Qasedak.Panels.Pasarguard

/-! `_activate_modern_enabled_order_locked` and `_activate_pasarguard_enabled_order_locked`:
the delivery on panels that create enabled clients. -/

namespace Qasedak.Orders

open Foundation Store Panels

variable (platform : Platform)

/-! ## The order -/

/-- What is saved before the first request. -/
def beginModern (inbounds : List Inbound) (inbound : Inbound) (multiBundle : Bool) (o : Order) :
    Order :=
  { markProvisioning o with
    inbound := some inbound.pk
    metadata := freezeRoute inbounds inbound multiBundle o.metadata
    isPaid := true
    verificationStatus := .verified
    status := .confirmed }

/-- `_finish_failed_modern_order`. -/
def finishFailedModern (safeError : String) (o : Order) : Order :=
  { o with
    metadata := { o.metadata with panelProvisioningDeferred := true }
    isPaid := true
    verificationStatus := .verified
    status := if o.status = .completed then .completed else .confirmed
    provisioningStatus := .failed
    lastProvisioningError := if safeError = "" then o.lastProvisioningError else safeError }

/-- What is saved once every client is there. -/
def finishModern (now : Instant) (actor : Option ℕ) (primary : Option VPNClient) (o : Order) :
    Order :=
  let verified := o.markPaymentVerified actor now
  { verified with
    uuid := match primary with
      | some c => c.uuid
      | none => o.uuid
    subLink := match primary with
      | some c => some c.subLink
      | none => o.subLink
    directLink := match primary with
      | some c => some c.directLink
      | none => o.directLink
    username := orElseText o.username ((primary.map (·.username)).getD "")
    metadata := { o.metadata with panelProvisioningDeferred := false }
    provisioningStatus := .provisioned
    lastProvisioningError := ""
    provisionedAt := some now }

@[simp] theorem beginModern_pk (inbounds : List Inbound) (inbound : Inbound) (multiBundle : Bool)
    (o : Order) : (beginModern inbounds inbound multiBundle o).pk = o.pk := rfl

@[simp] theorem finishFailedModern_pk (safeError : String) (o : Order) :
    (finishFailedModern safeError o).pk = o.pk := rfl

@[simp] theorem finishModern_pk (now : Instant) (actor : Option ℕ) (primary : Option VPNClient)
    (o : Order) : (finishModern now actor primary o).pk = o.pk := rfl

/-- `range(1, required_client_count(order) + 1)`. -/
def clientIndices (o : Order) : List ℕ := List.range' 1 (requiredClientCount o)

/-- The identity of a client: of the bundle, or of the one inbound. -/
def indexedIdentity (db : Db) (o : Order) (inbounds : List Inbound) (inbound : Inbound)
    (multiBundle : Bool) (index : ℕ) : ClientIdentity :=
  if multiBundle then multiInboundOrderIdentity platform db o inbounds index
  else orderIdentity platform db o inbound index

/-! ## One client -/

/-- Look the client up, create it where it is missing, and verify it. -/
def ensureClient (now : Instant) (p : Panel) (i : Inbound) (plan : Plan)
    (identity : ClientIdentity) : ShopM ClientResult := do
  let found ← lookupExistingRemoteClient platform p i identity true
  let result ← match found with
    | some result => pure (some result)
    | none => createEnabledClientDetails platform now p i (orderRequest plan identity)
  match result with
  | none => Prog.raise "remote_create_failed"
  | some _ => do
      let verified ← lookupExistingRemoteClient platform p i identity true
      Prog.orRaise "remote_verify_failed" verified

/-- The lookups of a bundle. -/
def lookupBundle (p : Panel) (inbounds : List Inbound) (identity : ClientIdentity) :
    ShopM (List (Option ClientResult)) :=
  Prog.forEach inbounds [] fun i found => do
    let result ← lookupExistingRemoteClient platform p i identity true
    return found ++ [result]

/-- The creations on the inbounds of a bundle that lack the client. -/
def completeBundle (now : Instant) (p : Panel) (plan : Plan) (identity : ClientIdentity)
    (found : List (Inbound × Option ClientResult)) : ShopM (List ClientResult) :=
  Prog.forEach found [] fun (i, existing) results =>
    match existing with
    | some result => return results ++ [result]
    | none => do
        let created ← createEnabledClientDetails platform now p i (orderRequest plan identity)
        let result ← Prog.orRaise "remote_multi_inbound_create_failed" created
        return results ++ [result]

/-- The client on every inbound of a bundle, before it is verified. -/
def provideBundle (now : Instant) (p : Panel) (inbounds : List Inbound) (plan : Plan)
    (identity : ClientIdentity) : ShopM (List ClientResult) := do
  let found ← lookupBundle platform p inbounds identity
  if found.any (·.isSome) ∧ ¬ found.all (·.isSome) then
    completeBundle platform now p plan identity (inbounds.zip found)
  else if found.all (·.isSome) then return found.reduceOption
  else do
    let created ← createEnabledMultiInboundClientDetails platform now p inbounds
      (orderRequest plan identity)
    Prog.orRaise "remote_multi_inbound_create_failed" created

def verifyBundle (p : Panel) (inbounds : List Inbound) (identity : ClientIdentity) :
    ShopM (List ClientResult) :=
  Prog.forEach inbounds [] fun i results => do
    let found ← lookupExistingRemoteClient platform p i identity true
    let result ← Prog.orRaise "remote_multi_inbound_verify_failed" found
    return results ++ [result]

/-- The verified clients of a bundle, one for each inbound. -/
def ensureBundle (now : Instant) (p : Panel) (inbounds : List Inbound) (plan : Plan)
    (identity : ClientIdentity) : ShopM (List ClientResult) := do
  let provided ← provideBundle platform now p inbounds plan identity
  if provided.length ≠ inbounds.length then Prog.raise "remote_multi_inbound_verify_failed"
  else verifyBundle platform p inbounds identity

/-- The result of a bundle is the one of its first inbound. -/
def ensureBundleClient (now : Instant) (p : Panel) (inbounds : List Inbound) (plan : Plan)
    (identity : ClientIdentity) : ShopM ClientResult := do
  let verified ← ensureBundle platform now p inbounds plan identity
  Prog.orRaise "remote_multi_inbound_verify_failed" verified.head?

/-- The links of a PasarGuard user that count. -/
def rawLinksOf (result : ClientResult) (links : List String) : List String :=
  let raw := (links.map strip).filter (· ≠ "")
  if raw = [] ∧ strip result.directLink ≠ "" then [strip result.directLink] else raw

/-- A PasarGuard user with its links; the text is the error for a user without any. -/
def ensureUserLinks (now : Instant) (p : Panel) (inbounds : List Inbound) (plan : Plan)
    (identity : ClientIdentity) (empty : String) : ShopM (ClientResult × List String) := do
  let (result, links) ← createPasarguardUser platform now p inbounds (orderRequest plan identity)
  match rawLinksOf result links with
  | [] => Prog.raise empty
  | link :: raw => return ({ result with directLink := link }, link :: raw)

def ensureUser (now : Instant) (p : Panel) (inbounds : List Inbound) (plan : Plan)
    (identity : ClientIdentity) : ShopM ClientResult := do
  let (result, _) ← ensureUserLinks platform now p inbounds plan identity "pasarguard_raw_empty"
  return result

/-- The row of a PasarGuard user; a new one takes a place on every group of the bundle. -/
def recordUser (now : Instant) (o : Order) (plan : Plan) (inbounds : List Inbound)
    (inbound : Inbound) (result : ClientResult) : ShopM (ℕ × Bool) := do
  let (k, created) ← upsertLocalClient now o plan inbound result
  if created ∧ 1 < inbounds.length then
    Prog.forEach inbounds.tail () fun i _ =>
      Prog.writeDb (·.setInbound i.pk useInbound useInbound_pk)
  return (k, created)

/-! ## The whole order -/

/-- The message of an attempt that did not deliver everything. -/
def modernFailure (pasarguard : Bool) (safeError : String) : ProvisioningResult where
  ok := false
  message :=
    if pasarguard then
      "ساخت و تایید کاربر روی PasarGuard ناموفق بود. سفارش تکمیل نشد و قابل retry است."
    else "ساخت و تایید کانفیگ روی پنل X-UI ناموفق بود. سفارش تکمیل نشد و قابل retry است."
  safeError := safeError

def modernSuccess (pasarguard : Bool) : ProvisioningResult where
  ok := true
  message :=
    if pasarguard then "سفارش تایید شد و کاربر PasarGuard فعال شد."
    else "سفارش تایید شد و کانفیگ VPN فعال شد."

/-- The part of both activations that provides the clients, saves the outcome on the order
and answers. -/
def provideClients (now : Instant) (actor : Option ℕ) (order : ℕ) (pasarguard : Bool)
    (indices : List ℕ) (ensure : ℕ → ShopM ClientResult)
    (record : ℕ → ClientResult → ShopM (ℕ × Bool)) : ShopM ProvisioningResult := do
  let outcome ← Prog.caught (ensureAll ensure record indices)
  match outcome with
  | .error e => do
      saveOrder now order (finishFailedModern e) (finishFailedModern_pk e)
      return modernFailure pasarguard e
  | .ok rows => do
      let db ← Prog.readDb id
      let primary := (rows.head?.map (·.1)).bind db.clients.get?
      saveOrder now order (finishModern now actor primary) (finishModern_pk now actor primary)
      return modernSuccess pasarguard

/-- The X-UI part of `_activate_modern_enabled_order_locked`. -/
def activateXuiOrder (now : Instant) (actor : Option ℕ) (order : ℕ) (inbounds : List Inbound)
    (inbound : Inbound) (p : Panel) : ShopM ProvisioningResult := do
  let unsaved ← getOrder order
  let multiBundle := unsaved.metadata.multiInboundBundle && 1 < inbounds.length
  saveOrder now order (beginModern inbounds inbound multiBundle)
    (beginModern_pk inbounds inbound multiBundle)
  let o ← getOrder order
  let db ← Prog.readDb id
  let plan ← getPlan o.plan
  let identity := indexedIdentity platform db o inbounds inbound multiBundle
  provideClients now actor order false (clientIndices o)
    (fun index =>
      if multiBundle then ensureBundleClient platform now p inbounds plan (identity index)
      else ensureClient platform now p inbound plan (identity index))
    (fun _ result => upsertLocalClient now o plan inbound result)

/-- `_activate_pasarguard_enabled_order_locked`. -/
def activatePasarguardOrder (now : Instant) (actor : Option ℕ) (order : ℕ)
    (inbounds : List Inbound) (inbound : Inbound) (p : Panel) : ShopM ProvisioningResult := do
  let multiBundle := decide (1 < inbounds.length)
  saveOrder now order (beginModern inbounds inbound multiBundle)
    (beginModern_pk inbounds inbound multiBundle)
  let o ← getOrder order
  let db ← Prog.readDb id
  let plan ← getPlan o.plan
  let identity := indexedIdentity platform db o inbounds inbound multiBundle
  provideClients now actor order true (clientIndices o)
    (fun index => ensureUser platform now p inbounds plan (identity index))
    (fun _ result => recordUser now o plan inbounds inbound result)

/-- `_activate_modern_enabled_order_locked`. -/
def activateModernOrder (now : Instant) (actor : Option ℕ) (order : ℕ) :
    ShopM ProvisioningResult := do
  let o ← getOrder order
  let db ← Prog.readDb id
  match resolveFrozenOrderInbounds db o with
  | .error e => do
      saveOrder now order (finishFailedModern e) (finishFailedModern_pk e)
      return { ok := false
               message := "scope ذخیره‌شده سفارش با route فعلی سازگار نیست. provisioning برای جلوگیری از ساخت اشتباه متوقف شد."
               safeError := e }
  | .ok inbounds =>
      match inbounds.head?.bind fun i => (db.panels.get? i.panel).map fun p => (i, p) with
      | none =>
          return { ok := false, message := "سفارش route دقیق panel/inbound ندارد."
                   safeError := "missing_scope" }
      | some (inbound, p) =>
          if p.family = .pasarguard then
            activatePasarguardOrder platform now actor order inbounds inbound p
          else activateXuiOrder platform now actor order inbounds inbound p

end Qasedak.Orders
