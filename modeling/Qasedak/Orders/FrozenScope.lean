import Qasedak.Orders.Renewal
import Qasedak.Orders.Identity

/-! The route that an order keeps: its first attempt freezes the inbounds in the metadata,
and the later ones resolve them from there. -/

namespace Qasedak.Orders

open Foundation Store Panels

/-! ## Strategies -/

/-- `is_modern_panel`. -/
def isModernPanel (p : Panel) : Bool :=
  p.capabilityProfile = .modernSingleNode || p.capabilityProfile = .modernMultiNode ||
    p.capabilityProfile = .pasarguardGroups

/-- `order_is_admin_direct`. -/
def orderIsAdminDirect (o : Order) : Bool :=
  o.metadata.adminDirectPurchase || o.metadata.freeGrant || o.paymentMethod = .adminFree

/-- The panel of an inbound that is looked up by its key. -/
def inboundPanel (db : Db) (inbound : Option ℕ) : Option (Inbound × Panel) :=
  (inbound.bind db.inbounds.get?).bind fun i => (db.panels.get? i.panel).map fun p => (i, p)

/-- `resolve_order_provisioning_strategy`. -/
def resolveOrderProvisioningStrategy (db : Db) (o : Order) : Strategy :=
  if orderIsRenewal o then .renewExistingClient
  else match inboundPanel db o.inbound with
    | none => .legacyPrecreateInactive
    | some (_, p) =>
        if ¬ isModernPanel p then .legacyPrecreateInactive
        else if orderIsAdminDirect o then .directCreateEnabled
        else .deferredCreateEnabled

/-! ## Scopes -/

/-- `provisioning_scope`. -/
def provisioningScope (i : Inbound) : ProvisioningScope where
  panelId := i.panel
  inboundPk := i.pk
  xuiInboundId := i.inboundId
  nodeId := i.xuiNodeId

/-- A field of the scope is empty, or the one of the inbound. -/
def scopeFieldMatches (expected current : String) : Bool :=
  expected = "" || expected = strip current

/-- `_scope_matches_inbound`. -/
def scopeMatchesInbound (scope : ProvisioningScope) (i : Inbound) : Bool :=
  scopeFieldMatches (toString scope.panelId) (textOrEmpty i.panel) &&
    scopeFieldMatches (toString scope.inboundPk) (textOrEmpty i.pk) &&
    scopeFieldMatches (toString scope.xuiInboundId) (textOrEmpty i.inboundId) &&
    scopeFieldMatches (strip scope.nodeId) i.xuiNodeId

/-- The inbounds of a remote scope, at most two. -/
def inboundsInScope (db : Db) (scope : ProvisioningScope) : List Inbound :=
  (db.inbounds.rows.filter fun i =>
    i.panel = scope.panelId ∧ i.inboundId = scope.xuiInboundId ∧
      i.xuiNodeId = strip scope.nodeId).take 2

/-- `resolve_frozen_order_inbound` where the order's own inbound does not match. -/
def resolveFrozenScope (db : Db) (scope : ProvisioningScope) : Except String (Option Inbound) :=
  match (db.inbounds.get? scope.inboundPk).filter (scopeMatchesInbound scope) with
  | some i => .ok (some i)
  | none =>
      match inboundsInScope db scope with
      | [i] => .ok (some i)
      | [] => .error "frozen_provisioning_scope_mismatch"
      | _ => .error "frozen_provisioning_scope_ambiguous"

/-- `resolve_frozen_order_inbound`. -/
def resolveFrozenOrderInbound (db : Db) (o : Order) : Except String (Option Inbound) :=
  let current := o.inbound.bind db.inbounds.get?
  match o.metadata.provisioningScope with
  | none => .ok current
  | some scope =>
      match current.filter (scopeMatchesInbound scope) with
      | some i => .ok (some i)
      | none => resolveFrozenScope db scope

/-- The inbound of one scope of a bundle. -/
def resolveBundleScope (db : Db) (scope : ProvisioningScope) : Except String Inbound :=
  match (db.inbounds.get? scope.inboundPk).filter (scopeMatchesInbound scope) with
  | some i => .ok i
  | none =>
      match inboundsInScope db scope with
      | [i] =>
          if scopeMatchesInbound scope i then .ok i
          else .error "frozen_multi_provisioning_scope_mismatch"
      | _ => .error "frozen_multi_provisioning_scope_mismatch"

/-- The loop over the scopes; an inbound that was seen is not taken twice. -/
def resolveBundleScopes (db : Db) : List ProvisioningScope → List Inbound →
    Except String (List Inbound)
  | [], inbounds => .ok inbounds
  | scope :: scopes, inbounds =>
      match resolveBundleScope db scope with
      | .error e => .error e
      | .ok i =>
          if i.pk ∈ inbounds.map (·.pk) then resolveBundleScopes db scopes inbounds
          else resolveBundleScopes db scopes (inbounds ++ [i])

/-- The last checks on a bundle. -/
def checkBundle (db : Db) (inbounds : List Inbound) : Except String (List Inbound) :=
  match inbounds with
  | [] => .error "frozen_multi_provisioning_scope_empty"
  | i :: _ =>
      if inbounds.any (·.panel ≠ i.panel) then
        .error "frozen_multi_provisioning_scope_cross_panel"
      else if (db.panels.get? i.panel).any fun p =>
          p.family = .pasarguard || p.capabilityProfile = .modernMultiNode then
        .ok inbounds
      else .error "frozen_multi_provisioning_requires_modern_multi_node"

/-- The order is delivered on all inbounds of its scopes. -/
def isBundle (o : Order) : Bool :=
  o.metadata.multiInboundBundle && o.metadata.provisioningScopes ≠ []

/-- `resolve_frozen_order_inbounds`. -/
def resolveFrozenOrderInbounds (db : Db) (o : Order) : Except String (List Inbound) :=
  if isBundle o then
    match resolveBundleScopes db o.metadata.provisioningScopes [] with
    | .error e => .error e
    | .ok inbounds => checkBundle db inbounds
  else match resolveFrozenOrderInbound db o with
    | .error e => .error e
    | .ok inbound => .ok inbound.toList

/-- `freeze_order_provisioning_metadata`, with the scopes of a bundle. -/
def freezeRoute (inbounds : List Inbound) (inbound : Inbound) (multiBundle : Bool)
    (m : OrderMetadata) : OrderMetadata :=
  let frozen := { m with
    provisioningScope := m.provisioningScope.orElse fun _ => some (provisioningScope inbound) }
  if multiBundle then
    { frozen with
      multiInboundBundle := true
      provisioningScopes := inbounds.map provisioningScope }
  else frozen

end Qasedak.Orders
