import Qasedak.Foundation.Dict
import Qasedak.Foundation.Run
import Qasedak.Panels.PanelJson

/-! The metadata of an order is one JSON document. Most operations change it in a transaction that
locks the row; `mark_duplicate_attempt` writes back the document of an object it read before. -/

namespace Qasedak.Orders.Metadata

open Foundation Store Panels

/-! ## Assignments -/

/-- `metadata[key] = value`, or `metadata.setdefault(key, value)`. -/
structure Assignment where
  key : String
  value : Json
  ifAbsent : Bool := false

def Assignment.apply (d : Dict Json) (a : Assignment) : Dict Json :=
  if a.ifAbsent ∧ (d.lookup a.key).isSome then d else d.insert a.key a.value

/-- The document after some assignments. -/
def assign (d : Dict Json) (as : List Assignment) : Dict Json := as.foldl Assignment.apply d

/-- Two documents read alike. -/
def SameLookup (d d' : Dict Json) : Prop := ∀ key, d.lookup key = d'.lookup key

theorem SameLookup.insert {d d' : Dict Json} (h : SameLookup d d') (key : String) (v : Json) :
    SameLookup (d.insert key v) (d'.insert key v) := by
  intro key'
  by_cases hkey : key' = key
  · rw [hkey, AList.lookup_insert, AList.lookup_insert]
  · rw [AList.lookup_insert_ne hkey, AList.lookup_insert_ne hkey, h key']

theorem SameLookup.apply {d d' : Dict Json} (h : SameLookup d d') (a : Assignment) :
    SameLookup (a.apply d) (a.apply d') := by
  rw [Assignment.apply, Assignment.apply, h a.key]
  split
  · exact h
  · exact h.insert a.key a.value

theorem SameLookup.assign {d d' : Dict Json} (h : SameLookup d d') (as : List Assignment) :
    SameLookup (assign d as) (assign d' as) := by
  induction as generalizing d d' with
  | nil => exact h
  | cons a as ih => exact ih (h.apply a)

/-! ## Operations -/

structure OrderRow where
  metadata : Dict Json
  status : OrderStatus
  verificationStatus : VerificationStatus := .pending

/-- What a transaction writes: metadata, and the states of the order. -/
structure RowWrite where
  assignments : List Assignment
  status : OrderStatus
  verificationStatus : VerificationStatus

/-- `record_order_metadata`. -/
def recordOrderMetadata (key : String) (value : Json) (row : OrderRow) : RowWrite where
  assignments := [{ key := key, value := value }]
  status := row.status
  verificationStatus := row.verificationStatus

/-- `can_resend_order`. -/
def canResendOrder (row : OrderRow) : Bool :=
  row.status = .completed && row.verificationStatus = .verified

/-- `(value or {}).get(key)`, where a missing key reads as null. -/
def Json.get (v : Json) (key : String) : Json :=
  match v with
  | .obj fields => field fields key
  | _ => .null

/-- `attempt.get("status") == "running"`. -/
def isRunning (attempt : Option Json) : Bool :=
  match attempt.map (Json.get · "status") with
  | some (.str status) => status = "running"
  | _ => false

/-- The claim of a renewal; none where the call returns, or goes on without a claim. -/
def claimRenewal (now : String) (row : OrderRow) : Option RowWrite :=
  if canResendOrder row ∨ row.status.Refused then none
  else if isRunning (row.metadata.lookup "renewal_recovery_attempt") then none
  else some {
    assignments := [{
      key := "renewal_recovery_attempt"
      value := .obj [("status", .str "running"), ("started_at", .str now)] }]
    status := row.status
    verificationStatus := row.verificationStatus }

/-- `reject_order`, once the panels have deleted a number of clients. -/
def rejectOrder (deleted : ℕ) (row : OrderRow) : Option RowWrite :=
  if row.status = .completed then none
  else some {
    assignments := [
      { key := "panel_client_deleted_on_reject", value := .bool (deleted ≠ 0) },
      { key := "panel_clients_deleted_on_reject", value := .int deleted }]
    status := .rejected
    verificationStatus := .rejected }

/-- `cancel_order`, once the panels have deleted a number of clients. -/
def cancelOrder (hideFromCustomer : Bool) (deleted : ℕ) (row : OrderRow) : RowWrite where
  assignments := [
    { key := "customer_hidden", value := .bool hideFromCustomer },
    { key := "cancelled_by_customer", value := .bool true },
    { key := "panel_client_deleted_on_cancel", value := .bool (deleted ≠ 0) },
    { key := "panel_clients_deleted_on_cancel", value := .int deleted }]
  status := .cancelled
  verificationStatus := row.verificationStatus

/-! ## Writes of a provisioning -/

/-- The inbounds of a bundle, as they are frozen. -/
structure BundleScopes where
  scopes : Json
  pks : Json
  ids : Json

/-- The places where a provisioning writes metadata. -/
inductive ProvisioningWrite where
  /-- `_approve_and_provision_order`, before the delivery. -/
  | attempt (now emailPrefix : String)
  /-- `freeze_order_provisioning_metadata`, and what a bundle adds to it. -/
  | freeze (strategy : String) (scope : Json) (native : Bool) (bundle : Option BundleScopes)
  | failedModern (now safeError strategy : String)
  | activatedModern (now : String) (remoteReused : Bool)
  | activatedNative (now : String) (links : Option Json)
  | missingClients (now : String) (missing : ℤ)
  | createdClients (now : String)
  | renewed (now : String)
  | renewalStrategy
  /-- `_finish_failed_order`, and the status of an assignment. -/
  | planDelivery (state : Json)
  | finishedDelivery (now : String) (state : Json) (links : Option Json)
  | recipe (state : Json) (ok : Bool)

def bundleAssignments (b : BundleScopes) : List Assignment :=
  [{ key := "multi_inbound_bundle", value := .bool true },
    { key := "provisioning_scopes", value := b.scopes },
    { key := "bundle_inbound_pks", value := b.pks },
    { key := "bundle_inbound_ids", value := b.ids }]

/-- `metadata["panel_provisioning_deferred"] = False`, with what goes along. -/
def provisionedAssignments (now : String) : List Assignment :=
  [{ key := "panel_provisioning_deferred", value := .bool false },
    { key := "panel_provisioning_reason", value := .str "" },
    { key := "panel_provisioned_at", value := .str now }]

def deliveryLinks (links : Option Json) : List Assignment :=
  links.toList.map fun v => { key := "direct_delivery_links", value := v }

def ProvisioningWrite.assignments : ProvisioningWrite → List Assignment
  | .attempt now emailPrefix =>
      [{ key := "provisioning_last_attempt_at", value := .str now },
        { key := "provisioning_email_prefix", value := .str emailPrefix, ifAbsent := true }]
  | .freeze strategy scope native bundle =>
      { key := "provisioning_strategy", value := .str strategy } ::
        { key := "provisioning_scope", value := scope, ifAbsent := true } ::
          (if native then [{ key := "pasarguard_native_delivery", value := .bool true }] else []) ++
            bundle.toList.flatMap bundleAssignments
  | .failedModern now safeError strategy =>
      [{ key := "panel_provisioning_deferred", value := .bool true },
        { key := "panel_provisioning_last_failed_at", value := .str now },
        { key := "panel_provisioning_reason"
          value := .str (if safeError = "" then "provisioning_failed" else safeError) }] ++
        if strategy = "" then [] else [{ key := "provisioning_strategy", value := .str strategy }]
  | .activatedModern now remoteReused =>
      provisionedAssignments now ++
        [{ key := "remote_reused_on_retry", value := .bool remoteReused }]
  | .activatedNative now links =>
      provisionedAssignments now ++
        [{ key := "pasarguard_native_delivery", value := .bool true }] ++ deliveryLinks links
  | .missingClients now missing =>
      [{ key := "panel_provisioning_deferred", value := .bool true },
        { key := "panel_provisioning_last_failed_at", value := .str now },
        { key := "panel_provisioning_reason", value := .str "panel_unavailable_on_activation" },
        { key := "panel_provisioning_missing_clients", value := .int missing }]
  | .createdClients now =>
      provisionedAssignments now ++
        [{ key := "panel_provisioning_missing_clients", value := .int 0 }]
  | .renewed now => [{ key := "renewed_at", value := .str now }]
  | .renewalStrategy =>
      [{ key := "provisioning_strategy", value := .str "renew_existing_client" }]
  | .planDelivery state => [{ key := "plan_delivery_v2", value := state }]
  | .finishedDelivery now state links =>
      provisionedAssignments now ++ [{ key := "plan_delivery_v2", value := state }] ++
        deliveryLinks links
  | .recipe state ok =>
      [{ key := "cup_fulfillment_recipe", value := state },
        { key := "panel_provisioning_deferred", value := .bool false },
        { key := "panel_provisioning_reason"
          value := .str (if ok then "" else "cup_fulfillment_recipe_failed") }]

/-- What a provisioning transaction that commits writes on the row it locked; which places it
goes through is up to the delivery. -/
def provisionOrder (writes : List ProvisioningWrite) (status : OrderStatus)
    (verificationStatus : VerificationStatus) : RowWrite where
  assignments := writes.flatMap ProvisioningWrite.assignments
  status := status
  verificationStatus := verificationStatus

/-! ## Duplicates -/

/-- `data[key] = value`, on the fields of a JSON object. -/
def setField : JsonObject → String → Json → JsonObject
  | [], key, v => [(key, v)]
  | (key', v') :: rest, key, v =>
      if key' = key then (key, v) :: rest else (key', v') :: setField rest key v

/-- `dict(value or {})`; none where it raises. -/
def toDict (v : Option Json) : Option JsonObject :=
  match v with
  | some (.obj fields) => some fields
  | some v => if v.truthy then none else some []
  | none => some []

/-- The object's `duplicate_warning` with one more attempt; none where `int` raises. -/
def duplicateWarning (int : Json → Option ℤ) (now source reason : String) (d : Dict Json) :
    Option Json := do
  let duplicate ← toDict (d.lookup "duplicate_warning")
  let source := if source ≠ "" then Json.str source
    else if (field duplicate "source").truthy then field duplicate "source" else .str ""
  let count := field duplicate "attempt_count"
  let attempts ← if count.truthy then int count else some 0
  let duplicate := setField duplicate "detected" (.bool true)
  let duplicate := setField duplicate "reason" (.str reason)
  let duplicate := setField duplicate "source" source
  let duplicate := setField duplicate "attempt_count" (.int (attempts + 1))
  let duplicate := setField duplicate "last_attempt_at" (.str now)
  return .obj (setField duplicate "window_seconds" (.int 600))

/-! ## Runs -/

/-- The row of the order, the objects that processes have read of it, and what the committed
operations have written, each key with its last value. -/
structure OrderHistory where
  row : OrderRow
  objects : ℕ → Option (Dict Json) := fun _ => none
  written : Dict Json

def OrderHistory.start (row : OrderRow) : OrderHistory where
  row := row
  written := row.metadata

/-- A transaction that read the row under its lock commits. -/
def OrderHistory.commit (s : OrderHistory) (w : RowWrite) : OrderHistory :=
  { s with
    row := {
      metadata := assign s.row.metadata w.assignments
      status := w.status
      verificationStatus := w.verificationStatus }
    written := assign s.written w.assignments }

/-- `mark_duplicate_attempt` saves the document of its object. -/
def OrderHistory.markDuplicate (s : OrderHistory) (n : ℕ) (d : Dict Json) (warning : Json) :
    OrderHistory :=
  let d := d.insert "duplicate_warning" warning
  { row := { s.row with metadata := d }
    objects := Function.update s.objects n (some d)
    written := s.written.insert "duplicate_warning" warning }

inductive MetadataStep where
  /-- A process reads the order. -/
  | read (n : ℕ)
  | markDuplicateAttempt (n : ℕ) (now source reason : String)
  | recordOrderMetadata (n : ℕ) (key : String) (value : Json)
  | claimRenewal (now : String)
  | provision (writes : List ProvisioningWrite) (status : OrderStatus)
      (verificationStatus : VerificationStatus)
  | rejectOrder (deleted : ℕ)
  | cancelOrder (hideFromCustomer : Bool) (deleted : ℕ)

variable (int : Json → Option ℤ)

def OrderHistory.step (s : OrderHistory) : MetadataStep → OrderHistory
  | .read n => { s with objects := Function.update s.objects n (some s.row.metadata) }
  | .markDuplicateAttempt n now source reason =>
      match s.objects n with
      | none => s
      | some d =>
          match duplicateWarning int now source reason d with
          | none => s
          | some warning => s.markDuplicate n d warning
  | .recordOrderMetadata n key value =>
      let s' := s.commit (recordOrderMetadata key value s.row)
      { s' with objects := Function.update s.objects n (some s'.row.metadata) }
  | .claimRenewal now => ((claimRenewal now s.row).map s.commit).getD s
  | .provision writes status verificationStatus =>
      s.commit (provisionOrder writes status verificationStatus)
  | .rejectOrder deleted => ((rejectOrder deleted s.row).map s.commit).getD s
  | .cancelOrder hideFromCustomer deleted => s.commit (cancelOrder hideFromCustomer deleted s.row)

/-- Every key has the value that was last written under it. -/
def OrderHistory.Kept (s : OrderHistory) : Prop := SameLookup s.row.metadata s.written

/-- An object that is about to be saved differs from the row in its warning only. -/
def Current (s : OrderHistory) : MetadataStep → Prop
  | .markDuplicateAttempt n now source reason =>
      ∀ d, s.objects n = some d → (duplicateWarning int now source reason d).isSome →
        ∀ key, key ≠ "duplicate_warning" → d.lookup key = s.row.metadata.lookup key
  | _ => True

variable {s : OrderHistory}

theorem OrderHistory.Kept.commit (h : s.Kept) (w : RowWrite) : (s.commit w).Kept :=
  SameLookup.assign h w.assignments

theorem OrderHistory.Kept.commitSome (h : s.Kept) (w : Option RowWrite) :
    ((w.map s.commit).getD s).Kept := by
  cases w with
  | none => exact h
  | some w => exact h.commit w

/-- A saved object keeps what was written when it was current, and only then. -/
theorem OrderHistory.Kept.markDuplicate_iff (h : s.Kept) (n : ℕ) (d : Dict Json)
    (warning : Json) : (s.markDuplicate n d warning).Kept ↔
      ∀ key, key ≠ "duplicate_warning" → d.lookup key = s.row.metadata.lookup key := by
  constructor
  · intro hkept key hkey
    have hsame := hkept key
    simp only [OrderHistory.markDuplicate, AList.lookup_insert_ne hkey] at hsame
    rw [hsame, h key]
  · intro hcurrent key
    by_cases hkey : key = "duplicate_warning"
    · simp only [OrderHistory.markDuplicate]
      rw [hkey, AList.lookup_insert, AList.lookup_insert]
    · simp only [OrderHistory.markDuplicate, AList.lookup_insert_ne hkey]
      rw [hcurrent key hkey, h key]

theorem OrderHistory.Kept.step_iff (h : s.Kept) (op : MetadataStep) :
    (s.step int op).Kept ↔ Current int s op := by
  cases op with
  | read n => exact iff_of_true h trivial
  | recordOrderMetadata n key value => exact iff_of_true (h.commit _) trivial
  | claimRenewal now => exact iff_of_true (h.commitSome _) trivial
  | provision writes status verificationStatus => exact iff_of_true (h.commit _) trivial
  | rejectOrder deleted => exact iff_of_true (h.commitSome _) trivial
  | cancelOrder hide deleted => exact iff_of_true (h.commit _) trivial
  | markDuplicateAttempt n now source reason =>
      simp only [OrderHistory.step, Current]
      cases hobject : s.objects n with
      | none => simpa using h
      | some d =>
          cases hwarning : duplicateWarning int now source reason d with
          | none => simpa [hwarning] using h
          | some warning => simpa [hwarning] using h.markDuplicate_iff n d warning

/-- Nothing that was written is lost in any state of a run exactly when every object that marks
a duplicate attempt is current as it is saved. -/
theorem metadata_kept_iff (row : OrderRow) (ops : List MetadataStep) :
    (∀ before after, ops = before ++ after →
        (run (OrderHistory.step int) (.start row) before).Kept) ↔
      Guarded (OrderHistory.step int) (Current int) (.start row) ops :=
  invariant_iff_guarded (fun _ op h => h.step_iff int op) ops fun _ => rfl

/-! ## A lost claim -/

/-- A customer sends an order again while the renewal of it is claimed. -/
def duplicateDuringRenewal : List MetadataStep :=
  [.read 0, .claimRenewal "12:00", .markDuplicateAttempt 0 "12:01" "bot" "similar_order"]

/-- The claim is written and gone, and the next call claims the renewal again. -/
theorem renewal_claim_lost :
    let s := run (OrderHistory.step fun _ => none)
      (.start { metadata := ∅, status := .pendingVerification }) duplicateDuringRenewal
    isRunning (s.written.lookup "renewal_recovery_attempt") = true ∧
      isRunning (s.row.metadata.lookup "renewal_recovery_attempt") = false ∧
        (claimRenewal "12:02" s.row).isSome = true := by
  decide +kernel

end Qasedak.Orders.Metadata
