import Mathlib.Data.List.Nodup
import Mathlib.Data.List.Perm.Subperm
import Mathlib.Order.Basic
import Qasedak.Foundation.Program

/-! `store/deployment/port_allocator.py`: the search for a port that no live instance holds. -/

namespace Qasedak.Deployment

def startPort : ℕ := 8001

def endPort : ℕ := 65535

/-- `while port in used: port += 1`, with a bound on the rounds. -/
def skipUsed (used : List ℕ) : ℕ → ℕ → ℕ
  | 0, port => port
  | rounds + 1, port => if port ∈ used then skipUsed used rounds (port + 1) else port

/-- `PortAllocator.next_free_port`, given the ports of `used_ports`. -/
def nextFreePort (used : List ℕ) (preferredPort : ℕ) : Except String ℕ :=
  if preferredPort < startPort then .error s!"Port must be {startPort} or greater."
  else
    let port := skipUsed used used.length preferredPort
    if endPort < port then .error "No free port available for this server." else .ok port

variable {used : List ℕ} {port port' rounds : ℕ}

/-- The ports that the search passes are used. -/
theorem skipUsed_spec (used : List ℕ) (rounds port : ℕ) :
    ∃ k ≤ rounds, skipUsed used rounds port = port + k ∧ (∀ i < k, port + i ∈ used) ∧
      (k < rounds → port + k ∉ used) := by
  induction rounds generalizing port with
  | zero => exact ⟨0, Nat.le_refl 0, rfl, by simp, by simp⟩
  | succ rounds ih =>
      rw [skipUsed]
      by_cases hused : port ∈ used
      · rw [if_pos hused]
        obtain ⟨k, hk, heq, hpassed, hfree⟩ := ih (port + 1)
        refine ⟨k + 1, by omega, by omega, ?_, ?_⟩
        · intro i hi
          cases i with
          | zero => exact hused
          | succ i =>
              have hmem := hpassed i (by omega)
              rwa [show port + (i + 1) = port + 1 + i by omega]
        · intro hlt
          rw [show port + (k + 1) = port + 1 + k by omega]
          exact hfree (by omega)
      · rw [if_neg hused]
        exact ⟨0, by omega, rfl, by simp, fun _ => hused⟩

/-- There are no more ports in a row than used ones, so the search ends at a free port. -/
theorem skipUsed_not_mem (used : List ℕ) (port : ℕ) : skipUsed used used.length port ∉ used := by
  obtain ⟨k, hk, heq, hpassed, hfree⟩ := skipUsed_spec used used.length port
  rw [heq]
  rcases Nat.lt_or_eq_of_le hk with hlt | rfl
  · exact hfree hlt
  intro hmem
  have hsub : List.range' port (used.length + 1) ⊆ used := by
    intro p hp
    rw [List.mem_range'_1] at hp
    rcases Nat.lt_or_ge p (port + used.length) with hlt | hge
    · have hpass := hpassed (p - port) (by omega)
      rwa [show port + (p - port) = p by omega] at hpass
    · rwa [show p = port + used.length by omega]
  have hnodup : (List.range' port (used.length + 1)).Nodup := List.nodup_range'
  have hlength := (hnodup.subperm hsub).length_le
  rw [List.length_range'] at hlength
  omega

theorem le_skipUsed (used : List ℕ) (rounds port : ℕ) : port ≤ skipUsed used rounds port := by
  obtain ⟨k, -, heq, -⟩ := skipUsed_spec used rounds port
  omega

theorem skipUsed_le (hport : port ≤ port') (hfree : port' ∉ used) :
    skipUsed used used.length port ≤ port' := by
  obtain ⟨k, -, heq, hpassed, -⟩ := skipUsed_spec used used.length port
  rw [heq]
  by_contra hlt
  have hmem := hpassed (port' - port) (by omega)
  rw [show port + (port' - port) = port' by omega] at hmem
  exact hfree hmem

/-- The search succeeds exactly where a port from the preferred one on is free. -/
theorem nextFreePort_isOk_iff (hstart : startPort ≤ port) :
    (nextFreePort used port).isOk = true ↔ ∃ p, port ≤ p ∧ p ≤ endPort ∧ p ∉ used := by
  unfold nextFreePort
  rw [if_neg (by omega)]
  constructor
  · intro h
    simp only at h
    split at h
    · cases h
    · exact ⟨_, le_skipUsed used used.length port, by omega, skipUsed_not_mem used port⟩
  · rintro ⟨p, hp, hend, hfree⟩
    have hle := skipUsed_le hp hfree
    simp only
    rw [if_neg (by omega)]
    rfl

end Qasedak.Deployment

/-! `SubdomainDeploymentService.deploy_instance` in `store/deployment/service.py`, with its rollback:
what a failed call does to a tenant that is deployed already. -/

namespace Qasedak.Deployment

open Foundation

/-- The status and the deployment status of a row, as far as the code here writes them. -/
inductive InstanceStatus where
  | pending
  | deploying
  | running
  | failed
  | deleting
  | deleted
  deriving DecidableEq, Repr

inductive DeploymentStatus where
  | pending
  | deploying
  | containerCreated
  | deployed
  | failed
  | rolledBack
  deriving DecidableEq, Repr

/-- The row of a tenant. -/
structure InstanceRow where
  port : Option ℕ := none
  status : InstanceStatus := .pending
  deploymentStatus : DeploymentStatus := .pending
  deriving DecidableEq, Repr

/-- What there is of one tenant on the server. -/
structure TenantHost where
  row : Option InstanceRow
  /-- The host port that the container of the tenant publishes. -/
  container : Option ℕ
  /-- The port that the written site routes to, and its link among the enabled sites. -/
  siteConfig : Option ℕ
  siteEnabled : Bool
  database : Bool
  deriving DecidableEq, Repr

/-- The steps of a call that something outside may make fail. -/
inductive DeployStep where
  | arguments
  | subdomain
  | database
  | credentialsFile
  | envFile
  | container
  | bootstrap
  /-- The write of the site fails, before the file is touched or with the file emptied. -/
  | siteWrite (emptied : Bool)
  | siteEnable
  | reload
  | record
  deriving DecidableEq, Repr

/-- How the removal of the site in the rollback ends. -/
inductive SiteRemoval where
  | removed
  | onlyUnlinked
  | failed
  deriving DecidableEq, Repr

structure DeployCall where
  requestedPort : Option ℕ := none
  provisionDatabase : Bool := false
  bootstrapTenant : Bool := false
  /-- The ports of the other live instances of the server, and those that other rows still hold. -/
  used : List ℕ := []
  held : List ℕ := []
  failure : Option DeployStep := none
  siteRemoval : SiteRemoval := .removed
  containerRemoved : Bool := true
  deriving DecidableEq, Repr

/-- The state of a call: the server, and the flags that the rollback goes by. -/
structure DeployState where
  host : TenantHost
  created : Bool := false
  originalPort : Option ℕ := none
  containerCreated : Bool := false
  nginxWritten : Bool := false
  databaseCreated : Bool := false
  deriving DecidableEq, Repr

abbrev DeployM (α : Type) := Prog DeployState Unit Unit String α

namespace TenantHost

def setRow (h : TenantHost) (f : InstanceRow → InstanceRow) : TenantHost :=
  { h with row := h.row.map f }

/-- `instance.port`. -/
def port (h : TenantHost) : Option ℕ := h.row.bind (·.port)

end TenantHost

/-- A step that fails if it is the one that does. -/
def deployStep (call : DeployCall) (step : DeployStep) : DeployM Unit :=
  if call.failure = some step then Prog.raise "SubdomainDeploymentError" else pure ()

def setHost (f : TenantHost → TenantHost) : DeployM Unit :=
  Prog.writeDb fun s => { s with host := f s.host }

/-- `a or b`, where zero counts as no port. -/
def orPort (a b : Option ℕ) : Option ℕ :=
  match a with
  | some (n + 1) => some (n + 1)
  | _ => b

/-- The port that `PortAllocator.allocate` saves; a row of another tenant may hold it. -/
def allocated (call : DeployCall) (port : Option ℕ) : Except String ℕ :=
  match nextFreePort call.used ((orPort (orPort call.requestedPort port) none).getD startPort) with
  | .error e => .error e
  | .ok port => if port ∈ call.held then .error "Port collision detected." else .ok port

/-- `_instance_for_tenant`. -/
def instanceForTenant : DeployM Unit :=
  Prog.writeDb fun s => match s.host.row with
    | some row =>
        let row := if row.status = .deleted then
          { row with status := .pending, deploymentStatus := .pending } else row
        { s with host := { s.host with row := some row }, created := false, originalPort := row.port }
    | none => { s with host := { s.host with row := some {} }, created := true, originalPort := none }

/-- `PortAllocator.allocate`. -/
def allocatePort (call : DeployCall) : DeployM ℕ := do
  let s ← Prog.readDb id
  let port ← Prog.ofExcept (allocated call s.host.port)
  setHost fun h => h.setRow fun row => { row with port := some port }
  return port

/-- `DockerRunner.run_container`: a container that is there is restarted as it is. -/
def runContainer (call : DeployCall) (port : ℕ) : DeployM Unit := do
  deployStep call .container
  setHost fun h => { h with container := some (h.container.getD port) }
  Prog.writeDb fun s => { s with containerCreated := true }
  setHost fun h => h.setRow fun row => { row with deploymentStatus := .containerCreated }

/-- `NginxConfigGenerator.write_config`. -/
def writeConfig (call : DeployCall) (port : ℕ) : DeployM Unit := do
  deployStep call (.siteWrite false)
  if call.failure = some (.siteWrite true) then do
    setHost fun h => { h with siteConfig := none }
    Prog.raise "OSError"
  else setHost fun h => { h with siteConfig := some port }

/-- The body of the `try` of `deploy_instance`. -/
def deployBody (call : DeployCall) : DeployM Unit := do
  setHost fun h => h.setRow fun row =>
    { row with status := .deploying, deploymentStatus := .deploying }
  let port ← allocatePort call
  deployStep call .subdomain
  let _ ← (if call.provisionDatabase then do
      deployStep call .database
      Prog.writeDb fun s =>
        { s with databaseCreated := true, host := { s.host with database := true } }
    else pure () : DeployM Unit)
  let _ ← (if call.bootstrapTenant then deployStep call .credentialsFile else pure () : DeployM Unit)
  deployStep call .envFile
  runContainer call port
  let _ ← (if call.bootstrapTenant then deployStep call .bootstrap else pure () : DeployM Unit)
  writeConfig call port
  Prog.writeDb fun s => { s with nginxWritten := true }
  deployStep call .siteEnable
  setHost fun h => { h with siteEnabled := true }
  deployStep call .reload
  deployStep call .record
  setHost fun h => h.setRow fun row =>
    { row with status := .running, deploymentStatus := .deployed }

/-- `NginxConfigGenerator.remove`. -/
def removeSite (call : DeployCall) (h : TenantHost) : TenantHost :=
  match call.siteRemoval with
  | .removed => { h with siteConfig := none, siteEnabled := false }
  | .onlyUnlinked => { h with siteEnabled := false }
  | .failed => h

/-- `_rollback`, by the flags of the call. -/
def rollback (call : DeployCall) (s : DeployState) : TenantHost :=
  let h := s.host
  let h := if s.created ∨ s.nginxWritten then removeSite call h else h
  let h := if s.containerCreated ∧ call.containerRemoved then { h with container := none } else h
  let h := if s.databaseCreated then { h with database := false } else h
  if s.created ∨ s.originalPort = none then
    h.setRow fun row => { row with port := none, deploymentStatus := .rolledBack }
  else h

/-- `deploy_instance`. -/
def deployInstance (call : DeployCall) : DeployM Unit := do
  deployStep call .arguments
  instanceForTenant
  Prog.onError (deployBody call) fun e => do
    Prog.writeDb fun s => { s with host := rollback call s }
    setHost fun h => h.setRow fun row => { row with status := .failed, deploymentStatus := .failed }
    Prog.raise e

/-! ## A tenant that is deployed -/

/-- The container runs, the site is enabled and routes to its port, and a port is recorded. -/
structure TenantHost.Deployed (h : TenantHost) : Prop where
  container : h.container ≠ none
  site : h.siteConfig = h.container
  enabled : h.siteEnabled = true
  port : h.port ≠ none

/-- The tenant as it was: a container, a site that routes to it, and the recorded port. -/
structure TenantHost.LeftAsItWas (before after : TenantHost) : Prop where
  container : after.container ≠ none
  site : after.siteConfig = after.container
  enabled : after.siteEnabled = true
  port : after.port = before.port

/-- Where a failing step leaves the tenant as it was: before the container was restarted, or, later
on, where the rollback fails to remove what it removes. -/
def DeployStep.Spares (call : DeployCall) (h : TenantHost) (port : ℕ) : DeployStep → Prop
  | .bootstrap => call.containerRemoved = false
  | .siteWrite emptied => call.containerRemoved = false ∧ emptied = false
  | .siteEnable | .reload | .record =>
      call.containerRemoved = false ∧ call.siteRemoval = .failed ∧ h.container = some port
  | _ => True

/-- The call fails on its arguments or on the port, or it gets the recorded port again and fails at
a step that spares the tenant. -/
def DeployCall.Spares (call : DeployCall) (h : TenantHost) : Prop :=
  call.failure = some .arguments ∨ (∃ e, allocated call h.port = .error e) ∨
    ∃ port, allocated call h.port = .ok port ∧ h.port = some port ∧
      ∃ step, call.failure = some step ∧ step.Spares call h port

/-- A call, from a server with this tenant. -/
def deploy (call : DeployCall) (h : TenantHost) :
    Except (Halt String) Unit × Sys DeployState Unit Unit :=
  deployInstance call { db := { host := h }, remote := () }

section

variable {call : DeployCall} {h : TenantHost} {Q : Unit → Sys DeployState Unit Unit → Prop}
  {X : Halt String → Sys DeployState Unit Unit → Prop} {s : Sys DeployState Unit Unit}

theorem wp_deployStep (step : DeployStep) :
    (deployStep call step).wp Q X s ↔
      if call.failure = some step then X (.raised "SubdomainDeploymentError") s else Q () s := by
  unfold deployStep
  split <;> simp

theorem wp_setHost (f : TenantHost → TenantHost) :
    (setHost f).wp Q X s ↔ Q () { s with db := { s.db with host := f s.db.host } } := Iff.rfl

theorem leftAsItWas_iff {before after : TenantHost} :
    before.LeftAsItWas after ↔ after.container ≠ none ∧ after.siteConfig = after.container ∧
      after.siteEnabled = true ∧ after.port = before.port := by
  constructor
  · intro h
    exact ⟨h.container, h.site, h.enabled, h.port⟩
  · rintro ⟨hcontainer, hsite, henabled, hport⟩
    exact ⟨hcontainer, hsite, henabled, hport⟩

theorem spares_of_allocated {port p : ℕ} (hport : h.port = some port)
    (halloc : allocated call (some port) = .ok p)
    (harguments : call.failure ≠ some .arguments) :
    call.Spares h ↔ p = port ∧ ∃ step, call.failure = some step ∧ step.Spares call h port := by
  unfold DeployCall.Spares
  rw [hport, halloc]
  constructor
  · intro hspares
    rcases hspares with hfailure | ⟨e, he⟩ | ⟨port', hport', heq, hstep⟩
    · exact absurd hfailure harguments
    · cases he
    · cases hport'
      cases heq
      exact ⟨rfl, hstep⟩
  · rintro ⟨heq, hstep⟩
    subst heq
    exact .inr (.inr ⟨p, rfl, rfl, hstep⟩)

/-- The body of a call for a deployed tenant, with the rollback of its failure. -/
theorem wp_deployBody_raised {row : InstanceRow} {port published : ℕ} {database : Bool}
    (hport : row.port = some port) (harguments : call.failure ≠ some .arguments) :
    (Prog.onError (deployBody call) fun e => do
        Prog.writeDb fun s => { s with host := rollback call s }
        setHost fun h => h.setRow fun row =>
          { row with status := .failed, deploymentStatus := .failed }
        Prog.raise e).wp (fun _ _ => True)
      (fun _ s' =>
        TenantHost.LeftAsItWas ⟨some row, some published, some published, true, database⟩
          s'.db.host ↔
        call.Spares ⟨some row, some published, some published, true, database⟩)
      { db := { host := ⟨some row, some published, some published, true, database⟩
                created := false, originalPort := some port }
        remote := () } := by
  have hrecorded : TenantHost.port ⟨some row, some published, some published, true, database⟩ =
      some port := by
    rw [TenantHost.port, Option.bind_some, hport]
  simp only [Prog.wp_onError, deployBody, Prog.wp_bind, wp_setHost, allocatePort, Prog.wp_readDb,
    id_eq, Prog.wp_ofExcept, TenantHost.setRow, Option.map_some, TenantHost.port, Option.bind_some,
    hport, wp_deployStep]
  cases halloc : allocated call (some port) with
  | error e =>
      have hspares : call.Spares ⟨some row, some published, some published, true, database⟩ :=
        .inr (.inl ⟨e, by rw [hrecorded, halloc]⟩)
      simp [rollback, leftAsItWas_iff, hspares, TenantHost.port, hport]
  | ok p =>
      rw [spares_of_allocated hrecorded halloc harguments]
      -- The flags say how far the call came; each failing step is run up to its failure.
      cases hfailure : call.failure with
      | none =>
          cases call.provisionDatabase <;> cases call.bootstrapTenant <;>
            simp [hfailure, runContainer, writeConfig, wp_deployStep, wp_setHost]
      | some step =>
          rcases step with _ | _ | _ | _ | _ | _ | _ | (_ | _) | _ | _ | _ <;>
            cases call.provisionDatabase <;> cases call.bootstrapTenant <;>
            simp [hfailure, runContainer, writeConfig, wp_deployStep, wp_setHost, rollback,
              DeployStep.Spares, TenantHost.setRow, leftAsItWas_iff, TenantHost.port, hport]
          all_goals cases call.containerRemoved <;> cases hremoval : call.siteRemoval <;>
            simp [removeSite, hremoval]
          all_goals omega

theorem wp_deployInstance_raised (hdeployed : h.Deployed) :
    (deployInstance call).wp (fun _ _ => True)
      (fun _ s' => h.LeftAsItWas s'.db.host ↔ call.Spares h)
      { db := { host := h }, remote := () } := by
  obtain ⟨hcontainer, hsite, henabled, hport⟩ := hdeployed
  obtain ⟨row, container, siteConfig, siteEnabled, database⟩ := h
  cases row with
  | none => exact absurd rfl hport
  | some row =>
  obtain ⟨recorded, status, deploymentStatus⟩ := row
  cases recorded with
  | none => exact absurd rfl hport
  | some port =>
  cases container with
  | none => exact absurd rfl hcontainer
  | some published =>
  simp only at hsite henabled
  subst hsite henabled
  simp only [deployInstance, Prog.wp_bind, wp_deployStep]
  split
  · rename_i harguments
    have hspares : call.Spares
        ⟨some ⟨some port, status, deploymentStatus⟩, some published, some published, true, database⟩ :=
      .inl harguments
    simp [hspares, leftAsItWas_iff]
  · rename_i harguments
    simp only [instanceForTenant, Prog.wp_writeDb]
    -- A row that was marked deleted is taken up again with its port.
    have hrun := fun (row' : InstanceRow) (hp' : row'.port = some port) =>
      @wp_deployBody_raised call row' port published database hp' harguments
    by_cases hdeleted : status = .deleted
    · have hagain := hrun ⟨some port, .pending, .pending⟩ rfl
      simp only [hdeleted, if_true]
      refine Prog.wp_mono hagain (fun _ _ _ => trivial) ?_
      intro _ s' hiff
      rw [leftAsItWas_iff] at hiff ⊢
      exact hiff
    · have hagain := hrun ⟨some port, status, deploymentStatus⟩ rfl
      simpa only [hdeleted, if_false] using hagain

end

/-- A failed call leaves a deployed tenant as it was exactly where it fails early enough. -/
theorem redeploy_leaves_tenant_iff (call : DeployCall) (h : TenantHost) (hdeployed : h.Deployed)
    (hraised : ∃ e, (deploy call h).1 = .error e) :
    h.LeftAsItWas (deploy call h).2.db.host ↔ call.Spares h := by
  have hwp := @wp_deployInstance_raised call h hdeployed
  obtain ⟨e, he⟩ := hraised
  unfold deploy at he ⊢
  unfold Prog.wp at hwp
  rcases hout : deployInstance call { db := { host := h }, remote := () } with ⟨result, s'⟩
  rw [hout] at hwp he
  simp only at he
  subst he
  exact hwp

/-- A shop that runs behind port 8001. -/
def runningShop : TenantHost :=
  ⟨some { port := some 8001, status := .running, deploymentStatus := .deployed }, some 8001,
    some 8001, true, true⟩

/-- The container does not restart: the shop keeps its container, its site and its port. -/
theorem shop_left_by_failed_restart :
    runningShop.LeftAsItWas
      (deploy { failure := some .container } runningShop).2.db.host :=
  (redeploy_leaves_tenant_iff { failure := some .container } runningShop
    ⟨by decide, rfl, rfl, by decide⟩ ⟨.raised "SubdomainDeploymentError", rfl⟩).mpr
    (.inr (.inr ⟨8001, rfl, rfl, .container, rfl, trivial⟩))

/-- The reload of nginx fails at the end of a second deployment, and the rollback removes the
container and the site that were there before. -/
theorem shop_destroyed_by_failed_reload :
    ¬ ∀ (call : DeployCall) (h : TenantHost), h.Deployed →
      (∃ e, (deploy call h).1 = .error e) → h.LeftAsItWas (deploy call h).2.db.host := by
  intro hall
  have hleft := hall { failure := some .reload } runningShop ⟨by decide, rfl, rfl, by decide⟩
    ⟨.raised "SubdomainDeploymentError", rfl⟩
  exact hleft.container rfl

end Qasedak.Deployment
