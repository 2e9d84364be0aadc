import Qasedak.Foundation.Run
import Qasedak.Foundation.Table
import Qasedak.Deployment.Redeploy

/-! The ports of one server: `InstanceManager`, `PortAllocator` and `DeployEngine` write them, and
Docker publishes them. Calls interleave step by step. -/

namespace Qasedak.Deployment

open Foundation

/-- The row of a tenant on the server; its key is the tenant. -/
structure TenantInstance where
  tenant : ℕ
  port : Option ℕ
  status : InstanceStatus := .pending
  deploymentStatus : DeploymentStatus := .pending
  deriving DecidableEq, Repr

/-- Neither `DELETED` nor `ROLLED_BACK`. -/
def TenantInstance.Live (i : TenantInstance) : Prop :=
  i.status ≠ .deleted ∧ i.deploymentStatus ≠ .rolledBack

instance (i : TenantInstance) : Decidable i.Live := inferInstanceAs (Decidable (_ ∧ _))

abbrev TenantInstances := Table TenantInstance.tenant

/-- `PortAllocator.used_ports`. -/
def usedPorts (rows : TenantInstances) (exclude : Option ℕ) : List ℕ :=
  (rows.rows.filter fun i => i.Live ∧ some i.tenant ≠ exclude).filterMap (·.port)

/-- Another row of the server has the port: `unique_orchestrator_port_per_server`. -/
def Collides (rows : TenantInstances) (tenant : ℕ) (port : Option ℕ) : Prop :=
  port ≠ none ∧ ∃ i ∈ rows.rows, i.tenant ≠ tenant ∧ i.port = port

instance (rows : TenantInstances) (tenant : ℕ) (port : Option ℕ) :
    Decidable (Collides rows tenant port) := inferInstanceAs (Decidable (_ ∧ _))

/-- What a call holds between two of its steps. -/
inductive PortStage where
  | idle
  /-- `create_instance` found this port. -/
  | creating (tenant port : ℕ) (explicit : Bool)
  /-- `PortAllocator.allocate` found this port. -/
  | allocating (tenant port : ℕ) (explicit : Bool)
  /-- `deploy_instance` with its own copy of the row. -/
  | deploying (copy : TenantInstance)
  /-- The container is there, and the copy is still to be saved as running. -/
  | started (copy : TenantInstance)
  deriving DecidableEq, Repr

structure PortBook where
  rows : TenantInstances
  /-- The host port that the container of a tenant publishes. -/
  containers : ℕ → Option ℕ
  stage : ℕ → PortStage

inductive PortStep where
  | createRead (run tenant : ℕ) (port : Option ℕ)
  | createWrite (run : ℕ)
  | allocateRead (run tenant : ℕ) (port : Option ℕ)
  | allocateWrite (run : ℕ)
  | release (tenant : ℕ)
  | deployRead (run tenant : ℕ) (port : Option ℕ)
  /-- The engine marks the row as deploying. -/
  | deployMark (run : ℕ)
  /-- The container is restarted, or run on the first port from the recorded one on that no
  container of `docker ps` publishes. -/
  | deployContainer (run : ℕ) (published : List ℕ) (succeeds : Bool)
  | deployFinish (run : ℕ)
  | deployFail (run : ℕ)
  | deleteMark (tenant : ℕ)
  | deleteContainer (tenant : ℕ)
  | deleteFinish (tenant : ℕ)

namespace PortBook

def setStage (b : PortBook) (run : ℕ) (stage : PortStage) : PortBook :=
  { b with stage := fun r => if r = run then stage else b.stage r }

def setContainer (b : PortBook) (tenant : ℕ) (port : Option ℕ) : PortBook :=
  { b with containers := fun t => if t = tenant then port else b.containers t }

/-- `instance.save` of fields of a row. -/
def setRow (b : PortBook) (tenant : ℕ) (f : TenantInstance → TenantInstance)
    (hf : ∀ i, (f i).tenant = i.tenant) : PortBook :=
  { b with rows := b.rows.modify tenant f hf }

def withPort (port : Option ℕ) (i : TenantInstance) : TenantInstance := { i with port := port }

def withStatus (status : InstanceStatus) (i : TenantInstance) : TenantInstance :=
  { i with status := status }

/-- `allocate_remote_port`. -/
def allocateRemotePort (published : List ℕ) (port : ℕ) : Option ℕ :=
  let port := skipUsed published published.length port
  if endPort < port then none else some port

/-- The port that a step without an explicit one starts from: that of the row, or the first. -/
def preferredPort (b : PortBook) (tenant : ℕ) (port : Option ℕ) : ℕ :=
  (orPort port (orPort ((b.rows.get? tenant).bind (·.port)) none)).getD startPort

/-- `copy.save()` of the port, with the status; none where the port collides. -/
def savePort (b : PortBook) (copy : TenantInstance) (f : TenantInstance → TenantInstance)
    (hf : ∀ i, (f i).tenant = i.tenant) : Option PortBook :=
  if Collides b.rows copy.tenant copy.port then none
  else some (b.setRow copy.tenant (fun i => f (withPort copy.port i)) fun i => hf _)

def step (b : PortBook) : PortStep → PortBook
  | .createRead run tenant port =>
      match b.rows.get? tenant with
      | some i => if i.status = .deleted then pickNew b run tenant port else b.setStage run .idle
      | none => pickNew b run tenant port
  | .createWrite run =>
      match b.stage run with
      | .creating tenant port _ =>
          match b.rows.get? tenant with
          | some i =>
              -- Another call may have made the row meanwhile: `get_or_create` returns it.
              if i.status ≠ .deleted then b.setStage run .idle
              else ((b.savePort { i with port := some port } (withStatus .pending) fun _ => rfl).getD
                b).setStage run .idle
          | none =>
              if Collides b.rows tenant (some port) then b.setStage run .idle
              else { b with rows := b.rows.put { tenant := tenant, port := some port } }.setStage run
                .idle
      | _ => b
  | .allocateRead run tenant port =>
      match nextFreePort (usedPorts b.rows (some tenant)) (b.preferredPort tenant port) with
      | .error _ => b.setStage run .idle
      | .ok free => b.setStage run (.allocating tenant free (orPort port none).isSome)
  | .allocateWrite run =>
      match b.stage run with
      | .allocating tenant port _ =>
          ((b.savePort ⟨tenant, some port, .pending, .pending⟩ id fun _ => rfl).getD b).setStage run
            .idle
      | _ => b
  | .release tenant =>
      b.setRow tenant (fun i => { i with port := none, deploymentStatus := .rolledBack }) fun _ => rfl
  | .deployRead run tenant port =>
      match b.rows.get? tenant with
      | none => b.setStage run .idle
      | some i =>
          if i.status = .deleted then b.setStage run .idle
          else
            let copy := withPort (orPort port i.port) i
            match b.savePort copy id fun _ => rfl with
            | none => b.setStage run .idle
            | some b => b.setStage run (.deploying copy)
  | .deployMark run =>
      match b.stage run with
      | .deploying copy =>
          b.setRow copy.tenant
            (fun i => { i with status := .deploying, deploymentStatus := .deploying }) fun _ => rfl
      | _ => b
  | .deployContainer run published succeeds =>
      match b.stage run with
      | .deploying copy =>
          if succeeds = false then b
          else if (b.containers copy.tenant).isSome then b.setStage run (.started copy)
          else match copy.port.bind (allocateRemotePort published) with
            | none => b
            | some port =>
                let copy := withPort (some port) copy
                match b.savePort copy id fun _ => rfl with
                | none => b
                | some b => (b.setContainer copy.tenant (some port)).setStage run (.started copy)
      | _ => b
  | .deployFinish run =>
      match b.stage run with
      | .started copy =>
          match b.savePort copy
              (fun i => { i with status := .running, deploymentStatus := .deployed }) fun _ => rfl with
          | none => b
          | some b => b.setStage run .idle
      | _ => b
  | .deployFail run =>
      match b.stage run with
      | .deploying copy | .started copy =>
          (b.setRow copy.tenant (fun i => { i with status := .failed, deploymentStatus := .failed })
            fun _ => rfl).setStage run .idle
      | _ => b.setStage run .idle
  | .deleteMark tenant => b.setRow tenant (withStatus .deleting) fun _ => rfl
  | .deleteContainer tenant => b.setContainer tenant none
  | .deleteFinish tenant => b.setRow tenant (withStatus .deleted) fun _ => rfl
where
  /-- `next_free_port` for a row that is made or made anew. -/
  pickNew (b : PortBook) (run tenant : ℕ) (port : Option ℕ) : PortBook :=
    match nextFreePort (usedPorts b.rows none) ((orPort port none).getD startPort) with
    | .error _ => b.setStage run .idle
    | .ok free => b.setStage run (.creating tenant free (orPort port none).isSome)

end PortBook

end Qasedak.Deployment
