import Qasedak.Store.Model
import Mathlib.Data.List.Dedup

/-! What the panels hold, and what their endpoints do with a request that arrives. -/

namespace Qasedak.Panels

/-- A client in the settings of an inbound, with its traffic counter. -/
structure RemoteClient where
  panel : ℕ
  inbound : ℕ
  id : String
  email : String
  subId : String
  enable : Bool
  /-- In milliseconds; zero is unlimited. -/
  expiryTime : ℤ
  totalGB : ℕ
  limitIp : ℕ
  used : ℕ := 0
  deriving DecidableEq, Repr

/-- A user of a PasarGuard panel; a marker in its note names the order it was made for. -/
structure PasarguardUser where
  panel : ℕ
  username : String
  groups : List ℕ
  note : String
  dataLimit : ℕ := 0
  hwidLimit : ℕ := 0
  deriving DecidableEq, Repr

/-- A group of a PasarGuard panel; whether it is disabled may not be readable. -/
structure PasarguardGroup where
  panel : ℕ
  id : ℕ
  isDisabled : Option Bool := some false
  deriving DecidableEq, Repr

structure Remote where
  clients : List RemoteClient := []
  users : List PasarguardUser := []
  groups : List PasarguardGroup := []
  deriving DecidableEq, Repr

/-- A write request to a panel. -/
inductive RemoteCall where
  | createClient (panel : ℕ) (inbounds : List ℕ) (id : String)
  | enableClient (panel inbound : ℕ) (id : String)
  | disableClient (panel inbound : ℕ) (identifier : String)
  | renewClient (panel inbound : ℕ) (id : String) (expiry : ℤ)
  | resetTraffic (panel inbound : ℕ) (email : String)
  | addTraffic (panel inbound : ℕ) (id : String) (total : ℕ)
  | deleteClient (panel inbound : ℕ) (identifier : String)
  | createUser (panel : ℕ) (username : String)
  | modifyUser (panel : ℕ) (username : String)
  | deleteUser (panel : ℕ) (username : String)
  deriving DecidableEq, Repr

namespace RemoteCall

/-- The request asks a panel to create a service. -/
def IsCreate : RemoteCall → Bool
  | createClient .. | createUser .. | modifyUser .. => true
  | _ => false

/-- The request asks a panel to renew a service or to reset its usage. -/
def IsRenewal : RemoteCall → Bool
  | renewClient .. | resetTraffic .. => true
  | _ => false

/-- The request asks a panel to delete a service. -/
def IsDelete : RemoteCall → Bool
  | deleteClient .. | deleteUser .. => true
  | _ => false

/-- The request sets a new expiry. -/
def Extends : RemoteCall → Bool
  | renewClient .. => true
  | _ => false

/-- The expiry that a renewal asks for. -/
def newExpiry : RemoteCall → Option ℤ
  | renewClient _ _ _ expiry => some expiry
  | _ => none

def IsReset : RemoteCall → Bool
  | resetTraffic .. => true
  | _ => false

end RemoteCall

namespace Remote

/-- The clients of an inbound, as `get_inbound` lists them. -/
def inboundClients (r : Remote) (panel inbound : ℕ) : List RemoteClient :=
  r.clients.filter fun c => c.panel = panel ∧ c.inbound = inbound

/-- The client that an update addresses: by e-mail on the modern API, else by id. -/
def Addressed (modern : Bool) (panel inbound : ℕ) (identifier email : String)
    (c : RemoteClient) : Prop :=
  c.panel = panel ∧ c.inbound = inbound ∧
    if modern then c.email = email else c.id = identifier

instance (modern : Bool) (panel inbound : ℕ) (identifier email : String) (c : RemoteClient) :
    Decidable (Addressed modern panel inbound identifier email c) :=
  inferInstanceAs (Decidable (_ ∧ _ ∧ _))

/-- `updateClient` and `clients/update`: the addressed client becomes the payload and
keeps its counter. -/
def updateClient (modern : Bool) (panel inbound : ℕ) (identifier email : String)
    (payload : RemoteClient) (r : Remote) : Except String (Remote × Unit) :=
  if ∃ c ∈ r.clients, Addressed modern panel inbound identifier email c then
    .ok ({ r with clients := r.clients.map fun c =>
      if Addressed modern panel inbound identifier email c then { payload with used := c.used }
      else c }, ())
  else .error "Panel rejected client update."

/-- `_modern_client_attachments`: the inbounds of the panel that a client is attached to. -/
def attachments (r : Remote) (panel : ℕ) (email : String) : List ℕ :=
  (r.clients.filter fun c => c.panel = panel ∧ c.email = email).map (·.inbound)

/-- `resetClientTraffic` and `clients/resetTraffic`. -/
def resetTraffic (panel inbound : ℕ) (email : String) (r : Remote) :
    Except String (Remote × Unit) :=
  if ∃ c ∈ r.clients, c.panel = panel ∧ c.inbound = inbound ∧ c.email = email then
    .ok ({ r with clients := r.clients.map fun c =>
      if c.panel = panel ∧ c.inbound = inbound ∧ c.email = email then { c with used := 0 }
      else c }, ())
  else .error "Panel rejected traffic reset."

/-- `addClient` and `clients/add`: the client is attached to the inbounds, unless one of them
has a client with its id or its e-mail. -/
def createClient (panel : ℕ) (inbounds : List ℕ) (payload : RemoteClient) (r : Remote) :
    Except String (Remote × Unit) :=
  if ∃ c ∈ r.clients, c.panel = panel ∧ c.inbound ∈ inbounds ∧
      (c.id = payload.id ∨ c.email = payload.email) then
    .error "Client already exists."
  else
    let attached := inbounds.dedup.map fun k => { payload with panel := panel, inbound := k }
    .ok ({ r with clients := r.clients ++ attached }, ())

/-- The text of a panel that has no such client. -/
def clientNotFound : String := "Client not found."

/-- `delClient` removes the client with an id from an inbound, `clients/del` the one with
an e-mail from the panel. -/
def Deleted (modern : Bool) (panel inbound : ℕ) (identifier email : String)
    (c : RemoteClient) : Prop :=
  c.panel = panel ∧ if modern then c.email = email else c.inbound = inbound ∧ c.id = identifier

instance (modern : Bool) (panel inbound : ℕ) (identifier email : String) (c : RemoteClient) :
    Decidable (Deleted modern panel inbound identifier email c) :=
  inferInstanceAs (Decidable (_ ∧ _))

def deleteClient (modern : Bool) (panel inbound : ℕ) (identifier email : String) (r : Remote) :
    Except String (Remote × Unit) :=
  if ∃ c ∈ r.clients, Deleted modern panel inbound identifier email c then
    let kept := r.clients.filter fun c => ¬ Deleted modern panel inbound identifier email c
    .ok ({ r with clients := kept }, ())
  else .error clientNotFound

/-- `POST /api/user` of PasarGuard. -/
def createUser (payload : PasarguardUser) (r : Remote) : Except String (Remote × Unit) :=
  if ∃ u ∈ r.users, u.panel = payload.panel ∧ u.username = payload.username then
    .error "User already exists"
  else .ok ({ r with users := r.users ++ [payload] }, ())

/-- `PUT /api/user/…` of PasarGuard. -/
def modifyUser (payload : PasarguardUser) (r : Remote) : Except String (Remote × Unit) :=
  if ∃ u ∈ r.users, u.panel = payload.panel ∧ u.username = payload.username then
    .ok ({ r with users := r.users.map fun u =>
      if u.panel = payload.panel ∧ u.username = payload.username then payload else u }, ())
  else .error "User not found"

/-- `DELETE /api/user/…` of PasarGuard. -/
def deleteUser (panel : ℕ) (username : String) (r : Remote) : Except String (Remote × Unit) :=
  if ∃ u ∈ r.users, u.panel = panel ∧ u.username = username then
    let kept := r.users.filter fun u => ¬ (u.panel = panel ∧ u.username = username)
    .ok ({ r with users := kept }, ())
  else .error "User not found"

end Remote

end Qasedak.Panels
