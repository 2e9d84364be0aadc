import Qasedak.Foundation.Serial
import Qasedak.Foundation.Run

/-! `store/admin_access.py` and `store/admin_staff.py`: who may manage staff, and the forms by which
staff are created and edited. A request is checked, and saved in a transaction later. -/

namespace Qasedak.Staff

open Foundation

/-! ## Users and roles -/

/-- The keys of `ROLE_PRESETS`; a user is in a role by a group of its name. -/
inductive Role where
  | storeOwner
  | orderOperator
  | supportAgent
  | finance
  | catalogManager
  | technicalOperator
  | marketingManager
  | analyst
  deriving DecidableEq, Repr

/-- `ROLE_PRESETS`, in its order. -/
def rolePresets : List Role :=
  [.storeOwner, .orderOperator, .supportAgent, .finance, .catalogManager, .technicalOperator,
    .marketingManager, .analyst]

/-- The capabilities of the role have `staff.manage` among them. -/
def Role.managesStaff : Role → Bool
  | .storeOwner => true
  | _ => false

structure StaffUser where
  pk : ℕ
  isActive : Bool := true
  isStaff : Bool := false
  isSuperuser : Bool := false
  password : String := ""
  roles : List Role := []
  deriving DecidableEq, Repr

abbrev StaffUsers := Serial StaffUser.pk

/-- `get_user_product_roles`. -/
def StaffUser.productRoles (u : StaffUser) : List Role := rolePresets.filter (· ∈ u.roles)

/-- `get_primary_role_key`. -/
def StaffUser.primaryRole (u : StaffUser) : Option Role := u.productRoles.head?

/-- `user_has_capability` of `staff.manage`. -/
def StaffUser.hasStaffManage (u : StaffUser) : Bool :=
  if u.isSuperuser = true then true
  else if u.isActive = false ∨ u.isStaff = false then false
  else u.productRoles.any Role.managesStaff

/-- `can_manage_staff`. -/
def canManageStaff (actor : StaffUser) (target : Option StaffUser) : Bool :=
  if actor.isActive = false ∨ actor.isStaff = false then false
  else if actor.isSuperuser = true then true
  else if actor.hasStaffManage = false then false
  else if target.any (·.isSuperuser) then false
  else true

/-- `can_assign_role`; a key that is not of a preset is none. -/
def canAssignRole (actor : StaffUser) (role : Option Role) : Bool :=
  role.isSome && canManageStaff actor none

/-- An active member of the staff in the group of store owners. -/
def StaffUser.IsManager (u : StaffUser) : Prop :=
  u.isActive = true ∧ u.isStaff = true ∧ .storeOwner ∈ u.roles

def StaffUser.IsActiveSuperuser (u : StaffUser) : Prop := u.isActive = true ∧ u.isSuperuser = true

instance (u : StaffUser) : Decidable u.IsManager := inferInstanceAs (Decidable (_ ∧ _))

instance (u : StaffUser) : Decidable u.IsActiveSuperuser := inferInstanceAs (Decidable (_ ∧ _))

/-- `active_staff_manager_count`. -/
def activeStaffManagerCount (users : StaffUsers) (exclude : StaffUser) : ℕ :=
  (users.rows.filter fun u => u.IsManager ∧ u.pk ≠ exclude.pk).length

/-- `active_superuser_count`. -/
def activeSuperuserCount (users : StaffUsers) (exclude : StaffUser) : ℕ :=
  (users.rows.filter fun u => u.IsActiveSuperuser ∧ u.pk ≠ exclude.pk).length

/-! ## Forms -/

/-- `StaffEditForm.clean`. -/
def cleanEdit (users : StaffUsers) (actor target : StaffUser) (newActive : Bool)
    (newRole : Option Role) : Except String Unit :=
  if target.pk = actor.pk ∧ actor.isSuperuser = false ∧
      (newActive ≠ target.isActive ∨ newRole ≠ target.primaryRole) then
    .error "برای جلوگیری از lock-out، تغییر active/role روی حساب خودتان مجاز نیست."
  else if target.isSuperuser = true ∧ target.isActive = true ∧ newActive = false ∧
      activeSuperuserCount users target = 0 then
    .error "آخرین superuser فعال نباید غیرفعال شود."
  else if target.isActive = true ∧ target.primaryRole = some .storeOwner ∧
      (newRole ≠ some .storeOwner ∨ newActive = false) ∧
      activeStaffManagerCount users target = 0 then
    .error "آخرین Store Owner فعال نباید غیرفعال یا demote شود."
  else .ok ()

/-- What a request posts, as far as the accounts depend on it. -/
inductive StaffRequest where
  | create (isActive : Bool) (role : Option Role) (password : String)
  | edit (target : ℕ) (isActive : Bool) (role : Option Role)
  | password (target : ℕ) (password : String)
  deriving DecidableEq, Repr

/-- A request whose form was valid, with the rows as they were read for it. -/
inductive PendingSave where
  | create (actor : StaffUser) (isActive : Bool) (role : Role) (password : String)
  | edit (actor target : StaffUser) (isActive : Bool) (role : Role)
  | password (actor : StaffUser) (target : ℕ) (password : String)
  deriving DecidableEq, Repr

def PendingSave.actor : PendingSave → StaffUser
  | .create actor _ _ _ => actor
  | .edit actor _ _ _ => actor
  | .password actor _ _ => actor

/-- The checks of `staff_create`. -/
def checkCreate (actor : StaffUser) (isActive : Bool) (role : Option Role) (password : String) :
    Except String PendingSave :=
  if (actor.hasStaffManage && canManageStaff actor none) = false then .error "PermissionDenied"
  else if canAssignRole actor role = false then .error "شما اجازه تخصیص این نقش را ندارید."
  else
    match role with
    | none => .error "شما اجازه تخصیص این نقش را ندارید."
    | some role => .ok (.create actor isActive role password)

/-- `StaffEditForm.is_valid`, with the values of its fields. -/
def validateEdit (users : StaffUsers) (actor target : StaffUser) (newActive : Bool)
    (newRole : Option Role) : Except String PendingSave :=
  if canAssignRole actor newRole = false then .error "شما اجازه تخصیص این نقش را ندارید."
  else
    match cleanEdit users actor target newActive newRole, newRole with
    | .error e, _ => .error e
    | .ok (), none => .error "شما اجازه تخصیص این نقش را ندارید."
    | .ok (), some newRole => .ok (.edit actor target newActive newRole)

/-- The checks of `staff_edit`; the fields that are disabled keep their initial values. -/
def checkEdit (users : StaffUsers) (actor target : StaffUser) (isActive : Bool)
    (role : Option Role) : Except String PendingSave :=
  if (actor.hasStaffManage && canManageStaff actor (some target)) = false then
    .error "PermissionDenied"
  else if target.isSuperuser = true ∧ actor.isSuperuser = false then
    validateEdit users actor target target.isActive target.primaryRole
  else validateEdit users actor target isActive role

/-- The checks of `staff_password`. -/
def checkPassword (actor target : StaffUser) (password : String) : Except String PendingSave :=
  if (actor.hasStaffManage && canManageStaff actor (some target)) = false then
    .error "PermissionDenied"
  else if target.pk = actor.pk ∧ actor.isSuperuser = false then .error "PermissionDenied"
  else .ok (.password actor target.pk password)

/-- The checks of a request that a user makes. -/
def checkRequest (users : StaffUsers) (actor : StaffUser) : StaffRequest → Except String PendingSave
  | .create isActive role password => checkCreate actor isActive role password
  | .edit target isActive role =>
      match users.get? target with
      | none => .error "Http404"
      | some target => checkEdit users actor target isActive role
  | .password target password =>
      match users.get? target with
      | none => .error "Http404"
      | some target => checkPassword actor target password

/-! ## Saves -/

def newStaffUser (isActive : Bool) (role : Role) (password : String) (pk : ℕ) : StaffUser where
  pk := pk
  isActive := isActive
  isStaff := true
  isSuperuser := false
  password := password
  roles := [role]

theorem newStaffUser_pk (isActive : Bool) (role : Role) (password : String) (pk : ℕ) :
    (newStaffUser isActive role password pk).pk = pk := rfl

/-- `saved.save()` of the row that was read, and `assign_product_role`. -/
def saveEdit (target : StaffUser) (isActive : Bool) (role : Role) (u : StaffUser) : StaffUser :=
  { u with
    isActive := isActive, isStaff := true, isSuperuser := target.isSuperuser,
    password := target.password, roles := [role] }

theorem saveEdit_pk (target : StaffUser) (isActive : Bool) (role : Role) (u : StaffUser) :
    (saveEdit target isActive role u).pk = u.pk := rfl

/-- `target.save(update_fields=["password"])`. -/
def savePassword (password : String) (u : StaffUser) : StaffUser := { u with password := password }

theorem savePassword_pk (password : String) (u : StaffUser) :
    (savePassword password u).pk = u.pk := rfl

/-- The transaction of a request. -/
def PendingSave.save (users : StaffUsers) : PendingSave → StaffUsers
  | .create _ isActive role word =>
      users.append (newStaffUser isActive role word) (newStaffUser_pk isActive role word)
  | .edit _ target isActive role =>
      users.modify (·.pk = target.pk) (saveEdit target isActive role)
        (saveEdit_pk target isActive role)
  | .password _ target word =>
      users.modify (·.pk = target) (savePassword word) (savePassword_pk word)

/-! ## Runs -/

/-- The accounts, and the requests that were accepted and are not saved yet. -/
structure StaffState where
  users : StaffUsers
  pending : List PendingSave := []

/-- A request is made and checked, or one that was accepted is saved. -/
inductive StaffOp where
  | submit (actor : ℕ) (request : StaffRequest)
  | save (index : ℕ)
  deriving DecidableEq, Repr

def staffStep (s : StaffState) : StaffOp → StaffState
  | .submit actor request =>
      match s.users.get? actor with
      | none => s
      | some actor =>
          match checkRequest s.users actor request with
          | .error _ => s
          | .ok p => { s with pending := s.pending ++ [p] }
  | .save index =>
      match s.pending[index]? with
      | none => s
      | some p => { users := p.save s.users, pending := s.pending.eraseIdx index }

end Qasedak.Staff
