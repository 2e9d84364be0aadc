import Qasedak.Staff.Model

/-! No request locks everybody out, and none escalates, where the checks of an edit still hold when
it is saved: the saving transaction does not make them again. -/

namespace Qasedak.Staff

open Foundation

variable {users : StaffUsers} {actor target u r : StaffUser} {p : PendingSave} {s : StaffState}
  {op : StaffOp} {isActive : Bool} {role : Role}

/-! ## What must hold -/

def HasManager (users : StaffUsers) : Prop := ∃ u ∈ users.rows, u.IsManager

def HasActiveSuperuser (users : StaffUsers) : Prop := ∃ u ∈ users.rows, u.IsActiveSuperuser

/-- The request that an operation saves. -/
def saved (s : StaffState) : StaffOp → Option PendingSave
  | .submit _ _ => none
  | .save index => s.pending[index]?

/-- The role that a request gives to an account, none for a request that gives no role. -/
def PendingSave.given (users : StaffUsers) : PendingSave → Option (ℕ × Role)
  | .create _ _ role _ => some (users.next, role)
  | .edit _ target _ role => some (target.pk, role)
  | .password _ _ _ => none

/-- An operation locks nobody out who was the last, makes nobody a superuser, and gives a role by
itself; one that does not come from a superuser leaves the superusers and its own account. -/
structure Lawful (s : StaffState) (op : StaffOp) : Prop where
  manager : HasManager s.users → HasManager (staffStep s op).users
  superuser : HasActiveSuperuser s.users → HasActiveSuperuser (staffStep s op).users
  noEscalation : ∀ u ∈ (staffStep s op).users.rows, u.isSuperuser = true →
    ∃ r ∈ s.users.rows, r.pk = u.pk ∧ r.isSuperuser = true
  others : ∀ p ∈ saved s op, p.actor.isSuperuser = false →
    ∀ r ∈ s.users.rows, r.isSuperuser = true → r ∈ (staffStep s op).users.rows
  own : ∀ p ∈ saved s op, p.actor.isSuperuser = false →
    ∀ r ∈ s.users.rows, r.pk = p.actor.pk → ∃ u ∈ (staffStep s op).users.rows, u.pk = r.pk ∧
      u.isActive = r.isActive ∧ u.primaryRole = r.primaryRole
  role : ∀ p ∈ saved s op, ∀ given ∈ p.given s.users,
    ∃ u ∈ (staffStep s op).users.rows, u.pk = given.1 ∧ u.roles = [given.2]

/-- The checks of an edit pass on the row as it is when the edit is saved. -/
def PendingSave.StillClean (users : StaffUsers) : PendingSave → Prop
  | .edit actor target isActive role =>
      ∀ r ∈ users.rows, r.pk = target.pk → cleanEdit users actor r isActive (some role) = .ok ()
  | _ => True

instance (users : StaffUsers) (p : PendingSave) : Decidable (p.StillClean users) :=
  match p with
  | .edit _ _ _ _ => inferInstanceAs (Decidable (∀ _ ∈ _, _))
  | .create _ _ _ _ => inferInstanceAs (Decidable True)
  | .password _ _ _ => inferInstanceAs (Decidable True)

def StillChecked (s : StaffState) (op : StaffOp) : Prop :=
  ∀ p ∈ saved s op, p.StillClean s.users

instance (s : StaffState) (op : StaffOp) : Decidable (StillChecked s op) :=
  inferInstanceAs (Decidable (∀ _ ∈ (_ : Option PendingSave), _))

/-! ## Roles -/

/-- The owners come first among the presets. -/
theorem primaryRole_eq_storeOwner_iff :
    u.primaryRole = some .storeOwner ↔ .storeOwner ∈ u.roles := by
  by_cases h : Role.storeOwner ∈ u.roles
  · simp [StaffUser.primaryRole, StaffUser.productRoles, rolePresets, h]
  · simp only [h, iff_false]
    intro hhead
    have hmem := List.mem_of_head? hhead
    exact h (of_decide_eq_true (List.mem_filter.mp hmem).2)

theorem primaryRole_singleton (h : u.roles = [role]) : u.primaryRole = some role := by
  cases role <;> simp [StaffUser.primaryRole, StaffUser.productRoles, rolePresets, h]

theorem cleanEdit_ok {newRole : Option Role}
    (h : cleanEdit users actor r isActive newRole = .ok ()) :
    (r.pk = actor.pk → actor.isSuperuser = false →
      isActive = r.isActive ∧ newRole = r.primaryRole) ∧
    (r.isSuperuser = true → r.isActive = true → isActive = false →
      activeSuperuserCount users r ≠ 0) ∧
    (r.isActive = true → r.primaryRole = some .storeOwner →
      newRole ≠ some .storeOwner ∨ isActive = false → activeStaffManagerCount users r ≠ 0) := by
  unfold cleanEdit at h
  split at h
  · cases h
  rename_i hself
  split at h
  · cases h
  rename_i hsuperuser
  split at h
  · cases h
  rename_i hmanager
  refine ⟨fun hpk hactor => ?_, fun hsuper hactive hnew hcount => ?_,
    fun hactive howner hdemoting hcount => ?_⟩
  · by_contra hne
    refine hself ⟨hpk, hactor, ?_⟩
    by_cases hactive : isActive = r.isActive
    · exact .inr fun hrole => hne ⟨hactive, hrole⟩
    · exact .inl hactive
  · exact hsuperuser ⟨hsuper, hactive, hnew, hcount⟩
  · exact hmanager ⟨hactive, howner, hdemoting, hcount⟩

theorem exists_other_manager (h : activeStaffManagerCount users r ≠ 0) :
    ∃ u ∈ users.rows, u.IsManager ∧ u.pk ≠ r.pk := by
  obtain ⟨u, hu⟩ := List.exists_mem_of_length_pos (Nat.pos_of_ne_zero h)
  obtain ⟨hmem, hp⟩ := List.mem_filter.mp hu
  exact ⟨u, hmem, of_decide_eq_true hp⟩

theorem exists_other_superuser (h : activeSuperuserCount users r ≠ 0) :
    ∃ u ∈ users.rows, u.IsActiveSuperuser ∧ u.pk ≠ r.pk := by
  obtain ⟨u, hu⟩ := List.exists_mem_of_length_pos (Nat.pos_of_ne_zero h)
  obtain ⟨hmem, hp⟩ := List.mem_filter.mp hu
  exact ⟨u, hmem, of_decide_eq_true hp⟩

/-! ## Accepted requests -/

/-- What is known of a request from its checks: the row it saves still says of the superuser what
was read, and only a superuser touches one. -/
def Approved (users : StaffUsers) : PendingSave → Prop
  | .create _ _ _ _ => True
  | .edit actor target _ _ =>
      (∃ r ∈ users.rows, r.pk = target.pk ∧ r.isSuperuser = target.isSuperuser) ∧
        (actor.isSuperuser = false → target.isSuperuser = false)
  | .password actor target _ =>
      ∃ r ∈ users.rows, r.pk = target ∧ (actor.isSuperuser = false → r.isSuperuser = false)

theorem superuser_of_canManageStaff (h : canManageStaff actor (some target) = true)
    (hactor : actor.isSuperuser = false) : target.isSuperuser = false := by
  by_contra hsuper
  simp [canManageStaff, hactor, hsuper] at h

theorem validateEdit_ok {newRole : Option Role}
    (h : validateEdit users actor target isActive newRole = .ok p) :
    ∃ k, p = .edit actor target isActive k := by
  unfold validateEdit at h
  split at h
  · cases h
  split at h
  · cases h
  · cases h
  · cases h
    exact ⟨_, rfl⟩

theorem checkEdit_ok {newRole : Option Role}
    (h : checkEdit users actor target isActive newRole = .ok p) :
    canManageStaff actor (some target) = true ∧ ∃ a k, p = .edit actor target a k := by
  unfold checkEdit at h
  split at h
  · cases h
  rename_i hmay
  have hmay : actor.hasStaffManage = true ∧ canManageStaff actor (some target) = true := by
    simpa using hmay
  split at h
  · exact ⟨hmay.2, _, validateEdit_ok h⟩
  · exact ⟨hmay.2, _, validateEdit_ok h⟩

theorem checkPassword_ok {word : String} (h : checkPassword actor target word = .ok p) :
    canManageStaff actor (some target) = true ∧ p = .password actor target.pk word := by
  unfold checkPassword at h
  split at h
  · cases h
  rename_i hmay
  have hmay : actor.hasStaffManage = true ∧ canManageStaff actor (some target) = true := by
    simpa using hmay
  split at h
  · cases h
  · cases h
    exact ⟨hmay.2, rfl⟩

theorem approved_checkRequest {request : StaffRequest}
    (h : checkRequest users actor request = .ok p) : Approved users p := by
  cases request with
  | create isActive role word =>
      simp only [checkRequest, checkCreate] at h
      split at h
      · cases h
      split at h
      · cases h
      split at h
      · cases h
      · cases h
        trivial
  | edit k isActive role =>
      simp only [checkRequest] at h
      split at h
      · cases h
      · rename_i target htarget
        obtain ⟨hmay, a, k, rfl⟩ := checkEdit_ok h
        exact ⟨⟨target, (Serial.get?_eq_some_iff.mp htarget).1, rfl, rfl⟩,
          superuser_of_canManageStaff hmay⟩
  | password k word =>
      simp only [checkRequest] at h
      split at h
      · cases h
      · rename_i target htarget
        obtain ⟨hmay, rfl⟩ := checkPassword_ok h
        exact ⟨target, (Serial.get?_eq_some_iff.mp htarget).1, rfl,
          superuser_of_canManageStaff hmay⟩

/-! ## One save -/

/-- A row of the accounts after a save: another account, or the one that is saved. -/
theorem mem_save_edit :
    u ∈ (PendingSave.save users (.edit actor target isActive role)).rows ↔
      ∃ r ∈ users.rows, (if r.pk = target.pk then saveEdit target isActive role r else r) = u := by
  rw [PendingSave.save, Serial.mem_rows_modify]
  simp only [decide_eq_true_eq]

theorem mem_save_password {k : ℕ} {word : String} :
    u ∈ (PendingSave.save users (.password actor k word)).rows ↔
      ∃ r ∈ users.rows, (if r.pk = k then savePassword word r else r) = u := by
  rw [PendingSave.save, Serial.mem_rows_modify]
  simp only [decide_eq_true_eq]

theorem mem_save_create {word : String} :
    u ∈ (PendingSave.save users (.create actor isActive role word)).rows ↔
      u ∈ users.rows ∨ u = newStaffUser isActive role word users.next := by
  show u ∈ users.rows ++ [_] ↔ _
  rw [List.mem_append, List.mem_singleton]

theorem mem_edit_of_ne (hr : r ∈ users.rows) (hne : r.pk ≠ target.pk) :
    r ∈ (PendingSave.save users (.edit actor target isActive role)).rows :=
  mem_save_edit.mpr ⟨r, hr, if_neg hne⟩

theorem mem_edit_self (hr : r ∈ users.rows) (hpk : r.pk = target.pk) :
    saveEdit target isActive role r ∈
      (PendingSave.save users (.edit actor target isActive role)).rows :=
  mem_save_edit.mpr ⟨r, hr, if_pos hpk⟩

/-- A save keeps what a row says of the superuser. -/
theorem exists_before_save (happroved : Approved users p) (hu : u ∈ (p.save users).rows)
    (hsuper : u.isSuperuser = true) :
    ∃ r ∈ users.rows, r.pk = u.pk ∧ r.isSuperuser = true := by
  cases p with
  | create actor isActive role word =>
      rcases mem_save_create.mp hu with hu | rfl
      · exact ⟨u, hu, rfl, hsuper⟩
      · cases hsuper
  | edit actor target isActive role =>
      obtain ⟨⟨x, hx, hxpk, hxsuper⟩, -⟩ := happroved
      obtain ⟨r, hr, rfl⟩ := mem_save_edit.mp hu
      by_cases hpk : r.pk = target.pk
      · rw [if_pos hpk] at hsuper
        obtain rfl := Serial.eq_of_key_eq hr hx (hpk.trans hxpk.symm)
        refine ⟨r, hr, ?_, hxsuper.trans hsuper⟩
        rw [if_pos hpk]
        rfl
      · rw [if_neg hpk] at hsuper ⊢
        exact ⟨r, hr, rfl, hsuper⟩
  | password actor k word =>
      obtain ⟨r, hr, rfl⟩ := mem_save_password.mp hu
      refine ⟨r, hr, ?_, ?_⟩
      · split
        · rfl
        · rfl
      · by_cases hpk : r.pk = k
        · rw [if_pos hpk] at hsuper
          exact hsuper
        · rw [if_neg hpk] at hsuper
          exact hsuper

/-- A row after a save, with what it said of the superuser. -/
theorem exists_after_save (happroved : Approved users p) (hr : r ∈ users.rows) :
    ∃ u ∈ (p.save users).rows, u.pk = r.pk ∧ u.isSuperuser = r.isSuperuser := by
  cases p with
  | create actor isActive role word => exact ⟨r, mem_save_create.mpr (.inl hr), rfl, rfl⟩
  | edit actor target isActive role =>
      obtain ⟨⟨x, hx, hxpk, hxsuper⟩, -⟩ := happroved
      by_cases hpk : r.pk = target.pk
      · obtain rfl := Serial.eq_of_key_eq hr hx (hpk.trans hxpk.symm)
        exact ⟨_, mem_edit_self hr hpk, rfl, hxsuper.symm⟩
      · exact ⟨r, mem_edit_of_ne hr hpk, rfl, rfl⟩
  | password actor k word =>
      refine ⟨_, mem_save_password.mpr ⟨r, hr, rfl⟩, ?_, ?_⟩
      · split
        · rfl
        · rfl
      · split
        · rfl
        · rfl

/-- Other requests stay approved: no row goes, and none changes what it says of the superuser. -/
theorem Approved.save {q : PendingSave} (h : Approved users p) (hq : Approved users q) :
    Approved (p.save users) q := by
  cases q with
  | create actor isActive role word => trivial
  | edit actor target isActive role =>
      obtain ⟨⟨r, hr, hpk, hsuper⟩, hactor⟩ := hq
      obtain ⟨u, hu, hupk, husuper⟩ := exists_after_save h hr
      exact ⟨⟨u, hu, hupk.trans hpk, husuper.trans hsuper⟩, hactor⟩
  | password actor k word =>
      obtain ⟨r, hr, hpk, hactor⟩ := hq
      obtain ⟨u, hu, hupk, husuper⟩ := exists_after_save h hr
      exact ⟨u, hu, hupk.trans hpk, fun hfalse => husuper.trans (hactor hfalse)⟩

theorem hasManager_save (hclean : p.StillClean users) (h : HasManager users) :
    HasManager (p.save users) := by
  obtain ⟨u, hu, hmanager⟩ := h
  cases p with
  | create actor isActive role word => exact ⟨u, mem_save_create.mpr (.inl hu), hmanager⟩
  | password actor k word =>
      refine ⟨_, mem_save_password.mpr ⟨u, hu, rfl⟩, ?_⟩
      split
      · exact hmanager
      · exact hmanager
  | edit actor target isActive role =>
      by_cases hpk : u.pk = target.pk
      · obtain ⟨-, -, hlast⟩ := cleanEdit_ok (hclean u hu hpk)
        have howner := primaryRole_eq_storeOwner_iff.mpr hmanager.2.2
        by_cases hdemoting : some role ≠ some Role.storeOwner ∨ isActive = false
        · obtain ⟨r, hr, hrmanager, hne⟩ :=
            exists_other_manager (hlast hmanager.1 howner hdemoting)
          exact ⟨r, mem_edit_of_ne hr (by rw [← hpk]; exact hne), hrmanager⟩
        · have hkeeps : role = .storeOwner ∧ isActive = true := by
            simpa [not_or] using hdemoting
          refine ⟨_, mem_edit_self hu hpk, hkeeps.2, rfl, ?_⟩
          rw [hkeeps.1]
          exact List.mem_singleton_self _
      · exact ⟨u, mem_edit_of_ne hu hpk, hmanager⟩

theorem hasActiveSuperuser_save (happroved : Approved users p) (hclean : p.StillClean users)
    (h : HasActiveSuperuser users) : HasActiveSuperuser (p.save users) := by
  obtain ⟨u, hu, hactive, hsuper⟩ := h
  cases p with
  | create actor isActive role word => exact ⟨u, mem_save_create.mpr (.inl hu), hactive, hsuper⟩
  | password actor k word =>
      refine ⟨_, mem_save_password.mpr ⟨u, hu, rfl⟩, ?_⟩
      split
      · exact ⟨hactive, hsuper⟩
      · exact ⟨hactive, hsuper⟩
  | edit actor target isActive role =>
      by_cases hpk : u.pk = target.pk
      · obtain ⟨-, hlast, -⟩ := cleanEdit_ok (hclean u hu hpk)
        cases hnew : isActive with
        | false =>
            obtain ⟨r, hr, hrsuper, hne⟩ := exists_other_superuser (hlast hsuper hactive hnew)
            exact ⟨r, mem_edit_of_ne hr (by rw [← hpk]; exact hne), hrsuper⟩
        | true =>
            obtain ⟨⟨x, hx, hxpk, hxsuper⟩, -⟩ := happroved
            obtain rfl := Serial.eq_of_key_eq hu hx (hpk.trans hxpk.symm)
            exact ⟨_, mem_edit_self hu hpk, rfl, hxsuper.symm.trans hsuper⟩
      · exact ⟨u, mem_edit_of_ne hu hpk, hactive, hsuper⟩

/-- Nobody but a superuser changes one. -/
theorem superuser_mem_save (happroved : Approved users p) (hactor : p.actor.isSuperuser = false)
    (hr : r ∈ users.rows) (hsuper : r.isSuperuser = true) : r ∈ (p.save users).rows := by
  cases p with
  | create actor isActive role word => exact mem_save_create.mpr (.inl hr)
  | edit actor target isActive role =>
      obtain ⟨⟨x, hx, hxpk, hxsuper⟩, htarget⟩ := happroved
      refine mem_edit_of_ne hr fun hpk => ?_
      obtain rfl := Serial.eq_of_key_eq hr hx (hpk.trans hxpk.symm)
      rw [htarget hactor, hsuper] at hxsuper
      cases hxsuper
  | password actor k word =>
      obtain ⟨x, hx, hxpk, htarget⟩ := happroved
      have hne : r.pk ≠ k := by
        intro hpk
        obtain rfl := Serial.eq_of_key_eq hr hx (hpk.trans hxpk.symm)
        rw [htarget hactor] at hsuper
        cases hsuper
      exact mem_save_password.mpr ⟨r, hr, if_neg hne⟩

theorem own_save (hclean : p.StillClean users) (hactor : p.actor.isSuperuser = false)
    (hr : r ∈ users.rows) (hpk : r.pk = p.actor.pk) :
    ∃ u ∈ (p.save users).rows, u.pk = r.pk ∧ u.isActive = r.isActive ∧
      u.primaryRole = r.primaryRole := by
  cases p with
  | create actor isActive role word =>
      exact ⟨r, mem_save_create.mpr (.inl hr), rfl, rfl, rfl⟩
  | password actor k word =>
      refine ⟨_, mem_save_password.mpr ⟨r, hr, rfl⟩, ?_⟩
      split
      · exact ⟨rfl, rfl, rfl⟩
      · exact ⟨rfl, rfl, rfl⟩
  | edit actor target isActive role =>
      by_cases htarget : r.pk = target.pk
      · obtain ⟨hself, -, -⟩ := cleanEdit_ok (hclean r hr htarget)
        obtain ⟨hsame, hrole⟩ := hself hpk hactor
        refine ⟨_, mem_edit_self hr htarget, rfl, hsame, ?_⟩
        rw [← hrole]
        exact primaryRole_singleton rfl
      · exact ⟨r, mem_edit_of_ne hr htarget, rfl, rfl, rfl⟩

theorem role_save (happroved : Approved users p) {given : ℕ × Role} (h : given ∈ p.given users) :
    ∃ u ∈ (p.save users).rows, u.pk = given.1 ∧ u.roles = [given.2] := by
  cases p with
  | create actor isActive role word =>
      obtain rfl := Option.mem_some.mp h
      exact ⟨_, mem_save_create.mpr (.inr rfl), rfl, rfl⟩
  | edit actor target isActive role =>
      obtain rfl := Option.mem_some.mp h
      obtain ⟨⟨x, hx, hxpk, -⟩, -⟩ := happroved
      exact ⟨_, mem_edit_self hx hxpk, hxpk, rfl⟩
  | password actor k word => cases h

/-! ## Runs -/

/-- Every request that waits to be saved was accepted. -/
def Sound (s : StaffState) : Prop := ∀ p ∈ s.pending, Approved s.users p

theorem staffStep_submit (s : StaffState) (k : ℕ) (request : StaffRequest) :
    staffStep s (.submit k request) = s ∨ ∃ p, Approved s.users p ∧
      staffStep s (.submit k request) = { s with pending := s.pending ++ [p] } := by
  simp only [staffStep]
  split
  · exact .inl rfl
  split
  · exact .inl rfl
  · rename_i p hp
    exact .inr ⟨p, approved_checkRequest hp, rfl⟩

theorem staffStep_save {index : ℕ} (h : s.pending[index]? = some p) :
    staffStep s (.save index) =
      { users := p.save s.users, pending := s.pending.eraseIdx index } := by
  simp only [staffStep, h]

theorem Sound.step (h : Sound s) (op : StaffOp) : Sound (staffStep s op) := by
  cases op with
  | submit k request =>
      rcases staffStep_submit s k request with hsame | ⟨p, hp, hadded⟩
      · rw [hsame]
        exact h
      · rw [hadded]
        intro q hq
        rcases List.mem_append.mp hq with hq | hq
        · exact h q hq
        · rw [List.mem_singleton.mp hq]
          exact hp
  | save index =>
      cases hp : s.pending[index]? with
      | none =>
          simp only [staffStep, hp]
          exact h
      | some p =>
          rw [staffStep_save hp]
          intro q hq
          exact (h p (List.mem_of_getElem? hp)).save (h q (List.mem_of_mem_eraseIdx hq))

theorem lawful_of_users_eq (hsame : (staffStep s op).users = s.users) (hsaved : saved s op = none) :
    Lawful s op where
  manager h := by
    rw [hsame]
    exact h
  superuser h := by
    rw [hsame]
    exact h
  noEscalation u hu hsuper := by
    rw [hsame] at hu
    exact ⟨u, hu, rfl, hsuper⟩
  others p hp := by
    rw [hsaved] at hp
    cases hp
  own p hp := by
    rw [hsaved] at hp
    cases hp
  role p hp := by
    rw [hsaved] at hp
    cases hp

theorem lawful_of_stillChecked (h : Sound s) (hchecked : StillChecked s op) : Lawful s op := by
  cases op with
  | submit k request =>
      refine lawful_of_users_eq ?_ rfl
      rcases staffStep_submit s k request with hsame | ⟨p, -, hadded⟩
      · rw [hsame]
      · rw [hadded]
  | save index =>
      cases hp : s.pending[index]? with
      | none =>
          refine lawful_of_users_eq ?_ hp
          simp only [staffStep, hp]
      | some p =>
          have happroved := h p (List.mem_of_getElem? hp)
          have hclean := hchecked p hp
          have hone : ∀ q ∈ saved s (.save index), q = p := by
            intro q hq
            exact Option.some.inj (hq.symm.trans hp)
          refine ⟨?_, ?_, ?_, ?_, ?_, ?_⟩
          all_goals rw [staffStep_save hp]
          · exact hasManager_save hclean
          · exact hasActiveSuperuser_save happroved hclean
          · exact fun u hu hsuper => exists_before_save happroved hu hsuper
          · intro q hq hactor r hr hsuper
            rw [hone q hq] at hactor
            exact superuser_mem_save happroved hactor hr hsuper
          · intro q hq hactor r hr hpk
            rw [hone q hq] at hactor hpk
            exact own_save hclean hactor hr hpk
          · intro q hq given hgiven
            rw [hone q hq] at hgiven
            exact role_save happroved hgiven

/-- In a run whose edits are saved while their checks still hold, every operation is lawful. -/
theorem lawful_of_stillChecked_run (users : StaffUsers) (before after : List StaffOp) (op : StaffOp)
    (h : Guarded staffStep StillChecked { users := users } (before ++ op :: after)) :
    Lawful (run staffStep { users := users } before) op := by
  obtain ⟨-, hop, -⟩ := guarded_append.mp h
  have hsound : Sound (run staffStep { users := users } before) :=
    run_invariant (fun s op hs => hs.step op) before fun p hp => by cases hp
  exact lawful_of_stillChecked hsound hop

/-! ## Two owners -/

/-- Two store owners. -/
def twoOwners : StaffUsers :=
  (Serial.empty.append (newStaffUser true .storeOwner "a") (newStaffUser_pk true .storeOwner "a")).append
    (newStaffUser true .storeOwner "b") (newStaffUser_pk true .storeOwner "b")

/-- One owner is demoted, and the other stays. -/
theorem lawful_demotion :
    Lawful (run staffStep { users := twoOwners } [.submit 1 (.edit 2 true (some .finance))])
      (.save 0) := by
  refine lawful_of_stillChecked_run twoOwners [.submit 1 (.edit 2 true (some .finance))] [] (.save 0)
    ⟨?_, ?_, trivial⟩
  all_goals decide +kernel

/-- Each of two owners demotes the other, and both requests are checked before either is saved. -/
theorem locked_out_by_two_demotions :
    ¬ Lawful (run staffStep { users := twoOwners }
      [.submit 1 (.edit 2 true (some .finance)), .submit 2 (.edit 1 true (some .finance)), .save 0])
      (.save 0) := by
  intro h
  have hbefore : ∃ u ∈ (run staffStep { users := twoOwners }
      [.submit 1 (.edit 2 true (some .finance)), .submit 2 (.edit 1 true (some .finance)),
        .save 0]).users.rows, u.IsManager := by decide +kernel
  have hafter := h.manager hbefore
  revert hafter
  unfold HasManager
  decide +kernel

end Qasedak.Staff
