/-
  Users, roles and access checks of the backend (`core/permissions.py`, `auth/deps.py`,
  `api/auth.py`, `api/users.py`).

  1. **Roles** — the permissions of each role, a set for each and no order between them.

  2. **Table** — the users table carries its own constraints: ids and usernames are unique, and the
     id sequence is ahead of every id.  Inserting, updating and removing keep them by construction.

  3. **Checks and endpoints** — one handler for each endpoint; a handler is a function from the
     table to the table and the answer.  The role is read from the table at every request; a token
     only names the user.
-/
import Mathlib.Data.List.Nodup
import RiseSun.Lib.Machine

namespace RiseSun.Backend

/-! ## Roles and permissions -/

inductive UserRole
  | operator
  | engineer
  | observer
  | admin
  | superAdmin
  deriving DecidableEq, Repr

def UserRole.value : UserRole → String
  | .operator => "operator"
  | .engineer => "engineer"
  | .observer => "observer"
  | .admin => "admin"
  | .superAdmin => "super_admin"

inductive Permission
  | viewMeters
  | triggerRead
  | writeParameter
  | manageMeters
  | manageUsers
  | manageGateways
  | viewAuditLog
  | manageParameterSchemes
  | manageScheduledJobs
  | manageBillingKeys
  deriving DecidableEq, Repr

def Permission.value : Permission → String
  | .viewMeters => "view_meters"
  | .triggerRead => "trigger_read"
  | .writeParameter => "write_parameter"
  | .manageMeters => "manage_meters"
  | .manageUsers => "manage_users"
  | .manageGateways => "manage_gateways"
  | .viewAuditLog => "view_audit_log"
  | .manageParameterSchemes => "manage_parameter_schemes"
  | .manageScheduledJobs => "manage_scheduled_jobs"
  | .manageBillingKeys => "manage_billing_keys"

def rolePermissions : UserRole → List Permission
  | .observer => [.viewMeters]
  | .operator => [.viewMeters, .triggerRead]
  | .engineer => [.viewMeters, .triggerRead, .writeParameter]
  | .admin => [.viewMeters, .triggerRead, .writeParameter, .manageMeters, .manageUsers,
      .viewAuditLog, .manageParameterSchemes, .manageScheduledJobs, .manageBillingKeys]
  | .superAdmin => [.viewMeters, .triggerRead, .writeParameter, .manageMeters, .manageUsers,
      .viewAuditLog, .manageGateways, .manageBillingKeys, .manageParameterSchemes,
      .manageScheduledJobs]

def roleHasPermission (role : UserRole) (permission : Permission) : Bool :=
  (rolePermissions role).contains permission

/-- A role that manages users holds everything but, perhaps, `MANAGE_GATEWAYS`. -/
theorem roleHasPermission_of_manageUsers {role : UserRole}
    (h : roleHasPermission role .manageUsers = true) {permission : Permission}
    (hne : permission ≠ .manageGateways) : roleHasPermission role permission = true := by
  revert h hne
  cases role <;> cases permission <;> decide

/-! ## The users table -/

structure User (Hash : Type) where
  id : Int
  username : String
  passwordHash : Hash
  role : UserRole
  isActive : Bool := true
  deriving DecidableEq, Repr

/-- The table with its constraints, its id sequence, and the ids other tables refer to. -/
structure Store (Hash : Type) where
  users : List (User Hash)
  nextId : Int
  referenced : List Int := []
  ids : (users.map (·.id)).Nodup
  usernames : (users.map (·.username)).Nodup
  fresh : ∀ u ∈ users, u.id < nextId

namespace Store

variable {Hash : Type} (s : Store Hash)

def byId (id : Int) : Option (User Hash) := s.users.find? fun u => u.id = id

def byUsername (username : String) : Option (User Hash) :=
  s.users.find? fun u => u.username = username

theorem byId_some {id : Int} {u : User Hash} (h : s.byId id = some u) : u ∈ s.users ∧ u.id = id :=
  ⟨List.mem_of_find?_eq_some h,
    of_decide_eq_true (List.find?_some (p := fun u : User Hash => decide (u.id = id)) h)⟩

theorem byUsername_some {username : String} {u : User Hash} (h : s.byUsername username = some u) :
    u ∈ s.users ∧ u.username = username :=
  ⟨List.mem_of_find?_eq_some h,
    of_decide_eq_true (List.find?_some (p := fun u : User Hash => decide (u.username = username)) h)⟩

theorem byUsername_none {username : String} (h : s.byUsername username = none) :
    username ∉ s.users.map (·.username) := by
  intro hmem
  obtain ⟨u, hu, rfl⟩ := List.mem_map.mp hmem
  exact List.find?_eq_none.mp h u hu (decide_eq_true rfl)

/-- Another table now refers to the user. -/
def refer (id : Int) : Store Hash := { s with referenced := id :: s.referenced }

/-- A new row, under the next id. -/
def insert (username : String) (passwordHash : Hash) (role : UserRole)
    (h : username ∉ s.users.map (·.username)) : Store Hash where
  users := s.users ++ [⟨s.nextId, username, passwordHash, role, true⟩]
  nextId := s.nextId + 1
  referenced := s.referenced
  ids := by
    rw [List.map_append, List.map_singleton]
    refine List.Nodup.append s.ids (List.nodup_singleton _) ?_
    intro id hid hnew
    obtain ⟨u, hu, rfl⟩ := List.mem_map.mp hid
    have hlt := s.fresh u hu
    rw [List.mem_singleton.mp hnew] at hlt
    exact absurd hlt (Int.lt_irrefl _)
  usernames := by
    rw [List.map_append, List.map_singleton]
    refine List.Nodup.append s.usernames (List.nodup_singleton _) ?_
    intro name hname hnew
    rw [List.mem_singleton.mp hnew] at hname
    exact h hname
  fresh := by
    intro u hu
    rcases List.mem_append.mp hu with hu | hu
    · exact Int.lt_trans (s.fresh u hu) (Int.lt_succ _)
    · rw [List.mem_singleton.mp hu]
      exact Int.lt_succ _

/-- The columns of a row a request may set. -/
structure Columns (Hash : Type) where
  passwordHash : Option Hash := none
  role : Option UserRole := none
  isActive : Option Bool := none

def Columns.set (c : Columns Hash) (u : User Hash) : User Hash :=
  { u with
    passwordHash := c.passwordHash.getD u.passwordHash
    role := c.role.getD u.role
    isActive := c.isActive.getD u.isActive }

/-- Set columns of the row with this id. -/
def update (id : Int) (c : Columns Hash) : Store Hash where
  users := s.users.map fun u => if u.id = id then c.set u else u
  nextId := s.nextId
  referenced := s.referenced
  ids := by
    have hsame : (s.users.map fun u => if u.id = id then c.set u else u).map (·.id) =
        s.users.map (·.id) := by
      rw [List.map_map]
      refine List.map_congr_left fun u _ => ?_
      show (if u.id = id then c.set u else u).id = u.id
      split
      · rfl
      · rfl
    rw [hsame]
    exact s.ids
  usernames := by
    have hsame : (s.users.map fun u => if u.id = id then c.set u else u).map (·.username) =
        s.users.map (·.username) := by
      rw [List.map_map]
      refine List.map_congr_left fun u _ => ?_
      show (if u.id = id then c.set u else u).username = u.username
      split
      · rfl
      · rfl
    rw [hsame]
    exact s.usernames
  fresh := by
    intro u hu
    obtain ⟨v, hv, rfl⟩ := List.mem_map.mp hu
    have hid : (if v.id = id then c.set v else v).id = v.id := by
      split
      · rfl
      · rfl
    rw [hid]
    exact s.fresh v hv

def remove (id : Int) : Store Hash where
  users := s.users.filter fun u => u.id ≠ id
  nextId := s.nextId
  referenced := s.referenced
  ids := s.ids.sublist (List.filter_sublist.map _)
  usernames := s.usernames.sublist (List.filter_sublist.map _)
  fresh := fun u hu => s.fresh u (List.mem_filter.mp hu).1

/-- Two rows with one username are one row. -/
theorem eq_of_username {u v : User Hash} (hu : u ∈ s.users) (hv : v ∈ s.users)
    (h : u.username = v.username) : u = v := List.inj_on_of_nodup_map s.usernames hu hv h

end Store

/-! ## Tokens and access checks -/

inductive TokenType
  | access
  | refresh
  deriving DecidableEq, Repr

/-- The payload of a token the server has signed and that has not expired; its role claim is not
    read by any check. -/
structure Token where
  sub : String
  type : TokenType
  deriving DecidableEq, Repr

def createAccessToken (subject : String) : Token := ⟨subject, .access⟩

def createRefreshToken (subject : String) : Token := ⟨subject, .refresh⟩

inductive HttpError
  | http (status : Nat) (detail : String)
  /-- The body does not fit its schema. -/
  | invalidBody
  /-- An exception nobody caught. -/
  | internal
  deriving DecidableEq, Repr

section Handlers

variable {Hash : Type}

/-- `load_user_from_token`: no user stands for `InvalidCredentials`.  Without a token, `decode_token`
    has failed. -/
def loadUserFromToken (s : Store Hash) : Option Token → Option (User Hash)
  | none => none
  | some token =>
    if token.type ≠ .access then none
    else if token.sub = "" then none
    else match s.byUsername token.sub with
      | none => none
      | some user => if user.isActive then some user else none

def getCurrentUser (s : Store Hash) (token : Option Token) : Except HttpError (User Hash) :=
  match loadUserFromToken s token with
  | none => .error (.http 401 "Недействительный или истёкший токен")
  | some user => .ok user

def requirePermission (s : Store Hash) (token : Option Token) (permission : Permission) :
    Except HttpError (User Hash) := do
  let user ← getCurrentUser s token
  if roleHasPermission user.role permission then .ok user
  else .error (.http 403 ("Роль " ++ user.role.value ++ " не имеет права " ++ permission.value))

/-! ## Endpoints -/

/-- Hashing and checking passwords; `salt` is what the library draws. -/
structure PasswordContext (Hash : Type) where
  hash : (salt : Nat) → (password : String) → Hash
  verify : (password : String) → Hash → Bool

structure UserCreate where
  username : String
  password : String
  role : UserRole
  deriving DecidableEq, Repr

/-- A field may be missing, null or set. -/
structure UserUpdate where
  role : Option (Option UserRole) := none
  isActive : Option (Option Bool) := none
  deriving DecidableEq, Repr

inductive Response (Hash : Type)
  | tokens (access refresh : Token)
  | user (user : User Hash)
  | users (users : List (User Hash))
  | noContent
  | other
  deriving DecidableEq, Repr

/-- What a handler leaves in the table and what it answers. -/
abbrev Handled (Hash : Type) := Store Hash × Except HttpError (Response Hash)

variable (ctx : PasswordContext Hash) (s : Store Hash)

def login (username password : String) : Handled Hash :=
  match s.byUsername username with
  | none => (s, .error (.http 401 "Неверный логин или пароль"))
  | some user =>
    if user.isActive && ctx.verify password user.passwordHash then
      (s.refer user.id,
        .ok (.tokens (createAccessToken user.username) (createRefreshToken user.username)))
    else (s, .error (.http 401 "Неверный логин или пароль"))

def refresh : Option Token → Handled Hash
  | none => (s, .error (.http 401 "Недействительный refresh-токен"))
  | some token =>
    if token.type ≠ .refresh then (s, .error (.http 401 "Ожидался refresh-токен"))
    else match s.byUsername token.sub with
      | none => (s, .error (.http 401 "Пользователь недоступен"))
      | some user =>
        if user.isActive then
          (s, .ok (.tokens (createAccessToken user.username) (createRefreshToken user.username)))
        else (s, .error (.http 401 "Пользователь недоступен"))

def listUsers (token : Option Token) : Handled Hash :=
  match requirePermission s token .manageUsers with
  | .error e => (s, .error e)
  | .ok _ => (s, .ok (.users (s.users.mergeSort fun u v => u.username ≤ v.username)))

def createUser (token : Option Token) (body : UserCreate) (salt : Nat) : Handled Hash :=
  match requirePermission s token .manageUsers with
  | .error e => (s, .error e)
  | .ok user =>
    if ¬ (3 ≤ body.username.length ∧ body.username.length ≤ 64 ∧ 8 ≤ body.password.length) then
      (s, .error .invalidBody)
    else match h : s.byUsername body.username with
      | some _ => (s, .error (.http 409 "Логин уже занят"))
      | none =>
        ((s.insert body.username (ctx.hash salt body.password) body.role
            (s.byUsername_none h)).refer user.id,
          .ok (.user ⟨s.nextId, body.username, ctx.hash salt body.password, body.role, true⟩))

def updateUser (token : Option Token) (id : Int) (body : UserUpdate) : Handled Hash :=
  match requirePermission s token .manageUsers with
  | .error e => (s, .error e)
  | .ok user =>
    match s.byId id with
    | none => (s, .error (.http 404 "Пользователь не найден"))
    | some target =>
      -- a null breaks the NOT NULL of the column
      if body.role = some none ∨ body.isActive = some none then (s, .error .internal)
      else
        let columns : Store.Columns Hash := { role := body.role.join, isActive := body.isActive.join }
        ((s.update id columns).refer user.id, .ok (.user (columns.set target)))

def resetUserPassword (token : Option Token) (id : Int) (newPassword : String) (salt : Nat) :
    Handled Hash :=
  match requirePermission s token .manageUsers with
  | .error e => (s, .error e)
  | .ok user =>
    if newPassword.length < 8 then (s, .error .invalidBody)
    else match s.byId id with
      | none => (s, .error (.http 404 "Пользователь не найден"))
      | some _ =>
        ((s.update id { passwordHash := some (ctx.hash salt newPassword) }).refer user.id,
          .ok .noContent)

def deleteUser (token : Option Token) (id : Int) : Handled Hash :=
  match requirePermission s token .manageUsers with
  | .error e => (s, .error e)
  | .ok user =>
    if id = user.id then (s, .error (.http 400 "Нельзя удалить собственную учётную запись"))
    else match s.byId id with
      | none => (s, .error (.http 404 "Пользователь не найден"))
      | some _ =>
        if id ∈ s.referenced then
          (s, .error (.http 409 ("Нельзя удалить пользователя — за ним есть история в журнале " ++
            "аудита. Заблокируйте учётную запись (is_active=false) вместо удаления.")))
        else ((s.remove id).refer user.id, .ok .noContent)

/-- Any other endpoint behind `require_permission`: it leaves the users alone, and may write a row
    that refers to its user. -/
def otherEndpoint (token : Option Token) (permission : Permission) (refers : Bool) : Handled Hash :=
  match requirePermission s token permission with
  | .error e => (s, .error e)
  | .ok user => (if refers then s.refer user.id else s, .ok .other)

end Handlers

inductive Request
  | login (username password : String)
  | refresh (token : Option Token)
  | listUsers (token : Option Token)
  | createUser (token : Option Token) (body : UserCreate) (salt : Nat)
  | updateUser (token : Option Token) (id : Int) (body : UserUpdate)
  | resetUserPassword (token : Option Token) (id : Int) (newPassword : String) (salt : Nat)
  | deleteUser (token : Option Token) (id : Int)
  | other (token : Option Token) (permission : Permission) (refers : Bool)
  deriving DecidableEq, Repr

def handle {Hash : Type} (ctx : PasswordContext Hash) (s : Store Hash) : Request → Handled Hash
  | .login username password => login ctx s username password
  | .refresh token => refresh s token
  | .listUsers token => listUsers s token
  | .createUser token body salt => createUser ctx s token body salt
  | .updateUser token id body => updateUser s token id body
  | .resetUserPassword token id newPassword salt => resetUserPassword ctx s token id newPassword salt
  | .deleteUser token id => deleteUser s token id
  | .other token permission refers => otherEndpoint s token permission refers

/-- The token a request presents. -/
def Request.token : Request → Option Token
  | .login _ _ => none
  | .refresh token | .listUsers token | .createUser token _ _ | .updateUser token _ _
  | .resetUserPassword token _ _ _ | .deleteUser token _ | .other token _ _ => token

end RiseSun.Backend
