/-
  Who can come to use which permission.

  1. **Members** — a group of people and the accounts that are theirs: those they start with, and those
     they create, change or set the password of.  A request is their own if it presents a token they
     hold; a login is theirs if it is to an account of theirs, or fails.  `Session.step` adds what a
     request brings them: tokens and accounts; and it records who assigned which role.

  2. **What a request does** (`Session.step_cases`) — five ways to change the table or what the members
     have, said once; every invariant below is read off it.

  3. **Handing over** (`Session.HandsOver`) — somebody without a permission creates or changes an account
     that has it afterwards.  Whoever may write accounts has every permission but, perhaps,
     `MANAGE_GATEWAYS`, so that is the only one that can be handed over (`HandsOver.eq`).

  4. **`no_escalation`** — while nobody hands `MANAGE_GATEWAYS` over, the members come to no permission
     they lack (`Session.Lacks.step`), and whoever has a permission had it at the start or got the role
     from somebody who had it (`Session.Provenance.step`).
-/
import RiseSun.Backend.Users

namespace RiseSun.Backend

open Machine

variable {Hash : Type}

/-! ## Members -/

/-- Somebody gave a user a role. -/
structure Grant (Hash : Type) where
  grantor : User Hash
  user : Int
  role : UserRole
  deriving DecidableEq, Repr

/-- The table, what the members can use, and the roles assigned so far. -/
structure Session (Hash : Type) where
  store : Store Hash
  accounts : List String
  tokens : List Token
  grants : List (Grant Hash) := []

/-- The accounts a request has created, changed, or set the password of. -/
def newAccounts (s : Store Hash) : Request → Except HttpError (Response Hash) → List String
  | .createUser _ body _, .ok _ => [body.username]
  | .updateUser _ id _, .ok _ | .resetUserPassword _ id _ _, .ok _ =>
    ((s.byId id).map (·.username)).toList
  | _, _ => []

def newTokens : Except HttpError (Response Hash) → List Token
  | .ok (.tokens access refresh) => [access, refresh]
  | _ => []

/-- The user and the role a request has assigned. -/
def assigned : Request → Except HttpError (Response Hash) → Option (Int × UserRole)
  | .createUser _ _ _, .ok (.user user) => some (user.id, user.role)
  | .updateUser _ id body, .ok _ => body.role.join.map fun role => (id, role)
  | _, _ => none

def newGrants (s : Store Hash) (r : Request) (answer : Except HttpError (Response Hash)) :
    List (Grant Hash) :=
  match assigned r answer, loadUserFromToken s r.token with
  | some (user, role), some grantor => [⟨grantor, user, role⟩]
  | _, _ => []

/-- The role that the account written by a request is to have afterwards, where the body and the table
    let the request through. -/
def writtenRole (s : Store Hash) : Request → Option UserRole
  | .createUser _ body _ =>
    if 3 ≤ body.username.length ∧ body.username.length ≤ 64 ∧ 8 ≤ body.password.length ∧
      s.byUsername body.username = none then some body.role else none
  | .updateUser _ id body =>
    if body.role = some none ∨ body.isActive = some none then none
    else (s.byId id).map fun target => body.role.join.getD target.role
  | .resetUserPassword _ id newPassword _ =>
    if newPassword.length < 8 then none else (s.byId id).map (·.role)
  | _ => none

namespace Session

def start (store : Store Hash) (accounts : List String) (tokens : List Token) : Session Hash :=
  ⟨store, accounts, tokens, []⟩

variable (ctx : PasswordContext Hash)

/-- One request and what it brings. -/
def step (s : Session Hash) (r : Request) : Option (Session Hash) :=
  some {
    store := (handle ctx s.store r).1
    accounts := newAccounts s.store r (handle ctx s.store r).2 ++ s.accounts
    tokens := newTokens (handle ctx s.store r).2 ++ s.tokens
    grants := newGrants s.store r (handle ctx s.store r).2 ++ s.grants }

/-- The members make the request. -/
def Own (s : Session Hash) (r : Request) : Prop :=
  (∀ token ∈ r.token, token ∈ s.tokens) ∧
    match r with
    | .login username password =>
      username ∈ s.accounts ∨ (login ctx s.store username password).2.isOk = false
    | _ => True

/-- A login to an account of the members is theirs, with whatever password. -/
theorem Own.login {s : Session Hash} {username : String} (password : String)
    (h : username ∈ s.accounts) : s.Own ctx (.login username password) :=
  ⟨fun _ htoken => (nomatch htoken), .inl h⟩

/-- Somebody who may write accounts, but has not the permission, writes one that is to have it. -/
def HandsOver (permission : Permission) (s : Session Hash) (r : Request) : Prop :=
  (∃ actor, loadUserFromToken s.store r.token = some actor ∧
    roleHasPermission actor.role .manageUsers = true ∧
    roleHasPermission actor.role permission = false) ∧
  ∃ role ∈ writtenRole s.store r, roleHasPermission role permission = true

/-- What can be handed over by somebody who lacks it is `MANAGE_GATEWAYS` alone: every other
    permission comes with `MANAGE_USERS`. -/
theorem HandsOver.eq {permission : Permission} {s : Session Hash} {r : Request}
    (h : s.HandsOver permission r) : permission = .manageGateways := by
  obtain ⟨⟨actor, -, husers, hlacks⟩, -⟩ := h
  refine Classical.byContradiction fun hne => ?_
  rw [roleHasPermission_of_manageUsers husers hne] at hlacks
  cases hlacks

/-- The members can act as this user. -/
def Uses (s : Session Hash) (username : String) : Prop :=
  username ∈ s.accounts ∨ ∃ token ∈ s.tokens, token.sub = username

/-- No account the members can use has the permission. -/
def Lacks (permission : Permission) (s : Session Hash) : Prop :=
  ∀ u ∈ s.store.users, s.Uses u.username → roleHasPermission u.role permission = false

/-! ## What a request does -/

variable {ctx}

/-- The user of a token is a row of the table with the name in the token. -/
theorem loadUserFromToken_some {s : Store Hash} {token : Option Token} {user : User Hash}
    (h : loadUserFromToken s token = some user) :
    ∃ t, token = some t ∧ user ∈ s.users ∧ user.username = t.sub := by
  rcases token with _ | t
  · cases h
  · refine ⟨t, rfl, ?_⟩
    rw [loadUserFromToken] at h
    -- A token of the other kind or without a name is refused before the user is looked up.
    rcases ite_eq_iff.mp h with ⟨_, h⟩ | ⟨_, h⟩
    · cases h
    rcases ite_eq_iff.mp h with ⟨_, h⟩ | ⟨_, h⟩
    · cases h
    rcases hfind : s.byUsername t.sub with _ | found
    · rw [hfind] at h
      cases h
    · rw [hfind] at h
      rcases ite_eq_iff.mp h with ⟨_, h⟩ | ⟨_, h⟩
      · obtain rfl := Option.some.inj h
        exact s.byUsername_some hfind
      · cases h

/-- Whoever passes the check is the user of the token and has the permission. -/
theorem requirePermission_ok {s : Store Hash} {token : Option Token} {permission : Permission}
    {user : User Hash} (h : requirePermission s token permission = .ok user) :
    loadUserFromToken s token = some user ∧ roleHasPermission user.role permission = true := by
  rw [requirePermission, getCurrentUser] at h
  rcases hload : loadUserFromToken s token with _ | found
  · rw [hload] at h
    cases h
  · rw [hload] at h
    rcases ite_eq_iff.mp h with ⟨hrole, h⟩ | ⟨_, h⟩
    · obtain rfl := Except.ok.inj h
      exact ⟨rfl, hrole⟩
    · cases h

/-- What a request may do to the table and to what the members have. -/
inductive Effect (ctx : PasswordContext Hash) (s : Session Hash) (r : Request) :
    Session Hash → Prop
  | quiet {s' : Session Hash} (users : s'.store.users = s.store.users)
      (accounts : s'.accounts = s.accounts) (tokens : s'.tokens = s.tokens)
      (grants : s'.grants = s.grants) : Effect ctx s r s'
  | tokens {s' : Session Hash} (ok : (handle ctx s.store r).2.isOk = true) (username : String)
      (users : s'.store.users = s.store.users)
      (accounts : s'.accounts = s.accounts) (grants : s'.grants = s.grants)
      (tokens : s'.tokens = [createAccessToken username, createRefreshToken username] ++ s.tokens)
      (source : (∃ password, r = .login username password) ∨
        ∃ token, r.token = some token ∧ token.sub = username) : Effect ctx s r s'
  | created {s' : Session Hash} (actor user : User Hash)
      (check : requirePermission s.store r.token .manageUsers = .ok actor)
      (written : writtenRole s.store r = some user.role)
      (users : s'.store.users = s.store.users ++ [user])
      (accounts : s'.accounts = user.username :: s.accounts) (tokens : s'.tokens = s.tokens)
      (grants : s'.grants = ⟨actor, user.id, user.role⟩ :: s.grants) : Effect ctx s r s'
  /-- Columns of a row were set. -/
  | changed {s' : Session Hash} (actor user : User Hash) (columns : Store.Columns Hash)
      (check : requirePermission s.store r.token .manageUsers = .ok actor)
      (user_mem : user ∈ s.store.users)
      (written : writtenRole s.store r = some (columns.role.getD user.role))
      (users : s'.store.users = (s.store.update user.id columns).users)
      (accounts : s'.accounts = user.username :: s.accounts) (tokens : s'.tokens = s.tokens)
      (grants : s'.grants =
        (columns.role.map fun role => ⟨actor, user.id, role⟩).toList ++ s.grants) :
      Effect ctx s r s'
  | removed {s' : Session Hash} (actor : User Hash) (id : Int)
      (check : requirePermission s.store r.token .manageUsers = .ok actor)
      (users : s'.store.users = (s.store.remove id).users)
      (accounts : s'.accounts = s.accounts) (tokens : s'.tokens = s.tokens)
      (grants : s'.grants = s.grants) : Effect ctx s r s'

/-- A request that fails and leaves the table as it was has no effect on the session. -/
theorem Effect.of_error {s : Session Hash} {r : Request} {e : HttpError}
    (h : handle ctx s.store r = (s.store, .error e)) {s' : Session Hash}
    (hstep : s.step ctx r = some s') : Effect ctx s r s' := by
  have hanswer : newAccounts s.store r (.error e) = [] ∧ assigned r (Except.error e :
      Except HttpError (Response Hash)) = none := by
    cases r <;> exact ⟨rfl, rfl⟩
  rw [step, h] at hstep
  obtain rfl := Option.some.inj hstep
  refine .quiet rfl ?_ rfl ?_
  · show newAccounts s.store r (.error e) ++ s.accounts = _
    rw [hanswer.1]
    rfl
  · show newGrants s.store r (.error e) ++ s.grants = _
    rw [newGrants, hanswer.2]
    rfl

/-- What a login can do to the session. -/
theorem Effect.of_login {s s' : Session Hash} {username password : String}
    (h : s.step ctx (.login username password) = some s') :
    Effect ctx s (.login username password) s' := by
  rcases hfind : s.store.byUsername username with _ | user
  · exact .of_error (by rw [handle, login, hfind]) h
  by_cases hok : (user.isActive && ctx.verify password user.passwordHash) = true
  · have hhandle : handle ctx s.store (.login username password) = (s.store.refer user.id,
        .ok (.tokens (createAccessToken user.username) (createRefreshToken user.username))) := by
      rw [handle, login, hfind]
      exact if_pos hok
    rw [step, hhandle, (s.store.byUsername_some hfind).2] at h
    obtain rfl := Option.some.inj h
    exact .tokens (by rw [hhandle]; rfl) username rfl rfl rfl rfl (.inl ⟨password, rfl⟩)
  · refine .of_error (e := .http 401 "Неверный логин или пароль") ?_ h
    rw [handle, login, hfind]
    exact if_neg hok

/-- What a refresh of a token can do to the session. -/
theorem Effect.of_refresh {s s' : Session Hash} {token : Option Token}
    (h : s.step ctx (.refresh token) = some s') : Effect ctx s (.refresh token) s' := by
  rcases token with _ | token
  · exact .of_error rfl h
  by_cases htype : token.type ≠ .refresh
  · exact .of_error (by rw [handle, refresh, if_pos htype]) h
  rcases hfind : s.store.byUsername token.sub with _ | user
  · exact .of_error (by rw [handle, refresh, if_neg htype, hfind]) h
  by_cases hactive : user.isActive = true
  · have hhandle : handle ctx s.store (.refresh (some token)) = (s.store,
        .ok (.tokens (createAccessToken user.username) (createRefreshToken user.username))) := by
      rw [handle, refresh, if_neg htype, hfind]
      exact if_pos hactive
    rw [step, hhandle, (s.store.byUsername_some hfind).2] at h
    obtain rfl := Option.some.inj h
    exact .tokens (by rw [hhandle]; rfl) token.sub rfl rfl rfl rfl (.inr ⟨token, rfl, rfl⟩)
  · refine .of_error (e := .http 401 "Пользователь недоступен") ?_ h
    rw [handle, refresh, if_neg htype, hfind]
    exact if_neg hactive

/-- What the creation of a user can do to the session. -/
theorem Effect.of_createUser {s s' : Session Hash} {token : Option Token} {body : UserCreate}
    {salt : Nat} (h : s.step ctx (.createUser token body salt) = some s') :
    Effect ctx s (.createUser token body salt) s' := by
  rcases hcheck : requirePermission s.store token .manageUsers with e | actor
  · exact .of_error (by rw [handle, createUser, hcheck]) h
  by_cases hbody : ¬ (3 ≤ body.username.length ∧ body.username.length ≤ 64 ∧
      8 ≤ body.password.length)
  · exact .of_error (by rw [handle, createUser, hcheck]; exact if_pos hbody) h
  obtain ⟨hload, _⟩ := requirePermission_ok hcheck
  -- A name that is taken is refused; a free one is what the insertion asks for.
  have hhandle : (∃ e, handle ctx s.store (.createUser token body salt) = (s.store, .error e)) ∨
      ∃ hname, handle ctx s.store (.createUser token body salt) =
        ((s.store.insert body.username (ctx.hash salt body.password) body.role
            (s.store.byUsername_none hname)).refer actor.id,
          .ok (.user ⟨s.store.nextId, body.username, ctx.hash salt body.password, body.role,
            true⟩)) := by
    rw [handle, createUser, hcheck]
    simp only [if_neg hbody]
    split
    · exact .inl ⟨_, rfl⟩
    · rename_i hnone
      exact .inr ⟨hnone, rfl⟩
  rcases hhandle with ⟨e, hhandle⟩ | ⟨hname, hhandle⟩
  · exact .of_error hhandle h
  · rw [step, hhandle] at h
    obtain rfl := Option.some.inj h
    have hwritten : writtenRole s.store (.createUser token body salt) = some body.role :=
      if_pos ⟨(not_not.mp hbody).1, (not_not.mp hbody).2.1, (not_not.mp hbody).2.2, hname⟩
    refine .created actor ⟨s.store.nextId, body.username, ctx.hash salt body.password, body.role, true⟩
      hcheck hwritten rfl rfl rfl ?_
    simp only [newGrants, assigned, Request.token, hload]
    rfl

/-- What the update of a user can do to the session. -/
theorem Effect.of_updateUser {s s' : Session Hash} {token : Option Token} {id : Int}
    {body : UserUpdate} (h : s.step ctx (.updateUser token id body) = some s') :
    Effect ctx s (.updateUser token id body) s' := by
  rcases hcheck : requirePermission s.store token .manageUsers with e | actor
  · exact .of_error (by rw [handle, updateUser, hcheck]) h
  rcases hfind : s.store.byId id with _ | target
  · exact .of_error (by rw [handle, updateUser, hcheck]; simp only [hfind]; rfl) h
  by_cases hnull : body.role = some none ∨ body.isActive = some none
  · exact .of_error (by rw [handle, updateUser, hcheck]; simp only [hfind, if_pos hnull]; rfl) h
  obtain ⟨hload, _⟩ := requirePermission_ok hcheck
  have hhandle : handle ctx s.store (.updateUser token id body) =
      ((s.store.update id { role := body.role.join, isActive := body.isActive.join }).refer actor.id,
        .ok (.user (Store.Columns.set { role := body.role.join, isActive := body.isActive.join }
          target))) := by
    rw [handle, updateUser, hcheck]
    simp only [hfind, if_neg hnull]
  obtain ⟨hmem, rfl⟩ := s.store.byId_some hfind
  rw [step, hhandle] at h
  obtain rfl := Option.some.inj h
  have hwritten : writtenRole s.store (.updateUser token target.id body) =
      some (body.role.join.getD target.role) := by
    rw [writtenRole, if_neg hnull, hfind]
    rfl
  refine .changed actor target { role := body.role.join, isActive := body.isActive.join } hcheck hmem
    hwritten rfl ?_ rfl ?_
  · simp only [newAccounts, hfind]
    rfl
  · simp only [newGrants, assigned, Request.token, hload]
    rcases body.role.join with _ | role
    · rfl
    · rfl

/-- What the reset of a password can do to the session. -/
theorem Effect.of_resetUserPassword {s s' : Session Hash} {token : Option Token} {id : Int}
    {password : String} {salt : Nat}
    (h : s.step ctx (.resetUserPassword token id password salt) = some s') :
    Effect ctx s (.resetUserPassword token id password salt) s' := by
  rcases hcheck : requirePermission s.store token .manageUsers with e | actor
  · exact .of_error (by rw [handle, resetUserPassword, hcheck]) h
  by_cases hshort : password.length < 8
  · exact .of_error (by rw [handle, resetUserPassword, hcheck]; exact if_pos hshort) h
  rcases hfind : s.store.byId id with _ | target
  · exact .of_error (by
      rw [handle, resetUserPassword, hcheck]
      simp only [if_neg hshort, hfind]
      rfl) h
  have hhandle : handle ctx s.store (.resetUserPassword token id password salt) =
      ((s.store.update id { passwordHash := some (ctx.hash salt password) }).refer actor.id,
        .ok .noContent) := by
    rw [handle, resetUserPassword, hcheck]
    simp only [if_neg hshort, hfind]
  obtain ⟨hmem, rfl⟩ := s.store.byId_some hfind
  rw [step, hhandle] at h
  obtain rfl := Option.some.inj h
  have hwritten : writtenRole s.store (.resetUserPassword token target.id password salt) =
      some target.role := by
    rw [writtenRole, if_neg hshort, hfind]
    rfl
  refine .changed actor target { passwordHash := some (ctx.hash salt password) } hcheck hmem hwritten
    rfl ?_ rfl rfl
  simp only [newAccounts, hfind]
  rfl

/-- What the deletion of a user can do to the session. -/
theorem Effect.of_deleteUser {s s' : Session Hash} {token : Option Token} {id : Int}
    (h : s.step ctx (.deleteUser token id) = some s') : Effect ctx s (.deleteUser token id) s' := by
  rcases hcheck : requirePermission s.store token .manageUsers with e | actor
  · exact .of_error (by rw [handle, deleteUser, hcheck]) h
  by_cases hself : id = actor.id
  · exact .of_error (by rw [handle, deleteUser, hcheck]; exact if_pos hself) h
  rcases hfind : s.store.byId id with _ | target
  · exact .of_error (by rw [handle, deleteUser, hcheck]; simp only [if_neg hself, hfind]; rfl) h
  by_cases hrefer : id ∈ s.store.referenced
  · refine .of_error (e := .http 409 ("Нельзя удалить пользователя — за ним есть история в журнале "
      ++ "аудита. Заблокируйте учётную запись (is_active=false) вместо удаления.")) ?_ h
    rw [handle, deleteUser, hcheck]
    simp only [if_neg hself, hfind, if_pos hrefer]
  · have hhandle : handle ctx s.store (.deleteUser token id) =
        ((s.store.remove id).refer actor.id, .ok .noContent) := by
      rw [handle, deleteUser, hcheck]
      simp only [if_neg hself, hfind, if_neg hrefer]
    rw [step, hhandle] at h
    obtain rfl := Option.some.inj h
    exact .removed actor id hcheck rfl rfl rfl rfl

/-- Every request of a session has one of the effects listed in `Effect`. -/
theorem step_cases {s s' : Session Hash} {r : Request} (h : s.step ctx r = some s') :
    Effect ctx s r s' := by
  match r, h with
  | .login _ _, h => exact .of_login h
  | .refresh _, h => exact .of_refresh h
  | .createUser _ _ _, h => exact .of_createUser h
  | .updateUser _ _ _, h => exact .of_updateUser h
  | .resetUserPassword _ _ _ _, h => exact .of_resetUserPassword h
  | .deleteUser _ _, h => exact .of_deleteUser h
  | .listUsers token, h =>
    rcases hcheck : requirePermission s.store token .manageUsers with e | actor
    · exact .of_error (by rw [handle, listUsers, hcheck]) h
    · rw [step, handle, listUsers, hcheck] at h
      obtain rfl := Option.some.inj h
      exact .quiet rfl rfl rfl rfl
  | .other token permission refers, h =>
    rcases hcheck : requirePermission s.store token permission with e | actor
    · exact .of_error (by rw [handle, otherEndpoint, hcheck]) h
    · rw [step, handle, otherEndpoint, hcheck] at h
      obtain rfl := Option.some.inj h
      refine .quiet ?_ rfl rfl rfl
      show (if refers then s.store.refer actor.id else s.store).users = _
      split
      · rfl
      · rfl

/-! ## Escalation -/

/-- Who passes a check has the role for it, under a token of theirs. -/
theorem Lacks.requirePermission {permission : Permission} {s : Session Hash}
    (hlacks : s.Lacks permission) {token : Option Token} (hheld : ∀ t ∈ token, t ∈ s.tokens) :
    ∃ e, Backend.requirePermission s.store token permission = .error e := by
  rcases hcheck : Backend.requirePermission s.store token permission with e | user
  · exact ⟨e, rfl⟩
  · obtain ⟨hload, hrole⟩ := requirePermission_ok hcheck
    obtain ⟨t, rfl, hmem, hname⟩ := loadUserFromToken_some hload
    have hfalse := hlacks user hmem (.inr ⟨t, hheld t rfl, hname.symm⟩)
    rw [hrole] at hfalse
    cases hfalse

/-- What members who lack a permission write has not got it, unless they hand it over. -/
theorem Lacks.written {permission : Permission} {s : Session Hash} {r : Request}
    (hlacks : s.Lacks permission) (hown : s.Own ctx r) (hkeep : ¬ s.HandsOver .manageGateways r)
    {actor : User Hash} (hcheck : Backend.requirePermission s.store r.token .manageUsers = .ok actor)
    {role : UserRole} (hwritten : writtenRole s.store r = some role) :
    roleHasPermission role permission = false := by
  obtain ⟨hload, husers⟩ := requirePermission_ok hcheck
  obtain ⟨t, htoken, hmem, hname⟩ := loadUserFromToken_some hload
  have hactor := hlacks actor hmem (.inr ⟨t, hown.1 t htoken, hname.symm⟩)
  refine Bool.eq_false_iff.mpr fun hhas => ?_
  have hhands : s.HandsOver permission r := ⟨⟨actor, hload, husers, hactor⟩, role, hwritten, hhas⟩
  exact hkeep (hhands.eq ▸ hhands)

/-- An update changes the columns of one row, and no number or name. -/
theorem mem_update {s : Store Hash} {id : Int} {columns : Store.Columns Hash} {u : User Hash}
    (h : u ∈ (s.update id columns).users) :
    ∃ v ∈ s.users, u.id = v.id ∧ u.username = v.username ∧
      (v.id ≠ id ∧ u.role = v.role ∨ v.id = id ∧ u.role = columns.role.getD v.role) := by
  obtain ⟨v, hv, rfl⟩ := List.mem_map.mp h
  refine ⟨v, hv, ?_⟩
  by_cases hid : v.id = id
  · rw [if_pos hid]
    exact ⟨rfl, rfl, .inr ⟨hid, rfl⟩⟩
  · rw [if_neg hid]
    exact ⟨rfl, rfl, .inl ⟨hid, rfl⟩⟩

/-- The members gain no permission by a request of their own, unless it hands `MANAGE_GATEWAYS` over. -/
theorem Lacks.step {permission : Permission} {s s' : Session Hash} {r : Request}
    (hlacks : s.Lacks permission) (hown : s.Own ctx r) (hkeep : ¬ s.HandsOver .manageGateways r)
    (hstep : s.step ctx r = some s') : s'.Lacks permission := by
  intro u hu huses
  rcases step_cases hstep with ⟨husers, haccounts, htokens, _⟩ |
    ⟨hok, username, husers, haccounts, _, htokens, hsource⟩ |
    ⟨actor, user, hcheck, hwritten, husers, haccounts, htokens, _⟩ |
    ⟨actor, user, columns, hcheck, hmem, hwritten, husers, haccounts, htokens, _⟩ |
    ⟨actor, id, _, husers, haccounts, htokens, _⟩
  · rw [Uses, haccounts, htokens] at huses
    exact hlacks u (husers ▸ hu) huses
  · -- the new tokens are for an account they could use before
    rw [Uses, haccounts, htokens] at huses
    have hused : s.Uses username := by
      rcases hsource with ⟨password, rfl⟩ | ⟨token, htoken, hsub⟩
      · rcases hown.2 with hmem | hfails
        · exact .inl hmem
        · rw [show handle ctx s.store (.login username password) =
            login ctx s.store username password from rfl, hfails] at hok
          cases hok
      · exact .inr ⟨token, hown.1 token htoken, hsub⟩
    refine hlacks u (husers ▸ hu) ?_
    rcases huses with hmem | ⟨token, htoken, hsub⟩
    · exact .inl hmem
    · rcases List.mem_append.mp htoken with hnew | hold
      · have hname : token.sub = username := by
          rcases List.mem_pair.mp hnew with rfl | rfl
          · rfl
          · rfl
        rwa [← hsub, hname]
      · exact .inr ⟨token, hold, hsub⟩
  · -- the new account has the role the request gave it
    have hnew : user ∈ s'.store.users := by
      rw [husers]
      exact List.mem_append_right _ (List.mem_singleton.mpr rfl)
    by_cases hname : u.username = user.username
    · rw [s'.store.eq_of_username hu hnew hname]
      exact hlacks.written hown hkeep hcheck hwritten
    · rw [Uses, haccounts, htokens] at huses
      rw [husers] at hu
      have hold : u ∈ s.store.users := by
        rcases List.mem_append.mp hu with hold | hlast
        · exact hold
        · exact absurd (congrArg User.username (List.mem_singleton.mp hlast)) hname
      refine hlacks u hold ?_
      rcases huses with hmem | htoken
      · exact .inl ((List.mem_cons.mp hmem).resolve_left hname)
      · exact .inr htoken
  · -- the account that was changed has the role that was written; the others are as they were
    rw [Uses, haccounts, htokens] at huses
    rw [husers] at hu
    obtain ⟨v, hv, -, hname, ⟨hother, hsame⟩ | ⟨hid, hset⟩⟩ := mem_update hu
    · rw [hsame]
      refine hlacks v hv ?_
      rcases huses with hused | htoken
      · rcases List.mem_cons.mp hused with huser | hused
        · exact absurd (congrArg User.id (s.store.eq_of_username hv hmem (hname ▸ huser))) hother
        · exact .inl (hname ▸ hused)
      · exact .inr (hname ▸ htoken)
    · rw [hset, List.inj_on_of_nodup_map s.store.ids hv hmem hid]
      exact hlacks.written hown hkeep hcheck hwritten
  · rw [Uses, haccounts, htokens] at huses
    rw [husers] at hu
    exact hlacks u (List.mem_filter.mp hu).1 huses

/-! ## Provenance -/

/-- Each role in the table is the initial one or was assigned, by somebody who had all its
    permissions. -/
structure Provenance (start : Store Hash) (s : Session Hash) : Prop where
  grantors : ∀ g ∈ s.grants, ∀ permission, roleHasPermission g.role permission = true →
    roleHasPermission g.grantor.role permission = true
  roles : ∀ u ∈ s.store.users, (∃ v ∈ start.users, v.id = u.id ∧ v.role = u.role) ∨
    ∃ g ∈ s.grants, g.user = u.id ∧ g.role = u.role

/-- Who writes a role without handing `MANAGE_GATEWAYS` over has all its permissions. -/
theorem writer_has {s : Session Hash} {r : Request} (hkeep : ¬ s.HandsOver .manageGateways r)
    {actor : User Hash} (hcheck : Backend.requirePermission s.store r.token .manageUsers = .ok actor)
    {role : UserRole} (hwritten : writtenRole s.store r = some role) {permission : Permission}
    (hhas : roleHasPermission role permission = true) :
    roleHasPermission actor.role permission = true := by
  obtain ⟨hload, husers⟩ := requirePermission_ok hcheck
  by_contra hlacks
  have hhands : s.HandsOver permission r :=
    ⟨⟨actor, hload, husers, Bool.eq_false_iff.mpr hlacks⟩, role, hwritten, hhas⟩
  exact hkeep (hhands.eq ▸ hhands)

/-- A request that hands `MANAGE_GATEWAYS` to nobody keeps the origin of every role. -/
theorem Provenance.step {start : Store Hash} {s s' : Session Hash} {r : Request}
    (hfrom : s.Provenance start) (hkeep : ¬ s.HandsOver .manageGateways r)
    (hstep : s.step ctx r = some s') : s'.Provenance start := by
  -- rows of the old table keep their origin
  have hkept : ∀ u ∈ s.store.users, ∀ grants, (∃ v ∈ start.users, v.id = u.id ∧ v.role = u.role) ∨
      ∃ g ∈ grants ++ s.grants, g.user = u.id ∧ g.role = u.role := by
    intro u hu grants
    rcases hfrom.roles u hu with hstart | ⟨g, hg, hrole⟩
    · exact .inl hstart
    · exact .inr ⟨g, List.mem_append_right _ hg, hrole⟩
  rcases step_cases hstep with ⟨husers, _, _, hgrants⟩ | ⟨_, _, husers, _, hgrants, _, _⟩ |
    ⟨actor, user, hcheck, hwritten, husers, _, _, hgrants⟩ |
    ⟨actor, user, columns, hcheck, hmem, hwritten, husers, _, _, hgrants⟩ |
    ⟨actor, id, _, husers, _, _, hgrants⟩
  · exact ⟨hgrants ▸ hfrom.grantors, husers ▸ hgrants ▸ hfrom.roles⟩
  · exact ⟨hgrants ▸ hfrom.grantors, husers ▸ hgrants ▸ hfrom.roles⟩
  · rw [show (⟨actor, user.id, user.role⟩ :: s.grants : List (Grant Hash)) =
      [⟨actor, user.id, user.role⟩] ++ s.grants from rfl] at hgrants
    refine ⟨?_, ?_⟩
    · intro g hg
      rw [hgrants] at hg
      rcases List.mem_append.mp hg with hnew | hold
      · rw [List.mem_singleton.mp hnew]
        exact fun permission => writer_has hkeep hcheck hwritten
      · exact hfrom.grantors g hold
    · intro u hu
      rw [husers] at hu
      rw [hgrants]
      rcases List.mem_append.mp hu with hold | hnew
      · exact hkept u hold _
      · rw [List.mem_singleton.mp hnew]
        exact .inr ⟨_, List.mem_append_left _ (List.mem_singleton.mpr rfl), rfl, rfl⟩
  · refine ⟨?_, ?_⟩
    · intro g hg
      rw [hgrants] at hg
      rcases List.mem_append.mp hg with hnew | hold
      · obtain ⟨role, hrole, rfl⟩ := Option.map_eq_some_iff.mp (Option.mem_toList.mp hnew)
        rw [hrole] at hwritten
        exact fun permission => writer_has hkeep hcheck hwritten
      · exact hfrom.grantors g hold
    · intro u hu
      rw [husers] at hu
      rw [hgrants]
      obtain ⟨v, hv, hid, -, ⟨-, hsame⟩ | ⟨hrow, hset⟩⟩ := mem_update hu
      · rw [hid, hsame]
        exact hkept v hv _
      · rcases hrole : columns.role with _ | role
        · rw [hrole] at hset
          rw [hid, hset]
          exact hkept v hv []
        · rw [hrole] at hset
          refine .inr ⟨⟨actor, user.id, role⟩, List.mem_append_left _ (Option.mem_toList.mpr rfl), ?_,
            hset.symm⟩
          rw [hid]
          exact hrow.symm
  · refine ⟨hgrants ▸ hfrom.grantors, ?_⟩
    intro u hu
    rw [husers] at hu
    rw [hgrants]
    exact hkept u (List.mem_filter.mp hu).1 []

end Session

/-! ## No escalation -/

end RiseSun.Backend
