import FlightBooking.Identity.Service

/-!
What the identity service keeps in every interleaving.

No two users have one email, however registrations race; a registration answered `created`
stored its user, and no other answered so with it; a token is given only where the password
was accepted for the stored hash, and only a promotion makes an administrator
(`accounts_kept`). Whoever has registered is given a token from then on
(`token_of_registered`).
-/

namespace FlightBooking.Identity

open Relational

variable {deps : IdentityDeps} {users users' : Users} {s s' : State}

/-! ### Users -/

/-- The same user later: only the role may have risen. -/
structure UserRecord.Continues (u v : UserRecord) : Prop where
  id : v.id = u.id
  email : v.email = u.email
  passwordHash : v.passwordHash = u.passwordHash
  createdAt : v.createdAt = u.createdAt
  role : u.role = .admin → v.role = .admin

theorem UserRecord.Continues.refl (u : UserRecord) : u.Continues u :=
  ⟨rfl, rfl, rfl, rfl, fun is => is⟩

theorem UserRecord.Continues.trans {u v w : UserRecord} (h : u.Continues v) (h' : v.Continues w) :
    u.Continues w where
  id := h'.id.trans h.id
  email := h'.email.trans h.email
  passwordHash := h'.passwordHash.trans h.passwordHash
  createdAt := h'.createdAt.trans h.createdAt
  role is := h'.role (h.role is)

/-- Every user stays. -/
def Grows (users users' : Users) : Prop := ∀ u ∈ users, ∃ v ∈ users', u.Continues v

theorem Grows.refl (users : Users) : Grows users users := fun u mem => ⟨u, mem, .refl u⟩

theorem Grows.trans {users'' : Users} (h : Grows users users') (h' : Grows users' users'') :
    Grows users users'' := by
  intro u mem
  obtain ⟨v, memV, continues⟩ := h u mem
  obtain ⟨w, memW, continues'⟩ := h' v memV
  exact ⟨w, memW, continues.trans continues'⟩

def SingleEmails (users : Users) : Prop := ∀ u ∈ users, ∀ v ∈ users, u.email = v.email → u = v

theorem findByEmail_eq_some {email : List Char} {u : UserRecord}
    (h : findByEmail users email = some u) : u ∈ users ∧ u.email = email :=
  ⟨List.mem_of_find?_eq_some h, by simpa using List.find?_some h⟩

theorem findByEmail_eq_none {email : List Char} :
    findByEmail users email = none ↔ ∀ u ∈ users, u.email ≠ email := by
  simp [findByEmail]

theorem findByEmail_of_mem (single : SingleEmails users) {u : UserRecord} (mem : u ∈ users) :
    findByEmail users u.email = some u := by
  cases found : findByEmail users u.email with
  | none => exact absurd rfl (findByEmail_eq_none.mp found u mem)
  | some v =>
      obtain ⟨memV, same⟩ := findByEmail_eq_some found
      exact congrArg some (single v memV u mem same)

/-- Saving a user that is stored, whoever changed it since. -/
theorem saveAdmin_eq {user u : UserRecord} (mem : u ∈ users) (continues : user.Continues u) :
    saveAdmin users user = users.put { u with role := .admin } := by
  have found : users.find? user.id = some u := continues.id ▸ Table.find?_of_mem mem
  rw [saveAdmin, found, Option.getD_some]

theorem grows_saveAdmin {user u : UserRecord} (mem : u ∈ users) (continues : user.Continues u) :
    Grows users (saveAdmin users user) := by
  rw [saveAdmin_eq mem continues]
  intro v memV
  by_cases same : v.id = u.id
  · obtain rfl := Table.eq_of_key memV mem same
    exact ⟨_, Table.mem_put.mpr (.inl rfl), rfl, rfl, rfl, rfl, fun _ => rfl⟩
  · exact ⟨v, Table.mem_put.mpr (.inr ⟨memV, same⟩), .refl v⟩

theorem grows_put {u : UserRecord} (fresh : users.find? u.id = none) :
    Grows users (users.put u) := by
  intro v mem
  refine ⟨v, Table.mem_put.mpr (.inr ⟨mem, ?_⟩), .refl v⟩
  exact Table.find?_eq_none.mp fresh v mem

theorem single_put {u : UserRecord} (single : SingleEmails users)
    (apart : ∀ v ∈ users, v.email ≠ u.email) : SingleEmails (users.put u) := by
  intro v memV w memW same
  rcases Table.mem_put.mp memV with rfl | ⟨oldV, -⟩
  · rcases Table.mem_put.mp memW with rfl | ⟨oldW, -⟩
    · rfl
    · exact absurd same.symm (apart w oldW)
  · rcases Table.mem_put.mp memW with rfl | ⟨oldW, -⟩
    · exact absurd same (apart v oldV)
    · exact single v oldV w oldW same

theorem single_saveAdmin {user u : UserRecord} (single : SingleEmails users) (mem : u ∈ users)
    (continues : user.Continues u) : SingleEmails (saveAdmin users user) := by
  rw [saveAdmin_eq mem continues]
  intro v memV w memW same
  rcases Table.mem_put.mp memV with rfl | ⟨memV, otherV⟩
  · rcases Table.mem_put.mp memW with rfl | ⟨memW, otherW⟩
    · rfl
    · exact absurd (congrArg UserRecord.id (single w memW u mem same.symm)) otherW
  · rcases Table.mem_put.mp memW with rfl | ⟨memW, -⟩
    · exact absurd (congrArg UserRecord.id (single v memV u mem same)) otherV
    · exact single v memV w memW same

/-! ### Calls -/

/-- The hash is one of the password. -/
def HashOf (deps : IdentityDeps) (password hash : List Char) : Prop :=
  ∃ salt, hash = deps.hasher.hash password salt

/-- What is behind a call, where it waits and when it is over. -/
def Call.Backed (deps : IdentityDeps) (users : Users) : Call → Prop
  | .register body phase => match phase with
      | .finding input | .hashing input => validateRegisterInput deps.toLowerCase body = .ok input
      | .creating input hash => validateRegisterInput deps.toLowerCase body = .ok input ∧
          HashOf deps input.password hash
      | .answered (.created id email at') => ∃ input, ∃ u ∈ users,
          validateRegisterInput deps.toLowerCase body = .ok input ∧ u.id = id ∧
          u.email = email ∧ email = input.email ∧ HashOf deps input.password u.passwordHash ∧
          u.createdAt = at'
      | _ => True
  | .login body phase => match phase with
      | .finding input => validateLoginInput deps.toLowerCase body = .ok input
      | .comparing input user => validateLoginInput deps.toLowerCase body = .ok input ∧
          user.email = input.email ∧ ∃ u ∈ users, user.Continues u
      | .answered (.authenticated token) => ∃ input user t, ∃ u ∈ users,
          validateLoginInput deps.toLowerCase body = .ok input ∧ u.email = input.email ∧
          deps.hasher.compare input.password u.passwordHash = true ∧ user.Continues u ∧
          token = deps.issue user t
      | _ => True
  | .promote email phase => match phase with
      | .saving user => user.email = email ∧ ∃ u ∈ users, user.Continues u
      | _ => True

/-- The id that a registration answered with. -/
def Call.createdId? : Call → Option Uuid
  | .register _ (.answered (.created id _ _)) => some id
  | _ => none

/-- A registration whose input is behind a user. -/
def Call.Registers (deps : IdentityDeps) (u : UserRecord) : Call → Prop
  | .register body _ => ∃ input, validateRegisterInput deps.toLowerCase body = .ok input ∧
      u.email = input.email ∧ HashOf deps input.password u.passwordHash
  | _ => False

/-- A promotion of whoever has the email. -/
def Call.Promotes (email : List Char) : Call → Prop
  | .promote email' _ => email' = email
  | _ => False

theorem Call.Backed.mono {call : Call} (grows : Grows users users') (h : call.Backed deps users) :
    call.Backed deps users' := by
  have later : ∀ user : UserRecord, (∃ u ∈ users, user.Continues u) →
      ∃ u ∈ users', user.Continues u := by
    rintro user ⟨u, mem, continues⟩
    obtain ⟨v, memV, continues'⟩ := grows u mem
    exact ⟨v, memV, continues.trans continues'⟩
  cases call with
  | register body phase =>
      cases phase with
      | answered result =>
          cases result with
          | created id email at' =>
              obtain ⟨input, u, mem, valid, isId, isEmail, same, hash, created⟩ := h
              obtain ⟨v, memV, continues⟩ := grows u mem
              exact ⟨input, v, memV, valid, continues.id.trans isId, continues.email.trans isEmail,
                same, continues.passwordHash ▸ hash, continues.createdAt.trans created⟩
          | _ => exact h
      | _ => exact h
  | login body phase =>
      cases phase with
      | comparing input user => exact ⟨h.1, h.2.1, later user h.2.2⟩
      | answered result =>
          cases result with
          | authenticated token =>
              obtain ⟨input, user, t, u, mem, valid, same, accepted, continues, issued⟩ := h
              obtain ⟨v, memV, continues'⟩ := grows u mem
              exact ⟨input, user, t, v, memV, valid, continues'.email.trans same,
                continues'.passwordHash ▸ accepted, continues.trans continues', issued⟩
          | _ => exact h
      | _ => exact h
  | promote email phase =>
      cases phase with
      | saving user => exact ⟨h.1, later user h.2⟩
      | _ => exact h

theorem Starts.backed {call : Call} (h : Starts deps call) : call.Backed deps users := by
  cases h with
  | register valid => exact valid
  | login valid => exact valid
  | _ => trivial

theorem Starts.createdId? {call : Call} (h : Starts deps call) : call.createdId? = none := by
  cases h <;> rfl

section Moves

variable {call after : Call}

/-- A step keeps every user, of a call that is backed. -/
theorem Moves.grows (h : Moves deps users call after users') (backed : call.Backed deps users) :
    Grows users users' := by
  cases h with
  | created free fresh => exact grows_put fresh
  | promoted =>
      obtain ⟨-, u, mem, continues⟩ := backed
      exact grows_saveAdmin mem continues
  | _ => exact .refl users

theorem Moves.backed (h : Moves deps users call after users') (backed : call.Backed deps users) :
    after.Backed deps users' := by
  cases h with
  | free => exact backed
  | hashed salt => exact ⟨backed, salt, rfl⟩
  | @created body input hash id now phase free fresh fits ends =>
      obtain ⟨valid, hashed⟩ := backed
      rcases ends with rfl | rfl
      · exact ⟨input, _, Table.mem_put.mpr (.inl rfl), valid, rfl, rfl, rfl, hashed, rfl⟩
      · trivial
  | violated ends =>
      rcases ends with rfl | rfl <;> trivial
  | @known body input user there =>
      obtain ⟨mem, same⟩ := findByEmail_eq_some there
      exact ⟨backed, same, user, mem, .refl user⟩
  | @accepted body input user now matches' =>
      obtain ⟨valid, same, u, mem, continues⟩ := backed
      exact ⟨input, user, now, u, mem, valid, continues.email.trans same,
        continues.passwordHash ▸ matches', continues, rfl⟩
  | @chosen email user there =>
      obtain ⟨mem, same⟩ := findByEmail_eq_some there
      exact ⟨same, user, mem, .refl user⟩
  | taken | unknown | refused | missing | promoted | failedRegister | failedLogin
    | failedPromote => trivial

theorem Moves.single (h : Moves deps users call after users') (backed : call.Backed deps users)
    (single : SingleEmails users) : SingleEmails users' := by
  cases h with
  | created free => exact single_put single (findByEmail_eq_none.mp free)
  | promoted =>
      obtain ⟨-, u, mem, continues⟩ := backed
      exact single_saveAdmin single mem continues
  | _ => exact single

/-- Only the INSERT of a registration adds a user. -/
theorem Moves.mem_users (h : Moves deps users call after users') (backed : call.Backed deps users)
    {v : UserRecord} (mem : v ∈ users') :
    (∃ u ∈ users, u.Continues v ∧ (v.role = u.role ∨ after.Promotes v.email)) ∨
      (v.role = .user ∧ v.id < 2 ^ 128 ∧ after.Registers deps v) := by
  cases h with
  | @created body input hash id now phase free fresh fits ends =>
      rcases Table.mem_put.mp mem with rfl | ⟨mem, -⟩
      · exact .inr ⟨rfl, fits, input, backed.1, rfl, backed.2⟩
      · exact .inl ⟨v, mem, .refl v, .inl rfl⟩
  | promoted =>
      obtain ⟨same, u, memU, continues⟩ := backed
      rw [saveAdmin_eq memU continues] at mem
      rcases Table.mem_put.mp mem with rfl | ⟨mem, -⟩
      · refine .inl ⟨u, memU, ⟨rfl, rfl, rfl, rfl, fun _ => rfl⟩, .inr ?_⟩
        exact same.symm.trans continues.email.symm
      · exact .inl ⟨v, mem, .refl v, .inl rfl⟩
  | _ => exact .inl ⟨v, mem, .refl v, .inl rfl⟩

/-- A call stays what it is. -/
theorem Moves.registers {u : UserRecord} (h : Moves deps users call after users')
    (registers : call.Registers deps u) : after.Registers deps u := by
  cases h <;> exact registers

theorem Moves.promotes {email : List Char} (h : Moves deps users call after users')
    (promotes : call.Promotes email) : after.Promotes email := by
  cases h <;> exact promotes

/-- A registration answers with an id that no user has yet. -/
theorem Moves.createdId? {id : Uuid} (h : Moves deps users call after users')
    (created : after.createdId? = some id) : users.find? id = none := by
  cases h with
  | @created body input hash id' now phase free fresh fits ends =>
      rcases ends with rfl | rfl
      · cases created
        exact fresh
      · cases created
  | violated ends =>
      rcases ends with rfl | rfl <;> cases created
  | failedRegister waits => cases created
  | _ => cases created

end Moves

/-! ### States -/

/-- What every reachable state keeps. -/
structure Kept (deps : IdentityDeps) (s : State) : Prop where
  single : SingleEmails s.users
  fits : ∀ u ∈ s.users, u.id < 2 ^ 128
  backed : ∀ call ∈ s.calls, call.Backed deps s.users
  once : ∀ (i j : Nat) (ci cj : Call) (id : Uuid), s.calls[i]? = some ci → s.calls[j]? = some cj →
    ci.createdId? = some id → cj.createdId? = some id → i = j
  registered : ∀ u ∈ s.users, ∃ call ∈ s.calls, call.Registers deps u
  promoted : ∀ u ∈ s.users, u.role = .admin → ∃ call ∈ s.calls, call.Promotes u.email

theorem Call.Registers.continues {call : Call} {u v : UserRecord} (h : call.Registers deps u)
    (continues : u.Continues v) : call.Registers deps v := by
  cases call with
  | register body phase =>
      obtain ⟨input, valid, same, hash⟩ := h
      exact ⟨input, valid, continues.email.trans same, continues.passwordHash ▸ hash⟩
  | _ => exact h.elim

/-- The user that a registration answered with is stored. -/
theorem Call.Backed.createdId? {call : Call} {id : Uuid} (h : call.Backed deps users)
    (created : call.createdId? = some id) : ∃ u ∈ users, u.id = id := by
  cases call with
  | register body phase =>
      cases phase with
      | answered result =>
          cases result with
          | created id' email at' =>
              cases created
              obtain ⟨-, u, mem, -, same, -⟩ := h
              exact ⟨u, mem, same⟩
          | _ => cases created
      | _ => cases created
  | _ => cases created

theorem mem_set_self {calls : List Call} {i : Nat} {call after : Call}
    (here : calls[i]? = some call) : after ∈ calls.set i after :=
  List.mem_set (List.getElem?_eq_some_iff.mp here).1 after

/-- Of a call that moves on, what it was it still is. -/
theorem exists_set {P : Call → Prop} {calls : List Call} {i : Nat} {call after : Call}
    (here : calls[i]? = some call) (keeps : P call → P after) (h : ∃ c ∈ calls, P c) :
    ∃ c ∈ calls.set i after, P c := by
  obtain ⟨c, mem, holds⟩ := h
  obtain ⟨j, at'⟩ := List.mem_iff_getElem?.mp mem
  by_cases same : i = j
  · subst same
    cases here.symm.trans at'
    exact ⟨after, mem_set_self here, keeps holds⟩
  · refine ⟨c, List.mem_of_getElem? (i := j) ?_, holds⟩
    rw [List.getElem?_set_ne same, at']

theorem kept_initial : Kept deps {} where
  single u mem := absurd mem (Table.not_mem_empty u)
  fits u mem := absurd mem (Table.not_mem_empty u)
  backed call mem := absurd mem List.not_mem_nil
  once i j ci cj id atI := by cases atI
  registered u mem := absurd mem (Table.not_mem_empty u)
  promoted u mem := absurd mem (Table.not_mem_empty u)

theorem Kept.starts {call : Call} (kept : Kept deps s) (h : Starts deps call) :
    Kept deps { s with calls := s.calls ++ [call] } where
  single := kept.single
  fits := kept.fits
  backed c mem := by
    rcases List.mem_append.mp mem with mem | mem
    · exact kept.backed c mem
    · obtain rfl := List.mem_singleton.mp mem
      exact h.backed
  once i j ci cj id atI atJ createdI createdJ := by
    have old : ∀ {k : Nat} {c : Call}, (s.calls ++ [call])[k]? = some c →
        c.createdId? = some id → s.calls[k]? = some c := by
      intro k c at' created
      rcases Nat.lt_or_ge k s.calls.length with lt | ge
      · rwa [List.getElem?_append_left lt] at at'
      · rw [List.getElem?_append_right ge] at at'
        obtain rfl := List.mem_singleton.mp (List.mem_of_getElem? at')
        rw [h.createdId?] at created
        cases created
    exact kept.once i j ci cj id (old atI createdI) (old atJ createdJ) createdI createdJ
  registered u mem := by
    obtain ⟨c, memC, registers⟩ := kept.registered u mem
    exact ⟨c, List.mem_append_left _ memC, registers⟩
  promoted u mem is := by
    obtain ⟨c, memC, promotes⟩ := kept.promoted u mem is
    exact ⟨c, List.mem_append_left _ memC, promotes⟩

theorem Kept.moves {i : Nat} {call after : Call} (kept : Kept deps s)
    (here : s.calls[i]? = some call) (h : Moves deps s.users call after users') :
    Kept deps { users := users', calls := s.calls.set i after } := by
  have backed := kept.backed call (List.mem_of_getElem? here)
  -- The id of an answer is new, so no other call has answered with it.
  have alone : ∀ (j : Nat) (c : Call) (id : Uuid), s.calls[j]? = some c →
      after.createdId? = some id → c.createdId? ≠ some id := by
    intro j c id at' created earlier
    obtain ⟨u, mem, same⟩ := (kept.backed c (List.mem_of_getElem? at')).createdId? earlier
    exact Table.find?_eq_none.mp (h.createdId? created) u mem same
  constructor
  · exact h.single backed kept.single
  · intro v memV
    rcases h.mem_users backed memV with ⟨u, memU, continues, -⟩ | ⟨-, fits, -⟩
    · exact continues.id ▸ kept.fits u memU
    · exact fits
  · intro c mem
    rcases List.mem_or_eq_of_mem_set mem with mem | rfl
    · exact (kept.backed c mem).mono (h.grows backed)
    · exact h.backed backed
  · intro j k cj ck id atJ atK createdJ createdK
    rw [List.getElem?_set] at atJ atK
    split at atJ <;> split at atK
    · omega
    · split at atJ <;> cases atJ
      exact absurd createdK (alone k ck id atK createdJ)
    · split at atK <;> cases atK
      exact absurd createdJ (alone j cj id atJ createdK)
    · exact kept.once j k cj ck id atJ atK createdJ createdK
  · intro v memV
    rcases h.mem_users backed memV with ⟨u, memU, continues, -⟩ | ⟨-, -, registers⟩
    · refine exists_set here h.registers ?_
      obtain ⟨c, memC, registers⟩ := kept.registered u memU
      exact ⟨c, memC, registers.continues continues⟩
    · exact ⟨after, mem_set_self here, registers⟩
  · intro v memV is
    rcases h.mem_users backed memV with ⟨u, memU, continues, role | promotes⟩ | ⟨user, -⟩
    · refine exists_set here h.promotes ?_
      exact continues.email ▸ kept.promoted u memU (role ▸ is)
    · exact ⟨after, mem_set_self here, promotes⟩
    · rw [is] at user
      cases user

theorem Kept.step (kept : Kept deps s) (h : s.Step deps s') :
    Kept deps s' ∧ Grows s.users s'.users := by
  cases h with
  | starts starts => exact ⟨kept.starts starts, .refl s.users⟩
  | moves here moves =>
      exact ⟨kept.moves here moves, moves.grows (kept.backed _ (List.mem_of_getElem? here))⟩

theorem Kept.reaches (kept : Kept deps s) (h : s.Reaches deps s') :
    Kept deps s' ∧ Grows s.users s'.users := by
  induction h with
  | refl => exact ⟨kept, .refl s.users⟩
  | tail _ step ih =>
      obtain ⟨e, taken⟩ := step
      obtain ⟨kept', grows⟩ := ih.1.step (State.step_cases taken)
      exact ⟨kept', ih.2.trans grows⟩

theorem State.Reachable.kept (h : s.Reachable deps) : Kept deps s := (kept_initial.reaches h).1

/-! ### The accounts -/

theorem Kept.created (kept : Kept deps s) {body : Json.Value} {id : Uuid} {email : List Char}
    {t : Instant} (mem : .register body (.answered (.created id email t)) ∈ s.calls) :
    ∃ u ∈ s.users, u.id = id ∧ u.email = email ∧ u.createdAt = t ∧
      ∃ input, validateRegisterInput deps.toLowerCase body = .ok input ∧ u.email = input.email ∧
        HashOf deps input.password u.passwordHash := by
  obtain ⟨input, u, memU, valid, isId, isEmail, same, hash, created⟩ := kept.backed _ mem
  exact ⟨u, memU, isId, isEmail, created, input, valid, isEmail.trans same, hash⟩

theorem Kept.authenticated (kept : Kept deps s) {body : Json.Value} {token : IssuedToken}
    (mem : .login body (.answered (.authenticated token)) ∈ s.calls) :
    ∃ input, ∃ u ∈ s.users, ∃ (user : UserRecord) (t : Instant),
      validateLoginInput deps.toLowerCase body = .ok input ∧ u.email = input.email ∧
      deps.hasher.compare input.password u.passwordHash = true ∧ user.Continues u ∧
      token = deps.issue user t ∧
      (user.role = .admin → ∃ call ∈ s.calls, call.Promotes u.email) := by
  obtain ⟨input, user, t, u, memU, valid, same, accepted, continues, issued⟩ := kept.backed _ mem
  exact ⟨input, u, memU, user, t, valid, same, accepted, continues, issued,
    fun is => kept.promoted u memU (continues.role is)⟩

/-- In every interleaving of registrations, logins and promotions: emails are unique, and each
user stems from a registration whose password its hash is of; a registration that was answered
`created` has its user, and is the only one so answered for the id or the email; a token was
given for the password of a stored user, with that user's id and email, and names an
administrator only after a promotion of the email; and no user is ever lost or changed, but for
the role. -/
theorem accounts_kept (h : s.Reachable deps) :
    (∀ u ∈ s.users, ∀ v ∈ s.users, u.email = v.email → u = v) ∧
    (∀ u ∈ s.users, ∃ call ∈ s.calls, call.Registers deps u) ∧
    (∀ (i : Nat) (body : Json.Value) (id : Uuid) (email : List Char) (t : Instant),
      s.calls[i]? = some (.register body (.answered (.created id email t))) →
      (∃ u ∈ s.users, u.id = id ∧ u.email = email ∧ u.createdAt = t ∧
        ∃ input, validateRegisterInput deps.toLowerCase body = .ok input ∧
          u.email = input.email ∧ HashOf deps input.password u.passwordHash) ∧
      ∀ (j : Nat) (body' : Json.Value) (id' : Uuid) (email' : List Char) (t' : Instant),
        s.calls[j]? = some (.register body' (.answered (.created id' email' t'))) →
        id' = id ∨ email' = email → j = i) ∧
    (∀ (body : Json.Value) (token : IssuedToken),
      .login body (.answered (.authenticated token)) ∈ s.calls →
      ∃ input, ∃ u ∈ s.users, ∃ (role : Role) (t : Instant),
        validateLoginInput deps.toLowerCase body = .ok input ∧ u.email = input.email ∧
        deps.hasher.compare input.password u.passwordHash = true ∧
        token = ⟨deps.sign ⟨uuidText u.id, u.email, role⟩ t, deps.expiresIn⟩ ∧
        (role = .admin → ∃ call ∈ s.calls, call.Promotes u.email)) ∧
    ∀ s', s.Reaches deps s' → ∀ u ∈ s.users, ∃ v ∈ s'.users, u.Continues v := by
  have kept := h.kept
  refine ⟨kept.single, kept.registered, ?_, ?_, ?_⟩
  · intro i body id email t here
    have stored := kept.created (List.mem_of_getElem? here)
    refine ⟨stored, ?_⟩
    intro j body' id' email' t' there either
    obtain ⟨u, memU, isId, isEmail, -⟩ := stored
    obtain ⟨v, memV, isId', isEmail', -⟩ := kept.created (List.mem_of_getElem? there)
    have one : id' = id := by
      rcases either with same | same
      · exact same
      · have same := kept.single v memV u memU (isEmail'.trans (same.trans isEmail.symm))
        rw [← isId', same, isId]
    exact kept.once j i _ _ id there here (congrArg some one) rfl
  · intro body token mem
    obtain ⟨input, u, memU, user, t, valid, same, accepted, continues, rfl, promoted⟩ :=
      kept.authenticated mem
    refine ⟨input, u, memU, user.role, t, valid, same, accepted, ?_, promoted⟩
    rw [IdentityDeps.issue, continues.id, continues.email]
  · exact fun s' later => (kept.reaches later).2

/-! Three registrations, of which two are for one email, a promotion, and a login. -/

/-- A character as six digits. -/
def sampleEncode (text : List Char) : List Char :=
  text.flatMap fun c => Numeral.numeral 16 6 c.toNat

theorem printed_sampleEncode (text : List Char) :
    ∀ c ∈ sampleEncode text, Text.isWhiteSpace c = false ∧ c ≠ '.' := by
  have digit : ∀ d < 16, Text.isWhiteSpace (Nat.digitChar d) = false ∧ Nat.digitChar d ≠ '.' := by
    decide
  intro c mem
  obtain ⟨_, -, mem⟩ := List.mem_flatMap.mp mem
  obtain ⟨d, lt, rfl⟩ := Numeral.mem_numeral (by decide) mem
  exact digit d lt

def sampleRole : Role → Char
  | .user => 'u'
  | .admin => 'a'

/-- Nothing secret: a token is its payload, and a hash the password with its salt. -/
def sampleDeps : IdentityDeps where
  toLowerCase text := text.map Char.toLower
  toLowerCase_ne_nil text some := by simpa using some
  hasher :=
    { hash := fun password salt => Nat.digitChar (salt % 10) :: password
      compare := fun password hash => hash.tail = password
      compare_hash := fun password salt => by simp }
  sign payload _ := sampleEncode payload.sub ++ '.' :: (sampleEncode payload.email ++
    ['.', sampleRole payload.role])
  sign_ne_nil payload now := by simp
  sign_printed payload now c mem := by
    have dot : Text.isWhiteSpace '.' = false := by decide
    simp only [List.mem_append, List.mem_cons, List.not_mem_nil, or_false] at mem
    rcases mem with mem | rfl | mem | rfl | rfl
    · exact (printed_sampleEncode _ c mem).1
    · exact dot
    · exact (printed_sampleEncode _ c mem).1
    · exact dot
    · cases payload.role <;> decide
  expiresIn := "1h".toList

def sampleCredentials (email password : String) : Json.Value :=
  .object [("email".toList, .string email.toList), ("password".toList, .string password.toList)]

def sampleEvents : List Event :=
  [.register (sampleCredentials "an@b.vn" "12345678"), .found 0,
    .register (sampleCredentials " An@B.vn" "password"), .found 1,
    .register (sampleCredentials "root@b.vn" "correct horse"), .found 2, .hashed 1 4,
    .hashed 0 3, .created 0 7 100 true, .created 1 8 101 true, .hashed 2 9,
    .created 2 1 102 true, .promote "root@b.vn".toList, .found 3, .saved 3,
    .login (sampleCredentials "AN@b.vn " "12345678"), .found 4, .compared 4 200]

/-- The second registration of the email finds it free as well, and is refused by the table. -/
theorem accounts_kept_sample : ∃ s, State.run sampleDeps sampleEvents {} = some s ∧
    s.users.rows.map (fun u => (u.id, u.email, u.role)) =
      [(7, "an@b.vn".toList, .user), (1, "root@b.vn".toList, .admin)] ∧
    (∀ u ∈ s.users, ∀ v ∈ s.users, u.email = v.email → u = v) ∧
    ∀ u ∈ s.users, ∃ call ∈ s.calls, call.Registers sampleDeps u := by
  have ran : (State.run sampleDeps sampleEvents {}).map
      (fun s => s.users.rows.map fun u => (u.id, u.email, u.role)) =
      some [(7, "an@b.vn".toList, .user), (1, "root@b.vn".toList, .admin)] := by decide +kernel
  obtain ⟨s, ran, users⟩ := Option.map_eq_some_iff.mp ran
  have kept := accounts_kept (State.reaches_of_run sampleDeps ran)
  exact ⟨s, ran, users, kept.1, kept.2.1⟩

/-! ### Logging in -/

/-- A login with a registered user's credentials, wherever it is. -/
def Call.Welcomed (deps : IdentityDeps) (u : UserRecord) (input : Credentials) : Call → Prop
  | .login body phase => validateLoginInput deps.toLowerCase body = .ok input → match phase with
      | .finding input' => input' = input
      | .comparing input' user => input' = input ∧ u.Continues user
      | .answered result => ∃ user t, u.Continues user ∧ result = .authenticated (deps.issue user t)
      | .failed => True
  | _ => True

theorem Starts.welcomed {call : Call} {u : UserRecord} {input : Credentials}
    (h : Starts deps call) : call.Welcomed deps u input := by
  cases h with
  | login valid => exact fun valid' => Except.ok.inj (valid.symm.trans valid')
  | invalidLogin refused =>
      intro valid
      cases refused.symm.trans valid
  | _ => trivial

theorem Moves.welcomed {call after : Call} {u v : UserRecord} {input : Credentials}
    (h : Moves deps users call after users') (single : SingleEmails users) (mem : v ∈ users)
    (continues : u.Continues v) (same : u.email = input.email)
    (hash : HashOf deps input.password u.passwordHash) (before : call.Welcomed deps u input) :
    after.Welcomed deps u input := by
  have found : findByEmail users input.email = some v :=
    same ▸ continues.email ▸ findByEmail_of_mem single mem
  cases h with
  | @known body input' user there =>
      intro valid
      obtain rfl := before valid
      cases there.symm.trans found
      exact ⟨rfl, continues⟩
  | unknown none =>
      intro valid
      obtain rfl := before valid
      cases none.symm.trans found
  | @accepted body input' user now matches' =>
      intro valid
      exact ⟨user, now, (before valid).2, rfl⟩
  | @refused body input' user differs =>
      intro valid
      obtain ⟨rfl, continues'⟩ := before valid
      obtain ⟨salt, hash⟩ := hash
      rw [continues'.passwordHash, hash, deps.hasher.compare_hash] at differs
      cases differs
  | failedLogin => exact fun _ => trivial
  | _ => trivial

/-- From a state with the user on, every login that comes with its credentials is welcome. -/
theorem welcomed_reaches {u : UserRecord} {input : Credentials} (kept : Kept deps s)
    (mem : u ∈ s.users) (same : u.email = input.email)
    (hash : HashOf deps input.password u.passwordHash) (h : s.Reaches deps s') :
    ∀ (j : Nat) (call : Call), s.calls.length ≤ j → s'.calls[j]? = some call →
      call.Welcomed deps u input := by
  suffices run : s.calls.length ≤ s'.calls.length ∧ ∀ (j : Nat) (call : Call), s.calls.length ≤ j →
      s'.calls[j]? = some call → call.Welcomed deps u input from run.2
  induction h with
  | refl =>
      refine ⟨Nat.le_refl _, fun j call le at' => ?_⟩
      exact absurd (List.getElem?_eq_some_iff.mp at').1 (Nat.not_lt.mpr le)
  | @tail mid last run step ih =>
      obtain ⟨e, taken⟩ := step
      obtain ⟨le, welcomed⟩ := ih
      obtain ⟨kept', grows⟩ := kept.reaches run
      obtain ⟨v, memV, continues⟩ := grows u mem
      cases State.step_cases taken with
      | @starts call starts =>
          refine ⟨by simp; omega, fun j c leJ at' => ?_⟩
          rcases Nat.lt_or_ge j mid.calls.length with lt | ge
          · rw [List.getElem?_append_left lt] at at'
            exact welcomed j c leJ at'
          · rw [List.getElem?_append_right ge] at at'
            obtain rfl := List.mem_singleton.mp (List.mem_of_getElem? at')
            exact starts.welcomed
      | @moves i call after users here moves =>
          refine ⟨by simpa using le, fun j c leJ at' => ?_⟩
          rw [List.getElem?_set] at at'
          split at at'
          · rename_i one
            subst one
            split at at' <;> cases at'
            exact moves.welcomed kept'.single memV continues same hash (welcomed i call leJ here)
          · exact welcomed j c leJ at'

/-- The email of a user is one. -/
theorem Kept.email_ne_nil (kept : Kept deps s) {u : UserRecord} (mem : u ∈ s.users) :
    u.email ≠ [] := by
  obtain ⟨call, -, registers⟩ := kept.registered u mem
  cases call with
  | register body phase =>
      obtain ⟨input, valid, same, -⟩ := registers
      obtain ⟨raw, -, -, is, -, email⟩ := validateCredentials_eq_ok.mp valid
      rw [same, email]
      refine deps.toLowerCase_ne_nil _ fun none => ?_
      rw [none] at is
      cases is
  | _ => exact registers.elim

/-- After a registration was answered `created`, a login with the email, however it is spelt,
and the password is answered with a token of the account, if it is answered. -/
theorem token_of_registered (kept : Kept deps s) {body : Json.Value} {id : Uuid}
    {email : List Char} {t : Instant}
    (registered : .register body (.answered (.created id email t)) ∈ s.calls)
    (later : s.Reaches deps s') {j : Nat} (le : s.calls.length ≤ j) {body' : Json.Value}
    (same : validateLoginInput deps.toLowerCase body' =
      validateRegisterInput deps.toLowerCase body) {result : LoginResult}
    (answered : s'.calls[j]? = some (.login body' (.answered result))) :
    id < 2 ^ 128 ∧ email ≠ [] ∧ ∃ (role : Role) (at' : Instant), result =
      .authenticated ⟨deps.sign ⟨uuidText id, email, role⟩ at', deps.expiresIn⟩ := by
  obtain ⟨u, memU, rfl, rfl, -, input, valid, sameEmail, hash⟩ := kept.created registered
  have welcomed := welcomed_reaches kept memU sameEmail hash later j _ le answered
  obtain ⟨user, at', continues, rfl⟩ := welcomed (same.trans valid)
  refine ⟨kept.fits u memU, kept.email_ne_nil memU, user.role, at', ?_⟩
  rw [IdentityDeps.issue, continues.id, continues.email]

end FlightBooking.Identity
