import FlightBooking.Identity.Accounts
import Mathlib.Logic.Relation

/-!
The identity service: registrations, logins and promotions, each a few awaited steps, in any
interleaving.

A call keeps its place in the state when it is over, with its answer. Between two steps of a
call any other may go on, and a call can fail wherever it waits; what it has written by then
stays.
-/

namespace FlightBooking.Identity

open Relational

inductive RegisterResult where
  | created (id : Uuid) (email : List Char) (createdAt : Instant)
  | validationFailed (issues : List ValidationIssue)
  | duplicateEmail
  deriving DecidableEq, Repr

inductive LoginResult where
  | authenticated (token : IssuedToken)
  | validationFailed (issues : List ValidationIssue)
  | invalidCredentials
  deriving DecidableEq, Repr

inductive RegisterPhase where
  /-- `findByEmail` is awaited. -/
  | finding (input : Credentials)
  /-- `hashPassword` is awaited. -/
  | hashing (input : Credentials)
  /-- `userRepository.create` is awaited. -/
  | creating (input : Credentials) (passwordHash : List Char)
  | answered (result : RegisterResult)
  | failed
  deriving DecidableEq, Repr

inductive LoginPhase where
  | finding (input : Credentials)
  /-- `passwordHasher.compare` is awaited. -/
  | comparing (input : Credentials) (user : UserRecord)
  | answered (result : LoginResult)
  | failed
  deriving DecidableEq, Repr

/-- Of the script that makes a user an administrator. -/
inductive PromotePhase where
  | finding
  /-- `save` is awaited. -/
  | saving (user : UserRecord)
  | ended
  deriving DecidableEq, Repr

inductive Call where
  | register (body : Json.Value) (phase : RegisterPhase)
  | login (body : Json.Value) (phase : LoginPhase)
  | promote (email : List Char) (phase : PromotePhase)

structure State where
  users : Users := ∅
  calls : List Call := []

inductive Event where
  | register (body : Json.Value)
  | login (body : Json.Value)
  | promote (email : List Char)
  | found (call : Nat)
  | hashed (call : Nat) (salt : Nat)
  /-- The database draws the id; whether its answer is heard. -/
  | created (call : Nat) (id : Fin (2 ^ 128)) (now : Instant) (heard : Bool)
  | compared (call : Nat) (now : Instant)
  | saved (call : Nat)
  | fails (call : Nat)

variable (deps : IdentityDeps)

/-! ### Where a call goes from where it waits -/

def register (body : Json.Value) : RegisterPhase :=
  match validateRegisterInput deps.toLowerCase body with
  | .error issues => .answered (.validationFailed issues)
  | .ok input => .finding input

def login (body : Json.Value) : LoginPhase :=
  match validateLoginInput deps.toLowerCase body with
  | .error issues => .answered (.validationFailed issues)
  | .ok input => .finding input

def found (users : Users) : Call → Option Call
  | .register body (.finding input) =>
      match findByEmail users input.email with
      | some _ => some (.register body (.answered .duplicateEmail))
      | none => some (.register body (.hashing input))
  | .login body (.finding input) =>
      match findByEmail users input.email with
      | some user => some (.login body (.comparing input user))
      | none => some (.login body (.answered .invalidCredentials))
  | .promote email .finding =>
      match findByEmail users email with
      | some user => some (.promote email (.saving user))
      | none => some (.promote email .ended)
  | _ => none

def hashed (salt : Nat) : Call → Option Call
  | .register body (.hashing input) =>
      some (.register body (.creating input (deps.hasher.hash input.password salt)))
  | _ => none

def created (id : Fin (2 ^ 128)) (now : Instant) (heard : Bool) (users : Users) :
    Call → Option (Call × Users)
  | .register body (.creating input passwordHash) =>
      match createUser users input passwordHash id now with
      | some (user, users) =>
          let result := .created user.id user.email user.createdAt
          some (.register body (if heard then .answered result else .failed), users)
      | none => some (.register body (if heard then .answered .duplicateEmail else .failed), users)
  | _ => none

def compared (now : Instant) : Call → Option Call
  | .login body (.comparing input user) =>
      if deps.hasher.compare input.password user.passwordHash then
        some (.login body (.answered (.authenticated (deps.issue user now))))
      else some (.login body (.answered .invalidCredentials))
  | _ => none

def saved (users : Users) : Call → Option (Call × Users)
  | .promote email (.saving user) => some (.promote email .ended, saveAdmin users user)
  | _ => none

def fails : Call → Option Call
  | .register _ (.answered _) | .login _ (.answered _) => none
  | .register body _ => some (.register body .failed)
  | .login body _ => some (.login body .failed)
  | .promote email _ => some (.promote email .ended)

/-! ### Steps -/

namespace State

/-- The call at `i` goes on, if it can. -/
def goOn (s : State) (i : Nat) (next : Call → Option (Call × Users)) : Option State :=
  (s.calls[i]?).bind fun call => (next call).map fun after =>
    { users := after.2, calls := s.calls.set i after.1 }

/-- The call at `i` goes on and writes nothing. -/
def goOnReading (s : State) (i : Nat) (next : Call → Option Call) : Option State :=
  s.goOn i fun call => (next call).map fun after => (after, s.users)

def step (s : State) : Event → Option State
  | .register body => some { s with calls := s.calls ++ [.register body (register deps body)] }
  | .login body => some { s with calls := s.calls ++ [.login body (login deps body)] }
  | .promote email => some { s with calls := s.calls ++ [.promote email .finding] }
  | .found i => s.goOnReading i (found s.users)
  | .hashed i salt => s.goOnReading i (hashed deps salt)
  | .created i id now heard => s.goOn i (created id now heard s.users)
  | .compared i now => s.goOnReading i (compared deps now)
  | .saved i => s.goOn i (saved s.users)
  | .fails i => s.goOnReading i fails

def run (events : List Event) (s : State) : Option State :=
  events.foldlM (fun s e => s.step deps e) s

def Reaches (s s' : State) : Prop :=
  Relation.ReflTransGen (fun a b => ∃ e, a.step deps e = some b) s s'

def Reachable (s : State) : Prop := Reaches deps {} s

theorem reaches_of_run {events : List Event} {s s' : State} (ran : s.run deps events = some s') :
    Reaches deps s s' := by
  induction events generalizing s with
  | nil =>
      cases ran
      exact .refl
  | cons e events ih =>
      obtain ⟨mid, first, rest⟩ := Option.bind_eq_some_iff.mp ran
      exact .head ⟨e, first⟩ (ih rest)

end State

/-! ### What one step can do -/

/-- How a call starts. -/
inductive Starts : Call → Prop where
  | invalidRegister {body issues}
      (refused : validateRegisterInput deps.toLowerCase body = .error issues) :
      Starts (.register body (.answered (.validationFailed issues)))
  | register {body input} (valid : validateRegisterInput deps.toLowerCase body = .ok input) :
      Starts (.register body (.finding input))
  | invalidLogin {body issues}
      (refused : validateLoginInput deps.toLowerCase body = .error issues) :
      Starts (.login body (.answered (.validationFailed issues)))
  | login {body input} (valid : validateLoginInput deps.toLowerCase body = .ok input) :
      Starts (.login body (.finding input))
  | promote {email} : Starts (.promote email .finding)

/-- How a call goes on, and what it makes of the users. -/
inductive Moves (users : Users) : Call → Call → Users → Prop where
  | taken {body input user} (there : findByEmail users input.email = some user) :
      Moves users (.register body (.finding input)) (.register body (.answered .duplicateEmail)) users
  | free {body input} (none : findByEmail users input.email = none) :
      Moves users (.register body (.finding input)) (.register body (.hashing input)) users
  | hashed {body input} (salt : Nat) :
      Moves users (.register body (.hashing input))
        (.register body (.creating input (deps.hasher.hash input.password salt))) users
  | created {body input passwordHash id now phase} (free : findByEmail users input.email = none)
      (fresh : users.find? id = none) (fits : id < 2 ^ 128)
      (ends : phase = .answered (.created id input.email now) ∨ phase = .failed) :
      Moves users (.register body (.creating input passwordHash)) (.register body phase)
        (users.put ⟨id, input.email, passwordHash, .user, now⟩)
  | violated {body input passwordHash phase}
      (ends : phase = .answered .duplicateEmail ∨ phase = .failed) :
      Moves users (.register body (.creating input passwordHash)) (.register body phase) users
  | known {body input user} (there : findByEmail users input.email = some user) :
      Moves users (.login body (.finding input)) (.login body (.comparing input user)) users
  | unknown {body input} (none : findByEmail users input.email = none) :
      Moves users (.login body (.finding input)) (.login body (.answered .invalidCredentials)) users
  | accepted {body input user} (now : Instant)
      (matches' : deps.hasher.compare input.password user.passwordHash = true) :
      Moves users (.login body (.comparing input user))
        (.login body (.answered (.authenticated (deps.issue user now)))) users
  | refused {body input user}
      (differs : deps.hasher.compare input.password user.passwordHash = false) :
      Moves users (.login body (.comparing input user))
        (.login body (.answered .invalidCredentials)) users
  | chosen {email user} (there : findByEmail users email = some user) :
      Moves users (.promote email .finding) (.promote email (.saving user)) users
  | missing {email} (none : findByEmail users email = none) :
      Moves users (.promote email .finding) (.promote email .ended) users
  | promoted {email user} :
      Moves users (.promote email (.saving user)) (.promote email .ended) (saveAdmin users user)
  | failedRegister {body phase} (waits : ∀ result, phase ≠ .answered result) :
      Moves users (.register body phase) (.register body .failed) users
  | failedLogin {body phase} (waits : ∀ result, phase ≠ .answered result) :
      Moves users (.login body phase) (.login body .failed) users
  | failedPromote {email phase} :
      Moves users (.promote email phase) (.promote email .ended) users

/-- A call starts, or one goes on. -/
inductive State.Step (s : State) : State → Prop where
  | starts {call : Call} (starts : Starts deps call) : Step s { s with calls := s.calls ++ [call] }
  | moves {i : Nat} {call after : Call} {users : Users} (here : s.calls[i]? = some call)
      (moves : Moves deps s.users call after users) :
      Step s { users, calls := s.calls.set i after }

variable {deps}

theorem moves_found {users : Users} {call after : Call} (h : found users call = some after) :
    Moves deps users call after users := by
  unfold found at h
  split at h
  · split at h <;> cases h
    · exact .taken ‹_›
    · exact .free ‹_›
  · split at h <;> cases h
    · exact .known ‹_›
    · exact .unknown ‹_›
  · split at h <;> cases h
    · exact .chosen ‹_›
    · exact .missing ‹_›
  · cases h

theorem moves_created {users users' : Users} {call after : Call} {id : Fin (2 ^ 128)}
    {now : Instant} {heard : Bool} (h : created id now heard users call = some (after, users')) :
    Moves deps users call after users' := by
  unfold created at h
  split at h
  · rename_i body input passwordHash
    split at h
    · rename_i user users₁ inserted
      obtain ⟨rfl, rfl⟩ := Prod.mk.inj (Option.some.inj h)
      unfold createUser at inserted
      split at inserted
      · cases inserted
      · rename_i free
        rw [not_or, Option.not_isSome_iff_eq_none, Option.not_isSome_iff_eq_none] at free
        cases inserted
        refine .created free.1 free.2 id.isLt ?_
        cases heard
        · exact .inr rfl
        · exact .inl rfl
    · cases h
      refine .violated ?_
      cases heard
      · exact .inr rfl
      · exact .inl rfl
  · cases h

theorem moves_compared {users : Users} {call after : Call} {now : Instant}
    (h : compared deps now call = some after) : Moves deps users call after users := by
  unfold compared at h
  split at h
  · split at h
    · rename_i same
      cases h
      exact .accepted now same
    · rename_i other
      cases h
      exact .refused (Bool.eq_false_iff.mpr other)
  · cases h

theorem moves_fails {users : Users} {call after : Call} (h : fails call = some after) :
    Moves deps users call after users := by
  unfold fails at h
  split at h
  · cases h
  · cases h
  · rename_i waits
    cases h
    exact .failedRegister fun result same => waits result (same ▸ rfl)
  · rename_i waits
    cases h
    exact .failedLogin fun result same => waits result (same ▸ rfl)
  · cases h
    exact .failedPromote

namespace State

variable {s s' : State}

theorem goOn_cases {i : Nat} {next : Call → Option (Call × Users)} (h : s.goOn i next = some s')
    (moves : ∀ call after users, next call = some (after, users) →
      Moves deps s.users call after users) : s.Step deps s' := by
  obtain ⟨call, here, h⟩ := Option.bind_eq_some_iff.mp h
  obtain ⟨⟨after, users⟩, went, rfl⟩ := Option.map_eq_some_iff.mp h
  exact .moves here (moves call after users went)

theorem goOnReading_cases {i : Nat} {next : Call → Option Call} (h : s.goOnReading i next = some s')
    (moves : ∀ call after, next call = some after → Moves deps s.users call after s.users) :
    s.Step deps s' := by
  refine goOn_cases h fun call after users went => ?_
  obtain ⟨_, went', same⟩ := Option.map_eq_some_iff.mp went
  cases same
  exact moves _ _ went'

theorem step_cases {e : Event} (h : s.step deps e = some s') : s.Step deps s' := by
  cases e with
  | register body =>
      cases h
      refine .starts ?_
      unfold register
      split
      · exact .invalidRegister ‹_›
      · exact .register ‹_›
  | login body =>
      cases h
      refine .starts ?_
      unfold login
      split
      · exact .invalidLogin ‹_›
      · exact .login ‹_›
  | promote email =>
      cases h
      exact .starts .promote
  | found i => exact goOnReading_cases h fun _ _ => moves_found
  | hashed i salt =>
      refine goOnReading_cases h fun call after went => ?_
      unfold hashed at went
      split at went
      · cases went
        exact .hashed salt
      · cases went
  | created i id now heard => exact goOn_cases h fun _ _ _ => moves_created
  | compared i now => exact goOnReading_cases h fun _ _ => moves_compared
  | saved i =>
      refine goOn_cases h fun call after users went => ?_
      unfold saved at went
      split at went
      · cases went
        exact .promoted
      · cases went
  | fails i => exact goOnReading_cases h fun _ _ => moves_fails

end State

end FlightBooking.Identity
