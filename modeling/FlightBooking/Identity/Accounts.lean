import FlightBooking.Api.Routes
import FlightBooking.Library.Table

/-!
The accounts of the identity service: what a registration and a login must look like, and what
is stored.

bcrypt, `toLowerCase` and the signing of tokens are parameters (`IdentityDeps`).
-/

namespace FlightBooking.Identity

open Relational

/-! ### Bodies -/

/-- What stands before and after the first `sign`. -/
def cut (sign : Char) : List Char → Option (List Char × List Char)
  | [] => none
  | c :: rest => if c = sign then some ([], rest) else (cut sign rest).map fun p => (c :: p.1, p.2)

theorem cut_eq_some {sign : Char} {text before after : List Char} :
    cut sign text = some (before, after) ↔ text = before ++ sign :: after ∧ sign ∉ before := by
  induction text generalizing before with
  | nil => simp [cut]
  | cons c rest ih =>
      rw [cut]
      split
      · rename_i here
        constructor
        · intro same
          cases same
          exact ⟨by rw [here, List.nil_append], List.not_mem_nil⟩
        · rintro ⟨same, none⟩
          cases before with
          | nil =>
              cases same
              rfl
          | cons c' before =>
              cases same
              exact absurd (here ▸ List.mem_cons_self) none
      · rename_i other
        rw [Option.map_eq_some_iff]
        constructor
        · rintro ⟨⟨before', after'⟩, found, same⟩
          cases same
          obtain ⟨rfl, none⟩ := ih.mp found
          exact ⟨rfl, by simp [Ne.symm other, none]⟩
        · rintro ⟨same, none⟩
          cases before with
          | nil =>
              cases same
              exact absurd rfl other
          | cons c' before =>
              cases same
              refine ⟨(before, after), ih.mpr ⟨rfl, fun mem => ?_⟩, rfl⟩
              exact none (List.mem_cons_of_mem _ mem)

/-- A sign inside: with something on either side. -/
theorem mem_inside {sign : Char} {text : List Char} : sign ∈ text.tail.dropLast ↔
    ∃ left right, text = left ++ sign :: right ∧ left ≠ [] ∧ right ≠ [] := by
  constructor
  · intro mem
    cases text with
    | nil => cases mem
    | cons c rest =>
        obtain ⟨left, right, parts⟩ := List.append_of_mem mem
        have some : rest ≠ [] := by
          rintro rfl
          cases mem
        refine ⟨c :: left, right ++ [rest.getLast some], ?_, by simp, by simp⟩
        calc c :: rest = c :: (rest.dropLast ++ [rest.getLast some]) := by
              rw [List.dropLast_append_getLast some]
          _ = c :: (left ++ sign :: right ++ [rest.getLast some]) := by
              rw [show rest.dropLast = left ++ sign :: right from parts]
          _ = c :: left ++ sign :: (right ++ [rest.getLast some]) := by simp
  · rintro ⟨left, right, rfl, someLeft, someRight⟩
    cases left with
    | nil => exact absurd rfl someLeft
    | cons c left => simp [List.dropLast_append_of_ne_nil, List.dropLast_cons_of_ne_nil, someRight]

/-- `EMAIL_PATTERN`. -/
def isEmail (text : List Char) : Bool :=
  match cut '@' text with
  | some (user, domain) =>
      user ≠ [] && text.all (fun c => !Text.isWhiteSpace c) && !domain.contains '@' &&
        domain.tail.dropLast.contains '.'
  | none => false

/-- The pattern asks for a dot with something on either side, after the only `@`. -/
theorem isEmail_iff {text : List Char} : isEmail text = true ↔ ∃ user left right,
    text = user ++ '@' :: (left ++ '.' :: right) ∧ user ≠ [] ∧ left ≠ [] ∧ right ≠ [] ∧
      ∀ c ∈ user ++ left ++ right, Text.isWhiteSpace c = false ∧ c ≠ '@' := by
  constructor
  · intro is
    unfold isEmail at is
    split at is
    · rename_i user domain parts
      obtain ⟨rfl, none⟩ := cut_eq_some.mp parts
      simp only [Bool.and_eq_true, decide_eq_true_eq, Bool.not_eq_true', List.all_eq_true,
        List.contains_eq_mem, decide_eq_false_iff_not] at is
      obtain ⟨⟨⟨some, printed⟩, single⟩, dot⟩ := is
      obtain ⟨left, right, rfl, someLeft, someRight⟩ := mem_inside.mp dot
      refine ⟨user, left, right, rfl, some, someLeft, someRight, fun c mem => ?_⟩
      have inText : c ∈ user ++ '@' :: (left ++ '.' :: right) := by
        simp only [List.mem_append, List.mem_cons] at mem ⊢
        tauto
      refine ⟨printed c inText, ?_⟩
      rintro rfl
      simp only [List.mem_append, List.mem_cons] at mem single
      tauto
    · cases is
  · rintro ⟨user, left, right, rfl, some, someLeft, someRight, printed⟩
    have apart : '@' ∉ user := by
      intro mem
      exact (printed '@' (by simp [mem])).2 rfl
    unfold isEmail
    rw [cut_eq_some.mpr ⟨rfl, apart⟩]
    have white : Text.isWhiteSpace '@' = false ∧ Text.isWhiteSpace '.' = false := by decide
    simp only [Bool.and_eq_true, decide_eq_true_eq, Bool.not_eq_true', List.all_eq_true,
      List.contains_eq_mem, decide_eq_false_iff_not]
    refine ⟨⟨⟨some, fun c mem => ?_⟩, fun mem => ?_⟩, ?_⟩
    · simp only [List.mem_append, List.mem_cons] at mem
      rcases mem with mem | rfl | mem | rfl | mem
      · exact (printed c (by simp [mem])).1
      · exact white.1
      · exact (printed c (by simp [mem])).1
      · exact white.2
      · exact (printed c (by simp [mem])).1
    · simp only [List.mem_append, List.mem_cons] at mem
      rcases mem with mem | same | mem
      · exact (printed '@' (by simp [mem])).2 rfl
      · cases same
      · exact (printed '@' (by simp [mem])).2 rfl
    · exact mem_inside.mpr ⟨left, right, rfl, someLeft, someRight⟩

structure Credentials where
  email : List Char
  password : List Char
  deriving DecidableEq, Repr

def MIN_PASSWORD_LENGTH : Nat := 8

def emailIssues : Option Json.Value → List ValidationIssue
  | some (.string email) =>
      if Text.trim email = [] then [⟨"email", "REQUIRED", "email must be a non-empty string"⟩]
      else if isEmail (Text.trim email) then []
      else [⟨"email", "INVALID_FORMAT", "email must be a valid email address"⟩]
  | _ => [⟨"email", "REQUIRED", "email must be a non-empty string"⟩]

/-- What registering asks of a password. -/
def newPasswordIssues : Option Json.Value → List ValidationIssue
  | some (.string password) =>
      if Text.utf16Length password < MIN_PASSWORD_LENGTH then
        [⟨"password", "TOO_SHORT", "password must be at least 8 characters"⟩]
      else []
  | _ => [⟨"password", "REQUIRED", "password must be a string"⟩]

/-- What logging in asks of one. -/
def givenPasswordIssues : Option Json.Value → List ValidationIssue
  | some (.string (_ :: _)) => []
  | _ => [⟨"password", "REQUIRED", "password must be a non-empty string"⟩]

/-- The two validators differ in what they ask of the password. -/
def validateCredentials (toLowerCase : List Char → List Char)
    (passwordIssues : Option Json.Value → List ValidationIssue) (input : Json.Value) :
    Except (List ValidationIssue) Credentials :=
  match input with
  | .object _ =>
      let email := input.get? "email".toList
      let password := input.get? "password".toList
      match emailIssues email ++ passwordIssues password, email, password with
      | [], some (.string email), some (.string password) =>
          .ok ⟨toLowerCase (Text.trim email), password⟩
      | issues, _, _ => .error issues
  | _ => .error [invalidBody]

def validateRegisterInput (toLowerCase : List Char → List Char) (input : Json.Value) :
    Except (List ValidationIssue) Credentials :=
  validateCredentials toLowerCase newPasswordIssues input

def validateLoginInput (toLowerCase : List Char → List Char) (input : Json.Value) :
    Except (List ValidationIssue) Credentials :=
  validateCredentials toLowerCase givenPasswordIssues input

section Validators

variable {toLowerCase : List Char → List Char} {input : Json.Value} {credentials : Credentials}

theorem emailIssues_eq_nil {raw : Option Json.Value} : emailIssues raw = [] ↔
    ∃ email, raw = some (.string email) ∧ isEmail (Text.trim email) = true := by
  unfold emailIssues
  split
  · rename_i email
    split
    · rename_i blank
      simp [blank, isEmail, cut]
    · simp
  · rename_i other
    simp only [List.cons_ne_nil, false_iff, not_exists, not_and]
    rintro email rfl
    exact absurd rfl (other email)

/-- What is accepted, and what becomes of it. -/
theorem validateCredentials_eq_ok {passwordIssues : Option Json.Value → List ValidationIssue} :
    validateCredentials toLowerCase passwordIssues input = .ok credentials ↔
      ∃ email, input.get? "email".toList = some (.string email) ∧
        input.get? "password".toList = some (.string credentials.password) ∧
        isEmail (Text.trim email) = true ∧
        passwordIssues (some (.string credentials.password)) = [] ∧
        credentials.email = toLowerCase (Text.trim email) := by
  unfold validateCredentials
  split
  · dsimp only
    constructor
    · intro valid
      split at valid
      · rename_i email password none email' password'
        cases valid
        obtain ⟨noEmail, noPassword⟩ := List.append_eq_nil_iff.mp none
        rw [email'] at noEmail
        rw [password'] at noPassword
        obtain ⟨_, same, is⟩ := emailIssues_eq_nil.mp noEmail
        cases same
        exact ⟨email, email', password', is, noPassword, rfl⟩
      · cases valid
    · rintro ⟨email, hasEmail, hasPassword, is, noPassword, same⟩
      rw [hasEmail, hasPassword, emailIssues_eq_nil.mpr ⟨email, rfl, is⟩, noPassword]
      exact congrArg Except.ok (congrArg (Credentials.mk · _) same.symm)
  · rename_i other
    constructor
    · intro valid
      cases valid
    · rintro ⟨email, hasEmail, -⟩
      cases input with
      | object members => exact absurd rfl (other members)
      | _ => cases hasEmail

/-- Whoever registers with a body can log in with it. -/
theorem validateLoginInput_of_register
    (valid : validateRegisterInput toLowerCase input = .ok credentials) :
    validateLoginInput toLowerCase input = .ok credentials := by
  obtain ⟨email, hasEmail, hasPassword, is, long, same⟩ := validateCredentials_eq_ok.mp valid
  refine validateCredentials_eq_ok.mpr ⟨email, hasEmail, hasPassword, is, ?_, same⟩
  unfold newPasswordIssues at long
  cases text : credentials.password with
  | nil =>
      rw [text] at long
      cases long
  | cons => rfl

end Validators

/-! ### Users -/

structure UserRecord where
  id : Uuid
  email : List Char
  passwordHash : List Char
  role : Role
  createdAt : Instant
  deriving DecidableEq, Repr

instance : Keyed UserRecord Uuid := ⟨UserRecord.id⟩

abbrev Users := Table UserRecord

def findByEmail (users : Users) (email : List Char) : Option UserRecord :=
  users.rows.find? fun u => u.email = email

/-- The INSERT of a registration; nothing on a unique violation, of the email or of the id. -/
def createUser (users : Users) (input : Credentials) (passwordHash : List Char) (id : Uuid)
    (now : Instant) : Option (UserRecord × Users) :=
  if (findByEmail users input.email).isSome ∨ (users.find? id).isSome then none
  else
    let user : UserRecord := ⟨id, input.email, passwordHash, .user, now⟩
    some (user, users.put user)

/-- `save` of a user read before: the UPDATE of the role, or the INSERT of a row that is gone. -/
def saveAdmin (users : Users) (user : UserRecord) : Users :=
  users.put { (users.find? user.id).getD user with role := .admin }

/-! ### Passwords and tokens -/

/-- bcrypt: a password is accepted for each of its hashes. -/
structure PasswordHasher where
  hash : List Char → Nat → List Char
  compare : List Char → List Char → Bool
  compare_hash : ∀ password salt, compare password (hash password salt) = true

structure TokenPayload where
  sub : List Char
  email : List Char
  role : Role
  deriving DecidableEq, Repr

structure IssuedToken where
  accessToken : List Char
  expiresIn : List Char
  deriving DecidableEq, Repr

structure IdentityDeps where
  toLowerCase : List Char → List Char
  toLowerCase_ne_nil : ∀ text, text ≠ [] → toLowerCase text ≠ []
  hasher : PasswordHasher
  /-- `jwt.sign` at an instant, which decides when the token expires. -/
  sign : TokenPayload → Instant → List Char
  sign_ne_nil : ∀ payload now, sign payload now ≠ []
  /-- A token is base64url and dots. -/
  sign_printed : ∀ payload now, ∀ c ∈ sign payload now, Text.isWhiteSpace c = false
  expiresIn : List Char

def IdentityDeps.issue (deps : IdentityDeps) (user : UserRecord) (now : Instant) : IssuedToken :=
  ⟨deps.sign ⟨uuidText user.id, user.email, user.role⟩ now, deps.expiresIn⟩

end FlightBooking.Identity
