import FlightBooking.Api.Authorized
import FlightBooking.Identity.Kept

/-!
The identity service and the api share a secret and nothing else: what a token carries from
one to the other.

A token that verifies makes a request of the account and role it was signed for
(`sentBy_of_issued`). Where every token that verifies was issued, each change of a booking goes
back to a login with the password of the booking's account (`changes_need_login`).
-/

namespace FlightBooking.Identity

open Relational ReadCommitted

variable {deps : IdentityDeps} {gate : Gate} {request : ApiRequest} {s s' : State} {id : Uuid}

/-! ### What a token carries -/

theorem map_toLower_numeral (width n : Nat) :
    (Numeral.numeral 16 width n).map Char.toLower = Numeral.numeral 16 width n := by
  have digit : ∀ d < 16, (Nat.digitChar d).toLower = Nat.digitChar d := by decide
  calc (Numeral.numeral 16 width n).map Char.toLower = (Numeral.numeral 16 width n).map id := by
        refine List.map_congr_left fun c mem => ?_
        obtain ⟨d, lt, rfl⟩ := Numeral.mem_numeral (by decide) mem
        exact digit d lt
    _ = Numeral.numeral 16 width n := List.map_id _

theorem map_toLower_uuidText : (uuidText id).map Char.toLower = uuidText id := by
  have hyphen : Char.toLower '-' = '-' := by decide
  simp only [uuidText, List.map_append, List.map_cons, map_toLower_numeral, hyphen]

theorem parseUuid_uuidText (fits : id < 2 ^ 128) : parseUuid (uuidText id) = some id := by
  rw [parseUuid, map_toLower_uuidText, readUuid_uuidText fits]

def roleText : Role → List Char
  | .user => "user".toList
  | .admin => "admin".toList

/-- The verified payload has what was signed, next to whatever `jsonwebtoken` adds. -/
structure TokenPayload.In (payload : TokenPayload) (decoded : Json.Value) : Prop where
  sub : decoded.get? "sub".toList = some (.string payload.sub)
  email : decoded.get? "email".toList = some (.string payload.email)
  role : decoded.get? "role".toList = some (.string (roleText payload.role))

theorem tokenPayload?_eq {payload : TokenPayload} {decoded : Json.Value}
    (carried : payload.In decoded) (some : payload.sub ≠ [] ∧ payload.email ≠ []) :
    tokenPayload? decoded = .some ⟨payload.sub, payload.email, payload.role⟩ := by
  have role : role? (roleText payload.role) = .some payload.role := by
    cases payload.role <;> decide
  unfold tokenPayload?
  rw [carried.sub, carried.email, carried.role]
  simp [some, role]

/-- Whoever a verified token describes, its payload did. -/
theorem TokenPayload.In.user {payload : TokenPayload} {decoded : Json.Value}
    {user : AuthenticatedUser} (carried : payload.In decoded)
    (read : tokenPayload? decoded = some user) :
    user.userId = payload.sub ∧ user.role = payload.role := by
  have role : role? (roleText payload.role) = some payload.role := by
    cases payload.role <;> decide
  unfold tokenPayload? at read
  rw [carried.sub, carried.email, carried.role] at read
  dsimp only at read
  split at read
  · cases read
  · rw [role] at read
    cases read
    exact ⟨rfl, rfl⟩

theorem trim_eq_self {text : List Char} (printed : ∀ c ∈ text, Text.isWhiteSpace c = false) :
    Text.trim text = text := by
  have whole : ∀ l : List Char, (∀ c ∈ l, Text.isWhiteSpace c = false) →
      l.dropWhile Text.isWhiteSpace = l := by
    intro l printed
    cases l with
    | nil => rfl
    | cons c rest => exact List.dropWhile_cons_of_neg (by simp [printed c])
  have back : ∀ c ∈ text.reverse, Text.isWhiteSpace c = false := by
    intro c mem
    exact printed c (List.mem_reverse.mp mem)
  rw [Text.trim, whole text printed, whole _ back, List.reverse_reverse]

theorem extractBearerToken_token {token : List Char} (some : token ≠ [])
    (printed : ∀ c ∈ token, Text.isWhiteSpace c = false) :
    extractBearerToken (.some ("Bearer ".toList ++ token)) = .some token := by
  have front : "Bearer ".toList.isPrefixOf ("Bearer ".toList ++ token) = true :=
    List.isPrefixOf_iff_prefix.mpr (List.prefix_append _ _)
  have rest : ("Bearer ".toList ++ token).drop "Bearer ".length = token := List.drop_left
  rw [extractBearerToken]
  simp only [front, rest, trim_eq_self printed, if_true, if_neg some]

/-- A request with a token that verifies is the account's it was signed for. -/
theorem sentBy_of_issued {payload : TokenPayload} {now : Instant} {decoded : Json.Value}
    (own : payload.sub = uuidText id) (fits : id < 2 ^ 128) (email : payload.email ≠ [])
    (header : request.authorization = some ("Bearer ".toList ++ deps.sign payload now))
    (verified : gate.verify (deps.sign payload now) = .ok decoded) (carried : payload.In decoded) :
    request.SentBy gate payload.role id := by
  have parsed : parseUuid payload.sub = some id := own ▸ parseUuid_uuidText fits
  have sub : payload.sub ≠ [] := by
    intro none
    rw [none] at parsed
    cases parsed
  refine ⟨⟨payload.sub, payload.email, payload.role⟩, ?_, rfl, parsed⟩
  rw [verifyJwt, header, extractBearerToken_token (deps.sign_ne_nil payload now)
    (deps.sign_printed payload now)]
  dsimp only
  rw [verified]
  dsimp only
  rw [tokenPayload?_eq carried ⟨sub, email⟩]

/-- Whoever was answered `created` can log in from then on, with any spelling of the email that
is normalized to the same: the answer is a token that the api takes, while it verifies, for one
of this account. -/
theorem registered_logs_in (h : s.Reachable deps) {body : Json.Value} {email : List Char}
    {t : Instant} (registered : .register body (.answered (.created id email t)) ∈ s.calls)
    (later : s.Reaches deps s') {j : Nat} (le : s.calls.length ≤ j) {body' : Json.Value}
    (same : validateLoginInput deps.toLowerCase body' =
      validateRegisterInput deps.toLowerCase body) {result : LoginResult}
    (answered : s'.calls[j]? = some (.login body' (.answered result))) :
    ∃ (role : Role) (token : IssuedToken) (now : Instant), result = .authenticated token ∧
      token.accessToken = deps.sign ⟨uuidText id, email, role⟩ now ∧
      ∀ (gate : Gate) (request : ApiRequest) (decoded : Json.Value),
        request.authorization = some ("Bearer ".toList ++ token.accessToken) →
        gate.verify token.accessToken = .ok decoded →
        TokenPayload.In ⟨uuidText id, email, role⟩ decoded → request.SentBy gate role id := by
  obtain ⟨fits, some, role, now, rfl⟩ :=
    token_of_registered h.kept registered later le same answered
  refine ⟨role, _, now, rfl, rfl, ?_⟩
  intro gate request decoded header verified carried
  exact sentBy_of_issued rfl fits some header verified carried

/-! ### Who changes a booking -/

/-- The account was logged in to, with a password that its hash accepts. -/
def LoggedIn (deps : IdentityDeps) (s : State) (account : Uuid) (role : Role) : Prop :=
  ∃ (body : Json.Value) (token : IssuedToken) (input : Credentials), ∃ u ∈ s.users,
    .login body (.answered (.authenticated token)) ∈ s.calls ∧
    validateLoginInput deps.toLowerCase body = .ok input ∧ u.id = account ∧
    u.email = input.email ∧ deps.hasher.compare input.password u.passwordHash = true ∧
    (role = .admin → ∃ call ∈ s.calls, call.Promotes u.email)

/-- The api trusts the tokens of the identity service only: one that verifies was issued, and
carries what was signed. -/
structure Trusts (gate : Gate) (deps : IdentityDeps) (s : State) : Prop where
  issued : ∀ token decoded, gate.verify token = .ok decoded → ∃ body issued,
    .login body (.answered (.authenticated issued)) ∈ s.calls ∧ issued.accessToken = token
  carried : ∀ payload now decoded, gate.verify (deps.sign payload now) = .ok decoded →
    payload.In decoded

/-- Behind a request that the api lets through is a login to its account. -/
theorem loggedIn_of_sentBy (kept : Kept deps s) (trusts : Trusts gate deps s) {role : Role}
    {account : Uuid} (sent : request.SentBy gate role account) :
    LoggedIn deps s account role := by
  obtain ⟨user, verified, rfl, parsed⟩ := sent
  unfold verifyJwt at verified
  split at verified
  · cases verified
  · rename_i token extracted
    split at verified
    · cases verified
    · cases verified
    · rename_i decoded verifies
      split at verified
      · cases verified
      · rename_i user' read
        cases verified
        obtain ⟨body, issued, mem, rfl⟩ := trusts.issued token decoded verifies
        obtain ⟨input, u, memU, user₀, t, valid, same, accepted, continues, rfl, promoted⟩ :=
          kept.authenticated mem
        obtain ⟨own, role⟩ := (trusts.carried _ _ _ verifies).user read
        have fits : user₀.id < 2 ^ 128 := continues.id ▸ kept.fits u memU
        have account : u.id = account := by
          rw [own, parseUuid_uuidText fits] at parsed
          exact continues.id.trans (Option.some.inj parsed)
        exact ⟨body, _, input, u, memU, mem, valid, account, same, accepted,
          fun is => promoted (role.symm.trans is)⟩

section Service

variable {airports : Table Airport} {clock : Instant} {steady idempotent : Bool}
  {invocations : Nat → Invocation} {p : Pool app UseCaseResult}

/-- The two services together: where the api takes only tokens that the identity service
issued, every commit that changes a booking, its passengers, seats or payments is a job's, or
somebody has logged in to the booking's account with its password; and every commit that
changes flights, aircraft or fares has a login to a promoted account behind it. -/
theorem changes_need_login (accounts : s.Reachable deps) (trusts : Trusts gate deps s)
    (h : (service airports clock steady idempotent invocations).Reachable p)
    (routed : Routed gate invocations) {n : Nat} (lt : n < p.world.commits.length) :
    (∀ id, (p.world.state n).SameBooking id (p.world.state (n + 1)) ∨
      (invocations p.world.commits[n].thread).IsJob ∨
      ∃ b, (p.world.state (n + 1)).bookings.find? id = some b ∧
        LoggedIn deps s b.ownerAccountId .user) ∧
    ((p.world.state (n + 1)).flights = (p.world.state n).flights ∧
      (p.world.state (n + 1)).aircraft = (p.world.state n).aircraft ∧
      (p.world.state (n + 1)).fares = (p.world.state n).fares ∨
      ∃ account, LoggedIn deps s account .admin) := by
  constructor
  · intro id
    rcases booking_changed_by_owner h routed lt id with same | job | ⟨request, -, b, -, found, sent⟩
    · exact .inl same
    · exact .inr (.inl job)
    · exact .inr (.inr ⟨b, found, loggedIn_of_sentBy accounts.kept trusts sent⟩)
  · rcases flights_changed_by_admin h routed lt with same | ⟨request, -, account, -, sent⟩
    · exact .inl same
    · exact .inr ⟨account, loggedIn_of_sentBy accounts.kept trusts sent⟩

end Service

/-! The registrations of before, with tokens for the requests of before. -/

/-- What a registration read and answered. -/
def Call.account? (deps : IdentityDeps) : Call → Option (Credentials × RegisterResult)
  | .register body (.answered result) =>
      (validateRegisterInput deps.toLowerCase body).toOption.map fun input => (input, result)
  | _ => none

/-- What a login read and answered. -/
def Call.session? (deps : IdentityDeps) : Call → Option (Credentials × LoginResult)
  | .login body (.answered result) =>
      (validateLoginInput deps.toLowerCase body).toOption.map fun input => (input, result)
  | _ => none

theorem toOption_eq_some {ε α : Type} {x : Except ε α} {a : α} (h : x.toOption = some a) :
    x = .ok a := by
  cases x with
  | error e => cases h
  | ok b =>
      cases h
      rfl

theorem Call.account?_eq_some {call : Call} {input : Credentials} {result : RegisterResult}
    (h : call.account? deps = some (input, result)) : ∃ body, call = .register body (.answered result) ∧
      validateRegisterInput deps.toLowerCase body = .ok input := by
  unfold Call.account? at h
  split at h
  · obtain ⟨input', valid, same⟩ := Option.map_eq_some_iff.mp h
    cases same
    exact ⟨_, rfl, toOption_eq_some valid⟩
  · cases h

theorem Call.session?_eq_some {call : Call} {input : Credentials} {result : LoginResult}
    (h : call.session? deps = some (input, result)) : ∃ body, call = .login body (.answered result) ∧
      validateLoginInput deps.toLowerCase body = .ok input := by
  unfold Call.session? at h
  split at h
  · obtain ⟨input', valid, same⟩ := Option.map_eq_some_iff.mp h
    cases same
    exact ⟨_, rfl, toOption_eq_some valid⟩
  · cases h

def anToken : IssuedToken :=
  sampleDeps.issue ⟨7, "an@b.vn".toList, [], .user, 0⟩ 200

/-- Registered before the other registration of the email was refused, logged in after. -/
theorem registered_logs_in_sample : ∃ s s', State.run sampleDeps (sampleEvents.take 9) {} = some s ∧
    State.run sampleDeps (sampleEvents.drop 9) s = some s' ∧
    ∃ body, .register body (.answered (.created 7 "an@b.vn".toList 100)) ∈ s.calls ∧
    ∃ body', s'.calls[4]? = some (.login body' (.answered (.authenticated anToken))) ∧
    ∃ (role : Role) (token : IssuedToken) (now : Instant),
      LoginResult.authenticated anToken = .authenticated token ∧
      token.accessToken = sampleDeps.sign ⟨uuidText 7, "an@b.vn".toList, role⟩ now := by
  have ran : ((State.run sampleDeps (sampleEvents.take 9) {}).bind fun s =>
      (State.run sampleDeps (sampleEvents.drop 9) s).map fun s' =>
        (s.calls.length, (s.calls[0]?).bind (·.account? sampleDeps),
          (s'.calls[4]?).bind (·.session? sampleDeps))) =
      some (3, some (⟨"an@b.vn".toList, "12345678".toList⟩, .created 7 "an@b.vn".toList 100),
        some (⟨"an@b.vn".toList, "12345678".toList⟩, .authenticated anToken)) := by
    decide +kernel
  obtain ⟨s, first, ran⟩ := Option.bind_eq_some_iff.mp ran
  obtain ⟨s', later, parts⟩ := Option.map_eq_some_iff.mp ran
  obtain ⟨three, parts⟩ := Prod.mk.inj parts
  obtain ⟨registered, loggedIn⟩ := Prod.mk.inj parts
  obtain ⟨call, here, account⟩ := Option.bind_eq_some_iff.mp registered
  obtain ⟨body, rfl, valid⟩ := Call.account?_eq_some account
  obtain ⟨call', there, session⟩ := Option.bind_eq_some_iff.mp loggedIn
  obtain ⟨body', rfl, valid'⟩ := Call.session?_eq_some session
  have mem := List.mem_of_getElem? here
  obtain ⟨role, token, now, same, signed, -⟩ := registered_logs_in
    (State.reaches_of_run sampleDeps first) mem (State.reaches_of_run sampleDeps later)
    (j := 4) (by omega) (valid'.trans valid.symm) there
  exact ⟨s, s', first, later, body, mem, body', there, role, token, now, same, signed⟩

theorem sampleEncode_injective : Function.Injective sampleEncode := by
  intro a
  induction a with
  | nil =>
      intro b same
      cases b with
      | nil => rfl
      | cons c rest =>
          have length := congrArg List.length same
          simp [sampleEncode] at length
          omega
  | cons c rest ih =>
      intro b same
      cases b with
      | nil => exact absurd (congrArg List.length same) (by simp [sampleEncode])
      | cons c' rest' =>
          obtain ⟨first, others⟩ := List.append_inj same (by simp)
          have fits : ∀ c : Char, c.toNat < 16 ^ 6 := by
            intro c
            have valid : c.toNat < 0xd800 ∨ 0xdfff < c.toNat ∧ c.toNat < 0x110000 := c.valid
            omega
          have one := congrArg (Numeral.read 16) first
          rw [Numeral.read_numeral (by decide) (fits c),
            Numeral.read_numeral (by decide) (fits c')] at one
          rw [Char.toNat_inj.mp (Option.some.inj one), ih others]

theorem sampleSign_injective {a b : TokenPayload} {t t' : Instant}
    (same : sampleDeps.sign a t = sampleDeps.sign b t') : a = b := by
  have split : ∀ text rest, cut '.' (sampleEncode text ++ '.' :: rest) =
      some (sampleEncode text, rest) := by
    intro text rest
    exact cut_eq_some.mpr ⟨rfl, fun mem => (printed_sampleEncode text '.' mem).2 rfl⟩
  have first := congrArg (cut '.') same
  simp only [sampleDeps, split, Option.some.injEq, Prod.mk.injEq] at first
  have second := congrArg (cut '.') first.2
  simp only [split, Option.some.injEq, Prod.mk.injEq, List.cons.injEq, and_true] at second
  obtain ⟨sub, email, role⟩ := a
  obtain ⟨sub', email', role'⟩ := b
  obtain rfl : sub = sub' := sampleEncode_injective first.1
  obtain rfl : email = email' := sampleEncode_injective second.1
  have roles := second.2
  cases role <;> cases role' <;> first | rfl | cases roles

def TokenPayload.json (payload : TokenPayload) : Json.Value :=
  .object [("sub".toList, .string payload.sub), ("email".toList, .string payload.email),
    ("role".toList, .string (roleText payload.role))]

def rootToken : IssuedToken :=
  sampleDeps.issue ⟨1, "root@b.vn".toList, [], .admin, 0⟩ 300

/-- Takes the two tokens. -/
def loginGate : Gate where
  verify token :=
    if token = anToken.accessToken then .ok (TokenPayload.json ⟨uuidText 7, "an@b.vn".toList, .user⟩)
    else if token = rootToken.accessToken then
      .ok (TokenPayload.json ⟨uuidText 1, "root@b.vn".toList, .admin⟩)
    else .error .invalid
  cases := asciiCases
  sha256 data := data
  reconcileAfterMs := 40000

def loginEvents : List Event :=
  sampleEvents ++ [.login (sampleCredentials "root@b.vn" "correct horse"), .found 5, .compared 5 300]

/-- The sample requests, with the tokens of the logins. -/
def loginRequests (t : Nat) : ApiRequest :=
  { sampleRequests t with
    authorization := some ("Bearer ".toList ++
      if t < 3 then rootToken.accessToken else anToken.accessToken) }

theorem in_json (payload : TokenPayload) : payload.In payload.json where
  sub := rfl
  email := rfl
  role := rfl

theorem changes_need_login_sample : ∃ s p, State.run sampleDeps loginEvents {} = some s ∧
    Pool.run sampleMoves (service sampleAirports 0 false false
      (served loginGate loginRequests sampleDraws)) = some p ∧
    p.world.commits.map (·.thread) = [0, 1, 1, 1, 1, 2, 2, 3] ∧
    ∃ lt : 7 < p.world.commits.length, ∀ id, (p.world.state 7).SameBooking id (p.world.state 8) ∨
      (served loginGate loginRequests sampleDraws p.world.commits[7].thread).IsJob ∨
      ∃ b, (p.world.state 8).bookings.find? id = some b ∧
        LoggedIn sampleDeps s b.ownerAccountId .user := by
  have logins : (State.run sampleDeps loginEvents {}).map (fun s =>
      ((s.calls[4]?).bind (·.session? sampleDeps), (s.calls[5]?).bind (·.session? sampleDeps))) =
      some (some (⟨"an@b.vn".toList, "12345678".toList⟩, .authenticated anToken),
        some (⟨"root@b.vn".toList, "correct horse".toList⟩, .authenticated rootToken)) := by
    decide +kernel
  obtain ⟨s, events, sessions⟩ := Option.map_eq_some_iff.mp logins
  obtain ⟨an, root⟩ := Prod.mk.inj sessions
  obtain ⟨call, here, an⟩ := Option.bind_eq_some_iff.mp an
  obtain ⟨body, rfl, -⟩ := Call.session?_eq_some an
  obtain ⟨call', here', root⟩ := Option.bind_eq_some_iff.mp root
  obtain ⟨body', rfl, -⟩ := Call.session?_eq_some root
  have trusts : Trusts loginGate sampleDeps s := by
    constructor
    · intro token decoded verified
      simp only [loginGate] at verified
      split at verified
      · rename_i same
        exact ⟨body, anToken, List.mem_of_getElem? here, same.symm⟩
      · split at verified
        · rename_i same
          exact ⟨body', rootToken, List.mem_of_getElem? here', same.symm⟩
        · cases verified
    · intro payload now decoded verified
      simp only [loginGate] at verified
      split at verified
      · rename_i same
        cases verified
        obtain rfl := @sampleSign_injective _ _ now 200 same
        exact in_json _
      · split at verified
        · rename_i same
          cases verified
          obtain rfl := @sampleSign_injective _ _ now 300 same
          exact in_json _
        · cases verified
  have ran : (Pool.run sampleMoves (service sampleAirports 0 false false
      (served loginGate loginRequests sampleDraws))).map (fun p => p.world.commits.map (·.thread)) =
      some [0, 1, 1, 1, 1, 2, 2, 3] := by decide +kernel
  obtain ⟨p, ran, threads⟩ := Option.map_eq_some_iff.mp ran
  have lt : 7 < p.world.commits.length := by
    have eight : p.world.commits.length = 8 := by simpa using congrArg List.length threads
    omega
  exact ⟨s, p, events, ran, threads, lt, (changes_need_login
    (State.reaches_of_run sampleDeps events) trusts (Pool.run_reachable ran)
    (served_routed _ _ _) lt).1⟩

end FlightBooking.Identity
