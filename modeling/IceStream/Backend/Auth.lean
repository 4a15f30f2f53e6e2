import IceStream.Backend.PipelineService
import IceStream.Lib.JsonRoundTrip
import IceStream.Lib.Text

/-!
# Logins and roles

A login answers with a signed token that carries a role and its permissions. The
token is decoded again for every request, and the route's roles are compared with
the role it carries; an administrator passes everywhere.
-/

namespace IceStream.Backend
open Python

inductive UserRole
  | admin
  | operator
  | viewer
  deriving DecidableEq

namespace UserRole

def value : UserRole → Text
  | admin => "admin"
  | operator => "operator"
  | viewer => "viewer"

def all : List UserRole := [admin, operator, viewer]

end UserRole

/-- `ROLE_PERMISSIONS` -/
def rolePermissions : List (Text × List Text) :=
  [(UserRole.admin.value,
      ["pipeline:control", "lakehouse:maintain", "metrics:read", "schema:modify", "admin:all"]),
    (UserRole.operator.value, ["pipeline:control", "lakehouse:maintain", "metrics:read"]),
    (UserRole.viewer.value, ["metrics:read"])]

/-- `ROLE_PERMISSIONS.get(role, [])` -/
def permissionsOf (role : Text) : List Text := (rolePermissions.lookup role).getD []

structure LoginRequest where
  username : Text
  password : Text
  role : Option Text := none

structure TokenResponse where
  accessToken : Text
  tokenType : String := "bearer"
  expiresIn : ℤ
  role : Text
  permissions : List Text

/-- What a decoded token says; only the library that signed it knows the types. -/
structure AuthenticatedUser where
  subject : Json
  role : Json
  permissions : Json
  authMethod : String := "jwt"

inductive JwtError
  | expiredSignature
  | invalidToken
  | other (e : Exc)

/-- The signing library: `encode` takes claims and a key, `decode` the time, a token and a key. -/
structure Jwt where
  encode : Dict → Text → Text
  decode : ℤ → Text → Text → Except JwtError Dict

/-- The configuration of the service. -/
structure AuthEnv where
  unicode : Unicode
  configuredPassword : Text
  jwtSecretKey : Text
  validApiTokens : List Text
  jwt : Jwt

/-- `secrets.compare_digest` of two texts -/
def compareDigest (a b : Text) : Except Exc Bool :=
  if a.all (·.val < 0x80) && b.all (·.val < 0x80) then .ok (a == b)
  else .error (typeError "comparing strings with non-ASCII characters is not supported")

/-- `any(secrets.compare_digest(token, expected) for expected in valid_tokens)` -/
def matchesAny (token : Text) : List Text → Except Exc Bool
  | [] => .ok false
  | expected :: rest => do
    if ← compareDigest token expected then pure true else matchesAny token rest

section

variable (env : AuthEnv)

/-- The claims of a token that is issued now. -/
def jwtClaims (now : ℤ) (subject role : Text) (permissions : Option (List Text))
    (expiresInSeconds : ℤ) : Dict :=
  [("sub", .str subject), ("role", .str role),
    ("permissions", .arr ((permissions.getD (permissionsOf role)).map .str)),
    ("iat", .int now), ("exp", .int (now + expiresInSeconds)), ("iss", .str "icestream")]

def createJwtToken (now : ℤ) (subject role : Text) (permissions : Option (List Text))
    (expiresInSeconds : ℤ) : Text :=
  env.jwt.encode (jwtClaims now subject role permissions expiresInSeconds) env.jwtSecretKey

/-! ## The login -/

/-- The role of the request, where it names one. -/
def requestedRole (req : LoginRequest) : Option Text :=
  req.role.filter fun role => !role.isEmpty && (UserRole.all.map UserRole.value).contains role

def defaultRole (username : Text) : UserRole :=
  if lowerText username = text "admin" ∨ lowerText username = text "root" then .admin
  else if text "operator" <:+: lowerText username then .operator
  else .viewer

def assignedRole (req : LoginRequest) : Text :=
  (requestedRole req).getD (defaultRole req.username).value

def tokenLifetime : ℤ := 3600

def loginForAccessToken (now : ℤ) (req : LoginRequest) : Except Exc TokenResponse := do
  if ← compareDigest req.password env.configuredPassword then
    let role := assignedRole req
    let permissions := permissionsOf role
    pure {
      accessToken := createJwtToken env now req.username role (some permissions) tokenLifetime
      expiresIn := tokenLifetime
      role := role
      permissions := permissions }
  else .error (httpException 401 "Incorrect username or password")

/-! ## The user of a token -/

/-- `ROLE_PERMISSIONS.get(role, [])` on whatever the token has for a role -/
def permissionsOfClaim : Json → Except Exc (List Text)
  | .str role => .ok (permissionsOf role)
  | .arr _ => .error (typeError "unhashable type: 'list'")
  | .obj _ => .error (typeError "unhashable type: 'dict'")
  | _ => .ok []

def userOfClaims (claims : Dict) : Except Exc AuthenticatedUser := do
  let role := claims.getD (text "role") (.str UserRole.viewer.value)
  let rolesOwn ← permissionsOfClaim role
  pure {
    subject := claims.getD (text "sub") (.str "unknown")
    role := role
    permissions := claims.getD (text "permissions") (.arr (rolesOwn.map .str)) }

/-- The token is compared with the service's own tokens. -/
def serviceUser (token : Text) : Except Exc AuthenticatedUser := do
  if env.validApiTokens.isEmpty then
    .error (httpException 500 "Server Security Configuration Error: ICESTREAM_API_TOKEN environment variable is not configured.")
  else if ← matchesAny token env.validApiTokens then
    pure {
      subject := .str "service_token"
      role := .str UserRole.operator.value
      permissions := .arr ((permissionsOf UserRole.operator.value).map .str)
      authMethod := "api_token" }
  else .error (httpException 401 "Unauthorized: Invalid API token or JWT.")

def getCurrentUser (now : ℤ) (credentials : Option Text) : Except Exc AuthenticatedUser :=
  match credentials.filter (· ≠ []) with
  | none =>
    .error (httpException 401 "Unauthorized: Missing Authorization header or Bearer token.")
  | some credentials =>
    let providedToken := strip credentials
    if providedToken.isEmpty then .error (httpException 401 "Unauthorized: Token cannot be empty.")
    else match env.jwt.decode now providedToken env.jwtSecretKey with
      | .ok claims => userOfClaims claims
      | .error .expiredSignature => .error (httpException 401 "Unauthorized: Token has expired.")
      | .error .invalidToken => serviceUser env providedToken
      | .error (.other e) => .error e

/-! ## Roles and permissions -/

namespace AuthenticatedUser

/-- `has_role` with a set of roles -/
def hasRole (user : AuthenticatedUser) (requiredRoles : List Text) : Except Exc Bool :=
  match user.role with
  | .str role => .ok (role == UserRole.admin.value || requiredRoles.contains role)
  | .arr _ => .error (typeError "unhashable type: 'list'")
  | .obj _ => .error (typeError "unhashable type: 'dict'")
  | _ => .ok false

/-- `permission in permissions` -/
def inPermissions (permission : Text) : Json → Except Exc Bool
  | .arr xs => .ok (xs.any fun
    | .str p => p == permission
    | _ => false)
  | .str s => .ok (decide (permission <:+: s))
  | .obj kvs => .ok (Dict.has kvs permission)
  | v => .error (typeError (text s!"argument of type '{v.typeName}' is not iterable"))

def isAdmin (user : AuthenticatedUser) : Bool :=
  match user.role with
  | .str role => role == UserRole.admin.value
  | _ => false

def hasPermission (user : AuthenticatedUser) (permission : Text) : Except Exc Bool := do
  if user.isAdmin then pure true
  else if ← inPermissions "admin:all" user.permissions then pure true
  else inPermissions permission user.permissions

end AuthenticatedUser

/-- `sorted(list(roles_set))`, as it is shown -/
def shownRoles (roles : List Text) : Text :=
  (Json.arr ((roles.dedup.insertionSort (· ≤ ·)).map .str)).repr env.unicode

/-- The dependency that `require_role(allowed_roles)` makes. -/
def requireRole (allowedRoles : List Text) (user : AuthenticatedUser) :
    Except Exc AuthenticatedUser := do
  if ← user.hasRole allowedRoles then pure user
  else .error (httpException 403
    (text "Forbidden: Insufficient privileges. Required role in " ++ shownRoles env allowedRoles))

/-- The dependency that `require_permission(required_permission)` makes. -/
def requirePermission (requiredPermission : Text) (user : AuthenticatedUser) :
    Except Exc AuthenticatedUser := do
  if ← user.hasPermission requiredPermission then pure user
  else .error (httpException 403
    (text "Forbidden: Insufficient privileges. Required permission: '" ++ requiredPermission ++
      text "'"))

end

/-! ## Who chooses the role -/

/-- At `now`, the library gives back the claims it encoded, and there is no space around
their token. -/
structure Jwt.Returns (jwt : Jwt) (key : Text) (claims : Dict) (now : ℤ) : Prop where
  nonempty : jwt.encode claims key ≠ []
  stripped : strip (jwt.encode claims key) = jwt.encode claims key
  decoded : jwt.decode now (jwt.encode claims key) key = .ok claims

section

variable {env : AuthEnv} {now : ℤ} {req : LoginRequest} {response : TokenResponse}

/-- The answer to a login whose password is right. -/
def issued (env : AuthEnv) (now : ℤ) (req : LoginRequest) : TokenResponse where
  accessToken := createJwtToken env now req.username (assignedRole req)
    (some (permissionsOf (assignedRole req))) tokenLifetime
  expiresIn := tokenLifetime
  role := assignedRole req
  permissions := permissionsOf (assignedRole req)

theorem login_eq : loginForAccessToken env now req =
    (compareDigest req.password env.configuredPassword).bind fun valid =>
      if valid then .ok (issued env now req)
      else .error (httpException 401 "Incorrect username or password") := rfl

theorem eq_issued (h : loginForAccessToken env now req = .ok response) :
    response = issued env now req := by
  rw [login_eq] at h
  cases hdigest : compareDigest req.password env.configuredPassword with
  | error e =>
    rw [hdigest] at h
    cases h
  | ok valid =>
    rw [hdigest] at h
    cases valid with
    | true => exact (Except.ok.inj h).symm
    | false => cases h

theorem assignedRole_of_requestedRole {role : Option Text}
    (h : requestedRole req = requestedRole { req with role := role }) :
    assignedRole req = assignedRole { req with role := role } := by
  rw [assignedRole, h]
  rfl

/-- The role field counts only by the role that it names. -/
theorem login_of_requestedRole {role : Option Text}
    (h : requestedRole req = requestedRole { req with role := role }) :
    loginForAccessToken env now req = loginForAccessToken env now { req with role := role } := by
  have hissued : issued env now req = issued env now { req with role := role } := by
    rw [issued, issued, assignedRole_of_requestedRole h]
  rw [login_eq, login_eq, hissued]

/-- The user of an issued token. -/
def issuedUser (req : LoginRequest) : AuthenticatedUser where
  subject := .str req.username
  role := .str (assignedRole req)
  permissions := .arr ((permissionsOf (assignedRole req)).map .str)

theorem userOfClaims_jwtClaims (subject role : Text) (permissions : List Text) (lifetime : ℤ) :
    userOfClaims (jwtClaims now subject role (some permissions) lifetime) =
      .ok ⟨.str subject, .str role, .arr (permissions.map .str), "jwt"⟩ := rfl

theorem getCurrentUser_issued {later : ℤ}
    (h : env.jwt.Returns env.jwtSecretKey (jwtClaims now req.username (assignedRole req)
      (some (permissionsOf (assignedRole req))) tokenLifetime) later) :
    getCurrentUser env later (some (issued env now req).accessToken) = .ok (issuedUser req) := by
  set claims := jwtClaims now req.username (assignedRole req)
    (some (permissionsOf (assignedRole req))) tokenLifetime with hclaims
  have htoken : (issued env now req).accessToken = env.jwt.encode claims env.jwtSecretKey := rfl
  have hpresent : (some (env.jwt.encode claims env.jwtSecretKey)).filter (· ≠ []) =
      some (env.jwt.encode claims env.jwtSecretKey) := by
    simp [h.nonempty]
  have hempty : ¬(env.jwt.encode claims env.jwtSecretKey).isEmpty = true := by
    simp [h.nonempty]
  simp only [getCurrentUser, htoken, hpresent, h.stripped, if_neg hempty, h.decoded]
  rw [hclaims, userOfClaims_jwtClaims]
  rfl

theorem requireRole_eq_ok_iff {user : AuthenticatedUser} {role : Text} (hrole : user.role = .str role)
    (allowed : List Text) :
    requireRole env allowed user = .ok user ↔ role = UserRole.admin.value ∨ role ∈ allowed := by
  have hhas : user.hasRole allowed =
      .ok (role == UserRole.admin.value || allowed.contains role) := by
    rw [AuthenticatedUser.hasRole, hrole]
  have hrequire : requireRole env allowed user =
      if (role == UserRole.admin.value || allowed.contains role) = true then .ok user
      else .error (httpException 403
        (text "Forbidden: Insufficient privileges. Required role in " ++ shownRoles env allowed)) := by
    rw [requireRole, hhas]
    rfl
  rw [hrequire]
  cases hpass : (role == UserRole.admin.value || allowed.contains role) with
  | true => exact iff_of_true rfl (by simpa using hpass)
  | false => exact iff_of_false (fun h => by cases h) (by simpa using hpass)

/-- A role of the request that exists is granted, whoever asks; otherwise the role field
plays no part and the username decides. What is granted is what a route gets to see. -/
theorem login_role :
    (∀ role, requestedRole req = requestedRole { req with role := role } →
      loginForAccessToken env now req = loginForAccessToken env now { req with role := role }) ∧
    (loginForAccessToken env now req = .ok response →
      response.role = assignedRole req ∧ response.permissions = permissionsOf (assignedRole req) ∧
      ∀ later, env.jwt.Returns env.jwtSecretKey
          (jwtClaims now req.username response.role (some response.permissions) tokenLifetime) later →
        ∃ user, getCurrentUser env later (some response.accessToken) = .ok user ∧
          ∀ allowed, requireRole env allowed user = .ok user ↔
            assignedRole req = UserRole.admin.value ∨ assignedRole req ∈ allowed) := by
  refine ⟨fun role h => login_of_requestedRole h, fun h => ?_⟩
  obtain rfl := eq_issued h
  refine ⟨rfl, rfl, fun later hreturns => ?_⟩
  exact ⟨issuedUser req, getCurrentUser_issued hreturns,
    fun allowed => requireRole_eq_ok_iff rfl allowed⟩

end

/-! ### Three logins -/

/-- A library that leaves its tokens unsigned. -/
def plainJwt : Jwt where
  encode claims _ := text ((Json.obj claims).dumps false)
  decode _ token _ := match loads 8 token with
    | .ok (.obj claims) => .ok claims
    | _ => .error .invalidToken

def exampleEnv : AuthEnv where
  unicode := .ascii
  configuredPassword := "icestream_secret_password"
  jwtSecretKey := "key"
  validApiTokens := []
  jwt := plainJwt

def exampleLogin (username : Text) (role : Option Text) : LoginRequest :=
  ⟨username, "icestream_secret_password", role⟩

/-- The role that the description of the login gives a username. -/
def documentedRole (username : Text) : UserRole :=
  if username = text "admin" then .admin
  else if username = text "operator" then .operator
  else .viewer

theorem plainJwt_returns {claims : Dict} (h : Readable 2 (.obj claims))
    (harranged : (Json.obj claims).arranged false = .obj claims) (key : Text) (later : ℤ) :
    plainJwt.Returns key claims later := by
  set members := text (", ".intercalate (claims.map (dumpMember false))) with hset
  have hopening : text "\x7b" = [⟨0x7B, by decide⟩] := rfl
  have hclosing : text "\x7d" = [⟨0x7D, by decide⟩] := rfl
  have hmembers : plainJwt.encode claims key =
      ⟨0x7B, by decide⟩ :: (members ++ [⟨0x7D, by decide⟩]) := by
    change text ((Json.obj claims).dumps false) = _
    rw [dumps_obj, text_append, text_append, hopening, hclosing]
    rfl
  refine ⟨?_, ?_, ?_⟩
  · rw [hmembers]
    exact List.cons_ne_nil _ _
  · rw [hmembers]
    exact strip_of_ends rfl rfl
  · have hloads := loads_dumps h (show 2 ≤ 8 by decide) false
    rw [harranged] at hloads
    simp only [plainJwt, hloads]

/-- The claims of a token for Bob, issued at the start of the epoch. -/
def bobClaims (role : UserRole) : Dict :=
  jwtClaims 0 "bob" role.value (some (permissionsOf role.value)) tokenLifetime

theorem readable_bobClaims (role : UserRole) : Readable 2 (.obj (bobClaims role)) := by
  have hpermissions : Readable 1 (.arr ((permissionsOf role.value).map .str)) := by
    refine .arr fun x hx => ?_
    obtain ⟨p, hp, rfl⟩ := List.mem_map.mp hx
    have hjoined : ∀ p ∈ permissionsOf role.value, Joined p := by cases role <;> decide
    exact .str 0 (hjoined p hp)
  have hrole : Joined role.value := by cases role <;> decide
  have hkeys : (bobClaims role).map Prod.fst =
      [text "sub", text "role", text "permissions", text "iat", text "exp", text "iss"] := rfl
  refine .obj ?_ ?_ ?_
  · rw [hkeys]
    decide
  · intro p hp
    have hmem : p.1 ∈ (bobClaims role).map Prod.fst := List.mem_map_of_mem hp
    have hjoined : ∀ k ∈ [text "sub", text "role", text "permissions", text "iat", text "exp",
        text "iss"], Joined k := by decide
    exact hjoined p.1 (hkeys ▸ hmem)
  · exact List.forall_mem_cons.mpr ⟨.str 1 (by decide), List.forall_mem_cons.mpr ⟨.str 1 hrole,
      List.forall_mem_cons.mpr ⟨hpermissions, List.forall_mem_cons.mpr ⟨.int 1 (by decide),
        List.forall_mem_cons.mpr ⟨.int 1 (by decide),
          List.forall_mem_singleton.mpr (.str 1 (by decide))⟩⟩⟩⟩⟩

theorem bobClaims_returns (role : UserRole) (later : ℤ) :
    plainJwt.Returns "key" (bobClaims role) later := by
  have harranged : (Json.obj (bobClaims role)).arranged false = .obj (bobClaims role) := by
    cases role <;> rfl
  exact plainJwt_returns (readable_bobClaims role) harranged "key" later

theorem exampleLogin_ok (username : Text) (role : Option Text) :
    loginForAccessToken exampleEnv 0 (exampleLogin username role) =
      .ok (issued exampleEnv 0 (exampleLogin username role)) := by
  have hsame : compareDigest (text "icestream_secret_password")
      (text "icestream_secret_password") = .ok true := by decide +kernel
  have hdigest : compareDigest (exampleLogin username role).password
      exampleEnv.configuredPassword = .ok true := hsame
  rw [login_eq, hdigest]
  rfl

/-- A viewer's token passes a viewer's route. -/
theorem viewer_login :
    ∃ response, loginForAccessToken exampleEnv 0 (exampleLogin "bob" none) = .ok response ∧
      ∃ user, getCurrentUser exampleEnv 60 (some response.accessToken) = .ok user ∧
        requireRole exampleEnv ["viewer"] user = .ok user := by
  have hlogin := exampleLogin_ok "bob" none
  obtain ⟨-, -, hissued⟩ := login_role.2 hlogin
  obtain ⟨user, huser, hrequire⟩ := hissued 60 (bobClaims_returns .viewer 60)
  exact ⟨_, hlogin, user, huser, (hrequire _).mpr (.inr (by decide))⟩

/-- Bob is a viewer by the description of the login, and an administrator when he asks to be.
More usernames get the other two roles than the description mentions. -/
theorem role_chosen :
    documentedRole "bob" = .viewer ∧
    (∃ response user, loginForAccessToken exampleEnv 0 (exampleLogin "bob" (some "admin")) =
        .ok response ∧ getCurrentUser exampleEnv 60 (some response.accessToken) = .ok user ∧
        requireRole exampleEnv ["admin"] user = .ok user) ∧
    (∃ response, loginForAccessToken exampleEnv 0 (exampleLogin "bob" none) = .ok response ∧
      response.role = UserRole.viewer.value) ∧
    (∃ response, loginForAccessToken exampleEnv 0 (exampleLogin "root" none) = .ok response ∧
      response.role = UserRole.admin.value ∧ documentedRole "root" = .viewer) ∧
    ∃ response, loginForAccessToken exampleEnv 0 (exampleLogin "operator_lead" none) =
        .ok response ∧ response.role = UserRole.operator.value ∧
      documentedRole "operator_lead" = .viewer := by
  refine ⟨by decide, ⟨_, issuedUser (exampleLogin "bob" (some "admin")), exampleLogin_ok _ _, ?_, ?_⟩,
    ⟨_, exampleLogin_ok _ _, ?_⟩, ⟨_, exampleLogin_ok _ _, ?_, by decide⟩,
    ⟨_, exampleLogin_ok _ _, ?_, by decide⟩⟩
  · exact getCurrentUser_issued (bobClaims_returns .admin 60)
  · exact (requireRole_eq_ok_iff rfl _).mpr (.inl (by decide))
  · decide +kernel
  · decide +kernel
  · decide +kernel

end IceStream.Backend
