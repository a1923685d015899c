import Mathlib.Data.List.Infix
import Tinkerbell.Library.Base64
import Tinkerbell.Library.TextFields
import Tinkerbell.Library.TransitionSystem
import Tinkerbell.Library.UrlParse

/-!
Owns: how the web interface authenticates: the login with a token and the
address of an API server, the check of that address, the cookies that carry the
session, the middleware that reads them back, and the Kubernetes clients that
are built on the way.

The login checks the address before it builds a client. The middleware takes the
address from a cookie, which is the browser's to choose, and does not check it
again.

Does not own: the pages, the login without a token, how a JSON text is read, and
how the Kubernetes libraries read a configuration and answer a review of access,
which are given.
-/

namespace Tinkerbell.Ui

open ByteText (Bytes)
open TransitionSystem (run)
open UrlPath (bytesOf)

/-- Why an address is refused. -/
inductive ServerError where
  | required
  | invalidFormat
  | notHttps (scheme : Bytes)
  | noHostname
deriving DecidableEq

def ServerError.text : ServerError → Bytes
  | .required => bytesOf "API server URL is required"
  | .invalidFormat => bytesOf "invalid URL format: "
  | .notHttps scheme => bytesOf "API server must use HTTPS protocol, got: " ++ scheme
  | .noHostname => bytesOf "API server URL must include a hostname"

def validateAPIServerURL (apiServer : Bytes) : Except ServerError Unit :=
  if apiServer = [] then .error .required
  else
    match UrlParse.parse apiServer with
    | none => .error .invalidFormat
    | some url =>
      if url.scheme ≠ bytesOf "https" then .error (.notHttps url.scheme)
      else if url.hostname = [] then .error .noHostname
      else .ok ()

instance decidableEqAnswer : DecidableEq (Except ServerError Unit)
  | .ok _, .ok _ => isTrue rfl
  | .ok _, .error _ | .error _, .ok _ => isFalse nofun
  | .error left, .error right =>
    if same : left = right then isTrue (congrArg _ same)
    else isFalse fun equal => same (Except.error.inj equal)

/-- The address passes the check. -/
def Accepted (apiServer : Bytes) : Prop := validateAPIServerURL apiServer = .ok ()

instance decidableAccepted (apiServer : Bytes) : Decidable (Accepted apiServer) :=
  inferInstanceAs (Decidable (_ = _))

/-- What a Kubernetes client is built from. -/
structure RestConfig where
  (host bearerToken : Bytes)
  insecure : Bool
deriving DecidableEq

/-- A value of a JSON object. What is absent is `other`, as no type assertion accepts it. -/
inductive Json where
  | string (value : Bytes)
  | object (field : String → Json)
  | other

/-- The libraries and servers behind the handlers. -/
structure Backend where
  newClient : RestConfig → Except String Unit
  /-- Whether the token may list hardware in a namespace, or everywhere. -/
  accessReview : RestConfig → Bytes → Except String Bool
  /-- `json.Unmarshal` of a payload into a map. -/
  unmarshalClaims : Bytes → Option (String → Json)
  /-- `json.Unmarshal` of a payload into a struct with the number `exp`. -/
  unmarshalExp : Bytes → Option Int

/-- The payload of a token, which is the second of three parts. -/
def payloadOf (token : Bytes) : Option Bytes :=
  match token.splitOn 46 with
  | [_, payload, _] => some payload
  | _ => none

def extractNamespaceFromToken (backend : Backend) (token : Bytes) : Bytes :=
  match (payloadOf token).bind Base64.decodeRawUrl with
  | none => []
  | some payload =>
    match backend.unmarshalClaims payload with
    | none => []
    | some claims =>
      match claims "kubernetes.io" with
      | .object k8sio =>
        match k8sio "namespace" with
        | .string ns => ns
        | _ => []
      | _ => []

def extractTokenExpiry (backend : Backend) (token : Bytes) : Bytes :=
  match (payloadOf token).bind fun payload => Base64.decode (Base64.ofUrl (Base64.pad payload)) with
  | none => []
  | some decoded =>
    match backend.unmarshalExp decoded with
    | none => []
    | some exp => if exp = 0 then [] else bytesOf (toString exp)

def newKubeClientFromTokenAndServer (backend : Backend) (token apiServer : Bytes)
    (insecureSkipVerify : Bool) : Except String RestConfig :=
  let config := { host := apiServer, bearerToken := token, insecure := insecureSkipVerify }
  match backend.newClient config with
  | .error reason => .error reason
  | .ok _ => .ok config

def noPermission (namespaceText : String) : String :=
  "token has no permissions to list Tinkerbell Hardware objects" ++ namespaceText ++
    ". Contact your cluster administrator to grant necessary RBAC permissions"

def validateTokenPermissions (backend : Backend) (client : RestConfig) (saNamespace : Bytes) :
    Option String :=
  match backend.accessReview client saNamespace with
  | .error reason => some ("failed to check permissions: " ++ reason)
  | .ok true => none
  | .ok false =>
    if saNamespace = [] then some (noPermission "")
    else some (noPermission (" in namespace " ++ UrlPath.asciiText saNamespace))

structure Request where
  postForm : String → Bytes
  cookie : String → Option Bytes
  header : String → Bytes
  tls : Bool

structure Cookie where
  name : String
  value : Bytes
  maxAge : Int
  (secure httpOnly : Bool)

inductive Response where
  | json (status : Nat) (fields : List (String × String))
  | redirect (status : Nat) (location : Bytes)
  /-- The request is handed on with the client and the namespace of the session. -/
  | next (kubeClient : RestConfig) (saNamespace : Option Bytes)

structure Served where
  built : Option RestConfig
  cookies : List Cookie
  response : Response

def cookieNameAuthToken : String := "auth_token"
def cookieNameAPIServer : String := "auth_apiserver"
def cookieNameSANamespace : String := "sa_namespace"
def cookieNameInsecureSkipVerify : String := "insecure_skip_verify"
def cookieNameTokenExpiry : String := "token_expiry"
def cookieNameAPIServerDisplay : String := "apiserver_display"
def cookieNameSANamespaceDisplay : String := "sa_namespace_display"

def sessionDurationSeconds : Int := 3600 * 8

def isSecure (request : Request) : Bool :=
  request.tls || request.header "X-Forwarded-Proto" = bytesOf "https"

def mentions (message part : String) : Bool := decide (part.toList <:+: message.toList)

def userMessage (message : String) : String :=
  if mentions message "provide credentials" || mentions message "Unauthorized" then
    "The provided token is invalid or has expired. Generate a new token with: " ++
      "kubectl create token <service-account-name>"
  else if mentions message "Forbidden" || mentions message "forbidden" then
    "The token is valid but has no permissions. Contact your cluster administrator to grant " ++
      "necessary RBAC permissions."
  else if mentions message "connect" || mentions message "connection refused" then
    "Unable to connect to the Kubernetes API server. Please verify the API server URL and " ++
      "ensure the server is accessible."
  else if mentions message "certificate" || mentions message "tls" then
    "TLS certificate verification failed. Try enabling 'Skip TLS verification' if using " ++
      "self-signed certificates."
  else "An error occurred while validating the token. Please check your credentials."

def sessionCookies (backend : Backend) (request : Request) (token apiServer : Bytes) :
    List Cookie :=
  let secure := isSecure request
  let set (name : String) (value : Bytes) (httpOnly : Bool) : Cookie :=
    { name, value, maxAge := sessionDurationSeconds, secure, httpOnly }
  let saNamespace := extractNamespaceFromToken backend token
  let expiry := extractTokenExpiry backend token
  [set cookieNameAuthToken (Base64.encode token) true,
    set cookieNameAPIServer (Base64.encode apiServer) true] ++
  (if saNamespace ≠ [] then
    [set cookieNameSANamespace (Base64.encode saNamespace) true,
      set cookieNameSANamespaceDisplay saNamespace false]
  else []) ++
  (if expiry ≠ [] then [set cookieNameTokenExpiry expiry false] else []) ++
  [set cookieNameAPIServerDisplay apiServer false,
    set cookieNameInsecureSkipVerify (request.postForm "insecureSkipVerify") true]

def checkPermissions (backend : Backend) (client : RestConfig) (saNamespace : Bytes) :
    Option String :=
  match validateTokenPermissions backend client [] with
  | none => none
  | some reason =>
    if saNamespace ≠ [] then validateTokenPermissions backend client saNamespace
    else some reason

def refuse (status : Nat) (message : String) : Served :=
  { built := none, cookies := [], response := .json status [("error", message)] }

def handleLoginValidate (backend : Backend) (request : Request) : Served :=
  if request.postForm "token" = [] then refuse 403 "Service account token is required"
  else if request.postForm "apiServer" = [] then
    refuse 403 "Kubernetes API server URL is required"
  else
    let token := TextFields.trimSpace (request.postForm "token")
    let apiServer := TextFields.trimSpace (request.postForm "apiServer")
    match validateAPIServerURL apiServer with
    | .error _ => refuse 400 "Invalid API server URL. Must be a valid HTTPS URL."
    | .ok _ =>
      let insecureSkipVerify := request.postForm "insecureSkipVerify" = bytesOf "true"
      match newKubeClientFromTokenAndServer backend token apiServer insecureSkipVerify with
      | .error reason => refuse 403 ("Failed to create Kubernetes client: " ++ reason)
      | .ok testClient =>
        match checkPermissions backend testClient (extractNamespaceFromToken backend token) with
        | some reason =>
          { built := some testClient, cookies := [],
            response := .json 403 [("error", userMessage reason), ("details", reason)] }
        | none =>
          { built := some testClient,
            cookies := sessionCookies backend request token apiServer,
            response := .json 200
              [("success", "true"), ("message", "Token validated successfully")] }

def handleLogout (request : Request) : Served :=
  let clear (name : String) (httpOnly : Bool) : Cookie :=
    { name, value := [], maxAge := -1, secure := isSecure request, httpOnly }
  { built := none,
    cookies := [clear cookieNameAuthToken true, clear cookieNameAPIServer true,
      clear cookieNameSANamespace true, clear cookieNameInsecureSkipVerify true,
      clear cookieNameTokenExpiry false, clear cookieNameAPIServerDisplay false,
      clear cookieNameSANamespaceDisplay false],
    response := .json 200 [("success", "true"), ("message", "Logged out successfully")] }

def decodedCookie (request : Request) (name : String) : Bytes :=
  match request.cookie name with
  | none => []
  | some value => if value ≠ [] then (Base64.decode value).getD [] else []

def getTokenAndAPIServerFromRequest (request : Request) : Bytes × Bytes × Bool :=
  (decodedCookie request cookieNameAuthToken, decodedCookie request cookieNameAPIServer,
    request.cookie cookieNameInsecureSkipVerify = some (bytesOf "true"))

def toLogin (baseURL : Bytes) : Served :=
  { built := none, cookies := [],
    response := .redirect 302 (UrlPath.join [baseURL, bytesOf "login"]) }

def authMiddleware (baseURL : Bytes) (backend : Backend) (request : Request) : Served :=
  let (token, apiServer, insecureSkipVerify) := getTokenAndAPIServerFromRequest request
  if token = [] ∨ apiServer = [] then toLogin baseURL
  else
    match newKubeClientFromTokenAndServer backend token apiServer insecureSkipVerify with
    | .error _ => toLogin baseURL
    | .ok userClient =>
      let saNamespace := extractNamespaceFromToken backend token
      { built := some userClient, cookies := [],
        response := .next userClient (if saNamespace ≠ [] then some saNamespace else none) }

inductive Route where
  | login
  | logout
  | guarded

structure Call where
  route : Route
  request : Request
  backend : Backend

def serve (baseURL : Bytes) (call : Call) : Served :=
  match call.route with
  | .login => handleLoginValidate call.backend call.request
  | .logout => handleLogout call.request
  | .guarded => authMiddleware baseURL call.backend call.request

def step (baseURL : Bytes) (clients : List RestConfig) (call : Call) : List RestConfig :=
  clients ++ (serve baseURL call).built.toList

private theorem mem_run (baseURL : Bytes) (calls : List Call) (clients : List RestConfig)
    (client : RestConfig) :
    client ∈ run (step baseURL) clients calls ↔
      client ∈ clients ∨ ∃ call ∈ calls, (serve baseURL call).built = some client := by
  induction calls generalizing clients with
  | nil => simp
  | cons _ _ ih =>
    rw [TransitionSystem.run_cons, ih, step, List.mem_append, Option.mem_toList]
    simp [or_assoc]

variable {backend : Backend} {client : RestConfig} {request : Request}

variable {token apiServer baseURL : Bytes} {cookie : Cookie}

theorem newKubeClient_eq {insecure : Bool} :
    newKubeClientFromTokenAndServer backend token apiServer insecure = .ok client ↔
      client = ⟨apiServer, token, insecure⟩ ∧ backend.newClient client = .ok () := by
  unfold newKubeClientFromTokenAndServer
  dsimp only
  split
  · next _ isError =>
    refine ⟨nofun, ?_⟩
    rintro ⟨rfl, isOk⟩
    rw [isError] at isOk
    cases isOk
  · next isOk =>
    constructor
    · intro same
      cases same
      exact ⟨rfl, isOk⟩
    · rintro ⟨rfl, _⟩
      rfl

private theorem handleLoginValidate_spec (backend : Backend) (request : Request) :
    ((handleLoginValidate backend request).built = none ∧
      (handleLoginValidate backend request).cookies = []) ∨
    ∃ token client, Accepted client.host ∧
      (handleLoginValidate backend request).built = some client ∧
      ((handleLoginValidate backend request).cookies = [] ∨
        (handleLoginValidate backend request).cookies =
          sessionCookies backend request token client.host) := by
  unfold handleLoginValidate
  dsimp only
  split
  · exact Or.inl ⟨rfl, rfl⟩
  split
  · exact Or.inl ⟨rfl, rfl⟩
  split
  · exact Or.inl ⟨rfl, rfl⟩
  next validated =>
    have accepted : Accepted (TextFields.trimSpace (request.postForm "apiServer")) := validated
    split
    · exact Or.inl ⟨rfl, rfl⟩
    next testClient isClient =>
      have isHost : testClient.host = TextFields.trimSpace (request.postForm "apiServer") := by
        rw [(newKubeClient_eq.mp isClient).1]
      rw [← isHost] at accepted ⊢
      refine Or.inr ⟨TextFields.trimSpace (request.postForm "token"), testClient, accepted, ?_⟩
      split
      · exact ⟨rfl, Or.inl rfl⟩
      · exact ⟨rfl, Or.inr rfl⟩

theorem login_builds_accepted
    (isBuilt : (handleLoginValidate backend request).built = some client) :
    Accepted client.host := by
  rcases handleLoginValidate_spec backend request with
    ⟨notBuilt, _⟩ | ⟨_, other, accepted, built, _⟩
  · rw [notBuilt] at isBuilt
    cases isBuilt
  · rw [built] at isBuilt
    rw [← Option.some.inj isBuilt]
    exact accepted

/-- The request has a cookie of the name that is read as the value. -/
def Carries (request : Request) (name : String) (value : Bytes) : Prop :=
  value ≠ [] ∧ ∃ cookie, request.cookie name = some cookie ∧ Base64.decode cookie = some value

theorem carries_iff {name : String} {value : Bytes} :
    Carries request name value ↔ value ≠ [] ∧ decodedCookie request name = value := by
  unfold Carries decodedCookie
  refine and_congr_right fun notEmpty => ?_
  cases request.cookie name with
  | none => simpa using notEmpty.symm
  | some cookie =>
    by_cases isEmpty : cookie = []
    · subst isEmpty
      simp [Base64.decode, Base64.decodeGroups, notEmpty.symm]
    · cases isDecoded : Base64.decode cookie with
      | none => simp [isEmpty, isDecoded, notEmpty.symm]
      | some => simp [isEmpty, isDecoded]

def cookieConfig (request : Request) (token apiServer : Bytes) : RestConfig :=
  { host := apiServer, bearerToken := token,
    insecure := request.cookie cookieNameInsecureSkipVerify = some (bytesOf "true") }

theorem authMiddleware_built :
    (authMiddleware baseURL backend request).built = some client ↔
      Carries request cookieNameAuthToken client.bearerToken ∧
        Carries request cookieNameAPIServer client.host ∧
        client = cookieConfig request client.bearerToken client.host ∧
        backend.newClient client = .ok () := by
  rw [carries_iff, carries_iff]
  unfold authMiddleware getTokenAndAPIServerFromRequest
  dsimp only
  split
  · next isMissing =>
    refine ⟨nofun, ?_⟩
    rintro ⟨⟨hasToken, isToken⟩, ⟨hasServer, isServer⟩, _⟩
    rw [isToken, isServer] at isMissing
    exact absurd isMissing (not_or.mpr ⟨hasToken, hasServer⟩)
  · next present =>
    rw [not_or] at present
    split
    · next _ isError =>
      refine ⟨nofun, ?_⟩
      rintro ⟨⟨_, isToken⟩, ⟨_, isServer⟩, isConfig, isOk⟩
      rw [isToken, isServer, newKubeClient_eq.mpr ⟨isConfig, isOk⟩] at isError
      cases isError
    · next _ isClient =>
      obtain ⟨isConfig, isOk⟩ := newKubeClient_eq.mp isClient
      constructor
      · intro same
        cases same
        subst isConfig
        exact ⟨⟨present.1, rfl⟩, ⟨present.2, rfl⟩, rfl, isOk⟩
      · rintro ⟨⟨_, isToken⟩, ⟨_, isServer⟩, isCookies, _⟩
        rw [isConfig, isToken, isServer]
        exact congrArg some isCookies.symm

/-- The address that the cookies of a request carry passes the check, unless no client can be
built from them. -/
def CookiesAccepted (call : Call) : Prop :=
  ∀ token apiServer,
    Carries call.request cookieNameAuthToken token →
    Carries call.request cookieNameAPIServer apiServer →
    call.backend.newClient (cookieConfig call.request token apiServer) = .ok () →
    Accepted apiServer

private theorem serve_accepted_iff (baseURL : Bytes) (call : Call) :
    (∀ client, (serve baseURL call).built = some client → Accepted client.host) ↔
      (call.route = .guarded → CookiesAccepted call) := by
  unfold serve
  split
  · next isLogin =>
    simp only [isLogin, reduceCtorEq, false_implies, iff_true]
    intro client isBuilt
    exact login_builds_accepted isBuilt
  · next isLogout => simp [isLogout, handleLogout]
  · next isGuarded =>
    simp only [isGuarded, forall_const, authMiddleware_built]
    constructor
    · intro accepted token apiServer hasToken hasServer isOk
      exact accepted (cookieConfig call.request token apiServer)
        ⟨hasToken, hasServer, rfl, isOk⟩
    · rintro accepted client ⟨hasToken, hasServer, isConfig, isOk⟩
      rw [isConfig] at isOk
      exact accepted _ _ hasToken hasServer isOk

/-- The clients that any sequence of requests makes the handlers build all talk to servers that
pass the check exactly when the cookies of the guarded requests carry such servers. -/
theorem clients_talk_to_accepted_servers_iff (baseURL : Bytes) (calls : List Call) :
    (∀ client ∈ run (step baseURL) [] calls, Accepted client.host) ↔
      ∀ call ∈ calls, call.route = .guarded → CookiesAccepted call := by
  simp only [mem_run, List.not_mem_nil, false_or, ← serve_accepted_iff baseURL]
  constructor
  · intro accepted call isCall client isBuilt
    exact accepted client ⟨call, isCall, isBuilt⟩
  · rintro accepted client ⟨call, isCall, isBuilt⟩
    exact accepted call isCall client isBuilt

def forgedCall : Call where
  route := .guarded
  request := {
    postForm := fun _ => []
    cookie := fun name =>
      if name = cookieNameAuthToken then some (Base64.encode (bytesOf "t"))
      else if name = cookieNameAPIServer then some (Base64.encode (bytesOf "http://10.0.0.9"))
      else none
    header := fun _ => []
    tls := true }
  backend := {
    newClient := fun _ => .ok ()
    accessReview := fun _ _ => .ok true
    unmarshalClaims := fun _ => none
    unmarshalExp := fun _ => none }

theorem forged_cookie_builds_plain_client :
    run (step []) [] [forgedCall] = [⟨bytesOf "http://10.0.0.9", bytesOf "t", false⟩] ∧
      ¬Accepted (bytesOf "http://10.0.0.9") := by
  decide +kernel

private theorem login_session (loggedIn : (handleLoginValidate backend request).cookies ≠ []) :
    ∃ client, (handleLoginValidate backend request).built = some client ∧
      client.insecure = decide (request.postForm "insecureSkipVerify" = bytesOf "true") ∧
      (handleLoginValidate backend request).cookies =
        sessionCookies backend request client.bearerToken client.host := by
  revert loggedIn
  unfold handleLoginValidate
  dsimp only
  split
  · exact (absurd rfl ·)
  split
  · exact (absurd rfl ·)
  split
  · exact (absurd rfl ·)
  split
  · exact (absurd rfl ·)
  next _ isClient =>
    obtain ⟨rfl, _⟩ := newKubeClient_eq.mp isClient
    split
    · exact (absurd rfl ·)
    · exact fun _ => ⟨_, rfl, rfl, rfl⟩

def sentBack (cookies : List Cookie) (name : String) : Option Bytes :=
  (cookies.find? (·.name = name)).map Cookie.value

private theorem sentBack_session (backend : Backend) (request : Request) (token apiServer : Bytes) :
    let jar := sentBack (sessionCookies backend request token apiServer)
    jar cookieNameAuthToken = some (Base64.encode token) ∧
      jar cookieNameAPIServer = some (Base64.encode apiServer) ∧
      jar cookieNameInsecureSkipVerify = some (request.postForm "insecureSkipVerify") := by
  refine ⟨rfl, rfl, ?_⟩
  unfold sessionCookies sentBack
  dsimp only
  split <;> split <;> rfl

/-- For a browser that sends back the cookies of its login the middleware builds the client that
the login has checked. Only a token of blanks, which the login lets pass, opens no session. -/
theorem session_keeps_the_client (later : Request) (laterBackend : Backend)
    (loggedIn : (handleLoginValidate backend request).cookies ≠ []) :
    (authMiddleware baseURL laterBackend { later with
      cookie := sentBack (handleLoginValidate backend request).cookies }).built = some client ↔
      (handleLoginValidate backend request).built = some client ∧ client.bearerToken ≠ [] ∧
        laterBackend.newClient client = .ok () := by
  obtain ⟨checked, isBuilt, isInsecure, isSet⟩ := login_session loggedIn
  obtain ⟨isToken, isServer, isFlag⟩ :=
    sentBack_session backend request checked.bearerToken checked.host
  rw [authMiddleware_built, isBuilt, isSet]
  simp only [Carries, cookieConfig, isToken, isServer, isFlag, Option.some.injEq, exists_eq_left',
    Base64.decode_encode, ← isInsecure]
  constructor
  · rintro ⟨⟨hasToken, sameToken⟩, ⟨_, sameHost⟩, isClient, isOk⟩
    rw [← sameToken, ← sameHost] at isClient
    exact ⟨isClient.symm, hasToken, isOk⟩
  · rintro ⟨rfl, hasToken, isOk⟩
    have hasServer : checked.host ≠ [] := by
      intro isEmpty
      have accepted := login_builds_accepted isBuilt
      rw [isEmpty] at accepted
      cases accepted
    exact ⟨⟨hasToken, rfl⟩, ⟨hasServer, rfl⟩, rfl, isOk⟩

def sampleLogin : Request :=
  { forgedCall.request with
    postForm := fun field => bytesOf (if field = "token" then "t" else "https://10.0.0.9") }

theorem session_keeps_the_client_sample :
    (authMiddleware [] forgedCall.backend { sampleLogin with
      cookie := sentBack (handleLoginValidate forgedCall.backend sampleLogin).cookies }).built =
        some ⟨bytesOf "https://10.0.0.9", bytesOf "t", false⟩ := by
  have loggedIn : (handleLoginValidate forgedCall.backend sampleLogin).cookies.isEmpty = false := by
    decide +kernel
  rw [session_keeps_the_client _ _ (List.isEmpty_eq_false_iff.mp loggedIn)]
  exact ⟨by decide +kernel, by decide, rfl⟩

end Tinkerbell.Ui
