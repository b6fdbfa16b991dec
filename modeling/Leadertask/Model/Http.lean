import Leadertask.Model.Basic

/-!
# Requests, responses and their bodies

The request as the handlers read it, the response as they build it, and the types that
the schemas of `docs/definitions` generate: a request body is parsed from JSON, with the
schema's required fields, types, length bounds and `additionalProperties`; a plain
`integer` is a 32-bit `int`, `format: int64` a 64-bit one, and a field that is not
required is optional. Texts are Unicode: requests with bytes that are no UTF-8 are left out.
-/

namespace Leadertask

/-! ## JSON -/

inductive Json where
  | null
  | bool (b : Bool)
  | num (q : Rat)
  | str (s : String)
  | arr (items : List Json)
  | obj (fields : List (String × Json))

namespace Json

/-- The fields of an object; anything else does not match an object schema. -/
def fields : Json → Except Exn (List (String × Json))
  | .obj fs => .ok fs
  | _ => .error .schemaMismatch

/-- A string of at least `minLength` characters. -/
def asString (minLength : ℕ) : Json → Except Exn String
  | .str s => if minLength ≤ s.length then .ok s else .error .schemaMismatch
  | _ => .error .schemaMismatch

/-- A required string field. -/
def required (fs : List (String × Json)) (name : String) (minLength : ℕ) : Except Exn String :=
  match fs.lookup name with
  | some j => j.asString minLength
  | none => .error .schemaMismatch

theorem required_ok {fs : List (String × Json)} {name : String} {minLength : ℕ} {s : String}
    (h : required fs name minLength = .ok s) : minLength ≤ s.length := by
  unfold required asString at h
  split at h
  · split at h
    · split at h
      · rw [← Except.ok.inj h]; assumption
      · simp at h
    · simp at h
  · simp at h

/-- A string field that may be absent. -/
def optional (fs : List (String × Json)) (name : String) (minLength : ℕ) :
    Except Exn (Option String) :=
  match fs.lookup name with
  | some j => (j.asString minLength).map some
  | none => .ok none

/-- `additionalProperties: false` -/
def only (fs : List (String × Json)) (names : List String) : Except Exn Unit :=
  if fs.all (fun f => f.1 ∈ names) then .ok () else .error .schemaMismatch

end Json

/-! ## Request bodies -/

structure CreateUserRequestBody where
  login : String
  password : String
  firstName : String
  lastName : String
  deriving DecidableEq, Repr

def CreateUserRequestBody.parse (j : Json) : Except Exn CreateUserRequestBody := do
  let fs ← j.fields
  Json.only fs ["login", "password", "firstName", "lastName"]
  return { login := ← Json.required fs "login" 3
           password := ← Json.required fs "password" 8
           firstName := ← Json.required fs "firstName" 1
           lastName := ← Json.required fs "lastName" 1 }

structure LoginRequestBody where
  login : String
  password : String
  deriving DecidableEq, Repr

def LoginRequestBody.parse (j : Json) : Except Exn LoginRequestBody := do
  let fs ← j.fields
  Json.only fs ["login", "password"]
  return { login := ← Json.required fs "login" 0
           password := ← Json.required fs "password" 0 }

structure CreateGoalRequestBody where
  title : String
  description : Option String
  deriving DecidableEq, Repr

def CreateGoalRequestBody.parse (j : Json) : Except Exn CreateGoalRequestBody := do
  let fs ← j.fields
  Json.only fs ["title", "description"]
  return { title := ← Json.required fs "title" 3
           description := ← Json.optional fs "description" 0 }

structure CreateTaskRequestBody where
  title : String
  deriving DecidableEq, Repr

def CreateTaskRequestBody.parse (j : Json) : Except Exn CreateTaskRequestBody := do
  -- the one body whose schema allows additional properties
  let fs ← j.fields
  return { title := ← Json.required fs "title" 0 }

structure UpdateTaskStatusRequest where
  status : String
  deriving DecidableEq, Repr

def UpdateTaskStatusRequest.parse (j : Json) : Except Exn UpdateTaskStatusRequest := do
  let fs ← j.fields
  Json.only fs ["status"]
  return { status := ← Json.required fs "status" 0 }

/-! ## Response bodies -/

structure CreateUserResponseBody where
  userId : Int64
  deriving DecidableEq, Repr

structure LoginResponseBody where
  accessToken : String
  deriving DecidableEq, Repr

structure User where
  id : Int32
  login : String
  firstName : String
  lastName : String
  deriving DecidableEq, Repr

structure Goal where
  id : String
  title : String
  description : Option String
  userId : Option Int32
  deriving DecidableEq, Repr

structure CreateGoalResponseBody where
  id : Option String
  title : Option String
  description : Option String
  userId : Option Int32
  deriving DecidableEq, Repr

structure Task where
  id : Int32
  goalId : Int32
  title : String
  status : String
  deriving DecidableEq, Repr

/-- Declared apart from `Task`, with the same fields. -/
structure CreateTaskResponseBody where
  id : Int32
  goalId : Int32
  title : String
  status : String
  deriving DecidableEq, Repr

/-! ## Requests and responses -/

/-- The handlers, as the router picks them by path and method. -/
inductive Endpoint where
  | signup
  | login
  | usersSearch
  | goalsCreate
  | goalsList
  | tasksCreate
  | tasksList
  | tasksUpdateStatus
  deriving DecidableEq, Repr

/-- `auth: types: - jwt-auth` in the static configuration. -/
def Endpoint.jwtAuth : Endpoint → Bool
  | .signup => false
  | .login => false
  | _ => true

/-- What the handlers read of a request. A header, path argument or query argument that is
missing reads as the empty string. -/
structure HttpRequest where
  endpoint : Endpoint
  /-- The `Authorization` header. -/
  authorization : String := ""
  /-- The wall clock when the request is authenticated. -/
  receivedAt : ℤ := 0
  goalId : String := ""
  taskId : String := ""
  login : String := ""
  firstNameMask : String := ""
  lastNameMask : String := ""
  body : Json := .null

/-- The user data that `CheckAuth` leaves for the handler. -/
structure RequestContext where
  userData : Option UserId := none
  deriving DecidableEq, Repr

/-- `GetUserData<UserId>` -/
def RequestContext.getUserData (ctx : RequestContext) : Except Exn UserId :=
  match ctx.userData with
  | some u => .ok u
  | none => .error .noUserData

/-- `SetUserData<UserId>`: once per request. -/
def RequestContext.setUserData (ctx : RequestContext) (u : UserId) : Except Exn RequestContext :=
  match ctx.userData with
  | some _ => .error .userDataAlreadySet
  | none => .ok ⟨some u⟩

inductive HttpStatus where
  | kOk
  | kCreated
  | kBadRequest
  | kUnauthorized
  | kForbidden
  | kNotFound
  | kConflict
  | kTooManyRequests
  | kInternalServerError
  deriving DecidableEq, Repr

def HttpStatus.code : HttpStatus → ℕ
  | .kOk => 200
  | .kCreated => 201
  | .kBadRequest => 400
  | .kUnauthorized => 401
  | .kForbidden => 403
  | .kNotFound => 404
  | .kConflict => 409
  | .kTooManyRequests => 429
  | .kInternalServerError => 500

/-- The response's JSON value: `MakeError`'s object or a response body. -/
inductive Payload where
  | error (msg : String)
  | createdUser (r : CreateUserResponseBody)
  | loggedIn (r : LoginResponseBody)
  | users (us : List User)
  | createdGoal (g : CreateGoalResponseBody)
  | goals (gs : List Goal)
  | task (t : CreateTaskResponseBody)
  | tasks (ts : List Task)
  deriving DecidableEq, Repr

/-- A response; a handler that sets no status answers 200. -/
structure HttpResponse where
  status : HttpStatus := .kOk
  headers : List (String × String) := []
  payload : Payload
  deriving DecidableEq, Repr

/-- `SetStatus` and `MakeError`. -/
def makeError (status : HttpStatus) (msg : String) : HttpResponse :=
  { status := status, payload := .error msg }

/-- The 429 answer of every rate-limited handler. -/
def rateLimitExceeded (remaining : ℤ) : HttpResponse :=
  { status := .kTooManyRequests
    headers := [("X-RateLimit-Limit", "2"), ("X-RateLimit-Remaining", toString remaining),
      ("X-RateLimit-Reset", "1")]
    payload := .error "Rate limit exceeded" }

/-- The status that the client sees: userver answers 500 when an exception escapes. -/
def statusOf : Except Exn HttpResponse → HttpStatus
  | .ok r => r.status
  | .error _ => .kInternalServerError

/-- A 2xx answer. -/
def IsSuccess (r : Except Exn HttpResponse) : Prop := (statusOf r).code / 100 = 2

instance (r : Except Exn HttpResponse) : Decidable (IsSuccess r) :=
  inferInstanceAs (Decidable (_ = _))

theorem isSuccess_ok {r : HttpResponse} :
    IsSuccess (.ok r) ↔ r.status = .kOk ∨ r.status = .kCreated := by
  unfold IsSuccess statusOf
  cases h : r.status <;> simp [h, HttpStatus.code]

@[simp] theorem not_isSuccess_error (e : Exn) : ¬ IsSuccess (.error e) := by
  simp [IsSuccess, statusOf, HttpStatus.code]

theorem not_isSuccess_makeError {status : HttpStatus} {msg : String}
    (h : status ≠ .kOk ∧ status ≠ .kCreated) : ¬ IsSuccess (.ok (makeError status msg)) :=
  fun hok => (isSuccess_ok.1 hok).elim h.1 h.2

theorem not_isSuccess_rateLimitExceeded (remaining : ℤ) :
    ¬ IsSuccess (.ok (rateLimitExceeded remaining)) := by
  rw [isSuccess_ok]; simp [rateLimitExceeded]

end Leadertask
