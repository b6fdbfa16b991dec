import Leadertask.Model.Views

/-!
# Authentication

`JwtChecker::CheckAuth`, which the framework calls before the handlers whose
configuration has `jwt-auth`, and `serve`, the whole way of a request from its header to
its answer.
-/

namespace Leadertask

variable {D : Type} (cfg : Config D)

inductive AuthStatus where
  | kOk
  | kTokenNotFound
  | kInvalidToken
  | kForbidden
  deriving DecidableEq, Repr

/-- `AuthCheckResult`; `kUnauthorized` is the only `HandlerErrorCode` that the checker
sets. -/
structure AuthCheckResult where
  status : AuthStatus := .kOk
  extReason : Option String := none
  unauthorizedCode : Bool := false
  deriving DecidableEq, Repr

def kAlgorithm : String := "Bearer "

def kServiceName : String := "sample"

/-- The token after `Bearer `, if the header has that form. -/
def bearerToken? (header : String) : Option String :=
  if kAlgorithm.toList.isPrefixOf header.toList then
    some (String.ofList (header.toList.drop kAlgorithm.length))
  else none

/-- The `try` block of `CheckAuth`: decode the token, verify it, read its subject as a
user id and store that. -/
def checkToken (token : String) (now : ℤ) (ctx : RequestContext) :
    Except Exn (AuthCheckResult × RequestContext) := do
  let decoded ← cfg.jwt.decode token
  cfg.jwt.verify cfg.checkerSecret kServiceName now decoded
  let subject ← cfg.jwt.getSubject decoded
  if subject.isEmpty then
    return (⟨.kInvalidToken, some "Token subjet is empty", true⟩, ctx)
  else
    match stoll subject with
    | .error _ => return (⟨.kInvalidToken, some "Token subject is not integer ser_id", true⟩, ctx)
    -- text after the number is ignored
    | .ok (userId, _) =>
      let ctx ← ctx.setUserData userId
      return ({}, ctx)

/-- `JwtChecker::CheckAuth`: its verdict and the user data it leaves. -/
def checkAuth (header : String) (now : ℤ) (ctx : RequestContext) :
    AuthCheckResult × RequestContext :=
  if header.isEmpty then
    (⟨.kTokenNotFound, some "Missing 'Authorization' header", true⟩, ctx)
  else
    match bearerToken? header with
    | none => (⟨.kInvalidToken, some "Invalid authorization type, expected 'Bearer'", true⟩, ctx)
    | some token =>
      match checkToken cfg token now ctx with
      | .ok r => r
      -- a wrong signature is no `token_verification_exception` and falls to the last case
      | .error .tokenVerification =>
        (⟨.kInvalidToken, some ("Token verif failed: " ++ cfg.what .tokenVerification), false⟩, ctx)
      | .error exc => (⟨.kForbidden, some ("Token proces error: " ++ cfg.what exc), false⟩, ctx)

/-! ### With its exceptions -/

/-- What `CheckAuth` runs in: it may throw, and what it wrote into the request context
stays. -/
abbrev Checking := ExceptT Exn (StateM RequestContext)

/-- `std::string_view::substr(pos)` -/
def substr (s : String) (pos : ℕ) : Except Exn String :=
  if pos ≤ s.length then .ok (String.ofList (s.toList.drop pos)) else .error .outOfRange

/-- `request_context.SetUserData<UserId>`: an exception leaves the context as it is. -/
def setUserData (u : UserId) : Checking Unit := ExceptT.mk fun ctx =>
  match ctx.setUserData u with
  | .ok ctx' => (.ok (), ctx')
  | .error exc => (.error exc, ctx)

namespace JwtChecker

/-- The `try` statement of `CheckAuth` with its handlers. -/
def tryToken (token : String) (now : ℤ) : Checking AuthCheckResult := do
  try
    let decoded ← cfg.jwt.decode token
    let _ ← cfg.jwt.verify cfg.checkerSecret kServiceName now decoded
    let subject ← cfg.jwt.getSubject decoded
    if subject.isEmpty then pure ⟨.kInvalidToken, some "Token subjet is empty", true⟩
    else
      let userId ← try (do let number ← stoll subject; pure (some number.1)) catch _ => pure none
      match userId with
      | none => pure ⟨.kInvalidToken, some "Token subject is not integer ser_id", true⟩
      | some userId =>
        setUserData userId
        pure {}
  catch
    | .tokenVerification =>
      pure ⟨.kInvalidToken, some ("Token verif failed: " ++ cfg.what .tokenVerification), false⟩
    | exc => pure ⟨.kForbidden, some ("Token proces error: " ++ cfg.what exc), false⟩

/-- `JwtChecker::CheckAuth` statement by statement. -/
def checkAuth (header : String) (now : ℤ) : Checking AuthCheckResult := do
  if header.isEmpty then
    pure ⟨.kTokenNotFound, some "Missing 'Authorization' header", true⟩
  else if !kAlgorithm.toList.isPrefixOf header.toList then
    pure ⟨.kInvalidToken, some "Invalid authorization type, expected 'Bearer'", true⟩
  else
    -- this can throw, and is in no `try` block
    let token ← substr header kAlgorithm.length
    tryToken cfg token now

end JwtChecker

/-- The framework's answer to a request that the checker turns away. -/
def AuthCheckResult.reject (r : AuthCheckResult) : HttpResponse :=
  makeError (if r.status = .kForbidden then .kForbidden else .kUnauthorized) (r.extReason.getD "")

/-- A request from its arrival to its answer. -/
def serve (request : HttpRequest) : Handler HttpResponse :=
  if request.endpoint.jwtAuth then
    let (result, ctx) := checkAuth cfg request.authorization request.receivedAt {}
    if result.status = .kOk then dispatch cfg request ctx else return result.reject
  -- signup and login run with no user data
  else dispatch cfg request {}

/-! ## Accepted headers -/

theorem bearerToken?_bearer (token : String) : bearerToken? (kAlgorithm ++ token) = some token := by
  have hp : kAlgorithm.toList.isPrefixOf (kAlgorithm ++ token).toList = true := by
    rw [String.toList_append, List.isPrefixOf_iff_prefix]; exact List.prefix_append _ _
  rw [bearerToken?, if_pos hp, String.toList_append, ← String.length_toList, List.drop_left,
    String.ofList_toList]

variable {cfg}

/-- What an accepted token has gone through. -/
theorem checkToken_ok {token : String} {now : ℤ} {r : AuthCheckResult × RequestContext}
    (h : checkToken cfg token now {} = .ok r) (hr : r.1.status = .kOk) :
    ∃ d subject u pos, cfg.jwt.decode token = .ok d ∧
      cfg.jwt.verify cfg.checkerSecret kServiceName now d = .ok () ∧
      cfg.jwt.getSubject d = .ok subject ∧ stoll subject = .ok (u, pos) ∧ r.2 = ⟨some u⟩ := by
  obtain ⟨d, hd, h⟩ := Atomic.bind_ok h
  obtain ⟨⟨⟩, hv, h⟩ := Atomic.bind_ok h
  obtain ⟨subject, hs, h⟩ := Atomic.bind_ok h
  split at h
  · obtain rfl := Except.ok.inj h; simp at hr
  · cases hn : stoll subject with
    | error e => rw [hn] at h; obtain rfl := Except.ok.inj h; simp at hr
    | ok p =>
      rw [hn] at h
      obtain rfl := Except.ok.inj h
      exact ⟨d, subject, p.1, p.2, hd, hv, hs, hn, rfl⟩

/-- **An accepted header** carries a token that verifies, and the user data is the number
at the front of its subject. -/
theorem checkAuth_ok {header : String} {now : ℤ}
    (h : (checkAuth cfg header now {}).1.status = .kOk) :
    ∃ token d subject u pos, bearerToken? header = some token ∧ cfg.jwt.decode token = .ok d ∧
      cfg.jwt.verify cfg.checkerSecret kServiceName now d = .ok () ∧
      cfg.jwt.getSubject d = .ok subject ∧ stoll subject = .ok (u, pos) ∧
      (checkAuth cfg header now {}).2 = ⟨some u⟩ := by
  unfold checkAuth at h ⊢
  by_cases he : header.isEmpty = true
  · rw [if_pos he] at h; simp at h
  rw [if_neg he] at h ⊢
  cases hb : bearerToken? header with
  | none => rw [hb] at h; simp at h
  | some token =>
    rw [hb] at h
    simp only at h ⊢
    cases ht : checkToken cfg token now {} with
    | error e => rw [ht] at h; cases e <;> simp at h
    | ok r =>
      rw [ht] at h
      obtain ⟨d, subject, u, pos, hd, hv, hs, hn, hr⟩ := checkToken_ok ht h
      exact ⟨token, d, subject, u, pos, rfl, hd, hv, hs, hn, hr⟩

/-- **A token that verifies and names a user** is accepted, and the user data is that
user. -/
theorem checkAuth_bearer {token subject : String} {now : ℤ} {d : D} {u : UserId} {pos : ℕ}
    (hd : cfg.jwt.decode token = .ok d)
    (hv : cfg.jwt.verify cfg.checkerSecret kServiceName now d = .ok ())
    (hs : cfg.jwt.getSubject d = .ok subject) (hn : stoll subject = .ok (u, pos)) :
    checkAuth cfg (kAlgorithm ++ token) now {} = ({}, ⟨some u⟩) := by
  have hne : (kAlgorithm ++ token).isEmpty = false := by
    rw [String.isEmpty_eq_false_iff]
    intro h
    have := congrArg String.toList h
    simp [kAlgorithm] at this
  have hsub : subject.isEmpty = false := by
    rw [String.isEmpty_eq_false_iff]
    rintro rfl
    rw [show stoll "" = .error .invalidArgument by decide] at hn
    simp at hn
  simp only [checkAuth, hne, Bool.false_eq_true, if_false, bearerToken?_bearer, checkToken, hd, hv,
    hs, hsub, hn, bind, Except.bind, RequestContext.setUserData]
  rfl

end Leadertask
