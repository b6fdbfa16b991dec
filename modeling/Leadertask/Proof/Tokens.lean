import Leadertask.Model.Auth

/-!
# What is assumed of the token library

`Jwt.RoundTrip`: what `create` and `sign` produced, `decode`, `verify` and `get_subject`
take back unchanged. `clearJwt` is a token library in clear text that does so.

* `checkAuth_sign`: a token signed for a user is accepted as that user's.
-/

namespace Leadertask

variable {D : Type}

/-- `decode` and `verify` accept what `sign` produced under the same secret and issuer, at
any time, and its subject is the one that was signed. -/
structure Jwt.RoundTrip (jwt : Jwt D) : Prop where
  accepts : ∀ secret type issuer subject now, ∃ d,
    jwt.decode (jwt.sign secret type issuer subject) = .ok d ∧
      jwt.verify secret issuer now d = .ok () ∧ jwt.getSubject d = .ok subject

/-- **A token signed for a user is accepted as that user's**, for every 64-bit id. -/
theorem checkAuth_sign {cfg : Config D} (hjwt : cfg.jwt.RoundTrip)
    (hsecret : cfg.loginSecret = cfg.checkerSecret) (u : UserId) (now : ℤ) :
    checkAuth cfg (kAlgorithm ++ cfg.jwt.sign cfg.loginSecret "JWT" kIssuer (stdToString u)) now {} =
      ({}, ⟨some u⟩) := by
  obtain ⟨d, hd, hv, hs⟩ := hjwt.accepts cfg.loginSecret "JWT" kIssuer (stdToString u) now
  exact checkAuth_bearer hd (hsecret ▸ hv) hs (stoll_stdToString u)

/-! ## Tokens in clear text -/

/-- The text with a tag before each character. -/
def tagged (t : Char) (s : String) : List Char := s.toList.flatMap fun c => [t, c]

/-- The characters with this tag. -/
def untag (t : Char) : List Char → List Char
  | a :: c :: cs => if a = t then c :: untag t cs else untag t cs
  | _ => []

theorem untag_tagged (t t' : Char) (s : String) (rest : List Char) :
    untag t (tagged t' s ++ rest) = (if t' = t then s.toList else []) ++ untag t rest := by
  unfold tagged
  induction s.toList with
  | nil => simp
  | cons c cs ih =>
    rw [List.flatMap_cons, List.append_assoc, List.cons_append, List.cons_append, List.nil_append,
      untag, ih]
    split <;> rfl

/-- A token library in clear text: secret, issuer and subject, tagged. -/
def clearJwt : Jwt (String × String × String) where
  sign secret _ issuer subject :=
    String.ofList (tagged 'k' secret ++ (tagged 'i' issuer ++ tagged 's' subject))
  decode token := .ok (String.ofList (untag 'k' token.toList),
    String.ofList (untag 'i' token.toList), String.ofList (untag 's' token.toList))
  verify secret issuer _ d :=
    if d.1 ≠ secret then .error .signatureVerification
    else if d.2.1 ≠ issuer then .error .tokenVerification else .ok ()
  getSubject d := .ok d.2.2

theorem clearJwt_roundTrip : clearJwt.RoundTrip where
  accepts secret type issuer subject now := by
    have hs (t : Char) : untag t (tagged 's' subject) = if 's' = t then subject.toList else [] := by
      have := untag_tagged t 's' subject []
      rw [List.append_nil] at this
      rw [this]; simp [untag]
    exact ⟨(secret, issuer, subject), by simp [clearJwt, untag_tagged, hs], by simp [clearJwt], rfl⟩

/-- The service with clear-text tokens. -/
def clearConfig (m : Narrowing) : Config (String × String × String) where
  loginSecret := "secret"
  checkerSecret := "secret"
  jwt := clearJwt
  what := fun _ => "error"
  narrowing := m

/-- No users, goals or tasks. -/
def emptyWorld : World where
  pg := {
    users := .empty
    usersSeq := 0
    goalIds := []
    tasks := .empty
    tasksSeq := 0 }
  goals := .empty
  rateLimits := fun _ _ => none

end Leadertask
