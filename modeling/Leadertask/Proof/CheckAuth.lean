import Leadertask.Proof.Tokens

/-!
# What `CheckAuth` accepts

* `checkAuth_run`: with all its exceptions, `CheckAuth` is the function `checkAuth`.
* `checkAuth_bearerToken`: what it does with a token, in terms of the token's subject.
* `checkAuth_sound`: no exception escapes, and only a token that was checked through is
  accepted and leaves user data.
* `subjects_exact_iff`: which subjects are taken for the user id that they print.
* `rejects_unauthorized_iff`: which rejections are answered 401.
-/

namespace Leadertask

variable {D : Type} (cfg : Config D)

/-! ## Exceptions -/

theorem substr_ok {s : String} {pos : ℕ} (h : pos ≤ s.length) :
    substr s pos = .ok (String.ofList (s.toList.drop pos)) := if_pos h

@[simp] theorem lift_ok_bind {α β : Type} (a : α) (f : α → Checking β) :
    (liftM (Except.ok a : Except Exn α) : Checking α) >>= f = f a := rfl

/-- What the handlers make of an exception. -/
def handled (cfg : Config D) (exc : Exn) : AuthCheckResult :=
  match exc with
  | .tokenVerification => ⟨.kInvalidToken, some ("Token verif failed: " ++ cfg.what .tokenVerification), false⟩
  | exc => ⟨.kForbidden, some ("Token proces error: " ++ cfg.what exc), false⟩

theorem tryToken_run (token : String) (now : ℤ) (ctx : RequestContext) :
    (JwtChecker.tryToken cfg token now).run ctx =
      match checkToken cfg token now ctx with
      | .ok r => (.ok r.1, r.2)
      | .error exc => (.ok (handled cfg exc), ctx) := by
  unfold JwtChecker.tryToken checkToken handled
  cases hd : cfg.jwt.decode token with
  | error e => cases e <;> rfl
  | ok d =>
    simp only [lift_ok_bind]
    cases hv : cfg.jwt.verify cfg.checkerSecret kServiceName now d with
    | error e => cases e <;> simp only [bind, Except.bind, hv] <;> rfl
    | ok u =>
      simp only [lift_ok_bind]
      cases hs : cfg.jwt.getSubject d with
      | error e => cases e <;> simp only [bind, Except.bind, hv, hs] <;> rfl
      | ok subject =>
        simp only [lift_ok_bind]
        cases he : subject.isEmpty with
        | true => simp only [bind, Except.bind, hv, hs, he]; rfl
        | false =>
          cases hn : stoll subject with
          | error e => simp only [bind, Except.bind, hv, hs, he, hn]; rfl
          | ok p =>
            -- `SetUserData` throws where user data is stored already
            rcases ctx with ⟨_ | v⟩ <;> simp only [bind, Except.bind, hv, hs, he, hn] <;> rfl

/-- The two forms of `CheckAuth` are one. -/
theorem checkAuth_run (header : String) (now : ℤ) (ctx : RequestContext) :
    (JwtChecker.checkAuth cfg header now).run ctx =
      (.ok (checkAuth cfg header now ctx).1, (checkAuth cfg header now ctx).2) := by
  unfold JwtChecker.checkAuth checkAuth bearerToken?
  split
  · rfl
  · cases hp : kAlgorithm.toList.isPrefixOf header.toList with
    | false => rfl
    | true =>
      have hlen : kAlgorithm.length ≤ header.length := by
        rw [← String.length_toList, ← String.length_toList]
        exact (List.isPrefixOf_iff_prefix.1 hp).length_le
      rw [substr_ok hlen]
      simp only [if_true, Bool.not_true, Bool.false_eq_true, if_false]
      rw [lift_ok_bind, tryToken_run]
      cases checkToken cfg (String.ofList (header.toList.drop kAlgorithm.length)) now ctx with
      | ok r => rfl
      | error e => cases e <;> rfl

/-! ## The subject -/

/-- The subject of a token that verifies, or what the first step that fails throws. -/
def subjectOf (token : String) (now : ℤ) : Except Exn String := do
  let decoded ← cfg.jwt.decode token
  let _ ← cfg.jwt.verify cfg.checkerSecret kServiceName now decoded
  cfg.jwt.getSubject decoded

/-- What becomes of a subject. -/
def checkSubject (subject : String) (ctx : RequestContext) : AuthCheckResult × RequestContext :=
  if subject.isEmpty then (⟨.kInvalidToken, some "Token subjet is empty", true⟩, ctx)
  else
    match stoll subject with
    | .error _ => (⟨.kInvalidToken, some "Token subject is not integer ser_id", true⟩, ctx)
    | .ok (userId, _) =>
      match ctx.setUserData userId with
      | .ok ctx' => ({}, ctx')
      | .error exc => (handled cfg exc, ctx)

theorem bearerToken?_eq_some {header token : String} :
    bearerToken? header = some token ↔ header = kAlgorithm ++ token := by
  constructor
  · intro h
    unfold bearerToken? at h
    split at h
    · rename_i hp
      obtain ⟨rest, hrest⟩ := List.isPrefixOf_iff_prefix.1 hp
      rw [← Option.some.inj h, ← String.toList_inj, String.toList_append, String.toList_ofList, ← hrest,
        ← String.length_toList, List.drop_left]
    · simp at h
  · rintro rfl
    exact bearerToken?_bearer token

variable {cfg}

/-- A header without a bearer token. -/
theorem checkAuth_noToken (cfg : Config D) {header : String} (now : ℤ) (ctx : RequestContext)
    (h : bearerToken? header = none) :
    (checkAuth cfg header now ctx).2 = ctx ∧
      ((checkAuth cfg header now ctx).1.status = .kTokenNotFound ∨
        (checkAuth cfg header now ctx).1.status = .kInvalidToken) := by
  unfold checkAuth
  rw [h]
  split
  · exact ⟨rfl, .inl rfl⟩
  · exact ⟨rfl, .inr rfl⟩

/-- **A header with a bearer token**: the exception of the first step that fails is handled,
or the subject decides. -/
theorem checkAuth_bearerToken {header token : String} {now : ℤ} {ctx : RequestContext}
    (h : bearerToken? header = some token) :
    checkAuth cfg header now ctx =
      match subjectOf cfg token now with
      | .ok subject => checkSubject cfg subject ctx
      | .error exc => (handled cfg exc, ctx) := by
  have hne : header.isEmpty = false := by
    rw [String.isEmpty_eq_false_iff]
    rintro rfl
    simp [bearerToken?, kAlgorithm] at h
  unfold checkAuth checkToken subjectOf
  simp only [hne, Bool.false_eq_true, if_false, h]
  cases hd : cfg.jwt.decode token with
  | error e => cases e <;> rfl
  | ok d =>
    cases hv : cfg.jwt.verify cfg.checkerSecret kServiceName now d with
    | error e => cases e <;> simp only [bind, Except.bind, hv] <;> rfl
    | ok u =>
      cases hs : cfg.jwt.getSubject d with
      | error e => cases e <;> simp only [bind, Except.bind, hv, hs] <;> rfl
      | ok subject =>
        simp only [bind, Except.bind, hv, hs]
        unfold checkSubject
        cases he : subject.isEmpty with
        | true => rfl
        | false =>
          cases hn : stoll subject with
          | error e => rfl
          | ok p => rcases ctx with ⟨_ | v⟩ <;> rfl

theorem checkAuth_subject {header token subject : String} {now : ℤ} {ctx : RequestContext}
    (hb : bearerToken? header = some token) (hs : subjectOf cfg token now = .ok subject) :
    checkAuth cfg header now ctx = checkSubject cfg subject ctx := by
  rw [checkAuth_bearerToken hb, hs]

theorem checkAuth_exception {header token : String} {now : ℤ} {ctx : RequestContext} {exc : Exn}
    (hb : bearerToken? header = some token) (hs : subjectOf cfg token now = .error exc) :
    checkAuth cfg header now ctx = (handled cfg exc, ctx) := by
  rw [checkAuth_bearerToken hb, hs]

/-- An accepted subject is a number, and only where there is no user data yet. -/
theorem checkSubject_cases (cfg : Config D) (subject : String) (ctx : RequestContext) :
    (∃ u pos, stoll subject = .ok (u, pos) ∧ subject ≠ "" ∧ ctx = {} ∧
        checkSubject cfg subject ctx = ({}, ⟨some u⟩)) ∨
      ((checkSubject cfg subject ctx).1.status ≠ .kOk ∧ (checkSubject cfg subject ctx).2 = ctx) := by
  unfold checkSubject
  cases he : subject.isEmpty with
  | true => exact .inr ⟨by simp, rfl⟩
  | false =>
    cases hn : stoll subject with
    | error e => exact .inr ⟨by simp, rfl⟩
    | ok p =>
      rcases ctx with ⟨_ | v⟩
      · exact .inl ⟨p.1, p.2, rfl, String.isEmpty_eq_false_iff.1 he, rfl, rfl⟩
      · exact .inr ⟨by simp [RequestContext.setUserData, handled], rfl⟩

theorem checkSubject_not_forbidden (cfg : Config D) (subject : String) :
    (checkSubject cfg subject {}).1.status ≠ .kForbidden := by
  unfold checkSubject
  split
  · simp
  · split <;> simp [RequestContext.setUserData]

theorem handled_status (cfg : Config D) (exc : Exn) :
    (handled cfg exc).status = if exc = .tokenVerification then .kInvalidToken else .kForbidden := by
  cases exc <;> rfl

theorem subjectOf_ok {token subject : String} {now : ℤ} (h : subjectOf cfg token now = .ok subject) :
    ∃ d, cfg.jwt.decode token = .ok d ∧
      cfg.jwt.verify cfg.checkerSecret kServiceName now d = .ok () ∧ cfg.jwt.getSubject d = .ok subject := by
  obtain ⟨d, hd, h⟩ := Atomic.bind_ok h
  obtain ⟨⟨⟩, hv, hs⟩ := Atomic.bind_ok h
  exact ⟨d, hd, hv, hs⟩

/-! ## Soundness -/

/-- The header carries a token that decodes and verifies, and the user data is the number at
the front of its subject. -/
def CheckedThrough (cfg : Config D) (header : String) (now : ℤ) (ctx' : RequestContext) : Prop :=
  ∃ token d subject u pos, header = "Bearer " ++ token ∧ cfg.jwt.decode token = .ok d ∧
    cfg.jwt.verify cfg.checkerSecret "sample" now d = .ok () ∧ cfg.jwt.getSubject d = .ok subject ∧
    subject ≠ "" ∧ stoll subject = .ok (u, pos) ∧ ctx' = ⟨some u⟩

/-- **`CheckAuth` is sound**, for every header, clock and request context: no exception
escapes; a token that is accepted was decoded, verified and read; and user data is written if
and only if it is. -/
theorem checkAuth_sound (cfg : Config D) (header : String) (now : ℤ) (ctx : RequestContext) :
    ∃ r ctx', (JwtChecker.checkAuth cfg header now).run ctx = (.ok r, ctx') ∧
      (r.status = .kOk → CheckedThrough cfg header now ctx') ∧ (ctx' ≠ ctx ↔ r.status = .kOk) := by
  refine ⟨_, _, checkAuth_run cfg header now ctx, ?_⟩
  have rejected (p : AuthCheckResult × RequestContext) (hst : p.1.status ≠ .kOk) (hctx : p.2 = ctx) :
      (p.1.status = .kOk → CheckedThrough cfg header now p.2) ∧ (p.2 ≠ ctx ↔ p.1.status = .kOk) :=
    ⟨fun h => absurd h hst, fun h => absurd hctx h, fun h => absurd h hst⟩
  cases hb : bearerToken? header with
  | none =>
    obtain ⟨hctx, hst⟩ := checkAuth_noToken cfg now ctx hb
    exact rejected _ (by rcases hst with hst | hst <;> simp [hst]) hctx
  | some token =>
    cases hs : subjectOf cfg token now with
    | error exc =>
      rw [checkAuth_exception hb hs]
      exact rejected (handled cfg exc, ctx) (by rw [handled_status]; split <;> simp) rfl
    | ok subject =>
      rw [checkAuth_subject hb hs]
      rcases checkSubject_cases cfg subject ctx with ⟨u, pos, hn, hne, rfl, hok⟩ | ⟨hst, hctx⟩
      · obtain ⟨d, hd, hv, hsub⟩ := subjectOf_ok hs
        rw [hok]
        exact ⟨fun _ => ⟨token, d, subject, u, pos, bearerToken?_eq_some.1 hb, hd, hv, hsub, hne, hn, rfl⟩,
          by simp⟩
      · exact rejected _ hst hctx

/-! ## Subjects as user ids -/

/-- The text has a 64-bit number at its front, after white space and a sign. -/
def BeginsWithNumber (s : String) : Prop :=
  ∃ (n : ℤ) (pos : ℕ), Numeral.Reads s.toList n pos ∧ -2 ^ 63 ≤ n ∧ n < 2 ^ 63

/-- A number at the front is all that there is, as `std::to_string` prints it. -/
def ExactSubject (s : String) : Prop := BeginsWithNumber s → Numeral.canonical s.toList = true

/-- `CheckAuth` accepts the token as user `u`. -/
def Authenticates (cfg : Config D) (token : String) (now : ℤ) (u : UserId) : Prop :=
  checkAuth cfg (kAlgorithm ++ token) now {} = ({}, ⟨some u⟩)

/-- If the token is accepted, its subject is the text of the user id; and a subject that is
no such text is rejected. -/
def SubjectExact (cfg : Config D) (token : String) (now : ℤ) (s : String) : Prop :=
  (∀ u, Authenticates cfg token now u → s = stdToString u) ∧
    ((∀ u, s ≠ stdToString u) → (checkAuth cfg (kAlgorithm ++ token) now {}).1.status ≠ .kOk)

theorem authenticates_iff {token s : String} {now : ℤ} (h : subjectOf cfg token now = .ok s) {u : UserId} :
    Authenticates cfg token now u ↔ ∃ pos, stoll s = .ok (u, pos) := by
  unfold Authenticates
  rw [checkAuth_subject (bearerToken?_bearer token) h]
  constructor
  · intro hok
    rcases checkSubject_cases cfg s {} with ⟨u', pos, hn, -, -, hok'⟩ | ⟨hst, -⟩
    · rw [hok'] at hok
      obtain rfl : u' = u := by simpa using hok
      exact ⟨pos, hn⟩
    · exact absurd (by rw [hok]) hst
  · rintro ⟨pos, hn⟩
    have hne : s.isEmpty = false := by
      rw [String.isEmpty_eq_false_iff]
      rintro rfl
      rw [show stoll "" = .error .invalidArgument by decide] at hn
      simp at hn
    simp only [checkSubject, hne, Bool.false_eq_true, if_false, hn]
    rfl

/-- The number at the front of a canonical text is the number it prints. -/
theorem stdToString_of_canonical {s : String} {u : UserId} {pos : ℕ} (hn : stoll s = .ok (u, pos))
    (hc : Numeral.canonical s.toList = true) : s = stdToString u := by
  obtain ⟨n, hread, h1, h2, rfl⟩ := stoll_ok_iff.1 hn
  obtain ⟨m, hm⟩ := Numeral.canonical_iff.1 hc
  have hscan := Numeral.scan_eq_some.2 hread
  rw [hm, Numeral.scan_toString] at hscan
  obtain rfl : m = n := (Prod.mk.inj (Option.some.inj hscan)).1
  rw [stdToString, Int64.toInt_ofInt_of_le h1 h2]
  exact String.toList_inj.1 hm

/-- **Which subjects are exact**: those with no number at their front, which are rejected,
and those that are the text of one. -/
theorem subjectExact_iff {token s : String} {now : ℤ} (h : subjectOf cfg token now = .ok s) :
    SubjectExact cfg token now s ↔ ExactSubject s := by
  constructor
  · rintro ⟨hexact, -⟩ ⟨n, pos, hread, h1, h2⟩
    have hs := hexact _ ((authenticates_iff h).2 ⟨pos, stoll_ok_iff.2 ⟨n, hread, h1, h2, rfl⟩⟩)
    exact Numeral.canonical_iff.2 ⟨_, congrArg String.toList hs⟩
  · intro hexact
    have hprints : ∀ u, Authenticates cfg token now u → s = stdToString u := by
      intro u hu
      obtain ⟨pos, hn⟩ := (authenticates_iff h).1 hu
      obtain ⟨n, hread, h1, h2, -⟩ := stoll_ok_iff.1 hn
      exact stdToString_of_canonical hn (hexact ⟨n, pos, hread, h1, h2⟩)
    refine ⟨hprints, fun hno hst => ?_⟩
    rw [checkAuth_subject (bearerToken?_bearer token) h] at hst
    rcases checkSubject_cases cfg s {} with ⟨u, pos, hn, -⟩ | ⟨hst', -⟩
    · exact hno u (hprints u ((authenticates_iff h).2 ⟨pos, hn⟩))
    · exact hst' hst

/-- **Where the authenticated id is the token's subject.** A verified token is exact if and
only if its subject is, and two tokens with different exact subjects never authenticate as
one user. -/
theorem subjects_exact_iff (cfg : Config D) {token₁ token₂ s₁ s₂ : String} {now₁ now₂ : ℤ}
    (h₁ : subjectOf cfg token₁ now₁ = .ok s₁) (h₂ : subjectOf cfg token₂ now₂ = .ok s₂) :
    (SubjectExact cfg token₁ now₁ s₁ ↔ ExactSubject s₁) ∧
      (ExactSubject s₁ → ExactSubject s₂ → s₁ ≠ s₂ →
        ∀ u, ¬ (Authenticates cfg token₁ now₁ u ∧ Authenticates cfg token₂ now₂ u)) := by
  refine ⟨subjectExact_iff h₁, fun he₁ he₂ hne u hu => hne ?_⟩
  rw [((subjectExact_iff h₁).2 he₁).1 u hu.1, ((subjectExact_iff h₂).2 he₂).1 u hu.2]

/-- A token for the subject, signed with the service's secret. -/
def clearToken (subject : String) : String := clearJwt.sign "secret" "JWT" "sample" subject

theorem clearToken_subject (subject : String) (now : ℤ) :
    subjectOf (clearConfig .throws) (clearToken subject) now = .ok subject := by
  obtain ⟨d, hd, hv, hs⟩ := clearJwt_roundTrip.accepts "secret" "JWT" "sample" subject now
  have hd' : (clearConfig .throws).jwt.decode (clearToken subject) = .ok d := hd
  have hv' : (clearConfig .throws).jwt.verify (clearConfig .throws).checkerSecret kServiceName now d = .ok () := hv
  rw [subjectOf, hd']
  simp only [bind, Except.bind, hv']
  exact hs

theorem seven_and_minus_eight_exact : (SubjectExact (clearConfig .throws) (clearToken "7") 0 "7" ↔ ExactSubject "7") ∧
    (ExactSubject "7" → ExactSubject "-8" → "7" ≠ "-8" → ∀ u,
      ¬ (Authenticates (clearConfig .throws) (clearToken "7") 0 u ∧
        Authenticates (clearConfig .throws) (clearToken "-8") 0 u)) :=
  subjects_exact_iff (clearConfig .throws) (clearToken_subject "7" 0) (clearToken_subject "-8" 0)

/-- The text after the number is ignored. -/
theorem trailing_text_accepted :
    ¬ SubjectExact (clearConfig .throws) (clearToken "12abc") 0 "12abc" := by
  intro h
  have hauth : Authenticates (clearConfig .throws) (clearToken "12abc") 0 12 :=
    (authenticates_iff (clearToken_subject _ _)).2 ⟨2, by decide⟩
  exact absurd (h.1 12 hauth) (by decide)

/-! ## Rejections -/

/-- Unless the header is accepted, the answer is 401. -/
def RejectsUnauthorized (cfg : Config D) (header : String) (now : ℤ) : Prop :=
  (checkAuth cfg header now {}).1.status ≠ .kOk →
    (checkAuth cfg header now {}).1.reject.status = .kUnauthorized

theorem reject_status (r : AuthCheckResult) :
    r.reject.status = .kUnauthorized ↔ r.status ≠ .kForbidden := by
  unfold AuthCheckResult.reject makeError
  by_cases h : r.status = .kForbidden <;> simp [h]

/-- **Which rejections are answered 401**: all but those where decoding, verifying or reading
the subject throws something else than `token_verification_exception`. -/
theorem rejects_unauthorized_iff (cfg : Config D) (header : String) (now : ℤ) :
    RejectsUnauthorized cfg header now ↔
      ∀ token, header = kAlgorithm ++ token → ∀ exc, subjectOf cfg token now = .error exc →
        exc = .tokenVerification := by
  unfold RejectsUnauthorized
  rw [reject_status]
  cases hb : bearerToken? header with
  | none =>
    obtain ⟨-, hst⟩ := checkAuth_noToken cfg now {} hb
    constructor
    · rintro - token rfl
      rw [bearerToken?_bearer] at hb
      simp at hb
    · rintro - -
      rcases hst with hst | hst <;> simp [hst]
  | some token =>
    obtain rfl := bearerToken?_eq_some.1 hb
    cases hs : subjectOf cfg token now with
    | error exc =>
      have hst : (checkAuth cfg (kAlgorithm ++ token) now {}).1.status =
          if exc = .tokenVerification then .kInvalidToken else .kForbidden := by
        rw [checkAuth_exception hb hs, handled_status]
      rw [hst]
      constructor
      · intro h token' he exc' hs'
        obtain rfl : token = token' := by simpa [bearerToken?_bearer] using congrArg bearerToken? he
        obtain rfl : exc = exc' := by simpa [hs] using hs'
        by_contra hno
        simp [hno] at h
      · intro h
        simp [h token rfl exc hs]
    | ok subject =>
      rw [checkAuth_subject hb hs]
      constructor
      · intro _ token' he exc' hs'
        obtain rfl : token = token' := by simpa [bearerToken?_bearer] using congrArg bearerToken? he
        simp [hs] at hs'
      · intro _ _
        exact checkSubject_not_forbidden cfg subject

/-- A token with a wrong signature is answered 403. -/
theorem wrong_signature_forbidden :
    ¬ RejectsUnauthorized (clearConfig .throws)
      (kAlgorithm ++ clearJwt.sign "other" "JWT" "sample" "7") 0 := by
  unfold RejectsUnauthorized
  decide

end Leadertask
