import Leadertask.Proof.Frame

/-!
# Whose fault a failed signup or login is

Both handlers answer 400 in one clause, whether the body was bad or the store failed.

* `blames_rightly_iff`: the client is blamed for its own faults only, except when the store
  fails on a valid body.
-/

namespace Leadertask

open Atomic

variable {D : Type} {cfg : Config D} {i : Input} {w : World} {request : HttpRequest}

/-! ## Faults of the client and of the store -/

/-- The body does not match its schema, or a required field is empty, or a value cannot be stored in
its column. -/
def Signup.ClientFault (body : Json) : Prop :=
  match CreateUserRequestBody.parse body with
  | .error _ => True
  | .ok b => ∃ s ∈ [b.login, b.password, b.firstName, b.lastName], s = "" ∨ ¬ Storable s

/-- The same, where nothing is stored, but Postgres is given a login that no column can hold. -/
def Login.ClientFault (body : Json) : Prop :=
  match LoginRequestBody.parse body with
  | .error _ => True
  | .ok b => b.login = "" ∨ b.password = "" ∨ ¬ IsText b.login

def ClientFault (request : HttpRequest) : Prop :=
  match request.endpoint with
  | .signup => Signup.ClientFault request.body
  | .login => Login.ClientFault request.body
  | _ => False

/-- The statement that the body leads to fails for a reason of the store's own. -/
def StoreFails (i : Input) (w : World) (request : HttpRequest) : Prop :=
  match request.endpoint with
  | .signup => ∃ b, CreateUserRequestBody.parse request.body = .ok b ∧
      (i.fault (.execute .kMaster (.insertUser b.login b.password b.firstName b.lastName)) = true ∨
        nextval w.pg.usersSeq i.skip = .error .sequenceExhausted)
  | .login => ∃ b, LoginRequestBody.parse request.body = .ok b ∧
      i.fault (.execute .kSlave (.selectUserByLogin b.login)) = true
  | _ => False

/-- The answer is 400 only for a fault of the client, and a server error when the store fails
on a valid body. -/
structure BlamesRightly (cfg : Config D) (i : Input) (w : World) (request : HttpRequest)
    (ctx : RequestContext) : Prop where
  badRequest : statusOf ((dispatch cfg request ctx).run (World.exec i) w).1 = .kBadRequest →
    ClientFault request
  serverError : ¬ ClientFault request → StoreFails i w request →
    statusOf ((dispatch cfg request ctx).run (World.exec i) w).1 = .kInternalServerError

/-! ## What the store answers -/

theorem UsersTable.insert_cases (t : UsersTable) (id : Int64) (login password firstName lastName : Varchar255) :
    t.insert id login password firstName lastName = .error .uniqueViolation ∨
      ∃ t', t.insert id login password firstName lastName = .ok t' := by
  unfold UsersTable.insert
  split
  · exact .inr ⟨_, rfl⟩
  · exact .inl rfl

/-- What a column refuses ends the insert. -/
theorem bind_refused {α β : Type} {x : Except Exn α} {f : α → Except Exn β}
    (h : x = .error .stringDataRightTruncation ∨ x = .error .characterNotInRepertoire) :
    x >>= f = .error .stringDataRightTruncation ∨ x >>= f = .error .characterNotInRepertoire := by
  rcases h with h | h
  · exact .inl (by rw [h]; rfl)
  · exact .inr (by rw [h]; rfl)

/-- Why a user's insert is refused. -/
theorem Postgres.insertUser_cases (i : Input) (pg : Postgres) (login password firstName lastName : String) :
    (nextval pg.usersSeq i.skip = .error .sequenceExhausted ∧
        pg.insertUser i login password firstName lastName = .error .sequenceExhausted) ∨
      ((∃ s ∈ [login, password, firstName, lastName], ¬ Storable s) ∧
        (pg.insertUser i login password firstName lastName = .error .stringDataRightTruncation ∨
          pg.insertUser i login password firstName lastName = .error .characterNotInRepertoire)) ∨
      (∃ k, nextval pg.usersSeq i.skip = .ok k) ∧
        (∀ s ∈ [login, password, firstName, lastName], Storable s) ∧
        (pg.insertUser i login password firstName lastName = .error .uniqueViolation ∨
          ∃ p, pg.insertUser i login password firstName lastName = .ok p) := by
  unfold Postgres.insertUser
  rcases nextval_cases pg.usersSeq i.skip with ⟨k, hk, -⟩ | hk
  case inr => exact .inl ⟨hk, by rw [hk]; rfl⟩
  right
  rw [hk, ok_bind]
  -- the columns in the order in which they are checked
  rcases varchar255_cases login with ⟨hl, h⟩ | ⟨hl, h⟩
  case inr => exact .inl ⟨⟨login, by simp, hl⟩, bind_refused h⟩
  rw [h, ok_bind]
  rcases varchar255_cases password with ⟨hp, h⟩ | ⟨hp, h⟩
  case inr => exact .inl ⟨⟨password, by simp, hp⟩, bind_refused h⟩
  rw [h, ok_bind]
  rcases varchar255_cases firstName with ⟨hf, h⟩ | ⟨hf, h⟩
  case inr => exact .inl ⟨⟨firstName, by simp, hf⟩, bind_refused h⟩
  rw [h, ok_bind]
  rcases varchar255_cases lastName with ⟨hn, h⟩ | ⟨hn, h⟩
  case inr => exact .inl ⟨⟨lastName, by simp, hn⟩, bind_refused h⟩
  rw [h, ok_bind]
  refine .inr ⟨⟨k, rfl⟩, by simp [hl, hp, hf, hn], ?_⟩
  rcases UsersTable.insert_cases pg.users (Int64.ofNat k) ⟨asColumn login, fitsColumn_asColumn hl.1⟩
    ⟨asColumn password, fitsColumn_asColumn hp.1⟩ ⟨asColumn firstName, fitsColumn_asColumn hf.1⟩
    ⟨asColumn lastName, fitsColumn_asColumn hn.1⟩ with h | ⟨users, h⟩
  · exact .inl (by simp only [bind, Except.bind, h])
  · exact .inr ⟨_, by simp only [bind, Except.bind, h]; rfl⟩

/-! ## What the handlers make of it -/

/-- A signup's status, by what the insert answers. -/
theorem Signup.status {b : CreateUserRequestBody} (hb : CreateUserRequestBody.parse request.body = .ok b)
    (hne : ∀ s ∈ [b.login, b.password, b.firstName, b.lastName], s ≠ "") :
    statusOf ((Signup.handleRequestJsonThrow cfg request).run (World.exec i) w).1 =
      match (World.exec i (.execute .kMaster
        (.insertUser b.login b.password b.firstName b.lastName)) w).1 with
      | .ok _ => .kOk
      | .error .uniqueViolation => .kConflict
      | .error _ => .kBadRequest := by
  have hempty : (b.login.isEmpty || b.password.isEmpty || b.firstName.isEmpty || b.lastName.isEmpty) = false := by
    simpa [and_assoc] using hne
  simp only [Signup.handleRequestJsonThrow, UsersRepository.createUser, execute, hb, hempty,
    Prog.ofExcept_ok, Prog.ret_andThen, Prog.bind_eq, Prog.tryCatch_eq, Prog.pure_eq, Prog.throw_eq,
    Bool.false_eq_true, if_false, Prog.run_catching, Prog.run_andThen, Prog.run_perform]
  rcases World.exec i (.execute .kMaster (.insertUser b.login b.password b.firstName b.lastName)) w with
    ⟨e | id, w'⟩
  · cases e <;> rfl
  · rfl

/-- A login with a text that Postgres takes is answered 400 exactly when the select fails. -/
theorem Login.status {b : LoginRequestBody} (hb : LoginRequestBody.parse request.body = .ok b)
    (hne : b.login ≠ "" ∧ b.password ≠ "") (htext : IsText b.login) :
    statusOf ((Login.handleRequestJsonThrow cfg request).run (World.exec i) w).1 = .kBadRequest ↔
      i.fault (.execute .kSlave (.selectUserByLogin b.login)) = true := by
  have hempty : (b.login.isEmpty || b.password.isEmpty) = false := by simpa using hne
  simp only [Login.handleRequestJsonThrow, UsersRepository.getByLoginWithPassword, execute, hb, hempty,
    Prog.ofExcept_ok, Prog.ret_andThen, Prog.bind_eq, Prog.tryCatch_eq, Prog.pure_eq,
    Bool.false_eq_true, if_false, Prog.run_catching, Prog.run_andThen, Prog.run_perform,
    World.exec_selectUserByLogin, w.pg.selectUserByLogin_of htext]
  cases hf : i.fault (.execute .kSlave (.selectUserByLogin b.login)) with
  | true => simp [statusOf, makeError]
  | false =>
    simp only [Bool.false_eq_true, if_false, iff_false, Prog.run_ret]
    cases (w.pg.users.rows.filter (·.login = b.login)).head? with
    | none => simp [statusOf, makeError]
    | some r =>
      by_cases hp : r.password = b.password
      · simp [hp, statusOf]
      · simp [hp, statusOf, makeError]

/-- The insert of values that their columns take is refused, other than for a login that is
taken, exactly when the store fails. -/
theorem World.insertUser_refused_iff {login password firstName lastName : String}
    (hcolumns : ∀ s ∈ [login, password, firstName, lastName], Storable s) :
    (∃ e, e ≠ .uniqueViolation ∧
        (World.exec i (.execute .kMaster (.insertUser login password firstName lastName)) w).1 =
          .error e) ↔
      i.fault (.execute .kMaster (.insertUser login password firstName lastName)) = true ∨
        nextval w.pg.usersSeq i.skip = .error .sequenceExhausted := by
  simp only [World.exec]
  cases hf : i.fault (.execute .kMaster (.insertUser login password firstName lastName)) with
  | true =>
    constructor
    · intro _
      exact .inl rfl
    · intro _
      exact ⟨.storeFailure, by simp, rfl⟩
  | false =>
    have hexec : (w.pg.exec i (.insertUser login password firstName lastName)).1 =
        (w.pg.insertUser i login password firstName lastName).map (·.1) := by
      simp only [Postgres.exec]
      cases w.pg.insertUser i login password firstName lastName <;> rfl
    simp only [Bool.false_eq_true, if_false, false_or, hexec]
    rcases Postgres.insertUser_cases i w.pg login password firstName lastName with
      ⟨hk, hins⟩ | ⟨⟨s, hs, hno⟩, -⟩ | ⟨⟨k, hk⟩, -, hins | ⟨p, hins⟩⟩
    · exact ⟨fun _ => hk, fun _ => ⟨.sequenceExhausted, by simp, by rw [hins]; rfl⟩⟩
    · exact absurd (hcolumns s hs) hno
    · rw [hins, hk]
      simp [Except.map]
    · rw [hins, hk]
      simp [Except.map]

theorem Signup.badRequest_iff {b : CreateUserRequestBody}
    (hb : CreateUserRequestBody.parse request.body = .ok b)
    (hne : ∀ s ∈ [b.login, b.password, b.firstName, b.lastName], s ≠ "") :
    statusOf ((Signup.handleRequestJsonThrow cfg request).run (World.exec i) w).1 = .kBadRequest ↔
      ∃ e, e ≠ .uniqueViolation ∧ (World.exec i (.execute .kMaster
        (.insertUser b.login b.password b.firstName b.lastName)) w).1 = .error e := by
  rw [Signup.status hb hne]
  cases (World.exec i (.execute .kMaster (.insertUser b.login b.password b.firstName b.lastName)) w).1 with
  | ok id => simp
  | error e => cases e <;> simp

/-- A valid body is answered 400 exactly when the store fails. -/
theorem badRequest_iff_storeFails (he : request.endpoint ∈ [.signup, .login])
    (hvalid : ¬ ClientFault request) (cfg : Config D) (i : Input) (w : World) (ctx : RequestContext) :
    statusOf ((dispatch cfg request ctx).run (World.exec i) w).1 = .kBadRequest ↔
      StoreFails i w request := by
  have he : request.endpoint = .signup ∨ request.endpoint = .login := by simpa using he
  rcases he with he | he <;> simp only [ClientFault, StoreFails, dispatch, he] at hvalid ⊢
  · cases hb : CreateUserRequestBody.parse request.body with
    | error e => simp [Signup.ClientFault, hb] at hvalid
    | ok b =>
      simp only [Signup.ClientFault, hb, not_exists, not_and, not_or, not_not] at hvalid
      rw [Signup.badRequest_iff hb fun s hs => (hvalid s hs).1,
        World.insertUser_refused_iff fun s hs => (hvalid s hs).2]
      simp
  · cases hb : LoginRequestBody.parse request.body with
    | error e => simp [Login.ClientFault, hb] at hvalid
    | ok b =>
      simp only [Login.ClientFault, hb, not_or, not_not] at hvalid
      rw [Login.status hb ⟨hvalid.1, hvalid.2.1⟩ hvalid.2.2]
      simp

/-- **Whom a signup or a login blames**: the client for its own faults, and also when the store
fails on a valid body. -/
theorem blames_rightly_iff (cfg : Config D) (i : Input) (w : World) (request : HttpRequest)
    (ctx : RequestContext) (he : request.endpoint ∈ [.signup, .login]) :
    BlamesRightly cfg i w request ctx ↔ ClientFault request ∨ ¬ StoreFails i w request := by
  by_cases hc : ClientFault request
  · have hright : BlamesRightly cfg i w request ctx := ⟨fun _ => hc, fun hno => absurd hc hno⟩
    exact ⟨fun _ => .inl hc, fun _ => hright⟩
  have hstatus := badRequest_iff_storeFails he hc cfg i w ctx
  constructor
  · intro h
    refine .inr fun hfails => hc ?_
    exact h.badRequest (hstatus.2 hfails)
  · rintro (hyes | hok)
    · exact absurd hyes hc
    · exact ⟨fun hbad => absurd (hstatus.1 hbad) hok, fun _ hfails => absurd hfails hok⟩

/-! ## A lost connection -/

/-- A signup with a valid body. -/
def validSignup : HttpRequest where
  endpoint := .signup
  body := .obj [("login", .str "ann"), ("password", .str "password"), ("firstName", .str "Ann"),
    ("lastName", .str "Lee")]

/-- Every call of a store fails. -/
def brokenInput : Input where
  fault := fun _ => true

/-- A signup that goes through. -/
theorem validSignup_blames :
    BlamesRightly (clearConfig .throws) {} emptyWorld validSignup {} ↔
      ClientFault validSignup ∨ ¬ StoreFails {} emptyWorld validSignup :=
  blames_rightly_iff (clearConfig .throws) {} emptyWorld validSignup {} (by decide)

/-- The body is valid and the store is down: the client is blamed. -/
theorem validSignup_blamed :
    ¬ ClientFault validSignup ∧
      statusOf ((dispatch (clearConfig .throws) validSignup {}).run (World.exec brokenInput) emptyWorld).1 =
        .kBadRequest ∧
      ¬ BlamesRightly (clearConfig .throws) brokenInput emptyWorld validSignup {} := by
  have hvalid : ¬ ClientFault validSignup := by
    have hparse : CreateUserRequestBody.parse validSignup.body = .ok ⟨"ann", "password", "Ann", "Lee"⟩ := by
      decide
    simp only [ClientFault, validSignup, Signup.ClientFault] at hparse ⊢
    rw [hparse]
    decide
  have hbad : statusOf ((dispatch (clearConfig .throws) validSignup {}).run (World.exec brokenInput)
      emptyWorld).1 = .kBadRequest := by decide
  exact ⟨hvalid, hbad, fun h => hvalid (h.badRequest hbad)⟩

end Leadertask
