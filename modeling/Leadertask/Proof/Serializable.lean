import Leadertask.Lib.Delivery
import Leadertask.Lib.Serial
import Leadertask.Model.Auth
import Leadertask.Proof.Accounts

/-!
# Requests that seem to be served one at a time

A handler asks the limiter and looks the goal up before the one statement that it is about, and
other requests step in between. What it has been told holds on: goals do not go away. So the
answers of a run are those of requests served one after another, each in the moment of its last
operation, which lies between its arrival and its reply.

* `Reports`: how the answer of each handler comes from its last operation.
* `dispatch_commits`: a handler keeps its effect for that operation.
* `runs_serial`: every interleaved run is serial, apart from the limiters' verdicts.
-/

namespace Leadertask

open Atomic

variable {D : Type} {τ κ : Type}

/-! ## What an answer reports -/

/-- What users-search answers with the rows. -/
def Search.answer (cfg : Config D) (rows : List UserRow) : Except Exn HttpResponse :=
  (rows.mapM (UsersRepository.readUser cfg)).map fun us => { payload := .users us }

/-- What goals-create answers once its document is stored. -/
def Goals.Create.answer (doc : GoalDoc) : HttpResponse where
  status := .kCreated
  payload := .createdGoal ⟨some doc.id.toString, some doc.title, doc.description, some doc.userId.toInt32⟩

/-- What the repository makes of the rows that a status update returned. -/
def TasksRepository.updated (cfg : Config D) (rows : List TaskRow) : Except Exn (Option Task) :=
  if rows.isEmpty then .ok none else (asSingleRow rows >>= readTask cfg).map some

/-- The operation has changed nothing. -/
def Idle (o : Op) (x : Except Exn o.Ret) : Prop := o.reads = true ∨ ∃ e, x = .error e

/-- An answer that reports nothing of the stores: no success, not that a login is taken, no refusal
but the checker's, and not that a goal is missing. -/
structure Fails (q : HttpRequest) (r : Except Exn HttpResponse) : Prop where
  noSuccess : ¬ IsSuccess r
  noConflict : statusOf r ≠ .kConflict
  noRefusal : statusOf r = .kUnauthorized → q.endpoint.jwtAuth = true
  unknownStatus : statusOf r = .kNotFound → q.endpoint = .tasksUpdateStatus ∧
    ∃ status, UpdateTaskStatusRequest.parse q.body = .ok ⟨status⟩ ∧ status ∉ taskStatuses

section

variable {q : HttpRequest} {msg : String}

theorem fails_makeError {status : HttpStatus}
    (h : status ∉ [.kOk, .kCreated, .kConflict, .kUnauthorized, .kNotFound]) :
    Fails q (.ok (makeError status msg)) := by
  simp only [List.mem_cons, List.not_mem_nil, or_false, not_or] at h
  obtain ⟨h1, h2, h3, h4, h5⟩ := h
  exact ⟨not_isSuccess_makeError ⟨h1, h2⟩, h3, fun hs => absurd hs h4, fun hs => absurd hs h5⟩

theorem fails_unauthorized (h : q.endpoint.jwtAuth = true) : Fails q (.ok (makeError .kUnauthorized msg)) :=
  ⟨not_isSuccess_makeError (by decide), by simp [statusOf, makeError], fun _ => h, by simp [statusOf, makeError]⟩

/-- An unknown status looks like a missing task. -/
theorem fails_unknownStatus {status : String} (he : q.endpoint = .tasksUpdateStatus)
    (hb : UpdateTaskStatusRequest.parse q.body = .ok ⟨status⟩) (hs : status ∉ taskStatuses) :
    Fails q (.ok (makeError .kNotFound msg)) :=
  ⟨not_isSuccess_makeError (by decide), by simp [statusOf, makeError], by simp [statusOf, makeError],
    fun _ => ⟨he, status, hb, hs⟩⟩

theorem fails_error (e : Exn) : Fails q (.error e) :=
  ⟨not_isSuccess_error e, by simp [statusOf], by simp [statusOf], by simp [statusOf]⟩

theorem fails_rateLimitExceeded (remaining : ℤ) : Fails q (.ok (rateLimitExceeded remaining)) :=
  ⟨not_isSuccess_rateLimitExceeded remaining, by simp [statusOf, rateLimitExceeded],
    by simp [statusOf, rateLimitExceeded], by simp [statusOf, rateLimitExceeded]⟩

end

/-- The user passes for the owner: the document's `userId` is compared as an `int`. -/
def GoalDoc.passesFor (u : UserId) (doc : GoalDoc) : Prop := doc.userId.toInt32.toInt64 = u

/-- The last operation of a request, its outcome and the answer. A request that ends with any
other operation, or with one that threw, reports nothing; only a signup reports why it threw. -/
inductive Reports (cfg : Config D) (q : HttpRequest) (ctx : RequestContext) :
    (o : Op) → Except Exn o.Ret → Except Exn HttpResponse → Prop
  | signup {login password firstName lastName : String} {id : Int64} {r : Except Exn HttpResponse}
      (he : q.endpoint = .signup)
      (hb : CreateUserRequestBody.parse q.body = .ok ⟨login, password, firstName, lastName⟩)
      (hfilled : login ≠ "" ∧ password ≠ "" ∧ firstName ≠ "" ∧ lastName ≠ "")
      (hr : r = .ok { payload := .createdUser ⟨id⟩ }) :
      Reports cfg q ctx (.execute .kMaster (.insertUser login password firstName lastName)) (.ok id) r
  | conflict {login password firstName lastName : String} {r : Except Exn HttpResponse}
      (he : q.endpoint = .signup)
      (hb : CreateUserRequestBody.parse q.body = .ok ⟨login, password, firstName, lastName⟩)
      (hr : r = .ok (makeError .kConflict "user already exists")) :
      Reports cfg q ctx (.execute .kMaster (.insertUser login password firstName lastName))
        (.error .uniqueViolation) r
  | login {login password : String} {rows : List UserRow} {r : Except Exn HttpResponse}
      (he : q.endpoint = .login) (hb : LoginRequestBody.parse q.body = .ok ⟨login, password⟩)
      (hr : r = .ok (Login.answer cfg password rows)) :
      Reports cfg q ctx (.execute .kSlave (.selectUserByLogin login)) (.ok rows) r
  | usersSearch {rows : List UserRow} {r : Except Exn HttpResponse} (he : q.endpoint = .usersSearch)
      (hr : r = Search.answer cfg rows) :
      Reports cfg q ctx (.execute .kSlave (.searchUsers (filterArg q.login) (filterArg q.firstNameMask)
        (filterArg q.lastNameMask))) (.ok rows) r
  | goalsCreate {doc : GoalDoc} {body : CreateGoalRequestBody} {x : Unit} {r : Except Exn HttpResponse}
      (he : q.endpoint = .goalsCreate) (hu : ctx.userData = some doc.userId)
      (hb : CreateGoalRequestBody.parse q.body = .ok body) (htitle : doc.title = body.title)
      (hdescription : doc.description = some (body.description.getD "")) (hfilled : doc.title ≠ "")
      (hr : r = .ok (Goals.Create.answer doc)) :
      Reports cfg q ctx (.mongo (.insertOne doc)) (.ok x) r
  | goalsList {u : UserId} {docs : List GoalDoc} {r : Except Exn HttpResponse}
      (he : q.endpoint = .goalsList) (hu : ctx.userData = some u)
      (hr : r = .ok { payload := .goals (docs.map GoalsRepository.readGoal) }) :
      Reports cfg q ctx (.mongo (.find u)) (.ok docs) r
  | tasksCreate {n : Int64} {pos : ℕ} {title : String} {row : TaskRow} {r : Except Exn HttpResponse}
      (he : q.endpoint = .tasksCreate) (hn : stoll q.goalId = .ok (n, pos))
      (hb : CreateTaskRequestBody.parse q.body = .ok ⟨title⟩) (hfilled : title ≠ "")
      (hr : r = Tasks.Create.answer cfg row) :
      Reports cfg q ctx (.execute .kMaster (.insertTask n title)) (.ok row) r
  | tasksList {n : Int64} {pos : ℕ} {rows : List TaskRow} {r : Except Exn HttpResponse}
      (he : q.endpoint = .tasksList) (hn : stoll q.goalId = .ok (n, pos))
      (hr : r = Tasks.List.answer cfg rows) :
      Reports cfg q ctx (.execute .kSlave (.selectTasksByGoal n)) (.ok rows) r
  | tasksUpdateStatus {id n : Int64} {status : String} {rows : List TaskRow}
      {r : Except Exn HttpResponse} (he : q.endpoint = .tasksUpdateStatus)
      (hg : parseInt q.goalId 0 = (true, id)) (ht : parseInt q.taskId 0 = (true, n))
      (hb : UpdateTaskStatusRequest.parse q.body = .ok ⟨status⟩)
      (hr : r = Tasks.UpdateTaskStatus.answer (TasksRepository.updated cfg rows)) :
      Reports cfg q ctx (.execute .kMaster (.updateTaskStatus id n status)) (.ok rows) r
  | goalMissing {oid : Oid} {found : Option GoalDoc} {u : UserId} {msg : String}
      {r : Except Exn HttpResponse} (he : q.endpoint ∈ [.tasksCreate, .tasksList, .tasksUpdateStatus])
      (hoid : Oid.ofString q.goalId = .ok oid) (hu : ctx.userData = some u)
      (hno : ∀ doc ∈ found, q.endpoint ≠ .tasksUpdateStatus ∧ ¬ doc.passesFor u)
      (hr : r = .ok (makeError .kNotFound msg)) :
      Reports cfg q ctx (.mongo (.findOne oid)) (.ok found) r
  | idle {o : Op} {x : Except Exn o.Ret} {r : Except Exn HttpResponse} (hx : Idle o x)
      (hr : Fails q r) : Reports cfg q ctx o x r

/-- A conversion that fails is answered 500. -/
theorem statusOf_map_ne {α : Type} {status : HttpStatus} {x : Except Exn α} {f : α → HttpResponse}
    (h : status ≠ .kInternalServerError) (hf : ∀ a, (f a).status ≠ status) : statusOf (x.map f) ≠ status := by
  cases x with
  | error e => exact fun he => h he.symm
  | ok a => exact hf a

/-! ## Handlers -/

/-- What a handler asks before its last operation it can be answered again: the limiter's
verdict, a new object id, and a goal that is there. -/
structure Steadfast (exec : κ → (o : Op) → τ → Except Exn o.Ret × τ) (input : κ → Prop)
    (M : τ → τ → Prop) : Prop where
  verdict : ∀ i e u t, input i → (exec i (.checkRateLimit e u) t).2 = t ∧
    Prog.Lasting exec input M (.checkRateLimit e u) (exec i (.checkRateLimit e u) t).1 t
  oid : ∀ i t, input i → (exec i .newOid t).2 = t ∧
    Prog.Lasting exec input M .newOid (exec i .newOid t).1 t
  goal : ∀ i id doc t, input i → (exec i (.mongo (.findOne id)) t).1 = .ok (some doc) →
    (exec i (.mongo (.findOne id)) t).2 = t ∧
      Prog.Lasting exec input M (.mongo (.findOne id)) (.ok (some doc)) t

section

variable {exec : κ → (o : Op) → τ → Except Exn o.Ret × τ} {input : κ → Prop} {M : τ → τ → Prop}
variable {ctx : RequestContext} {q : HttpRequest}
variable {R : (o : Op) → Except Exn o.Ret → Except Exn HttpResponse → Prop}

theorem withUserId_commits {msg : String} {k : UserId → Handler HttpResponse}
    (hauth : q.endpoint.jwtAuth = true) (hk : ∀ u, ctx.userData = some u → (k u).Commits exec input M R (Fails q)) :
    (withUserId ctx msg k).Commits exec input M R (Fails q) := by
  unfold withUserId RequestContext.getUserData
  cases hu : ctx.userData with
  | none => exact fails_unauthorized hauth
  | some u => exact hk u hu

theorem rateLimited_commits (h : Steadfast exec input M) {e : Endpoint} {u : UserId}
    {k : Handler HttpResponse} (hk : k.Commits exec input M R (Fails q)) :
    (rateLimited e u k).Commits exec input M R (Fails q) := by
  intro i t hi
  obtain ⟨hsame, hlasting⟩ := h.verdict i e u t hi
  refine .inr ⟨hsame, hlasting, ?_⟩
  cases (exec i (.checkRateLimit e u) t).1 with
  | error e => exact fails_error e
  | ok r =>
    show (if r.1 then k else _ : Handler HttpResponse).Commits exec input M _ _
    split
    · exact hk
    · exact fails_rateLimitExceeded _

/-- A goal's lookup ends the handler or finds the goal, which stays. -/
theorem getById_commits (h : Steadfast exec input M) {id : String}
    {k : Option Goal → Handler HttpResponse} (herror : ∀ oid e, R (.mongo (.findOne oid)) (.error e) (.error e))
    (hnone : ∀ oid, Oid.ofString id = .ok oid → (k none).Over (R (.mongo (.findOne oid)) (.ok none)))
    (hsome : ∀ oid doc, Oid.ofString id = .ok oid →
      (k (some (GoalsRepository.readGoal doc))).Over (R (.mongo (.findOne oid)) (.ok (some doc))) ∨
        (k (some (GoalsRepository.readGoal doc))).Commits exec input M R (Fails q)) :
    ((GoalsRepository.getById id).andThen k).Commits exec input M R (Fails q) := by
  unfold GoalsRepository.getById
  refine Prog.Commits.andThen (Prog.Commits.andThen (Prog.commits_ofExcept ?_))
  cases hoid : Oid.ofString id with
  | error e => exact fails_error e
  | ok oid =>
    refine Prog.Commits.andThen fun i t hi => ?_
    cases hr : (exec i (.mongo (.findOne oid)) t).1 with
    | error e => exact .inl (herror oid e)
    | ok doc =>
      cases doc with
      | none => exact .inl (hnone oid hoid)
      | some doc =>
        rcases hsome oid doc hoid with hover | hgoes
        · exact .inl hover
        · obtain ⟨hsame, hlasting⟩ := h.goal i oid doc t hi hr
          exact .inr ⟨hsame, hlasting, hgoes⟩

theorem withOwnGoal_commits (h : Steadfast exec input M) {u : UserId} {g : String}
    {k : Int64 → Handler HttpResponse}
    (hmissing : ∀ oid (found : Option GoalDoc) msg, Oid.ofString g = .ok oid →
      (∀ doc ∈ found, ¬ doc.passesFor u) →
      R (.mongo (.findOne oid)) (.ok found) (.ok (makeError .kNotFound msg)))
    (herror : ∀ oid e, R (.mongo (.findOne oid)) (.error e) (.error e))
    (hk : ∀ n pos, stoll g = .ok (n, pos) → (k n).Commits exec input M R (Fails q)) :
    (withOwnGoal u g k).Commits exec input M R (Fails q) := by
  unfold withOwnGoal
  cases hn : stoll g with
  | error e => exact fails_makeError (by decide)
  | ok p =>
    refine getById_commits h herror (fun oid hoid => hmissing oid none _ hoid (by simp)) fun oid doc hoid => ?_
    dsimp only
    split
    · rename_i hne
      exact .inl (hmissing oid (some doc) _ hoid fun d hd => Option.some.inj hd ▸ optionalNe_readGoal.1 hne)
    · exact .inr (hk _ _ hn)

variable (cfg : Config D) (request : HttpRequest)

theorem signup_commits (he : request.endpoint = .signup) :
    (Signup.handleRequestJsonThrow cfg request).Commits exec input M (Reports cfg request ctx)
      (Fails request) := by
  unfold Signup.handleRequestJsonThrow
  refine Prog.Commits.catching (Prog.Commits.andThen (Prog.commits_ofExcept ?_))
  cases hb : CreateUserRequestBody.parse request.body with
  | error e => exact fails_makeError (by decide)
  | ok body =>
    dsimp only
    split
    · exact fails_makeError (by decide)
    rename_i hempty
    refine Prog.Commits.andThen (Prog.Commits.catching (Prog.Commits.andThen
      (Prog.commits_call fun x => ?_)))
    cases x with
    | ok id =>
      have hfilled : body.login ≠ "" ∧ body.password ≠ "" ∧ body.firstName ≠ "" ∧ body.lastName ≠ "" := by
        simpa [and_assoc] using hempty
      exact Reports.signup he hb hfilled rfl
    | error e =>
      have hbad (exc : Exn) : Fails request (.ok (makeError .kBadRequest (cfg.what exc))) :=
        fails_makeError (by decide)
      cases e with
      | uniqueViolation => exact Reports.conflict he hb rfl
      | _ => exact Reports.idle (.inr ⟨_, rfl⟩) (hbad _)

theorem login_commits (he : request.endpoint = .login) :
    (Login.handleRequestJsonThrow cfg request).Commits exec input M (Reports cfg request ctx)
      (Fails request) := by
  unfold Login.handleRequestJsonThrow
  refine Prog.Commits.catching (Prog.Commits.andThen (Prog.commits_ofExcept ?_))
  cases hb : LoginRequestBody.parse request.body with
  | error e => exact fails_makeError (by decide)
  | ok body =>
    dsimp only
    split
    · exact fails_makeError (by decide)
    refine Prog.Commits.andThen (Prog.Commits.andThen (Prog.commits_call fun x => ?_))
    cases x with
    | error e =>
      have hbad : Fails request (.ok (makeError .kBadRequest (cfg.what e))) := fails_makeError (by decide)
      exact Reports.idle (.inr ⟨e, rfl⟩) hbad
    | ok rows =>
      cases rows with
      | nil => exact Reports.login he hb rfl
      | cons user rows =>
        refine Prog.over_ofExcept (Prog.over_ofExcept (r := .ok (some user)) ?_)
        dsimp only
        split
        · rename_i hp
          exact Reports.login he hb (by rw [Login.answer, if_pos hp])
        · rename_i hp
          exact Reports.login he hb (by rw [Login.answer, if_neg hp])

theorem search_commits (h : Steadfast exec input M) (he : request.endpoint = .usersSearch) :
    (Search.handleRequestJsonThrow cfg request ctx).Commits exec input M (Reports cfg request ctx)
      (Fails request) := by
  refine withUserId_commits (by rw [he]; rfl) fun u _ => rateLimited_commits h ?_
  split
  · exact fails_makeError (by decide)
  · refine Prog.Commits.andThen (Prog.Commits.andThen (Prog.commits_call fun x => ?_))
    cases x with
    | error e => exact Reports.idle (.inr ⟨e, rfl⟩) (fails_error e)
    | ok rows =>
      refine Prog.over_ofExcept (Prog.over_ofExcept ?_)
      cases hread : rows.mapM (UsersRepository.readUser cfg) with
      | error e => exact Reports.usersSearch he (by rw [Search.answer, hread]; rfl)
      | ok us => exact Reports.usersSearch he (by rw [Search.answer, hread]; rfl)

theorem goalsCreate_commits (h : Steadfast exec input M) (he : request.endpoint = .goalsCreate) :
    (Goals.Create.handleRequestJsonThrow request ctx).Commits exec input M (Reports cfg request ctx)
      (Fails request) := by
  unfold Goals.Create.handleRequestJsonThrow
  refine Prog.Commits.andThen (Prog.commits_ofExcept ?_)
  cases hb : CreateGoalRequestBody.parse request.body with
  | error e => exact fails_error e
  | ok body =>
    dsimp only
    split
    · exact fails_makeError (by decide)
    rename_i hempty
    refine withUserId_commits (by rw [he]; rfl) fun u hu => rateLimited_commits h ?_
    unfold GoalsRepository.createGoal
    refine Prog.Commits.andThen (Prog.Commits.andThen fun i t hi => ?_)
    obtain ⟨hsame, hlasting⟩ := h.oid i t hi
    refine .inr ⟨hsame, hlasting, Prog.commits_ofExcept ?_⟩
    cases (exec i .newOid t).1 with
    | error e => exact fails_error e
    | ok oid =>
      refine Prog.Commits.andThen (Prog.commits_call fun x => ?_)
      cases x with
      | error e => exact Reports.idle (.inr ⟨e, rfl⟩) (fails_error e)
      | ok _ => exact Reports.goalsCreate he hu hb rfl rfl (by simpa using hempty) rfl

theorem goalsList_commits (h : Steadfast exec input M) (he : request.endpoint = .goalsList) :
    (Goals.List.handleRequestJsonThrow ctx).Commits exec input M (Reports cfg request ctx)
      (Fails request) := by
  refine withUserId_commits (by rw [he]; rfl) fun u hu => rateLimited_commits h ?_
  refine Prog.Commits.andThen (Prog.Commits.andThen (Prog.commits_call fun x => ?_))
  cases x with
  | error e => exact Reports.idle (.inr ⟨e, rfl⟩) (fails_error e)
  | ok docs => exact Reports.goalsList he hu rfl

theorem tasksCreate_commits (h : Steadfast exec input M) (he : request.endpoint = .tasksCreate) :
    (Tasks.Create.handleRequestJsonThrow cfg request ctx).Commits exec input M
      (Reports cfg request ctx) (Fails request) := by
  unfold Tasks.Create.handleRequestJsonThrow
  refine Prog.Commits.andThen (Prog.commits_ofExcept ?_)
  cases hb : CreateTaskRequestBody.parse request.body with
  | error e => exact fails_error e
  | ok body =>
    dsimp only
    split
    · exact fails_makeError (by decide)
    rename_i hempty
    have hfilled : body.title ≠ "" := by simpa using hempty
    refine withUserId_commits (by rw [he]; rfl) fun u hu => rateLimited_commits h
      (withOwnGoal_commits h (fun _ _ _ hoid hno => .goalMissing (by simp [he]) hoid hu
        (fun doc hdoc => ⟨by simp [he], hno doc hdoc⟩) rfl)
      (fun _ e => .idle (.inl rfl) (fails_error e)) fun n pos hn => ?_)
    refine Prog.Commits.andThen (Prog.Commits.andThen (Prog.commits_call fun x => ?_))
    cases x with
    | error e => exact Reports.idle (.inr ⟨e, rfl⟩) (fails_error e)
    | ok row =>
      refine Prog.over_ofExcept (Prog.over_ofExcept ?_)
      cases hread : TasksRepository.readCreateTaskResponseBody cfg row with
      | error e => exact Reports.tasksCreate he hn hb hfilled (by rw [Tasks.Create.answer, hread]; rfl)
      | ok t => exact Reports.tasksCreate he hn hb hfilled (by rw [Tasks.Create.answer, hread]; rfl)

theorem tasksList_commits (h : Steadfast exec input M) (he : request.endpoint = .tasksList) :
    (Tasks.List.handleRequestJsonThrow cfg request ctx).Commits exec input M
      (Reports cfg request ctx) (Fails request) := by
  refine withUserId_commits (by rw [he]; rfl) fun u hu => rateLimited_commits h
    (withOwnGoal_commits h (fun _ _ _ hoid hno => .goalMissing (by simp [he]) hoid hu
        (fun doc hdoc => ⟨by simp [he], hno doc hdoc⟩) rfl)
      (fun _ e => .idle (.inl rfl) (fails_error e)) fun n pos hn => ?_)
  refine Prog.Commits.andThen (Prog.Commits.andThen (Prog.commits_call fun x => ?_))
  cases x with
  | error e => exact Reports.idle (.inr ⟨e, rfl⟩) (fails_error e)
  | ok rows =>
    refine Prog.over_ofExcept (Prog.over_ofExcept ?_)
    cases hread : rows.mapM (TasksRepository.readTask cfg) with
    | error e => exact Reports.tasksList he hn (by rw [Tasks.List.answer, hread]; rfl)
    | ok ts => exact Reports.tasksList he hn (by rw [Tasks.List.answer, hread]; rfl)

theorem tasksUpdateStatus_commits (h : Steadfast exec input M)
    (he : request.endpoint = .tasksUpdateStatus) :
    (Tasks.UpdateTaskStatus.handleRequestJsonThrow cfg request ctx).Commits exec input M
      (Reports cfg request ctx) (Fails request) := by
  refine withUserId_commits (by rw [he]; rfl) fun u hu => rateLimited_commits h ?_
  rcases hg : parseInt request.goalId 0 with ⟨goalOk, id⟩
  rcases ht : parseInt request.taskId 0 with ⟨taskOk, n⟩
  dsimp only
  split
  · exact fails_makeError (by decide)
  rename_i hok
  obtain ⟨rfl, rfl⟩ : goalOk = true ∧ taskOk = true := by simpa using hok
  refine getById_commits h (fun _ e => .idle (.inl rfl) (fails_error e))
    (fun _ hoid => Reports.goalMissing (by simp [he]) hoid hu (by simp) rfl) fun _ _ _ => .inr ?_
  dsimp only
  split
  · exact fails_makeError (by decide)
  rename_i body hb
  unfold TasksRepository.updateStatus
  refine Prog.Commits.andThen ?_
  split
  · rename_i hunknown
    exact fails_unknownStatus he hb fun hs => mem_taskStatuses.1 hs hunknown
  refine Prog.Commits.andThen (Prog.commits_call fun x => ?_)
  cases x with
  | error e => exact Reports.idle (.inr ⟨e, rfl⟩) (fails_error e)
  | ok rows =>
    refine Prog.over_ofExcept ?_
    dsimp only
    split
    · rename_i hempty
      exact Reports.tasksUpdateStatus he hg ht hb (by rw [TasksRepository.updated, if_pos hempty]; rfl)
    rename_i hrows
    refine Prog.Over.andThen (Prog.over_ofExcept ?_)
    cases hread : asSingleRow rows >>= TasksRepository.readTask cfg with
    | error e => exact Reports.tasksUpdateStatus he hg ht hb (by rw [TasksRepository.updated, if_neg hrows, hread]; rfl)
    | ok t => exact Reports.tasksUpdateStatus he hg ht hb (by rw [TasksRepository.updated, if_neg hrows, hread]; rfl)

/-- **A handler keeps its effect for its last operation**, which its answer reports. -/
theorem dispatch_commits (h : Steadfast exec input M) (ctx : RequestContext) :
    (dispatch cfg request ctx).Commits exec input M (Reports cfg request ctx) (Fails request) := by
  unfold dispatch
  split <;> rename_i he
  · exact signup_commits cfg request he
  · exact login_commits cfg request he
  · exact search_commits cfg request h he
  · exact goalsCreate_commits cfg request h he
  · exact goalsList_commits cfg request h he
  · exact tasksCreate_commits cfg request h he
  · exact tasksList_commits cfg request h he
  · exact tasksUpdateStatus_commits cfg request h he

/-- The user data with which the handler of a request runs. -/
def HttpRequest.context (cfg : Config D) (q : HttpRequest) : RequestContext :=
  if q.endpoint.jwtAuth then (checkAuth cfg q.authorization q.receivedAt {}).2 else {}

/-- The checker lets the request through, where there is one. -/
def HttpRequest.Passes (cfg : Config D) (q : HttpRequest) : Prop :=
  q.endpoint.jwtAuth = true → (checkAuth cfg q.authorization q.receivedAt {}).1.status = .kOk

/-- The last operation of a request on its way from its header to its answer. -/
def Answered (cfg : Config D) (q : HttpRequest) (o : Op) (x : Except Exn o.Ret)
    (r : Except Exn HttpResponse) : Prop := q.Passes cfg ∧ Reports cfg q (q.context cfg) o x r

theorem serve_commits (h : Steadfast exec input M) (q : HttpRequest) :
    (serve cfg q).Commits exec input M (Answered cfg q) (Fails q) := by
  have hhandler (hpass : q.Passes cfg) :
      (dispatch cfg q (q.context cfg)).Commits exec input M (Answered cfg q) (Fails q) :=
    (dispatch_commits cfg q h _).mono (fun _ _ _ hr => ⟨hpass, hr⟩) fun _ hr => hr
  unfold serve
  split
  · rename_i hauth
    rw [HttpRequest.context, if_pos hauth] at hhandler
    dsimp only
    split
    · rename_i hok
      exact hhandler fun _ => hok
    · -- the checker's refusal
      unfold AuthCheckResult.reject
      split
      · exact fails_makeError (by decide)
      · exact fails_unauthorized hauth
  · rename_i hauth
    rw [HttpRequest.context, if_neg hauth] at hhandler
    exact hhandler fun h => absurd h hauth

end

/-! ## The stores without the limiters -/

/-- Goals are never removed. -/
theorem GoalsCollection.exec_grows (c : GoalsCollection) (cmd : MongoCommand) :
    c.docs ⊆ (c.exec cmd).2.docs := by
  cases cmd with
  | insertOne doc =>
    simp only [GoalsCollection.exec]
    cases h : c.insertOne doc with
    | error e => exact List.Subset.refl _
    | ok p =>
      show _ ⊆ p.2.docs
      rw [(GoalsCollection.insertOne_ok h).1]
      exact List.subset_append_left _ _
  | findOne id => exact List.Subset.refl _
  | find userId => exact List.Subset.refl _

/-- A goal that was found is found again. -/
theorem GoalsCollection.findOne_again {c c' : GoalsCollection} {id : Oid} {doc : GoalDoc}
    (h : (c.exec (.findOne id)).1 = .ok (some doc)) (hgrown : c.docs ⊆ c'.docs) :
    c'.exec (.findOne id) = (.ok (some doc), c') := by
  obtain ⟨hmem, hid⟩ := (Rows.find_eq_some_iff c.idKey).1 (Except.ok.inj h)
  have hfind : c'.docs.find? (·.id = id) = some doc :=
    (Rows.find_eq_some_iff c'.idKey).2 ⟨hgrown hmem, hid⟩
  simp only [GoalsCollection.exec, hfind]

abbrev Stores := Postgres × GoalsCollection

/-- What the environment adds to an operation, with the limiter's verdict. -/
structure StoreInput extends Input where
  verdict : Bool × ℤ := (true, 0)

namespace Stores

/-- One operation on the stores, for limiters that answer as the environment says. -/
def exec (i : StoreInput) (o : Op) (s : Stores) : Except Exn o.Ret × Stores :=
  match o with
  | .checkRateLimit _ _ => (.ok i.verdict, s)
  | .newOid => (.ok i.oid, s)
  | .execute host stmt =>
    if i.fault (.execute host stmt) then (.error .storeFailure, s)
    else ((s.1.exec i.toInput stmt).1, ((s.1.exec i.toInput stmt).2, s.2))
  | .mongo cmd =>
    if i.fault (.mongo cmd) then (.error .storeFailure, s)
    else ((s.2.exec cmd).1, (s.1, (s.2.exec cmd).2))

def Grown (s s' : Stores) : Prop := s.2.docs ⊆ s'.2.docs

theorem exec_grows (i : StoreInput) (o : Op) (s : Stores) : s.Grown (Stores.exec i o s).2 := by
  cases o with
  | checkRateLimit e u => exact List.Subset.refl _
  | newOid => exact List.Subset.refl _
  | execute host stmt =>
    simp only [Stores.exec]
    split <;> exact List.Subset.refl _
  | mongo cmd =>
    simp only [Stores.exec]
    split
    · exact List.Subset.refl _
    · exact GoalsCollection.exec_grows _ _

/-- What a handler asks first the stores can tell it again. -/
theorem steadfast : Steadfast Stores.exec (fun _ => True) Grown where
  verdict := fun i e u s _ => ⟨rfl, fun _ _ => ⟨i, trivial, rfl⟩⟩
  oid := fun i s _ => ⟨rfl, fun _ _ => ⟨i, trivial, rfl⟩⟩
  goal := fun i id doc s _ h => by
    simp only [Stores.exec] at h ⊢
    split at h
    · simp at h
    rename_i hf
    rw [if_neg hf]
    refine ⟨rfl, fun s' hgrown => ⟨i, trivial, ?_⟩⟩
    simp only [Stores.exec, if_neg hf, GoalsCollection.findOne_again h hgrown]

end Stores

/-- **The service is strictly serializable**: the answers of a run, in the order of the last
operations, are those of requests that were served one after another, and so are the stores; and this
order agrees with real time. -/
theorem runs_serial (cfg : Config D) (w₀ : World) (es : List (Event HttpRequest Input)) :
    Serial Stores.exec (fun _ => True) (serve cfg) (fun _ _ => True) w₀.stores
        (Pool.seenLog World.stores ((Pool.start w₀).run World.exec (serve cfg) es).toShared)
        ((Pool.start w₀).run World.exec (serve cfg) es).world.stores ∧
      Pool.RealTime World.exec (serve cfg) (Pool.start w₀) es := by
  have h : Pool.Reach World.exec (serve cfg) (fun _ _ => True) (Pool.start w₀)
      ((Pool.start w₀).run World.exec (serve cfg) es) := Pool.Reach.foldl es fun _ _ _ => trivial
  refine ⟨?_, Pool.run_realTime _ _⟩
  refine Pool.Reach.serial (M := Stores.Grown) (fun _ => List.Subset.refl _)
    (fun _ _ _ => List.Subset.trans) (fun i o s _ => Stores.exec_grows i o s) ?_
    (fun _ _ _ => trivial) (fun _ _ _ _ => trivial)
    (fun q => (serve_commits cfg Stores.steadfast q).commitsLast) h
  intro s n i _ o
  cases o with
  | checkRateLimit e u =>
    exact ⟨{ i with verdict := (checkRateLimit (s.world.rateLimits e) u i.now i.created).1 }, trivial, rfl⟩
  | newOid => exact ⟨{ i with }, trivial, rfl⟩
  | execute host stmt =>
    refine ⟨{ i with }, trivial, ?_⟩
    simp only [Stores.exec, World.exec, World.stores]
    split <;> rfl
  | mongo cmd =>
    refine ⟨{ i with }, trivial, ?_⟩
    simp only [Stores.exec, World.exec, World.stores]
    split <;> rfl

/-- Both requests are in flight when the login looks for the account, too early. -/
example : (((Pool.start emptyWorld).run World.exec (serve (clearConfig .throws))
    [.arrive annSignup, .arrive annLogin, .turn 1 {}, .turn 0 {}]).log.map fun a => statusOf a.result) =
    [.kUnauthorized, .kOk] := by decide

end Leadertask
