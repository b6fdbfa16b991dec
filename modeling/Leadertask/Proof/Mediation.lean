import Leadertask.Lib.Monitor
import Leadertask.Proof.Serializable

/-!
# What the service asks of its stores

No operation reaches the limiters or the stores on its own. Each is called for a request that arrived
and whose header the checker accepts, with the arguments that the request gives, and only after the
answers that let it through: the limiter's, and Mongo's on the goal of the path.

* `Permitted`: the operations of each endpoint, with their arguments and what comes before them.
* `operations_mediated`: in every run, whatever the stores answer, there is no other operation.
-/

namespace Leadertask

open Atomic

variable {D : Type} {cfg : Config D}

abbrev StorePast := Past Op Op.Ret Exn

/-- The limiter of the endpoint has let the user through. -/
def LimiterPassed (past : StorePast) (request : HttpRequest) (u : UserId) : Prop :=
  ∃ remaining, ⟨.checkRateLimit request.endpoint u, .ok (true, remaining)⟩ ∈ past

/-- Mongo has shown a goal for the id in the path. -/
def GoalShown (past : StorePast) (request : HttpRequest) (doc : GoalDoc) : Prop :=
  ∃ oid, Oid.ofString request.goalId = .ok oid ∧ ⟨.mongo (.findOne oid), .ok (some doc)⟩ ∈ past

/-- The operation is the request's own, and its time has come. -/
def Permitted (request : HttpRequest) (ctx : RequestContext) (past : StorePast) : Op → Prop
  | .checkRateLimit e u => e = request.endpoint ∧ ctx.userData = some u
  | .newOid => request.endpoint = .goalsCreate ∧ ∃ u, ctx.userData = some u ∧ LimiterPassed past request u
  | .execute host (.insertUser login password firstName lastName) =>
    request.endpoint = .signup ∧ host = .kMaster ∧
      CreateUserRequestBody.parse request.body = .ok ⟨login, password, firstName, lastName⟩ ∧
      login ≠ "" ∧ password ≠ "" ∧ firstName ≠ "" ∧ lastName ≠ ""
  | .execute host (.selectUserByLogin login) =>
    request.endpoint = .login ∧ host = .kSlave ∧
      ∃ password, LoginRequestBody.parse request.body = .ok ⟨login, password⟩ ∧ login ≠ "" ∧ password ≠ ""
  | .execute host (.searchUsers login firstNameMask lastNameMask) =>
    request.endpoint = .usersSearch ∧ host = .kSlave ∧ login = filterArg request.login ∧
      firstNameMask = filterArg request.firstNameMask ∧ lastNameMask = filterArg request.lastNameMask ∧
      (login.isSome ∨ firstNameMask.isSome ∨ lastNameMask.isSome) ∧
      ∃ u, ctx.userData = some u ∧ LimiterPassed past request u
  | .execute host (.insertTask goalId title) =>
    request.endpoint = .tasksCreate ∧ host = .kMaster ∧
      CreateTaskRequestBody.parse request.body = .ok ⟨title⟩ ∧ title ≠ "" ∧
      (∃ pos, stoll request.goalId = .ok (goalId, pos)) ∧
      ∃ u doc, ctx.userData = some u ∧ LimiterPassed past request u ∧ GoalShown past request doc ∧ doc.passesFor u
  | .execute host (.selectTasksByGoal goalId) =>
    request.endpoint = .tasksList ∧ host = .kSlave ∧ (∃ pos, stoll request.goalId = .ok (goalId, pos)) ∧
      ∃ u doc, ctx.userData = some u ∧ LimiterPassed past request u ∧ GoalShown past request doc ∧ doc.passesFor u
  -- the path's two numbers change places, and no owner is asked for
  | .execute host (.updateTaskStatus id goalId status) =>
    request.endpoint = .tasksUpdateStatus ∧ host = .kMaster ∧
      UpdateTaskStatusRequest.parse request.body = .ok ⟨status⟩ ∧ status ∈ taskStatuses ∧
      parseInt request.goalId 0 = (true, id) ∧ parseInt request.taskId 0 = (true, goalId) ∧
      ∃ u doc, ctx.userData = some u ∧ LimiterPassed past request u ∧ GoalShown past request doc
  | .mongo (.insertOne doc) =>
    request.endpoint = .goalsCreate ∧ ctx.userData = some doc.userId ∧ LimiterPassed past request doc.userId ∧
      ⟨.newOid, .ok doc.id⟩ ∈ past ∧ doc.title ≠ "" ∧
      ∃ body, CreateGoalRequestBody.parse request.body = .ok body ∧ doc.title = body.title ∧
        doc.description = some (body.description.getD "")
  | .mongo (.findOne oid) =>
    request.endpoint ∈ [.tasksCreate, .tasksList, .tasksUpdateStatus] ∧ Oid.ofString request.goalId = .ok oid ∧
      ∃ u, ctx.userData = some u ∧ LimiterPassed past request u
  | .mongo (.find u) => request.endpoint = .goalsList ∧ ctx.userData = some u ∧ LimiterPassed past request u
  -- no handler looks a user or a task up by its id
  | .execute _ (.selectUserById _) => False
  | .execute _ (.userExists _) => False
  | .execute _ (.selectTaskById _) => False

/-! ## Handlers -/

section

variable {P : StorePast → Op → Prop} {past : StorePast} {ctx : RequestContext}

theorem withUserId_guarded {msg : String} {k : UserId → Handler HttpResponse}
    (hk : ∀ u, ctx.userData = some u → (k u).Guarded P past) : (withUserId ctx msg k).Guarded P past := by
  unfold withUserId RequestContext.getUserData
  cases hu : ctx.userData with
  | none => trivial
  | some u => exact hk u hu

theorem rateLimited_guarded {e : Endpoint} {u : UserId} {k : Handler HttpResponse}
    (h : P past (.checkRateLimit e u))
    (hk : ∀ remaining, k.Guarded P (past ++ [⟨.checkRateLimit e u, .ok (true, remaining)⟩])) :
    (rateLimited e u k).Guarded P past := by
  refine ⟨h, fun r => ?_⟩
  rcases r with e | ⟨allowed, remaining⟩
  · trivial
  · cases allowed with
    | true => exact hk remaining
    | false => trivial

theorem execute_guarded {host : ClusterHostType} {stmt : Sql} (h : P past (.execute host stmt)) :
    (execute host stmt).Guarded P past := ⟨h, fun r => Prog.guarded_ofExcept r⟩

theorem mongo_guarded {cmd : MongoCommand} (h : P past (.mongo cmd)) : (mongo cmd).Guarded P past :=
  ⟨h, fun r => Prog.guarded_ofExcept r⟩

/-- A lookup of a goal, before a program that looks back at what it found. -/
theorem getById_guarded {g : String} {k : Option Goal → Handler HttpResponse}
    (h : ∀ oid, Oid.ofString g = .ok oid → P past (.mongo (.findOne oid)))
    (hnone : ∀ past', (k none).Guarded P past')
    (hsome : ∀ oid doc, Oid.ofString g = .ok oid →
      (k (some (GoalsRepository.readGoal doc))).Guarded P (past ++ [⟨.mongo (.findOne oid), .ok (some doc)⟩])) :
    ((GoalsRepository.getById g).andThen k).Guarded P past := by
  unfold GoalsRepository.getById
  cases hoid : Oid.ofString g with
  | error e => trivial
  | ok oid =>
    refine ⟨h oid hoid, fun r => ?_⟩
    rcases r with e | _ | doc
    · trivial
    · exact hnone _
    · exact hsome oid doc hoid

theorem withOwnGoal_guarded {u : UserId} {g : String} {k : Int64 → Handler HttpResponse}
    (h : ∀ oid, Oid.ofString g = .ok oid → P past (.mongo (.findOne oid)))
    (hk : ∀ n pos oid doc, stoll g = .ok (n, pos) → Oid.ofString g = .ok oid → doc.passesFor u →
      (k n).Guarded P (past ++ [⟨.mongo (.findOne oid), .ok (some doc)⟩])) :
    (withOwnGoal u g k).Guarded P past := by
  unfold withOwnGoal
  cases hn : stoll g with
  | error e => trivial
  | ok p =>
    refine getById_guarded h (fun past' => trivial) fun oid doc hoid => ?_
    dsimp only
    split
    · trivial
    · rename_i hne
      refine hk p.1 p.2 oid doc hn hoid ?_
      by_contra hother
      exact hne (optionalNe_readGoal.2 hother)

end

/-- The limiter's answer stays in the past. -/
theorem passed_append {request : HttpRequest} {e : Endpoint} {u : UserId} {remaining : ℤ} (he : request.endpoint = e)
    (past : StorePast) : LimiterPassed (([] ++ [⟨.checkRateLimit e u, .ok (true, remaining)⟩]) ++ past) request u :=
  ⟨remaining, by rw [he]; exact List.mem_append_left _ (List.mem_singleton_self _)⟩

theorem passed_singleton {request : HttpRequest} {e : Endpoint} {u : UserId} {remaining : ℤ}
    (he : request.endpoint = e) : LimiterPassed ([] ++ [⟨.checkRateLimit e u, .ok (true, remaining)⟩]) request u :=
  List.append_nil [_] ▸ passed_append he []

section

variable (cfg : Config D) (request : HttpRequest) (ctx : RequestContext)

theorem signup_guarded (he : request.endpoint = .signup) :
    (Signup.handleRequestJsonThrow cfg request).Guarded (Permitted request ctx) [] := by
  unfold Signup.handleRequestJsonThrow
  cases hb : CreateUserRequestBody.parse request.body with
  | error e => trivial
  | ok body =>
    refine Prog.Guarded.catching (p := (Prog.ofExcept (.ok body)).andThen _) ?_ fun e past' => trivial
    rw [Prog.ofExcept_ok, Prog.ret_andThen]
    split
    · trivial
    rename_i hempty
    have hfilled : body.login ≠ "" ∧ body.password ≠ "" ∧ body.firstName ≠ "" ∧ body.lastName ≠ "" := by
      simpa [and_assoc] using hempty
    refine Prog.Guarded.andThen (Prog.Guarded.catching ?_ fun e past' => ?_) fun user past' => ?_
    · exact Prog.Guarded.andThen (execute_guarded ⟨he, rfl, hb, hfilled⟩) fun _ _ => trivial
    · cases e <;> trivial
    · cases user <;> trivial

theorem login_guarded (he : request.endpoint = .login) :
    (Login.handleRequestJsonThrow cfg request).Guarded (Permitted request ctx) [] := by
  unfold Login.handleRequestJsonThrow
  cases hb : LoginRequestBody.parse request.body with
  | error e => trivial
  | ok body =>
    refine Prog.Guarded.catching (p := (Prog.ofExcept (.ok body)).andThen _) ?_ fun e past' => trivial
    rw [Prog.ofExcept_ok, Prog.ret_andThen]
    split
    · trivial
    rename_i hempty
    have hfilled : body.login ≠ "" ∧ body.password ≠ "" := by simpa using hempty
    refine Prog.Guarded.andThen ?_ fun user past' => ?_
    · exact Prog.Guarded.andThen (execute_guarded ⟨he, rfl, body.password, hb, hfilled⟩) fun _ _ => trivial
    · rcases user with _ | user
      · trivial
      · dsimp only
        split <;> trivial

theorem search_guarded (he : request.endpoint = .usersSearch) :
    (Search.handleRequestJsonThrow cfg request ctx).Guarded (Permitted request ctx) [] := by
  refine withUserId_guarded fun u hu => rateLimited_guarded ⟨he.symm, hu⟩ fun remaining => ?_
  split
  · trivial
  rename_i hempty
  have hfilter : (filterArg request.login).isSome ∨ (filterArg request.firstNameMask).isSome ∨
      (filterArg request.lastNameMask).isSome := by
    unfold filterArg
    by_contra hno
    simp_all
  refine Prog.Guarded.andThen (Prog.Guarded.andThen (execute_guarded ?_) fun _ _ => Prog.guarded_ofExcept _)
    fun _ _ => trivial
  exact ⟨he, rfl, rfl, rfl, rfl, hfilter, u, hu, passed_singleton he⟩

theorem goalsCreate_guarded (he : request.endpoint = .goalsCreate) :
    (Goals.Create.handleRequestJsonThrow request ctx).Guarded (Permitted request ctx) [] := by
  unfold Goals.Create.handleRequestJsonThrow
  cases hb : CreateGoalRequestBody.parse request.body with
  | error e => trivial
  | ok body =>
    rw [Prog.bind_eq, Prog.ofExcept_ok, Prog.ret_andThen]
    split
    · trivial
    rename_i hempty
    have htitle : body.title ≠ "" := by simpa using hempty
    refine withUserId_guarded fun u hu => rateLimited_guarded ⟨he.symm, hu⟩ fun remaining => ?_
    refine Prog.Guarded.andThen (Prog.guarded_perform ⟨he, u, hu, passed_singleton he⟩ fun oid => ?_)
      fun _ _ => trivial
    refine Prog.Guarded.andThen (mongo_guarded ?_) fun _ _ => trivial
    exact ⟨he, hu, passed_append he _, List.mem_append_right _ (List.mem_singleton_self _), htitle, body, hb, rfl,
      rfl⟩

theorem goalsList_guarded (he : request.endpoint = .goalsList) :
    (Goals.List.handleRequestJsonThrow ctx).Guarded (Permitted request ctx) [] := by
  refine withUserId_guarded fun u hu => rateLimited_guarded ⟨he.symm, hu⟩ fun remaining => ?_
  exact Prog.Guarded.andThen
    (Prog.Guarded.andThen (mongo_guarded ⟨he, hu, passed_singleton he⟩) fun _ _ => trivial) fun _ _ => trivial

theorem tasksCreate_guarded (he : request.endpoint = .tasksCreate) :
    (Tasks.Create.handleRequestJsonThrow cfg request ctx).Guarded (Permitted request ctx) [] := by
  unfold Tasks.Create.handleRequestJsonThrow
  cases hb : CreateTaskRequestBody.parse request.body with
  | error e => trivial
  | ok body =>
    rw [Prog.bind_eq, Prog.ofExcept_ok, Prog.ret_andThen]
    split
    · trivial
    rename_i hempty
    have htitle : body.title ≠ "" := by simpa using hempty
    refine withUserId_guarded fun u hu => rateLimited_guarded ⟨he.symm, hu⟩ fun remaining => ?_
    refine withOwnGoal_guarded (fun oid hoid => ?_) fun n pos oid doc hn hoid hown => ?_
    · exact ⟨by simp [he], hoid, u, hu, passed_singleton he⟩
    · refine Prog.Guarded.andThen (Prog.Guarded.andThen (execute_guarded ?_) fun _ _ => Prog.guarded_ofExcept _)
        fun _ _ => trivial
      exact ⟨he, rfl, hb, htitle, ⟨pos, hn⟩, u, doc, hu, passed_append he _,
        ⟨oid, hoid, List.mem_append_right _ (List.mem_singleton_self _)⟩, hown⟩

theorem tasksList_guarded (he : request.endpoint = .tasksList) :
    (Tasks.List.handleRequestJsonThrow cfg request ctx).Guarded (Permitted request ctx) [] := by
  refine withUserId_guarded fun u hu => rateLimited_guarded ⟨he.symm, hu⟩ fun remaining => ?_
  refine withOwnGoal_guarded (fun oid hoid => ?_) fun n pos oid doc hn hoid hown => ?_
  · exact ⟨by simp [he], hoid, u, hu, passed_singleton he⟩
  · refine Prog.Guarded.andThen (Prog.Guarded.andThen (execute_guarded ?_) fun _ _ => Prog.guarded_ofExcept _)
      fun _ _ => trivial
    exact ⟨he, rfl, ⟨pos, hn⟩, u, doc, hu, passed_append he _,
      ⟨oid, hoid, List.mem_append_right _ (List.mem_singleton_self _)⟩, hown⟩

theorem tasksUpdateStatus_guarded (he : request.endpoint = .tasksUpdateStatus) :
    (Tasks.UpdateTaskStatus.handleRequestJsonThrow cfg request ctx).Guarded (Permitted request ctx) [] := by
  refine withUserId_guarded fun u hu => rateLimited_guarded ⟨he.symm, hu⟩ fun remaining => ?_
  rcases hg : parseInt request.goalId 0 with ⟨goalOk, id⟩
  rcases ht : parseInt request.taskId 0 with ⟨taskOk, n⟩
  dsimp only
  split
  · trivial
  rename_i hok
  obtain ⟨rfl, rfl⟩ : goalOk = true ∧ taskOk = true := by simpa using hok
  refine getById_guarded (fun oid hoid => ?_) (fun past' => trivial) fun oid doc hoid => ?_
  · exact ⟨by simp [he], hoid, u, hu, passed_singleton he⟩
  · dsimp only
    split
    · trivial
    rename_i body hb
    unfold TasksRepository.updateStatus
    refine Prog.Guarded.andThen ?_ fun task past' => ?_
    · split
      · trivial
      rename_i hstatus
      have hlegal : body.status ∈ taskStatuses := mem_taskStatuses.2 hstatus
      refine Prog.Guarded.andThen (execute_guarded ?_) fun rows past' => ?_
      · exact ⟨he, rfl, hb, hlegal, hg, ht, u, doc, hu, passed_append he _,
          ⟨oid, hoid, List.mem_append_right _ (List.mem_singleton_self _)⟩⟩
      · split
        · trivial
        · exact Prog.Guarded.andThen (Prog.guarded_ofExcept _) fun _ _ => trivial
    · cases task <;> trivial

theorem dispatch_guarded : (dispatch cfg request ctx).Guarded (Permitted request ctx) [] := by
  unfold dispatch
  cases he : request.endpoint with
  | signup => exact signup_guarded cfg request ctx he
  | login => exact login_guarded cfg request ctx he
  | usersSearch => exact search_guarded cfg request ctx he
  | goalsCreate => exact goalsCreate_guarded request ctx he
  | goalsList => exact goalsList_guarded request ctx he
  | tasksCreate => exact tasksCreate_guarded cfg request ctx he
  | tasksList => exact tasksList_guarded cfg request ctx he
  | tasksUpdateStatus => exact tasksUpdateStatus_guarded cfg request ctx he

end

/-- The checker lets the request through, and the handler may call the operation. -/
def Mediates (cfg : Config D) (request : HttpRequest) (past : StorePast) (o : Op) : Prop :=
  request.Passes cfg ∧ Permitted request (request.context cfg) past o

theorem serve_guarded (cfg : Config D) (q : HttpRequest) : (serve cfg q).Guarded (Mediates cfg q) [] := by
  have hhandler (hpass : q.Passes cfg) : (dispatch cfg q (q.context cfg)).Guarded (Mediates cfg q) [] :=
    (dispatch_guarded cfg q (q.context cfg)).mono fun past o ho => ⟨hpass, ho⟩
  unfold serve
  split
  · rename_i hauth
    rw [HttpRequest.context, if_pos hauth] at hhandler
    dsimp only
    split
    · rename_i hok
      exact hhandler fun _ => hok
    · trivial
  · rename_i hauth
    rw [HttpRequest.context, if_neg hauth] at hhandler
    exact hhandler fun h => absurd h hauth

/-- **Every operation is mediated.** For limiters and stores that answer anything at all, in every run
each operation belongs to a request that arrived and that the checker lets through, and is one that
this request asks for, after the answers that it needs. -/
theorem operations_mediated {σ ι : Type} (exec : ι → (o : Op) → σ → Except Exn o.Ret × σ) (cfg : Config D)
    (w : σ) (es : List (Event HttpRequest ι)) :
    Pool.EachOperation (Pool.Allowed (Mediates cfg) (Pool.arrivals es))
      (Pool.trace exec (serve cfg) (Pool.start w) es) :=
  Pool.trace_guarded exec (serve cfg) (serve_guarded cfg) w es

end Leadertask
