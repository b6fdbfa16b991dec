import Leadertask.Model.Views

/-!
# Which operations a handler can call

`dispatch_calls`: whatever the answers of the stores, a handler calls its own rate
limiter for its own user and the statements of its own endpoint, and a goal that it
inserts is its user's.
-/

namespace Leadertask

open Atomic

variable {D : Type} {P : Op → Prop} {ctx : RequestContext}

/-- The operations that the handler of a request can call. -/
def Calls (request : HttpRequest) (ctx : RequestContext) : Op → Prop
  | .checkRateLimit e u => e = request.endpoint ∧ ctx.userData = some u
  | .newOid => request.endpoint = .goalsCreate
  | .execute _ (.insertUser ..) => request.endpoint = .signup
  | .execute _ (.selectUserByLogin _) => request.endpoint = .login
  | .execute _ (.selectUserById _) => False
  | .execute _ (.userExists _) => False
  | .execute _ (.searchUsers ..) => request.endpoint = .usersSearch
  | .execute _ (.insertTask ..) => request.endpoint = .tasksCreate
  | .execute _ (.selectTaskById _) => False
  | .execute _ (.selectTasksByGoal _) => request.endpoint = .tasksList
  | .execute _ (.updateTaskStatus ..) => request.endpoint = .tasksUpdateStatus
  | .mongo (.insertOne doc) => request.endpoint = .goalsCreate ∧ ctx.userData = some doc.userId
  | .mongo (.findOne _) => request.endpoint ∈ [.tasksCreate, .tasksList, .tasksUpdateStatus]
  | .mongo (.find u) => request.endpoint = .goalsList ∧ ctx.userData = some u

theorem withUserId_uses {msg : String} {k : UserId → Handler HttpResponse}
    (h : ∀ u, ctx.userData = some u → (k u).Uses P) : (withUserId ctx msg k).Uses P := by
  unfold withUserId RequestContext.getUserData
  cases hu : ctx.userData with
  | none => trivial
  | some u => exact h u hu

theorem rateLimited_uses {e : Endpoint} {u : UserId} {k : Handler HttpResponse}
    (h : P (.checkRateLimit e u)) (hk : k.Uses P) : (rateLimited e u k).Uses P := by
  refine ⟨h, fun r => ?_⟩
  cases r with
  | error e => trivial
  | ok r =>
    show (if r.1 then k else _ : Handler HttpResponse).Uses P
    split
    · exact hk
    · trivial

theorem execute_uses {host : ClusterHostType} {stmt : Sql} (h : P (.execute host stmt)) :
    (execute host stmt).Uses P := Prog.uses_perform.2 h

theorem mongo_uses {cmd : MongoCommand} (h : P (.mongo cmd)) : (mongo cmd).Uses P :=
  Prog.uses_perform.2 h

theorem getById_uses {id : String} (h : ∀ oid, P (.mongo (.findOne oid))) :
    (GoalsRepository.getById id).Uses P :=
  (Prog.uses_ofExcept _).andThen fun oid => (mongo_uses (h oid)).andThen fun _ => trivial

theorem createGoal_uses {u : UserId} {title : String} {description : Option String}
    (h : P .newOid) (hi : ∀ doc, doc.userId = u → P (.mongo (.insertOne doc))) :
    (GoalsRepository.createGoal u title description).Uses P :=
  (Prog.uses_perform.2 h).andThen fun _ => (mongo_uses (hi _ rfl)).andThen fun _ => trivial

theorem getByUser_uses {u : UserId} (h : P (.mongo (.find u))) :
    (GoalsRepository.getByUser u).Uses P := (mongo_uses h).andThen fun _ => trivial

theorem withOwnGoal_uses {u : UserId} {g : String} {k : Int64 → Handler HttpResponse}
    (h : ∀ oid, P (.mongo (.findOne oid))) (hk : ∀ n, (k n).Uses P) : (withOwnGoal u g k).Uses P := by
  unfold withOwnGoal
  split
  · trivial
  · refine (getById_uses h).andThen fun goal => ?_
    split
    · trivial
    · split
      · trivial
      · exact hk _

section

variable (cfg : Config D)

theorem createUser_uses {login password firstName lastName : String}
    (h : P (.execute .kMaster (.insertUser login password firstName lastName))) :
    (UsersRepository.createUser login password firstName lastName).Uses P := by
  refine Prog.Uses.catching ((execute_uses h).andThen fun _ => trivial) fun e => ?_
  cases e <;> trivial

theorem search_uses {login firstNameMask lastNameMask : Option String}
    (h : P (.execute .kSlave (.searchUsers login firstNameMask lastNameMask))) :
    (UsersRepository.search cfg login firstNameMask lastNameMask).Uses P :=
  (execute_uses h).andThen fun _ => Prog.uses_ofExcept _

theorem createTask_uses {goalId : Int64} {title : String}
    (h : P (.execute .kMaster (.insertTask goalId title))) :
    (TasksRepository.createTask cfg goalId title).Uses P :=
  (execute_uses h).andThen fun _ => Prog.uses_ofExcept _

theorem getByGoal_uses {goalId : Int64} (h : P (.execute .kSlave (.selectTasksByGoal goalId))) :
    (TasksRepository.getByGoal cfg goalId).Uses P :=
  (execute_uses h).andThen fun _ => Prog.uses_ofExcept _

theorem updateStatus_uses {taskId goalId : Int64} {status : String}
    (h : P (.execute .kMaster (.updateTaskStatus taskId goalId status))) :
    (TasksRepository.updateStatus cfg taskId goalId status).Uses P := by
  unfold TasksRepository.updateStatus
  split
  · trivial
  · refine (execute_uses h).andThen fun rows => ?_
    split
    · trivial
    · exact (Prog.uses_ofExcept _).andThen fun _ => trivial

/-! ## The handlers -/

variable (request : HttpRequest) (ctx : RequestContext)

theorem signup_calls (he : request.endpoint = .signup) :
    (Signup.handleRequestJsonThrow cfg request).Uses (Calls request ctx) := by
  refine Prog.Uses.catching ((Prog.uses_ofExcept _).andThen fun body => ?_) fun e => trivial
  split
  · trivial
  · refine (createUser_uses he).andThen fun r => ?_
    cases r <;> trivial

theorem login_calls (he : request.endpoint = .login) :
    (Login.handleRequestJsonThrow cfg request).Uses (Calls request ctx) := by
  refine Prog.Uses.catching ((Prog.uses_ofExcept _).andThen fun body => ?_) fun e => trivial
  split
  · trivial
  · refine Prog.Uses.andThen ((execute_uses he).andThen fun _ => trivial) fun r => ?_
    rcases r with _ | user
    · trivial
    · show (if _ then _ else _ : Handler HttpResponse).Uses _
      split <;> trivial

theorem search_calls (he : request.endpoint = .usersSearch) :
    (Search.handleRequestJsonThrow cfg request ctx).Uses (Calls request ctx) := by
  refine withUserId_uses fun u hu => rateLimited_uses ⟨he.symm, hu⟩ ?_
  split
  · trivial
  · exact (search_uses cfg he).andThen fun _ => trivial

theorem goalsCreate_calls (he : request.endpoint = .goalsCreate) :
    (Goals.Create.handleRequestJsonThrow request ctx).Uses (Calls request ctx) := by
  refine (Prog.uses_ofExcept _).andThen fun body => ?_
  split
  · trivial
  · refine withUserId_uses fun u hu => rateLimited_uses ⟨he.symm, hu⟩ ?_
    exact (createGoal_uses he fun doc hd => ⟨he, hd ▸ hu⟩).andThen fun _ => trivial

theorem goalsList_calls (he : request.endpoint = .goalsList) :
    (Goals.List.handleRequestJsonThrow ctx).Uses (Calls request ctx) := by
  refine withUserId_uses fun u hu => rateLimited_uses ⟨he.symm, hu⟩ ?_
  exact (getByUser_uses ⟨he, hu⟩).andThen fun _ => trivial

theorem findOne_calls (he : request.endpoint ∈ [.tasksCreate, .tasksList, .tasksUpdateStatus])
    (oid : Oid) : Calls request ctx (.mongo (.findOne oid)) := he

theorem tasksCreate_calls (he : request.endpoint = .tasksCreate) :
    (Tasks.Create.handleRequestJsonThrow cfg request ctx).Uses (Calls request ctx) := by
  refine (Prog.uses_ofExcept _).andThen fun body => ?_
  split
  · trivial
  · refine withUserId_uses fun u hu => rateLimited_uses ⟨he.symm, hu⟩ ?_
    refine withOwnGoal_uses (findOne_calls request ctx (by simp [he])) fun n => ?_
    exact (createTask_uses cfg he).andThen fun _ => trivial

theorem tasksList_calls (he : request.endpoint = .tasksList) :
    (Tasks.List.handleRequestJsonThrow cfg request ctx).Uses (Calls request ctx) := by
  refine withUserId_uses fun u hu => rateLimited_uses ⟨he.symm, hu⟩ ?_
  refine withOwnGoal_uses (findOne_calls request ctx (by simp [he])) fun n => ?_
  exact (getByGoal_uses cfg he).andThen fun _ => trivial

theorem tasksUpdateStatus_calls (he : request.endpoint = .tasksUpdateStatus) :
    (Tasks.UpdateTaskStatus.handleRequestJsonThrow cfg request ctx).Uses (Calls request ctx) := by
  refine withUserId_uses fun u hu => rateLimited_uses ⟨he.symm, hu⟩ ?_
  dsimp only
  split
  · trivial
  · refine (getById_uses (findOne_calls request ctx (by simp [he]))).andThen fun goal => ?_
    rcases goal with _ | goal
    · trivial
    · dsimp only
      split
      · trivial
      · refine (updateStatus_uses cfg he).andThen fun r => ?_
        cases r <;> trivial

/-- **A handler calls only operations of its endpoint and its user.** -/
theorem dispatch_calls : (dispatch cfg request ctx).Uses (Calls request ctx) := by
  unfold dispatch
  cases he : request.endpoint with
  | signup => exact signup_calls cfg request ctx he
  | login => exact login_calls cfg request ctx he
  | usersSearch => exact search_calls cfg request ctx he
  | goalsCreate => exact goalsCreate_calls request ctx he
  | goalsList => exact goalsList_calls request ctx he
  | tasksCreate => exact tasksCreate_calls cfg request ctx he
  | tasksList => exact tasksList_calls cfg request ctx he
  | tasksUpdateStatus => exact tasksUpdateStatus_calls cfg request ctx he

end

end Leadertask
