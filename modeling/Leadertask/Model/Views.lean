import Leadertask.Model.Repositories

/-!
# The handlers

`src/views`: `HandleRequestJsonThrow` of each handler, with its checks in the order of
the source and its error texts. The prologues that they repeat are `withUserId` and
`rateLimited` (the authenticated user id and the rate limit, in six handlers) and
`withOwnGoal` (the goal of the path and its owner, in tasks-create and tasks-list).
-/

namespace Leadertask

open Atomic

variable {D : Type} (cfg : Config D)

/-- The user id that `CheckAuth` stored, or 401. -/
def withUserId (ctx : RequestContext) (msg : String) (k : UserId → Handler HttpResponse) :
    Handler HttpResponse :=
  match ctx.getUserData with
  | .error _ => return makeError .kUnauthorized msg
  | .ok userId => k userId

/-- Go on if the handler's `CheckRateLimit` admits the user, else 429. -/
def rateLimited (e : Endpoint) (userId : UserId) (k : Handler HttpResponse) :
    Handler HttpResponse := do
  let (admitted, remaining) : Bool × ℤ ← Prog.perform (Op.checkRateLimit e userId)
  if admitted then k else return rateLimitExceeded remaining

/-! ## Users -/

def Signup.handleRequestJsonThrow (request : HttpRequest) : Handler HttpResponse := do
  try
    let body ← Prog.ofExcept (CreateUserRequestBody.parse request.body)
    if body.login.isEmpty || body.password.isEmpty || body.firstName.isEmpty ||
        body.lastName.isEmpty then
      pure (makeError .kBadRequest "login, password, first_name, last_name  required")
    else
      match ← UsersRepository.createUser body.login body.password body.firstName body.lastName with
      | none => pure (makeError .kConflict "user already exists")
      | some user => pure { payload := .createdUser { userId := user.userId } }
  -- a failing store is answered 400 as well
  catch exc => pure (makeError .kBadRequest (cfg.what exc))

def kIssuer : String := "sample"

def Login.handleRequestJsonThrow (request : HttpRequest) : Handler HttpResponse := do
  try
    let body ← Prog.ofExcept (LoginRequestBody.parse request.body)
    if body.login.isEmpty || body.password.isEmpty then
      pure (makeError .kBadRequest "login and password are required")
    else
      match ← UsersRepository.getByLoginWithPassword body.login with
      | none => pure (makeError .kUnauthorized "invalid data")
      | some user =>
        if user.password ≠ body.password then pure (makeError .kUnauthorized "invalid data")
        else
          let token := cfg.jwt.sign cfg.loginSecret "JWT" kIssuer (stdToString user.id)
          pure { payload := .loggedIn { accessToken := token } }
  catch exc => pure (makeError .kBadRequest (cfg.what exc))

/-- A query argument as a filter: absent when empty. -/
def filterArg (arg : String) : Option String := if arg.isEmpty then none else some arg

def Search.handleRequestJsonThrow (request : HttpRequest) (ctx : RequestContext) :
    Handler HttpResponse :=
  withUserId ctx "user_id not foundtoken" fun userId =>
    rateLimited .usersSearch userId do
      if request.login.isEmpty && request.firstNameMask.isEmpty && request.lastNameMask.isEmpty then
        return makeError .kBadRequest "at least one filter required"
      else
        let results ← UsersRepository.search cfg (filterArg request.login)
          (filterArg request.firstNameMask) (filterArg request.lastNameMask)
        return { payload := .users results }

/-! ## Goals -/

def Goals.Create.handleRequestJsonThrow (request : HttpRequest) (ctx : RequestContext) :
    Handler HttpResponse := do
  let body ← Prog.ofExcept (CreateGoalRequestBody.parse request.body)
  if body.title.isEmpty then return makeError .kBadRequest "title is required"
  else
    withUserId ctx "user_id not found in token" fun userId =>
      rateLimited .goalsCreate userId do
        -- the source has a `UserExists` check here, commented out
        let goal ← GoalsRepository.createGoal userId body.title (some (body.description.getD ""))
        return { status := .kCreated, payload := .createdGoal goal }

def Goals.List.handleRequestJsonThrow (ctx : RequestContext) : Handler HttpResponse :=
  withUserId ctx "user_id not found in token" fun userId =>
    rateLimited .goalsList userId do
      let goals ← GoalsRepository.getByUser userId
      return { payload := .goals goals }

/-! ## Tasks -/

/-- Go on with the number at the front of the path's goal id if the user owns the goal. -/
def withOwnGoal (userId : UserId) (goalIdStr : String) (k : Int64 → Handler HttpResponse) :
    Handler HttpResponse := do
  match stoll goalIdStr with
  | .error _ => return makeError .kBadRequest "invalid goalId"
  -- the handlers do not ask `stoll` where it stopped
  | .ok (goalId, _) =>
    match ← GoalsRepository.getById goalIdStr with
    | none => return makeError .kNotFound "goal not found in your account"
    | some goal =>
      if optionalNe goal.userId userId then return makeError .kNotFound "goal not found"
      else k goalId

def Tasks.Create.handleRequestJsonThrow (request : HttpRequest) (ctx : RequestContext) :
    Handler HttpResponse := do
  let body ← Prog.ofExcept (CreateTaskRequestBody.parse request.body)
  if body.title.isEmpty then return makeError .kBadRequest "title is required"
  else
    withUserId ctx "user_id not found in token" fun userId =>
      rateLimited .tasksCreate userId do
        withOwnGoal userId request.goalId fun goalId => do
          let task ← TasksRepository.createTask cfg goalId body.title
          return { status := .kCreated, payload := .task task }

def Tasks.List.handleRequestJsonThrow (request : HttpRequest) (ctx : RequestContext) :
    Handler HttpResponse :=
  withUserId ctx "user_id not found in token" fun userId =>
    rateLimited .tasksList userId do
      withOwnGoal userId request.goalId fun goalId => do
        let tasks ← TasksRepository.getByGoal cfg goalId
        return { payload := .tasks tasks }

/-- `ParseInt(value, out)`: whether the whole value is a number, and `out` afterwards. -/
def parseInt (value : String) (out : Int64) : Bool × Int64 :=
  match stoll value with
  | .error _ => (false, out)
  | .ok (parsed, pos) => if pos ≠ value.length then (false, out) else (true, parsed)

def Tasks.UpdateTaskStatus.handleRequestJsonThrow (request : HttpRequest) (ctx : RequestContext) :
    Handler HttpResponse :=
  withUserId ctx "user_id not found  token" fun userId =>
    rateLimited .tasksUpdateStatus userId do
      let (goalOk, goalId) := parseInt request.goalId 0
      let (taskOk, taskId) := parseInt request.taskId 0
      if !goalOk || !taskOk then return makeError .kBadRequest "invalid path parameters"
      else
        match ← GoalsRepository.getById request.goalId with
        | none => return makeError .kNotFound "goal not found"
        -- that the goal exists is all that is asked: `userId` is not compared
        | some _ =>
          match UpdateTaskStatusRequest.parse request.body with
          | .error _ => return makeError .kBadRequest "invalid request body"
          | .ok body =>
            -- the repository declares `(task_id, goal_id, new_status)`
            match ← TasksRepository.updateStatus cfg goalId taskId body.status with
            | none => return makeError .kNotFound "task not found"
            | some task =>
              return { payload := .task {
                id := task.id, goalId := task.goalId, title := task.title, status := task.status } }

/-- The handler that the router picks. -/
def dispatch (request : HttpRequest) (ctx : RequestContext) : Handler HttpResponse :=
  match request.endpoint with
  | .signup => Signup.handleRequestJsonThrow cfg request
  | .login => Login.handleRequestJsonThrow cfg request
  | .usersSearch => Search.handleRequestJsonThrow cfg request ctx
  | .goalsCreate => Goals.Create.handleRequestJsonThrow request ctx
  | .goalsList => Goals.List.handleRequestJsonThrow ctx
  | .tasksCreate => Tasks.Create.handleRequestJsonThrow cfg request ctx
  | .tasksList => Tasks.List.handleRequestJsonThrow cfg request ctx
  | .tasksUpdateStatus => Tasks.UpdateTaskStatus.handleRequestJsonThrow cfg request ctx

end Leadertask
