import Leadertask.Lib.Prog
import Leadertask.Model.Store

/-!
# The repositories

`src/repositories`: the functions that send one statement each and turn its result into
the generated types, as programs over the operations of the world. A `BIGINT` read into an
`int` field narrows as `Config.narrowing` says; an assignment from 64 bits to an `int`
wraps.
-/

namespace Leadertask

open Atomic

/-- What runs inside a request. -/
abbrev Handler := Prog Op Op.Ret Exn

/-- The token library. `D` is the type of its decoded tokens. -/
structure Jwt (D : Type) where
  /-- `create().set_type(type).set_issuer(issuer).set_subject(subject).sign(hs256{secret})` -/
  sign : (secret type issuer subject : String) → String
  decode : String → Except Exn D
  /-- `verify().allow_algorithm(hs256{secret}).with_issuer(issuer)` at a wall clock time. -/
  verify : (secret issuer : String) → (now : ℤ) → D → Except Exn Unit
  getSubject : D → Except Exn String

/-- The static configuration and the libraries that the service runs with. -/
structure Config (D : Type) where
  /-- `secret` of `handler-login`. -/
  loginSecret : String
  /-- `secret` of `jwt-auth-checker`. -/
  checkerSecret : String
  jwt : Jwt D
  /-- `std::exception::what` -/
  what : Exn → String
  narrowing : Narrowing

variable {D : Type} (cfg : Config D)

/-- `pg_cluster_->Execute(host, stmt)` -/
def execute (host : ClusterHostType) (stmt : Sql) : Handler stmt.Ret := Prog.perform (Op.execute host stmt)

/-- A command on `collection_`. -/
def mongo (cmd : MongoCommand) : Handler cmd.Ret := Prog.perform (Op.mongo cmd)

/-- `AsSingleRow` -/
def asSingleRow {ρ : Type} : List ρ → Except Exn ρ
  | [r] => .ok r
  | _ => .error .nonSingleRowResultSet

/-! ## `UsersRepository` -/

namespace UsersRepository

/-- A row as `User`. -/
def readUser (r : UserRow) : Except Exn User := do
  return { id := ← cfg.narrowing.readInt r.id
           login := r.login
           firstName := r.firstName
           lastName := r.lastName }

def createUser (login password firstName lastName : String) :
    Handler (Option CreateUserResponseBody) := do
  try
    let userId : Int64 ← execute .kMaster (.insertUser login password firstName lastName)
    pure (some { userId := userId })
  catch
    -- everything else escapes to the handler
    | .uniqueViolation => pure none
    | e => throw e

/-- The row as `UserWithPassword`: `result.Front()`. -/
def getByLoginWithPassword (login : String) : Handler (Option UserRow) := do
  let rows : List UserRow ← execute .kSlave (.selectUserByLogin login)
  return rows.head?

def getById (userId : Int64) : Handler (Option User) := do
  let rows : List UserRow ← execute .kSlave (.selectUserById userId)
  if rows.isEmpty then return none
  else
    let user ← Prog.ofExcept (asSingleRow rows >>= readUser cfg)
    return some user

def userExists (userId : Int64) : Handler Bool := execute .kSlave (.userExists userId)

def search (login firstNameMask lastNameMask : Option String) : Handler (List User) := do
  let rows : List UserRow ← execute .kSlave (.searchUsers login firstNameMask lastNameMask)
  Prog.ofExcept (rows.mapM (readUser cfg))

end UsersRepository

/-! ## `TasksRepository` -/

namespace TasksRepository

/-- A row as `Task`. -/
def readTask (r : TaskRow) : Except Exn Task := do
  return { id := ← cfg.narrowing.readInt r.id
           goalId := ← cfg.narrowing.readInt r.goalId
           title := r.title
           status := r.status }

/-- A row as `CreateTaskResponseBody`. -/
def readCreateTaskResponseBody (r : TaskRow) : Except Exn CreateTaskResponseBody := do
  return { id := ← cfg.narrowing.readInt r.id
           goalId := ← cfg.narrowing.readInt r.goalId
           title := r.title
           status := r.status }

def createTask (goalId : Int64) (title : String) : Handler CreateTaskResponseBody := do
  let row : TaskRow ← execute .kMaster (.insertTask goalId title)
  Prog.ofExcept (readCreateTaskResponseBody cfg row)

def getById (id : Int64) : Handler (Option Task) := do
  let rows : List TaskRow ← execute .kSlave (.selectTaskById id)
  if rows.isEmpty then return none
  else
    let task ← Prog.ofExcept (asSingleRow rows >>= readTask cfg)
    return some task

def getByGoal (goalId : Int64) : Handler (List Task) := do
  let rows : List TaskRow ← execute .kSlave (.selectTasksByGoal goalId)
  Prog.ofExcept (rows.mapM (readTask cfg))

def updateStatus (taskId goalId : Int64) (newStatus : String) : Handler (Option Task) := do
  -- an unknown status never reaches the database and looks like a missing task
  if newStatus ≠ "todo" ∧ newStatus ≠ "in_progress" ∧ newStatus ≠ "done" then return none
  else
    let rows : List TaskRow ← execute .kMaster (.updateTaskStatus taskId goalId newStatus)
    if rows.isEmpty then return none
    else
      let task ← Prog.ofExcept (asSingleRow rows >>= readTask cfg)
      return some task

end TasksRepository

/-! ## `GoalsRepository` -/

namespace GoalsRepository

/-- A document as `Goal`; a missing description reads as the empty string, and the 64-bit
`userId` is assigned to an `int`. -/
def readGoal (doc : GoalDoc) : Goal where
  id := doc.id.toString
  title := doc.title
  description := some (doc.description.getD "")
  userId := some doc.userId.toInt32

def createGoal (userId : Int64) (title : String) (description : Option String) :
    Handler CreateGoalResponseBody := do
  let oid : Oid ← Prog.perform Op.newOid
  let _ ← mongo (.insertOne { id := oid, title := title, userId := userId, description := description })
  return { id := some oid.toString
           title := some title
           description := some (description.getD "")
           userId := some userId.toInt32 }

def getById (id : String) : Handler (Option Goal) := do
  -- an id that is no object id throws, it is not `none`
  let oid ← Prog.ofExcept (Oid.ofString id)
  let doc : Option GoalDoc ← mongo (.findOne oid)
  return doc.map readGoal

def getByUser (userId : Int64) : Handler (List Goal) := do
  let docs : List GoalDoc ← mongo (.find userId)
  return docs.map readGoal

end GoalsRepository

end Leadertask
