import Leadertask.Lib.Like
import Leadertask.Lib.Rows
import Leadertask.Model.Http
import Leadertask.Model.RateLimit

/-!
# The stores

The Postgres tables of `schema.sql`, with their constraints as fields, the Mongo
collection of goals, and the statements that the repositories send to them. A statement
takes full effect or throws and has none (`atomically`). Texts go into a table through
`varchar255`, and into a condition through `textParameter`.

`Input` is what the environment adds to an operation: the readings of the clock, the
object id that `bson::Oid oid;` draws, the time stamp of an insert, the sequence values
lost to inserts that failed, the order in which rows with equal stamps come back, and the
store calls that fail on their own.
-/

namespace Leadertask

/-! ## Texts in Postgres -/

/-- A Postgres `text` has no U+0000. -/
def IsText (s : String) : Prop := '\x00' ∉ s.toList

instance (s : String) : Decidable (IsText s) := inferInstanceAs (Decidable (_ ∉ _))

/-- A text that a `VARCHAR(255)` column holds. -/
def FitsColumn (s : String) : Prop := IsText s ∧ s.length ≤ 255

instance (s : String) : Decidable (FitsColumn s) := inferInstanceAs (Decidable (_ ∧ _))

/-- `VARCHAR(255)` -/
abbrev Varchar255 := { s : String // FitsColumn s }

/-- A text as its column holds it. -/
def asColumn (s : String) : String := String.ofList (s.toList.take 255)

def AllBlank (cs : List Char) : Prop := ∀ c ∈ cs, c = ' '

-- along the list, and not over all characters
instance (cs : List Char) : Decidable (AllBlank cs) := List.decidableBAll _ cs

/-- Beyond 255 characters a column takes blanks only, and drops them. -/
def Storable (s : String) : Prop := IsText s ∧ AllBlank (s.toList.drop 255)

instance (s : String) : Decidable (Storable s) := inferInstanceAs (Decidable (_ ∧ _))

theorem fitsColumn_asColumn {s : String} (h : IsText s) : FitsColumn (asColumn s) := by
  unfold FitsColumn IsText asColumn
  rw [← String.length_toList, String.toList_ofList]
  exact ⟨fun hz => h (List.mem_of_mem_take hz), List.length_take_le _ _⟩

/-- A text parameter of a statement. -/
def textParameter (s : String) : Except Exn String :=
  if IsText s then .ok s else .error .characterNotInRepertoire

/-- A text on its way into a `VARCHAR(255)` column. -/
def varchar255 (s : String) : Except Exn Varchar255 :=
  if ht : IsText s then
    if AllBlank (s.toList.drop 255) then .ok ⟨asColumn s, fitsColumn_asColumn ht⟩
    else .error .stringDataRightTruncation
  else .error .characterNotInRepertoire

/-! ## Tables and documents -/

structure UserRow where
  id : Int64
  login : String
  password : String
  firstName : String
  lastName : String
  deriving DecidableEq, Repr

/-- The row's texts fit their `VARCHAR(255)` columns. -/
def UserRow.Fits (r : UserRow) : Prop :=
  FitsColumn r.login ∧ FitsColumn r.password ∧ FitsColumn r.firstName ∧ FitsColumn r.lastName

instance (r : UserRow) : Decidable r.Fits := inferInstanceAs (Decidable (_ ∧ _))

/-- `users`, with `PRIMARY KEY (id)`, `UNIQUE (login)` and the widths of its columns. -/
@[ext] structure UsersTable where
  rows : List UserRow
  idKey : (rows.map UserRow.id).Nodup
  loginKey : (rows.map UserRow.login).Nodup
  columns : ∀ r ∈ rows, r.Fits

structure TaskRow where
  id : Int64
  goalId : Int64
  title : String
  status : String
  createdAt : ℤ
  deriving DecidableEq, Repr

/-- `CHECK (status IN ('todo', 'in_progress', 'done'))` -/
def taskStatuses : List String := ["todo", "in_progress", "done"]

/-- `tasks`, with `PRIMARY KEY (id)`, the check on `status` and the width of `title`. -/
@[ext] structure TasksTable where
  rows : List TaskRow
  idKey : (rows.map TaskRow.id).Nodup
  statusCheck : ∀ r ∈ rows, r.status ∈ taskStatuses
  columns : ∀ r ∈ rows, FitsColumn r.title

def UsersTable.empty : UsersTable :=
  ⟨[], List.nodup_nil, List.nodup_nil, fun _ h => absurd h List.not_mem_nil⟩

def TasksTable.empty : TasksTable :=
  ⟨[], List.nodup_nil, fun _ h => absurd h List.not_mem_nil, fun _ h => absurd h List.not_mem_nil⟩

/-- A document of the `goals` collection; a `null` description is `none`. -/
structure GoalDoc where
  id : Oid
  title : String
  userId : Int64
  description : Option String
  deriving DecidableEq

/-- The Mongo collection `goals`, unique by `_id`. -/
@[ext] structure GoalsCollection where
  docs : List GoalDoc
  idKey : (docs.map GoalDoc.id).Nodup

def GoalsCollection.empty : GoalsCollection := ⟨[], List.nodup_nil⟩

/-- The Postgres database. The service never writes its `goals` table, of which only the
ids matter (`tasks.goal_id REFERENCES goals(id)`). The sequences hold the value they
gave last. -/
structure Postgres where
  users : UsersTable
  usersSeq : ℕ
  goalIds : List Int64
  tasks : TasksTable
  tasksSeq : ℕ

/-- Both stores and the handlers' `rate_limits` maps. -/
structure World where
  pg : Postgres
  goals : GoalsCollection
  rateLimits : Endpoint → RateLimits

/-! ## Statements -/

inductive ClusterHostType where
  | kMaster
  | kSlave
  deriving DecidableEq, Repr

/-- The SQL statements of the repositories with their arguments in the order `$1, $2, ...` -/
inductive Sql where
  /-- `INSERT INTO users (login, password, first_name, last_name) ... RETURNING id` -/
  | insertUser (login password firstName lastName : String)
  /-- `SELECT ... FROM users WHERE login = $1` -/
  | selectUserByLogin (login : String)
  /-- `SELECT ... FROM users WHERE id = $1` -/
  | selectUserById (id : Int64)
  /-- `SELECT EXISTS(SELECT 1 FROM users WHERE id = $1)` -/
  | userExists (id : Int64)
  /-- `SELECT ... FROM users WHERE ($1::TEXT IS NULL OR login = $1) AND ... ORDER BY id` -/
  | searchUsers (login firstNameMask lastNameMask : Option String)
  /-- `INSERT INTO tasks (goal_id, title, status) VALUES ($1, $2, 'todo') RETURNING ...` -/
  | insertTask (goalId : Int64) (title : String)
  /-- `SELECT ... FROM tasks WHERE id = $1` -/
  | selectTaskById (id : Int64)
  /-- `SELECT ... FROM tasks WHERE goal_id = $1 ORDER BY created_at` -/
  | selectTasksByGoal (goalId : Int64)
  /-- `UPDATE tasks SET status = $3 WHERE id = $1 AND goal_id = $2 returning ...` -/
  | updateTaskStatus (id goalId : Int64) (status : String)

/-- The result set. -/
@[reducible] def Sql.Ret : Sql → Type
  | .insertUser .. => Int64
  | .selectUserByLogin _ => List UserRow
  | .selectUserById _ => List UserRow
  | .userExists _ => Bool
  | .searchUsers .. => List UserRow
  | .insertTask .. => TaskRow
  | .selectTaskById _ => List TaskRow
  | .selectTasksByGoal _ => List TaskRow
  | .updateTaskStatus .. => List TaskRow

inductive MongoCommand where
  | insertOne (doc : GoalDoc)
  /-- `FindOne({_id: id})` -/
  | findOne (id : Oid)
  /-- `Find({userId: user_id}, Sort{{"_id", kDescending}})` -/
  | find (userId : Int64)

@[reducible] def MongoCommand.Ret : MongoCommand → Type
  | .insertOne _ => Unit
  | .findOne _ => Option GoalDoc
  | .find _ => List GoalDoc

/-- What a handler does to the world in one step. -/
inductive Op where
  /-- `CheckRateLimit`, under its mutex. -/
  | checkRateLimit (e : Endpoint) (userId : UserId)
  /-- `bson::Oid oid;` -/
  | newOid
  | execute (host : ClusterHostType) (stmt : Sql)
  | mongo (cmd : MongoCommand)

@[reducible] def Op.Ret : Op → Type
  | .checkRateLimit .. => Bool × ℤ
  | .newOid => Oid
  | .execute _ stmt => stmt.Ret
  | .mongo cmd => cmd.Ret

/-- What the environment adds to an operation. -/
structure Input where
  now : ℤ := 0
  created : ℤ := 0
  oid : Oid := .zero
  stamp : ℤ := 0
  skip : ℕ := 0
  rank : Int64 → ℕ := fun _ => 0
  fault : Op → Bool := fun _ => false

/-! ## What the statements do -/

/-- Full effect, or an exception and none. -/
def atomically {α σ : Type} (s : σ) : Except Exn (α × σ) → Except Exn α × σ
  | .ok (a, s') => (.ok a, s')
  | .error e => (.error e, s)

/-- The next value of a `BIGSERIAL` column, whose type ends at `2 ^ 63 - 1`. -/
def nextval (last skip : ℕ) : Except Exn ℕ :=
  if last + 1 + skip < 2 ^ 63 then .ok (last + 1 + skip) else .error .sequenceExhausted

def UsersTable.insert (t : UsersTable) (id : Int64) (login password firstName lastName : Varchar255) :
    Except Exn UsersTable :=
  if h : id ∉ t.rows.map UserRow.id ∧ login.val ∉ t.rows.map UserRow.login then
    .ok {
      rows := t.rows ++ [⟨id, login, password, firstName, lastName⟩]
      idKey := Rows.nodup_append t.idKey h.1
      loginKey := Rows.nodup_append t.loginKey h.2
      columns := List.forall_mem_append.2 ⟨t.columns, List.forall_mem_singleton.2
        ⟨login.property, password.property, firstName.property, lastName.property⟩⟩ }
  else .error .uniqueViolation

/-- Insert a row with status `todo`. -/
def TasksTable.insert (t : TasksTable) (id goalId : Int64) (title : Varchar255) (createdAt : ℤ) :
    Except Exn TasksTable :=
  if h : id ∉ t.rows.map TaskRow.id then
    .ok {
      rows := t.rows ++ [⟨id, goalId, title, "todo", createdAt⟩]
      idKey := Rows.nodup_append t.idKey h
      statusCheck := List.forall_mem_append.2 ⟨t.statusCheck, List.forall_mem_singleton.2 List.mem_cons_self⟩
      columns := List.forall_mem_append.2 ⟨t.columns, List.forall_mem_singleton.2 title.property⟩ }
  else .error .uniqueViolation

/-- The `WHERE` clause of the status update. -/
def TaskRow.hit (id goalId : Int64) (r : TaskRow) : Bool := r.id = id && r.goalId = goalId

def TaskRow.withStatus (status : String) (r : TaskRow) : TaskRow := { r with status := status }

def TasksTable.setStatus (t : TasksTable) (id goalId : Int64) (status : String)
    (h : status ∈ taskStatuses) : TasksTable where
  rows := Rows.updateWhere (TaskRow.hit id goalId) (TaskRow.withStatus status) t.rows
  idKey := by
    rw [Rows.map_updateWhere (f := TaskRow.withStatus status) fun r => rfl]; exact t.idKey
  statusCheck := fun r hr => by
    rcases Rows.mem_updateWhere.1 hr with ⟨r₀, -, -, rfl⟩ | ⟨hr, -⟩
    · exact h
    · exact t.statusCheck r hr
  columns := fun r hr => by
    rcases Rows.mem_updateWhere.1 hr with ⟨r₀, hr₀, -, rfl⟩ | ⟨hr, -⟩
    · exact t.columns r₀ hr₀
    · exact t.columns r hr

/-- Object ids compare byte by byte, so as their digits do. -/
def Oid.le (a b : Oid) : Bool := decide (a.digits ≤ b.digits)

/-- `name LIKE '%' || mask || '%'`, or no condition when there is no mask. -/
def maskMatches (mask : Option String) (name : String) : Bool :=
  match mask with
  | none => true
  -- the mask is spliced in as it is, so its own `%` and `_` are wildcards too
  | some m => Sql.like ('%' :: m.toList ++ ['%']) name.toList

/-- The `WHERE` clause of the user search. -/
def UserRow.found (login firstNameMask lastNameMask : Option String) (r : UserRow) : Bool :=
  (match login with
    | none => true
    | some l => r.login = l) &&
  maskMatches firstNameMask r.firstName && maskMatches lastNameMask r.lastName

namespace Postgres

variable (i : Input) (pg : Postgres)

def insertUser (login password firstName lastName : String) : Except Exn (Int64 × Postgres) := do
  -- the sequence is not rolled back: `skip` counts the values that failed inserts took
  let id ← nextval pg.usersSeq i.skip
  let login ← varchar255 login
  let password ← varchar255 password
  let firstName ← varchar255 firstName
  let lastName ← varchar255 lastName
  let users ← pg.users.insert (Int64.ofNat id) login password firstName lastName
  return (Int64.ofNat id, { pg with users := users, usersSeq := id })

def selectUserByLogin (login : String) : Except Exn (List UserRow) := do
  let login ← textParameter login
  return pg.users.rows.filter (·.login = login)

def searchUsers (login firstNameMask lastNameMask : Option String) : Except Exn (List UserRow) := do
  let login ← login.mapM textParameter
  let firstNameMask ← firstNameMask.mapM textParameter
  let lastNameMask ← lastNameMask.mapM textParameter
  return (pg.users.rows.filter (UserRow.found login firstNameMask lastNameMask)).mergeSort
    fun a b => a.id ≤ b.id

def insertTask (goalId : Int64) (title : String) : Except Exn (TaskRow × Postgres) := do
  let id ← nextval pg.tasksSeq i.skip
  let title ← varchar255 title
  let tasks ← pg.tasks.insert (Int64.ofNat id) goalId title i.stamp
  -- the foreign key is checked at the end of the statement
  if goalId ∈ pg.goalIds then
    return (⟨Int64.ofNat id, goalId, title, "todo", i.stamp⟩, { pg with tasks := tasks, tasksSeq := id })
  else throw .foreignKeyViolation

def updateTaskStatus (id goalId : Int64) (status : String) :
    Except Exn (List TaskRow × Postgres) :=
  let hits := pg.tasks.rows.filter (TaskRow.hit id goalId)
  if ¬ IsText status then .error .characterNotInRepertoire
  -- without a hit there is no new row for the check constraint to look at
  else if hits.isEmpty then .ok ([], pg)
  else if h : status ∈ taskStatuses then
    .ok (hits.map (TaskRow.withStatus status), { pg with tasks := pg.tasks.setStatus id goalId status h })
  else .error .checkViolation

/-- `WHERE goal_id = $1 ORDER BY created_at`; rows with equal stamps come in the order of
their ranks. -/
def selectTasksByGoal (goalId : Int64) : List TaskRow :=
  (pg.tasks.rows.filter (·.goalId = goalId)).mergeSort fun a b =>
    a.createdAt < b.createdAt || (a.createdAt = b.createdAt && i.rank a.id ≤ i.rank b.id)

def exec : (stmt : Sql) → Except Exn stmt.Ret × Postgres
  | .insertUser login password firstName lastName =>
    atomically pg (pg.insertUser i login password firstName lastName)
  | .selectUserByLogin login => (pg.selectUserByLogin login, pg)
  | .selectUserById id => (.ok (pg.users.rows.filter (·.id = id)), pg)
  | .userExists id => (.ok (pg.users.rows.any (·.id = id)), pg)
  | .searchUsers login firstNameMask lastNameMask =>
    (pg.searchUsers login firstNameMask lastNameMask, pg)
  | .insertTask goalId title => atomically pg (pg.insertTask i goalId title)
  | .selectTaskById id => (.ok (pg.tasks.rows.filter (·.id = id)), pg)
  | .selectTasksByGoal goalId => (.ok (pg.selectTasksByGoal i goalId), pg)
  | .updateTaskStatus id goalId status => atomically pg (pg.updateTaskStatus id goalId status)

end Postgres

namespace GoalsCollection

variable (c : GoalsCollection)

def insertOne (doc : GoalDoc) : Except Exn (Unit × GoalsCollection) :=
  if h : doc.id ∉ c.docs.map GoalDoc.id then .ok ((), ⟨c.docs ++ [doc], Rows.nodup_append c.idKey h⟩)
  else .error .duplicateKey

def exec : (cmd : MongoCommand) → Except Exn cmd.Ret × GoalsCollection
  | .insertOne doc => atomically c (c.insertOne doc)
  | .findOne id => (.ok (c.docs.find? (·.id = id)), c)
  | .find userId => (.ok ((c.docs.filter (·.userId = userId)).mergeSort fun a b => b.id.le a.id), c)

end GoalsCollection

/-- One operation in the world. A store call that fails on its own has no effect. -/
def World.exec (i : Input) (o : Op) (w : World) : Except Exn o.Ret × World :=
  match o with
  | .checkRateLimit e userId =>
    let r := checkRateLimit (w.rateLimits e) userId i.now i.created
    (.ok r.1, { w with rateLimits := Function.update w.rateLimits e r.2 })
  | .newOid => (.ok i.oid, w)
  -- replicas are up to date: both hosts see the same rows
  | .execute host stmt =>
    if i.fault (.execute host stmt) then (.error .storeFailure, w)
    else ((w.pg.exec i stmt).1, { w with pg := (w.pg.exec i stmt).2 })
  | .mongo cmd =>
    if i.fault (.mongo cmd) then (.error .storeFailure, w)
    else ((w.goals.exec cmd).1, { w with goals := (w.goals.exec cmd).2 })

end Leadertask
