import Leadertask.Model.Basic
import Mathlib.Data.List.AList

/-!
# The storages in memory

`UsersStorage`, `GoalsStorage` and `TasksStorage`, which the repositories replaced. An `unordered_map` is
an association list; its order, which the standard leaves open, is the order of iteration.
Each function runs under the storage's mutex, so in one step.
-/

namespace Leadertask

/-- `std::string::find`: the first place where `sub` stands in `s`; `none` is `npos`. -/
def strFind (sub : List Char) : List Char → Option ℕ
  | [] => if sub = [] then some 0 else none
  | c :: s => if sub <+: c :: s then some 0 else (strFind sub s).map (· + 1)

theorem strFind_eq_none {sub s : List Char} : strFind sub s = none ↔ ¬ sub <:+: s := by
  induction s with
  | nil => simp [strFind]
  | cons c s ih =>
    rw [strFind, List.infix_cons_iff]
    split <;> simp_all

/-! ## Users -/

structure UserRecord where
  id : Int64
  login : String
  password : String
  firstName : String
  lastName : String
  deriving DecidableEq, Repr

/-- `std::unordered_map<K, V>` -/
abbrev UnorderedMap (K V : Type) := AList fun _ : K => V

namespace UnorderedMap

variable {K V : Type} [DecidableEq K]

/-- `emplace`: only where there is no entry for the key. -/
def emplace (m : UnorderedMap K V) (k : K) (v : V) : UnorderedMap K V :=
  if k ∈ m then m else m.insert k v

/-- The values, in the order of iteration. -/
def values (m : UnorderedMap K V) : List V := m.entries.map (·.2)

theorem lookup_insert (m : UnorderedMap K V) (k : K) (v : V) (k' : K) :
    (m.insert k v).lookup k' = if k' = k then some v else m.lookup k' := by
  split
  · rename_i h
    rw [h]; exact AList.lookup_insert m
  · rename_i h
    exact AList.lookup_insert_ne h

theorem emplace_new {m : UnorderedMap K V} {k : K} (h : m.lookup k = none) (v : V) :
    emplace m k v = m.insert k v := if_neg (AList.lookup_eq_none.1 h)

end UnorderedMap

structure UsersStorage where
  nextId : Int64 := 1
  usersByLogin : UnorderedMap String UserRecord := ∅
  usersById : UnorderedMap Int64 UserRecord := ∅

namespace UsersStorage

variable (st : UsersStorage)

def createUser (login password firstName lastName : String) : Option Int64 × UsersStorage :=
  if login ∈ st.usersByLogin then (none, st)
  else
    let id := st.nextId
    let user : UserRecord := ⟨id, login, password, firstName, lastName⟩
    (some id, {
      nextId := st.nextId + 1
      usersByLogin := UnorderedMap.emplace st.usersByLogin login user
      usersById := UnorderedMap.emplace st.usersById id user })

def getByLogin (login : String) : Option UserRecord := st.usersByLogin.lookup login

def getById (userId : Int64) : Option UserRecord := st.usersById.lookup userId

def userExists (userId : Int64) : Bool := (st.usersById.lookup userId).isSome

/-- The mask is absent, or `find` finds it. -/
def masked (mask : Option String) (name : String) : Bool :=
  match mask with
  | none => true
  | some m => (strFind m.toList name.toList).isSome

/-- The variable `ok` at the end of the loop's body. -/
def ok (login firstMask lastMask : Option String) (user : UserRecord) : Bool :=
  (match login with
    | none => true
    | some l => user.login = l) &&
  masked firstMask user.firstName && masked lastMask user.lastName

def search (login firstMask lastMask : Option String) : List UserRecord :=
  (UnorderedMap.values st.usersByLogin).filter (ok login firstMask lastMask)

end UsersStorage

/-! ## Goals -/

structure GoalRecord where
  id : Int64
  title : String
  description : String
  userId : Int64
  deriving DecidableEq, Repr

structure GoalsStorage where
  nextId : Int64 := 1
  goalsById : UnorderedMap Int64 GoalRecord := ∅

namespace GoalsStorage

variable (st : GoalsStorage)

def createGoal (title description : String) (userId : Int64) : GoalRecord × GoalsStorage :=
  let goal : GoalRecord := ⟨st.nextId, title, description, userId⟩
  (goal, {
    nextId := st.nextId + 1
    goalsById := UnorderedMap.emplace st.goalsById goal.id goal })

def getById (id : Int64) : Option GoalRecord := st.goalsById.lookup id

def getGoalsByUser (userId : Int64) : List GoalRecord :=
  (UnorderedMap.values st.goalsById).filter (·.userId = userId)

end GoalsStorage

/-! ## Tasks -/

inductive TaskStatus where
  | todo
  | inProgress
  | done
  deriving DecidableEq, Repr

def taskStatusToString : TaskStatus → String
  | .todo => "todo"
  | .inProgress => "in_progress"
  | .done => "done"

/-- Anything else is an `std::invalid_argument`. -/
def taskStatusFromString (st : String) : Except Exn TaskStatus :=
  if st = "todo" then .ok .todo
  else if st = "in_progress" then .ok .inProgress
  else if st = "done" then .ok .done
  else .error .invalidArgument

/-- The two conversions are inverse to each other. -/
theorem taskStatusFromString_ok_iff {s : String} {st : TaskStatus} :
    taskStatusFromString s = .ok st ↔ taskStatusToString st = s := by
  constructor
  · intro h
    unfold taskStatusFromString at h
    split_ifs at h with h1 h2 h3
    · rw [← Except.ok.inj h, h1]; rfl
    · rw [← Except.ok.inj h, h2]; rfl
    · rw [← Except.ok.inj h, h3]; rfl
  · rintro rfl
    cases st <;> rfl

structure TaskRecord where
  id : Int64
  goalId : Int64
  title : String
  status : String
  deriving DecidableEq, Repr

structure TasksStorage where
  nextId : Int64 := 1
  tasksById : UnorderedMap Int64 TaskRecord := ∅
  tasksByGoal : UnorderedMap Int64 (List TaskRecord) := ∅

namespace TasksStorage

variable (st : TasksStorage)

def createTask (goalId : Int64) (title : String) : TaskRecord × TasksStorage :=
  let task : TaskRecord := ⟨st.nextId, goalId, title, taskStatusToString .todo⟩
  (task, {
    nextId := st.nextId + 1
    tasksById := UnorderedMap.emplace st.tasksById task.id task
    -- `operator[]` makes an empty vector for a goal without tasks
    tasksByGoal := st.tasksByGoal.insert goalId ((st.tasksByGoal.lookup goalId).getD [] ++ [task]) })

def getById (id : Int64) : Option TaskRecord := st.tasksById.lookup id

def getByGoal (goalId : Int64) : List TaskRecord := (st.tasksByGoal.lookup goalId).getD []

/-- The loop over a goal's vector: the first task with the id gets the status. -/
def setStatus (taskId : Int64) (status : String) : List TaskRecord → List TaskRecord
  | [] => []
  | t :: ts => if t.id = taskId then { t with status := status } :: ts else t :: setStatus taskId status ts

def updateTaskStatus (goalId taskId : Int64) (newSt : TaskStatus) : Option TaskRecord × TasksStorage :=
  match st.tasksById.lookup taskId with
  | none => (none, st)
  | some task =>
    if task.goalId ≠ goalId then (none, st)
    else
      let updated := { task with status := taskStatusToString newSt }
      (some updated, { st with
        tasksById := st.tasksById.insert taskId updated
        tasksByGoal :=
          match st.tasksByGoal.lookup goalId with
          | none => st.tasksByGoal
          | some ts => st.tasksByGoal.insert goalId (setStatus taskId (taskStatusToString newSt) ts) })

end TasksStorage

end Leadertask
