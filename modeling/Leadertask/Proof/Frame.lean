import Leadertask.Proof.Calls
import Leadertask.Proof.Runs
import Leadertask.Proof.Tokens

/-!
# What a request changes

* `dispatch_frame`: a request that fails, or that only reads, leaves users, tasks and
  goals as they were; one that succeeds in writing makes the one change of its endpoint.
-/

namespace Leadertask

open Atomic

variable {D : Type} {cfg : Config D} {i : Input} {w w' : World}

/-- The users, the tasks and the goals. -/
def World.data (w : World) : UsersTable × TasksTable × GoalsCollection :=
  (w.pg.users, w.pg.tasks, w.goals)

theorem data_of_stores (h : w'.stores = w.stores) : w'.data = w.data := by
  obtain ⟨h1, h2⟩ := Prod.mk.inj h
  rw [World.data, World.data, h1, h2]

/-- The handlers that only read. -/
def Endpoint.reading : Endpoint → Bool
  | .login => true
  | .usersSearch => true
  | .goalsList => true
  | .tasksList => true
  | _ => false

/-- The one change that a successful request makes. -/
def Wrote (request : HttpRequest) (w w' : World) : Prop :=
  match request.endpoint with
  | .signup => ∃ row : UserRow, w'.pg.users.rows = w.pg.users.rows ++ [row] ∧
      w'.pg.tasks = w.pg.tasks ∧ w'.goals = w.goals
  | .goalsCreate => ∃ doc : GoalDoc, w'.goals.docs = w.goals.docs ++ [doc] ∧
      w'.pg.users = w.pg.users ∧ w'.pg.tasks = w.pg.tasks
  | .tasksCreate => ∃ row : TaskRow, w'.pg.tasks.rows = w.pg.tasks.rows ++ [row] ∧
      w'.pg.users = w.pg.users ∧ w'.goals = w.goals
  | .tasksUpdateStatus => ∃ before row after status,
      UpdateTaskStatusRequest.parse request.body = .ok ⟨status⟩ ∧
      w.pg.tasks.rows = before ++ row :: after ∧
      w'.pg.tasks.rows = before ++ row.withStatus status :: after ∧
      w'.pg.users = w.pg.users ∧ w'.goals = w.goals
  | _ => w'.data = w.data

theorem reading_of_calls {request : HttpRequest} {ctx : RequestContext}
    (h : request.endpoint.reading = true) {o : Op} (ho : Calls request ctx o) : o.reads = true := by
  cases he : request.endpoint <;> simp only [he, Endpoint.reading, Bool.false_eq_true] at h
  all_goals
    cases o with
    | checkRateLimit e u => rfl
    | newOid => rfl
    | execute host stmt => cases stmt <;> simp_all [Calls, Op.reads]
    | mongo cmd => cases cmd <;> simp_all [Calls, Op.reads]

/-- What a request did: nothing, or the one change of its endpoint, after which only the
conversion of the row can still fail. -/
theorem dispatch_cases (cfg : Config D) (i : Input) (w : World) (request : HttpRequest) (ctx : RequestContext) :
    Untouched w ((dispatch cfg request ctx).run (World.exec i) w) ∨
      request.endpoint.reading = true ∧
        ((dispatch cfg request ctx).run (World.exec i) w).2.stores = w.stores ∨
      request.endpoint.reading = false ∧
        Wrote request w ((dispatch cfg request ctx).run (World.exec i) w).2 ∧
        (IsSuccess ((dispatch cfg request ctx).run (World.exec i) w).1 ∨
          ((dispatch cfg request ctx).run (World.exec i) w).1 = .error .narrowingOverflow) := by
  cases hr : request.endpoint.reading with
  | true =>
    exact .inr (.inl ⟨rfl, run_reads ((dispatch_calls cfg request ctx).mono
      fun o => reading_of_calls hr)⟩)
  | false =>
    cases he : request.endpoint <;> simp only [he, Endpoint.reading, Bool.true_eq_false] at hr
    all_goals simp only [dispatch, he, Wrote]
    case signup =>
      rcases Signup.run_cases (i := i) (w := w) cfg request with h | ⟨body, id, pg', -, hins, hrun⟩
      · exact .inl h
      · obtain ⟨h1, -, h2, -⟩ := Postgres.insertUser_ok hins
        rw [hrun]
        exact .inr (.inr ⟨trivial, ⟨_, h1, h2, rfl⟩, .inl (isSuccess_ok.2 (.inl rfl))⟩)
    case goalsCreate =>
      rcases Goals.Create.run_cases (i := i) (w := w) request ctx with
        h | ⟨u, body, goals', -, -, hins, hrun⟩
      · exact .inl h
      · rw [hrun]
        exact .inr (.inr ⟨trivial, ⟨_, (GoalsCollection.insertOne_ok hins).1, rfl, rfl⟩,
          .inl (isSuccess_ok.2 (.inr rfl))⟩)
    case tasksCreate =>
      -- the row is committed before it is converted
      rcases Tasks.Create.run_cases (i := i) (w := w) cfg request ctx with
        h | ⟨u, body, n, pos, doc, row, pg', -, -, -, -, -, hins, hrun⟩
      · exact .inl h
      · obtain ⟨-, h1, -, h2, -⟩ := Postgres.insertTask_ok hins
        rw [hrun, Tasks.Create.answer, TasksRepository.readCreateTaskResponseBody_eq]
        refine .inr (.inr ⟨trivial, ⟨_, h1, h2, rfl⟩, ?_⟩)
        rw [TasksRepository.readTask_eq]
        split
        · exact .inl (isSuccess_ok.2 (.inr rfl))
        · exact .inr rfl
    case tasksUpdateStatus =>
      rcases Tasks.UpdateTaskStatus.run_cases (i := i) (w := w) cfg request ctx with
        h | ⟨u, goalId, taskId, status, hs, r, -, hp, -, hr, hh, hrun⟩
      · exact .inl h
      · obtain ⟨before, after, h1, h2⟩ := TasksTable.setStatus_split hs hr hh
        rw [hrun]
        refine .inr (.inr ⟨trivial, ⟨before, r, after, status, hp.body, h1, h2, rfl, rfl⟩, ?_⟩)
        rw [TasksRepository.readTask_eq]
        split
        · exact .inl (isSuccess_ok.2 (.inl rfl))
        · exact .inr rfl

/-- **No failed request changes data.** A request that fails leaves users, tasks and goals
as they were, unless the row that its statement returned does not convert; one that
succeeds makes the one change of its endpoint; and a reading one makes none. -/
theorem dispatch_frame (cfg : Config D) (i : Input) (w : World) (request : HttpRequest)
    (ctx : RequestContext) :
    (¬ IsSuccess ((dispatch cfg request ctx).run (World.exec i) w).1 →
        ((dispatch cfg request ctx).run (World.exec i) w).1 ≠ .error .narrowingOverflow →
        ((dispatch cfg request ctx).run (World.exec i) w).2.data = w.data) ∧
      (IsSuccess ((dispatch cfg request ctx).run (World.exec i) w).1 →
        Wrote request w ((dispatch cfg request ctx).run (World.exec i) w).2) ∧
      (request.endpoint.reading = true →
        ((dispatch cfg request ctx).run (World.exec i) w).2.data = w.data) := by
  rcases dispatch_cases cfg i w request ctx with ⟨h, hno⟩ | ⟨hr, h⟩ | ⟨hr, hw, hs⟩
  · exact ⟨fun _ _ => data_of_stores h, fun hyes => absurd hyes hno, fun _ => data_of_stores h⟩
  · refine ⟨fun _ _ => data_of_stores h, fun _ => ?_, fun _ => data_of_stores h⟩
    unfold Wrote
    cases he : request.endpoint <;> simp only [he, Endpoint.reading, Bool.false_eq_true] at hr
    all_goals exact data_of_stores h
  · -- after a write only a failed conversion is no success
    refine ⟨fun hno hconv => ?_, fun _ => hw, fun hyes => absurd hyes (by simp [hr])⟩
    exact (hs.elim hno hconv).elim

/-! ## An update to the status that a task already has -/

/-- The object id of a text that is known to be one. -/
def Oid.named (s : String) : Oid :=
  match Oid.ofString s with
  | .ok o => o
  | .error _ => .zero

def goalOne : Oid := .named "000000000000000000000001"

/-- User 1 owns goal `000000000000000000000001` and its one task, which is done. -/
def doneWorld : World where
  pg := {
    users := ⟨[⟨1, "ann", "password", "Ann", "Lee"⟩], by decide, by decide, by decide⟩
    usersSeq := 1
    goalIds := [1]
    tasks := ⟨[⟨1, 1, "read", "done", 0⟩], by decide, by decide, by decide⟩
    tasksSeq := 1 }
  goals := ⟨[⟨goalOne, "books", 1, some ""⟩], by decide⟩
  rateLimits := fun _ _ => none

/-- Set task 1 of that goal to `done`. -/
def doneRequest : HttpRequest where
  endpoint := .tasksUpdateStatus
  goalId := "000000000000000000000001"
  taskId := "1"
  body := .obj [("status", .str "done")]

/-- The update answers 200 and changes nothing. -/
theorem update_same_status :
    IsSuccess ((dispatch (clearConfig .throws) doneRequest ⟨some 1⟩).run (World.exec {}) doneWorld).1 ∧
      ((dispatch (clearConfig .throws) doneRequest ⟨some 1⟩).run (World.exec {}) doneWorld).2.data =
        doneWorld.data := by
  refine ⟨by decide, ?_⟩
  exact Prod.ext rfl (Prod.ext (TasksTable.ext (by decide)) rfl)

end Leadertask
