import Leadertask.Proof.Frame

/-!
# Which task a status update changes

The handler passes its two numbers as `(goalId, taskId)` to a repository function that
takes `(taskId, goalId)`, and never compares the goal's owner with the user.

* `update_addressed_iff`: when an update changes exactly the task that its path names.
* `update_owner_iff`: in which runs only the owner of a goal changes its tasks.
-/

namespace Leadertask

open Atomic Tasks.UpdateTaskStatus

variable {D : Type} {cfg : Config D} {i : Input} {w : World} {request : HttpRequest}
  {u : UserId} {G T : Int64} {status : String}

/-! ## One update -/

/-- A request that passes the checks and meets no row. -/
theorem update_miss (cfg : Config D) (h : Passes i w request u G T status)
    (hno : ∀ r ∈ w.pg.tasks.rows, r.hit G T = false) :
    ((handleRequestJsonThrow cfg request ⟨some u⟩).run (World.exec i) w).2.pg.tasks = w.pg.tasks ∧
      statusOf ((handleRequestJsonThrow cfg request ⟨some u⟩).run (World.exec i) w).1 ≠ .kOk := by
  obtain ⟨r, hrun, hr⟩ := TasksRepository.updateStatus_miss (i := i)
    (w := w.limited i .tasksUpdateStatus u) cfg G T status fun _ _ => hno
  rw [run_passes rfl h, hrun]
  rcases hr with rfl | rfl
  · exact ⟨rfl, by simp [answer, statusOf, makeError]⟩
  · exact ⟨rfl, by simp [answer, statusOf]⟩

/-- A request that passes the checks and meets a row: the row's status is set, and the
answer is that row if it converts. -/
theorem update_hit (cfg : Config D) (h : Passes i w request u G T status)
    (hs : status ∈ taskStatuses)
    (hf : i.fault (.execute .kMaster (.updateTaskStatus G T status)) = false) {r : TaskRow}
    (hr : r ∈ w.pg.tasks.rows) (hh : r.hit G T = true) :
    ((handleRequestJsonThrow cfg request ⟨some u⟩).run (World.exec i) w).2.pg.tasks =
        w.pg.tasks.setStatus G T status hs ∧
      ((handleRequestJsonThrow cfg request ⟨some u⟩).run (World.exec i) w).1 =
        if r.Converts cfg.narrowing then
          .ok { payload := .task ⟨r.id.toInt32, r.goalId.toInt32, r.title, status⟩ }
        else .error .narrowingOverflow := by
  rw [run_passes rfl h, TasksRepository.updateStatus_hit (w := w.limited i .tasksUpdateStatus u)
    hs hf hr hh, TasksRepository.readTask_eq]
  refine ⟨rfl, ?_⟩
  by_cases hc : r.Converts cfg.narrowing
  · rw [if_pos hc, if_pos (show (r.withStatus status).Converts cfg.narrowing from hc)]; rfl
  · rw [if_neg hc, if_neg (show ¬ (r.withStatus status).Converts cfg.narrowing from hc)]; rfl

/-! ## The addressed task -/

/-- The response carries the row. -/
def Carries (t : CreateTaskResponseBody) (r : TaskRow) : Prop :=
  t.id.toInt64 = r.id ∧ t.goalId.toInt64 = r.goalId ∧ t.title = r.title ∧ t.status = r.status

/-- The update on goal `G` and task `T` answers 200 if and only if there is a row with
`id = T` and `goal_id = G`; then that row gets the status and is the response, and no
other row changes; otherwise none does. -/
structure HitsAddressed (cfg : Config D) (i : Input) (w : World) (request : HttpRequest)
    (u : UserId) (G T : Int64) (status : String) : Prop where
  ok_iff : statusOf ((handleRequestJsonThrow cfg request ⟨some u⟩).run (World.exec i) w).1 = .kOk ↔
    ∃ r ∈ w.pg.tasks.rows, r.hit T G = true
  hit : ∀ r ∈ w.pg.tasks.rows, r.hit T G = true →
    ((handleRequestJsonThrow cfg request ⟨some u⟩).run (World.exec i) w).2.pg.tasks.rows =
        Rows.updateWhere (TaskRow.hit T G) (TaskRow.withStatus status) w.pg.tasks.rows ∧
      ∃ t, ((handleRequestJsonThrow cfg request ⟨some u⟩).run (World.exec i) w).1 =
        .ok { payload := .task t } ∧ Carries t (r.withStatus status)
  miss : (∀ r ∈ w.pg.tasks.rows, r.hit T G = false) →
    ((handleRequestJsonThrow cfg request ⟨some u⟩).run (World.exec i) w).2.pg.tasks.rows =
      w.pg.tasks.rows

/-- When it does: no row has the two numbers in either order (or the row with the order
swapped has the status already and cannot be read into the response), or the two numbers
are one, which fits an `int`. -/
def AddressedWhen (m : Narrowing) (rows : List TaskRow) (G T : Int64) (status : String) : Prop :=
  if ∃ r ∈ rows, r.hit T G = true then G = T ∧ FitsInt G
  else ∀ r ∈ rows, r.hit G T = true → r.status = status ∧ ¬ r.Converts m

/-- When the addressed row is there: the two numbers must be one that fits an `int`. -/
theorem addressed_of_row (cfg : Config D) (h : Passes i w request u G T status)
    (hs : status ∈ taskStatuses)
    (hf : i.fault (.execute .kMaster (.updateTaskStatus G T status)) = false) {r : TaskRow}
    (hr : r ∈ w.pg.tasks.rows) (hh : r.hit T G = true) :
    HitsAddressed cfg i w request u G T status ↔ G = T ∧ FitsInt G := by
  have hrid := TaskRow.hit_iff.1 hh
  constructor
  · intro hp
    obtain ⟨-, t, hres, ht1, ht2, -⟩ := hp.hit r hr hh
    -- the statement looks for the two numbers the other way round
    rcases TaskRow.hit_or_miss w.pg.tasks.rows G T with ⟨r', hr', hh'⟩ | hmiss
    · have hrid' := TaskRow.hit_iff.1 hh'
      rw [(update_hit cfg h hs hf hr' hh').2] at hres
      split at hres
      · obtain rfl : (⟨r'.id.toInt32, r'.goalId.toInt32, r'.title, status⟩ : CreateTaskResponseBody) = t := by
          simpa using hres
        simp only [TaskRow.withStatus, hrid.1, hrid.2, hrid'.1, hrid'.2] at ht1 ht2
        -- narrowing is idempotent, so `T` is its own narrowing
        have hfit : FitsInt T := by
          unfold FitsInt; rw [← ht1, Int32.toInt32_toInt64]
        have hGT : G = T := by rw [← ht2]; exact hfit
        exact ⟨hGT, hGT ▸ hfit⟩
      · simp at hres
    · exact absurd (hp.ok_iff.2 ⟨r, hr, hh⟩) (update_miss cfg h hmiss).2
  · rintro ⟨rfl, hfit⟩
    obtain ⟨hrows, hres⟩ := update_hit cfg h hs hf hr hh
    have hconv : r.Converts cfg.narrowing := ⟨.inr (hrid.1 ▸ hfit), .inr (hrid.2 ▸ hfit)⟩
    rw [if_pos hconv] at hres
    constructor
    case ok_iff =>
      constructor
      · intro _
        exact ⟨r, hr, hh⟩
      · intro _
        rw [hres]; rfl
    case hit =>
      intro r' hr' hh'
      obtain rfl : r' = r := TasksTable.eq_of_hit hr hh hr' hh'
      refine ⟨by rw [hrows]; rfl, _, hres, ?_, ?_, rfl, rfl⟩
      · rw [TaskRow.withStatus, hrid.1]; exact hfit
      · rw [TaskRow.withStatus, hrid.2]; exact hfit
    case miss =>
      intro hno
      rw [hno r hr] at hh; simp at hh

/-- When it is not: the update must not be seen to hit another row. -/
theorem addressed_of_none (cfg : Config D) (h : Passes i w request u G T status)
    (hs : status ∈ taskStatuses)
    (hf : i.fault (.execute .kMaster (.updateTaskStatus G T status)) = false)
    (hno : ∀ r ∈ w.pg.tasks.rows, r.hit T G = false) :
    HitsAddressed cfg i w request u G T status ↔
      ∀ r ∈ w.pg.tasks.rows, r.hit G T = true → r.status = status ∧ ¬ r.Converts cfg.narrowing := by
  have hnone : ¬ ∃ r ∈ w.pg.tasks.rows, r.hit T G = true := by
    rintro ⟨r, hr, hh⟩
    rw [hno r hr] at hh; simp at hh
  constructor
  · intro hp r hr hh
    obtain ⟨hrows, hres⟩ := update_hit cfg h hs hf hr hh
    have hsame := hp.miss hno
    rw [hrows, TasksTable.setStatus_rows_eq hs hr hh] at hsame
    refine ⟨hsame, fun hc => ?_⟩
    have hok : statusOf ((handleRequestJsonThrow cfg request ⟨some u⟩).run (World.exec i) w).1 = .kOk := by
      rw [hres, if_pos hc]; rfl
    exact hnone (hp.ok_iff.1 hok)
  · intro hall
    -- nothing is answered 200 and nothing changes, whatever row the statement meets
    have hquiet : statusOf ((handleRequestJsonThrow cfg request ⟨some u⟩).run (World.exec i) w).1 ≠ .kOk ∧
        ((handleRequestJsonThrow cfg request ⟨some u⟩).run (World.exec i) w).2.pg.tasks.rows =
          w.pg.tasks.rows := by
      rcases TaskRow.hit_or_miss w.pg.tasks.rows G T with ⟨r, hr, hh⟩ | hmiss
      · obtain ⟨hst, hc⟩ := hall r hr hh
        obtain ⟨hrows, hres⟩ := update_hit cfg h hs hf hr hh
        rw [if_neg hc] at hres
        rw [hres, hrows, TasksTable.setStatus_rows_eq hs hr hh]
        exact ⟨by simp [statusOf], hst⟩
      · obtain ⟨h1, h2⟩ := update_miss cfg h hmiss
        exact ⟨h2, by rw [h1]⟩
    constructor
    case ok_iff =>
      constructor
      · intro hok
        exact absurd hok hquiet.1
      · intro hyes
        exact absurd hyes hnone
    case hit =>
      intro r hr hh
      exact absurd ⟨r, hr, hh⟩ hnone
    case miss =>
      intro _
      exact hquiet.2

/-- **When a status update hits exactly the addressed task.** -/
theorem update_addressed_iff (cfg : Config D) (i : Input) (w : World) (request : HttpRequest)
    (u : UserId) (G T : Int64) (status : String) (h : Passes i w request u G T status)
    (hs : status ∈ taskStatuses)
    (hf : i.fault (.execute .kMaster (.updateTaskStatus G T status)) = false) :
    HitsAddressed cfg i w request u G T status ↔
      AddressedWhen cfg.narrowing w.pg.tasks.rows G T status := by
  unfold AddressedWhen
  rcases TaskRow.hit_or_miss w.pg.tasks.rows T G with ⟨r, hr, hh⟩ | hno
  · rw [if_pos ⟨r, hr, hh⟩]
    exact addressed_of_row cfg h hs hf hr hh
  · rw [if_neg fun ⟨r, hr, hh⟩ => by rw [hno r hr] at hh; simp at hh]
    exact addressed_of_none cfg h hs hf hno

/-- The task of `doneWorld` before it was done. -/
def todoWorld : World := { doneWorld with pg := { doneWorld.pg with
  tasks := ⟨[⟨1, 1, "read", "todo", 0⟩], by decide, by decide, by decide⟩ } }

/-- Task 1 of goal 1 is done, the two numbers being one. -/
theorem update_addressed_iff_done :
    HitsAddressed (clearConfig .throws) {} todoWorld doneRequest 1 1 1 "done" ↔
      AddressedWhen .throws todoWorld.pg.tasks.rows 1 1 "done" :=
  update_addressed_iff (clearConfig .throws) {} todoWorld doneRequest 1 1 1 "done"
    ⟨by decide, by decide, by decide, ⟨_, rfl⟩, by decide⟩ (by decide) (by decide)

/-- User 1 owns goal `000000000000000000000002` and its one task, number 1. -/
def secondGoalWorld : World where
  pg := {
    users := doneWorld.pg.users
    usersSeq := 1
    goalIds := [1, 2]
    tasks := ⟨[⟨1, 2, "read", "todo", 0⟩], by decide, by decide, by decide⟩
    tasksSeq := 1 }
  goals := ⟨[⟨.named "000000000000000000000002", "books", 1, some ""⟩], by decide⟩
  rateLimits := fun _ _ => none

def secondGoalRequest : HttpRequest := { doneRequest with goalId := "000000000000000000000002" }

/-- Task 1 of goal 2 is there, and the update of it is not answered 200. -/
theorem update_misses_second :
    Passes {} secondGoalWorld secondGoalRequest 1 2 1 "done" ∧
      ¬ HitsAddressed (clearConfig .throws) {} secondGoalWorld secondGoalRequest 1 2 1 "done" := by
  refine ⟨⟨by decide, by decide, by decide, ⟨_, rfl⟩, by decide⟩, fun h => ?_⟩
  have := h.ok_iff.2 ⟨⟨1, 2, "read", "todo", 0⟩, by decide, by decide⟩
  exact absurd this (by decide)

/-! ## The owner -/

/-- The user created the goal that the path names. -/
def Owns (w : World) (u : UserId) (g : String) : Prop :=
  ∃ doc ∈ w.goals.docs, Oid.ofString g = .ok doc.id ∧ doc.userId = u

/-- A user who does not own the goal changes no task and is not answered 200. -/
def OwnerOnly (cfg : Config D) (w : World) (c : Call) : Prop :=
  ∀ u, c.ctx.userData = some u → ¬ Owns w u c.request.goalId →
    (c.run cfg w).2.pg.tasks.rows = w.pg.tasks.rows ∧ statusOf (c.run cfg w).1 ≠ .kOk

/-- The user owns the goal, or the request meets no row: it fails a check, or its status is
none of the three, or the statement fails, or no row has the path's goal number as its id
and the path's task number as its goal (or that row has the status already and cannot be
read into the response). -/
def MeetsNoRow (cfg : Config D) (w : World) (c : Call) : Prop :=
  ∀ u, c.ctx.userData = some u → Owns w u c.request.goalId ∨
    ∀ G T status, Passes c.input w c.request u G T status → status ∈ taskStatuses →
      c.input.fault (.execute .kMaster (.updateTaskStatus G T status)) = false →
      ∀ r ∈ w.pg.tasks.rows, r.hit G T = true → r.status = status ∧ ¬ r.Converts cfg.narrowing

theorem ownerOnly_iff {c : Call} (he : c.request.endpoint = .tasksUpdateStatus) :
    OwnerOnly cfg w c ↔ MeetsNoRow cfg w c := by
  have hrun : c.run cfg w = (handleRequestJsonThrow cfg c.request c.ctx).run (World.exec c.input) w := by
    rw [Call.run, dispatch, he]
  unfold OwnerOnly MeetsNoRow
  rw [hrun]
  refine forall_congr' fun u => forall_congr' fun hu => ?_
  have hctx : c.ctx = ⟨some u⟩ := by rw [← hu]
  rw [hctx]
  by_cases ho : Owns w u c.request.goalId
  · exact ⟨fun _ => .inl ho, fun _ hn => absurd ho hn⟩
  constructor
  · intro h
    obtain ⟨hrows, hok⟩ := h ho
    refine .inr fun G T status hp hs hf r hr hh => ?_
    obtain ⟨hrows', hres⟩ := update_hit cfg hp hs hf hr hh
    rw [hrows', TasksTable.setStatus_rows_eq hs hr hh] at hrows
    refine ⟨hrows, fun hc => hok ?_⟩
    rw [hres, if_pos hc]; rfl
  · rintro h -
    have h := h.resolve_left ho
    rcases run_cases (i := c.input) (w := w) cfg c.request ⟨some u⟩ with
      hno | ⟨u', G, T, status, hs, r, hu', hp, hf, hr, hh, -⟩
    · exact ⟨by rw [(Prod.mk.inj hno.1).1], fun hok => hno.2 (by simp [IsSuccess, hok, HttpStatus.code])⟩
    · obtain rfl : u = u' := Option.some.inj hu'
      obtain ⟨hrows, hres⟩ := update_hit cfg hp hs hf hr hh
      obtain ⟨hst, hc⟩ := h G T status hp hs hf r hr hh
      rw [if_neg hc] at hres
      refine ⟨?_, by rw [hres]; simp [statusOf]⟩
      rw [hrows, TasksTable.setStatus_rows_eq hs hr hh]; exact hst

/-- **In which runs only the owner changes a task**: those in which every status update
comes from the goal's owner or meets no row. -/
theorem update_owner_iff (cfg : Config D) (w₀ : World) (calls : List Call) :
    (∀ pre c post, calls = pre ++ c :: post → c.request.endpoint = .tasksUpdateStatus →
        OwnerOnly cfg (serveAll cfg w₀ pre) c) ↔
      ∀ pre c post, calls = pre ++ c :: post → c.request.endpoint = .tasksUpdateStatus →
        MeetsNoRow cfg (serveAll cfg w₀ pre) c := by
  constructor
  · intro h pre c post hcs he
    exact (ownerOnly_iff he).1 (h pre c post hcs he)
  · intro h pre c post hcs he
    exact (ownerOnly_iff he).2 (h pre c post hcs he)

/-- User 1 creates a goal, whose id is `000000000000000000000001`, and a task in it. -/
def ownersCalls : List Call :=
  [{ request := { endpoint := .goalsCreate, body := .obj [("title", .str "books")] }
     ctx := ⟨some 1⟩
     input := { oid := goalOne } },
   { request := {
       endpoint := .tasksCreate
       goalId := "000000000000000000000001"
       body := .obj [("title", .str "read")] }
     ctx := ⟨some 1⟩
     input := {} }]

/-- User 2 sets that task to `done`. -/
def strangersCall : Call := { request := doneRequest, ctx := ⟨some 2⟩, input := {} }

/-- Users 1 and 2 and the row of goal 1 in Postgres. -/
def twoUsersWorld : World where
  pg := {
    users := ⟨[⟨1, "ann", "password", "Ann", "Lee"⟩, ⟨2, "bob", "password", "Bob", "Ray"⟩],
      by decide, by decide, by decide⟩
    usersSeq := 2
    goalIds := [1]
    tasks := .empty
    tasksSeq := 0 }
  goals := .empty
  rateLimits := fun _ _ => none

/-- The stranger is answered 200. -/
theorem update_by_stranger :
    ¬ OwnerOnly (clearConfig .throws) (serveAll (clearConfig .throws) twoUsersWorld ownersCalls)
      strangersCall := by
  intro h
  have hno : ∀ doc ∈ (serveAll (clearConfig .throws) twoUsersWorld ownersCalls).goals.docs,
      doc.userId ≠ 2 := by decide
  exact absurd (h 2 rfl fun ⟨doc, hd, _, hu⟩ => hno doc hd hu).2 (by decide)

end Leadertask
