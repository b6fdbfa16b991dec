import Leadertask.Proof.History

/-!
# The answers as a ledger

Whoever has only the finished requests and their answers can keep the books: an account for each
signup answered 200, a goal for each goals-create answered 201, and the tasks with the statuses
that their updates answered. On a cluster whose replicas lag, with any number of requests in
flight, the master and Mongo hold exactly that.

* `ledger_exact`: nothing that is answered is lost, stored twice or stored otherwise, and
  nothing else is stored; an answer counts from the request's last operation on.
-/

namespace Leadertask

open Atomic

variable {D : Type} {τ : Type} {cfg : Config D}

/-! ## The books -/

/-- The row that a signup's answer stands for, its texts as their columns hold them. -/
def signedUpRow (a : Answer HttpRequest Exn HttpResponse τ) : Option UserRow :=
  if a.req.endpoint = .signup then
    match CreateUserRequestBody.parse a.req.body, a.result with
    | .ok body, .ok ⟨.kOk, _, .createdUser r⟩ =>
      some ⟨r.userId, asColumn body.login, asColumn body.password, asColumn body.firstName, asColumn body.lastName⟩
    | _, _ => none
  else none

/-- The document that an answer of goals-create stands for. -/
def createdGoal (cfg : Config D) (a : Answer HttpRequest Exn HttpResponse τ) : Option GoalDoc :=
  if a.req.endpoint = .goalsCreate then
    match CreateGoalRequestBody.parse a.req.body, (a.req.context cfg).userData, a.result with
    | .ok body, some u, .ok ⟨.kCreated, _, .createdGoal ⟨some id, _, _, _⟩⟩ =>
      (Oid.ofString id).toOption.map fun oid => ⟨oid, body.title, u, some (body.description.getD "")⟩
    | _, _, _ => none
  else none

/-- The tasks after an answer: one more, or one with another status. -/
def tasksAfter (ts : List Task) (a : Answer HttpRequest Exn HttpResponse τ) : List Task :=
  match a.req.endpoint, a.result with
  | .tasksCreate, .ok ⟨.kCreated, _, .task t⟩ => ts ++ [⟨t.id, t.goalId, t.title, t.status⟩]
  | .tasksUpdateStatus, .ok ⟨.kOk, _, .task t⟩ =>
    Rows.updateWhere (·.id = t.id) (fun t' => { t' with status := t.status }) ts
  | _, _ => ts

/-- The ids of the rows fit the fields that they are read into. -/
def TasksTable.Fit (t : TasksTable) : Prop := ∀ r ∈ t.rows, FitsInt r.id ∧ FitsInt r.goalId

/-- What was stored since `pg₀` and `goals₀` is what was answered, in the order of the last
operations. -/
structure Ledger (cfg : Config D) (pg₀ : Postgres) (goals₀ : GoalsCollection)
    (log : List (Answer HttpRequest Exn HttpResponse τ)) (pg : Postgres) (goals : GoalsCollection) :
    Prop where
  users : pg.users.rows = pg₀.users.rows ++ log.filterMap signedUpRow
  goals : goals.docs = goals₀.docs ++ log.filterMap (createdGoal cfg)
  tasks : pg.tasks.Fit →
    pg.tasks.rows.map TaskRow.toTask = log.foldl tasksAfter (pg₀.tasks.rows.map TaskRow.toTask)

/-! ## Answers that add nothing -/

/-- The answer of a request that wrote nothing. -/
structure Blank (cfg : Config D) (a : Answer HttpRequest Exn HttpResponse τ) : Prop where
  users : signedUpRow a = none
  goals : createdGoal cfg a = none
  tasks : ∀ ts, tasksAfter ts a = ts

section

variable {a : Answer HttpRequest Exn HttpResponse τ} {log : List (Answer HttpRequest Exn HttpResponse τ)}
variable {pg₀ pg : Postgres} {goals₀ goals : GoalsCollection}

theorem blank_of_fails (h : ¬ IsSuccess a.result) : Blank cfg a := by
  have hno (status : HttpStatus) (hs : status = .kOk ∨ status = .kCreated) (headers payload) :
      a.result ≠ .ok ⟨status, headers, payload⟩ := fun he => h (he ▸ isSuccess_ok.2 hs)
  refine ⟨?_, ?_, fun ts => ?_⟩
  · unfold signedUpRow
    split
    · split
      · rename_i hr
        exact absurd hr (hno _ (.inl rfl) _ _)
      · rfl
    · rfl
  · unfold createdGoal
    split
    · split
      · rename_i hr
        exact absurd hr (hno _ (.inr rfl) _ _)
      · rfl
    · rfl
  · unfold tasksAfter
    split
    · rename_i hr
      exact absurd hr (hno _ (.inr rfl) _ _)
    · rename_i hr
      exact absurd hr (hno _ (.inl rfl) _ _)
    · rfl

theorem blank_of_reading (h : a.req.endpoint.reading = true) : Blank cfg a := by
  refine ⟨if_neg fun he => ?_, if_neg fun he => ?_, fun ts => ?_⟩
  · rw [he] at h; simp [Endpoint.reading] at h
  · rw [he] at h; simp [Endpoint.reading] at h
  · unfold tasksAfter
    cases he : a.req.endpoint <;> rw [he] at h <;> first | rfl | simp [Endpoint.reading] at h

theorem Ledger.start (cfg : Config D) (pg : Postgres) (goals : GoalsCollection) :
    Ledger cfg pg goals ([] : List (Answer HttpRequest Exn HttpResponse τ)) pg goals :=
  ⟨(List.append_nil _).symm, (List.append_nil _).symm, fun _ => rfl⟩

theorem Ledger.blank (h : Ledger cfg pg₀ goals₀ log pg goals) (ha : Blank cfg a) :
    Ledger cfg pg₀ goals₀ (log ++ [a]) pg goals where
  users := by
    rw [List.filterMap_append, List.filterMap_cons_none ha.users, List.filterMap_nil, List.append_nil, h.users]
  goals := by
    rw [List.filterMap_append, List.filterMap_cons_none ha.goals, List.filterMap_nil, List.append_nil, h.goals]
  tasks := fun hfit => by rw [List.foldl_append, List.foldl_cons, List.foldl_nil, ha.tasks, h.tasks hfit]

/-- The books do not look at the states. -/
theorem Ledger.of_seen {σ : Type} {f : σ → τ} {log : List (Answer HttpRequest Exn HttpResponse σ)}
    (h : Ledger cfg pg₀ goals₀ (log.map (Answer.map f)) pg goals) : Ledger cfg pg₀ goals₀ log pg goals where
  users := by rw [h.users, List.filterMap_map]; rfl
  goals := by rw [h.goals, List.filterMap_map]; rfl
  tasks := fun hfit => by rw [h.tasks hfit, List.foldl_map]; rfl

/-! ## Answers that report a write -/

theorem Ledger.signup {body : CreateUserRequestBody} {id : Int64}
    (h : Ledger cfg pg₀ goals₀ log pg goals) {i : Input} {pg' : Postgres}
    (he : a.req.endpoint = .signup) (hb : CreateUserRequestBody.parse a.req.body = .ok body)
    (hr : a.result = .ok { payload := .createdUser ⟨id⟩ })
    (hins : pg.insertUser i body.login body.password body.firstName body.lastName = .ok (id, pg')) :
    Ledger cfg pg₀ goals₀ (log ++ [a]) pg' goals := by
  obtain ⟨hrows, -, htasks, -⟩ := Postgres.insertUser_ok hins
  have hup : signedUpRow a = some
      ⟨id, asColumn body.login, asColumn body.password, asColumn body.firstName, asColumn body.lastName⟩ := by
    rw [signedUpRow, if_pos he, hb, hr]
  have hgoal : createdGoal cfg a = none := if_neg fun he' => by simp [he] at he'
  have hafter (ts : List Task) : tasksAfter ts a = ts := by rw [tasksAfter, he]
  refine ⟨?_, ?_, fun hfit => ?_⟩
  · rw [List.filterMap_append, List.filterMap_cons_some hup, List.filterMap_nil, hrows, h.users,
      List.append_assoc]
  · rw [List.filterMap_append, List.filterMap_cons_none hgoal, List.filterMap_nil, List.append_nil, h.goals]
  · rw [htasks] at hfit ⊢
    rw [List.foldl_append, List.foldl_cons, List.foldl_nil, hafter, h.tasks hfit]

theorem Ledger.goal {doc : GoalDoc} {body : CreateGoalRequestBody}
    (h : Ledger cfg pg₀ goals₀ log pg goals) {goals' : GoalsCollection}
    (he : a.req.endpoint = .goalsCreate) (hu : (a.req.context cfg).userData = some doc.userId)
    (hb : CreateGoalRequestBody.parse a.req.body = .ok body) (htitle : doc.title = body.title)
    (hdescription : doc.description = some (body.description.getD ""))
    (hr : a.result = .ok (Goals.Create.answer doc)) (hins : goals.insertOne doc = .ok ((), goals')) :
    Ledger cfg pg₀ goals₀ (log ++ [a]) pg goals' := by
  have hup : signedUpRow a = none := if_neg fun he' => by simp [he] at he'
  have hgoal : createdGoal cfg a = some doc := by
    rw [createdGoal, if_pos he, hb, hu, hr]
    simp only [Goals.Create.answer, Oid.ofString_toString, Except.toOption, Option.map_some, ← htitle,
      ← hdescription]
  have hafter (ts : List Task) : tasksAfter ts a = ts := by rw [tasksAfter, he]
  refine ⟨?_, ?_, fun hfit => ?_⟩
  · rw [List.filterMap_append, List.filterMap_cons_none hup, List.filterMap_nil, List.append_nil, h.users]
  · rw [List.filterMap_append, List.filterMap_cons_some hgoal, List.filterMap_nil,
      (GoalsCollection.insertOne_ok hins).1, h.goals, List.append_assoc]
  · rw [List.foldl_append, List.foldl_cons, List.foldl_nil, hafter, h.tasks hfit]

/-- An answer of one of the tasks' handlers touches the tasks only. -/
theorem Ledger.task (h : Ledger cfg pg₀ goals₀ log pg goals) {pg' : Postgres}
    (he : a.req.endpoint = .tasksCreate ∨ a.req.endpoint = .tasksUpdateStatus)
    (husers : pg'.users = pg.users)
    (htasks : pg'.tasks.Fit → pg.tasks.Fit ∧
      pg'.tasks.rows.map TaskRow.toTask = tasksAfter (pg.tasks.rows.map TaskRow.toTask) a) :
    Ledger cfg pg₀ goals₀ (log ++ [a]) pg' goals := by
  have hup : signedUpRow a = none := if_neg fun he' => by simp [he'] at he
  have hgoal : createdGoal cfg a = none := if_neg fun he' => by simp [he'] at he
  refine ⟨?_, ?_, fun hfit => ?_⟩
  · rw [List.filterMap_append, List.filterMap_cons_none hup, List.filterMap_nil, List.append_nil, husers, h.users]
  · rw [List.filterMap_append, List.filterMap_cons_none hgoal, List.filterMap_nil, List.append_nil, h.goals]
  · obtain ⟨hfit', hrows⟩ := htasks hfit
    rw [List.foldl_append, List.foldl_cons, List.foldl_nil, hrows, h.tasks hfit']

/-- A row whose ids fit is answered as it is. -/
theorem TaskRow.converts_of_fit {r : TaskRow} (m : Narrowing) (h : FitsInt r.id ∧ FitsInt r.goalId) :
    r.Converts m := ⟨.inr h.1, .inr h.2⟩

theorem Ledger.createTask {goalId : Int64} {title : String} {row : TaskRow}
    (h : Ledger cfg pg₀ goals₀ log pg goals) {i : Input} {pg' : Postgres}
    (he : a.req.endpoint = .tasksCreate) (hr : a.result = Tasks.Create.answer cfg row)
    (hins : pg.insertTask i goalId title = .ok (row, pg')) :
    Ledger cfg pg₀ goals₀ (log ++ [a]) pg' goals := by
  obtain ⟨-, hrows, -, husers, -⟩ := Postgres.insertTask_ok hins
  refine h.task (.inl he) husers fun hfit => ?_
  have hrow : row ∈ pg'.tasks.rows := hrows ▸ List.mem_append_right _ (List.mem_singleton_self _)
  have hans : a.result = .ok { status := .kCreated, payload := .task row.toBody } := by
    rw [hr, Tasks.Create.answer, TasksRepository.readCreateTaskResponseBody_eq, TasksRepository.readTask_eq,
      if_pos (row.converts_of_fit _ (hfit row hrow))]
    rfl
  refine ⟨fun r hmem => hfit r (hrows ▸ List.mem_append_left _ hmem), ?_⟩
  rw [hrows, List.map_append, tasksAfter, he, hans]
  rfl

theorem Ledger.updateTaskStatus {id goalId : Int64} {status : String} {rows : List TaskRow}
    (h : Ledger cfg pg₀ goals₀ log pg goals) {pg' : Postgres} (he : a.req.endpoint = .tasksUpdateStatus)
    (hr : a.result = Tasks.UpdateTaskStatus.answer (TasksRepository.updated cfg rows))
    (hup : pg.updateTaskStatus id goalId status = .ok (rows, pg')) :
    Ledger cfg pg₀ goals₀ (log ++ [a]) pg' goals := by
  rcases TaskRow.hit_or_miss pg.tasks.rows id goalId with ⟨r, hmem, hit⟩ | hmiss
  · by_cases hs : status ∈ taskStatuses
    · rw [Postgres.updateTaskStatus_hit hs hmem hit] at hup
      obtain ⟨rfl, rfl⟩ := Prod.mk.inj (Except.ok.inj hup)
      refine h.task (.inr he) rfl fun hfit => ?_
      -- neither `id` nor `goalId` changes
      have hfit' : pg.tasks.Fit := by
        intro r' hr'
        by_cases hh : r'.hit id goalId = true
        · exact hfit (r'.withStatus status) (Rows.mem_updateWhere.2 (.inl ⟨r', hr', hh, rfl⟩))
        · exact hfit r' (Rows.mem_updateWhere.2 (.inr ⟨hr', by simpa using hh⟩))
      have hans : a.result = .ok { payload := .task (r.withStatus status).toBody } := by
        have hread := TasksRepository.readTask_eq cfg (r.withStatus status)
        rw [if_pos ((r.withStatus status).converts_of_fit _ (hfit' r hmem))] at hread
        rw [hr, TasksRepository.updated, if_neg (by simp), asSingleRow]
        simp only [bind, Except.bind, hread, Except.map]
        rfl
      refine ⟨hfit', ?_⟩
      rw [tasksAfter, he, hans]
      simp only [TasksTable.setStatus, Rows.updateWhere, List.map_map]
      apply List.map_congr_left
      intro r' hr'
      -- the answered id is that of the row that was hit, and of no other
      have hiff : r'.hit id goalId = true ↔ r'.toTask.id = (r.withStatus status).toBody.id := by
        constructor
        · intro hh
          rw [TasksTable.eq_of_hit hmem hit hr' hh]; rfl
        · intro hid
          have hid : r'.id.toInt32 = r.id.toInt32 := hid
          have hsame : r'.id = r.id := by rw [← (hfit' r' hr').1, hid, (hfit' r hmem).1]
          rw [Rows.eq_of_key pg.tasks.idKey hr' hmem hsame]; exact hit
      simp only [Function.comp, decide_eq_true_eq, ← hiff]
      split <;> rfl
    · -- an unknown status is refused where it meets a row
      rw [Postgres.updateTaskStatus, TasksTable.filter_hit hmem hit, dif_neg hs] at hup
      split at hup <;> simp at hup
  · obtain ⟨rfl, rfl⟩ := Postgres.updateTaskStatus_miss hmiss hup
    refine h.blank (blank_of_fails ?_)
    rw [hr]
    exact not_isSuccess_makeError (by decide)

end

/-! ## Runs -/

/-- The answer after the request's last operation keeps the books. -/
theorem Ledger.report {q : HttpRequest} {o : Op} {r : Except Exn HttpResponse} {i : HistoryInput}
    {h₀ h : History} {log : List (Answer HttpRequest Exn HttpResponse History)}
    (hL : Ledger cfg h₀.master h₀.goals log h.master h.goals)
    (hR : Reports cfg q (q.context cfg) o (History.exec i o h).1 r) :
    Ledger cfg h₀.master h₀.goals (log ++ [⟨q, r, (History.exec i o h).2⟩])
      (History.exec i o h).2.master (History.exec i o h).2.goals := by
  have hblank (hI : Idle o (History.exec i o h).1)
      (hb : ∀ w, Blank cfg (⟨q, r, w⟩ : Answer HttpRequest Exn HttpResponse History)) :
      Ledger cfg h₀.master h₀.goals (log ++ [⟨q, r, (History.exec i o h).2⟩])
        (History.exec i o h).2.master (History.exec i o h).2.goals := by
    rw [History.exec_idle hI]
    exact hL.blank (hb _)
  have hreads (ho : o.reads = true) (he : q.endpoint.reading = true) :=
    hblank (.inl ho) fun _ => blank_of_reading he
  generalize hx : (History.exec i o h).1 = x at hR
  cases hR with
  | signup he hb _ hr =>
    obtain ⟨hexec, hgoals⟩ := History.exec_write rfl hx
    rw [hgoals]
    exact hL.signup he hb hr (atomically_ok hexec)
  | tasksCreate he hn hb _ hr =>
    obtain ⟨hexec, hgoals⟩ := History.exec_write rfl hx
    rw [hgoals]
    exact hL.createTask he hr (atomically_ok hexec)
  | tasksUpdateStatus he hg ht hb hr =>
    obtain ⟨hexec, hgoals⟩ := History.exec_write rfl hx
    rw [hgoals]
    exact hL.updateTaskStatus he hr (atomically_ok hexec)
  | goalsCreate he hu hb htitle hdescription _ hr =>
    obtain ⟨hexec, hmaster⟩ := History.exec_insertOne hx
    rw [hmaster]
    exact hL.goal he hu hb htitle hdescription hr hexec
  | login he => exact hreads rfl (by rw [he]; rfl)
  | usersSearch he => exact hreads rfl (by rw [he]; rfl)
  | goalsList he => exact hreads rfl (by rw [he]; rfl)
  | tasksList he => exact hreads rfl (by rw [he]; rfl)
  | conflict he hb hr =>
    refine hblank (hx ▸ .inr ⟨_, rfl⟩) fun w => blank_of_fails ?_
    rw [hr]
    exact not_isSuccess_makeError (by decide)
  | goalMissing he hoid hu hno hr =>
    refine hblank (.inl rfl) fun w => blank_of_fails ?_
    rw [hr]
    exact not_isSuccess_makeError (by decide)
  | idle hI hr => exact hblank (hx ▸ hI) fun _ => blank_of_fails hr.noSuccess

/-- **The books are exact** on a cluster whose replicas lag, in every run. -/
theorem ledger_exact (cfg : Config D) (c₀ : Cluster) (c : ClusterRun)
    (h : Pool.Reach Cluster.exec (serve cfg) (fun _ _ => True) (Pool.start c₀) c) :
    Ledger cfg c₀.master c₀.goals c.log c.world.master c.world.goals := by
  have hL : Ledger cfg c₀.history.master c₀.history.goals (Pool.seenLog Cluster.history c.toShared)
      c.world.history.master c.world.history.goals := by
    refine cluster_rule cfg (fun _ _ => True) (fun log (h : History) =>
        Ledger cfg c₀.history.master c₀.history.goals log h.master h.goals)
      (fun _ _ _ => trivial) (fun _ _ _ _ => trivial) (.start _ _ _) ?_ ?_ h
    · intro log h q r hL _ hr
      exact hL.blank (blank_of_fails hr.noSuccess)
    · intro log h q r i o hL _ hR
      exact hL.report hR.2
  exact hL.of_seen

theorem ledger_exact_ann :
    Ledger (clearConfig .throws) oneReplica.master oneReplica.goals (annRun {}).log (annRun {}).world.master
      (annRun {}).world.goals :=
  ledger_exact (clearConfig .throws) oneReplica (annRun {}) (Pool.Reach.foldl _ fun _ _ _ => trivial)

example : (annRun {}).log.filterMap signedUpRow = [⟨1, "ann", "password", "Ann", "Lee"⟩] := by decide

end Leadertask
