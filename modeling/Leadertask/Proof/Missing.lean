import Leadertask.Proof.Consistency

/-!
# What is answered 404

Goals are looked up in Mongo and tasks are updated on the master, so neither answer is out of date, and
no goal and no task goes away. Of what a request does not find, no request that was finished before it
has told.

* `missing_justified`: in every run each 404 is due to a goal that the log before it does not tell of,
  to another owner, to a task that it does not tell of, or to an unknown status.
-/

namespace Leadertask

open Atomic

variable {D : Type} {τ : Type} {cfg : Config D}

/-- The goals of before, and of the goals-creates finished since. -/
def goalsTold (cfg : Config D) (goals₀ : GoalsCollection) (log : List (Answer HttpRequest Exn HttpResponse τ)) :
    List GoalDoc := goals₀.docs ++ log.filterMap (createdGoal cfg)

theorem goalsTold_seen {σ : Type} (cfg : Config D) (goals₀ : GoalsCollection) (f : σ → τ)
    (log : List (Answer HttpRequest Exn HttpResponse σ)) :
    goalsTold cfg goals₀ (log.map (Answer.map f)) = goalsTold cfg goals₀ log := by
  rw [goalsTold, List.filterMap_map]; rfl

/-- Why a request is answered 404, by the goals and the tasks there are; what the numbers of the tasks
say counts as far as they `fit`. -/
inductive Missing (cfg : Config D) (q : HttpRequest) (goals : List GoalDoc) (tasks : List Task) (fit : Prop) :
    Prop where
  | goal {oid : Oid} (hoid : Oid.ofString q.goalId = .ok oid) (hno : ∀ doc ∈ goals, doc.id ≠ oid)
  | owner {doc : GoalDoc} {u : UserId} (he : q.endpoint = .tasksCreate ∨ q.endpoint = .tasksList)
      (hoid : Oid.ofString q.goalId = .ok doc.id) (hdoc : doc ∈ goals) (hu : (q.context cfg).userData = some u)
      (hno : ¬ doc.passesFor u)
  -- the statement gets the path's numbers in the other order
  | task {goalId taskId : Int64} (he : q.endpoint = .tasksUpdateStatus)
      (hg : parseInt q.goalId 0 = (true, goalId)) (ht : parseInt q.taskId 0 = (true, taskId))
      (hno : fit → ∀ t ∈ tasks, ¬ (t.id.toInt64 = goalId ∧ t.goalId.toInt64 = taskId))
  | status {status : String} (he : q.endpoint = .tasksUpdateStatus)
      (hb : UpdateTaskStatusRequest.parse q.body = .ok ⟨status⟩) (hno : status ∉ taskStatuses)

/-- An answer 404 has its reason in the log before it. -/
def MissingJustified (cfg : Config D) (pg₀ : Postgres) (goals₀ : GoalsCollection) (master : τ → Postgres)
    (before : List (Answer HttpRequest Exn HttpResponse τ)) (a : Answer HttpRequest Exn HttpResponse τ) : Prop :=
  statusOf a.result = .kNotFound →
    Missing cfg a.req (goalsTold cfg goals₀ before) (tasksTold pg₀ before) (master a.world).tasks.Fit

/-! ## Answers -/

theorem missing_of_fails {q : HttpRequest} {r : Except Exn HttpResponse} {goals : List GoalDoc} {tasks : List Task}
    {fit : Prop} (h : Fails q r) (hr : statusOf r = .kNotFound) : Missing cfg q goals tasks fit := by
  obtain ⟨he, status, hb, hs⟩ := h.unknownStatus hr
  exact .status he hb hs

/-- Statements that touch no row find none. -/
theorem Postgres.updateTaskStatus_empty {pg pg' : Postgres} {id goalId : Int64} {status : String}
    (h : pg.updateTaskStatus id goalId status = .ok ([], pg')) :
    pg' = pg ∧ ∀ r ∈ pg.tasks.rows, r.hit id goalId = false := by
  rcases TaskRow.hit_or_miss pg.tasks.rows id goalId with ⟨r, hr, hit⟩ | hmiss
  · by_cases hs : status ∈ taskStatuses
    · rw [Postgres.updateTaskStatus_hit hs hr hit] at h
      simp at h
    · rw [Postgres.updateTaskStatus, TasksTable.filter_hit hr hit, dif_neg hs] at h
      split at h <;> simp at h
  · exact ⟨(Postgres.updateTaskStatus_miss hmiss h).2, hmiss⟩

/-- Only a statement without a row is answered 404. -/
theorem updated_missing {rows : List TaskRow}
    (h : statusOf (Tasks.UpdateTaskStatus.answer (TasksRepository.updated cfg rows)) = .kNotFound) : rows = [] := by
  cases rows with
  | nil => rfl
  | cons row rows =>
    rw [TasksRepository.updated, if_neg (by simp)] at h
    cases hread : asSingleRow (row :: rows) >>= TasksRepository.readTask cfg <;> rw [hread] at h <;>
      simp [Except.map, Tasks.UpdateTaskStatus.answer, statusOf] at h

section

variable {q : HttpRequest} {o : Op} {r : Except Exn HttpResponse} {j : HistoryInput} {h : History}
variable {pg₀ : Postgres} {goals₀ : GoalsCollection} {log : List (Answer HttpRequest Exn HttpResponse History)}

/-- What a request's last operation does not find, the books do not have. -/
theorem missing_report (hL : Ledger cfg pg₀ goals₀ log h.master h.goals)
    (hR : Reports cfg q (q.context cfg) o (History.exec j o h).1 r) :
    MissingJustified cfg pg₀ goals₀ History.master log ⟨q, r, (History.exec j o h).2⟩ := by
  intro hstatus
  have hother {x : Except Exn HttpResponse} (hx : statusOf x ≠ .kNotFound) (hr : r = x) :
      Missing cfg q (goalsTold cfg goals₀ log) (tasksTold pg₀ log) (History.exec j o h).2.master.tasks.Fit :=
    absurd (hr ▸ hstatus) hx
  generalize hx : (History.exec j o h).1 = x at hR
  cases hR with
  | @goalMissing oid found u msg _ he hoid hu hno hr =>
    have hfind : h.goals.docs.find? (·.id = oid) = found := Except.ok.inj (History.exec_mongo hx)
    cases found with
    | none =>
      refine .goal hoid fun doc hdoc hid => ?_
      rw [goalsTold, ← hL.goals] at hdoc
      simpa [hid] using List.find?_eq_none.1 hfind doc hdoc
    | some doc =>
      obtain ⟨hdoc, rfl⟩ := (Rows.find_eq_some_iff h.goals.idKey).1 hfind
      obtain ⟨hne, hother⟩ := hno doc rfl
      have he' : q.endpoint = .tasksCreate ∨ q.endpoint = .tasksList := by
        simpa [hne] using he
      exact .owner he' hoid (by rw [goalsTold, ← hL.goals]; exact hdoc) hu hother
  | @tasksUpdateStatus id n status rows _ he hg ht hb hr =>
    obtain rfl : rows = [] := updated_missing (hr ▸ hstatus)
    obtain ⟨hexec, -⟩ := History.exec_write rfl hx
    obtain ⟨hsame, hmiss⟩ := Postgres.updateTaskStatus_empty (atomically_ok hexec)
    refine .task he hg ht fun hfit t ht' ⟨hid, hgoal⟩ => ?_
    rw [hsame] at hfit
    rw [tasksTold, ← hL.tasks hfit] at ht'
    obtain ⟨row, hrow, rfl⟩ := List.mem_map.1 ht'
    -- numbers that fit read back as they are
    have hrow' := hfit row hrow
    have hhit : row.hit id n = true := TaskRow.hit_iff.2 ⟨hrow'.1.symm.trans hid, hrow'.2.symm.trans hgoal⟩
    simp [hmiss row hrow] at hhit
  | idle _ hr => exact missing_of_fails hr hstatus
  | signup _ _ _ hr => exact hother (by simp [statusOf]) hr
  | conflict _ _ hr => exact hother (by simp [statusOf, makeError]) hr
  | @login login password rows _ _ _ hr =>
    refine hother ?_ hr
    rcases login_tokenIn cfg password rows with ⟨_, -, hs⟩ | ⟨-, hs⟩ <;> rw [hs] <;> decide
  | usersSearch _ hr => exact hother (statusOf_map_ne (by decide) fun _ => by simp) hr
  | goalsCreate _ _ _ _ _ _ hr => exact hother (by simp [statusOf, Goals.Create.answer]) hr
  | goalsList _ _ hr => exact hother (by simp [statusOf]) hr
  | tasksCreate _ _ _ _ hr => exact hother (statusOf_map_ne (by decide) fun _ => by simp) hr
  | tasksList _ _ hr => exact hother (statusOf_map_ne (by decide) fun _ => by simp) hr

end

/-! ## Runs -/

/-- **Each 404 is justified** on a cluster whose replicas lag, in every run, by what was finished
before it. -/
theorem missing_justified (cfg : Config D) (c₀ : Cluster) (c : ClusterRun)
    (h : Pool.Reach Cluster.exec (serve cfg) (fun _ _ => True) (Pool.start c₀) c) :
    EachAnswer (MissingJustified cfg c₀.master c₀.goals Cluster.master) c.log := by
  have hall : EachAnswer (MissingJustified cfg c₀.master c₀.goals History.master)
      (Pool.seenLog Cluster.history c.toShared) := by
    refine (cluster_rule cfg (fun _ _ => True) (fun log (h : History) =>
        Ledger cfg c₀.history.master c₀.history.goals log h.master h.goals ∧
          EachAnswer (MissingJustified cfg c₀.master c₀.goals History.master) log)
      (fun _ _ _ => trivial) (fun _ _ _ _ => trivial) ⟨.start _ _ _, EachAnswer.nil⟩ ?_ ?_ h).2
    · rintro log h q r ⟨hL, hA⟩ - hr
      exact ⟨hL.blank (blank_of_fails hr.noSuccess), hA.append fun hs => missing_of_fails hr hs⟩
    · rintro log h q r j o ⟨hL, hA⟩ - hR
      exact ⟨hL.report hR.2, hA.append (missing_report hL hR.2)⟩
  refine hall.of_map fun pre a ha hs => ?_
  have hmissing := ha hs
  rwa [goalsTold_seen, tasksTold_seen] at hmissing

/-- Ann asks for the tasks of the goal that she is about to create. -/
def annTasks : HttpRequest := { annRead .tasksList with goalId := Oid.zero.toString }

def annEarlyRun : ClusterRun :=
  [.arrive annSignup, .turn 0 {}, .arrive annTasks, .turn 0 {}, .turn 0 {}, .arrive annGoal, .turn 0 {}, .turn 0 {},
    .turn 0 {}, .arrive annTasks, .turn 0 {}, .turn 0 {}, .turn 0 {}].foldl
    (Pool.step Cluster.exec (serve (clearConfig .throws))) (Pool.start oneReplica)

theorem missing_justified_early :
    annEarlyRun.log.map (fun a => statusOf a.result) = [.kOk, .kNotFound, .kCreated, .kOk] ∧
      EachAnswer (MissingJustified (clearConfig .throws) oneReplica.master oneReplica.goals Cluster.master)
        annEarlyRun.log :=
  ⟨by decide +kernel, missing_justified (clearConfig .throws) oneReplica annEarlyRun
    (Pool.Reach.foldl _ fun _ _ _ => trivial)⟩

end Leadertask
