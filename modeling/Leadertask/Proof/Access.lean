import Leadertask.Proof.Mediation
import Leadertask.Proof.Missing

/-!
# Who is served tasks

The handlers of tasks look the goal of the path up before they answer, and goals do not go away. So when
such a request is finished the goal is there, among those of which the requests finished before it told,
and for two of the handlers the client passes for its owner.

* `tasks_guarded`: in every run nobody is served the tasks of a goal that is not there, nor, by
  tasks-create and tasks-list, of a goal of another owner.
-/

namespace Leadertask

open Atomic

variable {D : Type} {τ : Type} {cfg : Config D}

/-- A handler of tasks serves a goal that the log before told of; only the status update does so for
a client who is not the owner. -/
structure TasksGuarded (cfg : Config D) (goals₀ : GoalsCollection)
    (before : List (Answer HttpRequest Exn HttpResponse τ)) (a : Answer HttpRequest Exn HttpResponse τ) : Prop where
  goal : IsSuccess a.result → a.req.endpoint ∈ [.tasksCreate, .tasksList, .tasksUpdateStatus] →
    ∃ doc ∈ goalsTold cfg goals₀ before, Oid.ofString a.req.goalId = .ok doc.id
  owner : IsSuccess a.result → a.req.endpoint ∈ [.tasksCreate, .tasksList] →
    ∃ doc ∈ goalsTold cfg goals₀ before, Oid.ofString a.req.goalId = .ok doc.id ∧
      ∃ u, (a.req.context cfg).userData = some u ∧ doc.passesFor u

section

variable {goals₀ : GoalsCollection} {before : List (Answer HttpRequest Exn HttpResponse τ)}
variable {a : Answer HttpRequest Exn HttpResponse τ} {h : History} {past : StorePast} {doc : GoalDoc} {u : UserId}

theorem tasksGuarded_of_fails (h : ¬ IsSuccess a.result) : TasksGuarded cfg goals₀ before a :=
  ⟨fun hr => absurd hr h, fun hr => absurd hr h⟩

/-- An answer of another handler. -/
theorem tasksGuarded_of_ne (h : a.req.endpoint ∉ [.tasksCreate, .tasksList, .tasksUpdateStatus]) :
    TasksGuarded cfg goals₀ before a := by
  refine ⟨fun _ he => absurd he h, fun _ he => absurd ?_ h⟩
  simp only [List.mem_cons, List.not_mem_nil, or_false] at he ⊢
  tauto

/-- A goal that Mongo has shown is one of its documents. -/
theorem goalShown_mem {q : HttpRequest} (hpast : TrueIn History.exec (fun _ => True) past h)
    (hshown : GoalShown past q doc) : doc ∈ h.goals.docs ∧ Oid.ofString q.goalId = .ok doc.id := by
  obtain ⟨oid, hoid, hmem⟩ := hshown
  obtain ⟨i, -, hi⟩ := hpast _ hmem
  have hfind : h.goals.docs.find? (·.id = oid) = some doc := Except.ok.inj (History.exec_mongo hi)
  obtain ⟨hdoc, rfl⟩ := (Rows.find_eq_some_iff h.goals.idKey).1 hfind
  exact ⟨hdoc, hoid⟩

theorem tasksGuarded_own (hgoals : h.goals.docs = goalsTold cfg goals₀ before)
    (hpast : TrueIn History.exec (fun _ => True) past h) (hu : (a.req.context cfg).userData = some u)
    (hshown : GoalShown past a.req doc) (hown : doc.passesFor u) : TasksGuarded cfg goals₀ before a := by
  obtain ⟨hdoc, hoid⟩ := goalShown_mem hpast hshown
  rw [hgoals] at hdoc
  exact ⟨fun _ _ => ⟨doc, hdoc, hoid⟩, fun _ _ => ⟨doc, hdoc, hoid, u, hu, hown⟩⟩

end

/-- What a request's last operation needed, the books have. -/
theorem tasksGuarded_report {q : HttpRequest} {o : Op} {r : Except Exn HttpResponse} {j : HistoryInput} {h : History}
    {past : StorePast} {pg₀ : Postgres} {goals₀ : GoalsCollection}
    {log : List (Answer HttpRequest Exn HttpResponse History)}
    (hL : Ledger cfg pg₀ goals₀ log h.master h.goals) (hM : Mediates cfg q past o)
    (hpast : TrueIn History.exec (fun _ => True) past h)
    (hR : Reports cfg q (q.context cfg) o (History.exec j o h).1 r) :
    TasksGuarded cfg goals₀ log ⟨q, r, (History.exec j o h).2⟩ := by
  obtain ⟨-, hpermit⟩ := hM
  generalize (History.exec j o h).1 = x at hR
  cases hR with
  | tasksCreate he =>
    obtain ⟨-, -, -, -, -, u, doc, hu, -, hshown, hown⟩ := hpermit
    exact tasksGuarded_own hL.goals hpast hu hshown hown
  | tasksList he =>
    obtain ⟨-, -, -, u, doc, hu, -, hshown, hown⟩ := hpermit
    exact tasksGuarded_own hL.goals hpast hu hshown hown
  | tasksUpdateStatus he =>
    obtain ⟨-, -, -, -, -, -, u, doc, hu, -, hshown⟩ := hpermit
    obtain ⟨hdoc, hoid⟩ := goalShown_mem hpast hshown
    rw [hL.goals] at hdoc
    exact ⟨fun _ _ => ⟨doc, hdoc, hoid⟩, fun _ he' => by simp [he] at he'⟩
  | goalMissing _ _ _ _ hr => exact tasksGuarded_of_fails (hr ▸ not_isSuccess_makeError (by decide))
  | idle _ hr => exact tasksGuarded_of_fails hr.noSuccess
  | signup he => exact tasksGuarded_of_ne (by simp [he])
  | conflict he => exact tasksGuarded_of_ne (by simp [he])
  | login he => exact tasksGuarded_of_ne (by simp [he])
  | usersSearch he => exact tasksGuarded_of_ne (by simp [he])
  | goalsCreate he => exact tasksGuarded_of_ne (by simp [he])
  | goalsList he => exact tasksGuarded_of_ne (by simp [he])

/-- **Tasks are guarded** on a cluster whose replicas lag, in every run. -/
theorem tasks_guarded (cfg : Config D) (c₀ : Cluster) (c : ClusterRun)
    (h : Pool.Reach Cluster.exec (serve cfg) (fun _ _ => True) (Pool.start c₀) c) :
    EachAnswer (TasksGuarded cfg c₀.goals) c.log := by
  have hserial : Serial History.exec (fun _ => True) (serve cfg) (fun _ _ => True) c₀.history
      (Pool.seenLog Cluster.history c.toShared) c.world.history :=
    cluster_serial cfg (fun _ _ _ => trivial) (fun _ _ _ _ => trivial) h
  have hall : EachAnswer (TasksGuarded cfg c₀.goals) (Pool.seenLog Cluster.history c.toShared) := by
    refine (Serial.rule_guarded (I := fun log (h : History) =>
        Ledger cfg c₀.history.master c₀.history.goals log h.master h.goals ∧ EachAnswer (TasksGuarded cfg c₀.goals) log)
      (fun q => serve_commits cfg History.steadfast q) (serve_guarded cfg) ⟨.start _ _ _, EachAnswer.nil⟩ ?_ ?_
      hserial).2
    · rintro log h q r ⟨hL, hA⟩ - hr
      exact ⟨hL.blank (blank_of_fails hr.noSuccess), hA.append (tasksGuarded_of_fails hr.noSuccess)⟩
    · rintro log h q r j o past ⟨hL, hA⟩ - - hM hpast hR
      exact ⟨hL.report hR.2, hA.append (tasksGuarded_report hL hM hpast hR.2)⟩
  refine hall.of_map fun pre a ha => ?_
  have hgoals := goalsTold_seen cfg c₀.goals Cluster.history pre
  exact ⟨hgoals ▸ ha.goal, hgoals ▸ ha.owner⟩

theorem tasks_guarded_early :
    annEarlyRun.log.map (fun a => (a.req.endpoint, statusOf a.result)) =
        [(.signup, .kOk), (.tasksList, .kNotFound), (.goalsCreate, .kCreated), (.tasksList, .kOk)] ∧
      EachAnswer (TasksGuarded (clearConfig .throws) oneReplica.goals) annEarlyRun.log :=
  ⟨by decide +kernel, tasks_guarded (clearConfig .throws) oneReplica annEarlyRun
    (Pool.Reach.foldl _ fun _ _ _ => trivial)⟩

end Leadertask
