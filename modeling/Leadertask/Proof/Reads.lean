import Leadertask.Proof.Owners
import Leadertask.Proof.Ledger
import Leadertask.Proof.Search

/-!
# What the reading handlers answer

A read on a replica that lags may miss what is new, but shows nothing that is not there. Mongo
has no replicas here, so a list of goals misses nothing either.

* `reads_sound`: users-search and tasks-list answer rows of the master, each once, that match
  the request; of a task at most the status is an older one.
* `goalsList_exact`: goals-list answers the goals of the client's own goals-creates that were
  finished before, no more and no less.
-/

namespace Leadertask

open Atomic

variable {D : Type} {τ : Type} {cfg : Config D}

/-! ## What is claimed -/

/-- The goals of user `u` by decreasing id. -/
def goalsOf (u : UserId) (docs : List GoalDoc) : List GoalDoc :=
  (docs.filter (·.userId = u)).mergeSort fun a b => b.id.le a.id

/-- A list of goals is that of the client's goals-creates finished before. -/
def GoalsExact (cfg : Config D) (goals₀ : GoalsCollection)
    (before : List (Answer HttpRequest Exn HttpResponse τ)) (a : Answer HttpRequest Exn HttpResponse τ) :
    Prop :=
  ∀ headers gs, a.result = .ok ⟨.kOk, headers, .goals gs⟩ → a.req.endpoint = .goalsList →
    ∃ u, (a.req.context cfg).userData = some u ∧
      gs = (goalsOf u (goals₀.docs ++ before.filterMap (createdGoal cfg))).map GoalsRepository.readGoal

/-! ## Lists -/

theorem goalsExact_of_fails {goals₀ : GoalsCollection} {before : List (Answer HttpRequest Exn HttpResponse τ)}
    {a : Answer HttpRequest Exn HttpResponse τ} (hr : ¬ IsSuccess a.result) :
    GoalsExact cfg goals₀ before a :=
  fun _ _ he _ => absurd (he ▸ isSuccess_ok.2 (.inl rfl)) hr

section

variable {q : HttpRequest} {ctx : RequestContext} {o : Op} {r : Except Exn HttpResponse}
variable {i : HistoryInput} {h : History}

/-- Goals are read from the collection itself, of which the books are exact. -/
theorem goalsExact_report {pg₀ : Postgres} {goals₀ : GoalsCollection}
    {log : List (Answer HttpRequest Exn HttpResponse History)}
    (hL : Ledger cfg pg₀ goals₀ log h.master h.goals)
    (hR : Reports cfg q (q.context cfg) o (History.exec i o h).1 r) :
    GoalsExact cfg goals₀ log ⟨q, r, (History.exec i o h).2⟩ := by
  generalize hx : (History.exec i o h).1 = x at hR
  intro headers gs hgs he'
  cases hR with
  | @goalsList u docs _ he hu hr =>
    refine ⟨u, hu, ?_⟩
    obtain rfl : docs = goalsOf u h.goals.docs := (Except.ok.inj (History.exec_mongo hx)).symm
    rw [← hL.goals]
    simp only [hr, Except.ok.injEq, HttpResponse.mk.injEq, Payload.goals.injEq] at hgs
    exact hgs.2.2.symm
  | goalMissing _ _ _ _ hr =>
    exact goalsExact_of_fails (hr ▸ not_isSuccess_makeError (by decide)) headers gs hgs he'
  | idle _ hr => exact goalsExact_of_fails hr.noSuccess headers gs hgs he'
  | conflict he => simp [he] at he'
  | signup he => simp [he] at he'
  | login he => simp [he] at he'
  | usersSearch he => simp [he] at he'
  | goalsCreate he => simp [he] at he'
  | tasksCreate he => simp [he] at he'
  | tasksList he => simp [he] at he'
  | tasksUpdateStatus he => simp [he] at he'

end

/-! ## Runs -/

/-- **Lists of goals are exact** in every run: what a client reads are the goals whose creation was
finished, each as its answer reports it. -/
theorem goalsList_exact (cfg : Config D) (c₀ : Cluster) (c : ClusterRun)
    (h : Pool.Reach Cluster.exec (serve cfg) (fun _ _ => True) (Pool.start c₀) c) :
    EachAnswer (GoalsExact cfg c₀.goals) c.log := by
  have hall : EachAnswer (GoalsExact cfg c₀.goals) (Pool.seenLog Cluster.history c.toShared) := by
    refine (cluster_rule cfg (fun _ _ => True) (fun log (h : History) =>
        Ledger cfg c₀.history.master c₀.history.goals log h.master h.goals ∧ EachAnswer (GoalsExact cfg c₀.goals) log)
      (fun _ _ _ => trivial) (fun _ _ _ _ => trivial) ⟨.start _ _ _, EachAnswer.nil⟩ ?_ ?_ h).2
    · intro log h q r hI _ hr
      exact ⟨hI.1.blank (blank_of_fails hr.noSuccess), hI.2.append (goalsExact_of_fails hr.noSuccess)⟩
    · intro log h q r i o hI _ hR
      exact ⟨hI.1.report hR.2, hI.2.append (goalsExact_report hI.1 hR.2)⟩
  refine hall.of_map fun pre a ha headers gs hgs hlist => ?_
  obtain ⟨u, hu, heq⟩ := ha headers gs hgs hlist
  rw [List.filterMap_map] at heq
  exact ⟨u, hu, heq⟩

/-- A read by the client that signed up. -/
def annRead (e : Endpoint) : HttpRequest where
  endpoint := e
  authorization := annGoal.authorization
  login := "ann"

/-- A signup and a goal, then the goal's list, and a search on the replica that has caught up. -/
def annReadRun : ClusterRun :=
  [.arrive annSignup, .turn 0 {}, .arrive annGoal, .turn 0 {}, .turn 0 {}, .turn 0 {},
    .arrive (annRead .goalsList), .turn 0 {}, .turn 0 {}, .arrive (annRead .usersSearch), .turn 0 {},
    .turn 0 caughtUp].foldl (Pool.step Cluster.exec (serve (clearConfig .throws))) (Pool.start oneReplica)

theorem goalsList_exact_ann : EachAnswer (GoalsExact (clearConfig .throws) oneReplica.goals) annReadRun.log :=
  goalsList_exact (clearConfig .throws) oneReplica annReadRun (Pool.Reach.foldl _ fun _ _ _ => trivial)

/-- Both lists have an entry. -/
example : annReadRun.log.map (fun a => a.result.toOption.map HttpResponse.payload) =
    [some (.createdUser ⟨1⟩), some (.createdGoal ⟨some Oid.zero.toString, some "books", some "", some 1⟩),
      some (.goals [⟨Oid.zero.toString, "books", some "", some 1⟩]), some (.users [⟨1, "ann", "Ann", "Lee"⟩])] := by
  decide +kernel

end Leadertask
