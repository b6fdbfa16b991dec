import Leadertask.Proof.Reads

/-!
# Reads in the order of the log

The answers of the finished requests tell which accounts and tasks there are. A host that serves a read
holds what they told at some moment, and the read is answered by exactly that: a login is let in or
refused, a search lists accounts and a list shows tasks as of then. Where every host has replayed all
writes, that moment is the present.

* `reads_consistent`: on a cluster whose replicas lag, each read is one of a prefix of the log before
  it.
* `reads_current`: on a cluster that keeps up, it is one of all of them.
-/

namespace Leadertask

open Atomic

variable {D : Type} {τ : Type} {cfg : Config D}

/-! ## What the answers tell -/

/-- The accounts of before, and of the signups finished since. -/
def accountsTold (pg₀ : Postgres) (log : List (Answer HttpRequest Exn HttpResponse τ)) : List UserRow :=
  pg₀.users.rows ++ log.filterMap signedUpRow

/-- The tasks of before, with what was finished since. -/
def tasksTold (pg₀ : Postgres) (log : List (Answer HttpRequest Exn HttpResponse τ)) : List Task :=
  log.foldl tasksAfter (pg₀.tasks.rows.map TaskRow.toTask)

section

variable {σ : Type} (pg₀ : Postgres) (f : σ → τ) (log : List (Answer HttpRequest Exn HttpResponse σ))

/-- What was told does not depend on how the states are looked at. -/
theorem accountsTold_seen : accountsTold pg₀ (log.map (Answer.map f)) = accountsTold pg₀ log := by
  rw [accountsTold, List.filterMap_map]; rfl

theorem tasksTold_seen : tasksTold pg₀ (log.map (Answer.map f)) = tasksTold pg₀ log := by
  rw [tasksTold, List.foldl_map]; rfl

end

/-- The accounts that a search asks for, by increasing id. -/
def foundAmong (q : HttpRequest) (users : List UserRow) : List UserRow :=
  (users.filter (UserRow.found (filterArg q.login) (filterArg q.firstNameMask)
    (filterArg q.lastNameMask))).mergeSort fun a b => a.id ≤ b.id

/-- A read is answered by what the answers in `seen` told, a list of tasks as far as their ids `fit`. -/
structure ReadsAt (cfg : Config D) (pg₀ : Postgres) (seen : List (Answer HttpRequest Exn HttpResponse τ))
    (q : HttpRequest) (r : Except Exn HttpResponse) (fit : Prop) : Prop where
  letIn : q.endpoint = .login → IsSuccess r → ∃ row ∈ accountsTold pg₀ seen,
    LoginRequestBody.parse q.body = .ok ⟨row.login, row.password⟩ ∧
      tokenIn r = some (cfg.jwt.sign cfg.loginSecret "JWT" kIssuer (stdToString row.id))
  refused : q.endpoint = .login → statusOf r = .kUnauthorized → ∀ row ∈ accountsTold pg₀ seen,
    LoginRequestBody.parse q.body ≠ .ok ⟨row.login, row.password⟩
  found : q.endpoint = .usersSearch → ∀ headers us, r = .ok ⟨.kOk, headers, .users us⟩ →
    (foundAmong q (accountsTold pg₀ seen)).mapM (UsersRepository.readUser cfg) = .ok us
  listed : q.endpoint = .tasksList → fit → ∀ headers ts, r = .ok ⟨.kOk, headers, .tasks ts⟩ →
    ∃ n pos, stoll q.goalId = .ok (n, pos) ∧
      ts.Perm ((tasksTold pg₀ seen).filter (·.goalId.toInt64 = n))

/-! ## Answers -/

section

variable {pg₀ pg : Postgres} {seen : List (Answer HttpRequest Exn HttpResponse τ)} {q : HttpRequest}
variable {r : Except Exn HttpResponse} {fit : Prop}

/-- An answer of another handler. -/
theorem readsAt_of_ne (h₁ : q.endpoint ≠ .login) (h₂ : q.endpoint ≠ .usersSearch) (h₃ : q.endpoint ≠ .tasksList) :
    ReadsAt cfg pg₀ seen q r fit :=
  ⟨fun he => absurd he h₁, fun he => absurd he h₁, fun he => absurd he h₂, fun he => absurd he h₃⟩

theorem readsAt_of_fails (h : Fails q r) : ReadsAt cfg pg₀ seen q r fit where
  letIn := fun _ hr => absurd hr h.noSuccess
  refused := fun he hr => by simpa [he, Endpoint.jwtAuth] using h.noRefusal hr
  found := fun _ _ _ hr => absurd (hr ▸ isSuccess_ok.2 (.inl rfl)) h.noSuccess
  listed := fun _ _ _ _ hr => absurd (hr ▸ isSuccess_ok.2 (.inl rfl)) h.noSuccess

/-- An answer that a goal is missing. -/
theorem readsAt_of_missing {msg : String} (h : r = .ok (makeError .kNotFound msg)) : ReadsAt cfg pg₀ seen q r fit where
  letIn := fun _ hr => absurd (h ▸ hr) (not_isSuccess_makeError (by decide))
  refused := fun _ hr => by simp [h, statusOf, makeError] at hr
  found := fun _ _ _ hr => by simp [h, makeError] at hr
  listed := fun _ _ _ _ hr => by simp [h, makeError] at hr

/-- A login hands out a token or refuses. -/
theorem login_tokenIn (cfg : Config D) (password : String) (rows : List UserRow) :
    (∃ token, tokenIn (.ok (Login.answer cfg password rows)) = some token ∧
        statusOf (.ok (Login.answer cfg password rows)) = .kOk) ∨
      tokenIn (.ok (Login.answer cfg password rows)) = none ∧
        statusOf (.ok (Login.answer cfg password rows)) = .kUnauthorized := by
  cases rows with
  | nil => exact .inr ⟨rfl, rfl⟩
  | cons user rows =>
    rw [Login.answer]
    split
    · exact .inr ⟨rfl, rfl⟩
    · exact .inl ⟨_, rfl, rfl⟩

theorem login_readsAt {login password : String} (he : q.endpoint = .login)
    (hb : LoginRequestBody.parse q.body = .ok ⟨login, password⟩) (husers : pg.users.rows = accountsTold pg₀ seen)
    {rows : List UserRow} (hrows : pg.selectUserByLogin login = .ok rows)
    (hr : r = .ok (Login.answer cfg password rows)) : ReadsAt cfg pg₀ seen q r fit := by
  have hwhich := login_tokenIn cfg password rows
  rw [← hr] at hwhich
  refine ⟨fun _ hok => ?_, fun _ hno row hrow hsame => ?_, fun he' => by simp [he] at he',
    fun he' => by simp [he] at he'⟩
  · rcases hwhich with ⟨token, htoken, -⟩ | ⟨-, hstatus⟩
    · rw [hr, tokenIn_answer cfg hrows] at htoken
      obtain ⟨row, hrow, rfl, rfl, rfl⟩ := htoken
      exact ⟨row, husers ▸ hrow, hb, hr ▸ (tokenIn_answer cfg hrows _ _).2 ⟨row, hrow, rfl, rfl, rfl⟩⟩
    · rw [IsSuccess, hstatus] at hok
      simp [HttpStatus.code] at hok
  · obtain ⟨rfl, rfl⟩ : login = row.login ∧ password = row.password := by simpa [hb] using hsame
    -- the account would have been handed its token
    have htoken := (tokenIn_answer cfg hrows row.password _).2 ⟨row, husers ▸ hrow, rfl, rfl, rfl⟩
    rcases hwhich with ⟨_, -, hstatus⟩ | ⟨hnone, -⟩
    · rw [hstatus] at hno; simp at hno
    · rw [hr, htoken] at hnone; simp at hnone

theorem search_readsAt {rows : List UserRow} (he : q.endpoint = .usersSearch)
    (husers : pg.users.rows = accountsTold pg₀ seen)
    (hrows : rows = pg.foundUsers (filterArg q.login) (filterArg q.firstNameMask) (filterArg q.lastNameMask))
    (hr : r = Search.answer cfg rows) : ReadsAt cfg pg₀ seen q r fit := by
  refine ⟨fun he' => by simp [he] at he', fun he' => by simp [he] at he', fun _ headers us hus => ?_,
    fun he' => by simp [he] at he'⟩
  have hfound : foundAmong q (accountsTold pg₀ seen) = rows := by rw [hrows, ← husers]; rfl
  rw [hr, Search.answer] at hus
  cases hread : rows.mapM (UsersRepository.readUser cfg) with
  | error e => rw [hread] at hus; simp [Except.map] at hus
  | ok us' => rw [hread] at hus; simp_all [Except.map]

theorem tasksList_readsAt {n : Int64} {pos : ℕ} {i : Input} (he : q.endpoint = .tasksList)
    (hn : stoll q.goalId = .ok (n, pos)) (hfit : fit → pg.tasks.Fit)
    (htasks : pg.tasks.Fit → pg.tasks.rows.map TaskRow.toTask = tasksTold pg₀ seen)
    (hr : r = Tasks.List.answer cfg (pg.selectTasksByGoal i n)) : ReadsAt cfg pg₀ seen q r fit := by
  refine ⟨fun he' => by simp [he] at he', fun he' => by simp [he] at he', fun he' => by simp [he] at he',
    fun _ hf headers ts hts => ⟨n, pos, hn, ?_⟩⟩
  have hall := hfit hf
  rw [hr, Tasks.List.answer, TasksRepository.mapM_readTask] at hts
  split at hts
  case isFalse => simp [Except.map] at hts
  obtain rfl : (pg.selectTasksByGoal i n).map TaskRow.toTask = ts := by simp_all [Except.map]
  have hperm : (pg.selectTasksByGoal i n).Perm (pg.tasks.rows.filter (·.goalId = n)) := List.mergeSort_perm _ _
  rw [← htasks hall, List.filter_map]
  refine (hperm.map TaskRow.toTask).trans (List.Perm.of_eq (congrArg _ (List.filter_congr fun row hrow => ?_)))
  -- a goal's number that fits reads back as it is
  show decide (row.goalId = n) = decide (row.goalId.toInt32.toInt64 = n)
  rw [(hall row hrow).2]

end

/-! ## Histories -/

section

variable {pg₀ : Postgres} {goals₀ goals : GoalsCollection} {h : History} {j : HistoryInput} {q : HttpRequest}
variable {ctx : RequestContext} {o : Op} {r : Except Exn HttpResponse}

/-- The ids that a replica knows are those of the master. -/
theorem History.upTo_fit {n : ℕ} (hfit : h.master.tasks.Fit) : (h.upTo n).tasks.Fit := by
  intro row hrow
  obtain ⟨row', hrow', hsame⟩ := History.upTo_task hrow
  rw [← hsame]
  exact hfit row' hrow'

/-- A request's last operation is answered by what its host holds. -/
theorem readsAt_report {seen : List (Answer HttpRequest Exn HttpResponse τ)}
    (hL : Ledger cfg pg₀ goals₀ seen (h.upTo j.position) goals)
    (hR : Reports cfg q ctx o (History.exec j o h).1 r) :
    ReadsAt cfg pg₀ seen q r (History.exec j o h).2.master.tasks.Fit := by
  generalize hx : (History.exec j o h).1 = x at hR
  cases hR with
  | @login login password rows _ he hb hr =>
    exact login_readsAt he hb hL.users (History.exec_read rfl hx) hr
  | @usersSearch rows _ he hr =>
    exact search_readsAt he hL.users (Postgres.searchUsers_ok (History.exec_read rfl hx)) hr
  | @tasksList n pos rows _ he hn hr =>
    obtain rfl : rows = (h.upTo j.position).selectTasksByGoal j.toInput n :=
      (Except.ok.inj (History.exec_read rfl hx)).symm
    rw [History.exec_idle (.inl rfl)]
    exact tasksList_readsAt he hn History.upTo_fit hL.tasks hr
  | goalMissing he _ _ _ hr => exact readsAt_of_missing hr
  | idle _ hr => exact readsAt_of_fails hr
  | conflict he => exact readsAt_of_ne (by simp [he]) (by simp [he]) (by simp [he])
  | signup he => exact readsAt_of_ne (by simp [he]) (by simp [he]) (by simp [he])
  | goalsCreate he => exact readsAt_of_ne (by simp [he]) (by simp [he]) (by simp [he])
  | goalsList he => exact readsAt_of_ne (by simp [he]) (by simp [he]) (by simp [he])
  | tasksCreate he => exact readsAt_of_ne (by simp [he]) (by simp [he]) (by simp [he])
  | tasksUpdateStatus he => exact readsAt_of_ne (by simp [he]) (by simp [he]) (by simp [he])

/-- Each host holds what some of the first answers told. -/
def HostsTold (cfg : Config D) (pg₀ : Postgres) (goals₀ : GoalsCollection)
    (log : List (Answer HttpRequest Exn HttpResponse τ)) (h : History) : Prop :=
  ∀ n, ∃ seen goals, seen <+: log ∧ Ledger cfg pg₀ goals₀ seen (h.upTo n) goals

theorem HostsTold.append {log : List (Answer HttpRequest Exn HttpResponse τ)} (hT : HostsTold cfg pg₀ goals₀ log h)
    (a : Answer HttpRequest Exn HttpResponse τ) : HostsTold cfg pg₀ goals₀ (log ++ [a]) h := by
  intro n
  obtain ⟨seen, goals, hpre, hL⟩ := hT n
  exact ⟨seen, goals, hpre.trans (List.prefix_append _ _), hL⟩

/-- An operation adds at most its own record to what a host can hold. -/
theorem HostsTold.exec {log : List (Answer HttpRequest Exn HttpResponse τ)} (hT : HostsTold cfg pg₀ goals₀ log h)
    (hL : Ledger cfg pg₀ goals₀ log (History.exec j o h).2.master goals) :
    HostsTold cfg pg₀ goals₀ log (History.exec j o h).2 := by
  intro n
  rcases History.upTo_exec j o h n with hsame | hnew
  · rw [hsame]; exact hT n
  · rw [hnew]; exact ⟨log, goals, List.prefix_refl _, hL⟩

end

/-! ## Runs -/

theorem ReadsAt.of_seen {σ : Type} {f : σ → τ} {log : List (Answer HttpRequest Exn HttpResponse σ)} {pg₀ : Postgres}
    {q : HttpRequest} {r : Except Exn HttpResponse} {fit : Prop}
    (h : ReadsAt cfg pg₀ (log.map (Answer.map f)) q r fit) : ReadsAt cfg pg₀ log q r fit := by
  have haccounts := accountsTold_seen pg₀ f log
  have htasks := tasksTold_seen pg₀ f log
  exact ⟨haccounts ▸ h.letIn, haccounts ▸ h.refused, haccounts ▸ h.found, htasks ▸ h.listed⟩

/-- The answer is that of a moment in the past, when the first so many requests were finished. -/
def ReadsPast (cfg : Config D) (pg₀ : Postgres) (master : τ → Postgres)
    (before : List (Answer HttpRequest Exn HttpResponse τ)) (a : Answer HttpRequest Exn HttpResponse τ) : Prop :=
  ∃ n, ReadsAt cfg pg₀ (before.take n) a.req a.result (master a.world).tasks.Fit

/-- **Reads are consistent** on a cluster whose replicas lag, in every run: each shows what the first
so many of the requests finished before it told. -/
theorem reads_consistent (cfg : Config D) (c₀ : Cluster) (h₀ : c₀.pg.log = []) (c : ClusterRun)
    (h : Pool.Reach Cluster.exec (serve cfg) (fun _ _ => True) (Pool.start c₀) c) :
    EachAnswer (ReadsPast cfg c₀.master Cluster.master) c.log := by
  have hstart : HostsTold cfg c₀.history.master c₀.history.goals
      ([] : List (Answer HttpRequest Exn HttpResponse History)) c₀.history := by
    intro n
    have hlog : c₀.history.log = [] := h₀
    have hsame : c₀.history.upTo n = c₀.history.master := by rw [History.upTo, History.master, hlog, List.take_nil]
    exact ⟨[], c₀.history.goals, List.prefix_refl _, hsame ▸ .start _ _ _⟩
  have hall : EachAnswer (ReadsPast cfg c₀.master History.master) (Pool.seenLog Cluster.history c.toShared) := by
    refine (cluster_rule cfg (fun _ _ => True) (fun log (h : History) =>
        Ledger cfg c₀.history.master c₀.history.goals log h.master h.goals ∧
          HostsTold cfg c₀.history.master c₀.history.goals log h ∧
          EachAnswer (ReadsPast cfg c₀.master History.master) log)
      (fun _ _ _ => trivial) (fun _ _ _ _ => trivial) ⟨.start _ _ _, hstart, EachAnswer.nil⟩ ?_ ?_ h).2.2
    · rintro log h q r ⟨hL, hT, hA⟩ - hr
      exact ⟨hL.blank (blank_of_fails hr.noSuccess), hT.append _, hA.append ⟨0, readsAt_of_fails hr⟩⟩
    · rintro log h q r j o ⟨hL, hT, hA⟩ - hR
      have hL' := hL.report hR.2
      obtain ⟨seen, goals, hpre, hseen⟩ := hT j.position
      refine ⟨hL', (hT.append _).exec hL', hA.append ⟨seen.length, ?_⟩⟩
      rw [← List.prefix_iff_eq_take.1 hpre]
      exact readsAt_report hseen hR.2
  refine hall.of_map fun pre a hpast => ?_
  obtain ⟨n, ha⟩ := hpast
  rw [← List.map_take] at ha
  exact ⟨n, ha.of_seen⟩

/-- Signup and two logins, the first of them on a replica that lags. -/
def annLateRun : ClusterRun :=
  [.arrive annSignup, .turn 0 {}, .arrive annLogin, .turn 0 {}, .arrive annLogin, .turn 0 caughtUp].foldl
    (Pool.step Cluster.exec (serve (clearConfig .throws))) (Pool.start oneReplica)

theorem reads_consistent_late :
    annLateRun.log.map (fun a => statusOf a.result) = [.kOk, .kUnauthorized, .kOk] ∧
      EachAnswer (ReadsPast (clearConfig .throws) oneReplica.master Cluster.master) annLateRun.log :=
  ⟨by decide +kernel, reads_consistent (clearConfig .throws) oneReplica rfl annLateRun
    (Pool.Reach.foldl _ fun _ _ _ => trivial)⟩

/-! ## Clusters without lag -/

namespace History

/-- One operation, of which a read sees every write. -/
def execCurrent (j : HistoryInput) (o : Op) (h : History) : Except Exn o.Ret × History :=
  History.exec { j with position := h.log.length } o h

theorem steadfast_current : Steadfast execCurrent (fun _ => True) Grown where
  verdict := fun j e u h _ => ⟨rfl, fun _ _ => ⟨j, trivial, rfl⟩⟩
  oid := fun j h _ => ⟨rfl, fun _ _ => ⟨j, trivial, rfl⟩⟩
  goal := fun j id doc h _ hfound => by
    simp only [execCurrent, History.exec] at hfound ⊢
    split at hfound
    · simp at hfound
    rename_i hf
    rw [if_neg hf]
    refine ⟨rfl, fun h' hgrown => ⟨j, trivial, ?_⟩⟩
    simp only [execCurrent, History.exec, if_neg hf, GoalsCollection.findOne_again hfound hgrown]

end History

/-- The rule for runs in which the hosts that serve the reads have replayed every write. -/
theorem current_rule (cfg : Config D) {c₀ : Cluster} {c : ClusterRun}
    (I : List (Answer HttpRequest Exn HttpResponse History) → History → Prop) (h₀ : I [] c₀.history)
    (hfails : ∀ log h q r, I log h → Fails q r → I (log ++ [⟨q, r, h⟩]) h)
    (hreports : ∀ log h q r j o, I log h → Answered cfg q o (History.execCurrent j o h).1 r →
      I (log ++ [⟨q, r, (History.execCurrent j o h).2⟩]) (History.execCurrent j o h).2)
    (h : Pool.Reach Cluster.exec (serve cfg) SyncedReads (Pool.start c₀) c) :
    I (Pool.seenLog Cluster.history c.toShared) c.world.history := by
  have hserial : Serial History.execCurrent (fun _ => True) (serve cfg) (fun _ _ => True) c₀.history
      (Pool.seenLog Cluster.history c.toShared) c.world.history := by
    refine Pool.Reach.serial (M := History.Grown) (fun _ => List.Subset.refl _)
      (fun _ _ _ => List.Subset.trans) (fun j o h _ => History.exec_grows _ o h) ?_
      (fun _ _ _ => trivial) (fun _ _ _ _ => trivial)
      (fun q => (serve_commits cfg History.steadfast_current q).commitsLast) h
    intro s n i hsync o
    obtain ⟨j, hpos, hj⟩ := Cluster.exec_history i o s.world
    have hall : j.position = s.world.history.log.length := hpos.elim (fun hp => hp.trans hsync) id
    have hsame : History.execCurrent j o s.world.history = History.exec j o s.world.history :=
      congrArg (fun n => History.exec { j with position := n } o s.world.history) hall.symm
    exact ⟨j, trivial, hsame.trans hj⟩
  exact Serial.rule (fun q => serve_commits cfg History.steadfast_current q) h₀
    (fun log h q r hI _ hr => hfails log h q r hI hr)
    (fun log h q r j o hI _ _ hR => hreports log h q r j o hI hR) hserial

/-- The answer is that of the present, with all that was finished before it. -/
def ReadsPresent (cfg : Config D) (pg₀ : Postgres) (master : τ → Postgres)
    (before : List (Answer HttpRequest Exn HttpResponse τ)) (a : Answer HttpRequest Exn HttpResponse τ) : Prop :=
  ReadsAt cfg pg₀ before a.req a.result (master a.world).tasks.Fit

/-- **Reads are current** where the hosts that serve them have replayed every write: each shows what
all requests finished before it told, however many others are in flight. -/
theorem reads_current (cfg : Config D) (c₀ : Cluster) (c : ClusterRun)
    (h : Pool.Reach Cluster.exec (serve cfg) SyncedReads (Pool.start c₀) c) :
    EachAnswer (ReadsPresent cfg c₀.master Cluster.master) c.log := by
  have hall : EachAnswer (ReadsPresent cfg c₀.master History.master) (Pool.seenLog Cluster.history c.toShared) := by
    refine (current_rule cfg (fun log (h : History) =>
        Ledger cfg c₀.history.master c₀.history.goals log h.master h.goals ∧
          EachAnswer (ReadsPresent cfg c₀.master History.master) log) ⟨.start _ _ _, EachAnswer.nil⟩ ?_ ?_ h).2
    · rintro log h q r ⟨hL, hA⟩ hr
      exact ⟨hL.blank (blank_of_fails hr.noSuccess), hA.append (readsAt_of_fails hr)⟩
    · rintro log h q r j o ⟨hL, hA⟩ hR
      have hseen : Ledger cfg c₀.history.master c₀.history.goals log (h.upTo h.log.length) h.goals :=
        History.upTo_all.symm ▸ hL
      exact ⟨hL.report hR.2, hA.append (readsAt_report hseen hR.2)⟩
  exact hall.of_map fun pre a ha => ha.of_seen

theorem reads_current_ann :
    EachAnswer (ReadsPresent (clearConfig .throws) oneReplica.master Cluster.master) (annRun caughtUp).log :=
  reads_current (clearConfig .throws) oneReplica (annRun caughtUp)
    ((((Pool.Reach.start.step (.arrive annSignup) trivial).step
      (.turn 0 ({} : ClusterInput)) rfl).step (.arrive annLogin) trivial).step (.turn 0 caughtUp) rfl)

end Leadertask
