import Leadertask.Proof.Replication
import Leadertask.Proof.Serializable

/-!
# Requests that seem to be served one at a time, on a cluster

On a cluster a read shows what some replica holds, the first so many of the master's writes. A
`History` keeps the writes in order, so that a read can be told how many of them it sees.

* `History.exec_write`, `History.exec_idle`: what an operation leaves behind.
* `History.upTo_user`, `History.upTo_task`: what a replica knows, the master knows.
* `cluster_runs_serial`: every run on a cluster is serial, with reads that lag.
* `synced_runs_serial`: where each read is served by a host that has replayed everything, the
  cluster answers as a single host does.
-/

namespace Leadertask

open Atomic

variable {D : Type} {cfg : Config D} {i : ClusterInput} {c : Cluster}

/-- Mongo, and the writes of Postgres in order. -/
structure History where
  init : Postgres
  log : List LogRecord
  goals : GoalsCollection

/-- What the environment adds to an operation, with the number of writes that it sees. -/
structure HistoryInput extends StoreInput where
  position : ℕ := 0

namespace History

variable (h : History)

/-- Postgres after the first `n` writes. -/
def upTo (n : ℕ) : Postgres := Replicated.replay LogRecord.apply h.init (h.log.take n)

/-- Postgres after all of them. -/
def master : Postgres := Replicated.replay LogRecord.apply h.init h.log

def write (r : LogRecord) : History := { h with log := h.log ++ [r] }

/-- One operation: a write sees all writes before it, a read those that its input says. -/
def exec (i : HistoryInput) (o : Op) (h : History) : Except Exn o.Ret × History :=
  match o with
  | .checkRateLimit _ _ => (.ok i.verdict, h)
  | .newOid => (.ok i.oid, h)
  | .execute host stmt =>
    if i.fault (.execute host stmt) then (.error .storeFailure, h)
    else if stmt.writes then
      match (h.master.exec i.toInput stmt).1 with
      | .ok a => (.ok a, h.write ⟨i.toInput, stmt⟩)
      | .error e => (.error e, h)
    else (((h.upTo i.position).exec i.toInput stmt).1, h)
  | .mongo cmd =>
    if i.fault (.mongo cmd) then (.error .storeFailure, h)
    else ((h.goals.exec cmd).1, { h with goals := (h.goals.exec cmd).2 })

def Grown (h h' : History) : Prop := h.goals.docs ⊆ h'.goals.docs

variable {h}

@[simp] theorem write_master (r : LogRecord) : (h.write r).master = r.apply h.master :=
  Replicated.replay_append _ _ _ _

theorem upTo_all : h.upTo h.log.length = h.master := by rw [upTo, List.take_length, master]

theorem exec_grows (i : HistoryInput) (o : Op) (h : History) : h.Grown (History.exec i o h).2 := by
  cases o with
  | checkRateLimit e u => exact List.Subset.refl _
  | newOid => exact List.Subset.refl _
  | execute host stmt =>
    simp only [History.exec]
    split
    · exact List.Subset.refl _
    · split
      · split <;> exact List.Subset.refl _
      · exact List.Subset.refl _
  | mongo cmd =>
    simp only [History.exec]
    split
    · exact List.Subset.refl _
    · exact GoalsCollection.exec_grows _ _

theorem steadfast : Steadfast History.exec (fun _ => True) Grown where
  verdict := fun i e u h _ => ⟨rfl, fun _ _ => ⟨i, trivial, rfl⟩⟩
  oid := fun i h _ => ⟨rfl, fun _ _ => ⟨i, trivial, rfl⟩⟩
  goal := fun i id doc h _ hfound => by
    simp only [History.exec] at hfound ⊢
    split at hfound
    · simp at hfound
    rename_i hf
    rw [if_neg hf]
    refine ⟨rfl, fun h' hgrown => ⟨i, trivial, ?_⟩⟩
    simp only [History.exec, if_neg hf, GoalsCollection.findOne_again hfound hgrown]

end History

/-! ## What an operation leaves behind -/

namespace History

variable {i : HistoryInput} {h : History}

/-- A write that goes through. -/
theorem exec_write {host : ClusterHostType} {stmt : Sql} {a : stmt.Ret} (hw : stmt.writes = true)
    (hr : (History.exec i (.execute host stmt) h).1 = .ok a) :
    h.master.exec i.toInput stmt = (.ok a, (History.exec i (.execute host stmt) h).2.master) ∧
      (History.exec i (.execute host stmt) h).2.goals = h.goals := by
  simp only [History.exec, hw, if_true] at hr ⊢
  split at hr
  · simp at hr
  rename_i hf
  rw [if_neg hf]
  cases hx : (h.master.exec i.toInput stmt).1 with
  | error e => rw [hx] at hr; simp at hr
  | ok b =>
    rw [hx] at hr
    obtain rfl : b = a := Except.ok.inj hr
    have hmaster : (h.write ⟨i.toInput, stmt⟩).master = (h.master.exec i.toInput stmt).2 := write_master _
    exact ⟨Prod.ext hx hmaster.symm, rfl⟩

/-- A read is answered by what its host holds. -/
theorem exec_read {host : ClusterHostType} {stmt : Sql} {a : stmt.Ret} (hw : stmt.writes = false)
    (hr : (History.exec i (.execute host stmt) h).1 = .ok a) :
    ((h.upTo i.position).exec i.toInput stmt).1 = .ok a := by
  simp only [History.exec, hw, Bool.false_eq_true, if_false] at hr
  split at hr
  · simp at hr
  · exact hr

/-- A command that is answered, is answered by Mongo. -/
theorem exec_mongo {cmd : MongoCommand} {a : cmd.Ret} (hr : (History.exec i (.mongo cmd) h).1 = .ok a) :
    (h.goals.exec cmd).1 = .ok a := by
  simp only [History.exec] at hr
  split at hr
  · simp at hr
  · exact hr

/-- A goal's insert that goes through. -/
theorem exec_insertOne {doc : GoalDoc} {u : Unit}
    (hr : (History.exec i (.mongo (.insertOne doc)) h).1 = .ok u) :
    h.goals.insertOne doc = .ok ((), (History.exec i (.mongo (.insertOne doc)) h).2.goals) ∧
      (History.exec i (.mongo (.insertOne doc)) h).2.master = h.master := by
  simp only [History.exec] at hr ⊢
  split at hr
  · simp at hr
  rename_i hf
  rw [if_neg hf]
  exact ⟨atomically_ok (Prod.ext hr rfl), rfl⟩

/-- An operation that reads, or that fails. -/
theorem exec_idle {o : Op} (hidle : Idle o (History.exec i o h).1) : (History.exec i o h).2 = h := by
  cases o with
  | checkRateLimit e u => rfl
  | newOid => rfl
  | execute host stmt =>
    simp only [History.exec] at hidle ⊢
    split at hidle
    · rename_i hf; rw [if_pos hf]
    rename_i hf
    rw [if_neg hf]
    split at hidle
    · rename_i hw
      rw [if_pos hw]
      rcases hidle with hreads | ⟨e, he⟩
      · cases stmt <;> simp_all [Op.reads, Sql.writes]
      · split
        · rename_i ha; rw [ha] at he; simp at he
        · rfl
    · rename_i hw; rw [if_neg hw]
  | mongo cmd =>
    simp only [History.exec] at hidle ⊢
    split at hidle
    · rename_i hf; rw [if_pos hf]
    rename_i hf
    rw [if_neg hf]
    have hsame : (h.goals.exec cmd).2 = h.goals := by
      cases cmd with
      | insertOne doc =>
        rcases hidle with hreads | ⟨e, he⟩
        · simp [Op.reads] at hreads
        · exact atomically_error he
      | findOne id => rfl
      | find u => rfl
    rw [hsame]

end History

/-! ## What replicas know -/

theorem LogRecord.apply_user (rec : LogRecord) {pg : Postgres} {row : UserRow} (h : row ∈ pg.users.rows) :
    row ∈ (rec.apply pg).users.rows := Postgres.exec_user rec.input rec.stmt h

/-- The task is there, perhaps with another status. -/
def TaskRow.Known (r : TaskRow) (pg : Postgres) : Prop := ∃ r' ∈ pg.tasks.rows, r'.withStatus r.status = r

theorem TaskRow.Known.apply {r : TaskRow} {pg : Postgres} (h : r.Known pg) (rec : LogRecord) :
    r.Known (rec.apply pg) := by
  obtain ⟨r', hr', hsame⟩ := h
  rcases Postgres.exec_task rec.input rec.stmt hr' with hr'' | ⟨status, -, hr''⟩
  · exact ⟨r', hr'', hsame⟩
  · exact ⟨r'.withStatus status, hr'', hsame⟩

namespace History

variable {h : History} {row : UserRow}

/-- What every record keeps, the master has from any replica. -/
theorem upTo_rec {P : Postgres → Prop} (hP : ∀ rec pg, P pg → P (LogRecord.apply rec pg)) {n : ℕ}
    (hn : P (h.upTo n)) : P h.master := by
  have hsplit : h.master = Replicated.replay LogRecord.apply (h.upTo n) (h.log.drop n) := by
    rw [upTo, ← Replicated.replay_append, List.take_append_drop, master]
  rw [hsplit]
  exact Replicated.replay_rec (P := fun _ pg => P pg) LogRecord.apply hn (fun _ rec pg => hP rec pg) _

/-- What a replica knows of the accounts, the master knows. -/
theorem upTo_user {n : ℕ} (hrow : row ∈ (h.upTo n).users.rows) : row ∈ h.master.users.rows :=
  upTo_rec (P := fun pg => row ∈ pg.users.rows) (fun rec _ h => rec.apply_user h) hrow

/-- Nor does a replica know of a task that the master has not, at most of an older status. -/
theorem upTo_task {n : ℕ} {r : TaskRow} (hr : r ∈ (h.upTo n).tasks.rows) : r.Known h.master :=
  upTo_rec (P := r.Known) (fun rec _ h => h.apply rec) ⟨r, hr, rfl⟩

theorem exec_user (i : HistoryInput) (o : Op) (hrow : row ∈ h.master.users.rows) :
    row ∈ (History.exec i o h).2.master.users.rows := by
  cases o with
  | checkRateLimit e u => exact hrow
  | newOid => exact hrow
  | execute host stmt =>
    simp only [History.exec]
    split
    · exact hrow
    · split
      · split
        · rw [write_master]
          exact LogRecord.apply_user _ hrow
        · exact hrow
      · exact hrow
  | mongo cmd =>
    simp only [History.exec]
    split <;> exact hrow

/-- An operation adds at most its own record to the log. -/
theorem upTo_exec (j : HistoryInput) (o : Op) (h : History) (n : ℕ) :
    (History.exec j o h).2.upTo n = h.upTo n ∨
      (History.exec j o h).2.upTo n = (History.exec j o h).2.master := by
  cases o with
  | checkRateLimit e u => exact .inl rfl
  | newOid => exact .inl rfl
  | mongo cmd =>
    simp only [History.exec]
    split <;> exact .inl rfl
  | execute host stmt =>
    simp only [History.exec]
    split
    · exact .inl rfl
    split
    case isFalse => exact .inl rfl
    split
    case h_2 => exact .inl rfl
    by_cases hn : n ≤ h.log.length
    · exact .inl (by rw [upTo, write, List.take_append_of_le_length hn, upTo])
    · have hall : (h.log ++ [(⟨j.toInput, stmt⟩ : LogRecord)]).length ≤ n := by
        rw [List.length_append, List.length_singleton]; omega
      exact .inr (by rw [upTo, write, List.take_of_length_le hall, History.master])

end History

/-! ## The cluster and its history -/

namespace Cluster

/-- The cluster's writes, whoever has replayed them. -/
def history (c : Cluster) : History := ⟨c.pg.init, c.pg.log, c.goals⟩

/-- What the master and Mongo hold. -/
def stores (c : Cluster) : Stores := (c.master, c.goals)

@[simp] theorem history_master : c.history.master = c.master := rfl

@[simp] theorem catchUp_history : (c.catchUp i).history = c.history := by
  obtain ⟨h1, h2, -⟩ := Replicated.foldl_advance c.pg i.replayed
  exact congrArg₂ (History.mk · · c.goals) h1 h2

@[simp] theorem catchUp_stores : (c.catchUp i).stores = c.stores :=
  congrArg (Prod.mk · c.goals) catchUp_master

/-- What the host of a read holds, in terms of the history. -/
theorem seen_history : c.seen i = c.history.upTo (c.position i) := by
  rw [← catchUp_history (i := i)]; rfl

theorem executeOnMaster_history (j : HistoryInput) (host : ClusterHostType) (stmt : Sql) (c : Cluster)
    (hf : j.fault (.execute host stmt) = false) (hpos : j.position = c.pg.log.length) :
    History.exec j (.execute host stmt) c.history =
      ((c.executeOnMaster j.toInput stmt).1, (c.executeOnMaster j.toInput stmt).2.history) := by
  have hall : c.history.upTo j.position = c.master := hpos ▸ History.upTo_all
  simp only [History.exec, hf, Bool.false_eq_true, if_false, hall, history_master, executeOnMaster]
  cases hr : (c.master.exec j.toInput stmt).1 with
  | error e => split <;> rfl
  | ok a => split <;> rfl

/-- **Every operation on the cluster is one on its history**, of which it sees as much as the host
of a read has replayed, or all of it. -/
theorem exec_history (i : ClusterInput) (o : Op) (c : Cluster) :
    ∃ j, (j.position = c.position i ∨ j.position = c.pg.log.length) ∧
      History.exec j o c.history = ((Cluster.exec i o c).1, (Cluster.exec i o c).2.history) := by
  cases o with
  | checkRateLimit e u =>
    refine ⟨{ i with
      verdict := (checkRateLimit (c.rateLimits e) u i.now i.created).1
      position := c.position i }, .inl rfl, ?_⟩
    exact congrArg (Prod.mk _) catchUp_history.symm
  | newOid => exact ⟨{ i with position := c.position i }, .inl rfl, congrArg (Prod.mk _) catchUp_history.symm⟩
  | mongo cmd =>
    have hlog : (c.catchUp i).history = c.history := catchUp_history
    refine ⟨{ i with position := c.position i }, .inl rfl, ?_⟩
    simp only [History.exec, Cluster.exec, World.exec]
    split
    · exact congrArg (Prod.mk _) hlog.symm
    · exact congrArg (Prod.mk _) (congrArg (fun h : History => { h with goals := (c.goals.exec cmd).2 }) hlog.symm)
  | execute host stmt =>
    by_cases hf : i.fault (.execute host stmt) = true
    · refine ⟨{ i with position := c.position i }, .inl rfl, ?_⟩
      simp only [History.exec, Cluster.exec, hf, if_true, catchUp_history]
    have hf' : i.fault (.execute host stmt) = false := by simpa using hf
    have hall : (c.catchUp i).pg.log.length = c.pg.log.length :=
      congrArg List.length (Replicated.foldl_advance c.pg i.replayed).2.1
    have honMaster := executeOnMaster_history { i with position := (c.catchUp i).pg.log.length }
      host stmt (c.catchUp i) hf' rfl
    rw [catchUp_history] at honMaster
    simp only [Cluster.exec, hf', Bool.false_eq_true, if_false]
    cases host with
    | kMaster => exact ⟨_, .inr hall, honMaster⟩
    | kSlave =>
      dsimp only
      split
      · exact ⟨_, .inr hall, honMaster⟩
      split
      · -- a replica refuses the write, as a failing store does
        refine ⟨{ i with fault := fun _ => true, position := c.position i }, .inl rfl, ?_⟩
        simp only [History.exec, if_true, catchUp_history]
      · rename_i hw
        refine ⟨{ i with position := c.position i }, .inl rfl, ?_⟩
        simp only [History.exec, hf', Bool.false_eq_true, if_false, hw, catchUp_history, ← seen_history]

/-- Where a host that has replayed everything serves the read, it is one on a single host. -/
theorem exec_synced (i : ClusterInput) (o : Op) (c : Cluster) (hsync : c.position i = c.pg.log.length) :
    ∃ j, Stores.exec j o c.stores = ((Cluster.exec i o c).1, (Cluster.exec i o c).2.stores) := by
  have hseen : c.seen i = c.master := by rw [seen_history, hsync]; exact History.upTo_all
  cases o with
  | checkRateLimit e u =>
    refine ⟨{ i with verdict := (checkRateLimit (c.rateLimits e) u i.now i.created).1 }, ?_⟩
    exact congrArg (Prod.mk _) catchUp_stores.symm
  | newOid => exact ⟨{ i with }, congrArg (Prod.mk _) catchUp_stores.symm⟩
  | mongo cmd =>
    refine ⟨{ i with }, ?_⟩
    simp only [Stores.exec, Cluster.exec, World.exec]
    split
    · exact congrArg (Prod.mk _) catchUp_stores.symm
    · exact congrArg (Prod.mk _) (congrArg (Prod.mk · (c.goals.exec cmd).2) catchUp_master.symm)
  | execute host stmt =>
    by_cases hf : i.fault (.execute host stmt) = true
    · refine ⟨{ i with }, ?_⟩
      simp only [Stores.exec, Cluster.exec, hf, if_true, catchUp_stores]
    have hf' : i.fault (.execute host stmt) = false := by simpa using hf
    have honMaster : Stores.exec { i with } (.execute host stmt) c.stores =
        (((c.catchUp i).executeOnMaster i.toInput stmt).1,
          ((c.catchUp i).executeOnMaster i.toInput stmt).2.stores) := by
      obtain ⟨h1, h2⟩ := executeOnMaster_eq i.toInput stmt (c.catchUp i)
      rw [catchUp_master] at h1 h2
      have h2 := congrArg World.stores h2
      simp only [Stores.exec, hf', Bool.false_eq_true, if_false]
      exact Prod.ext h1.symm h2.symm
    simp only [Cluster.exec, hf', Bool.false_eq_true, if_false]
    cases host with
    | kMaster => exact ⟨_, honMaster⟩
    | kSlave =>
      dsimp only
      split
      · exact ⟨_, honMaster⟩
      split
      · refine ⟨{ i with fault := fun _ => true }, ?_⟩
        simp only [Stores.exec, if_true, catchUp_stores]
      · rename_i hw
        refine ⟨{ i with }, ?_⟩
        simp only [Stores.exec, hf', Bool.false_eq_true, if_false, hseen, catchUp_stores]
        exact Prod.ext rfl (congrArg (Prod.mk · c.goals) (exec_reading (by simpa using hw) _ _))

end Cluster

/-! ## Runs -/

abbrev ClusterRun := Pool Op Op.Ret HttpRequest Exn HttpResponse Cluster

/-- A run of the admitted requests is a serial one of them. -/
theorem cluster_serial (cfg : Config D) {c₀ : Cluster} {c : ClusterRun}
    {allowed : Shared HttpRequest Exn HttpResponse Cluster → Event HttpRequest ClusterInput → Prop}
    {admitted : List (Answer HttpRequest Exn HttpResponse History) → HttpRequest → Prop}
    (harrive : ∀ s q, allowed s (.arrive q) → admitted (Pool.seenLog Cluster.history s) q)
    (hgrow : ∀ log a q, admitted log q → admitted (log ++ [a]) q)
    (h : Pool.Reach Cluster.exec (serve cfg) allowed (Pool.start c₀) c) :
    Serial History.exec (fun _ => True) (serve cfg) admitted c₀.history
      (Pool.seenLog Cluster.history c.toShared) c.world.history := by
  refine Pool.Reach.serial (M := History.Grown) (fun _ => List.Subset.refl _)
    (fun _ _ _ => List.Subset.trans) (fun i o s _ => History.exec_grows i o s) ?_ harrive hgrow
    (fun q => (serve_commits cfg History.steadfast q).commitsLast) h
  intro s n i _ o
  obtain ⟨j, -, hj⟩ := Cluster.exec_history i o s.world
  exact ⟨j, trivial, hj⟩

/-- **A run on the cluster is serial**: its answers, in the order of the last operations, are those of
requests that were served one after another, each of whose reads saw the first so many writes. -/
theorem cluster_runs_serial (cfg : Config D) (c₀ : Cluster) (c : ClusterRun)
    (h : Pool.Reach Cluster.exec (serve cfg) (fun _ _ => True) (Pool.start c₀) c) :
    Serial History.exec (fun _ => True) (serve cfg) (fun _ _ => True) c₀.history
      (Pool.seenLog Cluster.history c.toShared) c.world.history :=
  cluster_serial cfg (fun _ _ _ => trivial) (fun _ _ _ _ => trivial) h

/-- **The rule for runs on the cluster**: what holds at the start, and after each answer, with
nothing done or right after the one operation that it reports, holds of every run. -/
theorem cluster_rule (cfg : Config D) {c₀ : Cluster} {c : ClusterRun}
    {allowed : Shared HttpRequest Exn HttpResponse Cluster → Event HttpRequest ClusterInput → Prop}
    (admitted : List (Answer HttpRequest Exn HttpResponse History) → HttpRequest → Prop)
    (I : List (Answer HttpRequest Exn HttpResponse History) → History → Prop)
    (harrive : ∀ s q, allowed s (.arrive q) → admitted (Pool.seenLog Cluster.history s) q)
    (hgrow : ∀ log a q, admitted log q → admitted (log ++ [a]) q) (h₀ : I [] c₀.history)
    (hfails : ∀ log h q r, I log h → admitted log q → Fails q r → I (log ++ [⟨q, r, h⟩]) h)
    (hreports : ∀ log h q r i o, I log h → admitted log q → Answered cfg q o (History.exec i o h).1 r →
      I (log ++ [⟨q, r, (History.exec i o h).2⟩]) (History.exec i o h).2)
    (h : Pool.Reach Cluster.exec (serve cfg) allowed (Pool.start c₀) c) :
    I (Pool.seenLog Cluster.history c.toShared) c.world.history :=
  Serial.rule (fun q => serve_commits cfg History.steadfast q) h₀ hfails
    (fun log h q r i o hI hq _ => hreports log h q r i o hI hq) (cluster_serial cfg harrive hgrow h)

/-- The steps of a signup and of its login. -/
def annEvents (i : ClusterInput) : List (Event HttpRequest ClusterInput) :=
  [.arrive annSignup, .turn 0 {}, .arrive annLogin, .turn 0 i]

/-- The login reads from a replica that has replayed what `i` says. -/
def annRun (i : ClusterInput) : ClusterRun :=
  (annEvents i).foldl (Pool.step Cluster.exec (serve (clearConfig .throws))) (Pool.start oneReplica)

theorem cluster_runs_serial_lagging :
    Serial History.exec (fun _ => True) (serve (clearConfig .throws)) (fun _ _ => True) oneReplica.history
      (Pool.seenLog Cluster.history (annRun {}).toShared) (annRun {}).world.history :=
  cluster_runs_serial (clearConfig .throws) oneReplica (annRun {}) (Pool.Reach.foldl _ fun _ _ _ => trivial)

/-- The replica that lags knows no account. -/
example : (annRun {}).log.map (fun a => statusOf a.result) = [.kOk, .kUnauthorized] := by decide

/-- Requests of any kind, while the hosts that serve the reads have replayed every write. -/
def SyncedReads (s : Shared HttpRequest Exn HttpResponse Cluster) : Event HttpRequest ClusterInput → Prop
  | .arrive _ => True
  | .turn _ i => s.world.position i = s.world.pg.log.length

/-- **A cluster without lag is a single host** to its clients. -/
theorem synced_runs_serial (cfg : Config D) (c₀ : Cluster) (c : ClusterRun)
    (h : Pool.Reach Cluster.exec (serve cfg) SyncedReads (Pool.start c₀) c) :
    Serial Stores.exec (fun _ => True) (serve cfg) (fun _ _ => True) c₀.stores
      (Pool.seenLog Cluster.stores c.toShared) c.world.stores := by
  refine Pool.Reach.serial (M := Stores.Grown) (fun _ => List.Subset.refl _)
    (fun _ _ _ => List.Subset.trans) (fun i o s _ => Stores.exec_grows i o s) ?_
    (fun _ _ _ => trivial) (fun _ _ _ _ => trivial)
    (fun q => (serve_commits cfg Stores.steadfast q).commitsLast) h
  intro s n i hsync o
  obtain ⟨j, hj⟩ := Cluster.exec_synced i o s.world hsync
  exact ⟨j, trivial, hj⟩

/-- The replica replays the signup before the login reads. -/
def caughtUp : ClusterInput := { replayed := [0] }

theorem synced_runs_serial_ann :
    Serial Stores.exec (fun _ => True) (serve (clearConfig .throws)) (fun _ _ => True) oneReplica.stores
      (Pool.seenLog Cluster.stores (annRun caughtUp).toShared) (annRun caughtUp).world.stores :=
  synced_runs_serial (clearConfig .throws) oneReplica (annRun caughtUp)
    ((((Pool.Reach.start.step (.arrive annSignup) trivial).step
      (.turn 0 ({} : ClusterInput)) rfl).step (.arrive annLogin) trivial).step (.turn 0 caughtUp) rfl)

end Leadertask
