import Leadertask.Model.Cluster
import Leadertask.Proof.Accounts
import Leadertask.Proof.LastCall
import Leadertask.Proof.TaskLists

/-!
# Reading one's own writes

Every write goes to the master and every read to a replica, in any interleaving of requests
and replication. A replica that lags does not know the newest writes yet, so a client can be
turned away with the account that it has just created.

* `exec_noReplica`: on a single host the cluster is the world of the other modules.
* `own_writes_read`: a read on a host that has replayed the write shows it.
-/

namespace Leadertask

open Atomic

variable {D : Type} {cfg : Config D} {i : ClusterInput} {c : Cluster}

/-! ## Operations on the cluster -/

namespace Cluster

theorem extends_catchUp (i : ClusterInput) (c : Cluster) : c.pg.Extends (c.catchUp i).pg :=
  Replicated.extends_foldl_advance c.pg i.replayed

theorem extends_onMaster (i : Input) (stmt : Sql) (c : Cluster) :
    c.pg.Extends (c.executeOnMaster i stmt).2.pg := by
  unfold executeOnMaster
  split
  · split
    · exact Replicated.extends_write _
    · exact .refl _
  · exact .refl _

/-- The log only grows. -/
theorem exec_extends (i : ClusterInput) (o : Op) (c : Cluster) :
    c.pg.Extends (Cluster.exec i o c).2.pg := by
  refine (extends_catchUp i c).trans ?_
  cases o with
  | execute host stmt =>
    simp only [Cluster.exec]
    split
    · exact .refl _
    cases host with
    | kMaster => exact extends_onMaster _ _ _
    | kSlave =>
      dsimp only
      split
      · exact extends_onMaster _ _ _
      · split <;> exact .refl _
  | _ => exact .refl _

@[simp] theorem catchUp_master : (c.catchUp i).master = c.master :=
  Replicated.master_foldl_advance c.pg i.replayed

@[simp] theorem catchUp_world : (c.catchUp i).world = c.world := by
  rw [world, catchUp_master]; rfl

theorem catchUp_replicas : (c.catchUp i).pg.replicas = [] ↔ c.pg.replicas = [] := by
  have hlength : (c.catchUp i).pg.replicas.length = c.pg.replicas.length :=
    (Replicated.foldl_advance c.pg i.replayed).2.2
  rw [← List.length_eq_zero_iff, hlength, List.length_eq_zero_iff]

theorem exec_reading {stmt : Sql} (h : stmt.writes = false) (i : Input) (pg : Postgres) :
    (pg.exec i stmt).2 = pg := by
  cases stmt <;> first | rfl | simp [Sql.writes] at h

/-- A statement on the master does what it does on a single host. -/
theorem executeOnMaster_eq (i : Input) (stmt : Sql) (c : Cluster) :
    (c.executeOnMaster i stmt).1 = (c.master.exec i stmt).1 ∧
      (c.executeOnMaster i stmt).2.world = { c.world with pg := (c.master.exec i stmt).2 } := by
  unfold executeOnMaster
  cases h : (c.master.exec i stmt).1 with
  | error e => exact ⟨rfl, by rw [Postgres.exec_error h]; rfl⟩
  | ok a =>
    refine ⟨rfl, ?_⟩
    dsimp only
    split
    · exact congrArg (World.mk · c.goals c.rateLimits) (Replicated.master_write _)
    · rename_i hw
      rw [exec_reading (by simpa using hw)]; rfl

/-- **A single host.** Without replicas the cluster is the world. -/
theorem exec_noReplica (i : ClusterInput) (o : Op) (h : c.pg.replicas = []) :
    (Cluster.exec i o c).1 = (World.exec i.toInput o c.world).1 ∧
      (Cluster.exec i o c).2.world = (World.exec i.toInput o c.world).2 := by
  cases o with
  | execute host stmt =>
    have hmaster := executeOnMaster_eq i.toInput stmt (c.catchUp i)
    rw [catchUp_master, catchUp_world] at hmaster
    simp only [Cluster.exec, World.exec]
    split
    · exact ⟨rfl, catchUp_world⟩
    cases host with
    | kMaster => exact hmaster
    | kSlave =>
      dsimp only
      rw [if_pos (catchUp_replicas.2 h)]
      exact hmaster
  | checkRateLimit e u => exact ⟨rfl, congrArg (World.mk · c.goals _) catchUp_master⟩
  | newOid => exact ⟨rfl, catchUp_world⟩
  | mongo cmd =>
    simp only [Cluster.exec, World.exec]
    split
    · exact ⟨trivial, catchUp_world⟩
    · exact ⟨trivial, congrArg (World.mk · _ c.rateLimits) catchUp_master⟩

/-- A write that the master took. -/
theorem exec_write {stmt : Sql} {a : stmt.Ret}
    (h : (Cluster.exec i (.execute .kMaster stmt) c).1 = .ok a) :
    c.master.exec i.toInput stmt =
      (.ok a, (Cluster.exec i (.execute .kMaster stmt) c).2.master) := by
  simp only [Cluster.exec] at h ⊢
  split at h
  · simp at h
  · rename_i hf
    obtain ⟨h1, h2⟩ := executeOnMaster_eq i.toInput stmt (c.catchUp i)
    rw [catchUp_master] at h1 h2
    rw [if_neg hf]
    exact Prod.ext (h1.symm.trans h) (congrArg World.pg h2).symm

/-- A read sees what its host holds. -/
theorem exec_read {stmt : Sql} (hr : stmt.writes = false)
    (hf : i.fault (.execute .kSlave stmt) = false) :
    (Cluster.exec i (.execute .kSlave stmt) c).1 = ((c.seen i).exec i.toInput stmt).1 := by
  simp only [Cluster.exec, hf, Bool.false_eq_true, if_false]
  split
  · rename_i hnone
    rw [(executeOnMaster_eq _ _ _).1, seen, Replicated.seen_noReplica hnone, master]
  · rw [if_neg (by simp [hr])]

end Cluster

/-! ## What is claimed of the reads -/

abbrev ClusterEntry := Answer Authed Exn HttpResponse Cluster

abbrev ClusterPool := Pool Op Op.Ret Authed Exn HttpResponse Cluster

/-- tasks-create on goal number `n` answered 201 with `t`. -/
def CreatedTask (a : ClusterEntry) (n : Int64) (t : CreateTaskResponseBody) : Prop :=
  a.req.1.endpoint = .tasksCreate ∧ (∃ pos, stoll a.req.1.goalId = .ok (n, pos)) ∧
    ∃ headers, a.result = .ok ⟨.kCreated, headers, .task t⟩

/-- A status update on task `id` of goal number `n` answered 200 with `t`. The handler hands
the repository the path's two numbers in the other order. -/
def UpdatedStatus (a : ClusterEntry) (id n : Int64) (t : CreateTaskResponseBody) : Prop :=
  a.req.1.endpoint = .tasksUpdateStatus ∧ parseInt a.req.1.goalId 0 = (true, id) ∧
    parseInt a.req.1.taskId 0 = (true, n) ∧ ∃ headers, a.result = .ok ⟨.kOk, headers, .task t⟩

/-- A signup for the login and the password succeeded. -/
def SignedUp (a : ClusterEntry) (login password : String) : Prop :=
  a.req.1.endpoint = .signup ∧ IsSuccess a.result ∧
    ∃ body, CreateUserRequestBody.parse a.req.1.body = .ok body ∧ body.login = login ∧
      body.password = password

/-- The list has the task, with the status it had or one that an update of it has set since. -/
def Shows (since : List LogRecord) (id n : Int64) (t : CreateTaskResponseBody) (ts : List Task) :
    Prop :=
  ∃ t' ∈ ts, t'.id = t.id ∧ t'.goalId = t.goalId ∧ t'.title = t.title ∧
    (t'.status = t.status ∨ ∃ rec ∈ since, rec.stmt = .updateTaskStatus id n t'.status)

/-- The read of the tasks of goal number `n` fails neither in the store nor in the conversion
of a row. -/
def Listable (cfg : Config D) (i : ClusterInput) (c : Cluster) (n : Int64) : Prop :=
  i.fault (.execute .kSlave (.selectTasksByGoal n)) = false ∧
    ∀ r ∈ (c.seen i).tasks.rows, r.goalId = n → r.Converts cfg.narrowing

/-- What the host has replayed since `c₀` that serves a read from `c`. -/
def Cluster.since (c₀ c : Cluster) (i : ClusterInput) : List LogRecord :=
  c₀.pg.since (c.catchUp i).pg i.replica

/-- Reads after a write show it, those at least that are `served` so. Each sends a single
statement, so in a run it happens in one step. A login is with the texts that the signup's columns
hold. -/
structure ReadsOwnWrites (cfg : Config D) (served : Cluster → Cluster → ClusterInput → Prop)
    (c : ClusterPool) : Prop where
  created : ∀ a ∈ c.log, ∀ n t i, CreatedTask a n t → served a.world c.world i →
    Listable cfg i c.world n →
    ∃ ts id, ((TasksRepository.getByGoal cfg n).run (Cluster.exec i) c.world).1 = .ok ts ∧
      id.toInt32 = t.id ∧ Shows (a.world.since c.world i) id n t ts
  status : ∀ a ∈ c.log, ∀ id n t i, UpdatedStatus a id n t → served a.world c.world i →
    Listable cfg i c.world n →
    ∃ ts, ((TasksRepository.getByGoal cfg n).run (Cluster.exec i) c.world).1 = .ok ts ∧
      Shows (a.world.since c.world i) id n t ts
  login : ∀ a ∈ c.log, ∀ login password i request, SignedUp a login password →
    LoginRequestBody.parse request.body = .ok ⟨asColumn login, asColumn password⟩ →
    served a.world c.world i →
    i.fault (.execute .kSlave (.selectUserByLogin (asColumn login))) = false →
    ∃ token, tokenIn ((Login.handleRequestJsonThrow cfg request).run (Cluster.exec i) c.world).1 =
      some token

/-- The host that serves the read has replayed all that was written by then. -/
def CaughtUp (c₀ c : Cluster) (i : ClusterInput) : Prop := c₀.pg.log.length ≤ c.position i

/-! ## What the records of the log keep -/

/-- The row is there, with the status it had or the one that a record has set since. -/
def TaskRow.Stands (r : TaskRow) (since : List LogRecord) (pg : Postgres) : Prop :=
  ∃ r' ∈ pg.tasks.rows, r'.id = r.id ∧ r'.goalId = r.goalId ∧ r'.title = r.title ∧
    (r'.status = r.status ∨ ∃ rec ∈ since, rec.stmt = .updateTaskStatus r.id r.goalId r'.status)

theorem TaskRow.Stands.apply {r : TaskRow} {l : List LogRecord} {pg : Postgres} (rec : LogRecord)
    (h : r.Stands l pg) : r.Stands (l ++ [rec]) (rec.apply pg) := by
  obtain ⟨r', hr', h1, h2, h3, h4⟩ := h
  rcases Postgres.exec_task rec.input rec.stmt hr' with hr'' | ⟨status, hstmt, hr''⟩
  · refine ⟨r', hr'', h1, h2, h3, h4.imp_right ?_⟩
    rintro ⟨x, hx, hs⟩
    exact ⟨x, List.mem_append_left _ hx, hs⟩
  · -- this record is an update of the task itself
    rw [h1, h2] at hstmt
    exact ⟨r'.withStatus status, hr'', h1, h2, h3,
      .inr ⟨rec, List.mem_append_right _ (List.mem_singleton_self _), hstmt⟩⟩

/-! ## Reads -/

/-- A program that reads goes on with what the host holds. -/
theorem run_read {α : Type} (stmt : Sql) {x : stmt.Ret} (hr : stmt.writes = false)
    (hf : i.fault (.execute .kSlave stmt) = false)
    (hx : ((c.seen i).exec i.toInput stmt).1 = .ok x) (k : stmt.Ret → Handler α) :
    ∃ c', ((execute .kSlave stmt).andThen k).run (Cluster.exec i) c = (k x).run (Cluster.exec i) c' := by
  have hexec : Cluster.exec i (.execute .kSlave stmt) c =
      (.ok x, (Cluster.exec i (.execute .kSlave stmt) c).2) :=
    Prod.ext ((Cluster.exec_read hr hf).trans hx) rfl
  refine ⟨(Cluster.exec i (.execute .kSlave stmt) c).2, ?_⟩
  rw [Prog.run_andThen, execute, Prog.run_perform, hexec]

theorem getByGoal_reads {n : Int64} (h : Listable cfg i c n) :
    ((TasksRepository.getByGoal cfg n).run (Cluster.exec i) c).1 =
      .ok (((c.seen i).selectTasksByGoal i.toInput n).map TaskRow.toTask) := by
  have hall : ∀ r ∈ (c.seen i).selectTasksByGoal i.toInput n, r.Converts cfg.narrowing := by
    intro r hr
    obtain ⟨hmem, hn⟩ := Postgres.mem_selectTasksByGoal.1 hr
    exact h.2 r hmem hn
  obtain ⟨c', hrun⟩ := run_read (.selectTasksByGoal n) rfl h.1 rfl
    fun rows => Prog.ofExcept (rows.mapM (TasksRepository.readTask cfg))
  show (((execute .kSlave (.selectTasksByGoal n)).andThen _).run (Cluster.exec i) c).1 = _
  rw [hrun, Prog.run_ofExcept, TasksRepository.mapM_readTask, if_pos hall]

theorem login_reads (cfg : Config D) {request : HttpRequest} {body : LoginRequestBody}
    (hb : LoginRequestBody.parse request.body = .ok body) (hlogin : body.login.isEmpty = false)
    (hpassword : body.password.isEmpty = false) {rows : List UserRow}
    (hrows : (c.seen i).selectUserByLogin body.login = .ok rows)
    (hf : i.fault (.execute .kSlave (.selectUserByLogin body.login)) = false) :
    ((Login.handleRequestJsonThrow cfg request).run (Cluster.exec i) c).1 =
      .ok (Login.answer cfg body.password rows) := by
  obtain ⟨c', hrun⟩ := run_read (.selectUserByLogin body.login) rfl hf hrows
    fun rows => (.ret rows.head? : Handler (Option UserRow))
  have hget : (UsersRepository.getByLoginWithPassword body.login).run (Cluster.exec i) c =
      (.ok rows.head?, c') := hrun
  unfold Login.handleRequestJsonThrow
  simp only [Prog.bind_eq, Prog.tryCatch_eq, Prog.run_catching, Prog.run_andThen, hb,
    Prog.ofExcept_ok, Prog.run_ret, hlogin, hpassword, Bool.or_self, Bool.false_eq_true, if_false, hget]
  cases rows with
  | nil => rfl
  | cons user rows =>
    by_cases hp : user.password = body.password <;> simp [Login.answer, hp]

/-! ## Answers and the log -/

/-- What a success reports is on the master. -/
def Recorded (request : HttpRequest) (r : Except Exn HttpResponse) (pg : Postgres) : Prop :=
  IsSuccess r → match request.endpoint with
  | .signup => ∃ body, CreateUserRequestBody.parse request.body = .ok body ∧
      body.login.isEmpty = false ∧ body.password.isEmpty = false ∧
      ∃ row ∈ pg.users.rows, row.login = asColumn body.login ∧ row.password = asColumn body.password
  | .tasksCreate => ∃ row ∈ pg.tasks.rows, (∃ pos, stoll request.goalId = .ok (row.goalId, pos)) ∧
      r = .ok ⟨.kCreated, [], .task row.toBody⟩
  | .tasksUpdateStatus => ∃ row ∈ pg.tasks.rows, parseInt request.goalId 0 = (true, row.id) ∧
      parseInt request.taskId 0 = (true, row.goalId) ∧ r = .ok ⟨.kOk, [], .task row.toBody⟩
  | _ => True

/-- The last write was on the master, which now holds `pg'`. -/
theorem recorded_of_afterWrite {request : HttpRequest} {l : LastCall}
    {r : Except Exn HttpResponse} {pg' : Postgres} (h : AfterWrite request l r)
    (hlast : ∀ (stmt : Sql) (a : stmt.Ret), l = some ⟨.execute .kMaster stmt, .ok a⟩ →
      ∃ i, ∃ pg : Postgres, pg.exec i stmt = (.ok a, pg')) : Recorded request r pg' := by
  intro hok
  unfold AfterWrite at h
  cases he : request.endpoint <;> simp only [he] at h ⊢
  case signup =>
    obtain ⟨body, id, hb, h1, h2, hl⟩ := h hok
    obtain ⟨i, pg, hexec⟩ := hlast _ _ hl
    refine ⟨body, hb, h1, h2, ?_⟩
    rw [(Postgres.insertUser_ok (atomically_ok hexec)).1]
    exact ⟨_, List.mem_append_right _ (List.mem_singleton_self _), rfl, rfl⟩
  case tasksCreate =>
    obtain ⟨n, pos, title, row, hn, hr, hl⟩ := h hok
    obtain ⟨i, pg, hexec⟩ := hlast _ _ hl
    obtain ⟨⟨k, -, -, hrow⟩, hrows, -⟩ := Postgres.insertTask_ok (atomically_ok hexec)
    refine ⟨row, ?_, ⟨pos, by rw [hrow]; exact hn⟩, hr⟩
    rw [hrows]
    exact List.mem_append_right _ (List.mem_singleton_self _)
  case tasksUpdateStatus =>
    obtain ⟨id, n, status, row, hid, hn, hr, hl⟩ := h hok
    obtain ⟨i, pg, hexec⟩ := hlast _ _ hl
    obtain ⟨hmem, rfl, rfl⟩ :=
      Postgres.updateTaskStatus_mem (atomically_ok hexec) (List.mem_singleton_self row)
    exact ⟨row, hmem, hid, hn, hr⟩

/-- Every answer so far reports what is in the log. -/
def WritesLogged (s : Shared Authed Exn HttpResponse Cluster) : Prop :=
  ∀ a ∈ s.log, Recorded a.req.1 a.result a.world.master ∧ a.world.pg.Extends s.world.pg

/-! ## Runs -/

theorem handle_logs (cfg : Config D) (q : Authed) {s : Shared Authed Exn HttpResponse Cluster}
    (hI : WritesLogged s) :
    (handle cfg q).wp Cluster.exec (fun _ => True) WritesLogged (fun _ _ => True)
      (Answers WritesLogged (fun _ _ => True) q) s s.world := by
  have hkeep (s : Shared Authed Exn HttpResponse Cluster) (w : Cluster) (hI : WritesLogged s)
      (hw : s.world.pg.Extends w.pg) : WritesLogged (s.moved w) :=
    fun a ha => ⟨(hI a ha).1, (hI a ha).2.trans hw⟩
  have hanswer (s : Shared Authed Exn HttpResponse Cluster) (w : Cluster)
      (r : Except Exn HttpResponse) (hI : WritesLogged s) (hw : s.world.pg.Extends w.pg)
      (hr : Recorded q.1 r w.master) : Answers WritesLogged (fun _ _ => True) q r s w := by
    refine ⟨fun a ha => ?_, trivial⟩
    rw [Shared.answer_log, List.mem_append, List.mem_singleton] at ha
    rcases ha with ha | rfl
    · exact hkeep s w hI hw a ha
    · exact ⟨hr, .refl _⟩
  refine Prog.wp_of_ends (I := WritesLogged) (M := fun _ _ => True)
    (fun o s' i hI' _ => ⟨hkeep s' _ hI' (Cluster.exec_extends i o s'.world), trivial⟩)
    (fun o s' i r hI' _ hr => hanswer s' _ r hI' (Cluster.exec_extends i o s'.world) ?_)
    (dispatch_afterWrite cfg q.1 q.2) ⟨hI, trivial⟩
    (fun r hr => hanswer s _ r hI (.refl _) ?_)
  · refine recorded_of_afterWrite hr fun stmt a hl => ?_
    obtain ⟨rfl, ha⟩ := Sigma.mk.inj (Option.some.inj hl)
    exact ⟨i.toInput, s'.world.master, Cluster.exec_write (eq_of_heq ha)⟩
  · -- nothing was called, so nothing is reported
    exact recorded_of_afterWrite hr fun stmt a hl => by simp at hl

/-- A row that was on the master is shown by every host that has replayed as far. -/
theorem shows_row {c₀ : Cluster} {row : TaskRow} (hext : c₀.pg.Extends c.pg)
    (hup : CaughtUp c₀ c i) (hrow : row ∈ c₀.master.tasks.rows) (hlist : Listable cfg i c row.goalId) :
    ∃ ts, ((TasksRepository.getByGoal cfg row.goalId).run (Cluster.exec i) c).1 = .ok ts ∧
      Shows (c₀.since c i) row.id row.goalId row.toBody ts := by
  have hstands : row.Stands (c₀.since c i) (c.seen i) :=
    Replicated.seen_rec (hext.trans (Cluster.extends_catchUp i c)) hup
      ⟨row, hrow, rfl, rfl, rfl, .inl rfl⟩ fun l rec pg h => h.apply rec
  obtain ⟨r', hr', h1, h2, h3, h4⟩ := hstands
  have hlisted : r' ∈ (c.seen i).selectTasksByGoal i.toInput row.goalId :=
    Postgres.mem_selectTasksByGoal.2 ⟨hr', h2⟩
  have hid : r'.toTask.id = row.toBody.id := congrArg Int64.toInt32 h1
  have hgoal : r'.toTask.goalId = row.toBody.goalId := congrArg Int64.toInt32 h2
  exact ⟨_, getByGoal_reads hlist, r'.toTask, List.mem_map_of_mem hlisted, hid, hgoal, h3, h4⟩

/-- **Own writes are read** on a host that has caught up, in every run of any requests. -/
theorem own_writes_read (cfg : Config D) (c₀ : Cluster) (c : ClusterPool)
    (h : Pool.Reach Cluster.exec (handle cfg) (fun _ _ => True) (Pool.start c₀) c) :
    ReadsOwnWrites cfg CaughtUp c := by
  have hlogged : WritesLogged c.toShared :=
    (Pool.Reach.sound (I := WritesLogged) (M := fun _ _ => True) (fun _ => trivial)
      (fun _ _ _ _ _ => trivial) (fun _ _ _ _ => trivial) (fun s q hI _ => handle_logs cfg q hI)
      (Pool.start_sound fun a ha => absurd ha List.not_mem_nil) h).1.1
  constructor
  case created =>
    rintro a ha n t i ⟨he, ⟨pos, hn⟩, headers, hres⟩ hup hlist
    obtain ⟨hrec, hext⟩ := hlogged a ha
    have hrow := hrec (by rw [hres]; exact isSuccess_ok.2 (.inr rfl))
    simp only [he] at hrow
    obtain ⟨row, hmem, ⟨pos', hn'⟩, hres'⟩ := hrow
    obtain rfl : row.goalId = n := (Prod.mk.inj (Except.ok.inj (hn'.symm.trans hn))).1
    obtain ⟨-, rfl⟩ : headers = [] ∧ row.toBody = t := by simpa using hres'.symm.trans hres
    obtain ⟨ts, hts, hshows⟩ := shows_row hext hup hmem hlist
    exact ⟨ts, row.id, hts, rfl, hshows⟩
  case status =>
    rintro a ha id n t i ⟨he, hid, hn, headers, hres⟩ hup hlist
    obtain ⟨hrec, hext⟩ := hlogged a ha
    have hrow := hrec (by rw [hres]; exact isSuccess_ok.2 (.inl rfl))
    simp only [he] at hrow
    obtain ⟨row, hmem, hid', hn', hres'⟩ := hrow
    obtain rfl : row.id = id := (Prod.mk.inj (hid'.symm.trans hid)).2
    obtain rfl : row.goalId = n := (Prod.mk.inj (hn'.symm.trans hn)).2
    obtain ⟨-, rfl⟩ : headers = [] ∧ row.toBody = t := by simpa using hres'.symm.trans hres
    exact shows_row hext hup hmem hlist
  case login =>
    rintro a ha login password i request ⟨he, hok, body, hb, rfl, rfl⟩ hparse hup hf
    obtain ⟨hrec, hext⟩ := hlogged a ha
    have hrow := hrec hok
    simp only [he] at hrow
    obtain ⟨body', hb', h1, h2, row, hmem, h3, h4⟩ := hrow
    obtain rfl := Except.ok.inj (hb.symm.trans hb')
    -- no record takes the account away
    have hseen : row ∈ (c.world.seen i).users.rows :=
      Replicated.seen_rec (P := fun _ pg => row ∈ pg.users.rows)
        (hext.trans (Cluster.extends_catchUp i c.world)) hup hmem
        fun _ rec _ h => Postgres.exec_user rec.input rec.stmt h
    have hrows := Postgres.selectUserByLogin_of (c.world.seen i)
      (h3 ▸ ((c.world.seen i).users.columns row hseen).1.1)
    rw [String.isEmpty_eq_false_iff] at h1 h2
    rw [login_reads cfg hparse (String.isEmpty_eq_false_iff.2 (asColumn_ne_empty h1))
      (String.isEmpty_eq_false_iff.2 (asColumn_ne_empty h2)) hrows hf]
    exact ⟨_, (tokenIn_answer cfg hrows _ _).2 ⟨row, hseen, h3, h4, rfl⟩⟩

/-! ## A replica that lags -/

/-- One replica, and nothing written yet. -/
def oneReplica : Cluster where
  pg := ⟨emptyWorld.pg, [], [0], by decide⟩
  goals := emptyWorld.goals
  rateLimits := emptyWorld.rateLimits

/-- After a signup of which the replica has not heard. -/
def annReplicated : Shared Authed Exn HttpResponse Cluster :=
  Shared.alone Cluster.exec (handle (clearConfig .throws)) {} ⟨oneReplica, []⟩ (annSignup, {})

theorem annReplicated_reach :
    Pool.Reach Cluster.exec (handle (clearConfig .throws)) (fun _ _ => True)
      (Pool.start oneReplica) ⟨annReplicated, []⟩ :=
  Pool.Reach.alone (fun _ _ => trivial) trivial .start

theorem own_writes_read_ann : ReadsOwnWrites (clearConfig .throws) CaughtUp ⟨annReplicated, []⟩ :=
  own_writes_read (clearConfig .throws) oneReplica ⟨annReplicated, []⟩ annReplicated_reach

/-- Whatever host serves the reads, own writes are not read: the new account is unknown to the
replica, and its login is turned away. -/
theorem lagging_login_rejected :
    ∃ c, Pool.Reach Cluster.exec (handle (clearConfig .throws)) (fun _ _ => True)
        (Pool.start oneReplica) c ∧
      ¬ ReadsOwnWrites (clearConfig .throws) (fun _ _ _ => True) c := by
  refine ⟨⟨annReplicated, []⟩, annReplicated_reach, fun h => ?_⟩
  obtain ⟨token, htoken⟩ := h.login _ (List.mem_singleton_self _) "ann" "password" {} annLogin
    ⟨rfl, by decide, _, rfl, rfl, rfl⟩ (by decide) trivial rfl
  have hnone : tokenIn ((Login.handleRequestJsonThrow (clearConfig .throws) annLogin).run
      (Cluster.exec {}) annReplicated.world).1 = none := by decide
  exact absurd (htoken.symm.trans hnone) (by simp)

end Leadertask
