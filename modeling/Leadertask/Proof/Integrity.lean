import Leadertask.Proof.Ledger

/-!
# What is stored is well formed

The handlers check that nothing is empty, Postgres that nothing is too long, and its sequences give
out each id once. On a cluster whose replicas lag, in every run, all this holds of every row on every
host.

* `Postgres.Sound`: the rows of a database are well formed, with ids below its sequences.
* `rows_sound`: every host stays sound, and every goal has a title.
* `signups_decided`: so a signup is refused with 409 exactly when the login was taken before it.
-/

namespace Leadertask

open Atomic

variable {D : Type} {τ : Type} {cfg : Config D} {i : Input} {pg pg' : Postgres}

/-! ## Rows -/

/-- A text that a handler lets through and that fits its column. -/
def Filled (s : String) : Prop := s ≠ "" ∧ s.length ≤ 255

theorem filled_asColumn {s : String} (h : s ≠ "") : Filled (asColumn s) :=
  ⟨asColumn_ne_empty h, asColumn_length s⟩

/-- An id that a sequence gave out by the time it stood at `last`. -/
def GivenOut (last : ℕ) (id : Int64) : Prop := ∃ k, 1 ≤ k ∧ k ≤ last ∧ id = Int64.ofNat k

theorem GivenOut.mono {last last' : ℕ} {id : Int64} (h : GivenOut last id) (hle : last ≤ last') :
    GivenOut last' id := by
  obtain ⟨k, h1, hk, hid⟩ := h
  exact ⟨k, h1, hk.trans hle, hid⟩

/-- The next id was not given out before. -/
theorem GivenOut.ne_next {last k : ℕ} {id : Int64} (h : GivenOut last id) (hk : last < k) (hlt : k < 2 ^ 63) :
    id ≠ Int64.ofNat k := by
  obtain ⟨m, -, hm, rfl⟩ := h
  intro he
  have hne : Int64.ofNat m < Int64.ofNat k := (Int64.ofNat_lt_iff_lt (by omega) hlt).2 (by omega)
  rw [he] at hne
  exact Int64.lt_irrefl hne

structure UserRow.Sound (last : ℕ) (r : UserRow) : Prop where
  id : GivenOut last r.id
  login : Filled r.login
  password : Filled r.password
  firstName : Filled r.firstName
  lastName : Filled r.lastName

structure TaskRow.Sound (last : ℕ) (goalIds : List Int64) (r : TaskRow) : Prop where
  id : GivenOut last r.id
  title : Filled r.title
  status : r.status ∈ taskStatuses
  goal : r.goalId ∈ goalIds

/-- Every row is well formed; the keys are unique by the types of the tables. -/
structure Postgres.Sound (pg : Postgres) : Prop where
  users : ∀ r ∈ pg.users.rows, r.Sound pg.usersSeq
  tasks : ∀ r ∈ pg.tasks.rows, r.Sound pg.tasksSeq pg.goalIds

/-! ## Statements -/

/-- The number that the insert of a user takes. -/
theorem Postgres.insertUser_seq {login password firstName lastName : String} {id : Int64}
    (h : pg.insertUser i login password firstName lastName = .ok (id, pg')) :
    (∃ k, pg.usersSeq < k ∧ id = Int64.ofNat k ∧ pg'.usersSeq = k) ∧ pg'.tasksSeq = pg.tasksSeq := by
  obtain ⟨k, users, hk, rfl, -, -, rfl⟩ := Postgres.insertUser_steps h
  have hlast := (nextval_ok hk).1
  exact ⟨⟨k, by omega, rfl, rfl⟩, rfl⟩

theorem Postgres.Sound.insertUser (h : pg.Sound) {login password firstName lastName : String} {id : Int64}
    (hfilled : login ≠ "" ∧ password ≠ "" ∧ firstName ≠ "" ∧ lastName ≠ "")
    (hins : pg.insertUser i login password firstName lastName = .ok (id, pg')) : pg'.Sound := by
  obtain ⟨hrows, -, htasks, hgoals⟩ := Postgres.insertUser_ok hins
  obtain ⟨⟨k, hk, rfl, hseq⟩, hseq'⟩ := Postgres.insertUser_seq hins
  refine ⟨?_, by rw [htasks, hseq', hgoals]; exact h.tasks⟩
  rw [hrows, hseq]
  refine List.forall_mem_append.2 ⟨fun r hr => ?_, List.forall_mem_singleton.2 ?_⟩
  · exact { h.users r hr with id := (h.users r hr).id.mono hk.le }
  · obtain ⟨h1, h2, h3, h4⟩ := hfilled
    exact ⟨⟨k, by omega, Nat.le_refl k, rfl⟩, filled_asColumn h1, filled_asColumn h2, filled_asColumn h3,
      filled_asColumn h4⟩

/-- The insert of a task leaves the other sequence alone. -/
theorem Postgres.insertTask_usersSeq {goalId : Int64} {title : String} {row : TaskRow}
    (h : pg.insertTask i goalId title = .ok (row, pg')) : pg'.usersSeq = pg.usersSeq := by
  obtain ⟨k, tasks, -, -, -, -, -, -, rfl⟩ := Postgres.insertTask_steps h
  rfl

theorem Postgres.Sound.insertTask (h : pg.Sound) {goalId : Int64} {title : String} {row : TaskRow}
    (hfilled : title ≠ "") (hins : pg.insertTask i goalId title = .ok (row, pg')) : pg'.Sound := by
  obtain ⟨⟨k, hk, -, rfl⟩, hrows, hgoal, husers, hgoals⟩ := Postgres.insertTask_ok hins
  have hlast : pg.tasksSeq < k := by have := (nextval_ok hk).1; omega
  refine ⟨by rw [husers, Postgres.insertTask_usersSeq hins]; exact h.users, ?_⟩
  rw [hrows, hgoals, Postgres.insertTask_seq hins hk]
  refine List.forall_mem_append.2 ⟨fun r hr => ?_, List.forall_mem_singleton.2 ?_⟩
  · exact { h.tasks r hr with id := (h.tasks r hr).id.mono hlast.le }
  · exact ⟨⟨k, by omega, Nat.le_refl k, rfl⟩, filled_asColumn hfilled, by simp [taskStatuses], hgoal⟩

theorem Postgres.Sound.updateTaskStatus (h : pg.Sound) {id goalId : Int64} {status : String}
    {rows : List TaskRow} (hup : pg.updateTaskStatus id goalId status = .ok (rows, pg')) : pg'.Sound := by
  rcases Postgres.updateTaskStatus_ok hup with rfl | ⟨hs, rfl⟩
  · exact h
  · refine ⟨h.users, fun r hr => ?_⟩
    rcases Rows.mem_updateWhere.1 hr with ⟨r₀, hr₀, -, rfl⟩ | ⟨hr₀, -⟩
    · exact { h.tasks r₀ hr₀ with status := hs }
    · exact h.tasks r hr₀

/-- The sequence gave out new ids only, so a key that is taken is the login. -/
theorem Postgres.Sound.insertUser_conflict (h : pg.Sound) {login password firstName lastName : String}
    (hins : pg.insertUser i login password firstName lastName = .error .uniqueViolation) :
    asColumn login ∈ pg.users.rows.map UserRow.login := by
  unfold Postgres.insertUser at hins
  rcases nextval_cases pg.usersSeq i.skip with ⟨k, hk, hlast, hlt⟩ | hno
  case inr => rw [hno] at hins; simp [bind, Except.bind] at hins
  rw [hk] at hins
  obtain ⟨k', hk', hins⟩ := (bind_error hins).resolve_left (by simp)
  obtain rfl := Except.ok.inj hk'
  obtain ⟨l, hl, hins⟩ := (bind_error hins).resolve_left varchar255_ne_uniqueViolation
  obtain ⟨p, -, hins⟩ := (bind_error hins).resolve_left varchar255_ne_uniqueViolation
  obtain ⟨f, -, hins⟩ := (bind_error hins).resolve_left varchar255_ne_uniqueViolation
  obtain ⟨n, -, hins⟩ := (bind_error hins).resolve_left varchar255_ne_uniqueViolation
  -- every column takes its text, so the table itself refused the row
  have hid : Int64.ofNat k ∉ pg.users.rows.map UserRow.id := by
    intro hmem
    obtain ⟨row, hrow, he⟩ := List.mem_map.1 hmem
    exact (h.users row hrow).id.ne_next hlast hlt he
  by_contra hlogin
  rw [← (varchar255_ok hl).2] at hlogin
  rw [UsersTable.insert, dif_pos ⟨hid, hlogin⟩] at hins
  simp [bind, Except.bind, pure, Except.pure] at hins

/-! ## Runs -/

namespace History

variable {j : HistoryInput} {h : History} {o : Op}

/-- Every host is sound, as far as it has replayed, and every goal has a title. -/
structure Sound (h : History) : Prop where
  hosts : ∀ n, (h.upTo n).Sound
  goals : ∀ doc ∈ h.goals.docs, doc.title ≠ ""

theorem Sound.master (hS : h.Sound) : h.master.Sound := upTo_all ▸ hS.hosts h.log.length

/-- It is enough to look at the master. -/
theorem Sound.exec (hS : h.Sound) (hmaster : (History.exec j o h).2.master.Sound)
    (hgoals : ∀ doc ∈ (History.exec j o h).2.goals.docs, doc.title ≠ "") : (History.exec j o h).2.Sound where
  hosts := fun n => by
    rcases upTo_exec j o h n with hsame | hnew
    · rw [hsame]; exact hS.hosts n
    · rw [hnew]; exact hmaster
  goals := hgoals

/-- A statement on the master that is refused for another reason than that the store failed. -/
theorem exec_refused {host : ClusterHostType} {stmt : Sql} {e : Exn} (hw : stmt.writes = true)
    (he : e ≠ .storeFailure) (hr : (History.exec j (.execute host stmt) h).1 = .error e) :
    (h.master.exec j.toInput stmt).1 = .error e := by
  simp only [History.exec, hw, if_true] at hr
  split at hr
  · exact absurd (Except.error.inj hr).symm he
  · cases hx : (h.master.exec j.toInput stmt).1 with
    | error e' => rw [hx] at hr; exact hr
    | ok a => rw [hx] at hr; simp at hr

end History

/-- What a request reports leaves the hosts sound. -/
theorem History.Sound.report {q : HttpRequest} {ctx : RequestContext} {o : Op} {r : Except Exn HttpResponse}
    {j : HistoryInput} {h : History} (hS : h.Sound) (hR : Reports cfg q ctx o (History.exec j o h).1 r) :
    (History.exec j o h).2.Sound := by
  have hidle (hI : Idle o (History.exec j o h).1) : (History.exec j o h).2.Sound := by
    rw [History.exec_idle hI]; exact hS
  generalize hx : (History.exec j o h).1 = x at hR
  cases hR with
  | signup he hb hfilled hr =>
    obtain ⟨hexec, hgoals⟩ := History.exec_write rfl hx
    exact hS.exec (hS.master.insertUser hfilled (atomically_ok hexec)) (hgoals ▸ hS.goals)
  | tasksCreate he hn hb hfilled hr =>
    obtain ⟨hexec, hgoals⟩ := History.exec_write rfl hx
    exact hS.exec (hS.master.insertTask hfilled (atomically_ok hexec)) (hgoals ▸ hS.goals)
  | tasksUpdateStatus he hg ht hb hr =>
    obtain ⟨hexec, hgoals⟩ := History.exec_write rfl hx
    exact hS.exec (hS.master.updateTaskStatus (atomically_ok hexec)) (hgoals ▸ hS.goals)
  | goalsCreate he hu hb htitle hdescription hfilled hr =>
    obtain ⟨hexec, hmaster⟩ := History.exec_insertOne hx
    refine hS.exec (hmaster ▸ hS.master) ?_
    rw [(GoalsCollection.insertOne_ok hexec).1]
    exact List.forall_mem_append.2 ⟨hS.goals, List.forall_mem_singleton.2 hfilled⟩
  | conflict => exact hidle (hx ▸ .inr ⟨_, rfl⟩)
  | idle hI => exact hidle (hx ▸ hI)
  | _ => exact hidle (.inl rfl)

/-- **Rows stay sound** on a cluster whose replicas lag, in every run: on the master and on whatever
host serves the next read, no row is ill formed, and no goal is without a title. -/
theorem rows_sound (cfg : Config D) (c₀ : Cluster) (h₀ : c₀.history.Sound) (c : ClusterRun)
    (h : Pool.Reach Cluster.exec (serve cfg) (fun _ _ => True) (Pool.start c₀) c) :
    c.world.master.Sound ∧ (∀ i, (c.world.seen i).Sound) ∧ ∀ doc ∈ c.world.goals.docs, doc.title ≠ "" := by
  have hS : c.world.history.Sound := by
    refine cluster_rule cfg (fun _ _ => True) (fun _ h => h.Sound) (fun _ _ _ => trivial)
      (fun _ _ _ _ => trivial) h₀ ?_ ?_ h
    · intro _ h _ _ hS _ _
      exact hS
    · intro _ h q r j o hS _ hR
      exact hS.report hR.2
  exact ⟨hS.master, fun i => Cluster.seen_history ▸ hS.hosts _, hS.goals⟩

theorem emptyHistory_sound : oneReplica.history.Sound := by
  have hempty : emptyWorld.pg.Sound :=
    ⟨fun r hr => absurd hr List.not_mem_nil, fun r hr => absurd hr List.not_mem_nil⟩
  refine ⟨fun n => ?_, fun doc hdoc => absurd hdoc List.not_mem_nil⟩
  have hsame : oneReplica.history.upTo n = emptyWorld.pg := by
    rw [History.upTo, show oneReplica.history.log = [] from rfl, List.take_nil]; rfl
  rw [hsame]; exact hempty

theorem rows_sound_ann :
    (annRun {}).world.master.Sound ∧ (∀ i, ((annRun {}).world.seen i).Sound) ∧
      ∀ doc ∈ (annRun {}).world.goals.docs, doc.title ≠ "" :=
  rows_sound (clearConfig .throws) oneReplica emptyHistory_sound (annRun {})
    (Pool.Reach.foldl _ fun _ _ _ => trivial)

/-! ## Signups -/

/-- The logins of the accounts of before the run, and of the signups since. -/
def takenLogins (users₀ : List UserRow) (before : List (Answer HttpRequest Exn HttpResponse τ)) : List String :=
  (users₀ ++ before.filterMap signedUpRow).map UserRow.login

/-- A signup is answered by whether its login, as the column holds it, was taken. Nothing else is
answered 409. -/
structure SignupDecided (users₀ : List UserRow) (before : List (Answer HttpRequest Exn HttpResponse τ))
    (a : Answer HttpRequest Exn HttpResponse τ) : Prop where
  free : a.req.endpoint = .signup → IsSuccess a.result →
    ∃ body, CreateUserRequestBody.parse a.req.body = .ok body ∧ asColumn body.login ∉ takenLogins users₀ before
  taken : statusOf a.result = .kConflict → a.req.endpoint = .signup ∧
    ∃ body, CreateUserRequestBody.parse a.req.body = .ok body ∧ asColumn body.login ∈ takenLogins users₀ before

theorem signupDecided_of_fails {users₀ : List UserRow} {before : List (Answer HttpRequest Exn HttpResponse τ)}
    {a : Answer HttpRequest Exn HttpResponse τ} (h : Fails a.req a.result) :
    SignupDecided users₀ before a :=
  ⟨fun _ hok => absurd hok h.noSuccess, fun hc => absurd hc h.noConflict⟩

/-- An answer of another handler. -/
theorem signupDecided_of_ne {users₀ : List UserRow} {before : List (Answer HttpRequest Exn HttpResponse τ)}
    {a : Answer HttpRequest Exn HttpResponse τ} (he : a.req.endpoint ≠ .signup)
    (h : statusOf a.result ≠ .kConflict) : SignupDecided users₀ before a :=
  ⟨fun he' => absurd he' he, fun hc => absurd hc h⟩

theorem login_noConflict (cfg : Config D) (password : String) (rows : List UserRow) :
    statusOf (.ok (Login.answer cfg password rows)) ≠ .kConflict := by
  cases rows with
  | nil => simp [statusOf, Login.answer, makeError]
  | cons user rows =>
    rw [Login.answer]
    split <;> simp [statusOf, makeError]

theorem updateStatus_noConflict (x : Except Exn (Option Task)) :
    statusOf (Tasks.UpdateTaskStatus.answer x) ≠ .kConflict := by
  rcases x with e | _ | t <;> simp [statusOf, Tasks.UpdateTaskStatus.answer, makeError]

/-- A statement that is refused as a whole. -/
theorem atomically_refused {α σ : Type} {s : σ} {x : Except Exn (α × σ)} {e : Exn}
    (h : (atomically s x).1 = .error e) : x = .error e := by
  cases x with
  | error e' => exact congrArg Except.error (Except.error.inj h)
  | ok p => simp [atomically] at h

theorem signupDecided_report {q : HttpRequest} {ctx : RequestContext} {o : Op} {r : Except Exn HttpResponse}
    {j : HistoryInput} {h : History} {users₀ : List UserRow}
    {log : List (Answer HttpRequest Exn HttpResponse History)} (hS : h.Sound)
    (husers : h.master.users.rows = users₀ ++ log.filterMap signedUpRow)
    (hR : Reports cfg q ctx o (History.exec j o h).1 r) :
    SignupDecided users₀ log ⟨q, r, (History.exec j o h).2⟩ := by
  generalize hx : (History.exec j o h).1 = x at hR
  cases hR with
  | signup he hb hfilled hr =>
    obtain ⟨hexec, -⟩ := History.exec_write rfl hx
    obtain ⟨-, hlogin, -⟩ := Postgres.insertUser_ok (atomically_ok hexec)
    rw [husers] at hlogin
    exact ⟨fun _ _ => ⟨_, hb, hlogin⟩, fun hc => by rw [hr] at hc; simp [statusOf] at hc⟩
  | @conflict login password firstName lastName _ he hb hr =>
    have hrefused := atomically_refused (History.exec_refused rfl (by simp) hx)
    have hlogin := hS.master.insertUser_conflict hrefused
    rw [husers] at hlogin
    refine ⟨fun _ hok => ?_, fun _ => ⟨he, _, hb, hlogin⟩⟩
    rw [hr] at hok
    exact absurd hok (not_isSuccess_makeError (by decide))
  | login he hb hr =>
    refine signupDecided_of_ne (by simp [he]) ?_
    rw [hr]
    exact login_noConflict cfg _ _
  | usersSearch he hr => exact signupDecided_of_ne (by simp [he]) (hr ▸ statusOf_map_ne (by decide) fun _ => by simp)
  | goalsCreate he hu hb htitle hdescription hfilled hr =>
    exact signupDecided_of_ne (by simp [he]) (by simp [hr, statusOf, Goals.Create.answer])
  | goalsList he hu hr => exact signupDecided_of_ne (by simp [he]) (by simp [hr, statusOf])
  | tasksCreate he hn hb hfilled hr =>
    exact signupDecided_of_ne (by simp [he]) (hr ▸ statusOf_map_ne (by decide) fun _ => by simp)
  | tasksList he hn hr => exact signupDecided_of_ne (by simp [he]) (hr ▸ statusOf_map_ne (by decide) fun _ => by simp)
  | tasksUpdateStatus he hg ht hb hr =>
    refine signupDecided_of_ne (by simp [he]) ?_
    rw [hr]
    exact updateStatus_noConflict _
  | goalMissing he hoid hu hno hr =>
    have hne : q.endpoint ≠ .signup := fun he' => by simp [he'] at he
    exact signupDecided_of_ne hne (by simp [hr, statusOf, makeError])
  | idle hI hr => exact signupDecided_of_fails hr

/-- **A signup is decided by its login** on a cluster whose replicas lag, in every run of requests of
any kind: it is answered 200 only when no account had the login, and 409 only when one had, of those
that were there at the start or whose signups were finished before. -/
theorem signups_decided (cfg : Config D) (c₀ : Cluster) (h₀ : c₀.history.Sound) (c : ClusterRun)
    (h : Pool.Reach Cluster.exec (serve cfg) (fun _ _ => True) (Pool.start c₀) c) :
    EachAnswer (SignupDecided c₀.master.users.rows) c.log := by
  have hall : EachAnswer (SignupDecided c₀.master.users.rows) (Pool.seenLog Cluster.history c.toShared) := by
    refine (cluster_rule cfg (fun _ _ => True) (fun log (h : History) =>
        h.Sound ∧ Ledger cfg c₀.history.master c₀.history.goals log h.master h.goals ∧
          EachAnswer (SignupDecided c₀.master.users.rows) log)
      (fun _ _ _ => trivial) (fun _ _ _ _ => trivial) ⟨h₀, .start _ _ _, EachAnswer.nil⟩ ?_ ?_ h).2.2
    · intro log h q r hI _ hr
      exact ⟨hI.1, hI.2.1.blank (blank_of_fails hr.noSuccess), hI.2.2.append (signupDecided_of_fails hr)⟩
    · intro log h q r j o hI _ hR
      exact ⟨hI.1.report hR.2, hI.2.1.report hR.2, hI.2.2.append (signupDecided_report hI.1 hI.2.1.users hR.2)⟩
  refine hall.of_map fun pre a ha => ?_
  have hsame : takenLogins c₀.master.users.rows (pre.map (Answer.map Cluster.history)) =
      takenLogins c₀.master.users.rows pre := by
    rw [takenLogins, List.filterMap_map]; rfl
  exact ⟨fun he hok => hsame ▸ ha.free he hok, fun hc => hsame ▸ ha.taken hc⟩

/-- Another signup for Ann's login. -/
def annRival : HttpRequest where
  endpoint := .signup
  body := .obj [("login", .str "ann"), ("password", .str "passphrase"), ("firstName", .str "Anna"),
    ("lastName", .str "Day")]

/-- Both signups are in flight at once, and the second one is faster. -/
def annRace : ClusterRun :=
  [.arrive annSignup, .arrive annRival, .turn 1 {}, .turn 0 {}].foldl
    (Pool.step Cluster.exec (serve (clearConfig .throws))) (Pool.start oneReplica)

theorem signups_decided_race : EachAnswer (SignupDecided oneReplica.master.users.rows) annRace.log :=
  signups_decided (clearConfig .throws) oneReplica emptyHistory_sound annRace
    (Pool.Reach.foldl _ fun _ _ _ => trivial)

example : annRace.log.filterMap signedUpRow = [⟨1, "ann", "passphrase", "Anna", "Day"⟩] ∧
    annRace.log.map (fun a => statusOf a.result) = [.kOk, .kConflict] := by decide

end Leadertask
