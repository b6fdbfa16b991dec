import Leadertask.Proof.Ownership

/-!
# Which requests end in a server error

The stores do what they are asked, and still an exception escapes some handlers, each
because one of its calls is in no `try` block.

* `answers_documented_iff`: the requests that are answered with a documented status.
-/

namespace Leadertask

open Atomic

variable {D : Type} {cfg : Config D} {i : Input} {w : World} {u : UserId}

/-- The responses of `openapi.yaml` but for the server error. -/
def documented : List HttpStatus :=
  [.kOk, .kCreated, .kBadRequest, .kUnauthorized, .kNotFound, .kTooManyRequests]

/-- No exception escapes the handler, and its response is a documented one. -/
def Documented (i : Input) (w : World) (p : Handler HttpResponse) : Prop :=
  ∃ r, (p.run (World.exec i) w).1 = .ok r ∧ r.status ∈ documented

/-- The stores are healthy: no call fails on its own, the object id drawn is new, and the
sequence of the tasks has a new number to give. -/
structure Healthy (i : Input) (w : World) : Prop where
  fault : ∀ o, i.fault o = false
  oid : i.oid ∉ w.goals.docs.map GoalDoc.id
  seq : ∃ k, nextval w.pg.tasksSeq i.skip = .ok k ∧ Int64.ofNat k ∉ w.pg.tasks.rows.map TaskRow.id

/-! ## The condition -/

/-- If the text begins with a number, it is an object id; and if it is the id of a goal of
the user, the number is as the rest of the handler needs it. -/
def GoalIdSafe (w : World) (u : UserId) (goalId : String) (P : Int64 → Prop) : Prop :=
  ∀ n pos, stoll goalId = .ok (n, pos) → ∃ oid, Oid.ofString goalId = .ok oid ∧
    ∀ doc ∈ w.goals.docs, doc.id = oid → doc.userId.toInt32.toInt64 = u → P n

/-- The insert goes through, and its row can be read. -/
def Insertable (cfg : Config D) (i : Input) (w : World) (title : String) (n : Int64) : Prop :=
  Storable title ∧ n ∈ w.pg.goalIds ∧ cfg.narrowing.Reads n ∧
    ∀ k, nextval w.pg.tasksSeq i.skip = .ok k → cfg.narrowing.Reads (Int64.ofNat k)

/-- What keeps a request of user `u` from ending in a server error. -/
def SafeWhen (cfg : Config D) (i : Input) (w : World) (u : UserId) (request : HttpRequest) : Prop :=
  match request.endpoint with
  | .goalsCreate => ∃ body, CreateGoalRequestBody.parse request.body = .ok body
  | .tasksCreate => ∃ body, CreateTaskRequestBody.parse request.body = .ok body ∧
      (body.title ≠ "" → w.admits i .tasksCreate u = true →
        GoalIdSafe w u request.goalId (Insertable cfg i w body.title))
  | .tasksList => w.admits i .tasksList u = true →
      GoalIdSafe w u request.goalId fun n =>
        ∀ r ∈ w.pg.tasks.rows, r.goalId = n → r.Converts cfg.narrowing
  | .tasksUpdateStatus => w.admits i .tasksUpdateStatus u = true →
      ∀ n t, parseInt request.goalId 0 = (true, n) → parseInt request.taskId 0 = (true, t) →
        ∃ oid, Oid.ofString request.goalId = .ok oid ∧
          (oid ∈ w.goals.docs.map GoalDoc.id → ∀ status,
            UpdateTaskStatusRequest.parse request.body = .ok ⟨status⟩ → status ∈ taskStatuses →
              ∀ r ∈ w.pg.tasks.rows, r.hit n t = true → r.Converts cfg.narrowing)
  | _ => True

theorem goalIdSafe_congr {P Q : Int64 → Prop} {goalId : String} (h : ∀ n, P n ↔ Q n) :
    GoalIdSafe w u goalId P ↔ GoalIdSafe w u goalId Q := by
  simp only [GoalIdSafe, h]

/-- The rate limiter touches no store. -/
theorem Healthy.limited (h : Healthy i w) (e : Endpoint) (u : UserId) : Healthy i (w.limited i e u) :=
  ⟨h.fault, h.oid, h.seq⟩

/-! ## The prologues -/

theorem documented_ret {r : HttpResponse} : Documented i w (.ret r) ↔ r.status ∈ documented := by
  simp [Documented]

theorem documented_raise {e : Exn} : ¬ Documented i w (.raise e) := fun ⟨_, h, _⟩ => by simp at h

/-- The rate limiter's 429 is documented, too. -/
theorem documented_prologue {e : Endpoint} {msg : String} {k : UserId → Handler HttpResponse} :
    Documented i w (withUserId ⟨some u⟩ msg fun u => rateLimited e u (k u)) ↔
      (w.admits i e u = true → Documented i (w.limited i e u) (k u)) := by
  have h401 : HttpStatus.kUnauthorized ∈ documented := by decide
  have h429 : HttpStatus.kTooManyRequests ∈ documented := by decide
  refine (prologue_iff (P := fun p => ∃ r, p.1 = .ok r ∧ r.status ∈ documented) ⟨_, rfl, h401⟩
    fun u remaining => ⟨_, rfl, h429⟩).trans ?_
  simp [Documented]

/-- `GetById` throws where the text is no object id. -/
theorem documented_getById (hf : ∀ o, i.fault o = false) {g : String} {k : Option Goal → Handler HttpResponse} :
    Documented i w ((GoalsRepository.getById g).andThen k) ↔
      ∃ oid, Oid.ofString g = .ok oid ∧
        Documented i w (k ((w.goals.docs.find? (·.id = oid)).map GoalsRepository.readGoal)) := by
  unfold Documented
  rw [Prog.run_andThen, GoalsRepository.getById_run]
  cases hg : Oid.ofString g with
  | error e => simp [World.findGoal, hg, bind, Except.bind, Except.map]
  | ok oid => simp [World.findGoal_ok hg (hf _), Except.map]

theorem documented_withOwnGoal (hf : ∀ o, i.fault o = false) {g : String} {k : Int64 → Handler HttpResponse} :
    Documented i w (withOwnGoal u g k) ↔ GoalIdSafe w u g fun n => Documented i w (k n) := by
  unfold withOwnGoal GoalIdSafe
  cases hn : stoll g with
  | error e =>
    -- turned away before the id is parsed
    have hret : Documented i w (.ret (makeError .kBadRequest "invalid goalId")) :=
      documented_ret.2 (by decide)
    constructor
    · intro _ n pos h
      simp at h
    · intro _
      exact hret
  | ok p =>
    obtain ⟨n, pos⟩ := p
    simp only [Except.ok.injEq, Prod.mk.injEq, and_imp, forall_eq', forall_apply_eq_imp_iff]
    rw [Prog.bind_eq, documented_getById hf]
    refine exists_congr fun oid => and_congr_right fun _ => ?_
    rcases Rows.find_cases w.goals.idKey oid with ⟨h, hno⟩ | ⟨doc, hdoc, hid, h, -⟩
    · rw [h]
      constructor
      · intro _ doc hdoc hid
        exact absurd hid (hno doc hdoc)
      · intro _
        exact documented_ret.2 (by decide)
    · rw [h]
      simp only [Option.map_some]
      by_cases ho : doc.userId.toInt32.toInt64 = u
      · rw [if_neg (by simp [ho])]
        constructor
        · intro hk _ _ _ _
          exact hk
        · intro hk
          exact hk doc hdoc hid ho
      · rw [if_pos (by simp [ho])]
        constructor
        · intro _ doc' hdoc' hid' ho'
          -- the id names one document only
          have hsame : doc' = doc := Rows.eq_of_key w.goals.idKey hdoc' hdoc (hid'.trans hid.symm)
          exact absurd (hsame ▸ ho') ho
        · intro _
          exact documented_ret.2 (by decide)

/-! ## The repositories' last steps -/

theorem documented_createTask (h : Healthy i w) {n : Int64} {title : String} :
    Documented i w ((TasksRepository.createTask cfg n title).andThen fun task =>
        .ret { status := .kCreated, payload := .task task }) ↔ Insertable cfg i w title n := by
  obtain ⟨k, hk, hnew⟩ := h.seq
  unfold Documented
  rw [Prog.run_andThen]
  rcases TasksRepository.createTask_run (i := i) (w := w) cfg n title with
    ⟨row, pg', hins, hrun⟩ | ⟨⟨e, hrun⟩, hno⟩
  · obtain ⟨⟨k', hk', -, hrow⟩, -, hg, -⟩ := Postgres.insertTask_ok hins
    obtain rfl : k = k' := Except.ok.inj (hk.symm.trans hk')
    have hconv : row.Converts cfg.narrowing ↔ Insertable cfg i w title n := by
      rw [hrow]
      constructor
      · rintro ⟨h1, h2⟩
        refine ⟨Postgres.insertTask_title hins, hg, h2, fun k' hk' => ?_⟩
        obtain rfl : k = k' := Except.ok.inj (hk.symm.trans hk')
        exact h1
      · exact fun hi => ⟨hi.2.2.2 k hk, hi.2.2.1⟩
    rw [hrun, TasksRepository.readCreateTaskResponseBody_eq, TasksRepository.readTask_eq, ← hconv]
    by_cases hc : row.Converts cfg.narrowing
    · simp [hc, Except.map, documented]
    · simp [hc, Except.map]
  · -- the statement was refused
    rw [hrun]
    constructor
    · intro hno'
      simp at hno'
    intro hi
    obtain ⟨p, hp⟩ := Postgres.insertTask_of i w.pg hk hnew hi.1 hi.2.1
    rcases hno with hf | ⟨e, he⟩
    · simp [h.fault] at hf
    · simp [hp] at he

theorem documented_getByGoal (hf : ∀ o, i.fault o = false) {n : Int64} :
    Documented i w ((TasksRepository.getByGoal cfg n).andThen fun tasks => .ret { payload := .tasks tasks }) ↔
      ∀ r ∈ w.pg.tasks.rows, r.goalId = n → r.Converts cfg.narrowing := by
  have hrows : (∀ r ∈ w.pg.selectTasksByGoal i n, r.Converts cfg.narrowing) ↔
      ∀ r ∈ w.pg.tasks.rows, r.goalId = n → r.Converts cfg.narrowing := by
    simp only [Postgres.mem_selectTasksByGoal, and_imp]
  unfold Documented
  rw [Prog.run_andThen, TasksRepository.getByGoal_run, hf, TasksRepository.mapM_readTask, ← hrows]
  by_cases hc : ∀ r ∈ w.pg.selectTasksByGoal i n, r.Converts cfg.narrowing
  · rw [if_pos hc]
    simpa [documented] using hc
  · rw [if_neg hc]
    simpa using hc

theorem documented_updateStatus (hf : ∀ o, i.fault o = false) {n t : Int64} {status : String} :
    Documented i w ((TasksRepository.updateStatus cfg n t status).andThen fun
        | none => .ret (makeError .kNotFound "task not found")
        | some task => .ret { payload := .task {
            id := task.id, goalId := task.goalId, title := task.title, status := task.status } }) ↔
      (status ∈ taskStatuses → ∀ r ∈ w.pg.tasks.rows, r.hit n t = true → r.Converts cfg.narrowing) := by
  unfold Documented
  rw [Prog.run_andThen]
  by_cases hs : status ∈ taskStatuses
  · rcases TaskRow.hit_or_miss w.pg.tasks.rows n t with ⟨r, hr, hh⟩ | hmiss
    · -- no other row has the id
      have hconv : (r.withStatus status).Converts cfg.narrowing ↔
          ∀ x ∈ w.pg.tasks.rows, x.hit n t = true → x.Converts cfg.narrowing :=
        (TasksTable.forall_hit_iff (P := fun x => x.Converts cfg.narrowing) hr hh).symm
      rw [TasksRepository.updateStatus_hit hs (hf _) hr hh, TasksRepository.readTask_eq,
        imp_iff_right hs, ← hconv]
      by_cases hc : (r.withStatus status).Converts cfg.narrowing
      · simp [hc, Except.map, documented]
      · simp [hc, Except.map]
    · rw [TasksRepository.updateStatus_none cfg hs (hf _) hmiss]
      constructor
      · intro _ _ r hr hh
        simp [hmiss r hr] at hh
      · intro _
        exact ⟨_, rfl, by decide⟩
  · rw [TasksRepository.updateStatus_unknown cfg hs]
    constructor
    · intro _ hs'
      exact absurd hs' hs
    · intro _
      exact ⟨_, rfl, by decide⟩

/-! ## The handlers -/

section

variable (cfg) (h : Healthy i w) (request : HttpRequest)
include h

theorem goalsCreate_answers :
    Documented i w (Goals.Create.handleRequestJsonThrow request ⟨some u⟩) ↔
      ∃ body, CreateGoalRequestBody.parse request.body = .ok body := by
  unfold Goals.Create.handleRequestJsonThrow
  cases hb : CreateGoalRequestBody.parse request.body with
  | error e =>
    -- `request_body.As` is in no `try` block
    constructor
    · intro hno
      exact absurd hno documented_raise
    · rintro ⟨_, hno⟩
      simp at hno
  | ok body =>
    constructor
    · intro _
      exact ⟨body, rfl⟩
    intro _
    simp only [Prog.ofExcept_ok, Prog.bind_eq, Prog.ret_andThen]
    split
    · exact documented_ret.2 (by decide)
    · rw [documented_prologue]
      intro _
      unfold Documented
      rw [Prog.run_andThen, GoalsRepository.createGoal_new (w := w.limited i .goalsCreate u) u _ _
        (h.fault _) h.oid]
      exact ⟨_, rfl, show HttpStatus.kCreated ∈ documented by decide⟩

theorem tasksCreate_answers :
    Documented i w (Tasks.Create.handleRequestJsonThrow cfg request ⟨some u⟩) ↔
      ∃ body, CreateTaskRequestBody.parse request.body = .ok body ∧
        (body.title ≠ "" → w.admits i .tasksCreate u = true →
          GoalIdSafe w u request.goalId (Insertable cfg i w body.title)) := by
  unfold Tasks.Create.handleRequestJsonThrow
  cases hb : CreateTaskRequestBody.parse request.body with
  | error e =>
    constructor
    · intro hno
      exact absurd hno documented_raise
    · rintro ⟨_, hno, _⟩
      simp at hno
  | ok body =>
    simp only [Prog.ofExcept_ok, Prog.bind_eq, Prog.ret_andThen, Except.ok.injEq, exists_eq_left']
    by_cases ht : body.title = ""
    · rw [if_pos (by simp [ht])]
      constructor
      · intro _ hno
        exact absurd ht hno
      · intro _
        exact documented_ret.2 (by decide)
    · rw [if_neg (by simpa using ht), documented_prologue, imp_iff_right ht]
      refine imp_congr_right fun _ => ?_
      rw [documented_withOwnGoal h.fault]
      exact goalIdSafe_congr fun n => documented_createTask (h.limited .tasksCreate u)

theorem tasksList_answers :
    Documented i w (Tasks.List.handleRequestJsonThrow cfg request ⟨some u⟩) ↔
      (w.admits i .tasksList u = true → GoalIdSafe w u request.goalId fun n =>
        ∀ r ∈ w.pg.tasks.rows, r.goalId = n → r.Converts cfg.narrowing) := by
  unfold Tasks.List.handleRequestJsonThrow
  rw [documented_prologue]
  refine imp_congr_right fun _ => ?_
  rw [documented_withOwnGoal h.fault]
  exact goalIdSafe_congr fun n => documented_getByGoal h.fault

theorem tasksUpdateStatus_answers :
    Documented i w (Tasks.UpdateTaskStatus.handleRequestJsonThrow cfg request ⟨some u⟩) ↔
      (w.admits i .tasksUpdateStatus u = true →
        ∀ n t, parseInt request.goalId 0 = (true, n) → parseInt request.taskId 0 = (true, t) →
          ∃ oid, Oid.ofString request.goalId = .ok oid ∧
            (oid ∈ w.goals.docs.map GoalDoc.id → ∀ status,
              UpdateTaskStatusRequest.parse request.body = .ok ⟨status⟩ → status ∈ taskStatuses →
                ∀ r ∈ w.pg.tasks.rows, r.hit n t = true → r.Converts cfg.narrowing)) := by
  unfold Tasks.UpdateTaskStatus.handleRequestJsonThrow
  rw [documented_prologue]
  refine imp_congr_right fun _ => ?_
  rcases hg : parseInt request.goalId 0 with ⟨goalOk, n⟩
  rcases ht : parseInt request.taskId 0 with ⟨taskOk, t⟩
  dsimp only
  by_cases hok : (!goalOk || !taskOk) = true
  · rw [if_pos hok]
    constructor
    · intro _ n' t' hn' ht'
      rw [(Prod.mk.inj hn').1, (Prod.mk.inj ht').1] at hok
      simp at hok
    · intro _
      exact documented_ret.2 (by decide)
  · rw [if_neg hok]
    obtain ⟨rfl, rfl⟩ : goalOk = true ∧ taskOk = true := by simpa using hok
    simp only [Prod.mk.injEq, true_and, forall_eq', forall_apply_eq_imp_iff]
    rw [Prog.bind_eq, documented_getById h.fault]
    refine exists_congr fun oid => and_congr_right fun _ => ?_
    rw [World.limited_goals]
    rcases Rows.find_cases w.goals.idKey oid with ⟨hfind, hno⟩ | ⟨doc, hdoc, hid, hfind, -⟩
    · rw [hfind]
      constructor
      · intro _ hmem
        obtain ⟨doc, hdoc, hid⟩ := List.mem_map.1 hmem
        exact absurd hid (hno doc hdoc)
      · intro _
        exact documented_ret.2 (by decide)
    · have hmem : oid ∈ w.goals.docs.map GoalDoc.id := List.mem_map.2 ⟨doc, hdoc, hid⟩
      rw [hfind, imp_iff_right hmem]
      dsimp only [Option.map_some]
      cases hb : UpdateTaskStatusRequest.parse request.body with
      | error e =>
        -- here the body's exception is caught
        constructor
        · intro _ status hno
          simp at hno
        · intro _
          exact documented_ret.2 (by decide)
      | ok body =>
        obtain ⟨status⟩ := body
        simp only [Except.ok.injEq, UpdateTaskStatusRequest.mk.injEq, forall_eq']
        exact (documented_updateStatus h.fault : Documented i (w.limited i .tasksUpdateStatus u) _ ↔ _)

end

/-- **Where no exception escapes.** With healthy stores, a request of an authenticated user to
goals-create, tasks-create, tasks-list or task-status-update is answered with a documented
status if and only if it is safe. -/
theorem answers_documented_iff (cfg : Config D) (h : Healthy i w) (u : UserId) {request : HttpRequest}
    (he : request.endpoint ∈ [.goalsCreate, .tasksCreate, .tasksList, .tasksUpdateStatus]) :
    Documented i w (dispatch cfg request ⟨some u⟩) ↔ SafeWhen cfg i w u request := by
  simp only [List.mem_cons, List.not_mem_nil, or_false] at he
  unfold dispatch SafeWhen
  rcases he with he | he | he | he <;> rw [he]
  · exact goalsCreate_answers h request
  · exact tasksCreate_answers cfg h request
  · exact tasksList_answers cfg h request
  · exact tasksUpdateStatus_answers cfg h request

theorem doneWorld_healthy : Healthy {} doneWorld := ⟨fun _ => rfl, by decide, 2, rfl, by decide⟩

theorem done_answers_iff :
    Documented {} doneWorld (dispatch (clearConfig .throws) doneRequest ⟨some 1⟩) ↔
      SafeWhen (clearConfig .throws) {} doneWorld 1 doneRequest :=
  answers_documented_iff (clearConfig .throws) doneWorld_healthy 1 (by decide)

/-- The tasks of goal `1`, which is a number but no object id. -/
def shortGoalRequest : HttpRequest where
  endpoint := .tasksList
  goalId := "1"

/-- The list of a goal's tasks is answered 500 when the goal id is a number of fewer than 24
digits. -/
theorem shortGoal_escapes :
    Healthy {} doneWorld ∧
      ¬ Documented {} doneWorld (dispatch (clearConfig .throws) shortGoalRequest ⟨some 1⟩) := by
  refine ⟨⟨fun _ => rfl, by decide, 2, rfl, by decide⟩, ?_⟩
  rintro ⟨r, hr, -⟩
  have herr : ((dispatch (clearConfig .throws) shortGoalRequest ⟨some 1⟩).run (World.exec {}) doneWorld).1 =
      .error .invalidOid := rfl
  rw [herr] at hr
  simp at hr

end Leadertask
