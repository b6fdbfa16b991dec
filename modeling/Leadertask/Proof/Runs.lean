import Leadertask.Model.Views
import Leadertask.Proof.Statements

/-!
# Handlers run alone

What the repository functions and the handlers do when nothing else runs: for the two
prologues, for each repository function and then for each handler that writes, its two
outcomes. Either the stores are untouched and the answer is no success, or the single
write took effect.

* `run_reads`: a program of reading operations leaves the stores alone.
* `Signup.run_cases`, `Goals.Create.run_cases`, `Tasks.Create.run_cases`,
  `Tasks.UpdateTaskStatus.run_cases`: the two outcomes of a writing handler.
-/

namespace Leadertask

open Atomic

variable {D : Type} {cfg : Config D} {i : Input} {w w' : World}

/-! ## Operations -/

/-- A program of reading operations leaves the stores alone. -/
theorem run_reads {α : Type} {p : Prog Op Op.Ret Exn α} (h : p.Uses fun o => o.reads = true) :
    (p.run (World.exec i) w).2.stores = w.stores :=
  Prog.run_of_uses (World.exec i) (fun w w' : World => w'.stores = w.stores) (fun _ => rfl)
    (fun _ _ _ h h' => h'.trans h) (fun _ ho _ => World.exec_reads ho) h w

/-! ## The prologues -/

namespace World

/-- Does the handler's `CheckRateLimit` admit the user? -/
def admits (w : World) (i : Input) (e : Endpoint) (u : UserId) : Bool :=
  (checkRateLimit (w.rateLimits e) u i.now i.created).1.1

/-- The world after that call. -/
def limited (w : World) (i : Input) (e : Endpoint) (u : UserId) : World :=
  (World.exec i (.checkRateLimit e u) w).2

@[simp] theorem limited_pg (e : Endpoint) (u : UserId) : (w.limited i e u).pg = w.pg := rfl

@[simp] theorem limited_goals (e : Endpoint) (u : UserId) : (w.limited i e u).goals = w.goals := rfl

/-- A handler's calls do not count against another one's limit. -/
theorem limited_admits {e e' : Endpoint} (he : e' ≠ e) (i i' : Input) (u u' : UserId) :
    (w.limited i e u).admits i' e' u' = w.admits i' e' u' := by
  simp only [admits, limited, World.exec, Function.update_of_ne he]

end World

/-- The world with another Postgres database. -/
def World.setPg (w : World) (pg : Postgres) : World := { w with pg := pg }

@[simp] theorem World.setPg_pg (pg : Postgres) : (w.setPg pg).pg = pg := rfl

theorem rateLimited_run (e : Endpoint) (u : UserId) (k : Handler HttpResponse) :
    (rateLimited e u k).run (World.exec i) w =
      if w.admits i e u then k.run (World.exec i) (w.limited i e u)
      else (.ok (rateLimitExceeded (checkRateLimit (w.rateLimits e) u i.now i.created).1.2),
        w.limited i e u) := by
  unfold rateLimited World.admits World.limited
  simp only [Prog.bind_eq, Prog.run_andThen, Prog.run_perform, World.exec]
  split <;> rfl

/-! ## The repositories -/

/-- `FindOne` by a text: the document, or why there is none to be had. -/
def World.findGoal (w : World) (i : Input) (id : String) : Except Exn (Option GoalDoc) := do
  let oid ← Oid.ofString id
  if i.fault (.mongo (.findOne oid)) then throw .storeFailure
  else return w.goals.docs.find? (·.id = oid)

theorem World.findGoal_ok {id : String} {oid : Oid} (h : Oid.ofString id = .ok oid)
    (hf : i.fault (.mongo (.findOne oid)) = false) :
    w.findGoal i id = .ok (w.goals.docs.find? (·.id = oid)) := by
  simp [World.findGoal, h, hf, bind, Except.bind, pure, Except.pure]

theorem GoalsRepository.getById_run (id : String) :
    (GoalsRepository.getById id).run (World.exec i) w =
      ((w.findGoal i id).map (Option.map GoalsRepository.readGoal), w) := by
  unfold GoalsRepository.getById World.findGoal mongo
  cases h : Oid.ofString id with
  | error e => rfl
  | ok oid =>
    simp only [Prog.ofExcept_ok, Prog.ret_andThen, Prog.run_andThen, Prog.run_perform, World.exec,
      bind, Except.bind]
    cases hf : i.fault (.mongo (.findOne oid)) with
    | true => rfl
    | false => rfl

/-- A signup's insert: a new row and its id, or nothing done. -/
theorem UsersRepository.createUser_run (login password firstName lastName : String) :
    (∃ id pg', w.pg.insertUser i login password firstName lastName = .ok (id, pg') ∧
      (UsersRepository.createUser login password firstName lastName).run (World.exec i) w =
        (.ok (some ⟨id⟩), { w with pg := pg' })) ∨
    ∃ r, (UsersRepository.createUser login password firstName lastName).run (World.exec i) w =
      (r, w) ∧ ∀ u, r ≠ .ok (some u) := by
  unfold UsersRepository.createUser execute
  simp only [Prog.bind_eq, Prog.tryCatch_eq, Prog.run_catching, Prog.run_andThen, Prog.run_perform,
    World.exec]
  cases hf : i.fault (.execute .kMaster (.insertUser login password firstName lastName)) with
  | true => exact .inr ⟨_, rfl, by simp⟩
  | false =>
    cases h : w.pg.insertUser i login password firstName lastName with
    | error e =>
      simp only [Postgres.exec, h, atomically, Prog.pure_eq, Prog.throw_eq]
      cases e with
      -- caught and answered `none`; the others are thrown on
      | uniqueViolation => exact .inr ⟨_, rfl, by simp⟩
      | _ => exact .inr ⟨_, rfl, by simp⟩
    | ok p => exact .inl ⟨p.1, p.2, rfl, by simp [Postgres.exec, h, atomically]⟩

theorem GoalsRepository.createGoal_run (u : UserId) (title : String) (description : Option String) :
    (∃ goals', w.goals.insertOne ⟨i.oid, title, u, description⟩ = .ok ((), goals') ∧
      (GoalsRepository.createGoal u title description).run (World.exec i) w =
        (.ok ⟨some i.oid.toString, some title, some (description.getD ""), some u.toInt32⟩,
          { w with goals := goals' })) ∨
    ∃ e, (GoalsRepository.createGoal u title description).run (World.exec i) w = (.error e, w) := by
  simp only [GoalsRepository.createGoal, mongo, Prog.bind_eq, Prog.run_andThen, Prog.run_perform,
    World.exec]
  cases hf : i.fault (.mongo (.insertOne ⟨i.oid, title, u, description⟩)) with
  | true => exact .inr ⟨_, rfl⟩
  | false =>
    cases h : w.goals.insertOne ⟨i.oid, title, u, description⟩ with
    | error e => exact .inr ⟨e, by simp [GoalsCollection.exec, h, atomically]⟩
    | ok p => exact .inl ⟨p.2, rfl, by simp [GoalsCollection.exec, h, atomically]⟩

/-- A goal under a new object id goes through. -/
theorem GoalsRepository.createGoal_new (u : UserId) (title : String) (description : Option String)
    (hf : i.fault (.mongo (.insertOne ⟨i.oid, title, u, description⟩)) = false)
    (hnew : i.oid ∉ w.goals.docs.map GoalDoc.id) :
    (GoalsRepository.createGoal u title description).run (World.exec i) w =
      (.ok ⟨some i.oid.toString, some title, some (description.getD ""), some u.toInt32⟩,
        { w with goals :=
          ⟨w.goals.docs ++ [⟨i.oid, title, u, description⟩], Rows.nodup_append w.goals.idKey hnew⟩ }) := by
  have hins : w.goals.insertOne ⟨i.oid, title, u, description⟩ =
      .ok ((), ⟨_, Rows.nodup_append w.goals.idKey hnew⟩) := dif_pos hnew
  simp only [GoalsRepository.createGoal, mongo, Prog.bind_eq, Prog.run_andThen, Prog.run_perform,
    World.exec, hf, Bool.false_eq_true, if_false, GoalsCollection.exec, hins, atomically]
  rfl

/-- Both numbers of the row can be read. -/
def TaskRow.Converts (m : Narrowing) (r : TaskRow) : Prop := m.Reads r.id ∧ m.Reads r.goalId

instance (m : Narrowing) (r : TaskRow) : Decidable (r.Converts m) :=
  inferInstanceAs (Decidable (_ ∧ _))

/-- The row with its numbers narrowed. -/
def TaskRow.toTask (r : TaskRow) : Task := ⟨r.id.toInt32, r.goalId.toInt32, r.title, r.status⟩

/-- A row as `Task`: its numbers narrowed, unless one of them does not fit. -/
theorem TasksRepository.readTask_eq (cfg : Config D) (r : TaskRow) :
    readTask cfg r = if r.Converts cfg.narrowing then .ok r.toTask else .error .narrowingOverflow := by
  unfold readTask TaskRow.Converts TaskRow.toTask
  rw [Narrowing.readInt_eq, Narrowing.readInt_eq]
  by_cases h1 : cfg.narrowing.Reads r.id
  · by_cases h2 : cfg.narrowing.Reads r.goalId
    · simp [h1, h2, bind, Except.bind, pure, Except.pure]
    · simp [h1, h2, bind, Except.bind]
  · simp [h1, bind, Except.bind]

/-- All rows convert, or the list fails. -/
theorem TasksRepository.mapM_readTask (cfg : Config D) (rows : List TaskRow) :
    rows.mapM (readTask cfg) = if ∀ r ∈ rows, r.Converts cfg.narrowing then .ok (rows.map TaskRow.toTask)
      else .error .narrowingOverflow :=
  mapM_ite (readTask_eq cfg) rows

theorem TasksRepository.readCreateTaskResponseBody_eq (cfg : Config D) (r : TaskRow) :
    readCreateTaskResponseBody cfg r =
      (readTask cfg r).map fun t => ⟨t.id, t.goalId, t.title, t.status⟩ := by
  unfold readTask readCreateTaskResponseBody
  cases cfg.narrowing.readInt r.id with
  | error e => rfl
  | ok a => cases cfg.narrowing.readInt r.goalId <;> rfl

theorem TasksRepository.createTask_eq (cfg : Config D) (goalId : Int64) (title : String) :
    (TasksRepository.createTask cfg goalId title).run (World.exec i) w =
      if i.fault (.execute .kMaster (.insertTask goalId title)) then (.error .storeFailure, w)
      else match w.pg.insertTask i goalId title with
        | .error e => (.error e, w)
        | .ok (row, pg') => (readCreateTaskResponseBody cfg row, { w with pg := pg' }) := by
  simp only [TasksRepository.createTask, execute, Prog.bind_eq, Prog.run_andThen, Prog.run_perform,
    World.exec]
  cases hf : i.fault (.execute .kMaster (.insertTask goalId title)) with
  | true => rfl
  | false =>
    cases h : w.pg.insertTask i goalId title with
    | error e => simp [Postgres.exec, h, atomically]
    | ok p => simp [Postgres.exec, h, atomically]

theorem TasksRepository.createTask_run (cfg : Config D) (goalId : Int64) (title : String) :
    (∃ row pg', w.pg.insertTask i goalId title = .ok (row, pg') ∧
      (TasksRepository.createTask cfg goalId title).run (World.exec i) w =
        (TasksRepository.readCreateTaskResponseBody cfg row, { w with pg := pg' })) ∨
    (∃ e, (TasksRepository.createTask cfg goalId title).run (World.exec i) w = (.error e, w)) ∧
      (i.fault (.execute .kMaster (.insertTask goalId title)) = true ∨
        ∃ e, w.pg.insertTask i goalId title = .error e) := by
  rw [createTask_eq]
  cases hf : i.fault (.execute .kMaster (.insertTask goalId title)) with
  | true => exact .inr ⟨⟨_, rfl⟩, .inl rfl⟩
  | false =>
    cases h : w.pg.insertTask i goalId title with
    | error e => exact .inr ⟨⟨e, rfl⟩, .inr ⟨e, rfl⟩⟩
    | ok p => exact .inl ⟨p.1, p.2, rfl, rfl⟩

theorem mem_taskStatuses {status : String} :
    status ∈ taskStatuses ↔ ¬ (status ≠ "todo" ∧ status ≠ "in_progress" ∧ status ≠ "done") := by
  simp only [taskStatuses, List.mem_cons, List.not_mem_nil, or_false]
  constructor
  · rintro (rfl | rfl | rfl) <;> simp
  · intro h
    by_contra hno
    simp only [not_or] at hno
    exact h hno

/-- An update that meets a row. -/
theorem TasksRepository.updateStatus_hit {taskId goalId : Int64} {status : String} {r : TaskRow}
    (hs : status ∈ taskStatuses)
    (hf : i.fault (.execute .kMaster (.updateTaskStatus taskId goalId status)) = false)
    (hr : r ∈ w.pg.tasks.rows) (hh : r.hit taskId goalId = true) :
    (TasksRepository.updateStatus cfg taskId goalId status).run (World.exec i) w =
      ((readTask cfg (r.withStatus status)).map some,
        { w with pg := { w.pg with tasks := w.pg.tasks.setStatus taskId goalId status hs } }) := by
  unfold TasksRepository.updateStatus execute
  rw [if_neg (mem_taskStatuses.1 hs)]
  simp only [Prog.run_andThen, Prog.run_perform, World.exec, hf, Bool.false_eq_true, if_false,
    Postgres.exec, Postgres.updateTaskStatus_hit hs hr hh, atomically, List.isEmpty_cons,
    Prog.run_ofExcept, asSingleRow, bind, Except.bind]
  cases readTask cfg (r.withStatus status) <;> rfl

/-- An update that meets no row. -/
theorem TasksRepository.updateStatus_none (cfg : Config D) {taskId goalId : Int64} {status : String}
    (hs : status ∈ taskStatuses)
    (hf : i.fault (.execute .kMaster (.updateTaskStatus taskId goalId status)) = false)
    (h : ∀ r ∈ w.pg.tasks.rows, r.hit taskId goalId = false) :
    (TasksRepository.updateStatus cfg taskId goalId status).run (World.exec i) w = (.ok none, w) := by
  unfold TasksRepository.updateStatus execute
  rw [if_neg (mem_taskStatuses.1 hs)]
  simp [World.exec, hf, Postgres.exec, Postgres.updateTaskStatus_none hs h, atomically]

/-- A status that is none of the three: no statement is sent. -/
theorem TasksRepository.updateStatus_unknown (cfg : Config D) {taskId goalId : Int64} {status : String}
    (hs : status ∉ taskStatuses) :
    (TasksRepository.updateStatus cfg taskId goalId status).run (World.exec i) w = (.ok none, w) := by
  unfold TasksRepository.updateStatus
  rw [if_pos (not_not.1 (mt mem_taskStatuses.2 hs))]
  rfl

/-- An update that the store fails to run. -/
theorem TasksRepository.updateStatus_fault (cfg : Config D) {taskId goalId : Int64} {status : String}
    (hs : status ∈ taskStatuses)
    (hf : i.fault (.execute .kMaster (.updateTaskStatus taskId goalId status)) = true) :
    (TasksRepository.updateStatus cfg taskId goalId status).run (World.exec i) w =
      (.error .storeFailure, w) := by
  unfold TasksRepository.updateStatus execute
  rw [if_neg (mem_taskStatuses.1 hs)]
  simp [World.exec, hf]

/-- An update that meets no row, or that the repository does not send, or that fails. -/
theorem TasksRepository.updateStatus_miss (cfg : Config D) (taskId goalId : Int64) (status : String)
    (h : status ∈ taskStatuses →
      i.fault (.execute .kMaster (.updateTaskStatus taskId goalId status)) = false →
      ∀ r ∈ w.pg.tasks.rows, r.hit taskId goalId = false) :
    ∃ r, (TasksRepository.updateStatus cfg taskId goalId status).run (World.exec i) w = (r, w) ∧
      (r = .ok none ∨ r = .error .storeFailure) := by
  by_cases hs : status ∈ taskStatuses
  · cases hf : i.fault (.execute .kMaster (.updateTaskStatus taskId goalId status)) with
    | true => exact ⟨_, updateStatus_fault cfg hs hf, .inr rfl⟩
    | false => exact ⟨_, updateStatus_none cfg hs hf (h hs hf), .inl rfl⟩
  · exact ⟨_, updateStatus_unknown cfg hs, .inl rfl⟩

/-! ## The handlers that write -/

/-- The stores are as in `w` and the answer is no success. -/
def Untouched (w : World) (p : Except Exn HttpResponse × World) : Prop :=
  p.2.stores = w.stores ∧ ¬ IsSuccess p.1

theorem untouched_error (e : Exn) (h : w'.stores = w.stores) : Untouched w (.error e, w') :=
  ⟨h, not_isSuccess_error e⟩

theorem untouched_makeError {status : HttpStatus} {msg : String} (h : w'.stores = w.stores)
    (hs : status ≠ .kOk ∧ status ≠ .kCreated) : Untouched w (.ok (makeError status msg), w') :=
  ⟨h, not_isSuccess_makeError hs⟩

theorem untouched_rateLimit {remaining : ℤ} (h : w'.stores = w.stores) :
    Untouched w (.ok (rateLimitExceeded remaining), w') :=
  ⟨h, not_isSuccess_rateLimitExceeded remaining⟩

/-- What holds after the two prologues: it holds of their own answers, and of the rest for the
user whom they let through. -/
theorem prologue_iff {P : Except Exn HttpResponse × World → Prop} {e : Endpoint} {msg : String}
    {k : UserId → Handler HttpResponse} (h401 : P (.ok (makeError .kUnauthorized msg), w))
    (h429 : ∀ u remaining, P (.ok (rateLimitExceeded remaining), w.limited i e u)) :
    P ((withUserId ctx msg fun u => rateLimited e u (k u)).run (World.exec i) w) ↔
      ∀ u, ctx.userData = some u → w.admits i e u = true →
        P ((k u).run (World.exec i) (w.limited i e u)) := by
  unfold withUserId RequestContext.getUserData
  cases hu : ctx.userData with
  | none => simpa using h401
  | some u =>
    simp only [rateLimited_run, Option.some.injEq, forall_eq']
    cases ha : w.admits i e u with
    | false => simpa using h429 u _
    | true => simp

/-- Past the two prologues: turned away with nothing touched, or on with the user. -/
theorem admitted_cases (e : Endpoint) (ctx : RequestContext) (msg : String)
    (k : UserId → Handler HttpResponse) :
    Untouched w ((withUserId ctx msg fun u => rateLimited e u (k u)).run (World.exec i) w) ∨
      ∃ u, ctx.userData = some u ∧ w.admits i e u = true ∧
        (withUserId ctx msg fun u => rateLimited e u (k u)).run (World.exec i) w =
          (k u).run (World.exec i) (w.limited i e u) := by
  refine (prologue_iff (P := fun p => Untouched w p ∨ ∃ u, ctx.userData = some u ∧
    w.admits i e u = true ∧ p = (k u).run (World.exec i) (w.limited i e u)) ?_ ?_).2 ?_
  · exact .inl (untouched_makeError rfl (by decide))
  · intro u remaining
    exact .inl (untouched_rateLimit rfl)
  · intro u hu ha
    exact .inr ⟨u, hu, ha, rfl⟩

@[simp] theorem optionalNe_readGoal {doc : GoalDoc} {u : UserId} :
    optionalNe (GoalsRepository.readGoal doc).userId u = true ↔ doc.userId.toInt32.toInt64 ≠ u :=
  bne_iff_ne

/-- The owner of a goal whose id begins with a number. -/
theorem withOwnGoal_own {u : UserId} {g : String} {k : Int64 → Handler HttpResponse} {n : Int64}
    {pos : ℕ} {doc : GoalDoc} (hn : stoll g = .ok (n, pos)) (hd : w.findGoal i g = .ok (some doc))
    (ho : doc.userId.toInt32.toInt64 = u) :
    (withOwnGoal u g k).run (World.exec i) w = (k n).run (World.exec i) w := by
  simp only [withOwnGoal, hn, Prog.bind_eq, Prog.run_andThen, GoalsRepository.getById_run, hd,
    Except.map, Option.map_some]
  rw [if_neg (by simp [ho])]

/-- What holds after the ownership check, the same way; a user who is not the owner, going by
the narrowed id, is told that the goal is not there. -/
theorem withOwnGoal_iff {P : Except Exn HttpResponse × World → Prop} {u : UserId} {g : String}
    {k : Int64 → Handler HttpResponse} (h400 : P (.ok (makeError .kBadRequest "invalid goalId"), w))
    (hfails : ∀ e, w.findGoal i g = .error e → P (.error e, w))
    (h404 : P (.ok (makeError .kNotFound "goal not found in your account"), w)) :
    P ((withOwnGoal u g k).run (World.exec i) w) ↔
      ∀ n pos doc, stoll g = .ok (n, pos) → w.findGoal i g = .ok (some doc) →
        if doc.userId.toInt32.toInt64 = u then P ((k n).run (World.exec i) w)
        else P (.ok (makeError .kNotFound "goal not found"), w) := by
  unfold withOwnGoal
  cases hn : stoll g with
  | error e => simpa using h400
  | ok p =>
    obtain ⟨n, pos⟩ := p
    simp only [Prog.bind_eq, Prog.run_andThen, GoalsRepository.getById_run, Except.ok.injEq,
      Prod.mk.injEq, and_imp]
    cases hd : w.findGoal i g with
    | error e => simpa [Except.map] using hfails e hd
    | ok found =>
      cases found with
      | none => simpa [Except.map] using h404
      | some doc =>
        by_cases ho : doc.userId.toInt32.toInt64 = u
        · simp [Except.map, optionalNe_readGoal, ho]
        · simp [Except.map, optionalNe_readGoal, ho]

/-- Past the ownership check: turned away with nothing touched, or on with the number. -/
theorem withOwnGoal_cases (u : UserId) (g : String) (k : Int64 → Handler HttpResponse) :
    Untouched w ((withOwnGoal u g k).run (World.exec i) w) ∨
      ∃ n pos doc, stoll g = .ok (n, pos) ∧ w.findGoal i g = .ok (some doc) ∧
        doc.userId.toInt32.toInt64 = u ∧
        (withOwnGoal u g k).run (World.exec i) w = (k n).run (World.exec i) w := by
  refine (withOwnGoal_iff (P := fun p => Untouched w p ∨ ∃ n pos doc, stoll g = .ok (n, pos) ∧
    w.findGoal i g = .ok (some doc) ∧ doc.userId.toInt32.toInt64 = u ∧
    p = (k n).run (World.exec i) w) ?_ ?_ ?_).2 ?_
  · exact .inl (untouched_makeError rfl (by decide))
  · intro e _
    exact .inl (untouched_error e rfl)
  · exact .inl (untouched_makeError rfl (by decide))
  · intro n pos doc hn hd
    by_cases ho : doc.userId.toInt32.toInt64 = u
    · rw [if_pos ho]
      exact .inr ⟨n, pos, doc, hn, hd, ho, rfl⟩
    · rw [if_neg ho]
      exact .inl (untouched_makeError rfl (by decide))

/-- Turning exceptions into 400 touches nothing more. -/
theorem Untouched.catching {p : Handler HttpResponse} {msg : Exn → String}
    (h : Untouched w (p.run (World.exec i) w)) :
    Untouched w ((p.catching fun e => .ret (makeError .kBadRequest (msg e))).run (World.exec i) w) := by
  rw [Prog.run_catching]
  revert h
  rcases p.run (World.exec i) w with ⟨_ | _, w'⟩
  · exact fun h => untouched_makeError h.1 (by decide)
  · exact id

theorem Signup.run_cases (cfg : Config D) (request : HttpRequest) :
    Untouched w ((Signup.handleRequestJsonThrow cfg request).run (World.exec i) w) ∨
      ∃ body id pg', CreateUserRequestBody.parse request.body = .ok body ∧
        w.pg.insertUser i body.login body.password body.firstName body.lastName = .ok (id, pg') ∧
        (Signup.handleRequestJsonThrow cfg request).run (World.exec i) w =
          (.ok { payload := .createdUser ⟨id⟩ }, { w with pg := pg' }) := by
  unfold Signup.handleRequestJsonThrow
  simp only [Prog.bind_eq, Prog.tryCatch_eq, Prog.pure_eq]
  cases hb : CreateUserRequestBody.parse request.body with
  | error e => exact .inl (untouched_makeError rfl (by decide))
  | ok body =>
    simp only [Prog.ofExcept_ok, Prog.ret_andThen]
    by_cases hempty : (body.login.isEmpty || body.password.isEmpty || body.firstName.isEmpty ||
        body.lastName.isEmpty) = true
    · left
      rw [if_pos hempty]
      exact untouched_makeError rfl (by decide)
    · rw [if_neg hempty]
      rcases UsersRepository.createUser_run (i := i) (w := w) body.login body.password
        body.firstName body.lastName with ⟨id, pg', hins, hrun⟩ | ⟨r, hrun, hr⟩
      · exact .inr ⟨body, id, pg', rfl, hins, by simp [hrun]⟩
      · left
        -- what the repository threw becomes a 400 in the handler
        apply Untouched.catching
        rw [Prog.run_andThen, hrun]
        rcases r with e | _ | u
        · exact untouched_error e rfl
        · exact untouched_makeError rfl (by decide)
        · exact absurd rfl (hr u)

theorem Goals.Create.run_cases (request : HttpRequest) (ctx : RequestContext) :
    Untouched w ((Goals.Create.handleRequestJsonThrow request ctx).run (World.exec i) w) ∨
      ∃ u body goals', ctx.userData = some u ∧ CreateGoalRequestBody.parse request.body = .ok body ∧
        w.goals.insertOne ⟨i.oid, body.title, u, some (body.description.getD "")⟩ = .ok ((), goals') ∧
        (Goals.Create.handleRequestJsonThrow request ctx).run (World.exec i) w =
          (.ok { status := .kCreated, payload := .createdGoal ⟨some i.oid.toString, some body.title,
              some (body.description.getD ""), some u.toInt32⟩ },
            { w.limited i .goalsCreate u with goals := goals' }) := by
  unfold Goals.Create.handleRequestJsonThrow
  cases hb : CreateGoalRequestBody.parse request.body with
  | error e => exact .inl (untouched_error e rfl)
  | ok body =>
    simp only [Prog.bind_eq, Prog.ofExcept_ok, Prog.ret_andThen]
    by_cases hempty : body.title.isEmpty = true
    · left
      rw [if_pos hempty]
      exact untouched_makeError rfl (by decide)
    rw [if_neg hempty]
    rcases admitted_cases (i := i) (w := w) .goalsCreate ctx _ _ with h | ⟨u, hu, -, hrun⟩
    · exact .inl h
    rw [hrun, Prog.run_andThen]
    rcases GoalsRepository.createGoal_run (i := i) (w := w.limited i .goalsCreate u) u body.title
      (some (body.description.getD "")) with ⟨goals', hins, hrun⟩ | ⟨e, hrun⟩
    · exact .inr ⟨u, body, goals', hu, rfl, hins, by rw [hrun]; rfl⟩
    · rw [hrun]; exact .inl (untouched_error e rfl)

/-- What tasks-create answers with a row. -/
def Tasks.Create.answer (cfg : Config D) (row : TaskRow) : Except Exn HttpResponse :=
  (TasksRepository.readCreateTaskResponseBody cfg row).map fun t =>
    { status := .kCreated, payload := .task t }

theorem Tasks.Create.run_cases (cfg : Config D) (request : HttpRequest) (ctx : RequestContext) :
    Untouched w ((Tasks.Create.handleRequestJsonThrow cfg request ctx).run (World.exec i) w) ∨
      ∃ u body n pos doc row pg', ctx.userData = some u ∧
        CreateTaskRequestBody.parse request.body = .ok body ∧
        stoll request.goalId = .ok (n, pos) ∧ w.findGoal i request.goalId = .ok (some doc) ∧
        doc.userId.toInt32.toInt64 = u ∧ w.pg.insertTask i n body.title = .ok (row, pg') ∧
        (Tasks.Create.handleRequestJsonThrow cfg request ctx).run (World.exec i) w =
          (Tasks.Create.answer cfg row, (w.limited i .tasksCreate u).setPg pg') := by
  unfold Tasks.Create.handleRequestJsonThrow
  cases hb : CreateTaskRequestBody.parse request.body with
  | error e => exact .inl (untouched_error e rfl)
  | ok body =>
    simp only [Prog.bind_eq, Prog.ofExcept_ok, Prog.ret_andThen]
    by_cases hempty : body.title.isEmpty = true
    · left
      rw [if_pos hempty]
      exact untouched_makeError rfl (by decide)
    rw [if_neg hempty]
    rcases admitted_cases (i := i) (w := w) .tasksCreate ctx _ _ with h | ⟨u, hu, -, hrun⟩
    · exact .inl h
    rw [hrun]
    rcases withOwnGoal_cases (i := i) (w := w.limited i .tasksCreate u) u request.goalId _ with
      h | ⟨n, pos, doc, hn, hd, ho, hrun⟩
    · exact .inl h
    rw [hrun, Prog.run_andThen]
    rcases TasksRepository.createTask_run (i := i) (w := w.limited i .tasksCreate u) cfg n
      body.title with ⟨row, pg', hins, hrun⟩ | ⟨⟨e, hrun⟩, -⟩
    · refine .inr ⟨u, body, n, pos, doc, row, pg', hu, rfl, hn, hd, ho, hins, ?_⟩
      rw [hrun, Tasks.Create.answer]
      cases TasksRepository.readCreateTaskResponseBody cfg row <;> rfl
    · rw [hrun]; exact .inl (untouched_error e rfl)

/-- Tasks-create by the owner, with an insert that goes through. -/
theorem Tasks.Create.run_own (cfg : Config D) (request : HttpRequest) {u : UserId}
    {body : CreateTaskRequestBody} {n : Int64} {pos : ℕ} {doc : GoalDoc} {row : TaskRow}
    {pg' : Postgres} (hb : CreateTaskRequestBody.parse request.body = .ok body)
    (ht : body.title.isEmpty = false) (ha : w.admits i .tasksCreate u = true)
    (hn : stoll request.goalId = .ok (n, pos)) (hd : w.findGoal i request.goalId = .ok (some doc))
    (ho : doc.userId.toInt32.toInt64 = u)
    (hf : i.fault (.execute .kMaster (.insertTask n body.title)) = false)
    (hins : w.pg.insertTask i n body.title = .ok (row, pg')) :
    (Tasks.Create.handleRequestJsonThrow cfg request ⟨some u⟩).run (World.exec i) w =
      (Tasks.Create.answer cfg row, (w.limited i .tasksCreate u).setPg pg') := by
  simp only [Tasks.Create.handleRequestJsonThrow, hb, Prog.bind_eq, Prog.ofExcept_ok,
    Prog.ret_andThen, ht, Bool.false_eq_true, if_false, withUserId, RequestContext.getUserData,
    rateLimited_run, ha, if_true]
  rw [withOwnGoal_own (w := w.limited i .tasksCreate u) hn hd ho, Prog.run_andThen]
  rcases TasksRepository.createTask_run (i := i) (w := w.limited i .tasksCreate u) cfg n
    body.title with ⟨row', pg'', hins', hrun⟩ | ⟨-, hno | ⟨e, hno⟩⟩
  · obtain ⟨rfl, rfl⟩ := Prod.mk.inj (Except.ok.inj (hins.symm.trans hins'))
    rw [hrun, Tasks.Create.answer]
    cases TasksRepository.readCreateTaskResponseBody cfg row <;> rfl
  · rw [hf] at hno; simp at hno
  · rw [World.limited_pg, hins] at hno; simp at hno

/-! ## The task list -/

/-- What tasks-list answers with the rows. -/
def Tasks.List.answer (cfg : Config D) (rows : List TaskRow) : Except Exn HttpResponse :=
  (rows.mapM (TasksRepository.readTask cfg)).map fun ts => { payload := .tasks ts }

theorem TasksRepository.getByGoal_run (cfg : Config D) (goalId : Int64) :
    (TasksRepository.getByGoal cfg goalId).run (World.exec i) w =
      (if i.fault (.execute .kSlave (.selectTasksByGoal goalId)) then .error .storeFailure
        else (w.pg.selectTasksByGoal i goalId).mapM (readTask cfg), w) := by
  simp only [TasksRepository.getByGoal, execute, Prog.bind_eq, Prog.run_andThen, Prog.run_perform,
    World.exec]
  cases hf : i.fault (.execute .kSlave (.selectTasksByGoal goalId)) with
  | true => rfl
  | false => simp [Postgres.exec]

theorem Tasks.List.run_own (cfg : Config D) (request : HttpRequest) {u : UserId} {n : Int64}
    {pos : ℕ} {doc : GoalDoc} (ha : w.admits i .tasksList u = true)
    (hn : stoll request.goalId = .ok (n, pos)) (hd : w.findGoal i request.goalId = .ok (some doc))
    (ho : doc.userId.toInt32.toInt64 = u)
    (hf : i.fault (.execute .kSlave (.selectTasksByGoal n)) = false) :
    (Tasks.List.handleRequestJsonThrow cfg request ⟨some u⟩).run (World.exec i) w =
      (Tasks.List.answer cfg (w.pg.selectTasksByGoal i n), w.limited i .tasksList u) := by
  simp only [Tasks.List.handleRequestJsonThrow, withUserId, RequestContext.getUserData,
    rateLimited_run, ha, if_true]
  rw [withOwnGoal_own (w := w.limited i .tasksList u) hn hd ho]
  simp only [Prog.bind_eq, Prog.run_andThen, TasksRepository.getByGoal_run, hf, Bool.false_eq_true,
    if_false, World.limited_pg, Tasks.List.answer]
  cases (w.pg.selectTasksByGoal i n).mapM (TasksRepository.readTask cfg) <;> rfl

/-! ## The status update -/

/-- Both path parameters are numbers. -/
structure PathNumbers (request : HttpRequest) (G T : Int64) : Prop where
  goal : parseInt request.goalId 0 = (true, G)
  task : parseInt request.taskId 0 = (true, T)

namespace Tasks.UpdateTaskStatus

/-- The request of user `u` passes every check of the handler, with these two numbers and
this status. -/
structure Passes (i : Input) (w : World) (request : HttpRequest) (u : UserId)
    (goalId taskId : Int64) (status : String) : Prop where
  admitted : w.admits i .tasksUpdateStatus u = true
  goal : parseInt request.goalId 0 = (true, goalId)
  task : parseInt request.taskId 0 = (true, taskId)
  found : ∃ doc, w.findGoal i request.goalId = .ok (some doc)
  body : UpdateTaskStatusRequest.parse request.body = .ok ⟨status⟩

/-- What the handler makes of the repository's answer. -/
def answer : Except Exn (Option Task) → Except Exn HttpResponse
  | .ok none => .ok (makeError .kNotFound "task not found")
  | .ok (some t) => .ok { payload := .task ⟨t.id, t.goalId, t.title, t.status⟩ }
  | .error e => .error e

variable {request : HttpRequest} {ctx : RequestContext} {u : UserId} {goalId taskId : Int64}
  {status : String}

/-- A request that passes the checks is the repository's update, its numbers in the order
in which the handler passes them. -/
theorem run_passes (hu : ctx.userData = some u) (h : Passes i w request u goalId taskId status) :
    (handleRequestJsonThrow cfg request ctx).run (World.exec i) w =
      ((answer ((TasksRepository.updateStatus cfg goalId taskId status).run (World.exec i)
          (w.limited i .tasksUpdateStatus u)).1),
        ((TasksRepository.updateStatus cfg goalId taskId status).run (World.exec i)
          (w.limited i .tasksUpdateStatus u)).2) := by
  obtain ⟨ha, hg, ht, ⟨doc, hd⟩, hb⟩ := h
  have hd' : (w.limited i .tasksUpdateStatus u).findGoal i request.goalId = .ok (some doc) := hd
  unfold handleRequestJsonThrow withUserId RequestContext.getUserData
  simp only [hu, rateLimited_run, ha, if_true, hg, ht, hb, Bool.not_true, Bool.or_self,
    Bool.false_eq_true, if_false, Prog.bind_eq, Prog.run_andThen, GoalsRepository.getById_run, hd',
    Except.map, Option.map_some]
  rcases (TasksRepository.updateStatus cfg goalId taskId status).run (World.exec i)
    (w.limited i .tasksUpdateStatus u) with ⟨e | _ | t, w'⟩ <;> rfl

/-- The path is no pair of numbers. -/
theorem run_noNumbers (cfg : Config D) (ha : w.admits i .tasksUpdateStatus u = true)
    (h : ∀ goalId taskId, ¬ PathNumbers request goalId taskId) :
    (handleRequestJsonThrow cfg request ⟨some u⟩).run (World.exec i) w =
      (.ok (makeError .kBadRequest "invalid path parameters"), w.limited i .tasksUpdateStatus u) := by
  unfold handleRequestJsonThrow withUserId RequestContext.getUserData
  rcases hg : parseInt request.goalId 0 with ⟨goalOk, goalId⟩
  rcases ht : parseInt request.taskId 0 with ⟨taskOk, taskId⟩
  have hno : (!goalOk || !taskOk) = true := by
    cases goalOk <;> cases taskOk <;> simp
    exact h goalId taskId ⟨hg, ht⟩
  simp only [rateLimited_run, ha, if_true, hno]
  rfl

/-- The path is a pair of numbers: what becomes of the goal's lookup and of the body. -/
theorem run_numbers (cfg : Config D) (ha : w.admits i .tasksUpdateStatus u = true)
    (h : PathNumbers request goalId taskId) :
    (∃ e, w.findGoal i request.goalId = .error e ∧
      (handleRequestJsonThrow cfg request ⟨some u⟩).run (World.exec i) w =
        (.error e, w.limited i .tasksUpdateStatus u)) ∨
    (w.findGoal i request.goalId = .ok none ∧
      (handleRequestJsonThrow cfg request ⟨some u⟩).run (World.exec i) w =
        (.ok (makeError .kNotFound "goal not found"), w.limited i .tasksUpdateStatus u)) ∨
    (∃ doc e, w.findGoal i request.goalId = .ok (some doc) ∧
      UpdateTaskStatusRequest.parse request.body = .error e ∧
      (handleRequestJsonThrow cfg request ⟨some u⟩).run (World.exec i) w =
        (.ok (makeError .kBadRequest "invalid request body"), w.limited i .tasksUpdateStatus u)) ∨
    ∃ status, Passes i w request u goalId taskId status := by
  have hlimited : (w.limited i .tasksUpdateStatus u).findGoal i request.goalId =
      w.findGoal i request.goalId := rfl
  cases hd : w.findGoal i request.goalId with
  | error e =>
    refine .inl ⟨e, rfl, ?_⟩
    simp [handleRequestJsonThrow, withUserId, RequestContext.getUserData, rateLimited_run, ha, h.goal,
      h.task, GoalsRepository.getById_run, hlimited, hd, Except.map]
  | ok found =>
    cases found with
    | none =>
      refine .inr (.inl ⟨rfl, ?_⟩)
      simp [handleRequestJsonThrow, withUserId, RequestContext.getUserData, rateLimited_run, ha, h.goal,
        h.task, GoalsRepository.getById_run, hlimited, hd, Except.map]
    | some doc =>
      cases hb : UpdateTaskStatusRequest.parse request.body with
      | error e =>
        refine .inr (.inr (.inl ⟨doc, e, rfl, rfl, ?_⟩))
        simp [handleRequestJsonThrow, withUserId, RequestContext.getUserData, rateLimited_run, ha,
          h.goal, h.task, GoalsRepository.getById_run, hlimited, hd, hb, Except.map]
      | ok body => exact .inr (.inr (.inr ⟨body.status, ha, h.goal, h.task, ⟨doc, hd⟩, hb⟩))

/-- A request that does not pass them touches nothing. -/
theorem run_fails (h : ∀ u goalId taskId status, ctx.userData = some u →
      ¬ Passes i w request u goalId taskId status) :
    Untouched w ((handleRequestJsonThrow cfg request ctx).run (World.exec i) w) := by
  rcases admitted_cases (i := i) (w := w) .tasksUpdateStatus ctx _ _ with hno | ⟨u, hu, ha, -⟩
  · exact hno
  obtain rfl : ctx = ⟨some u⟩ := by rw [← hu]
  by_cases hp : ∃ goalId taskId, PathNumbers request goalId taskId
  · obtain ⟨goalId, taskId, hp⟩ := hp
    rcases run_numbers cfg ha hp with ⟨e, -, hrun⟩ | ⟨-, hrun⟩ | ⟨_, _, -, -, hrun⟩ | ⟨status, hpass⟩
    · rw [hrun]
      exact untouched_error e rfl
    · rw [hrun]
      exact untouched_makeError rfl (by decide)
    · rw [hrun]
      exact untouched_makeError rfl (by decide)
    · exact absurd hpass (h u goalId taskId status rfl)
  · rw [run_noNumbers cfg ha fun goalId taskId hnum => hp ⟨goalId, taskId, hnum⟩]
    exact untouched_makeError rfl (by decide)

/-- The two outcomes of a status update. -/
theorem run_cases (cfg : Config D) (request : HttpRequest) (ctx : RequestContext) :
    Untouched w ((handleRequestJsonThrow cfg request ctx).run (World.exec i) w) ∨
      ∃ u goalId taskId status, ∃ (hs : status ∈ taskStatuses) (r : TaskRow),
        ctx.userData = some u ∧ Passes i w request u goalId taskId status ∧
        i.fault (.execute .kMaster (.updateTaskStatus goalId taskId status)) = false ∧
        r ∈ w.pg.tasks.rows ∧ r.hit goalId taskId = true ∧
        (handleRequestJsonThrow cfg request ctx).run (World.exec i) w =
          (answer ((TasksRepository.readTask cfg (r.withStatus status)).map some),
            (w.limited i .tasksUpdateStatus u).setPg
              { w.pg with tasks := w.pg.tasks.setStatus goalId taskId status hs }) := by
  by_cases h : ∃ u goalId taskId status, ctx.userData = some u ∧
      Passes i w request u goalId taskId status
  · obtain ⟨u, goalId, taskId, status, hu, hp⟩ := h
    rw [run_passes hu hp]
    by_cases hhit : status ∈ taskStatuses ∧
        i.fault (.execute .kMaster (.updateTaskStatus goalId taskId status)) = false ∧
        ∃ r ∈ w.pg.tasks.rows, r.hit goalId taskId = true
    · obtain ⟨hs, hf, r, hr, hh⟩ := hhit
      rw [TasksRepository.updateStatus_hit (w := w.limited i .tasksUpdateStatus u) hs hf hr hh]
      exact .inr ⟨u, goalId, taskId, status, hs, r, hu, hp, hf, hr, hh, rfl⟩
    · left
      obtain ⟨r, hrun, hr⟩ := TasksRepository.updateStatus_miss (w := w.limited i .tasksUpdateStatus u)
        cfg goalId taskId status fun hs hf r hr => by
          by_contra hh
          exact hhit ⟨hs, hf, r, hr, by simpa using hh⟩
      rw [hrun]
      rcases hr with rfl | rfl
      · exact untouched_makeError rfl (by decide)
      · exact untouched_error _ rfl
  · exact .inl (run_fails fun u goalId taskId status hu hp => h ⟨u, goalId, taskId, status, hu, hp⟩)

end Tasks.UpdateTaskStatus

/-! ## Requests one after another -/

/-- A request as it reaches its handler, with what the environment adds. -/
structure Call where
  request : HttpRequest
  ctx : RequestContext
  input : Input

/-- What the handler answers, and the world afterwards. -/
def Call.run (cfg : Config D) (c : Call) (w : World) : Except Exn HttpResponse × World :=
  (dispatch cfg c.request c.ctx).run (World.exec c.input) w

/-- The world after the calls. -/
def serveAll (cfg : Config D) (w : World) (calls : List Call) : World :=
  calls.foldl (fun w c => (c.run cfg w).2) w

end Leadertask
