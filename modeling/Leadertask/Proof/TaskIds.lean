import Leadertask.Proof.NotFound
import Leadertask.Proof.Overflow

/-!
# The ids of tasks and goals in the responses

`Task` and `CreateTaskResponseBody` report ids in plain `integer` fields, which are `int`s, and
the ownership check compares the user with such a field of `Goal`.

* `owner_served_iff`: the ownership check lets every owner through exactly when the ids fit.
* `create_keeps_iff`, `list_keeps_iff`, `update_keeps_iff`: the reported ids are the stored ones
  exactly when the ids of the rows that are read fit.
-/

namespace Leadertask

open Atomic Tasks.UpdateTaskStatus

variable {D : Type} {cfg : Config D} {i : Input} {w : World} {c : Call} {u : UserId}

/-! ## What a call reads -/

/-- Tasks-create or tasks-list comes to the ownership check for user `u`, with the goal that
its path names and the number that the path begins with. -/
structure SeesGoal (w : World) (c : Call) (u : UserId) (n : Int64) (doc : GoalDoc) : Prop where
  endpoint : c.request.endpoint ∈ [.tasksCreate, .tasksList]
  user : c.ctx.userData = some u
  admitted : w.admits c.input c.request.endpoint u = true
  body : c.request.endpoint = .tasksCreate →
    ∃ b, CreateTaskRequestBody.parse c.request.body = .ok b ∧ b.title.isEmpty = false
  number : ∃ pos, stoll c.request.goalId = .ok (n, pos)
  found : w.findGoal c.input c.request.goalId = .ok (some doc)

/-- The call reads the row into a response: the row that it inserted, a row of the list or the
row that it updated. -/
def ReadsTask (w : World) (c : Call) (r : TaskRow) : Prop :=
  match c.request.endpoint with
  | .tasksCreate => ∃ u n doc b pg', SeesGoal w c u n doc ∧ doc.userId.toInt32.toInt64 = u ∧
      CreateTaskRequestBody.parse c.request.body = .ok b ∧
      c.input.fault (.execute .kMaster (.insertTask n b.title)) = false ∧
      w.pg.insertTask c.input n b.title = .ok (r, pg')
  | .tasksList => ∃ u n doc, SeesGoal w c u n doc ∧ doc.userId.toInt32.toInt64 = u ∧
      c.input.fault (.execute .kSlave (.selectTasksByGoal n)) = false ∧
      r ∈ w.pg.tasks.rows ∧ r.goalId = n
  | .tasksUpdateStatus => ∃ u G T status, c.ctx.userData = some u ∧
      Passes c.input w c.request u G T status ∧ status ∈ taskStatuses ∧
      c.input.fault (.execute .kMaster (.updateTaskStatus G T status)) = false ∧
      r ∈ w.pg.tasks.rows ∧ r.hit G T = true
  | _ => False

/-- The reported ids are those of the row. -/
def SameIds (id goalId : Int32) (r : TaskRow) : Prop := id.toInt64 = r.id ∧ goalId.toInt64 = r.goalId

/-- What the ownership check answers to those who do not own the goal. -/
def notOwner : HttpResponse := makeError .kNotFound "goal not found"

/-! ## The goal of the path -/

/-- An answer from before the ownership check: an exception of another kind or an error text
other than the check's. -/
def Stopped : Except Exn HttpResponse → Prop
  | .error e => e ≠ .narrowingOverflow
  | .ok r => ∃ msg, r.payload = .error msg ∧ msg ≠ "goal not found"

theorem stopped_makeError {status : HttpStatus} {msg : String} (h : msg ≠ "goal not found") :
    Stopped (.ok (makeError status msg)) := ⟨msg, rfl, h⟩

theorem stopped_rateLimit (remaining : ℤ) : Stopped (.ok (rateLimitExceeded remaining)) :=
  ⟨_, rfl, by decide⟩

/-- What holds after the ownership check, when it holds of every answer from before. -/
theorem withOwnGoal_stopped_iff {P : Except Exn HttpResponse × World → Prop}
    (hP : ∀ ans w', Stopped ans → P (ans, w')) (u : UserId) (g : String)
    (k : Int64 → Handler HttpResponse) :
    P ((withOwnGoal u g k).run (World.exec i) w) ↔
      ∀ n pos doc, stoll g = .ok (n, pos) → w.findGoal i g = .ok (some doc) →
        if doc.userId.toInt32.toInt64 = u then P ((k n).run (World.exec i) w) else P (.ok notOwner, w) := by
  refine withOwnGoal_iff ?_ ?_ ?_
  · exact hP _ _ (stopped_makeError (by decide))
  · intro e hd
    refine hP _ _ fun hne => ?_
    exact World.findGoal_ne_overflow w i g (hne ▸ hd)
  · exact hP _ _ (stopped_makeError (by decide))

/-- What holds of a run of tasks-create: it holds of what the checks answer, and of the insert
once they are passed. -/
theorem tasksCreate_iff (cfg : Config D) {P : Except Exn HttpResponse × World → Prop}
    (hP : ∀ ans w', Stopped ans → P (ans, w')) (he : c.request.endpoint = .tasksCreate) :
    P (c.run cfg w) ↔ ∀ u n doc b, SeesGoal w c u n doc →
      CreateTaskRequestBody.parse c.request.body = .ok b →
        if doc.userId.toInt32.toInt64 = u then
          P (((TasksRepository.createTask cfg n b.title).andThen fun task =>
            .ret { status := .kCreated, payload := .task task }).run (World.exec c.input)
              (w.limited c.input .tasksCreate u))
        else P (.ok notOwner, w.limited c.input .tasksCreate u) := by
  rw [Call.run, dispatch, he]
  simp only [Tasks.Create.handleRequestJsonThrow]
  cases hb : CreateTaskRequestBody.parse c.request.body with
  | error e =>
    have hne : e ≠ .narrowingOverflow := by
      rintro rfl
      exact CreateTaskRequestBody.parse_ne_overflow _ hb
    constructor
    · intro _ u n doc b _ hb'
      simp at hb'
    · intro _
      exact hP _ _ hne
  | ok b =>
    simp only [Prog.ofExcept_ok, Prog.bind_eq, Prog.ret_andThen]
    by_cases ht : b.title.isEmpty = true
    · rw [if_pos ht]
      constructor
      · intro _ u n doc b' hs hb'
        obtain ⟨b'', hb'', ht'⟩ := hs.body he
        obtain rfl : b = b'' := Except.ok.inj (hb.symm.trans hb'')
        rw [ht] at ht'; simp at ht'
      · intro _
        exact hP _ _ (stopped_makeError (by decide))
    rw [if_neg ht, prologue_iff (hP _ _ (stopped_makeError (by decide)))
      fun u remaining => hP _ _ (stopped_rateLimit remaining)]
    simp only [withOwnGoal_stopped_iff hP]
    constructor
    · intro h u n doc b' hs hb'
      obtain rfl : b = b' := Except.ok.inj hb'
      obtain ⟨-, hu, ha, -, ⟨pos, hn⟩, hd⟩ := hs
      exact h u hu (he ▸ ha) n pos doc hn hd
    · intro h u hu ha n pos doc hn hd
      have hs : SeesGoal w c u n doc :=
        ⟨by simp [he], hu, he ▸ ha, fun _ => ⟨b, hb, by simpa using ht⟩, ⟨pos, hn⟩, hd⟩
      exact h u n doc b hs rfl

/-- The same of tasks-list. -/
theorem tasksList_iff (cfg : Config D) {P : Except Exn HttpResponse × World → Prop}
    (hP : ∀ ans w', Stopped ans → P (ans, w')) (he : c.request.endpoint = .tasksList) :
    P (c.run cfg w) ↔ ∀ u n doc, SeesGoal w c u n doc →
      if doc.userId.toInt32.toInt64 = u then
        P (((TasksRepository.getByGoal cfg n).andThen fun tasks => .ret { payload := .tasks tasks }).run
          (World.exec c.input) (w.limited c.input .tasksList u))
      else P (.ok notOwner, w.limited c.input .tasksList u) := by
  rw [Call.run, dispatch, he]
  simp only [Tasks.List.handleRequestJsonThrow]
  rw [prologue_iff (hP _ _ (stopped_makeError (by decide)))
    fun u remaining => hP _ _ (stopped_rateLimit remaining)]
  simp only [withOwnGoal_stopped_iff hP]
  constructor
  · intro h u n doc hs
    obtain ⟨-, hu, ha, -, ⟨pos, hn⟩, hd⟩ := hs
    exact h u hu (he ▸ ha) n pos doc hn hd
  · intro h u hu ha n pos doc hn hd
    have hs : SeesGoal w c u n doc :=
      ⟨by simp [he], hu, he ▸ ha, fun hno => by simp [he] at hno, ⟨pos, hn⟩, hd⟩
    exact h u n doc hs

theorem Stopped.ne_notOwner {ans : Except Exn HttpResponse} (h : Stopped ans) : ans ≠ .ok notOwner := by
  rintro rfl
  obtain ⟨msg, hmsg, hne⟩ := h
  exact hne (Payload.error.inj hmsg).symm

/-- The ownership check turns away exactly the users whose id is not the narrowed one. -/
theorem ne_notOwner_iff (cfg : Config D) (he : c.request.endpoint ∈ [.tasksCreate, .tasksList]) :
    (c.run cfg w).1 ≠ .ok notOwner ↔
      ∀ u n doc, SeesGoal w c u n doc → doc.userId.toInt32.toInt64 = u := by
  have hstopped : ∀ ans (w' : World), Stopped ans → (ans, w').1 ≠ .ok notOwner := fun _ _ h => h.ne_notOwner
  have he' : c.request.endpoint = .tasksCreate ∨ c.request.endpoint = .tasksList := by simpa using he
  rcases he' with he' | he'
  · rw [tasksCreate_iff cfg (P := fun p => p.1 ≠ .ok notOwner) hstopped he']
    constructor
    · intro h u n doc hs
      obtain ⟨b, hb, -⟩ := hs.body he'
      have h := h u n doc b hs hb
      by_contra hno
      rw [if_neg hno] at h
      exact h rfl
    · intro h u n doc b hs _
      rw [if_pos (h u n doc hs), Prog.run_andThen_ret]
      cases ((TasksRepository.createTask cfg n b.title).run (World.exec c.input)
        (w.limited c.input .tasksCreate u)).1 <;> simp [Except.map, notOwner, makeError]
  · rw [tasksList_iff cfg (P := fun p => p.1 ≠ .ok notOwner) hstopped he']
    constructor
    · intro h u n doc hs
      have h := h u n doc hs
      by_contra hno
      rw [if_neg hno] at h
      exact h rfl
    · intro h u n doc hs
      rw [if_pos (h u n doc hs), Prog.run_andThen_ret]
      cases ((TasksRepository.getByGoal cfg n).run (World.exec c.input)
        (w.limited c.input .tasksList u)).1 <;> simp [Except.map, notOwner, makeError]

/-- The owners are let through exactly when their ids fit. -/
theorem owner_served_iff (cfg : Config D) :
    (c.request.endpoint ∈ [.tasksCreate, .tasksList] → ∀ u, c.ctx.userData = some u →
        Owns w u c.request.goalId → (c.run cfg w).1 ≠ .ok notOwner) ↔
      ∀ u n doc, SeesGoal w c u n doc → doc.userId = u → FitsInt u := by
  constructor
  · rintro h u n doc hs rfl
    have hserved := h hs.endpoint doc.userId hs.user ⟨doc, (World.findGoal_some hs.found).1,
      (World.findGoal_some hs.found).2, rfl⟩
    exact (ne_notOwner_iff cfg hs.endpoint).1 hserved _ n doc hs
  · rintro h he u hu ⟨doc, hdoc, hid, rfl⟩
    refine (ne_notOwner_iff cfg he).2 fun u' n doc' hs => ?_
    obtain rfl : doc.userId = u' := Option.some.inj (hu.symm.trans hs.user)
    obtain ⟨hdoc', hid'⟩ := World.findGoal_some hs.found
    -- the path names one goal
    obtain rfl : doc' = doc :=
      Rows.eq_of_key w.goals.idKey hdoc' hdoc (Except.ok.inj (hid'.symm.trans hid))
    exact h _ n doc' hs rfl

/-! ## Tasks -/

/-- A row survives the response when it is read and comes out as it was. -/
theorem TaskRow.survives_iff {m : Narrowing} {r : TaskRow} :
    r.Converts m ∧ SameIds r.id.toInt32 r.goalId.toInt32 r ↔ FitsInt r.id ∧ FitsInt r.goalId := by
  constructor
  · rintro ⟨-, h⟩
    exact h
  · rintro ⟨h1, h2⟩
    exact ⟨⟨.inr h1, .inr h2⟩, h1, h2⟩

/-- What the answer to tasks-create must be like. -/
def CreateKeeps (w : World) (p : Except Exn HttpResponse × World) : Prop :=
  p.1 ≠ .error .narrowingOverflow ∧ ∀ t, p.1 = .ok { status := .kCreated, payload := .task t } →
    ∀ row, p.2.pg.tasks.rows = w.pg.tasks.rows ++ [row] → SameIds t.id t.goalId row

theorem Stopped.createKeeps {ans : Except Exn HttpResponse} {w' : World} (h : Stopped ans) :
    CreateKeeps w (ans, w') := by
  refine ⟨?_, fun t ht => ?_⟩
  · rintro rfl
    exact h rfl
  · obtain rfl : ans = _ := ht
    obtain ⟨msg, hmsg, -⟩ := h
    simp at hmsg

/-- The row that tasks-create inserts, read into its answer. -/
theorem createTask_keeps_iff (cfg : Config D) {w' : World} (hw : w'.pg = w.pg) {n : Int64} {title : String} :
    CreateKeeps w (((TasksRepository.createTask cfg n title).andThen fun task =>
        .ret { status := .kCreated, payload := .task task }).run (World.exec i) w') ↔
      ∀ row pg', i.fault (.execute .kMaster (.insertTask n title)) = false →
        w.pg.insertTask i n title = .ok (row, pg') → FitsInt row.id ∧ FitsInt row.goalId := by
  rw [Prog.run_andThen_ret, TasksRepository.createTask_eq, hw]
  cases hf : i.fault (.execute .kMaster (.insertTask n title)) with
  | true => simp [CreateKeeps, Except.map]
  | false =>
    cases hins : w.pg.insertTask i n title with
    | error e =>
      have hne : e ≠ .narrowingOverflow := by
        rintro rfl
        exact Postgres.insertTask_ne_overflow _ _ _ _ hins
      simpa [CreateKeeps, Except.map] using hne
    | ok p =>
      obtain ⟨row, pg'⟩ := p
      have hrows := (Postgres.insertTask_ok hins).2.1
      have hone : (∀ row' pg'', false = false → (.ok (row, pg') : Except Exn _) = .ok (row', pg'') →
          FitsInt row'.id ∧ FitsInt row'.goalId) ↔ FitsInt row.id ∧ FitsInt row.goalId := by
        constructor
        · intro h
          exact h row pg' rfl rfl
        · rintro h row' pg'' _ heq
          obtain ⟨rfl, -⟩ := Prod.mk.inj (Except.ok.inj heq)
          exact h
      rw [hone, ← TaskRow.survives_iff (m := cfg.narrowing)]
      simp only [Bool.false_eq_true, if_false, TasksRepository.readCreateTaskResponseBody_eq,
        TasksRepository.readTask_eq]
      by_cases hc : row.Converts cfg.narrowing
      · rw [if_pos hc]
        constructor
        · rintro ⟨-, h⟩
          exact ⟨hc, h _ rfl row hrows⟩
        · rintro ⟨-, h⟩
          refine ⟨by simp [Except.map], fun t ht row' hrow' => ?_⟩
          obtain rfl : row = row' := by
            have := hrows.symm.trans hrow'
            simpa using this
          obtain rfl : (⟨row.id.toInt32, row.goalId.toInt32, row.title, row.status⟩ :
              CreateTaskResponseBody) = t := by simpa [Except.map, TaskRow.toTask] using ht
          exact h
      · rw [if_neg hc]
        constructor
        · rintro ⟨h, -⟩
          exact absurd rfl h
        · rintro ⟨h, -⟩
          exact absurd h hc

/-- What the answer to tasks-list must be like. -/
def ListKeeps (w : World) (c : Call) (ans : Except Exn HttpResponse) : Prop :=
  ans ≠ .error .narrowingOverflow ∧ ∀ ts, ans = .ok { payload := .tasks ts } →
    ∀ n pos, stoll c.request.goalId = .ok (n, pos) →
      List.Forall₂ (fun t r => SameIds t.id t.goalId r) ts (w.pg.selectTasksByGoal c.input n)

theorem Stopped.listKeeps {ans : Except Exn HttpResponse} (h : Stopped ans) : ListKeeps w c ans := by
  refine ⟨?_, fun ts hts => ?_⟩
  · rintro rfl
    exact h rfl
  · subst hts
    obtain ⟨msg, hmsg, -⟩ := h
    simp at hmsg

/-- The rows of the goal, read into the list. -/
theorem getByGoal_keeps_iff (cfg : Config D) {w' : World} (hw : w'.pg = w.pg) {n : Int64} {pos : ℕ}
    (hn : stoll c.request.goalId = .ok (n, pos)) :
    ListKeeps w c (((TasksRepository.getByGoal cfg n).andThen fun tasks =>
        .ret { payload := .tasks tasks }).run (World.exec c.input) w').1 ↔
      (c.input.fault (.execute .kSlave (.selectTasksByGoal n)) = false →
        ∀ r ∈ w.pg.tasks.rows, r.goalId = n → FitsInt r.id ∧ FitsInt r.goalId) := by
  rw [Prog.run_andThen_ret, TasksRepository.getByGoal_run, hw]
  cases hf : c.input.fault (.execute .kSlave (.selectTasksByGoal n)) with
  | true => simp [ListKeeps, Except.map]
  | false =>
    have hall : (false = false → ∀ r ∈ w.pg.tasks.rows, r.goalId = n → FitsInt r.id ∧ FitsInt r.goalId) ↔
        ∀ r ∈ w.pg.selectTasksByGoal c.input n, FitsInt r.id ∧ FitsInt r.goalId := by
      simp only [Postgres.mem_selectTasksByGoal, and_imp, true_imp_iff]
    rw [hall]
    simp only [Bool.false_eq_true, if_false, TasksRepository.mapM_readTask]
    by_cases hc : ∀ r ∈ w.pg.selectTasksByGoal c.input n, r.Converts cfg.narrowing
    · rw [if_pos hc]
      constructor
      · rintro ⟨-, h⟩ r hr
        have h := h _ rfl n pos hn
        rw [List.forall₂_map_left_iff, List.forall₂_same] at h
        exact TaskRow.survives_iff.1 ⟨hc r hr, h r hr⟩
      · intro h
        refine ⟨by simp [Except.map], fun ts hts n' pos' hn' => ?_⟩
        obtain rfl : n = n' := (Prod.mk.inj (Except.ok.inj (hn.symm.trans hn'))).1
        obtain rfl : (w.pg.selectTasksByGoal c.input n).map TaskRow.toTask = ts := by
          simpa [Except.map] using hts
        rw [List.forall₂_map_left_iff, List.forall₂_same]
        exact h
    · rw [if_neg hc]
      constructor
      · rintro ⟨h, -⟩
        exact absurd rfl h
      · intro h
        exact absurd (fun r hr => (TaskRow.survives_iff.2 (h r hr)).1) hc

/-- What the answer to a status update must be like. -/
def UpdateKeeps (w : World) (c : Call) (ans : Except Exn HttpResponse) : Prop :=
  ans ≠ .error .narrowingOverflow ∧ ∀ t, ans = .ok { payload := .task t } → ∀ u G T status,
    c.ctx.userData = some u → Passes c.input w c.request u G T status →
      ∀ r ∈ w.pg.tasks.rows, r.hit G T = true → SameIds t.id t.goalId r

/-- An answer without a task. -/
theorem updateKeeps_of {ans : Except Exn HttpResponse} (h1 : ans ≠ .error .narrowingOverflow)
    (h2 : ∀ t, ans ≠ .ok { payload := .task t }) : UpdateKeeps w c ans :=
  ⟨h1, fun t ht => absurd ht (h2 t)⟩

/-- The row that an update sets, read into its answer. -/
theorem passes_keeps_iff (cfg : Config D) (he : c.request.endpoint = .tasksUpdateStatus)
    (hu : c.ctx.userData = some u) {G T : Int64} {status : String}
    (h : Passes c.input w c.request u G T status) :
    UpdateKeeps w c (c.run cfg w).1 ↔
      (status ∈ taskStatuses → c.input.fault (.execute .kMaster (.updateTaskStatus G T status)) = false →
        ∀ r ∈ w.pg.tasks.rows, r.hit G T = true → FitsInt r.id ∧ FitsInt r.goalId) := by
  have hctx : c.ctx = ⟨some u⟩ := by rw [← hu]
  have hrun : c.run cfg w =
      (handleRequestJsonThrow cfg c.request ⟨some u⟩).run (World.exec c.input) w := by
    rw [Call.run, dispatch, he, hctx]
  -- without a row to read both sides hold
  have hquiet (r : Except Exn (Option Task)) (hr : r = .ok none ∨ r = .error .storeFailure) :
      UpdateKeeps w c (answer r) := by
    rcases hr with rfl | rfl <;> exact updateKeeps_of (by simp [answer]) (by simp [answer, makeError])
  by_cases hs : status ∈ taskStatuses
  · cases hf : c.input.fault (.execute .kMaster (.updateTaskStatus G T status)) with
    | true =>
      refine iff_of_true ?_ fun _ hno => by simp at hno
      rw [hrun, run_passes rfl h, TasksRepository.updateStatus_fault (w := w.limited _ _ _) cfg hs hf]
      exact hquiet _ (.inr rfl)
    | false =>
      rcases TaskRow.hit_or_miss w.pg.tasks.rows G T with ⟨r, hr, hh⟩ | hmiss
      · have hone : (∀ r' ∈ w.pg.tasks.rows, r'.hit G T = true → FitsInt r'.id ∧ FitsInt r'.goalId) ↔
            FitsInt r.id ∧ FitsInt r.goalId := TasksTable.forall_hit_iff hr hh
        rw [imp_iff_right hs, imp_iff_right rfl, hone, ← TaskRow.survives_iff (m := cfg.narrowing), hrun,
          (update_hit cfg h hs hf hr hh).2]
        by_cases hc : r.Converts cfg.narrowing
        · rw [if_pos hc]
          constructor
          · rintro ⟨-, hans⟩
            exact ⟨hc, hans _ rfl u G T status hu h r hr hh⟩
          · rintro ⟨-, hids⟩
            refine ⟨by simp, fun t ht u' G' T' status' _ h' r' hr' hh' => ?_⟩
            obtain ⟨rfl, rfl, rfl⟩ := h.unique h'
            rw [TasksTable.eq_of_hit hr hh hr' hh']
            obtain rfl : (⟨r.id.toInt32, r.goalId.toInt32, r.title, status⟩ :
                CreateTaskResponseBody) = t := by simpa using ht
            exact hids
        · rw [if_neg hc]
          constructor
          · rintro ⟨hans, -⟩
            exact absurd rfl hans
          · rintro ⟨hc', -⟩
            exact absurd hc' hc
      · refine iff_of_true ?_ fun _ _ r hr hh => by rw [hmiss r hr] at hh; simp at hh
        rw [hrun, run_passes rfl h, TasksRepository.updateStatus_none (w := w.limited _ _ _) cfg hs hf hmiss]
        exact hquiet _ (.inl rfl)
  · refine iff_of_true ?_ fun hno => absurd hno hs
    rw [hrun, run_passes rfl h, TasksRepository.updateStatus_unknown cfg hs]
    exact hquiet _ (.inl rfl)

/-- A status update that does not pass every check answers without a task. -/
theorem update_keeps_of_fails (cfg : Config D) (he : c.request.endpoint = .tasksUpdateStatus)
    (hno : ∀ u G T status, c.ctx.userData = some u → ¬ Passes c.input w c.request u G T status) :
    UpdateKeeps w c (c.run cfg w).1 := by
  rw [Call.run, dispatch, he]
  by_cases hadm : ∃ u, c.ctx.userData = some u ∧ w.admits c.input .tasksUpdateStatus u = true
  case neg =>
    refine (prologue_iff (P := fun p => UpdateKeeps w c p.1) ?_ ?_).2 fun u hu ha => absurd ⟨u, hu, ha⟩ hadm
    · exact updateKeeps_of (by simp) (by simp [makeError])
    · intro u remaining
      exact updateKeeps_of (by simp) (by simp [rateLimitExceeded])
  obtain ⟨u, hu, ha⟩ := hadm
  have hctx : c.ctx = ⟨some u⟩ := by rw [← hu]
  rw [hctx]
  dsimp only
  by_cases hp : ∃ G T, PathNumbers c.request G T
  · obtain ⟨G, T, hp⟩ := hp
    rcases run_numbers cfg ha hp with ⟨e, hd, hrun⟩ | ⟨-, hrun⟩ | ⟨_, _, -, -, hrun⟩ | ⟨status, h⟩
    · rw [hrun]
      have hne : e ≠ .narrowingOverflow := by
        rintro rfl
        exact World.findGoal_ne_overflow w c.input c.request.goalId hd
      exact updateKeeps_of (by simpa using hne) (by simp)
    · rw [hrun]
      exact updateKeeps_of (by simp) (by simp [makeError])
    · rw [hrun]
      exact updateKeeps_of (by simp) (by simp [makeError])
    · exact absurd h (hno u G T status hu)
  · rw [run_noNumbers cfg ha fun G T h => hp ⟨G, T, h⟩]
    exact updateKeeps_of (by simp) (by simp [makeError])

theorem update_keeps_iff (cfg : Config D) (he : c.request.endpoint = .tasksUpdateStatus) :
    UpdateKeeps w c (c.run cfg w).1 ↔ ∀ r, ReadsTask w c r → FitsInt r.id ∧ FitsInt r.goalId := by
  simp only [ReadsTask, he]
  by_cases h : ∃ u G T status, c.ctx.userData = some u ∧ Passes c.input w c.request u G T status
  · obtain ⟨u, G, T, status, hu, h⟩ := h
    rw [passes_keeps_iff cfg he hu h]
    constructor
    · rintro hall r ⟨u', G', T', status', -, h', hs, hf, hr, hh⟩
      obtain ⟨rfl, rfl, rfl⟩ := h.unique h'
      exact hall hs hf r hr hh
    · intro hall hs hf r hr hh
      exact hall r ⟨u, G, T, status, hu, h, hs, hf, hr, hh⟩
  · have hno : ∀ u G T status, c.ctx.userData = some u → ¬ Passes c.input w c.request u G T status :=
      fun u G T status hu hp => h ⟨u, G, T, status, hu, hp⟩
    refine iff_of_true (update_keeps_of_fails cfg he hno) ?_
    rintro r ⟨u, G, T, status, hu, hp, -⟩
    exact absurd hp (hno u G T status hu)

theorem create_keeps_iff (cfg : Config D) (he : c.request.endpoint = .tasksCreate) :
    CreateKeeps w (c.run cfg w) ↔ ∀ r, ReadsTask w c r → FitsInt r.id ∧ FitsInt r.goalId := by
  have hother (w' : World) : CreateKeeps w (.ok notOwner, w') := ⟨by simp, by simp [notOwner, makeError]⟩
  rw [tasksCreate_iff cfg (P := CreateKeeps w) (fun _ _ h => h.createKeeps) he]
  simp only [ReadsTask, he]
  constructor
  · rintro h r ⟨u, n, doc, b, pg', hs, ho, hb, hf, hins⟩
    have h := h u n doc b hs hb
    rw [if_pos ho, createTask_keeps_iff cfg (World.limited_pg _ _)] at h
    exact h r pg' hf hins
  · intro h u n doc b hs hb
    by_cases ho : doc.userId.toInt32.toInt64 = u
    · rw [if_pos ho, createTask_keeps_iff cfg (World.limited_pg _ _)]
      intro row pg' hf hins
      exact h row ⟨u, n, doc, b, pg', hs, ho, hb, hf, hins⟩
    · rw [if_neg ho]
      exact hother _

theorem list_keeps_iff (cfg : Config D) (he : c.request.endpoint = .tasksList) :
    ListKeeps w c (c.run cfg w).1 ↔ ∀ r, ReadsTask w c r → FitsInt r.id ∧ FitsInt r.goalId := by
  have hother : ListKeeps w c (.ok notOwner) := ⟨by simp, by simp [notOwner, makeError]⟩
  rw [tasksList_iff cfg (P := fun p => ListKeeps w c p.1) (fun _ _ h => h.listKeeps) he]
  simp only [ReadsTask, he]
  constructor
  · rintro h r ⟨u, n, doc, hs, ho, hf, hr, hrn⟩
    have h := h u n doc hs
    obtain ⟨pos, hn⟩ := hs.number
    rw [if_pos ho, getByGoal_keeps_iff cfg (World.limited_pg _ _) hn] at h
    exact h hf r hr hrn
  · intro h u n doc hs
    by_cases ho : doc.userId.toInt32.toInt64 = u
    · obtain ⟨pos, hn⟩ := hs.number
      rw [if_pos ho, getByGoal_keeps_iff cfg (World.limited_pg _ _) hn]
      intro hf r hr hrn
      exact h r ⟨u, n, doc, hs, ho, hf, hr, hrn⟩
    · rw [if_neg ho]
      exact hother

end Leadertask
