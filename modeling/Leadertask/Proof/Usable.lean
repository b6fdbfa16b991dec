import Leadertask.Proof.GoalNumbers
import Leadertask.Proof.Ownership
import Leadertask.Proof.TaskUpdate

/-!
# Which goals can be used

A goal's id is hexadecimal text; tasks-create reads the digits at its front as the
goal's number, the status update wants the whole text to be a number, and Postgres wants
a row of that number in a table that the service never fills.

* `goal_usable_iff`: for which goals a task can be created, listed and updated.
-/

namespace Leadertask

open Atomic Tasks.UpdateTaskStatus

variable {D : Type} {cfg : Config D} {w : World} {u : UserId} {g : String}

/-! ## Texts and their numbers -/

/-- A task number in a path reads back as itself. -/
theorem parseInt_toString (n : Int32) : parseInt (toString n.toInt) 0 = (true, n.toInt64) := by
  have hlo := n.le_toInt
  have hhi := n.toInt_lt
  have hval : Int64.ofInt n.toInt = n.toInt64 := by
    rw [← Int64.toInt_inj, Int32.toInt_toInt64, Int64.toInt_ofInt_of_le (by omega) (by omega)]
  rw [parseInt_true, stoll, Numeral.scan_toString]
  dsimp only
  rw [if_pos ⟨by omega, by omega⟩, hval, String.length_toList]

/-! ## The chain of requests -/

def createCall (u : UserId) (g title : String) (i : Input) : Call where
  request := { endpoint := .tasksCreate, goalId := g, body := .obj [("title", .str title)] }
  ctx := ⟨some u⟩
  input := i

def listCall (u : UserId) (g : String) (i : Input) : Call where
  request := { endpoint := .tasksList, goalId := g }
  ctx := ⟨some u⟩
  input := i

def updateCall (u : UserId) (g : String) (t : Int32) (status : String) (i : Input) : Call where
  request := {
    endpoint := .tasksUpdateStatus
    goalId := g
    taskId := toString t.toInt
    body := .obj [("status", .str status)] }
  ctx := ⟨some u⟩
  input := i

/-- Tasks-create on goal `g` answers 201 with a task, tasks-list then answers 200 and
contains it, and then a status update of it answers 200 for each status. -/
def Usable (cfg : Config D) (w : World) (u : UserId) (g title : String) (i₁ i₂ i₃ : Input) : Prop :=
  ∃ t, ((createCall u g title i₁).run cfg w).1 = .ok { status := .kCreated, payload := .task t } ∧
    (∃ ts, ((listCall u g i₂).run cfg ((createCall u g title i₁).run cfg w).2).1 =
        .ok { payload := .tasks ts } ∧ t.id ∈ ts.map Task.id) ∧
    ∀ status ∈ taskStatuses,
      statusOf ((updateCall u g t.id status i₃).run cfg
        ((listCall u g i₂).run cfg ((createCall u g title i₁).run cfg w).2).2).1 = .kOk

/-- The ids and goal numbers of the tasks once number `k` is a task of goal `N`. -/
def taskKeys (w : World) (k : ℕ) (N : Int64) : List (Int64 × Int64) :=
  w.pg.tasks.rows.map (fun r => (r.id, r.goalId)) ++ [(Int64.ofNat k, N)]

/-- What it takes, when `N` is the goal's number and `k` the number that the next task
gets. -/
structure UsableWith (m : Narrowing) (w : World) (skip : ℕ) (u : UserId) (g title : String) (N : Int64)
    (k : ℕ) : Prop where
  /-- Postgres takes the title. -/
  text : IsText title
  /-- All digits of the id are decimal, and their number is a 64-bit one. -/
  decimal : stoll g = .ok (N, g.length)
  /-- The owner's id fits the `int` of `Goal`. -/
  owner : FitsInt u
  /-- Postgres has a row for the goal. -/
  seeded : N ∈ w.pg.goalIds
  /-- The sequence has not ended, and its next number is new. -/
  next : nextval w.pg.tasksSeq skip = .ok k
  new : Int64.ofNat k ∉ w.pg.tasks.rows.map TaskRow.id
  /-- The goal's tasks, the new one included, can be read. -/
  reads : ∀ p ∈ taskKeys w k N, p.2 = N → m.Reads p.1 ∧ m.Reads p.2
  /-- There is a task with the numbers of the new one the other way round. -/
  swapped : (N, (Int64.ofNat k).toInt32.toInt64) ∈ taskKeys w k N

def UsableWhen (m : Narrowing) (w : World) (skip : ℕ) (u : UserId) (g title : String) : Prop :=
  ∃ N k, UsableWith m w skip u g title N k

theorem createCall_parse {title : String} {i : Input} :
    CreateTaskRequestBody.parse (createCall u g title i).request.body = .ok ⟨title⟩ := by
  simp [CreateTaskRequestBody.parse, createCall, Json.fields, Json.required, Json.asString, bind,
    Except.bind, pure, Except.pure]

theorem updateCall_parse {t : Int32} {status : String} {i : Input} :
    UpdateTaskStatusRequest.parse (updateCall u g t status i).request.body = .ok ⟨status⟩ := by
  simp [UpdateTaskStatusRequest.parse, updateCall, Json.fields, Json.only, Json.required,
    Json.asString, bind, Except.bind, pure, Except.pure]

section

variable {doc : GoalDoc} {title : String} {i₁ i₂ i₃ : Input} {N : Int64} {pos k : ℕ}

/-- The row that tasks-create adds. -/
def newRow (N : Int64) (k : ℕ) (title : String) (i : Input) : TaskRow :=
  ⟨Int64.ofNat k, N, asColumn title, "todo", i.stamp⟩

/-- What tasks-create leaves behind: the new row, and the rest as it was. -/
structure Created (w w₁ : World) (row : TaskRow) : Prop where
  rows : w₁.pg.tasks.rows = w.pg.tasks.rows ++ [row]
  goals : w₁.goals = w.goals
  admits : ∀ i e u, e ≠ .tasksCreate → w₁.admits i e u = w.admits i e u

theorem created_setPg {row : TaskRow} {pg' : Postgres}
    (h : pg'.tasks.rows = w.pg.tasks.rows ++ [row]) :
    Created w ((w.limited i₁ .tasksCreate u).setPg pg') row :=
  ⟨h, rfl, fun i _ u' he => World.limited_admits he i₁ i u u'⟩

/-- What a 201 of tasks-create tells. -/
theorem created (hdoc : doc ∈ w.goals.docs) (hf : ∀ o, i₁.fault o = false)
    {t : CreateTaskResponseBody}
    (h : ((createCall doc.userId doc.id.toString title i₁).run cfg w).1 =
      .ok { status := .kCreated, payload := .task t }) :
    ∃ N pos k, IsText title ∧ stoll doc.id.toString = .ok (N, pos) ∧ FitsInt doc.userId ∧ N ∈ w.pg.goalIds ∧
      nextval w.pg.tasksSeq i₁.skip = .ok k ∧ Int64.ofNat k ∉ w.pg.tasks.rows.map TaskRow.id ∧
      t.id = (Int64.ofNat k).toInt32 ∧
      Created w ((createCall doc.userId doc.id.toString title i₁).run cfg w).2
        (newRow N k title i₁) := by
  have hrun : (createCall doc.userId doc.id.toString title i₁).run cfg w =
    (Tasks.Create.handleRequestJsonThrow cfg (createCall doc.userId doc.id.toString title i₁).request
      ⟨some doc.userId⟩).run (World.exec i₁) w := rfl
  rcases Tasks.Create.run_cases (i := i₁) (w := w) cfg
    (createCall doc.userId doc.id.toString title i₁).request ⟨some doc.userId⟩ with
    hno | ⟨u, body, N, pos, doc', row, pg', hu, hb, hn, hd, ho, hins, hans⟩
  · refine absurd ?_ hno.2
    rw [← hrun, h]
    exact isSuccess_ok.2 (.inr rfl)
  -- the branches of the run are those of the one request that this is
  obtain rfl : doc.userId = u := Option.some.inj hu
  rw [createCall_parse] at hb
  obtain rfl := Except.ok.inj hb
  have hfound := World.findGoal_doc hdoc (hf _)
  obtain rfl : doc = doc' := Option.some.inj (Except.ok.inj (hfound.symm.trans hd))
  obtain ⟨⟨k, hk, hnew, rfl⟩, hrows, hseed, -, -⟩ := Postgres.insertTask_ok hins
  rw [hrun, hans] at h ⊢
  rw [Tasks.Create.answer, TasksRepository.readCreateTaskResponseBody_eq,
    TasksRepository.readTask_eq] at h
  split at h
  · have ht : t.id = (Int64.ofNat k).toInt32 := by
      simp only [Except.map, Except.ok.injEq, HttpResponse.mk.injEq, Payload.task.injEq, true_and] at h
      rw [← h]; rfl
    exact ⟨N, pos, k, (Postgres.insertTask_title hins).1, hn, ho, hseed, hk, hnew, ht, created_setPg hrows⟩
  · simp [Except.map] at h

/-- Tasks-create goes through. -/
theorem create_goes (cfg : Config D) (i₁ : Input) (hdoc : doc ∈ w.goals.docs) (hf : ∀ o, i₁.fault o = false)
    (ht₁ : 1 ≤ title.length) (ht₂ : title.length ≤ 255)
    (ha : w.admits i₁ .tasksCreate doc.userId = true)
    (h : UsableWith cfg.narrowing w i₁.skip doc.userId doc.id.toString title N k) :
    ((createCall doc.userId doc.id.toString title i₁).run cfg w).1 =
        .ok { status := .kCreated, payload := .task ⟨(Int64.ofNat k).toInt32, N.toInt32, title, "todo"⟩ } ∧
      Created w ((createCall doc.userId doc.id.toString title i₁).run cfg w).2
        (newRow N k title i₁) := by
  obtain ⟨⟨row, pg'⟩, hins⟩ := Postgres.insertTask_of i₁ w.pg h.next h.new
    (storable_of_fits ⟨h.text, ht₂⟩) h.seeded
  have hne : title.isEmpty = false := by
    rw [String.isEmpty_eq_false_iff]
    rintro rfl
    simp at ht₁
  have hrun : (createCall doc.userId doc.id.toString title i₁).run cfg w =
      (Tasks.Create.answer cfg row, (w.limited i₁ .tasksCreate doc.userId).setPg pg') :=
    Tasks.Create.run_own (i := i₁) (w := w) cfg
      (createCall doc.userId doc.id.toString title i₁).request createCall_parse hne ha h.decimal
      (World.findGoal_doc hdoc (hf _)) h.owner (hf _) hins
  obtain ⟨⟨k', hk, -, rfl⟩, hrows, -⟩ := Postgres.insertTask_ok hins
  obtain rfl := Except.ok.inj (h.next.symm.trans hk)
  have hconv : (newRow N k title i₁).Converts cfg.narrowing :=
    h.reads (Int64.ofNat k, N) (List.mem_append_right _ List.mem_cons_self) rfl
  rw [hrun]
  refine ⟨?_, created_setPg hrows⟩
  unfold newRow at hconv
  rw [Tasks.Create.answer, TasksRepository.readCreateTaskResponseBody_eq,
    TasksRepository.readTask_eq, if_pos hconv, asColumn_of_le ht₂]
  rfl

/-- Tasks-list by the owner, once the goal's number is known. -/
theorem list_run (cfg : Config D) (hdoc : doc ∈ w.goals.docs) (hf : ∀ o, i₂.fault o = false)
    (ha : w.admits i₂ .tasksList doc.userId = true) (hn : stoll doc.id.toString = .ok (N, pos))
    (ho : FitsInt doc.userId) :
    (listCall doc.userId doc.id.toString i₂).run cfg w =
      (if ∀ r ∈ w.pg.tasks.rows, r.goalId = N → r.Converts cfg.narrowing then
          .ok { payload := .tasks ((w.pg.selectTasksByGoal i₂ N).map TaskRow.toTask) }
        else .error .narrowingOverflow, w.limited i₂ .tasksList doc.userId) := by
  refine (Tasks.List.run_own (i := i₂) (w := w) cfg (listCall doc.userId doc.id.toString i₂).request
    ha hn (World.findGoal_doc hdoc (hf _)) ho (hf _)).trans ?_
  rw [Tasks.List.answer, TasksRepository.mapM_readTask]
  simp only [Postgres.mem_selectTasksByGoal, and_imp]
  split <;> rfl

/-- A status update answers 200 exactly if the goal's whole id is a number and some task has
it as its id and the path's task number as its goal number. -/
theorem update_ok_iff (cfg : Config D) (hdoc : doc ∈ w.goals.docs) (hf : ∀ o, i₃.fault o = false)
    (ha : w.admits i₃ .tasksUpdateStatus doc.userId = true)
    (hn : stoll doc.id.toString = .ok (N, pos)) {t : Int32} {status : String}
    (hs : status ∈ taskStatuses) :
    statusOf ((updateCall doc.userId doc.id.toString t status i₃).run cfg w).1 = .kOk ↔
      pos = doc.id.toString.length ∧
        ∃ r ∈ w.pg.tasks.rows, r.hit N t.toInt64 = true ∧ r.Converts cfg.narrowing := by
  have hrun : (updateCall doc.userId doc.id.toString t status i₃).run cfg w =
    (handleRequestJsonThrow cfg (updateCall doc.userId doc.id.toString t status i₃).request
      ⟨some doc.userId⟩).run (World.exec i₃) w := rfl
  rw [hrun]
  constructor
  · intro hok
    rcases run_cases (i := i₃) (w := w) cfg
      (updateCall doc.userId doc.id.toString t status i₃).request ⟨some doc.userId⟩ with
      hno | ⟨u, G, T, st, hst, r, hu, hp, hfault, hr, hh, -⟩
    · exact absurd (show IsSuccess _ by rw [IsSuccess, hok]; decide) hno.2
    · obtain rfl : doc.userId = u := Option.some.inj hu
      have hG := parseInt_true.1 hp.goal
      have hT : T = t.toInt64 := (Prod.mk.inj (hp.task.symm.trans (parseInt_toString t))).2
      obtain ⟨rfl, rfl⟩ : G = N ∧ doc.id.toString.length = pos :=
        Prod.mk.inj (Except.ok.inj (hG.symm.trans hn))
      subst hT
      refine ⟨rfl, r, hr, hh, ?_⟩
      by_contra hc
      rw [(update_hit cfg hp hst hfault hr hh).2, if_neg hc] at hok
      simp [statusOf] at hok
  · rintro ⟨rfl, r, hr, hh, hc⟩
    have hp : Passes i₃ w (updateCall doc.userId doc.id.toString t status i₃).request doc.userId N
        t.toInt64 status :=
      ⟨ha, parseInt_true.2 hn, parseInt_toString t, ⟨doc, World.findGoal_doc hdoc (hf _)⟩,
        updateCall_parse⟩
    rw [(update_hit cfg hp hs (hf _) hr hh).2, if_pos hc]
    rfl

theorem mem_taskKeys {p : Int64 × Int64} (title : String) (i₁ : Input) :
    p ∈ taskKeys w k N ↔ ∃ r ∈ w.pg.tasks.rows ++ [newRow N k title i₁], (r.id, r.goalId) = p := by
  have : taskKeys w k N = (w.pg.tasks.rows ++ [newRow N k title i₁]).map fun r => (r.id, r.goalId) := by
    rw [List.map_append]; rfl
  rw [this, List.mem_map]

/-- The goal's tasks convert exactly if their ids and goal numbers can be read. -/
theorem converts_iff_taskKeys {m : Narrowing} (title : String) (i₁ : Input) :
    (∀ r ∈ w.pg.tasks.rows ++ [newRow N k title i₁], r.goalId = N → r.Converts m) ↔
      ∀ p ∈ taskKeys w k N, p.2 = N → m.Reads p.1 ∧ m.Reads p.2 := by
  constructor
  · intro h p hp hpN
    obtain ⟨r, hr, rfl⟩ := (mem_taskKeys title i₁).1 hp
    exact h r hr hpN
  · intro h r hr hrN
    exact h (r.id, r.goalId) ((mem_taskKeys title i₁).2 ⟨r, hr, rfl⟩) hrN

/-- Tasks-list after the creation: the goal's tasks with the new one, if all can be read. -/
theorem list_after (cfg : Config D) {w₁ : World} (hdoc : doc ∈ w.goals.docs)
    (hw₁ : Created w w₁ (newRow N k title i₁)) (hf : ∀ o, i₂.fault o = false)
    (ha : w.admits i₂ .tasksList doc.userId = true) (hn : stoll doc.id.toString = .ok (N, pos))
    (ho : FitsInt doc.userId) :
    (listCall doc.userId doc.id.toString i₂).run cfg w₁ =
      (if ∀ r ∈ w.pg.tasks.rows ++ [newRow N k title i₁], r.goalId = N →
            r.Converts cfg.narrowing then
          .ok { payload := .tasks ((w₁.pg.selectTasksByGoal i₂ N).map TaskRow.toTask) }
        else .error .narrowingOverflow, w₁.limited i₂ .tasksList doc.userId) := by
  have hdoc₁ : doc ∈ w₁.goals.docs := by rw [hw₁.goals]; exact hdoc
  have ha₁ := (hw₁.admits i₂ .tasksList doc.userId (by decide)).trans ha
  simp only [list_run cfg hdoc₁ hf ha₁ hn ho, hw₁.rows]

/-- A status update after both. -/
theorem update_after (cfg : Config D) {w₁ : World} (hdoc : doc ∈ w.goals.docs)
    (hw₁ : Created w w₁ (newRow N k title i₁)) (hf : ∀ o, i₃.fault o = false)
    (ha : w.admits i₃ .tasksUpdateStatus doc.userId = true)
    (hn : stoll doc.id.toString = .ok (N, pos)) {t : Int32} {status : String}
    (hs : status ∈ taskStatuses) :
    statusOf ((updateCall doc.userId doc.id.toString t status i₃).run cfg
        (w₁.limited i₂ .tasksList doc.userId)).1 = .kOk ↔
      pos = doc.id.toString.length ∧ ∃ r ∈ w.pg.tasks.rows ++ [newRow N k title i₁],
        r.hit N t.toInt64 = true ∧ r.Converts cfg.narrowing := by
  have hdoc₁ : doc ∈ (w₁.limited i₂ .tasksList doc.userId).goals.docs := by
    rw [World.limited_goals, hw₁.goals]; exact hdoc
  have ha₁ : (w₁.limited i₂ .tasksList doc.userId).admits i₃ .tasksUpdateStatus doc.userId = true := by
    rw [World.limited_admits (by decide), hw₁.admits _ _ _ (by decide)]; exact ha
  rw [update_ok_iff cfg hdoc₁ hf ha₁ hn hs, World.limited_pg, hw₁.rows]

/-- A usable goal meets the conditions. -/
theorem usableWhen_of_usable (cfg : Config D) (hdoc : doc ∈ w.goals.docs)
    (ha₂ : w.admits i₂ .tasksList doc.userId = true)
    (ha₃ : w.admits i₃ .tasksUpdateStatus doc.userId = true) (hf₁ : ∀ o, i₁.fault o = false)
    (hf₂ : ∀ o, i₂.fault o = false) (hf₃ : ∀ o, i₃.fault o = false)
    (h : Usable cfg w doc.userId doc.id.toString title i₁ i₂ i₃) :
    UsableWhen cfg.narrowing w i₁.skip doc.userId doc.id.toString title := by
  obtain ⟨t, hc, ⟨ts, hl, -⟩, hu⟩ := h
  obtain ⟨N, pos, k, htext, hn, ho, hseed, hk, hnew, ht, hw₁⟩ := created hdoc hf₁ hc
  generalize ((createCall doc.userId doc.id.toString title i₁).run cfg w).2 = w₁ at hl hu hw₁
  -- one status is enough to know that the update finds a row
  have hs : "todo" ∈ taskStatuses := by decide
  have hu := hu "todo" hs
  rw [list_after cfg hdoc hw₁ hf₂ ha₂ hn ho] at hl hu
  dsimp only at hu
  obtain ⟨rfl, r, hr, hh, -⟩ := (update_after cfg hdoc hw₁ hf₃ ha₃ hn hs).1 hu
  obtain ⟨h1, h2⟩ := TaskRow.hit_iff.1 hh
  refine ⟨N, k, htext, hn, ho, hseed, hk, hnew, ?_, (mem_taskKeys title i₁).2 ⟨r, hr, by rw [h1, h2, ht]⟩⟩
  by_contra hno
  rw [if_neg (mt (converts_iff_taskKeys title i₁).1 hno)] at hl
  simp at hl

/-- A goal that meets the conditions is usable. -/
theorem usable_of_usableWith (cfg : Config D) (hdoc : doc ∈ w.goals.docs) (ht₁ : 1 ≤ title.length)
    (ht₂ : title.length ≤ 255) (ha₁ : w.admits i₁ .tasksCreate doc.userId = true)
    (ha₂ : w.admits i₂ .tasksList doc.userId = true)
    (ha₃ : w.admits i₃ .tasksUpdateStatus doc.userId = true) (hf₁ : ∀ o, i₁.fault o = false)
    (hf₂ : ∀ o, i₂.fault o = false) (hf₃ : ∀ o, i₃.fault o = false)
    (h : UsableWith cfg.narrowing w i₁.skip doc.userId doc.id.toString title N k) :
    Usable cfg w doc.userId doc.id.toString title i₁ i₂ i₃ := by
  obtain ⟨hc, hw₁⟩ := create_goes cfg i₁ hdoc hf₁ ht₁ ht₂ ha₁ h
  refine ⟨_, hc, ?_⟩
  generalize ((createCall doc.userId doc.id.toString title i₁).run cfg w).2 = w₁ at hw₁
  rw [list_after cfg hdoc hw₁ hf₂ ha₂ h.decimal h.owner,
    if_pos ((converts_iff_taskKeys title i₁).2 h.reads)]
  refine ⟨⟨(w₁.pg.selectTasksByGoal i₂ N).map TaskRow.toTask, rfl, ?_⟩, fun status hs => ?_⟩
  · rw [List.map_map, List.mem_map]
    -- the list has the new row, whatever the order of equal stamps
    have hmem : newRow N k title i₁ ∈ w₁.pg.selectTasksByGoal i₂ N := by
      rw [Postgres.mem_selectTasksByGoal, hw₁.rows]
      exact ⟨List.mem_append_right _ List.mem_cons_self, rfl⟩
    exact ⟨_, hmem, by simp only [Function.comp, TaskRow.toTask, newRow]⟩
  · obtain ⟨r, hr, hp⟩ := (mem_taskKeys title i₁).1 h.swapped
    obtain ⟨h1, h2⟩ := Prod.mk.inj hp
    have hN := h.reads (Int64.ofNat k, N) (List.mem_append_right _ List.mem_cons_self) rfl
    -- the row's goal number is the task's id after narrowing, so it fits an `int`
    have hconv : r.Converts cfg.narrowing := ⟨h1 ▸ hN.2, .inr (by rw [h2]; exact fitsInt_narrowed _)⟩
    exact (update_after cfg hdoc hw₁ hf₃ ha₃ h.decimal hs).2
      ⟨rfl, r, hr, TaskRow.hit_iff.2 ⟨h1, h2⟩, hconv⟩

/-- **Which goals can be used.** For every goal, its owner and every title of 1 to 255
characters, with every call admitted and no store failing: a task can be created, listed
and updated to each status exactly under the conditions of `UsableWith`. -/
theorem goal_usable_iff (cfg : Config D) (w : World) (doc : GoalDoc) (title : String)
    (i₁ i₂ i₃ : Input) (hdoc : doc ∈ w.goals.docs) (ht₁ : 1 ≤ title.length)
    (ht₂ : title.length ≤ 255) (ha₁ : w.admits i₁ .tasksCreate doc.userId = true)
    (ha₂ : w.admits i₂ .tasksList doc.userId = true)
    (ha₃ : w.admits i₃ .tasksUpdateStatus doc.userId = true) (hf₁ : ∀ o, i₁.fault o = false)
    (hf₂ : ∀ o, i₂.fault o = false) (hf₃ : ∀ o, i₃.fault o = false) :
    Usable cfg w doc.userId doc.id.toString title i₁ i₂ i₃ ↔
      UsableWhen cfg.narrowing w i₁.skip doc.userId doc.id.toString title := by
  constructor
  · exact usableWhen_of_usable cfg hdoc ha₂ ha₃ hf₁ hf₂ hf₃
  · rintro ⟨N, k, h⟩
    exact usable_of_usableWith cfg hdoc ht₁ ht₂ ha₁ ha₂ ha₃ hf₁ hf₂ hf₃ h

end

/-- A goal of user 1 whose id begins with a letter. -/
def letterGoal : GoalDoc := ⟨.named "a00000000000000000000000", "books", 1, some ""⟩

def letterWorld : World := { twoUsersWorld with goals := ⟨[letterGoal], by decide⟩ }

/-- Its owner is admitted and cannot create a task in it. -/
theorem letterGoal_unusable :
    letterGoal ∈ letterWorld.goals.docs ∧ letterWorld.admits {} .tasksCreate letterGoal.userId = true ∧
      ¬ Usable (clearConfig .throws) letterWorld letterGoal.userId letterGoal.id.toString "read" {} {} {} := by
  refine ⟨by decide, by decide, fun ⟨t, hc, _⟩ => ?_⟩
  have hres : ((createCall letterGoal.userId letterGoal.id.toString "read" {}).run
      (clearConfig .throws) letterWorld).1 = .ok (makeError .kBadRequest "invalid goalId") := by decide
  rw [hres] at hc
  simp [makeError] at hc

/-- Goal `000000000000000000000001` of user 1 and no tasks yet. -/
def firstGoalWorld : World := { twoUsersWorld with goals := doneWorld.goals }

/-- The first goal with the first task can be used: both numbers are 1. -/
theorem goal_usable_iff_first :
    Usable (clearConfig .throws) firstGoalWorld 1 "000000000000000000000001" "read" {} {} {} ↔
      UsableWhen .throws firstGoalWorld 0 1 "000000000000000000000001" "read" :=
  goal_usable_iff (clearConfig .throws) firstGoalWorld ⟨goalOne, "books", 1, some ""⟩ "read" {} {} {}
    (by decide) (by decide) (by decide) (by decide) (by decide) (by decide) (fun _ => rfl)
    (fun _ => rfl) (fun _ => rfl)

example : UsableWhen .throws firstGoalWorld 0 1 "000000000000000000000001" "read" := by
  refine ⟨1, 1, by decide, by decide, by decide, by decide, by decide, by decide, fun p hp _ => ?_, by decide⟩
  obtain rfl : p = (1, 1) := List.mem_singleton.1 hp
  decide

end Leadertask
