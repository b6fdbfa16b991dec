import Leadertask.Lib.Simulation
import Leadertask.Model.Storages
import Leadertask.Proof.Ownership

/-!
# The task table against the storage in memory

`TasksRepository` keeps the tasks in one table, `TasksStorage` kept each one twice: under
its id, and in the list of its goal.

* `Mirrors`: both copies in the storage are what the table says.
* `mirrors_step`: a call is answered alike on both sides and keeps that.
* `tasks_simulated`: so every sequence of calls is.
* `null_title_refused`: titles with U+0000 are apart, as no column takes one.
-/

namespace Leadertask

open Atomic

variable {D : Type} {cfg : Config D} {i : Input} {w : World} {st : TasksStorage}

/-! ## Operations and their answers -/

/-- The operations of the storage. -/
inductive TaskOp where
  | createTask (goalId : Int64) (title : String)
  | getById (id : Int64)
  | getByGoal (goalId : Int64)
  | updateStatus (goalId taskId : Int64) (status : TaskStatus)

/-- What an operation returns. -/
inductive TaskAnswer where
  | task (t : TaskRecord)
  | found (t : Option TaskRecord)
  | list (ts : List TaskRecord)

def Task.toRecord (t : Task) : TaskRecord := ⟨t.id.toInt64, t.goalId.toInt64, t.title, t.status⟩

def CreateTaskResponseBody.toRecord (t : CreateTaskResponseBody) : TaskRecord :=
  ⟨t.id.toInt64, t.goalId.toInt64, t.title, t.status⟩

/-- The row as the storage keeps it. -/
def TaskRow.toRecord (r : TaskRow) : TaskRecord := ⟨r.id, r.goalId, r.title, r.status⟩

@[simp] theorem TaskRow.toRecord_id (r : TaskRow) : r.toRecord.id = r.id := rfl

def TaskOp.onStorage (st : TasksStorage) : TaskOp → TaskAnswer × TasksStorage
  | .createTask goalId title => let r := st.createTask goalId title; (.task r.1, r.2)
  | .getById id => (.found (st.getById id), st)
  | .getByGoal goalId => (.list (st.getByGoal goalId), st)
  | .updateStatus goalId taskId status =>
    let r := st.updateTaskStatus goalId taskId status; (.found r.1, r.2)

/-- The calls that both classes answer, their arguments by name and a status as its text. -/
inductive TaskCall where
  | createTask (goalId : Int64) (title : String)
  | getById (id : Int64)
  | getByGoal (goalId : Int64)
  | updateStatus (goalId taskId : Int64) (status : String)

def TaskCall.onRepository (cfg : Config D) : TaskCall → Handler TaskAnswer
  | .createTask goalId title => do
    let task ← TasksRepository.createTask cfg goalId title
    return .task task.toRecord
  | .getById id => do
    let task ← TasksRepository.getById cfg id
    return .found (task.map Task.toRecord)
  | .getByGoal goalId => do
    let tasks ← TasksRepository.getByGoal cfg goalId
    return .list (tasks.map Task.toRecord)
  -- the two classes declare the ids in opposite order
  | .updateStatus goalId taskId status => do
    let task ← TasksRepository.updateStatus cfg taskId goalId status
    return .found (task.map Task.toRecord)

/-- The call as an operation of the storage, which takes a status as a `TaskStatus`. -/
def TaskCall.op : TaskCall → Except Exn TaskOp
  | .createTask goalId title => .ok (.createTask goalId title)
  | .getById id => .ok (.getById id)
  | .getByGoal goalId => .ok (.getByGoal goalId)
  | .updateStatus goalId taskId status => (taskStatusFromString status).map (.updateStatus goalId taskId)

def TaskCall.onStorage (st : TasksStorage) (c : TaskCall) : Except Exn TaskAnswer × TasksStorage :=
  match c.op with
  | .error e => (.error e, st)
  | .ok op => (.ok (op.onStorage st).1, (op.onStorage st).2)

/-- A call of the repository with what the environment adds. -/
def repositoryStep (cfg : Config D) (w : World) (x : TaskCall × Input) : Except Exn TaskAnswer × World :=
  (x.1.onRepository cfg).run (World.exec x.2) w

/-- Equal, but for the order of a list. -/
inductive TaskAnswer.Alike : TaskAnswer → TaskAnswer → Prop
  | task (t) : Alike (.task t) (.task t)
  | found (t) : Alike (.found t) (.found t)
  | list {ts ts'} (h : ts.Perm ts') : Alike (.list ts) (.list ts')

/-- Neither class throws, and the repository answers as the storage does. -/
def SameAnswer (r r' : Except Exn TaskAnswer) : Prop := ∃ a a', r = .ok a ∧ r' = .ok a' ∧ a.Alike a'

/-- A call that the tables take: the goal is there, the title fits its column, the status is one of
the three. -/
def TaskCall.Accepted (goalIds : List Int64) : TaskCall → Prop
  | .createTask goalId title => goalId ∈ goalIds ∧ FitsInt goalId ∧ FitsColumn title
  | .updateStatus _ _ status => status ∈ taskStatuses
  | _ => True

def TaskCall.creates : TaskCall → Bool
  | .createTask .. => true
  | _ => false

def TaskOp.creates : TaskOp → Bool
  | .createTask .. => true
  | _ => false

/-! ## The storage -/

namespace TasksStorage

theorem getById_createTask {goalId : Int64} {title : String} (h : st.getById st.nextId = none) (id : Int64) :
    (st.createTask goalId title).2.getById id =
      if id = st.nextId then some (st.createTask goalId title).1 else st.getById id := by
  simp only [createTask, getById]
  rw [UnorderedMap.emplace_new h, UnorderedMap.lookup_insert]

theorem getByGoal_createTask (goalId : Int64) (title : String) (g : Int64) :
    (st.createTask goalId title).2.getByGoal g =
      if g = goalId then st.getByGoal g ++ [(st.createTask goalId title).1] else st.getByGoal g := by
  simp only [createTask, getByGoal]
  rw [UnorderedMap.lookup_insert]
  by_cases h : g = goalId
  · rw [if_pos h, if_pos h, h]; rfl
  · rw [if_neg h, if_neg h]

/-- An update of a missing task or of a task of another goal. -/
theorem updateTaskStatus_miss {goalId taskId : Int64} {status : TaskStatus}
    (h : ∀ t, st.getById taskId = some t → t.goalId ≠ goalId) :
    st.updateTaskStatus goalId taskId status = (none, st) := by
  unfold updateTaskStatus
  rw [getById] at h
  split
  · rfl
  · rename_i task ht
    rw [if_pos (h task ht)]

/-- An update of a goal's task: what it returns, and both copies. -/
theorem updateTaskStatus_hit {goalId taskId : Int64} {t : TaskRecord} (status : TaskStatus)
    (h : st.getById taskId = some t) (hg : t.goalId = goalId) :
    (st.updateTaskStatus goalId taskId status).1 = some { t with status := taskStatusToString status } ∧
      (st.updateTaskStatus goalId taskId status).2.nextId = st.nextId ∧
      (∀ id, (st.updateTaskStatus goalId taskId status).2.getById id =
        if id = taskId then some { t with status := taskStatusToString status } else st.getById id) ∧
      ∀ g, (st.updateTaskStatus goalId taskId status).2.getByGoal g =
        if g = goalId then setStatus taskId (taskStatusToString status) (st.getByGoal g)
        else st.getByGoal g := by
  unfold updateTaskStatus
  rw [getById] at h
  rw [h]
  dsimp only
  rw [if_neg (not_not.2 hg)]
  refine ⟨rfl, rfl, fun id => UnorderedMap.lookup_insert _ _ _ _, fun g => ?_⟩
  simp only [getByGoal]
  cases hl : st.tasksByGoal.lookup goalId with
  | none =>
    dsimp only
    split
    · rename_i hgg
      rw [hgg, hl]; rfl
    · rfl
  | some ts =>
    dsimp only
    rw [UnorderedMap.lookup_insert]
    split
    · rename_i hgg
      rw [hgg, hl]; rfl
    · rfl

/-- Where no id comes twice, the loop, which stops at the first hit, updates the task with
the id. -/
theorem setStatus_eq {taskId : Int64} {status : String} {ts : List TaskRecord}
    (h : (ts.map TaskRecord.id).Nodup) : setStatus taskId status ts =
      Rows.updateWhere (·.id = taskId) (fun t => { t with status := status }) ts := by
  induction ts with
  | nil => rfl
  | cons t ts ih =>
    rw [List.map_cons, List.nodup_cons] at h
    rw [setStatus, Rows.updateWhere_cons]
    by_cases hid : t.id = taskId
    · -- `break`: no later task has the id
      have hrest : ∀ x ∈ ts, decide (x.id = taskId) = false := by
        intro x hx
        rw [decide_eq_false_iff_not]
        intro hxid
        exact h.1 (List.mem_map.2 ⟨x, hx, hxid.trans hid.symm⟩)
      rw [if_pos hid, if_pos (by simp [hid]), Rows.updateWhere_of_none hrest]
    · rw [if_neg hid, if_neg (by simp [hid]), ih h.2]

end TasksStorage

/-! ## The relation -/

/-- Both copies of the tasks in the storage are what the table says, and both sides have
numbered `n` tasks. -/
structure Mirrors (n : ℕ) (w : World) (st : TasksStorage) : Prop where
  seq : w.pg.tasksSeq = n
  next : st.nextId = Int64.ofNat (n + 1)
  ids : ∀ r ∈ w.pg.tasks.rows, ∃ k ≤ n, r.id = Int64.ofNat k
  goals : ∀ r ∈ w.pg.tasks.rows, FitsInt r.goalId
  byId : ∀ id, st.getById id = (w.pg.tasks.rows.find? (·.id = id)).map TaskRow.toRecord
  byGoal : ∀ g, st.getByGoal g = (w.pg.tasks.rows.filter (·.goalId = g)).map TaskRow.toRecord

theorem mirrors_empty (hrows : w.pg.tasks.rows = []) (hseq : w.pg.tasksSeq = 0) : Mirrors 0 w {} where
  seq := hseq
  next := rfl
  ids := by simp [hrows]
  goals := by simp [hrows]
  byId := by simp [hrows, TasksStorage.getById]
  byGoal := by simp [hrows, TasksStorage.getByGoal]

theorem toInt_ofNat {k : ℕ} (h : k < 2 ^ 31) : (Int64.ofNat k).toInt = k :=
  Int64.toInt_ofNat_of_lt (by omega)

theorem fitsInt_ofNat {k : ℕ} (h : k < 2 ^ 31) : FitsInt (Int64.ofNat k) := by
  rw [fitsInt_iff, toInt_ofNat h]; omega

namespace Mirrors

variable {n : ℕ}

/-- The next number is new. -/
theorem new (h : Mirrors n w st) (hn : n + 1 < 2 ^ 31) :
    Int64.ofNat (n + 1) ∉ w.pg.tasks.rows.map TaskRow.id := by
  intro hmem
  obtain ⟨r, hr, hid⟩ := List.mem_map.1 hmem
  obtain ⟨k, hk, hrk⟩ := h.ids r hr
  have := congrArg Int64.toInt (hrk.symm.trans hid)
  rw [toInt_ofNat (by omega), toInt_ofNat hn] at this
  omega

/-- Every row can be read into the generated types. -/
theorem converts (h : Mirrors n w st) (hn : n < 2 ^ 31) {r : TaskRow} (hr : r ∈ w.pg.tasks.rows) :
    FitsInt r.id ∧ FitsInt r.goalId := by
  obtain ⟨k, hk, hrk⟩ := h.ids r hr
  exact ⟨hrk ▸ fitsInt_ofNat (by omega), h.goals r hr⟩

end Mirrors

/-- A row that fits reads back as the record that the storage keeps. -/
theorem readTask_fits (cfg : Config D) {r : TaskRow} (h : FitsInt r.id ∧ FitsInt r.goalId) :
    TasksRepository.readTask cfg r = .ok r.toTask ∧ r.toTask.toRecord = r.toRecord := by
  refine ⟨(TasksRepository.readTask_eq cfg r).trans (if_pos ⟨.inr h.1, .inr h.2⟩), ?_⟩
  have h₁ : r.id.toInt32.toInt64 = r.id := h.1
  have h₂ : r.goalId.toInt32.toInt64 = r.goalId := h.2
  rw [Task.toRecord, TaskRow.toTask, TaskRow.toRecord, h₁, h₂]

/-- The loop over a goal's list updates the row that the statement's `WHERE` meets. -/
theorem setStatus_map {taskId g : Int64} {status : String} {rows : List TaskRow}
    (hkey : (rows.map TaskRow.id).Nodup) (hg : ∀ r ∈ rows, r.goalId = g) :
    TasksStorage.setStatus taskId status (rows.map TaskRow.toRecord) =
      (Rows.updateWhere (TaskRow.hit taskId g) (TaskRow.withStatus status) rows).map TaskRow.toRecord := by
  have hids : ((rows.map TaskRow.toRecord).map TaskRecord.id).Nodup := by
    rw [List.map_map]; exact hkey
  rw [TasksStorage.setStatus_eq hids, Rows.updateWhere, Rows.updateWhere, List.map_map, List.map_map]
  apply List.map_congr_left
  intro r hr
  by_cases hid : r.id = taskId
  · have hhit : r.hit taskId g = true := TaskRow.hit_iff.2 ⟨hid, hg r hr⟩
    simp only [Function.comp, hhit, if_true]
    rw [if_pos (show decide (r.toRecord.id = taskId) = true from decide_eq_true hid)]
    rfl
  · have hmiss : r.hit taskId g = false := by
      by_contra hh
      exact hid (TaskRow.hit_iff.1 (by simpa using hh)).1
    simp only [Function.comp, TaskRow.toRecord_id, hid, hmiss, decide_false, Bool.false_eq_true, if_false]

/-- The row that an update meets is the one found under its id. -/
theorem TasksTable.find_hit {t : TasksTable} {goalId taskId : Int64} {r : TaskRow} (hr : r ∈ t.rows)
    (hh : r.hit taskId goalId = true) : t.rows.find? (·.id = taskId) = some r := by
  obtain ⟨rfl, -⟩ := TaskRow.hit_iff.1 hh
  exact Rows.find_of_mem t.idKey hr

namespace Mirrors

variable {n : ℕ} {goalId taskId : Int64} {r : TaskRow}

/-- The record of a row that an update meets. -/
theorem getById_hit (h : Mirrors n w st) (hr : r ∈ w.pg.tasks.rows) (hh : r.hit taskId goalId = true) :
    st.getById taskId = some r.toRecord := by
  rw [h.byId, TasksTable.find_hit hr hh]; rfl

/-- An update of a task changes both copies as it changes the row. -/
theorem setStatus (h : Mirrors n w st) (status : TaskStatus)
    (hs : taskStatusToString status ∈ taskStatuses) (hr : r ∈ w.pg.tasks.rows)
    (hh : r.hit taskId goalId = true) :
    Mirrors n { w with pg := { w.pg with
      tasks := w.pg.tasks.setStatus taskId goalId (taskStatusToString status) hs } }
      (st.updateTaskStatus goalId taskId status).2 := by
  obtain ⟨hid, hg⟩ := TaskRow.hit_iff.1 hh
  obtain ⟨-, h2, h3, h4⟩ := TasksStorage.updateTaskStatus_hit status (h.getById_hit hr hh) hg
  refine ⟨h.seq, h2.trans h.next, fun x hx => ?_, fun x hx => ?_, fun id => ?_, fun g => ?_⟩
  · rcases Rows.mem_updateWhere.1 hx with ⟨y, hy, -, rfl⟩ | ⟨hx, -⟩
    · exact h.ids y hy
    · exact h.ids x hx
  · rcases Rows.mem_updateWhere.1 hx with ⟨y, hy, -, rfl⟩ | ⟨hx, -⟩
    · exact h.goals y hy
    · exact h.goals x hx
  · have hkeep : (w.pg.tasks.setStatus taskId goalId (taskStatusToString status) hs).rows.find?
        (·.id = id) = (w.pg.tasks.rows.find? (·.id = id)).map _ :=
      Rows.find_updateWhere fun _ => rfl
    rw [h3, hkeep]
    by_cases he : id = taskId
    · rw [if_pos he, he, TasksTable.find_hit hr hh, Option.map_some, if_pos hh]; rfl
    · rw [if_neg he, h.byId]
      cases hf : w.pg.tasks.rows.find? (·.id = id) with
      | none => rfl
      | some y =>
        have hy : y.id = id := by simpa using List.find?_some hf
        rw [Option.map_some, Option.map_some,
          if_neg fun hh => he (hy.symm.trans (TaskRow.hit_iff.1 hh).1), Option.map_some]
  · have hkeep : (w.pg.tasks.setStatus taskId goalId (taskStatusToString status) hs).rows.filter
        (·.goalId = g) = Rows.updateWhere _ _ (w.pg.tasks.rows.filter (·.goalId = g)) :=
      Rows.filter_updateWhere fun _ => rfl
    rw [h4, hkeep, h.byGoal]
    by_cases he : g = goalId
    · rw [if_pos he, ← he]
      exact setStatus_map (w.pg.tasks.idKey.sublist (List.filter_sublist.map _))
        fun r hr => by simpa using List.of_mem_filter hr
    · rw [if_neg he, Rows.updateWhere_of_none]
      intro x hx
      by_contra hxh
      have hxg : x.goalId = g := by simpa using List.of_mem_filter hx
      exact he (hxg.symm.trans (TaskRow.hit_iff.1 (by simpa using hxh)).2)

end Mirrors

/-! ## One operation -/

/-- Every status that the check constraint admits is one of the storage's. -/
theorem taskStatusFromString_of_mem {s : String} (h : s ∈ taskStatuses) :
    ∃ st, taskStatusFromString s = .ok st := by
  simp only [taskStatuses, List.mem_cons, List.not_mem_nil, or_false] at h
  rcases h with rfl | rfl | rfl
  · exact ⟨.todo, rfl⟩
  · exact ⟨.inProgress, rfl⟩
  · exact ⟨.done, rfl⟩

section

variable (cfg) {n : ℕ} (hi : i.skip = 0 ∧ ∀ o, i.fault o = false)
include hi

theorem mirrors_createTask (h : Mirrors n w st) (hn : n + 1 < 2 ^ 31) {goalId : Int64} {title : String}
    (hacc : (TaskCall.createTask goalId title).Accepted w.pg.goalIds) :
    ∃ w', repositoryStep cfg w (.createTask goalId title, i) =
        (.ok (.task (st.createTask goalId title).1), w') ∧
      Mirrors (n + 1) w' (st.createTask goalId title).2 ∧ w'.pg.goalIds = w.pg.goalIds := by
  obtain ⟨hg, hfit, htitle⟩ := hacc
  have hnext : nextval w.pg.tasksSeq i.skip = .ok (n + 1) := by
    rw [nextval, h.seq, hi.1, if_pos (by omega)]
  obtain ⟨⟨row, pg'⟩, hins⟩ := Postgres.insertTask_of i w.pg hnext (h.new hn)
    (storable_of_fits htitle) hg
  have hseq := Postgres.insertTask_seq hins hnext
  obtain ⟨⟨k, hk, -, hrow⟩, hrows, -, -, hgoals⟩ := Postgres.insertTask_ok hins
  obtain rfl : n + 1 = k := Except.ok.inj (hnext.symm.trans hk)
  have hrec : row.toRecord = (st.createTask goalId title).1 := by
    rw [hrow, asColumn_of_le htitle.2, TasksStorage.createTask, h.next]; rfl
  have hfits : FitsInt row.id ∧ FitsInt row.goalId := by
    rw [hrow]; exact ⟨fitsInt_ofNat hn, hfit⟩
  refine ⟨{ w with pg := pg' }, ?_, ?_, hgoals⟩
  · have hrun : (TasksRepository.createTask cfg goalId title).run (World.exec i) w =
        (TasksRepository.readCreateTaskResponseBody cfg row, { w with pg := pg' }) := by
      rcases TasksRepository.createTask_run (i := i) (w := w) cfg goalId title with
        ⟨row₁, pg₁, hins₁, hrun⟩ | ⟨-, hf | ⟨e, he⟩⟩
      · obtain ⟨rfl, rfl⟩ := Prod.mk.inj (Except.ok.inj (hins.symm.trans hins₁))
        exact hrun
      · rw [hi.2] at hf; simp at hf
      · rw [hins] at he; simp at he
    obtain ⟨hread, hback⟩ := readTask_fits cfg hfits
    rw [repositoryStep, TaskCall.onRepository, Prog.bind_eq, Prog.run_andThen, hrun,
      TasksRepository.readCreateTaskResponseBody_eq, hread, ← hrec, ← hback]
    rfl
  · have hold := h.new hn
    refine ⟨hseq, ?_, ?_, ?_, ?_, ?_⟩
    · rw [TasksStorage.createTask, h.next]
      exact (Int64.ofNat_add _ _).symm
    · intro r hr
      rcases List.mem_append.1 (hrows ▸ hr) with hr | hr
      · obtain ⟨k, hk, hrk⟩ := h.ids r hr
        exact ⟨k, by omega, hrk⟩
      · obtain rfl := List.mem_singleton.1 hr
        exact ⟨n + 1, le_rfl, by rw [hrow]⟩
    · intro r hr
      rcases List.mem_append.1 (hrows ▸ hr) with hr | hr
      · exact h.goals r hr
      · obtain rfl := List.mem_singleton.1 hr
        exact hfits.2
    · intro id
      have hid : row.id = st.nextId := by rw [hrow, h.next]
      have hnew : row.id ∉ w.pg.tasks.rows.map TaskRow.id := by rw [hid, h.next]; exact hold
      have hnone : st.getById st.nextId = none := by
        rw [h.byId, Option.map_eq_none_iff, List.find?_eq_none]
        intro r hr he
        exact hnew (List.mem_map.2 ⟨r, hr, by rw [hid]; simpa using he⟩)
      rw [TasksStorage.getById_createTask hnone, h.byId, hrows, Rows.find_append_new hnew, hid, ← hrec]
      split <;> rfl
    · intro g
      have hgoal : row.goalId = goalId := by rw [hrow]
      rw [TasksStorage.getByGoal_createTask, h.byGoal, hrows, Rows.filter_append_row, hgoal, ← hrec]
      split
      · rw [List.map_append]; rfl
      · rfl

theorem mirrors_getById (h : Mirrors n w st) (hn : n < 2 ^ 31) (id : Int64) :
    repositoryStep cfg w (.getById id, i) = (.ok (.found (st.getById id)), w) := by
  simp only [repositoryStep, TaskCall.onRepository, TasksRepository.getById, execute, Prog.bind_eq,
    Prog.run_andThen, Prog.run_perform, World.exec, hi.2, Bool.false_eq_true, if_false, Postgres.exec]
  rw [h.byId]
  rcases Rows.find_cases w.pg.tasks.idKey id with ⟨h1, hno⟩ | ⟨r, hr, -, h1, h2⟩
  · have h2 : w.pg.tasks.rows.filter (·.id = id) = [] :=
      List.filter_eq_nil_iff.2 fun r hr => by simpa using hno r hr
    rw [h1, h2]; rfl
  · obtain ⟨hread, hrec⟩ := readTask_fits cfg (h.converts hn hr)
    rw [h1, h2]
    simp [asSingleRow, hread, hrec, bind, Except.bind]

theorem mirrors_getByGoal (h : Mirrors n w st) (hn : n < 2 ^ 31) (g : Int64) :
    ∃ ts, repositoryStep cfg w (.getByGoal g, i) = (.ok (.list ts), w) ∧
      ts.Perm (st.getByGoal g) := by
  have hall : ∀ r ∈ w.pg.selectTasksByGoal i g, TasksRepository.readTask cfg r = .ok r.toTask ∧
      r.toTask.toRecord = r.toRecord := fun r hr =>
    readTask_fits cfg (h.converts hn (Postgres.mem_selectTasksByGoal.1 hr).1)
  refine ⟨(w.pg.selectTasksByGoal i g).map TaskRow.toRecord, ?_, ?_⟩
  · have hlist : ((w.pg.selectTasksByGoal i g).map TaskRow.toTask).map Task.toRecord =
        (w.pg.selectTasksByGoal i g).map TaskRow.toRecord := by
      rw [List.map_map]
      exact List.map_congr_left fun r hr => (hall r hr).2
    simp only [repositoryStep, TaskCall.onRepository, TasksRepository.getByGoal, execute, Prog.bind_eq,
      Prog.run_andThen, Prog.run_perform, World.exec, hi.2, Bool.false_eq_true, if_false,
      Postgres.exec, mapM_ok fun r hr => (hall r hr).1, Prog.run_ofExcept, hlist]
    rfl
  · rw [h.byGoal g]
    exact (List.mergeSort_perm _ _).map TaskRow.toRecord

theorem mirrors_updateStatus (h : Mirrors n w st) (hn : n < 2 ^ 31) (goalId taskId : Int64)
    {status : String} {newSt : TaskStatus} (hs : status ∈ taskStatuses) (hst : taskStatusToString newSt = status) :
    ∃ w', repositoryStep cfg w (.updateStatus goalId taskId status, i) =
        (.ok (.found (st.updateTaskStatus goalId taskId newSt).1), w') ∧
      Mirrors n w' (st.updateTaskStatus goalId taskId newSt).2 ∧ w'.pg.goalIds = w.pg.goalIds := by
  subst hst
  rcases TaskRow.hit_or_miss w.pg.tasks.rows taskId goalId with ⟨r, hr, hh⟩ | hmiss
  · have hfits : FitsInt (r.withStatus (taskStatusToString newSt)).id ∧
        FitsInt (r.withStatus (taskStatusToString newSt)).goalId :=
      (show FitsInt r.id ∧ FitsInt r.goalId from h.converts hn hr)
    obtain ⟨hread, hback⟩ := readTask_fits cfg hfits
    refine ⟨_, ?_, h.setStatus newSt hs hr hh, rfl⟩
    rw [repositoryStep, TaskCall.onRepository, Prog.bind_eq, Prog.run_andThen,
      TasksRepository.updateStatus_hit hs (hi.2 _) hr hh, hread,
      (TasksStorage.updateTaskStatus_hit newSt (h.getById_hit hr hh) (TaskRow.hit_iff.1 hh).2).1]
    simp only [Except.map, Option.map_some, hback, Prog.pure_eq, Prog.run_ret]
    rfl
  · -- no row has both ids, and no record has
    have hother : ∀ t, st.getById taskId = some t → t.goalId ≠ goalId := by
      intro t ht hg
      rw [h.byId] at ht
      obtain ⟨r, hr, rfl⟩ := Option.map_eq_some_iff.1 ht
      have hid : r.id = taskId := by simpa using List.find?_some hr
      have hhit : r.hit taskId goalId = true := TaskRow.hit_iff.2 ⟨hid, hg⟩
      simp [hmiss r (List.mem_of_find?_eq_some hr)] at hhit
    rw [TasksStorage.updateTaskStatus_miss hother]
    refine ⟨w, ?_, h, rfl⟩
    rw [repositoryStep, TaskCall.onRepository, Prog.bind_eq, Prog.run_andThen,
      TasksRepository.updateStatus_none cfg hs (hi.2 _) hmiss]
    rfl

/-- **One call** is answered alike on both sides, and keeps the relation. -/
theorem mirrors_step (c : TaskCall) (h : Mirrors n w st) (hacc : c.Accepted w.pg.goalIds)
    (hn : n + (if c.creates then 1 else 0) < 2 ^ 31) :
    SameAnswer (repositoryStep cfg w (c, i)).1 (c.onStorage st).1 ∧
      Mirrors (n + (if c.creates then 1 else 0)) (repositoryStep cfg w (c, i)).2 (c.onStorage st).2 ∧
      (repositoryStep cfg w (c, i)).2.pg.goalIds = w.pg.goalIds := by
  cases c with
  | createTask goalId title =>
    obtain ⟨w', hrun, hm, hg⟩ := mirrors_createTask cfg hi h hn hacc
    rw [hrun]
    exact ⟨⟨_, _, rfl, rfl, .task _⟩, hm, hg⟩
  | getById id =>
    rw [mirrors_getById cfg hi h hn]
    exact ⟨⟨_, _, rfl, rfl, .found _⟩, h, rfl⟩
  | getByGoal goalId =>
    obtain ⟨ts, hrun, hp⟩ := mirrors_getByGoal cfg hi h hn goalId
    rw [hrun]
    exact ⟨⟨_, _, rfl, rfl, .list hp⟩, h, rfl⟩
  | updateStatus goalId taskId status =>
    obtain ⟨newSt, hnew⟩ := taskStatusFromString_of_mem hacc
    obtain ⟨w', hrun, hm, hg⟩ :=
      mirrors_updateStatus cfg hi h hn goalId taskId hacc (taskStatusFromString_ok_iff.1 hnew)
    have hop : (TaskCall.updateStatus goalId taskId status).op = .ok (.updateStatus goalId taskId newSt) := by
      rw [TaskCall.op, hnew]; rfl
    rw [hrun, TaskCall.onStorage, hop]
    exact ⟨⟨_, _, rfl, rfl, .found _⟩, hm, hg⟩

end

/-! ## Sequences of operations -/

/-- **The task table simulates the storage in memory.** From no tasks on, every sequence of
calls that the tables take, alone on one host, is answered alike step by step. -/
theorem tasks_simulated (cfg : Config D) {w : World} {cs : List (TaskCall × Input)}
    (hrows : w.pg.tasks.rows = []) (hseq : w.pg.tasksSeq = 0)
    (hinput : ∀ x ∈ cs, x.2.skip = 0 ∧ ∀ o, x.2.fault o = false)
    (haccepted : ∀ x ∈ cs, x.1.Accepted w.pg.goalIds)
    (hcount : cs.countP (fun x => x.1.creates) < 2 ^ 31) :
    List.Forall₂ SameAnswer (Machine.outputs (repositoryStep cfg) w cs)
      (Machine.outputs (fun st c => TaskCall.onStorage st c) {} (cs.map Prod.fst)) := by
  -- what is still to come has room for its numbers
  let R (rest : List (TaskCall × Input)) (w' : World) (st : TasksStorage) : Prop :=
    ∃ n, Mirrors n w' st ∧ n + rest.countP (fun x => x.1.creates) < 2 ^ 31 ∧
      w'.pg.goalIds = w.pg.goalIds ∧ rest <:+ cs
  refine Machine.outputs_simulated (R := R) Prod.fst ?_ cs
    ⟨0, mirrors_empty hrows hseq, by omega, rfl, List.suffix_rfl⟩
  rintro ⟨c, i⟩ rest w' st ⟨n, hm, hn, hg, hrest⟩
  have hmem : (c, i) ∈ cs := hrest.subset List.mem_cons_self
  rw [List.countP_cons] at hn
  obtain ⟨hsame, hm', hg'⟩ := mirrors_step cfg (hinput _ hmem) c hm
    (hg ▸ haccepted _ hmem) (by dsimp only at hn; omega)
  exact ⟨hsame, _, hm', by dsimp only at hn; omega, hg'.trans hg, (List.suffix_cons _ _).trans hrest⟩

/-- Two goals and no tasks. -/
def noTasksWorld : World := { emptyWorld with pg := { emptyWorld.pg with goalIds := [1, 2] } }

/-- A task is created, asked for under the other goal, done, and listed. -/
def someTaskCalls : List (TaskCall × Input) :=
  [(.createTask 1 "read", {}), (.updateStatus 2 1 "in_progress", {}), (.updateStatus 1 1 "done", {}),
    (.getById 1, {}), (.getById 7, {}), (.getByGoal 1, {}), (.getByGoal 2, {})]

theorem someTaskCalls_simulated :
    List.Forall₂ SameAnswer (Machine.outputs (repositoryStep (clearConfig .throws)) noTasksWorld someTaskCalls)
      (Machine.outputs (fun st c => TaskCall.onStorage st c) {} (someTaskCalls.map Prod.fst)) := by
  have hgoal : (1 : Int64) ∈ noTasksWorld.pg.goalIds ∧ FitsInt 1 ∧ FitsColumn "read" := by decide
  refine tasks_simulated (clearConfig .throws) rfl rfl ?_ ?_ (by decide)
  · simp [someTaskCalls]
  · simp [someTaskCalls, TaskCall.Accepted, hgoal, taskStatuses]

/-- A title of one character, U+0000. -/
def nullTitle : String := String.ofList ['\x00']

/-- The goal is there, and the title is short; but the repository throws where the storage takes the
task. -/
theorem null_title_refused :
    nullTitle.length ≤ 255 ∧ (1 : Int64) ∈ noTasksWorld.pg.goalIds ∧
      ¬ List.Forall₂ SameAnswer
        (Machine.outputs (repositoryStep (clearConfig .throws)) noTasksWorld [(.createTask 1 nullTitle, {})])
        (Machine.outputs (fun st c => TaskCall.onStorage st c) {} [.createTask 1 nullTitle]) := by
  refine ⟨by decide, by decide, fun h => ?_⟩
  have hthrows : Machine.outputs (repositoryStep (clearConfig .throws)) noTasksWorld
      [(.createTask 1 nullTitle, {})] = [.error .characterNotInRepertoire] := rfl
  rw [hthrows] at h
  obtain ⟨⟨a, -, ha, -⟩, -⟩ := List.forall₂_cons.1 h
  simp at ha

end Leadertask
