import Leadertask.Proof.TaskSimulation

/-!
# The two indexes of the tasks in memory

`TasksStorage` keeps every task twice, under its id and in the list of its goal. Both are
views of one list, the `TaskLog`, in which the tasks stand in the order of their creation.

* `keeps_step`: an operation on the storage is that operation on the list.
* `task_indexes_agree`: after every sequence of operations both indexes hold the same tasks.
-/

namespace Leadertask

/-! ## The list of tasks -/

/-- The task with this id, if it belongs to this goal. -/
def TaskRecord.hit (taskId goalId : Int64) (t : TaskRecord) : Bool := t.id = taskId && t.goalId = goalId

def TaskRecord.withStatus (status : String) (t : TaskRecord) : TaskRecord := { t with status := status }

theorem TaskRecord.hit_iff {taskId goalId : Int64} {t : TaskRecord} :
    t.hit taskId goalId = true ↔ t.id = taskId ∧ t.goalId = goalId := by
  simp [TaskRecord.hit]

/-- The tasks in the order of their creation, numbered from 1 on. -/
structure TaskLog where
  tasks : List TaskRecord
  numbered : Rows.Numbered Int64.ofNat TaskRecord.id tasks

namespace TaskLog

variable (l : TaskLog)

def empty : TaskLog := ⟨[], Rows.numbered_nil⟩

def createTask (goalId : Int64) (title : String) : TaskRecord × TaskLog :=
  let task : TaskRecord := ⟨Int64.ofNat (l.tasks.length + 1), goalId, title, taskStatusToString .todo⟩
  (task, ⟨l.tasks ++ [task], l.numbered.append rfl⟩)

def updateTaskStatus (goalId taskId : Int64) (newSt : TaskStatus) : Option TaskRecord × TaskLog :=
  let set := TaskRecord.withStatus (taskStatusToString newSt)
  ((l.tasks.find? (TaskRecord.hit taskId goalId)).map set,
    ⟨Rows.updateWhere (TaskRecord.hit taskId goalId) set l.tasks, l.numbered.updateWhere fun _ => rfl⟩)

/-- One operation on the list. -/
def step : TaskOp → TaskAnswer × TaskLog
  | .createTask goalId title => let r := l.createTask goalId title; (.task r.1, r.2)
  | .getById id => (.found (l.tasks.find? (·.id = id)), l)
  | .getByGoal goalId => (.list (l.tasks.filter (·.goalId = goalId)), l)
  | .updateStatus goalId taskId status => let r := l.updateTaskStatus goalId taskId status; (.found r.1, r.2)

variable {l}

theorem find_hit (h : l.tasks.length < 2 ^ 63) {t : TaskRecord} (ht : t ∈ l.tasks) :
    l.tasks.find? (·.id = t.id) = some t ∧ l.tasks.find? (TaskRecord.hit t.id t.goalId) = some t := by
  refine ⟨Rows.find_of_mem (l.numbered.nodup h) ht, ?_⟩
  have hone : l.tasks.filter (TaskRecord.hit t.id t.goalId) = [t] :=
    Rows.filter_eq_singleton (l.numbered.nodup h) ht (TaskRecord.hit_iff.2 ⟨rfl, rfl⟩) fun x hx =>
      (TaskRecord.hit_iff.1 hx).1
  rw [← List.head?_filter, hone, List.head?_cons]

end TaskLog

/-! ## The storage is that list -/

/-- The counter and both indexes are what the list says. -/
structure TasksStorage.Keeps (st : TasksStorage) (l : TaskLog) : Prop where
  next : st.nextId = Int64.ofNat (l.tasks.length + 1)
  byId : ∀ id, st.getById id = l.tasks.find? (·.id = id)
  byGoal : ∀ g, st.getByGoal g = l.tasks.filter (·.goalId = g)

variable {st : TasksStorage} {l : TaskLog}

theorem keeps_empty : TasksStorage.Keeps {} .empty := ⟨rfl, fun _ => rfl, fun _ => rfl⟩

theorem keeps_createTask (h : st.Keeps l) (hn : l.tasks.length + 1 < 2 ^ 63) (goalId : Int64)
    (title : String) : (st.createTask goalId title).1 = (l.createTask goalId title).1 ∧
      (st.createTask goalId title).2.Keeps (l.createTask goalId title).2 := by
  have hsame : (st.createTask goalId title).1 = (l.createTask goalId title).1 := by
    simp only [TasksStorage.createTask, TaskLog.createTask, h.next]
  have hnew := l.numbered.next_new hn
  refine ⟨hsame, ?_, fun id => ?_, fun g => ?_⟩
  · simp only [TasksStorage.createTask, TaskLog.createTask, h.next, List.length_append,
      List.length_singleton]
    exact (Int64.ofNat_add _ _).symm
  · have hnone : st.getById st.nextId = none := by
      rw [h.byId, h.next, List.find?_eq_none]
      intro t ht he
      exact hnew (List.mem_map.2 ⟨t, ht, by simpa using he⟩)
    rw [TasksStorage.getById_createTask hnone, hsame, h.byId, h.next]
    exact (Rows.find_append_new (r := (l.createTask goalId title).1) hnew id).symm
  · rw [TasksStorage.getByGoal_createTask, hsame, h.byGoal]
    exact (Rows.filter_append_row TaskRecord.goalId (l.createTask goalId title).1 g).symm

/-- An update of a task of the goal: the counter and both indexes. -/
theorem keeps_update_hit (h : st.Keeps l) (hn : l.tasks.length < 2 ^ 63) {t : TaskRecord}
    (ht : t ∈ l.tasks) (status : TaskStatus) :
    (st.updateTaskStatus t.goalId t.id status).1 = (l.updateTaskStatus t.goalId t.id status).1 ∧
      (st.updateTaskStatus t.goalId t.id status).2.Keeps (l.updateTaskStatus t.goalId t.id status).2 := by
  have hth : t.hit t.id t.goalId = true := TaskRecord.hit_iff.2 ⟨rfl, rfl⟩
  obtain ⟨hid, hfind⟩ := TaskLog.find_hit hn ht
  obtain ⟨h1, h2, h3, h4⟩ := TasksStorage.updateTaskStatus_hit status ((h.byId t.id).trans hid) rfl
  refine ⟨h1.trans ?_, h2.trans (h.next.trans ?_), fun id => ?_, fun g => ?_⟩
  · simp only [TaskLog.updateTaskStatus, hfind]; rfl
  · simp only [TaskLog.updateTaskStatus, Rows.updateWhere, List.length_map]
  · have hkeep : (Rows.updateWhere (TaskRecord.hit t.id t.goalId)
          (TaskRecord.withStatus (taskStatusToString status)) l.tasks).find? (·.id = id) =
        (l.tasks.find? (·.id = id)).map fun x =>
          if x.hit t.id t.goalId then x.withStatus (taskStatusToString status) else x :=
      Rows.find_updateWhere fun _ => rfl
    rw [h3, TaskLog.updateTaskStatus, hkeep, h.byId]
    by_cases he : id = t.id
    · rw [if_pos he, he, hid, Option.map_some, if_pos hth]; rfl
    · rw [if_neg he]
      cases hf : l.tasks.find? (·.id = id) with
      | none => rfl
      | some x =>
        have hx : x.id = id := by simpa using List.find?_some hf
        rw [Option.map_some, if_neg fun hxh => he (hx.symm.trans (TaskRecord.hit_iff.1 hxh).1)]
  · have hkeep : (Rows.updateWhere (TaskRecord.hit t.id t.goalId)
          (TaskRecord.withStatus (taskStatusToString status)) l.tasks).filter (·.goalId = g) =
        Rows.updateWhere (TaskRecord.hit t.id t.goalId)
          (TaskRecord.withStatus (taskStatusToString status)) (l.tasks.filter (·.goalId = g)) :=
      Rows.filter_updateWhere fun _ => rfl
    have hgoal : ∀ x ∈ l.tasks.filter (·.goalId = g), x.goalId = g := fun x hx =>
      of_decide_eq_true (List.mem_filter.1 hx).2
    rw [h4, TaskLog.updateTaskStatus, hkeep, h.byGoal]
    split
    · rename_i hg
      have hids := (l.numbered.nodup hn).sublist ((List.filter_sublist (p := (·.goalId = g))).map TaskRecord.id)
      rw [TasksStorage.setStatus_eq hids]
      -- in the list of its goal, the id alone tells the task
      apply List.map_congr_left
      intro x hx
      have hcond : x.hit t.id t.goalId = decide (x.id = t.id) := by
        simp [TaskRecord.hit, hgoal x hx, hg]
      rw [hcond]
      rfl
    · rename_i hg
      rw [Rows.updateWhere_of_none]
      intro x hx
      by_contra hxh
      exact hg ((hgoal x hx).symm.trans (TaskRecord.hit_iff.1 (by simpa using hxh)).2)

/-- An update of a task that is missing or belongs to another goal. -/
theorem keeps_update_miss (h : st.Keeps l) {goalId taskId : Int64} (status : TaskStatus)
    (hmiss : ∀ t ∈ l.tasks, t.hit taskId goalId = false) :
    (st.updateTaskStatus goalId taskId status).1 = (l.updateTaskStatus goalId taskId status).1 ∧
      (st.updateTaskStatus goalId taskId status).2.Keeps (l.updateTaskStatus goalId taskId status).2 := by
  have hother : ∀ t, st.getById taskId = some t → t.goalId ≠ goalId := by
    intro t ht hg
    rw [h.byId] at ht
    have hid : t.id = taskId := by simpa using List.find?_some ht
    have hth := hmiss t (List.mem_of_find?_eq_some ht)
    rw [TaskRecord.hit_iff.2 ⟨hid, hg⟩] at hth
    simp at hth
  have hnone : l.tasks.find? (TaskRecord.hit taskId goalId) = none :=
    List.find?_eq_none.2 fun t ht => by simp [hmiss t ht]
  have hsame : (l.updateTaskStatus goalId taskId status).2.tasks = l.tasks :=
    Rows.updateWhere_of_none hmiss
  rw [TasksStorage.updateTaskStatus_miss hother]
  refine ⟨by simp only [TaskLog.updateTaskStatus, hnone]; rfl, ?_, ?_, ?_⟩ <;> rw [hsame]
  · exact h.next
  · exact h.byId
  · exact h.byGoal

/-- **One operation** on the storage is that operation on the list. -/
theorem keeps_step (op : TaskOp) (h : st.Keeps l)
    (hn : l.tasks.length + (if op.creates then 1 else 0) < 2 ^ 63) :
    (op.onStorage st).1 = (l.step op).1 ∧ (op.onStorage st).2.Keeps (l.step op).2 ∧
      (l.step op).2.tasks.length = l.tasks.length + (if op.creates then 1 else 0) := by
  cases op with
  | createTask goalId title =>
    obtain ⟨h1, h2⟩ := keeps_createTask h hn goalId title
    exact ⟨congrArg TaskAnswer.task h1, h2, List.length_append⟩
  | getById id => exact ⟨congrArg TaskAnswer.found (h.byId id), h, rfl⟩
  | getByGoal g => exact ⟨congrArg TaskAnswer.list (h.byGoal g), h, rfl⟩
  | updateStatus goalId taskId status =>
    have hlen : (l.updateTaskStatus goalId taskId status).2.tasks.length = l.tasks.length := List.length_map _
    by_cases hhit : ∃ t ∈ l.tasks, t.hit taskId goalId = true
    · obtain ⟨t, ht, hth⟩ := hhit
      obtain ⟨rfl, rfl⟩ := TaskRecord.hit_iff.1 hth
      obtain ⟨h1, h2⟩ := keeps_update_hit h hn ht status
      exact ⟨congrArg TaskAnswer.found h1, h2, hlen⟩
    · have hmiss : ∀ t ∈ l.tasks, t.hit taskId goalId = false := fun t ht => by
        by_contra hth
        exact hhit ⟨t, ht, by simpa using hth⟩
      obtain ⟨h1, h2⟩ := keeps_update_miss h status hmiss
      exact ⟨congrArg TaskAnswer.found h1, h2, hlen⟩

/-! ## Sequences of operations -/

/-- The storage after the operations, from the empty one on. -/
def TasksStorage.after (ops : List TaskOp) : TasksStorage :=
  Machine.final (fun st op => TaskOp.onStorage st op) {} ops

/-- The storage after the operations is a list of as many tasks as were created. -/
theorem keeps_after {ops : List TaskOp} (h : ops.countP TaskOp.creates < 2 ^ 63) :
    ∃ l : TaskLog, (TasksStorage.after ops).Keeps l ∧ l.tasks.length = ops.countP TaskOp.creates := by
  -- what is still to come has room for its numbers
  let R (rest : List TaskOp) (st : TasksStorage) (l : TaskLog) : Prop :=
    st.Keeps l ∧ l.tasks.length + rest.countP TaskOp.creates = ops.countP TaskOp.creates
  have hstep : ∀ op rest st l, R (op :: rest) st l →
      R rest (TaskOp.onStorage st op).2 (TaskLog.step l (id op)).2 := by
    rintro op rest st l ⟨hk, hn⟩
    rw [List.countP_cons] at hn
    obtain ⟨-, hk', hlen⟩ := keeps_step op hk (by omega)
    exact ⟨hk', by rw [id_eq, hlen]; omega⟩
  have hrun : R [] (TasksStorage.after ops) (Machine.final TaskLog.step .empty (ops.map id)) :=
    Machine.final_simulated id hstep ops ⟨keeps_empty, Nat.zero_add _⟩
  exact ⟨_, hrun⟩

/-- The update sets the task's status in both indexes and changes nothing else. -/
structure TasksStorage.SetsOnly (st st' : TasksStorage) (t : TaskRecord) (status : String) : Prop where
  next : st'.nextId = st.nextId
  byId : ∀ id, st'.getById id = if id = t.id then some { t with status := status } else st.getById id
  byGoal : ∀ g, st'.getByGoal g =
    (st.getByGoal g).map fun x => if x.id = t.id then { x with status := status } else x

/-- Both indexes hold the same tasks: `GetByGoal` lists those of the goal by increasing id, each
as `GetById` has it, and a status update of one of them changes it in both. -/
structure TasksStorage.Agrees (st : TasksStorage) : Prop where
  key : ∀ id t, st.getById id = some t → t.id = id
  listed : ∀ g t, t ∈ st.getByGoal g ↔ st.getById t.id = some t ∧ t.goalId = g
  ascending : ∀ g, (st.getByGoal g).Pairwise fun a b => a.id < b.id
  miss : ∀ goalId taskId status, (∀ t, st.getById taskId = some t → t.goalId ≠ goalId) →
    st.updateTaskStatus goalId taskId status = (none, st)
  hit : ∀ t status, st.getById t.id = some t →
    (st.updateTaskStatus t.goalId t.id status).1 = some { t with status := taskStatusToString status } ∧
      st.SetsOnly (st.updateTaskStatus t.goalId t.id status).2 t (taskStatusToString status)

/-- Every stored id lies below the counter. -/
def TasksStorage.Below (st : TasksStorage) : Prop := ∀ id t, st.getById id = some t → id < st.nextId

theorem agrees_of_keeps (h : st.Keeps l) (hn : l.tasks.length < 2 ^ 63) : st.Agrees := by
  have hfound : ∀ id t, st.getById id = some t ↔ t ∈ l.tasks ∧ t.id = id := fun id t => by
    rw [h.byId]; exact Rows.find_eq_some_iff (l.numbered.nodup hn)
  have hlisted : ∀ g t, t ∈ st.getByGoal g ↔ st.getById t.id = some t ∧ t.goalId = g := by
    intro g t
    rw [h.byGoal, List.mem_filter, decide_eq_true_eq, hfound]
    simp only [and_true]
  have hasc : ∀ g, (st.getByGoal g).Pairwise fun a b => a.id < b.id := by
    intro g
    rw [h.byGoal]
    exact (l.numbered.ascending hn).sublist List.filter_sublist
  refine ⟨fun id t ht => ((hfound id t).1 ht).2, hlisted, hasc,
    fun goalId taskId status hno => TasksStorage.updateTaskStatus_miss hno, fun t status ht => ?_⟩
  obtain ⟨h1, h2, h3, h4⟩ := TasksStorage.updateTaskStatus_hit status ht rfl
  refine ⟨h1, h2, h3, fun g => ?_⟩
  rw [h4]
  split
  · have hids : ((st.getByGoal g).map TaskRecord.id).Nodup := by
      rw [h.byGoal]
      exact (l.numbered.nodup hn).sublist (List.filter_sublist.map _)
    rw [TasksStorage.setStatus_eq hids]
    simp only [Rows.updateWhere, decide_eq_true_eq]
  · -- the lists of other goals do not have the task
    rename_i hg
    have hsame : ∀ x ∈ st.getByGoal g,
        (if x.id = t.id then { x with status := taskStatusToString status } else x) = x := by
      intro x hx
      obtain ⟨hxid, hxg⟩ := (hlisted g x).1 hx
      rw [if_neg]
      intro he
      rw [he, ht] at hxid
      exact hg (by rw [Option.some.inj hxid, hxg])
    rw [List.map_congr_left hsame, List.map_id']

theorem below_of_keeps (h : st.Keeps l) (hn : l.tasks.length + 1 < 2 ^ 63) : st.Below := by
  intro id t ht
  rw [h.byId] at ht
  have hid : t.id = id := by simpa using List.find?_some ht
  rw [h.next, ← hid]
  exact l.numbered.lt_next hn (List.mem_of_find?_eq_some ht)

/-- **The indexes agree** after every sequence of fewer than `2 ^ 63` creations and any updates,
and the ids stay below the counter as long as it has not passed the last number. -/
theorem task_indexes_agree {ops : List TaskOp} (h : ops.countP TaskOp.creates < 2 ^ 63) :
    (TasksStorage.after ops).Agrees ∧
      (ops.countP TaskOp.creates < 2 ^ 63 - 1 → (TasksStorage.after ops).Below) := by
  obtain ⟨l, hk, hlen⟩ := keeps_after h
  exact ⟨agrees_of_keeps hk (by omega), fun hlt => below_of_keeps hk (by omega)⟩

/-- A task is created, asked for under the other goal, done, and listed. -/
def someTaskOps : List TaskOp :=
  [.createTask 1 "read", .updateStatus 2 1 .inProgress, .updateStatus 1 1 .done, .getById 1, .getById 7, .getByGoal 1,
    .getByGoal 2]

theorem someTaskOps_agree : (TasksStorage.after someTaskOps).Agrees ∧
    (someTaskOps.countP TaskOp.creates < 2 ^ 63 - 1 →
      (TasksStorage.after someTaskOps).Below) := task_indexes_agree (by decide)

/-- `n` tasks in one goal. -/
def createTimes (n : ℕ) : List TaskOp := List.replicate n (.createTask 1 "read")

theorem countP_createTimes (n : ℕ) : (createTimes n).countP TaskOp.creates = n := by
  have hcreates : (TaskOp.createTask 1 "read").creates = true := rfl
  rw [createTimes, List.countP_replicate, if_pos hcreates]

/-- The creation that takes the last number moves the counter past it. -/
theorem counter_overflows : (createTimes (2 ^ 63 - 1)).countP TaskOp.creates < 2 ^ 63 ∧
    ¬ (TasksStorage.after (createTimes (2 ^ 63 - 1))).Below := by
  have hcount := countP_createTimes (2 ^ 63 - 1)
  have hlt : (createTimes (2 ^ 63 - 1)).countP TaskOp.creates < 2 ^ 63 := by rw [hcount]; omega
  refine ⟨hlt, fun hbelow => ?_⟩
  obtain ⟨l, hk, hlen⟩ := keeps_after hlt
  rw [hcount] at hlen
  -- task 1 is there, and the counter is negative
  obtain ⟨t, ht, hid⟩ := List.mem_map.1 (l.numbered.mem_keys.2 ⟨1, le_rfl, by omega, rfl⟩)
  have hfound : (TasksStorage.after (createTimes (2 ^ 63 - 1))).getById t.id = some t := by
    rw [hk.byId]
    exact Rows.find_of_mem (l.numbered.nodup (by omega)) ht
  have hnext := hbelow t.id t hfound
  rw [hk.next, hlen, hid] at hnext
  exact absurd hnext (by decide)

end Leadertask
