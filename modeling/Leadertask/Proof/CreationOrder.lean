import Leadertask.Proof.TaskSimulation

/-!
# The order of a task list

`GetByGoal` sorts by `created_at`, a stamp that two tasks may share; the storage in memory
listed the tasks as `push_back` had put them.

* `selects_in_order_iff`: the rows come in the order of their creation, whatever becomes of
  equal stamps, exactly when the goal's stamps differ.
* `creation_order_kept`: so does `GetByGoal` in every state of a run whose inserts find no task
  of their goal with their stamp and get numbers that a response can hold.
-/

namespace Leadertask

open Atomic

variable {D : Type} {cfg : Config D} {i : Input} {w : World} {g : Int64}

/-! ## Runs of creations and updates -/

inductive TaskWrite where
  | createTask (goalId : Int64) (title : String)
  | updateStatus (taskId goalId : Int64) (newStatus : String)

def TaskWrite.creates : TaskWrite → Bool
  | .createTask .. => true
  | .updateStatus .. => false

/-- The world after an operation of the repository. -/
def TaskWrite.world (cfg : Config D) (i : Input) (w : World) : TaskWrite → World
  | .createTask goalId title => ((TasksRepository.createTask cfg goalId title).run (World.exec i) w).2
  | .updateStatus taskId goalId newStatus =>
    ((TasksRepository.updateStatus cfg taskId goalId newStatus).run (World.exec i) w).2

/-- The world after the operations, one at a time. -/
def World.afterWrites (cfg : Config D) (w : World) (ops : List (TaskWrite × Input)) : World :=
  ops.foldl (fun w x => x.1.world cfg x.2 w) w

/-- The goal and the stamp of a task, which no operation changes. -/
def TaskRow.place (r : TaskRow) : Int64 × ℤ := (r.goalId, r.createdAt)

def World.places (w : World) : List (Int64 × ℤ) := w.pg.tasks.rows.map TaskRow.place

/-- The insert goes through. -/
def World.inserts (i : Input) (w : World) (goalId : Int64) (title : String) : Bool :=
  !i.fault (.execute .kMaster (.insertTask goalId title)) && (w.pg.insertTask i goalId title).isOk

/-- The number that the sequence gives to an insert. -/
def World.nextTaskId (i : Input) (w : World) : Int64 := Int64.ofNat (w.pg.tasksSeq + 1 + i.skip)

/-- An insert finds no task of its goal with its stamp, and the task's numbers can be read into a
response. -/
def TaskWrite.Listable (cfg : Config D) (i : Input) (w : World) : TaskWrite → Prop
  | .createTask goalId title => w.inserts i goalId title = true →
      (goalId, i.stamp) ∉ w.places ∧ FitsInt (w.nextTaskId i) ∧ cfg.narrowing.Reads goalId
  | .updateStatus .. => True

/-- So it is with every operation of a run. -/
def World.Listable (cfg : Config D) (w : World) : List (TaskWrite × Input) → Prop
  | [] => True
  | (op, i) :: ops => op.Listable cfg i w ∧ (op.world cfg i w).Listable cfg ops

/-- A creation adds the row of the next number and the insert's stamp, or nothing. -/
theorem createTask_world (cfg : Config D) (i : Input) (w : World) (goalId : Int64) (title : String) :
    TaskWrite.world cfg i w (.createTask goalId title) = w ∨
      w.inserts i goalId title = true ∧ w.pg.tasksSeq + 1 + i.skip < 2 ^ 63 ∧
        (TaskWrite.world cfg i w (.createTask goalId title)).pg.tasksSeq = w.pg.tasksSeq + 1 + i.skip ∧
        (TaskWrite.world cfg i w (.createTask goalId title)).pg.tasks.rows =
          w.pg.tasks.rows ++ [⟨w.nextTaskId i, goalId, asColumn title, "todo", i.stamp⟩] := by
  simp only [TaskWrite.world, TasksRepository.createTask_eq]
  cases hf : i.fault (.execute .kMaster (.insertTask goalId title)) with
  | true => exact .inl rfl
  | false =>
    cases hins : w.pg.insertTask i goalId title with
    | error e => exact .inl rfl
    | ok p =>
      obtain ⟨row, pg'⟩ := p
      obtain ⟨⟨k, hk, -, hrow⟩, hrows, -⟩ := Postgres.insertTask_ok hins
      have hseq := Postgres.insertTask_seq hins hk
      obtain ⟨rfl, hmax⟩ := nextval_ok hk
      have hinserts : w.inserts i goalId title = true := by
        rw [World.inserts, hf, hins]; rfl
      refine .inr ⟨hinserts, hmax, hseq, ?_⟩
      rw [World.nextTaskId, ← hrow]
      exact hrows

/-- An update sets the status of some rows. -/
theorem updateStatus_world (cfg : Config D) (i : Input) (w : World) (taskId goalId : Int64)
    (newStatus : String) :
    (TaskWrite.world cfg i w (.updateStatus taskId goalId newStatus)).pg.tasksSeq = w.pg.tasksSeq ∧
      ∃ p, (TaskWrite.world cfg i w (.updateStatus taskId goalId newStatus)).pg.tasks.rows =
        Rows.updateWhere p (TaskRow.withStatus newStatus) w.pg.tasks.rows := by
  simp only [TaskWrite.world]
  by_cases h : newStatus ∈ taskStatuses →
      i.fault (.execute .kMaster (.updateTaskStatus taskId goalId newStatus)) = false →
      ∀ r ∈ w.pg.tasks.rows, r.hit taskId goalId = false
  · obtain ⟨r, hrun, -⟩ := TasksRepository.updateStatus_miss cfg taskId goalId newStatus h
    rw [hrun]
    exact ⟨rfl, fun _ => false, (Rows.updateWhere_of_none fun _ _ => rfl).symm⟩
  · simp only [not_forall] at h
    obtain ⟨hs, hf, r, hr, hh⟩ := h
    rw [TasksRepository.updateStatus_hit hs hf hr (by simpa using hh)]
    exact ⟨rfl, _, rfl⟩

/-- It leaves every task its goal and its stamp. -/
theorem updateStatus_places (cfg : Config D) (i : Input) (w : World) (taskId goalId : Int64)
    (newStatus : String) :
    (TaskWrite.world cfg i w (.updateStatus taskId goalId newStatus)).places = w.places := by
  obtain ⟨-, p, hrows⟩ := updateStatus_world cfg i w taskId goalId newStatus
  rw [World.places, hrows, Rows.map_updateWhere (f := TaskRow.withStatus newStatus) fun _ => rfl]
  rfl

/-- The stamps of each goal are distinct, and every task's numbers can be read into a response. -/
structure World.Lists (cfg : Config D) (w : World) : Prop where
  untied : w.places.Nodup
  ids : ∀ r ∈ w.pg.tasks.rows, FitsInt r.id
  goals : ∀ r ∈ w.pg.tasks.rows, cfg.narrowing.Reads r.goalId

theorem World.lists_empty (cfg : Config D) (h : w.pg.tasks.rows = []) : w.Lists cfg := by
  constructor <;> simp [World.places, h]

/-- A status update keeps that. -/
theorem World.Lists.updateStatus (h : w.Lists cfg) (i : Input) (taskId goalId : Int64) (newStatus : String) :
    (TaskWrite.world cfg i w (.updateStatus taskId goalId newStatus)).Lists cfg := by
  obtain ⟨-, p, hrows⟩ := updateStatus_world cfg i w taskId goalId newStatus
  -- each row has the numbers of one that was there before
  have hold : ∀ r ∈ (TaskWrite.world cfg i w (.updateStatus taskId goalId newStatus)).pg.tasks.rows,
      ∃ r₀ ∈ w.pg.tasks.rows, r₀.id = r.id ∧ r₀.goalId = r.goalId := by
    intro r hr
    rcases Rows.mem_updateWhere.1 (hrows ▸ hr) with ⟨r₀, hr₀, -, rfl⟩ | ⟨hr, -⟩
    · exact ⟨r₀, hr₀, rfl, rfl⟩
    · exact ⟨r, hr, rfl, rfl⟩
  refine ⟨by rw [updateStatus_places]; exact h.untied, fun r hr => ?_, fun r hr => ?_⟩
  · obtain ⟨r₀, hr₀, hid, -⟩ := hold r hr
    exact hid ▸ h.ids r₀ hr₀
  · obtain ⟨r₀, hr₀, -, hgoal⟩ := hold r hr
    exact hgoal ▸ h.goals r₀ hr₀

/-- An insert that meets the condition keeps it too. -/
theorem World.Lists.step {op : TaskWrite} (h : w.Lists cfg) (hop : op.Listable cfg i w) :
    (op.world cfg i w).Lists cfg := by
  cases op with
  | createTask goalId title =>
    rcases createTask_world cfg i w goalId title with hw | ⟨hinserts, -, -, hrows⟩
    · rw [hw]; exact h
    · obtain ⟨hnew, hid, hgoal⟩ := hop hinserts
      refine ⟨?_, ?_, ?_⟩
      · rw [World.places, hrows]
        refine Rows.nodup_append h.untied ?_
        exact hnew
      · rw [hrows]
        exact List.forall_mem_append.2 ⟨h.ids, List.forall_mem_singleton.2 hid⟩
      · rw [hrows]
        exact List.forall_mem_append.2 ⟨h.goals, List.forall_mem_singleton.2 hgoal⟩
  | updateStatus taskId goalId newStatus => exact h.updateStatus i taskId goalId newStatus

theorem World.Lists.run {ops : List (TaskWrite × Input)} (h : w.Lists cfg) (hops : w.Listable cfg ops) :
    (w.afterWrites cfg ops).Lists cfg := by
  induction ops generalizing w with
  | nil => exact h
  | cons x ops ih =>
    obtain ⟨op, i⟩ := x
    obtain ⟨hop, hrest⟩ := hops
    exact ih (h.step hop) hrest

/-- The beginning of such a run is one. -/
theorem World.Listable.of_append {done rest : List (TaskWrite × Input)}
    (h : w.Listable cfg (done ++ rest)) : w.Listable cfg done := by
  induction done generalizing w with
  | nil => exact trivial
  | cons x done ih =>
    obtain ⟨op, i⟩ := x
    exact ⟨h.1, ih h.2⟩

/-! ## Tasks in the order of their creation -/

/-- The rows stand in the order of their creation: ids ascend, up to the sequence's last
number, and stamps do not descend. -/
structure World.Ordered (w : World) : Prop where
  ids : (w.pg.tasks.rows.map TaskRow.id).Pairwise (· < ·)
  seq : ∀ n ∈ w.pg.tasks.rows.map TaskRow.id, ∃ k ≤ w.pg.tasksSeq, k < 2 ^ 63 ∧ n = Int64.ofNat k
  stamps : (w.pg.tasks.rows.map TaskRow.createdAt).Pairwise (· ≤ ·)

theorem World.ordered_empty (h : w.pg.tasks.rows = []) : w.Ordered := by
  constructor <;> simp [h]

/-- A creation keeps the order if its stamp is not before those that are there. -/
theorem World.Ordered.step (h : w.Ordered) (cfg : Config D) (op : TaskWrite)
    (hstamp : op.creates = true → ∀ t ∈ w.pg.tasks.rows.map TaskRow.createdAt, t ≤ i.stamp) :
    (op.world cfg i w).Ordered := by
  cases op with
  | createTask goalId title =>
    rcases createTask_world cfg i w goalId title with hw | ⟨-, hmax, hseq, hrows⟩
    · rw [hw]; exact h
    · refine ⟨?_, ?_, ?_⟩ <;> rw [hrows, List.map_append]
      · refine List.pairwise_append.2 ⟨h.ids, List.pairwise_singleton _ _, fun n hn m hm => ?_⟩
        obtain ⟨j, hj, hj63, rfl⟩ := h.seq n hn
        rw [List.map_singleton, List.mem_singleton] at hm
        rw [hm]
        exact (Int64.ofNat_lt_iff_lt hj63 hmax).2 (by omega)
      · intro n hn
        rw [hseq]
        rcases List.mem_append.1 hn with hn | hn
        · obtain ⟨j, hj, hj63, rfl⟩ := h.seq n hn
          exact ⟨j, by omega, hj63, rfl⟩
        · rw [List.map_singleton, List.mem_singleton] at hn
          exact ⟨_, le_rfl, hmax, hn⟩
      · refine List.pairwise_append.2 ⟨h.stamps, List.pairwise_singleton _ _, fun t ht t' ht' => ?_⟩
        rw [List.map_singleton, List.mem_singleton] at ht'
        rw [ht']
        exact hstamp rfl t ht
  | updateStatus taskId goalId newStatus =>
    obtain ⟨hseq, p, hrows⟩ := updateStatus_world cfg i w taskId goalId newStatus
    refine ⟨?_, ?_, ?_⟩ <;> rw [hrows, Rows.map_updateWhere (f := TaskRow.withStatus newStatus) fun _ => rfl]
    · exact h.ids
    · rw [hseq]; exact h.seq
    · exact h.stamps

/-- A stamp was there before, or it is that of the creation. -/
theorem stamp_step (cfg : Config D) (i : Input) (w : World) (op : TaskWrite) {t : ℤ}
    (ht : t ∈ (op.world cfg i w).pg.tasks.rows.map TaskRow.createdAt) :
    t ∈ w.pg.tasks.rows.map TaskRow.createdAt ∨ (op.creates = true ∧ t = i.stamp) := by
  cases op with
  | createTask goalId title =>
    rcases createTask_world cfg i w goalId title with hw | ⟨-, -, -, hrows⟩
    · rw [hw] at ht
      exact .inl ht
    · rw [hrows, List.map_append, List.map_singleton, List.mem_append, List.mem_singleton] at ht
      exact ht.imp id fun he => ⟨rfl, he⟩
  | updateStatus taskId goalId newStatus =>
    obtain ⟨-, p, hrows⟩ := updateStatus_world cfg i w taskId goalId newStatus
    rw [hrows, Rows.map_updateWhere (f := TaskRow.withStatus newStatus) fun _ => rfl] at ht
    exact .inl ht

/-- The stamps of creations do not descend. -/
def StampsAscend (ops : List (TaskWrite × Input)) : Prop :=
  ops.Pairwise fun x y => x.1.creates = true → y.1.creates = true → x.2.stamp ≤ y.2.stamp

theorem World.Ordered.run (h : w.Ordered) (cfg : Config D) {ops : List (TaskWrite × Input)}
    (hops : StampsAscend ops)
    (hnext : ∀ t ∈ w.pg.tasks.rows.map TaskRow.createdAt, ∀ x ∈ ops, x.1.creates = true → t ≤ x.2.stamp) :
    (w.afterWrites cfg ops).Ordered := by
  induction ops generalizing w with
  | nil => exact h
  | cons x ops ih =>
    obtain ⟨op, i⟩ := x
    obtain ⟨hx, hrest⟩ := List.pairwise_cons.1 hops
    have hstep := h.step (i := i) cfg op fun hc t ht => hnext t ht _ List.mem_cons_self hc
    refine ih hstep hrest fun t ht y hy hc => ?_
    rcases stamp_step cfg i w op ht with ht | ⟨hcreates, rfl⟩
    · exact hnext t ht y (List.mem_cons_of_mem _ hy) hc
    · exact hx y hy hcreates hc

/-! ## Sorting by the stamp -/

/-- The rows come sorted by their stamps, and those with equal stamps by their ranks. -/
theorem Postgres.selectTasksByGoal_sorted (i : Input) (pg : Postgres) (g : Int64) :
    (pg.selectTasksByGoal i g).Pairwise fun a b =>
      a.createdAt < b.createdAt ∨ (a.createdAt = b.createdAt ∧ i.rank a.id ≤ i.rank b.id) := by
  let before (a b : TaskRow) : Bool :=
    a.createdAt < b.createdAt || (a.createdAt = b.createdAt && i.rank a.id ≤ i.rank b.id)
  have htrans : ∀ a b c, before a b = true → before b c = true → before a c = true := by
    intro a b c hab hbc
    simp only [before, Bool.or_eq_true, Bool.and_eq_true, decide_eq_true_eq] at hab hbc ⊢
    omega
  have htotal : ∀ a b, (before a b || before b a) = true := by
    intro a b
    simp only [before, Bool.or_eq_true, Bool.and_eq_true, decide_eq_true_eq]
    omega
  have hsorted := List.pairwise_mergeSort htrans htotal (pg.tasks.rows.filter (·.goalId = g))
  refine hsorted.imp fun {a b} hab => ?_
  simpa only [before, Bool.or_eq_true, Bool.and_eq_true, decide_eq_true_eq] using hab

/-- **When the sort keeps the order**, whatever becomes of equal stamps: when there are none
in the goal. -/
theorem selects_in_order_iff (h : w.Ordered) (g : Int64) :
    (∀ i, w.pg.selectTasksByGoal i g = w.pg.tasks.rows.filter (·.goalId = g)) ↔
      (w.pg.tasks.rows.filter (·.goalId = g)).Pairwise fun a b => a.createdAt < b.createdAt := by
  have hids : (w.pg.tasks.rows.filter (·.goalId = g)).Pairwise fun a b => a.id < b.id :=
    (List.pairwise_map.1 h.ids).sublist List.filter_sublist
  have hstamps : (w.pg.tasks.rows.filter (·.goalId = g)).Pairwise fun a b => a.createdAt ≤ b.createdAt :=
    (List.pairwise_map.1 h.stamps).sublist List.filter_sublist
  constructor
  · intro hall
    rw [List.pairwise_iff_forall_sublist]
    intro a b hab
    have hid : a.id < b.id := List.pairwise_iff_forall_sublist.1 hids hab
    have hle : a.createdAt ≤ b.createdAt := List.pairwise_iff_forall_sublist.1 hstamps hab
    by_contra hlt
    -- rank the earlier one of two equal stamps last
    let last : Input := { rank := fun id => if id = a.id then 1 else 0 }
    have hsorted := w.pg.selectTasksByGoal_sorted last g
    rw [hall last] at hsorted
    rcases List.pairwise_iff_forall_sublist.1 hsorted hab with h' | ⟨-, hrank⟩
    · exact hlt h'
    · have hne : b.id ≠ a.id := fun he => Int64.lt_irrefl (he ▸ hid)
      simp only [last, if_neg hne, if_true] at hrank
      omega
  · intro hlt i
    refine List.mergeSort_of_pairwise (hlt.imp fun {a b} hab => ?_)
    rw [decide_eq_true hab, Bool.true_or]

/-! ## `GetByGoal` -/

/-- `GetByGoal` answers with a list that is read off these rows, in this order, whatever becomes of
equal stamps: they are the goal's tasks in the order of their creation. -/
structure InCreationOrder (cfg : Config D) (w : World) (g : Int64) (rows : List TaskRow) : Prop where
  tasks : rows.Perm (w.pg.tasks.rows.filter (·.goalId = g))
  ascending : rows.Pairwise fun a b => a.id < b.id
  listed : ∃ ts, rows.mapM (TasksRepository.readTask cfg) = .ok ts ∧
    (ts.Pairwise fun a b => a.id < b.id) ∧
    ∀ i : Input, i.fault (.execute .kSlave (.selectTasksByGoal g)) = false →
      ((TasksRepository.getByGoal cfg g).run (World.exec i) w).1 = .ok ts

/-- Every goal's list is in the order of creation, and a status update leaves the tasks in it
where they are. -/
def OrderKept (cfg : Config D) (w : World) : Prop :=
  ∀ g, ∃ rows, InCreationOrder cfg w g rows ∧ ∀ (i : Input) (taskId goalId : Int64) (newStatus : String),
    ∃ rows', InCreationOrder cfg ((TaskWrite.updateStatus taskId goalId newStatus).world cfg i w) g rows' ∧
      rows'.map TaskRow.id = rows.map TaskRow.id

/-- Numbers that fit keep their order in a response. -/
theorem toInt32_lt {m n : Int64} (hm : FitsInt m) (hn : FitsInt n) (h : m < n) : m.toInt32 < n.toInt32 := by
  rw [Int64.lt_iff_toInt_lt, ← hm, ← hn, Int32.toInt_toInt64, Int32.toInt_toInt64] at h
  exact Int32.lt_iff_toInt_lt.2 h

/-- Without equal stamps in a goal, its tasks are listed as they were created. -/
theorem World.Ordered.listed (h : w.Ordered) (hlists : w.Lists cfg) (g : Int64) :
    InCreationOrder cfg w g (w.pg.tasks.rows.filter (·.goalId = g)) := by
  have hids : (w.pg.tasks.rows.filter (·.goalId = g)).Pairwise fun a b => a.id < b.id :=
    (List.pairwise_map.1 h.ids).sublist List.filter_sublist
  have hplaces : (w.pg.tasks.rows.filter (·.goalId = g)).Pairwise fun a b => a.place ≠ b.place :=
    (List.pairwise_map.1 hlists.untied).sublist List.filter_sublist
  have hstamps : (w.pg.tasks.rows.filter (·.goalId = g)).Pairwise fun a b => a.createdAt ≤ b.createdAt :=
    (List.pairwise_map.1 h.stamps).sublist List.filter_sublist
  have hlt : (w.pg.tasks.rows.filter (·.goalId = g)).Pairwise fun a b => a.createdAt < b.createdAt := by
    refine (hplaces.and hstamps).imp_of_mem fun {a b} ha hb hab => ?_
    have hag : a.goalId = g := of_decide_eq_true (List.mem_filter.1 ha).2
    have hbg : b.goalId = g := of_decide_eq_true (List.mem_filter.1 hb).2
    -- one goal, so the stamps differ
    refine lt_of_le_of_ne hab.2 fun he => hab.1 ?_
    rw [TaskRow.place, TaskRow.place, hag, hbg, he]
  have hread : (w.pg.tasks.rows.filter (·.goalId = g)).mapM (TasksRepository.readTask cfg) =
      .ok ((w.pg.tasks.rows.filter (·.goalId = g)).map TaskRow.toTask) := by
    refine (TasksRepository.mapM_readTask cfg _).trans (if_pos fun r hr => ?_)
    have hr := List.mem_of_mem_filter hr
    exact ⟨.inr (hlists.ids r hr), hlists.goals r hr⟩
  refine ⟨List.Perm.refl _, hids, _, hread, ?_, fun i hf => ?_⟩
  · refine List.pairwise_map.2 (hids.imp_of_mem fun {a b} ha hb hab => ?_)
    exact toInt32_lt (hlists.ids a (List.mem_of_mem_filter ha)) (hlists.ids b (List.mem_of_mem_filter hb)) hab
  · rw [TasksRepository.getByGoal_run, hf, (selects_in_order_iff h g).2 hlt i]
    exact hread

theorem World.Ordered.kept (h : w.Ordered) (hlists : w.Lists cfg) : OrderKept cfg w := by
  intro g
  refine ⟨_, h.listed hlists g, fun i taskId goalId newStatus => ?_⟩
  obtain ⟨-, p, hrows⟩ := updateStatus_world cfg i w taskId goalId newStatus
  have h' := h.step (i := i) cfg (.updateStatus taskId goalId newStatus) fun hno => by simp [TaskWrite.creates] at hno
  refine ⟨_, h'.listed (hlists.updateStatus i taskId goalId newStatus) g, ?_⟩
  have hfilter : (Rows.updateWhere p (TaskRow.withStatus newStatus) w.pg.tasks.rows).filter (·.goalId = g) =
      Rows.updateWhere p (TaskRow.withStatus newStatus) (w.pg.tasks.rows.filter (·.goalId = g)) :=
    Rows.filter_updateWhere fun _ => rfl
  rw [hrows, hfilter, Rows.map_updateWhere (f := TaskRow.withStatus newStatus) fun _ => rfl]

/-- **Where the task lists keep the order of creation.** In every run from no tasks on whose
inserts find no task of their goal with their stamp and get numbers that a response can hold, every
state has its lists in the order in which the tasks were created, and no status update changes it. -/
theorem creation_order_kept (cfg : Config D) {w : World} {ops : List (TaskWrite × Input)}
    (hrows : w.pg.tasks.rows = []) (hstamps : StampsAscend ops) (hlistable : w.Listable cfg ops) :
    ∀ done, done <+: ops → OrderKept cfg (w.afterWrites cfg done) := by
  rintro done ⟨rest, rfl⟩
  have hlists : (w.afterWrites cfg done).Lists cfg := (World.lists_empty cfg hrows).run hlistable.of_append
  have hordered : (w.afterWrites cfg done).Ordered := by
    refine (World.ordered_empty hrows).run cfg (hstamps.sublist (List.sublist_append_left _ _)) ?_
    intro t ht
    rw [hrows] at ht
    exact absurd ht List.not_mem_nil
  exact hordered.kept hlists

/-- Two tasks in one goal, a second apart, and the first one done. -/
def readAndWrite : List (TaskWrite × Input) :=
  [(.createTask 1 "read", { stamp := 1 }), (.createTask 1 "write", { stamp := 2 }),
    (.updateStatus 1 1 "done", {})]

theorem readAndWrite_order :
    OrderKept (clearConfig .throws) (noTasksWorld.afterWrites (clearConfig .throws) readAndWrite) := by
  have hstamps : StampsAscend readAndWrite := by simp [StampsAscend, readAndWrite, TaskWrite.creates]
  have hlistable : noTasksWorld.Listable (clearConfig .throws) readAndWrite :=
    ⟨fun _ => by decide, fun _ => by decide, trivial, trivial⟩
  exact creation_order_kept (clearConfig .throws) rfl hstamps hlistable readAndWrite List.prefix_rfl

/-- Two tasks in one goal, created in one microsecond. -/
def readAndWriteAtOnce : List (TaskWrite × Input) :=
  [(.createTask 1 "read", { stamp := 1 }), (.createTask 1 "write", { stamp := 1 })]

theorem mergeSort_pair {α : Type} (le : α → α → Bool) (a b : α) :
    [a, b].mergeSort le = if le a b then [a, b] else [b, a] := by
  simp [List.mergeSort, List.merge]

/-- Their order in the list is not settled. -/
theorem equal_stamps_reorder : StampsAscend readAndWriteAtOnce ∧
    ¬ OrderKept (clearConfig .throws) (noTasksWorld.afterWrites (clearConfig .throws) readAndWriteAtOnce) := by
  refine ⟨by simp [StampsAscend, readAndWriteAtOnce], fun hkept => ?_⟩
  obtain ⟨rows, hrows, -⟩ := hkept 1
  let readRow : TaskRow := ⟨1, 1, "read", "todo", 1⟩
  let writeRow : TaskRow := ⟨2, 1, "write", "todo", 1⟩
  have hgoal : (noTasksWorld.afterWrites (clearConfig .throws) readAndWriteAtOnce).pg.tasks.rows.filter
      (·.goalId = 1) = [readRow, writeRow] := by decide
  obtain ⟨ts, -, -, hlisted⟩ := hrows.listed
  simp only [TasksRepository.getByGoal_run, Postgres.selectTasksByGoal, hgoal, mergeSort_pair] at hlisted
  -- the same rows, read in both orders
  have h1 := hlisted {} rfl
  have h2 := hlisted { rank := fun id => if id = 1 then 1 else 0 } rfl
  rw [← h1] at h2
  exact absurd h2 (by decide)

end Leadertask
