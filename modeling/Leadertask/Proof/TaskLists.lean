import Leadertask.Proof.Interleaved
import Leadertask.Proof.Usable

/-!
# Task lists in every interleaving

Tasks hang on the number that `stoll` reads at the front of the goal's id. The invariant
ties the rows that convert to the answered creations, in order.

* `lists_exact_iff`: task lists are exact per goal, in every run over a set of goal ids,
  exactly if no two ids of the set begin with the same number.
-/

namespace Leadertask

open Atomic

variable {D : Type} {cfg : Config D} {S : Oid → Prop}

/-- A request with the user data that authentication left. -/
abbrev Authed := HttpRequest × RequestContext

abbrev Entry := Answer Authed Exn HttpResponse World

/-- The handler of an authenticated request. -/
def handle (cfg : Config D) (q : Authed) : Handler HttpResponse := dispatch cfg q.1 q.2

/-! ## What is claimed of the answers -/

/-- The task of an entry that answered 201 to tasks-create on goal `g`. -/
def createdOn (g : Oid) (a : Entry) : Option (Int32 × Int32 × String) :=
  if a.req.1.endpoint = .tasksCreate ∧ Oid.ofString a.req.1.goalId = .ok g then
    match a.result with
    | .ok ⟨.kCreated, _, .task t⟩ => some (t.id, t.goalId, t.title)
    | _ => none
  else none

/-- A 200 of tasks-list on a goal has one entry for each 201 of tasks-create on that goal
before it, and no other. -/
def ListExact (before : List Entry) (a : Entry) : Prop :=
  a.req.1.endpoint = .tasksList → statusOf a.result = .kOk →
    ∃ g ts, Oid.ofString a.req.1.goalId = .ok g ∧ a.result = .ok ⟨.kOk, [], .tasks ts⟩ ∧
      (ts.map fun t => (t.id, t.goalId, t.title)).Perm (before.filterMap (createdOn g))

/-- No two ids of the set begin with the same number, of those that can be read back. -/
def NumbersApart (m : Narrowing) (S : Oid → Prop) : Prop :=
  ∀ a b n pos pos', S a → S b → m.Reads n → stoll a.toString = .ok (n, pos) →
    stoll b.toString = .ok (n, pos') → a = b

/-! ## The invariant -/

def isCreated (a : Entry) : Bool :=
  a.req.1.endpoint = .tasksCreate && statusOf a.result = .kCreated

/-- The row of an answered creation. -/
structure FromEntry (m : Narrowing) (S : Oid → Prop) (r : TaskRow) (a : Entry) : Prop where
  converts : r.Converts m
  endpoint : a.req.1.endpoint = .tasksCreate
  number : ∃ pos, stoll a.req.1.goalId = .ok (r.goalId, pos)
  goal : ∃ g, S g ∧ Oid.ofString a.req.1.goalId = .ok g
  result : a.result = .ok ⟨.kCreated, [], .task ⟨r.id.toInt32, r.goalId.toInt32, r.title, "todo"⟩⟩

/-- The rows that convert are those of the answered creations, every goal's id is in `S`,
and the lists answered so far are exact. -/
structure TasksLogged (m : Narrowing) (S : Oid → Prop) (s : State Authed) : Prop where
  rows : List.Forall₂ (FromEntry m S) (s.world.pg.tasks.rows.filter (·.Converts m))
    (s.log.filter isCreated)
  goals : ∀ doc ∈ s.world.goals.docs, S doc.id
  exact : EachAnswer ListExact s.log

theorem tasksLogged_stores {m : Narrowing} {s : State Authed} {w : World}
    (h : TasksLogged m S s) (ht : w.pg.tasks.rows = s.world.pg.tasks.rows)
    (hg : ∀ doc ∈ w.goals.docs, S doc.id) : TasksLogged m S (s.moved w) :=
  ⟨by rw [Shared.moved_world, ht]; exact h.rows, hg, h.exact⟩

theorem storesOnly_tasksLogged (m : Narrowing) : StoresOnly (TasksLogged m S) AnyMove := by
  intro s w hw h
  obtain ⟨h1, h2⟩ := Prod.mk.inj hw
  exact ⟨tasksLogged_stores h (by rw [h1]) (by rw [h2]; exact h.goals), trivial⟩

/-- An answer that is neither a creation nor a list adds nothing. -/
theorem answers_quiet {m : Narrowing} {q : Authed} {r : Except Exn HttpResponse} {s : State Authed}
    {w : World} (h : Prog.Kept (TasksLogged m S) AnyMove s w)
    (hc : q.1.endpoint = .tasksCreate → statusOf r ≠ .kCreated)
    (hl : q.1.endpoint = .tasksList → statusOf r ≠ .kOk) :
    Answers (TasksLogged m S) AnyMove q r s w := by
  refine ⟨⟨?_, h.1.goals, h.1.exact.append fun he hok => absurd hok (hl he)⟩, trivial⟩
  have hno : isCreated ⟨q, r, w⟩ = false := by
    unfold isCreated
    by_cases he : q.1.endpoint = .tasksCreate
    · simp [he, hc he]
    · simp [he]
  rw [Shared.answer_log, List.filter_append, List.filter_singleton, hno]
  simpa using h.1.rows

/-! ## One request -/

theorem fromEntry_withStatus {m : Narrowing} {r : TaskRow} {a : Entry} {status : String} (h : FromEntry m S r a) :
    FromEntry m S (r.withStatus status) a := ⟨h.converts, h.endpoint, h.number, h.goal, h.result⟩

/-- A status update leaves the numbers and titles of all rows as they were. -/
theorem forall₂_updateWhere {m : Narrowing} {rows : List TaskRow} {es : List Entry}
    {p : TaskRow → Bool} {status : String}
    (h : List.Forall₂ (FromEntry m S) (rows.filter (·.Converts m)) es) :
    List.Forall₂ (FromEntry m S)
      ((Rows.updateWhere p (TaskRow.withStatus status) rows).filter (·.Converts m)) es := by
  induction rows generalizing es with
  | nil => exact h
  | cons r rows ih =>
    have hconv : decide ((if p r = true then r.withStatus status else r).Converts m) =
        decide (r.Converts m) := by split <;> rfl
    rw [Rows.updateWhere, List.map_cons, List.filter_cons, hconv]
    rw [List.filter_cons] at h
    by_cases hr : decide (r.Converts m) = true
    · -- the row keeps its place, so it stays with its entry
      rw [if_pos hr] at h ⊢
      cases h with
      | cons hra hrest =>
        refine List.Forall₂.cons ?_ (ih hrest)
        split
        · exact fromEntry_withStatus hra
        · exact hra
    · rw [if_neg hr] at h ⊢
      exact ih h

section

variable {m : Narrowing} {s : State Authed} {i : Input}

theorem kept_updateTaskStatus (hI : TasksLogged m S s) (host : ClusterHostType) (id goalId : Int64)
    (status : String) : Prog.Kept (TasksLogged m S) AnyMove s
      (World.exec i (.execute host (.updateTaskStatus id goalId status)) s.world).2 := by
  obtain ⟨⟨p, hp⟩, -, hg⟩ := World.exec_updateTaskStatus i s.world host id goalId status
  refine ⟨⟨?_, by rw [Shared.moved_world, hg]; exact hI.goals, hI.exact⟩, trivial⟩
  rw [Shared.moved_world, hp]
  exact forall₂_updateWhere hI.rows

theorem kept_insertOne (hI : TasksLogged m S s) (doc : GoalDoc) (hd : S doc.id) :
    Prog.Kept (TasksLogged m S) AnyMove s (World.exec i (.mongo (.insertOne doc)) s.world).2 := by
  obtain ⟨hpg, hdocs⟩ := World.exec_insertOne i s.world doc
  refine ⟨tasksLogged_stores hI (by rw [hpg]) fun d h => ?_, trivial⟩
  rcases hdocs d h with h | rfl
  · exact hI.goals d h
  · exact hd

end

/-- The program of `q` keeps the invariant, from state `s` and world `w` on. -/
abbrev Keeps (m : Narrowing) (S : Oid → Prop) (q : Authed) (p : Handler HttpResponse)
    (s : State Authed) (w : World) : Prop :=
  p.wp World.exec (fun i => S i.oid) (TasksLogged m S) AnyMove (Answers (TasksLogged m S) AnyMove q) s w

section

variable {q : Authed} {s : State Authed} {w : World}

/-- Requests of the endpoints that neither create nor list anything. -/
theorem keeps_others (cfg : Config D) (he : q.1.endpoint ∉ [.goalsCreate, .tasksCreate, .tasksList])
    (h : Prog.Kept (TasksLogged cfg.narrowing S) AnyMove s w) :
    Keeps cfg.narrowing S q (handle cfg q) s w := by
  simp only [List.mem_cons, List.not_mem_nil, or_false, not_or] at he
  refine Prog.wp_of_uses s (fun _ _ _ _ _ => trivial) (fun o ho s' i _ hI _ => ?_)
    (fun r s' w' _ hk => answers_quiet hk (absurd · he.2.1) (absurd · he.2.2))
    (dispatch_calls cfg q.1 q.2) trivial h
  by_cases hr : o.reads = true
  · exact kept_reads (storesOnly_tasksLogged _) hr i hI
  · match o with
    | .execute host (.insertUser login password firstName lastName) =>
      rcases World.exec_insertUser_cases i s'.world host login password firstName lastName with
        ⟨e, hrun⟩ | ⟨id, pg', hins, hrun⟩
      · rw [hrun]; exact ⟨hI, trivial⟩
      · rw [hrun]
        exact ⟨tasksLogged_stores hI (by rw [(Postgres.insertUser_ok hins).2.2.1]) hI.goals, trivial⟩
    | .execute host (.updateTaskStatus id goalId status) =>
      exact kept_updateTaskStatus hI host id goalId status
    | .execute _ (.insertTask ..) => exact absurd ho he.2.1
    | .mongo (.insertOne _) => exact absurd ho.1 he.1

theorem keeps_goalsCreate (m : Narrowing) (he : q.1.endpoint = .goalsCreate)
    (h : Prog.Kept (TasksLogged m S) AnyMove s w) :
    Keeps m S q (Goals.Create.handleRequestJsonThrow q.1 q.2) s w := by
  have hq {r : Except Exn HttpResponse} {s' : State Authed} {w' : World}
      (hk : Prog.Kept (TasksLogged m S) AnyMove s' w') :
      Answers (TasksLogged m S) AnyMove q r s' w' :=
    answers_quiet hk (fun h => by simp [he] at h) (fun h => by simp [he] at h)
  unfold Goals.Create.handleRequestJsonThrow
  refine Prog.wp_andThen (Prog.wp_ofExcept ?_)
  cases hb : CreateGoalRequestBody.parse q.1.body with
  | error e => exact hq h
  | ok body =>
    dsimp only
    split
    · exact hq h
    refine wp_withUserId (hq h) fun u hu => ?_
    refine wp_rateLimited (storesOnly_tasksLogged m) h (fun n s' w' hk => hq hk) fun s' w' hk => ?_
    refine ⟨hk, fun s₁ i _ hI hS => ⟨kept_reads (o := .newOid) (storesOnly_tasksLogged m) rfl i hI,
      fun s₂ i₂ _ hI₂ _ => ?_⟩⟩
    have hk₂ := kept_insertOne (i := i₂) hI₂
      ⟨i.oid, body.title, u, some (body.description.getD "")⟩ hS
    refine Prog.wp_andThen (Prog.wp_andThen (Prog.wp_ofExcept ?_))
    split
    · exact hq hk₂
    · exact hq hk₂

/-- A creation that answers 201 adds its row and its entry; one whose row does not convert
answers 500 and its row counts for nothing. -/
theorem answers_created {m : Narrowing} {g : Oid} {n : Int64} {pos : ℕ} {row : TaskRow}
    {r : Except Exn HttpResponse} (he : q.1.endpoint = .tasksCreate)
    (hn : stoll q.1.goalId = .ok (n, pos)) (hg : Oid.ofString q.1.goalId = .ok g) (hS : S g)
    (hI : TasksLogged m S s) (hrow : row.goalId = n ∧ row.status = "todo")
    (hrows : w.pg.tasks.rows = s.world.pg.tasks.rows ++ [row])
    (hdocs : w.goals = s.world.goals)
    (hr : r = if row.Converts m then
        .ok ⟨.kCreated, [], .task ⟨row.id.toInt32, row.goalId.toInt32, row.title, row.status⟩⟩
      else .error .narrowingOverflow) :
    Answers (TasksLogged m S) AnyMove q r s w := by
  refine ⟨⟨?_, by rw [Shared.answer_world, hdocs]; exact hI.goals,
    hI.exact.append fun h => by simp [he] at h⟩, trivial⟩
  rw [Shared.answer_world, Shared.answer_log, hrows, List.filter_append, List.filter_append]
  refine List.rel_append hI.rows ?_
  by_cases hc : row.Converts m
  · rw [if_pos hc] at hr
    have hcr : isCreated (⟨q, r, w⟩ : Entry) = true := by simp [isCreated, he, hr, statusOf]
    rw [List.filter_singleton, List.filter_singleton, hcr, decide_eq_true hc]
    exact .cons ⟨hc, he, ⟨pos, by rw [hrow.1]; exact hn⟩, ⟨g, hS, hg⟩, by rw [hr, hrow.2]⟩ .nil
  · rw [if_neg hc] at hr
    have hcr : isCreated (⟨q, r, w⟩ : Entry) = false := by simp [isCreated, hr, statusOf]
    rw [List.filter_singleton, List.filter_singleton, hcr, decide_eq_false hc]
    exact .nil

theorem keeps_tasksCreate (cfg : Config D) (he : q.1.endpoint = .tasksCreate)
    (h : Prog.Kept (TasksLogged cfg.narrowing S) AnyMove s w) :
    Keeps cfg.narrowing S q (Tasks.Create.handleRequestJsonThrow cfg q.1 q.2) s w := by
  have hq {r : Except Exn HttpResponse} {s' : State Authed} {w' : World}
      (hk : Prog.Kept (TasksLogged cfg.narrowing S) AnyMove s' w') (hr : ¬ IsSuccess r) :
      Answers (TasksLogged cfg.narrowing S) AnyMove q r s' w' :=
    answers_quiet hk (fun _ h => hr (by rw [IsSuccess, h]; decide)) (fun h => by simp [he] at h)
  unfold Tasks.Create.handleRequestJsonThrow
  refine Prog.wp_andThen (Prog.wp_ofExcept ?_)
  cases hb : CreateTaskRequestBody.parse q.1.body with
  | error e => exact hq h (not_isSuccess_error e)
  | ok body =>
    dsimp only
    split
    · exact hq h (not_isSuccess_makeError (by decide))
    refine wp_withUserId (hq h (not_isSuccess_makeError (by decide))) fun u hu => ?_
    refine wp_rateLimited (storesOnly_tasksLogged _) h
      (fun n s' w' hk => hq hk (not_isSuccess_rateLimitExceeded n)) fun s' w' hk => ?_
    refine wp_withOwnGoal (storesOnly_tasksLogged _) hk (fun r s' w' hk' hr => hq hk' hr) ?_
    rintro n pos g s₁ w₁ hn hg ⟨s₀, hI₀, doc, hdoc, rfl⟩ hk₁
    refine ⟨hk₁, fun s₂ i _ hI _ => ?_⟩
    rcases World.exec_insertTask i s₂.world .kMaster n body.title with
      ⟨e, hrun⟩ | ⟨row, hrun, h1, -, h3, hrows, hdocs⟩
    · rw [hrun]
      exact hq ⟨hI, trivial⟩ (not_isSuccess_error e)
    · rw [hrun]
      refine Prog.wp_andThen (Prog.wp_andThen (Prog.wp_ofExcept (Prog.wp_ofExcept ?_)))
      rw [TasksRepository.readCreateTaskResponseBody_eq, TasksRepository.readTask_eq]
      have hans {r : Except Exn HttpResponse} := answers_created (r := r) he hn hg
        (hI₀.goals doc hdoc) hI ⟨h1, h3⟩ hrows hdocs
      by_cases hc : row.Converts cfg.narrowing
      · rw [if_pos hc]
        exact hans (by rw [if_pos hc]; rfl)
      · rw [if_neg hc]
        exact hans (by rw [if_neg hc])

/-! ## The list of a goal -/

/-- The row was created on goal `g` exactly if it has the number of `g`. -/
theorem FromEntry.goalId_iff {m : Narrowing} {r : TaskRow} {a : Entry} {g : Oid} {n : Int64} {pos : ℕ}
    (hapart : NumbersApart m S) (hS : S g) (hn : stoll g.toString = .ok (n, pos))
    (h : FromEntry m S r a) : r.goalId = n ↔ Oid.ofString a.req.1.goalId = .ok g := by
  obtain ⟨g', hS', hg'⟩ := h.goal
  obtain ⟨pos', hn'⟩ := h.number
  rw [Oid.stoll_congr hg'] at hn'
  constructor
  · -- here the set of ids is needed: one number, one goal
    rintro rfl
    rw [hg', hapart _ _ _ _ _ hS' hS h.converts.2 hn' hn]
  · intro hg
    obtain rfl := Except.ok.inj (hg'.symm.trans hg)
    exact (Prod.mk.inj (Except.ok.inj (hn'.symm.trans hn))).1

theorem filterMap_createdOn {m : Narrowing} {rows : List TaskRow} {es : List Entry} {g : Oid} {n : Int64} {pos : ℕ}
    (hapart : NumbersApart m S) (hS : S g) (hn : stoll g.toString = .ok (n, pos))
    (h : List.Forall₂ (FromEntry m S) rows es) :
    (rows.filter (·.goalId = n)).map (fun r => (r.id.toInt32, r.goalId.toInt32, r.title)) =
      es.filterMap (createdOn g) := by
  induction h with
  | nil => rfl
  | @cons r a rows es hra _ ih =>
    have hiff := hra.goalId_iff hapart hS hn
    by_cases hr : r.goalId = n
    · have hc : createdOn g a = some (r.id.toInt32, r.goalId.toInt32, r.title) := by
        rw [createdOn, if_pos ⟨hra.endpoint, hiff.1 hr⟩, hra.result]
      rw [List.filter_cons_of_pos (by simpa using hr), List.map_cons, ih, List.filterMap_cons, hc]
    · have hc : createdOn g a = none := if_neg fun h => hr (hiff.2 h.2)
      rw [List.filter_cons_of_neg (by simpa using hr), ih, List.filterMap_cons, hc]

theorem filterMap_isCreated (g : Oid) (log : List Entry) :
    (log.filter isCreated).filterMap (createdOn g) = log.filterMap (createdOn g) := by
  rw [List.filterMap_filter]
  congr 1
  funext a
  split
  · rfl
  · rename_i hc
    unfold createdOn
    split
    · rename_i he
      split
      · rename_i t hres
        exact absurd (by simp [isCreated, he.1, hres, statusOf]) hc
      · rfl
    · rfl

/-- **A list is exact** when no other id of the set has the goal's number. -/
theorem TasksLogged.list_perm {m : Narrowing} {i : Input} {g : Oid} {n : Int64} {pos : ℕ}
    (h : TasksLogged m S s) (hapart : NumbersApart m S) (hS : S g)
    (hn : stoll g.toString = .ok (n, pos))
    (hconv : ∀ r ∈ s.world.pg.selectTasksByGoal i n, r.Converts m) :
    (((s.world.pg.selectTasksByGoal i n).map TaskRow.toTask).map
      fun t => (t.id, t.goalId, t.title)).Perm (s.log.filterMap (createdOn g)) := by
  have hrows : s.world.pg.tasks.rows.filter (·.goalId = n) =
      (s.world.pg.tasks.rows.filter (·.Converts m)).filter (·.goalId = n) := by
    rw [List.filter_filter]
    refine List.filter_congr fun r hr => ?_
    by_cases hrn : r.goalId = n
    · have := hconv r (Postgres.mem_selectTasksByGoal.2 ⟨hr, hrn⟩)
      simp [hrn, this]
    · simp [hrn]
  rw [List.map_map, ← filterMap_isCreated, ← filterMap_createdOn hapart hS hn h.rows, ← hrows]
  exact (List.mergeSort_perm _ _).map _

theorem keeps_tasksList (cfg : Config D) (hapart : NumbersApart cfg.narrowing S) (he : q.1.endpoint = .tasksList)
    (h : Prog.Kept (TasksLogged cfg.narrowing S) AnyMove s w) :
    Keeps cfg.narrowing S q (Tasks.List.handleRequestJsonThrow cfg q.1 q.2) s w := by
  have hq {r : Except Exn HttpResponse} {s' : State Authed} {w' : World}
      (hk : Prog.Kept (TasksLogged cfg.narrowing S) AnyMove s' w') (hr : ¬ IsSuccess r) :
      Answers (TasksLogged cfg.narrowing S) AnyMove q r s' w' :=
    answers_quiet hk (fun h => by simp [he] at h) (fun _ h => hr (by rw [IsSuccess, h]; decide))
  unfold Tasks.List.handleRequestJsonThrow
  refine wp_withUserId (hq h (not_isSuccess_makeError (by decide))) fun u hu => ?_
  refine wp_rateLimited (storesOnly_tasksLogged _) h
    (fun n s' w' hk => hq hk (not_isSuccess_rateLimitExceeded n)) fun s' w' hk => ?_
  refine wp_withOwnGoal (storesOnly_tasksLogged _) hk (fun r s' w' hk' hr => hq hk' hr) ?_
  rintro n pos g s₁ w₁ hn hg ⟨s₀, hI₀, doc, hdoc, rfl⟩ hk₁
  refine ⟨hk₁, fun s₂ i _ hI _ => ?_⟩
  have hk₂ := kept_reads (o := .execute .kSlave (.selectTasksByGoal n))
    (storesOnly_tasksLogged cfg.narrowing) rfl i hI
  generalize hw : (World.exec i (.execute .kSlave (.selectTasksByGoal n)) s₂.world).2 = w₂ at hk₂ ⊢
  rcases World.exec_selectTasksByGoal i s₂.world .kSlave n with hrun | hrun
  · rw [hrun]
    exact hq hk₂ (not_isSuccess_error _)
  · rw [hrun]
    refine Prog.wp_andThen (Prog.wp_andThen (Prog.wp_ofExcept (Prog.wp_ofExcept ?_)))
    rw [TasksRepository.mapM_readTask]
    by_cases hconv : ∀ r ∈ s₂.world.pg.selectTasksByGoal i n, r.Converts cfg.narrowing
    · rw [if_pos hconv]
      refine ⟨⟨?_, hk₂.1.goals, hk₂.1.exact.append fun _ _ => ⟨doc.id, _, hg, rfl, ?_⟩⟩, trivial⟩
      · rw [Shared.answer_log, List.filter_append, List.filter_singleton,
          show isCreated (⟨q, _, w₂⟩ : Entry) = false by simp [isCreated, he]]
        simpa using hk₂.1.rows
      · exact hI.list_perm hapart (hI₀.goals doc hdoc) (by rw [← Oid.stoll_congr hg]; exact hn) hconv
    · rw [if_neg hconv]
      exact hq hk₂ (not_isSuccess_error _)

end

/-! ## Runs -/

/-- Requests of the four endpoints, by any users; object ids are drawn from `S`. -/
def TaskEvents (S : Oid → Prop) (_ : State Authed) : Event Authed Input → Prop
  | .arrive q => q.1.endpoint ∈ [.goalsCreate, .tasksCreate, .tasksUpdateStatus, .tasksList]
  | .turn _ i => S i.oid

/-- No tasks yet, the ids of the goals in `S`, and Postgres with a row for every number. -/
structure NoTasks (S : Oid → Prop) (w : World) : Prop where
  tasks : w.pg.tasks.rows = []
  goals : ∀ doc ∈ w.goals.docs, S doc.id
  seeded : ∀ n, n ∈ w.pg.goalIds

/-- Every request keeps the invariant. -/
theorem handle_keeps (cfg : Config D) (hapart : NumbersApart cfg.narrowing S) (q : Authed)
    {s : State Authed} (hI : TasksLogged cfg.narrowing S s) :
    Keeps cfg.narrowing S q (handle cfg q) s s.world := by
  have hk : Prog.Kept (TasksLogged cfg.narrowing S) AnyMove s s.world := ⟨hI, trivial⟩
  by_cases he : q.1.endpoint ∈ [.goalsCreate, .tasksCreate, .tasksList]
  · simp only [List.mem_cons, List.not_mem_nil, or_false] at he
    unfold handle dispatch
    rcases he with he | he | he <;> rw [he]
    · exact keeps_goalsCreate _ he hk
    · exact keeps_tasksCreate cfg he hk
    · exact keeps_tasksList cfg hapart he hk
  · exact keeps_others cfg he hk

/-- The invariant in every pool that a run reaches. -/
theorem tasksLogged_reach (cfg : Config D) (hapart : NumbersApart cfg.narrowing S) {w₀ : World}
    (h₀ : NoTasks S w₀) {c : Pool Op Op.Ret Authed Exn HttpResponse World}
    (h : Pool.Reach World.exec (handle cfg) (TaskEvents S) (Pool.start w₀) c) :
    TasksLogged cfg.narrowing S c.toShared := by
  refine (Pool.Reach.sound (I := TasksLogged cfg.narrowing S) (M := AnyMove) (fun _ => trivial)
    (fun _ _ _ _ _ => trivial) (fun _ _ _ he => he) (fun s q hI _ => handle_keeps cfg hapart q hI)
    (Pool.start_sound (w := w₀) ⟨?_, h₀.goals, ?_⟩) h).1.1
  · rw [h₀.tasks]; exact .nil
  · exact EachAnswer.nil

/-! ## Two goals with one number -/

def allNumbers : List Int64 := (List.range (2 ^ 64)).map Int64.ofNat

theorem mem_allNumbers (n : Int64) : n ∈ allNumbers :=
  List.mem_map.2 ⟨n.toBitVec.toNat, List.mem_range.2 n.toBitVec.isLt, by simp⟩

/-- Goal `a` of user 1 and goal `b` of user 2. -/
def twoGoalsWorld (a b : Oid) (h : a ≠ b) (seeds : List Int64) : World where
  pg := { twoUsersWorld.pg with goalIds := seeds }
  goals := ⟨[⟨a, "books", 1, some ""⟩, ⟨b, "films", 2, some ""⟩], by simpa using h⟩
  rateLimits := fun _ _ => none

/-- A list that shows a task when the only request answered before it went to another goal. -/
theorem not_listExact {e₁ e₂ : Entry} {g : Oid} {t : Task} (he : e₂.req.1.endpoint = .tasksList)
    (hg : Oid.ofString e₂.req.1.goalId = .ok g) (hr : e₂.result = .ok ⟨.kOk, [], .tasks [t]⟩)
    (h₁ : Oid.ofString e₁.req.1.goalId ≠ .ok g) : ¬ EachAnswer ListExact [e₁, e₂] := by
  intro h
  obtain ⟨g', ts, hg', hts, hperm⟩ := h [e₁] e₂ [] rfl he (by rw [hr]; rfl)
  obtain rfl := Except.ok.inj (hg.symm.trans hg')
  rw [hr] at hts
  obtain rfl : [t] = ts := by simpa using hts
  have hnone : createdOn g e₁ = none := if_neg fun h => h₁ h.2
  simp [hnone] at hperm

/-- User 1 creates a task in goal `a`; -/
def createOn (a : Oid) : Authed := ((createCall 1 a.toString "read" {}).request, ⟨some 1⟩)

/-- then user 2 lists the tasks of goal `b`. -/
def listOn (b : Oid) : Authed := ((listCall 2 b.toString {}).request, ⟨some 2⟩)

/-- The environment would draw `a` for a new goal. -/
def drawing (a : Oid) : Input := { oid := a }

/-- After both requests. -/
def mixedState (cfg : Config D) (a b : Oid) (h : a ≠ b) (seeds : List Int64) : State Authed :=
  [createOn a, listOn b].foldl (Shared.alone World.exec (handle cfg) (drawing a))
    ⟨twoGoalsWorld a b h seeds, []⟩

section

variable {a b : Oid} {n : Int64} {pos pos' : ℕ} {seeds : List Int64}

theorem mixedState_reach (cfg : Config D) (hab : a ≠ b) (ha : S a) (seeds : List Int64) :
    Pool.Reach World.exec (handle cfg) (TaskEvents S) (Pool.start (twoGoalsWorld a b hab seeds))
      ⟨mixedState cfg a b hab seeds, []⟩ :=
  Pool.Reach.alone (fun _ _ => ha) (by simp [TaskEvents, listOn, listCall])
    (Pool.Reach.alone (fun _ _ => ha) (by simp [TaskEvents, createOn, createCall]) .start)

/-- The task goes to a row with the number of `a`. -/
theorem createOn_run (cfg : Config D) (hab : a ≠ b) (hn : stoll a.toString = .ok (n, pos))
    (hseed : n ∈ seeds) :
    ∃ pg', ((handle cfg (createOn a)).run (World.exec (drawing a)) (twoGoalsWorld a b hab seeds)).2 =
        ((twoGoalsWorld a b hab seeds).limited (drawing a) .tasksCreate 1).setPg pg' ∧
      pg'.tasks.rows = [⟨1, n, "read", "todo", 0⟩] := by
  have hk : nextval (twoGoalsWorld a b hab seeds).pg.tasksSeq (drawing a).skip = .ok 1 :=
    show nextval 0 0 = .ok 1 by decide
  have ht : Storable "read" := by decide
  obtain ⟨⟨row, pg'⟩, hins⟩ := Postgres.insertTask_of (drawing a) (twoGoalsWorld a b hab seeds).pg hk
    List.not_mem_nil ht hseed
  obtain ⟨⟨k, hk', -, hrow⟩, hrows, -⟩ := Postgres.insertTask_ok hins
  obtain rfl := Except.ok.inj (hk.symm.trans hk')
  have hdoc : (⟨a, "books", 1, some ""⟩ : GoalDoc) ∈ (twoGoalsWorld a b hab seeds).goals.docs :=
    List.mem_cons_self
  have hd := World.findGoal_doc (i := drawing a) hdoc rfl
  have hb : CreateTaskRequestBody.parse (createOn a).1.body = .ok ⟨"read"⟩ :=
    createCall_parse (u := 1) (g := a.toString) (i := {})
  have ha : (twoGoalsWorld a b hab seeds).admits (drawing a) .tasksCreate 1 = true := rfl
  have hrun := Tasks.Create.run_own cfg (createOn a).1 hb (by decide) ha hn hd
    (show (1 : UserId).toInt32.toInt64 = 1 by decide) rfl hins
  refine ⟨pg', congrArg Prod.snd hrun, ?_⟩
  rw [hrows, hrow]; rfl

/-- A list of `b` shows the task of a row with the number of `b`. -/
theorem listOn_run (cfg : Config D) {w : World}
    (hdoc : (⟨b, "films", 2, some ""⟩ : GoalDoc) ∈ w.goals.docs)
    (ha : w.admits (drawing a) .tasksList 2 = true) (hn : stoll b.toString = .ok (n, pos))
    {row : TaskRow} (hrow : row.goalId = n) (hrows : w.pg.tasks.rows = [row])
    (hc : row.Converts cfg.narrowing) :
    ((handle cfg (listOn b)).run (World.exec (drawing a)) w).1 = .ok ⟨.kOk, [], .tasks [row.toTask]⟩ := by
  have hsel : w.pg.selectTasksByGoal (drawing a) n = [row] := by
    rw [Postgres.selectTasksByGoal, hrows, List.filter_cons_of_pos (by simpa using hrow),
      List.filter_nil, List.mergeSort_singleton]
  have hd := World.findGoal_doc (i := drawing a) hdoc rfl
  refine (congrArg Prod.fst (Tasks.List.run_own cfg (listOn b).1 ha hn hd
    (show (2 : UserId).toInt32.toInt64 = 2 by decide) rfl)).trans ?_
  rw [hsel, Tasks.List.answer, TasksRepository.mapM_readTask, if_pos (by simpa using hc)]
  rfl

/-- **Two ids with one number** let one user's task into another user's list. -/
theorem mixedState_inexact (cfg : Config D) (hab : a ≠ b) (hreads : cfg.narrowing.Reads n)
    (hna : stoll a.toString = .ok (n, pos)) (hnb : stoll b.toString = .ok (n, pos'))
    (hseed : n ∈ seeds) : ¬ EachAnswer ListExact (mixedState cfg a b hab seeds).log := by
  obtain ⟨pg', hrun, hrows⟩ := createOn_run cfg hab hna hseed
  have hone : FitsInt 1 := by decide
  have hlist := listOn_run (a := a) cfg
    (w := ((twoGoalsWorld a b hab seeds).limited (drawing a) .tasksCreate 1).setPg pg')
    (List.mem_cons_of_mem _ List.mem_cons_self) rfl hnb rfl hrows ⟨.inr hone, hreads⟩
  rw [← hrun] at hlist
  refine not_listExact (g := b) rfl (Oid.ofString_toString b) hlist fun h => ?_
  exact hab (Except.ok.inj ((Oid.ofString_toString a).symm.trans h))

theorem twoGoalsWorld_noTasks (hab : a ≠ b) (ha : S a) (hb : S b) (hseed : ∀ n, n ∈ seeds) :
    NoTasks S (twoGoalsWorld a b hab seeds) := by
  refine ⟨rfl, fun doc hdoc => ?_, hseed⟩
  simp only [twoGoalsWorld, List.mem_cons, List.not_mem_nil, or_false] at hdoc
  rcases hdoc with rfl | rfl
  · exact ha
  · exact hb

end

/-- **Task lists are exact per goal**, in every run over the ids of a set, if and only if no
two ids of the set begin with the same number, of those that can be read back. -/
theorem lists_exact_iff (cfg : Config D) (S : Oid → Prop) :
    (∀ w₀ c, NoTasks S w₀ →
        Pool.Reach World.exec (handle cfg) (TaskEvents S) (Pool.start w₀) c → EachAnswer ListExact c.log) ↔
      NumbersApart cfg.narrowing S := by
  constructor
  · intro h a b n pos pos' ha hb hreads hna hnb
    by_contra hab
    -- a task created in goal `a` is listed in goal `b`
    exact mixedState_inexact cfg hab hreads hna hnb (mem_allNumbers n)
      (h _ _ (twoGoalsWorld_noTasks hab ha hb mem_allNumbers) (mixedState_reach cfg hab ha allNumbers))
  · intro hapart w₀ c h₀ h
    exact (tasksLogged_reach cfg hapart h₀ h).exact

/-- Two ids that begin with 65. -/
def goal65a : Oid := .named "65a000000000000000000000"

def goal65b : Oid := .named "65b000000000000000000000"

/-- The list of the second goal shows the task of the first one. -/
theorem lists_mixed_65 :
    ∃ w₀ c, NoTasks (fun o => o = goal65a ∨ o = goal65b) w₀ ∧
      Pool.Reach World.exec (handle (clearConfig .throws))
        (TaskEvents fun o => o = goal65a ∨ o = goal65b) (Pool.start w₀) c ∧
      ¬ EachAnswer ListExact c.log := by
  have hab : goal65a ≠ goal65b := by decide
  have hna : stoll goal65a.toString = .ok (65, 2) := by decide
  have hnb : stoll goal65b.toString = .ok (65, 2) := by decide
  exact ⟨_, _, twoGoalsWorld_noTasks hab (.inl rfl) (.inr rfl) mem_allNumbers,
    mixedState_reach (clearConfig .throws) hab (.inl rfl) allNumbers,
    mixedState_inexact (clearConfig .throws) hab (by decide) hna hnb (mem_allNumbers 65)⟩

end Leadertask
