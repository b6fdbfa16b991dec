import Leadertask.Lib.Prog
import Leadertask.Model.Store

/-!
# What the statements do

For each statement that writes, what its success tells and what executing it can do;
`World.exec_reads` for the rest: an operation that only reads leaves both stores alone.
`Postgres.exec_cases` lists all that a statement can do to the database.
-/

namespace Leadertask

open Atomic

variable {i : Input} {w : World} {pg pg' : Postgres}

/-- Both stores, without the rate limiters. -/
def World.stores (w : World) : Postgres × GoalsCollection := (w.pg, w.goals)

/-- The operation writes to no store. -/
def Op.reads : Op → Bool
  | .execute _ (.insertUser ..) => false
  | .execute _ (.insertTask ..) => false
  | .execute _ (.updateTaskStatus ..) => false
  | .mongo (.insertOne _) => false
  | _ => true

theorem World.exec_reads {o : Op} (h : o.reads = true) : (World.exec i o w).2.stores = w.stores := by
  cases o with
  | checkRateLimit e u => rfl
  | newOid => rfl
  | execute host stmt =>
    simp only [World.exec]
    split
    · rfl
    · cases stmt <;> first | rfl | simp [Op.reads] at h
  | mongo cmd =>
    simp only [World.exec]
    split
    · rfl
    · cases cmd <;> first | rfl | simp [Op.reads] at h

/-! ## Inserts -/

/-- The sequence gives a number beyond the last one, or it has ended. -/
theorem nextval_cases (last skip : ℕ) :
    (∃ k, nextval last skip = .ok k ∧ last < k ∧ k < 2 ^ 63) ∨
      nextval last skip = .error .sequenceExhausted := by
  unfold nextval
  by_cases h : last + 1 + skip < 2 ^ 63
  · exact .inl ⟨_, if_pos h, by omega, h⟩
  · exact .inr (if_neg h)

theorem nextval_ok {last skip k : ℕ} (h : nextval last skip = .ok k) : k = last + 1 + skip ∧ k < 2 ^ 63 := by
  unfold nextval at h
  split at h
  · rename_i hmax
    obtain rfl := Except.ok.inj h
    exact ⟨rfl, hmax⟩
  · simp at h

theorem asColumn_of_le {s : String} (h : s.length ≤ 255) : asColumn s = s := by
  rw [asColumn, List.take_of_length_le (by rwa [String.length_toList]), String.ofList_toList]

theorem asColumn_length (s : String) : (asColumn s).length ≤ 255 := by
  rw [asColumn, String.length_ofList]
  exact List.length_take_le _ _

theorem asColumn_ne_empty {s : String} (h : s ≠ "") : asColumn s ≠ "" := by
  intro hnil
  refine h ?_
  have hnil := congrArg String.toList hnil
  rw [asColumn, String.toList_ofList, String.toList_empty, List.take_eq_nil_iff] at hnil
  exact String.toList_eq_nil_iff.1 (hnil.resolve_left (by decide))

theorem storable_of_fits {s : String} (h : FitsColumn s) : Storable s := by
  refine ⟨h.1, ?_⟩
  rw [List.drop_of_length_le (by rw [String.length_toList]; exact h.2)]
  exact fun _ hc => absurd hc List.not_mem_nil

/-- A column takes a text and holds what it keeps of it, or refuses it. -/
theorem varchar255_cases (s : String) :
    (∃ h : Storable s, varchar255 s = .ok ⟨asColumn s, fitsColumn_asColumn h.1⟩) ∨
      ¬ Storable s ∧ (varchar255 s = .error .stringDataRightTruncation ∨
        varchar255 s = .error .characterNotInRepertoire) := by
  unfold varchar255 Storable
  by_cases ht : IsText s
  · by_cases hb : AllBlank (s.toList.drop 255)
    · exact .inl ⟨⟨ht, hb⟩, by rw [dif_pos ht, if_pos hb]⟩
    · exact .inr ⟨fun h => hb h.2, .inl (by rw [dif_pos ht, if_neg hb])⟩
  · exact .inr ⟨fun h => ht h.1, .inr (dif_neg ht)⟩

theorem varchar255_of {s : String} (h : Storable s) :
    varchar255 s = .ok ⟨asColumn s, fitsColumn_asColumn h.1⟩ := by
  rcases varchar255_cases s with ⟨_, hs⟩ | ⟨hs, -⟩
  · exact hs
  · exact absurd h hs

theorem varchar255_fits {s : String} (h : FitsColumn s) : varchar255 s = .ok ⟨s, h⟩ :=
  (varchar255_of (storable_of_fits h)).trans (congrArg Except.ok (Subtype.ext (asColumn_of_le h.2)))

theorem varchar255_ok {s : String} {t : Varchar255} (h : varchar255 s = .ok t) :
    Storable s ∧ t.val = asColumn s := by
  rcases varchar255_cases s with ⟨hst, hs⟩ | ⟨-, hs | hs⟩
  · exact ⟨hst, congrArg Subtype.val (Except.ok.inj (h.symm.trans hs))⟩
  · rw [hs] at h; simp at h
  · rw [hs] at h; simp at h

theorem varchar255_ne_uniqueViolation {s : String} : varchar255 s ≠ .error .uniqueViolation := by
  rcases varchar255_cases s with ⟨_, hs⟩ | ⟨-, hs | hs⟩ <;> simp [hs]

theorem UsersTable.insert_ok {t t' : UsersTable} {id : Int64} {login password firstName lastName : Varchar255}
    (h : t.insert id login password firstName lastName = .ok t') :
    t'.rows = t.rows ++ [⟨id, login, password, firstName, lastName⟩] ∧ id ∉ t.rows.map UserRow.id ∧
      login.val ∉ t.rows.map UserRow.login := by
  unfold UsersTable.insert at h
  split at h
  · rename_i hn
    rw [← Except.ok.inj h]; exact ⟨rfl, hn⟩
  · simp at h

theorem TasksTable.insert_ok {t t' : TasksTable} {id goalId : Int64} {title : Varchar255} {createdAt : ℤ}
    (h : t.insert id goalId title createdAt = .ok t') :
    t'.rows = t.rows ++ [⟨id, goalId, title, "todo", createdAt⟩] ∧ id ∉ t.rows.map TaskRow.id := by
  unfold TasksTable.insert at h
  split at h
  · rename_i hn
    rw [← Except.ok.inj h]; exact ⟨rfl, hn⟩
  · simp at h

/-- An insert of a user that goes through: the sequence's next number and the columns' texts make a new
row of `users`. -/
theorem Postgres.insertUser_steps {login password firstName lastName : String} {id : Int64}
    (h : pg.insertUser i login password firstName lastName = .ok (id, pg')) :
    ∃ k users, nextval pg.usersSeq i.skip = .ok k ∧ id = Int64.ofNat k ∧
      users.rows = pg.users.rows ++
        [⟨id, asColumn login, asColumn password, asColumn firstName, asColumn lastName⟩] ∧
      asColumn login ∉ pg.users.rows.map UserRow.login ∧ pg' = { pg with users := users, usersSeq := k } := by
  unfold Postgres.insertUser at h
  obtain ⟨k, hk, h⟩ := bind_ok h
  obtain ⟨l, hl, h⟩ := bind_ok h
  obtain ⟨p, hp, h⟩ := bind_ok h
  obtain ⟨f, hf, h⟩ := bind_ok h
  obtain ⟨n, hn, h⟩ := bind_ok h
  obtain ⟨users, ht, h⟩ := bind_ok h
  obtain ⟨rfl, rfl⟩ := Prod.mk.inj (Except.ok.inj h)
  obtain ⟨h1, -, h3⟩ := UsersTable.insert_ok ht
  rw [(varchar255_ok hl).2, (varchar255_ok hp).2, (varchar255_ok hf).2, (varchar255_ok hn).2] at h1
  rw [(varchar255_ok hl).2] at h3
  exact ⟨k, users, hk, rfl, h1, h3, rfl⟩

/-- A user that was inserted: a row with the new id at the end of `users`, with the texts as their
columns hold them, its login new. -/
theorem Postgres.insertUser_ok {login password firstName lastName : String} {id : Int64}
    (h : pg.insertUser i login password firstName lastName = .ok (id, pg')) :
    pg'.users.rows = pg.users.rows ++
        [⟨id, asColumn login, asColumn password, asColumn firstName, asColumn lastName⟩] ∧
      asColumn login ∉ pg.users.rows.map UserRow.login ∧ pg'.tasks = pg.tasks ∧ pg'.goalIds = pg.goalIds := by
  obtain ⟨k, users, -, -, hrows, hnew, rfl⟩ := Postgres.insertUser_steps h
  exact ⟨hrows, hnew, rfl, rfl⟩

/-- An insert of a task that goes through: the sequence's next number and the column's text make a new
row of `tasks`, under a goal number of the Postgres `goals`. -/
theorem Postgres.insertTask_steps {goalId : Int64} {title : String} {row : TaskRow}
    (h : pg.insertTask i goalId title = .ok (row, pg')) :
    ∃ k tasks, nextval pg.tasksSeq i.skip = .ok k ∧ Storable title ∧
      Int64.ofNat k ∉ pg.tasks.rows.map TaskRow.id ∧
      row = ⟨Int64.ofNat k, goalId, asColumn title, "todo", i.stamp⟩ ∧ tasks.rows = pg.tasks.rows ++ [row] ∧
      goalId ∈ pg.goalIds ∧ pg' = { pg with tasks := tasks, tasksSeq := k } := by
  unfold Postgres.insertTask at h
  obtain ⟨k, hk, h⟩ := bind_ok h
  obtain ⟨t, ht, h⟩ := bind_ok h
  obtain ⟨tasks, htasks, h⟩ := bind_ok h
  split at h
  · rename_i hg
    obtain ⟨rfl, rfl⟩ := Prod.mk.inj (Except.ok.inj h)
    obtain ⟨h1, h2⟩ := TasksTable.insert_ok htasks
    obtain ⟨hst, htitle⟩ := varchar255_ok ht
    rw [← htitle]
    exact ⟨k, tasks, hk, hst, h2, rfl, h1, hg, rfl⟩
  · exact absurd h (by simp [throw, throwThe, MonadExceptOf.throw])

/-- A task that was inserted: the row that was returned, at the end of `tasks`, under the
sequence's next number and the goal number asked for, which has its row in the Postgres
`goals`. -/
theorem Postgres.insertTask_ok {goalId : Int64} {title : String} {row : TaskRow}
    (h : pg.insertTask i goalId title = .ok (row, pg')) :
    (∃ k, nextval pg.tasksSeq i.skip = .ok k ∧ Int64.ofNat k ∉ pg.tasks.rows.map TaskRow.id ∧
        row = ⟨Int64.ofNat k, goalId, asColumn title, "todo", i.stamp⟩) ∧
      pg'.tasks.rows = pg.tasks.rows ++ [row] ∧ goalId ∈ pg.goalIds ∧ pg'.users = pg.users ∧
      pg'.goalIds = pg.goalIds := by
  obtain ⟨k, tasks, hk, -, hnew, hrow, hrows, hg, rfl⟩ := Postgres.insertTask_steps h
  exact ⟨⟨k, hk, hnew, hrow⟩, hrows, hg, rfl, rfl⟩

/-- The sequence stands at the number that the insert took. -/
theorem Postgres.insertTask_seq {goalId : Int64} {title : String} {row : TaskRow} {k : ℕ}
    (h : pg.insertTask i goalId title = .ok (row, pg')) (hk : nextval pg.tasksSeq i.skip = .ok k) :
    pg'.tasksSeq = k := by
  obtain ⟨k', tasks, hk', -, -, -, -, -, rfl⟩ := Postgres.insertTask_steps h
  exact Except.ok.inj (hk'.symm.trans hk)

theorem Postgres.insertTask_title {goalId : Int64} {title : String} {row : TaskRow}
    (h : pg.insertTask i goalId title = .ok (row, pg')) : Storable title := by
  obtain ⟨-, -, -, htitle, -⟩ := Postgres.insertTask_steps h
  exact htitle

/-- When the insert of a task goes through. -/
theorem Postgres.insertTask_of (i : Input) (pg : Postgres) {goalId : Int64} {title : String} {k : ℕ}
    (hk : nextval pg.tasksSeq i.skip = .ok k)
    (hid : Int64.ofNat k ∉ pg.tasks.rows.map TaskRow.id) (ht : Storable title)
    (hg : goalId ∈ pg.goalIds) : ∃ p, pg.insertTask i goalId title = .ok p := by
  simp only [Postgres.insertTask, hk, varchar255_of ht, TasksTable.insert, hid, not_false_eq_true, dite_true, hg,
    if_true, bind, Except.bind, pure, Except.pure]
  exact ⟨_, rfl⟩

theorem GoalsCollection.insertOne_ok {c c' : GoalsCollection} {doc : GoalDoc} {u : Unit}
    (h : c.insertOne doc = .ok (u, c')) :
    c'.docs = c.docs ++ [doc] ∧ doc.id ∉ c.docs.map GoalDoc.id := by
  unfold GoalsCollection.insertOne at h
  split at h
  · rename_i hn
    obtain ⟨-, rfl⟩ := Prod.mk.inj (Except.ok.inj h)
    exact ⟨rfl, hn⟩
  · simp at h

/-! ## The status update -/

theorem TaskRow.hit_iff {id goalId : Int64} {r : TaskRow} :
    r.hit id goalId = true ↔ r.id = id ∧ r.goalId = goalId := by
  simp [TaskRow.hit]

/-- Some row meets the `WHERE` clause, or none does. -/
theorem TaskRow.hit_or_miss (rows : List TaskRow) (id goalId : Int64) :
    (∃ r ∈ rows, r.hit id goalId = true) ∨ ∀ r ∈ rows, r.hit id goalId = false := by
  by_cases h : ∃ r ∈ rows, r.hit id goalId = true
  · exact .inl h
  · refine .inr fun r hr => ?_
    by_contra hh
    exact h ⟨r, hr, by simpa using hh⟩

theorem TaskRow.filter_miss {rows : List TaskRow} {id goalId : Int64}
    (h : ∀ r ∈ rows, r.hit id goalId = false) : rows.filter (TaskRow.hit id goalId) = [] :=
  List.filter_eq_nil_iff.2 fun r hr => by simp [h r hr]

/-- At most one row meets the `WHERE` clause. -/
theorem TasksTable.eq_of_hit {t : TasksTable} {id goalId : Int64} {r r' : TaskRow} (hr : r ∈ t.rows)
    (hh : r.hit id goalId = true) (hr' : r' ∈ t.rows) (hh' : r'.hit id goalId = true) : r' = r := by
  have hid : r'.id = r.id := (TaskRow.hit_iff.1 hh').1.trans (TaskRow.hit_iff.1 hh).1.symm
  exact Rows.eq_of_key t.idKey hr' hr hid

theorem TasksTable.forall_hit_iff {t : TasksTable} {id goalId : Int64} {r : TaskRow} {P : TaskRow → Prop}
    (hr : r ∈ t.rows) (hh : r.hit id goalId = true) :
    (∀ r' ∈ t.rows, r'.hit id goalId = true → P r') ↔ P r := by
  constructor
  · intro hall
    exact hall r hr hh
  · intro hP r' hr' hh'
    rw [TasksTable.eq_of_hit hr hh hr' hh']
    exact hP

theorem TasksTable.filter_hit {t : TasksTable} {id goalId : Int64} {r : TaskRow} (hr : r ∈ t.rows)
    (hh : r.hit id goalId = true) : t.rows.filter (TaskRow.hit id goalId) = [r] :=
  Rows.filter_eq_singleton t.idKey hr hh fun x hx => by
    rw [(TaskRow.hit_iff.1 hx).1, (TaskRow.hit_iff.1 hh).1]

theorem isText_of_status {status : String} (h : status ∈ taskStatuses) : IsText status := by
  revert status
  decide

theorem Postgres.updateTaskStatus_none {id goalId : Int64} {status : String} (hs : status ∈ taskStatuses)
    (h : ∀ r ∈ pg.tasks.rows, r.hit id goalId = false) :
    pg.updateTaskStatus id goalId status = .ok ([], pg) := by
  simp [Postgres.updateTaskStatus, TaskRow.filter_miss h, isText_of_status hs]

/-- An update that meets no row and does not throw. -/
theorem Postgres.updateTaskStatus_miss {id goalId : Int64} {status : String} {rs : List TaskRow}
    (h : ∀ r ∈ pg.tasks.rows, r.hit id goalId = false)
    (hup : pg.updateTaskStatus id goalId status = .ok (rs, pg')) : rs = [] ∧ pg' = pg := by
  unfold Postgres.updateTaskStatus at hup
  rw [TaskRow.filter_miss h] at hup
  dsimp only at hup
  split at hup
  · simp at hup
  · obtain ⟨rfl, rfl⟩ := Prod.mk.inj (Except.ok.inj hup)
    exact ⟨rfl, rfl⟩

theorem Postgres.updateTaskStatus_hit {id goalId : Int64} {status : String} {r : TaskRow}
    (hs : status ∈ taskStatuses) (hr : r ∈ pg.tasks.rows) (hh : r.hit id goalId = true) :
    pg.updateTaskStatus id goalId status =
      .ok ([r.withStatus status], { pg with tasks := pg.tasks.setStatus id goalId status hs }) := by
  simp [Postgres.updateTaskStatus, TasksTable.filter_hit hr hh, hs, isText_of_status hs]

/-- An update of one row, in its place. -/
theorem TasksTable.setStatus_split {t : TasksTable} {id goalId : Int64} {status : String} {r : TaskRow}
    (hs : status ∈ taskStatuses) (hr : r ∈ t.rows) (hh : r.hit id goalId = true) :
    ∃ before after, t.rows = before ++ r :: after ∧
      (t.setStatus id goalId status hs).rows = before ++ r.withStatus status :: after := by
  obtain ⟨before, after, he⟩ := List.append_of_mem hr
  -- `id` is the primary key, so no other row has it
  have hkey := t.idKey
  rw [he, List.map_append, List.map_cons, List.nodup_middle, List.nodup_cons] at hkey
  have hother : ∀ x ∈ before ++ after, x.hit id goalId = false := by
    intro x hx
    by_contra hxh
    have h1 := (TaskRow.hit_iff.1 (by simpa using hxh)).1
    have h2 := (TaskRow.hit_iff.1 hh).1
    exact hkey.1 (by
      rw [← List.map_append]; exact List.mem_map.2 ⟨x, hx, by rw [h1, h2]⟩)
  refine ⟨before, after, he, ?_⟩
  show Rows.updateWhere _ _ t.rows = _
  rw [he, Rows.updateWhere, List.map_append, List.map_cons, if_pos hh]
  have hb := Rows.updateWhere_of_none (f := TaskRow.withStatus status)
    fun x hx => hother x (List.mem_append_left _ hx)
  have ha := Rows.updateWhere_of_none (f := TaskRow.withStatus status)
    fun x hx => hother x (List.mem_append_right _ hx)
  rw [← Rows.updateWhere, ← Rows.updateWhere, hb, ha]

/-- An update changes nothing exactly if the row has the status already. -/
theorem TasksTable.setStatus_rows_eq {t : TasksTable} {id goalId : Int64} {status : String}
    {r : TaskRow} (hs : status ∈ taskStatuses) (hr : r ∈ t.rows) (hh : r.hit id goalId = true) :
    (t.setStatus id goalId status hs).rows = t.rows ↔ r.status = status := by
  obtain ⟨before, after, h1, h2⟩ := TasksTable.setStatus_split hs hr hh
  rw [h1, h2, List.append_cancel_left_eq, List.cons.injEq]
  constructor
  · rintro ⟨h, -⟩
    rw [← h]; rfl
  · rintro rfl
    exact ⟨rfl, rfl⟩

theorem Postgres.mem_selectTasksByGoal {n : Int64} {r : TaskRow} :
    r ∈ pg.selectTasksByGoal i n ↔ r ∈ pg.tasks.rows ∧ r.goalId = n := by
  rw [Postgres.selectTasksByGoal, List.mem_mergeSort, List.mem_filter, decide_eq_true_eq]

/-! ## The reads of users -/

theorem textParameter_cases (s : String) :
    (IsText s ∧ textParameter s = .ok s) ∨
      ¬ IsText s ∧ textParameter s = .error .characterNotInRepertoire := by
  unfold textParameter
  by_cases h : IsText s
  · exact .inl ⟨h, if_pos h⟩
  · exact .inr ⟨h, if_neg h⟩

theorem textParameter_mapM (o : Option String) :
    ((∀ s ∈ o, IsText s) ∧ o.mapM textParameter = .ok o) ∨
      ¬ (∀ s ∈ o, IsText s) ∧ o.mapM textParameter = .error .characterNotInRepertoire := by
  cases o with
  | none => exact .inl ⟨fun _ h => absurd h (by simp), rfl⟩
  | some s =>
    rcases textParameter_cases s with ⟨h, hs⟩ | ⟨h, hs⟩
    · exact .inl ⟨fun t ht => Option.mem_some.1 ht ▸ h, by rw [Option.mapM_some, hs]; rfl⟩
    · exact .inr ⟨fun hall => h (hall s rfl), by rw [Option.mapM_some, hs]; rfl⟩

/-- The rows of a login. A text with U+0000 is no row's login, but Postgres refuses it as well. -/
theorem Postgres.selectUserByLogin_cases (pg : Postgres) (login : String) :
    (IsText login ∧ pg.selectUserByLogin login = .ok (pg.users.rows.filter (·.login = login))) ∨
      ¬ IsText login ∧ pg.selectUserByLogin login = .error .characterNotInRepertoire := by
  unfold Postgres.selectUserByLogin
  rcases textParameter_cases login with ⟨h, hs⟩ | ⟨h, hs⟩
  · exact .inl ⟨h, by rw [hs]; rfl⟩
  · exact .inr ⟨h, by rw [hs]; rfl⟩

theorem Postgres.selectUserByLogin_of (pg : Postgres) {login : String} (h : IsText login) :
    pg.selectUserByLogin login = .ok (pg.users.rows.filter (·.login = login)) := by
  rcases pg.selectUserByLogin_cases login with ⟨-, hs⟩ | ⟨hno, -⟩
  · exact hs
  · exact absurd h hno

theorem Postgres.selectUserByLogin_ok {login : String} {rows : List UserRow}
    (h : pg.selectUserByLogin login = .ok rows) : rows = pg.users.rows.filter (·.login = login) := by
  rcases pg.selectUserByLogin_cases login with ⟨-, hs⟩ | ⟨-, hs⟩
  · exact Except.ok.inj (h.symm.trans hs)
  · rw [hs] at h; simp at h

/-- The users that a search finds, in the order in which it returns them. -/
def Postgres.foundUsers (pg : Postgres) (login firstNameMask lastNameMask : Option String) : List UserRow :=
  (pg.users.rows.filter (UserRow.found login firstNameMask lastNameMask)).mergeSort fun a b => a.id ≤ b.id

/-- The arguments of a search that Postgres takes. -/
def SearchTexts (login firstNameMask lastNameMask : Option String) : Prop :=
  (∀ s ∈ login, IsText s) ∧ (∀ s ∈ firstNameMask, IsText s) ∧ ∀ s ∈ lastNameMask, IsText s

theorem Postgres.searchUsers_cases (pg : Postgres) (login firstNameMask lastNameMask : Option String) :
    (SearchTexts login firstNameMask lastNameMask ∧
        pg.searchUsers login firstNameMask lastNameMask = .ok (pg.foundUsers login firstNameMask lastNameMask)) ∨
      ¬ SearchTexts login firstNameMask lastNameMask ∧
        pg.searchUsers login firstNameMask lastNameMask = .error .characterNotInRepertoire := by
  unfold Postgres.searchUsers
  rcases textParameter_mapM login with ⟨h1, hl⟩ | ⟨h1, hl⟩
  case inr => exact .inr ⟨fun h => h1 h.1, by rw [hl]; rfl⟩
  rcases textParameter_mapM firstNameMask with ⟨h2, hf⟩ | ⟨h2, hf⟩
  case inr => exact .inr ⟨fun h => h2 h.2.1, by rw [hl, hf]; rfl⟩
  rcases textParameter_mapM lastNameMask with ⟨h3, hn⟩ | ⟨h3, hn⟩
  case inr => exact .inr ⟨fun h => h3 h.2.2, by rw [hl, hf, hn]; rfl⟩
  exact .inl ⟨⟨h1, h2, h3⟩, by rw [hl, hf, hn]; rfl⟩

theorem Postgres.searchUsers_of (pg : Postgres) {login firstNameMask lastNameMask : Option String}
    (h : SearchTexts login firstNameMask lastNameMask) :
    pg.searchUsers login firstNameMask lastNameMask = .ok (pg.foundUsers login firstNameMask lastNameMask) := by
  rcases pg.searchUsers_cases login firstNameMask lastNameMask with ⟨-, hs⟩ | ⟨hno, -⟩
  · exact hs
  · exact absurd h hno

theorem Postgres.searchUsers_ok {login firstNameMask lastNameMask : Option String} {rows : List UserRow}
    (h : pg.searchUsers login firstNameMask lastNameMask = .ok rows) :
    rows = pg.foundUsers login firstNameMask lastNameMask := by
  rcases pg.searchUsers_cases login firstNameMask lastNameMask with ⟨-, hs⟩ | ⟨-, hs⟩
  · exact Except.ok.inj (h.symm.trans hs)
  · rw [hs] at h; simp at h

/-! ## Operations, whatever becomes of them -/

theorem Postgres.updateTaskStatus_ok {id goalId : Int64} {status : String} {rs : List TaskRow}
    (h : pg.updateTaskStatus id goalId status = .ok (rs, pg')) :
    pg' = pg ∨ ∃ hs, pg' = { pg with tasks := pg.tasks.setStatus id goalId status hs } := by
  unfold Postgres.updateTaskStatus at h
  dsimp only at h
  split at h
  · simp at h
  split at h
  · exact .inl (Prod.mk.inj (Except.ok.inj h)).2.symm
  · split at h
    · rename_i hs
      exact .inr ⟨hs, (Prod.mk.inj (Except.ok.inj h)).2.symm⟩
    · simp at h

theorem atomically_ok {α σ : Type} {s s' : σ} {x : Except Exn (α × σ)} {a : α}
    (h : atomically s x = (.ok a, s')) : x = .ok (a, s') := by
  cases x with
  | error e => simp [atomically] at h
  | ok p =>
    obtain ⟨h1, h2⟩ := Prod.mk.inj h
    rw [← Except.ok.inj h1, ← h2]

theorem atomically_error {α σ : Type} {s : σ} {x : Except Exn (α × σ)} {e : Exn}
    (h : (atomically s x).1 = .error e) : (atomically s x).2 = s := by
  cases x with
  | error e => rfl
  | ok p => simp [atomically] at h

/-- A statement that fails changes nothing. -/
theorem Postgres.exec_error {stmt : Sql} {e : Exn} (h : (pg.exec i stmt).1 = .error e) :
    (pg.exec i stmt).2 = pg := by
  cases stmt <;> first | rfl | exact atomically_error h

/-- What a statement can do to the database: nothing, one of the two inserts, or the update. -/
theorem Postgres.exec_cases (i : Input) (stmt : Sql) (pg : Postgres) :
    (pg.exec i stmt).2 = pg ∨
      (∃ login password firstName lastName id, stmt = .insertUser login password firstName lastName ∧
        pg.insertUser i login password firstName lastName = .ok (id, (pg.exec i stmt).2)) ∨
      (∃ goalId title row, stmt = .insertTask goalId title ∧
        pg.insertTask i goalId title = .ok (row, (pg.exec i stmt).2)) ∨
      ∃ id goalId status hs, stmt = .updateTaskStatus id goalId status ∧
        (pg.exec i stmt).2 = { pg with tasks := pg.tasks.setStatus id goalId status hs } := by
  cases stmt with
  | insertUser login password firstName lastName =>
    simp only [Postgres.exec]
    cases h : pg.insertUser i login password firstName lastName with
    | error e => exact .inl rfl
    | ok p => exact .inr (.inl ⟨_, _, _, _, _, rfl, h⟩)
  | insertTask goalId title =>
    simp only [Postgres.exec]
    cases h : pg.insertTask i goalId title with
    | error e => exact .inl rfl
    | ok p => exact .inr (.inr (.inl ⟨_, _, _, rfl, h⟩))
  | updateTaskStatus id goalId status =>
    simp only [Postgres.exec]
    cases h : pg.updateTaskStatus id goalId status with
    | error e => exact .inl rfl
    | ok p =>
      rcases Postgres.updateTaskStatus_ok h with hp | ⟨hs, hp⟩
      · exact .inl hp
      · exact .inr (.inr (.inr ⟨_, _, _, hs, rfl, hp⟩))
  | _ => exact .inl rfl

/-- No statement removes a task, and only a status update of its own changes it. -/
theorem Postgres.exec_task (i : Input) (stmt : Sql) {r : TaskRow} (hr : r ∈ pg.tasks.rows) :
    r ∈ (pg.exec i stmt).2.tasks.rows ∨ ∃ status, stmt = .updateTaskStatus r.id r.goalId status ∧
      r.withStatus status ∈ (pg.exec i stmt).2.tasks.rows := by
  rcases pg.exec_cases i stmt with
    h | ⟨_, _, _, _, _, -, hins⟩ | ⟨_, _, row, -, hins⟩ | ⟨id, goalId, status, hs, hstmt, h⟩
  · rw [h]; exact .inl hr
  · rw [(Postgres.insertUser_ok hins).2.2.1]; exact .inl hr
  · rw [(Postgres.insertTask_ok hins).2.1]; exact .inl (List.mem_append_left _ hr)
  · rw [h]
    cases hit : r.hit id goalId with
    | true =>
      obtain ⟨rfl, rfl⟩ := TaskRow.hit_iff.1 hit
      exact .inr ⟨status, hstmt, Rows.mem_updateWhere.2 (.inl ⟨r, hr, hit, rfl⟩)⟩
    | false => exact .inl (Rows.mem_updateWhere.2 (.inr ⟨hr, hit⟩))

/-- No statement removes or changes a user. -/
theorem Postgres.exec_user (i : Input) (stmt : Sql) {r : UserRow} (hr : r ∈ pg.users.rows) :
    r ∈ (pg.exec i stmt).2.users.rows := by
  rcases pg.exec_cases i stmt with
    h | ⟨_, _, _, _, _, -, hins⟩ | ⟨_, _, row, -, hins⟩ | ⟨_, _, _, hs, -, h⟩
  · rw [h]; exact hr
  · rw [(Postgres.insertUser_ok hins).1]; exact List.mem_append_left _ hr
  · rw [(Postgres.insertTask_ok hins).2.2.2.1]; exact hr
  · rw [h]; exact hr

/-- The rows that an update returns stand in the table. -/
theorem Postgres.updateTaskStatus_mem {id goalId : Int64} {status : String} {rs : List TaskRow}
    (h : pg.updateTaskStatus id goalId status = .ok (rs, pg')) {r : TaskRow} (hr : r ∈ rs) :
    r ∈ pg'.tasks.rows ∧ r.id = id ∧ r.goalId = goalId := by
  unfold Postgres.updateTaskStatus at h
  dsimp only at h
  split at h
  · simp at h
  split at h
  · obtain ⟨rfl, -⟩ := Prod.mk.inj (Except.ok.inj h)
    exact absurd hr List.not_mem_nil
  split at h
  · obtain ⟨rfl, rfl⟩ := Prod.mk.inj (Except.ok.inj h)
    obtain ⟨r₀, hr₀, rfl⟩ := List.mem_map.1 hr
    obtain ⟨hmem, hit⟩ := List.mem_filter.1 hr₀
    exact ⟨Rows.mem_updateWhere.2 (.inl ⟨r₀, hmem, hit, rfl⟩), TaskRow.hit_iff.1 hit⟩
  · simp at h

theorem World.exec_selectUserByLogin (i : Input) (w : World) (host : ClusterHostType) (login : String) :
    World.exec i (.execute host (.selectUserByLogin login)) w =
      (if i.fault (.execute host (.selectUserByLogin login)) then .error .storeFailure
        else w.pg.selectUserByLogin login, w) := by
  simp only [World.exec]
  split <;> rfl

/-- A user's insert fails and changes nothing, or goes through. -/
theorem World.exec_insertUser_cases (i : Input) (w : World) (host : ClusterHostType)
    (login password firstName lastName : String) :
    (∃ e, World.exec i (.execute host (.insertUser login password firstName lastName)) w =
        (.error e, w)) ∨
      ∃ id pg', w.pg.insertUser i login password firstName lastName = .ok (id, pg') ∧
        World.exec i (.execute host (.insertUser login password firstName lastName)) w =
          (.ok id, { w with pg := pg' }) := by
  simp only [World.exec]
  split
  · exact .inl ⟨_, rfl⟩
  · simp only [Postgres.exec]
    cases h : w.pg.insertUser i login password firstName lastName with
    | error e => exact .inl ⟨e, rfl⟩
    | ok p => exact .inr ⟨p.1, p.2, rfl, rfl⟩

/-- A task's insert fails and changes nothing, or adds the row that it returns. -/
theorem World.exec_insertTask (i : Input) (w : World) (host : ClusterHostType) (goalId : Int64)
    (title : String) :
    (∃ e, (World.exec i (.execute host (.insertTask goalId title)) w) = (.error e, w)) ∨
      ∃ row : TaskRow, (World.exec i (.execute host (.insertTask goalId title)) w).1 = .ok row ∧
        row.goalId = goalId ∧ row.title = asColumn title ∧ row.status = "todo" ∧
        (World.exec i (.execute host (.insertTask goalId title)) w).2.pg.tasks.rows =
          w.pg.tasks.rows ++ [row] ∧
        (World.exec i (.execute host (.insertTask goalId title)) w).2.goals = w.goals := by
  simp only [World.exec]
  split
  · exact .inl ⟨_, rfl⟩
  · simp only [Postgres.exec]
    cases h : w.pg.insertTask i goalId title with
    | error e => exact .inl ⟨e, rfl⟩
    | ok p =>
      obtain ⟨⟨k, -, -, hrow⟩, hrows, -⟩ := Postgres.insertTask_ok h
      refine .inr ⟨p.1, rfl, ?_, ?_, ?_, hrows, trivial⟩ <;> rw [hrow]

theorem World.exec_selectTasksByGoal (i : Input) (w : World) (host : ClusterHostType) (goalId : Int64) :
    (World.exec i (.execute host (.selectTasksByGoal goalId)) w).1 = .error .storeFailure ∨
      (World.exec i (.execute host (.selectTasksByGoal goalId)) w).1 =
        .ok (w.pg.selectTasksByGoal i goalId) := by
  simp only [World.exec]
  split
  · exact .inl rfl
  · exact .inr rfl

/-- A status update sets the status of some rows and leaves users and goals alone. -/
theorem World.exec_updateTaskStatus (i : Input) (w : World) (host : ClusterHostType) (id goalId : Int64)
    (status : String) :
    (∃ p, (World.exec i (.execute host (.updateTaskStatus id goalId status)) w).2.pg.tasks.rows =
        Rows.updateWhere p (TaskRow.withStatus status) w.pg.tasks.rows) ∧
      (World.exec i (.execute host (.updateTaskStatus id goalId status)) w).2.pg.users = w.pg.users ∧
      (World.exec i (.execute host (.updateTaskStatus id goalId status)) w).2.goals = w.goals := by
  have hsame : ∃ p, w.pg.tasks.rows = Rows.updateWhere p (TaskRow.withStatus status) w.pg.tasks.rows :=
    ⟨fun _ => false, (Rows.updateWhere_of_none fun _ _ => rfl).symm⟩
  simp only [World.exec]
  split
  · exact ⟨hsame, rfl, rfl⟩
  · simp only [Postgres.exec]
    cases h : w.pg.updateTaskStatus id goalId status with
    | error e => exact ⟨hsame, rfl, trivial⟩
    | ok p =>
      simp only [atomically]
      rcases Postgres.updateTaskStatus_ok h with hp | ⟨hs, hp⟩
      · rw [hp]; exact ⟨hsame, rfl, trivial⟩
      · rw [hp]; exact ⟨⟨_, rfl⟩, rfl, trivial⟩

/-- A goal's insert adds at most that goal and leaves Postgres alone. -/
theorem World.exec_insertOne (i : Input) (w : World) (doc : GoalDoc) :
    (World.exec i (.mongo (.insertOne doc)) w).2.pg = w.pg ∧
      ∀ d ∈ (World.exec i (.mongo (.insertOne doc)) w).2.goals.docs, d ∈ w.goals.docs ∨ d = doc := by
  simp only [World.exec]
  split
  · exact ⟨rfl, fun d hd => .inl hd⟩
  · simp only [GoalsCollection.exec]
    cases h : w.goals.insertOne doc with
    | error e => exact ⟨trivial, fun d hd => .inl hd⟩
    | ok p =>
      refine ⟨trivial, fun d hd => ?_⟩
      have hd : d ∈ p.2.docs := hd
      rw [(GoalsCollection.insertOne_ok h).1, List.mem_append, List.mem_singleton] at hd
      exact hd

end Leadertask
