import Leadertask.Lib.Lockstep
import Leadertask.Proof.Calls
import Leadertask.Proof.Serializable
import Leadertask.Proof.Throughput

/-!
# A password shows only to who offers it

Two runs of the service that differ in one thing: the password of one account, as it is stored or
as its signup sends it. As long as no login for the account offers either of the two passwords,
the runs answer alike, to everyone and in every interleaving.

* `SameWorld`: two worlds that differ in that password at most.
* `exec_same`: an operation answers the same, but for the password in the rows of users.
* `passwords_private`: so the clients see the same.
-/

namespace Leadertask

open Atomic

variable {D : Type} {cfg : Config D}

/-! ## Programs of the handlers -/

section

variable {L : Op → Op → Prop} {S : (o o' : Op) → Except Exn o.Ret → Except Exn o'.Ret → Prop}
variable {Q : HttpResponse → HttpResponse → Prop} {q q' : HttpRequest} {ctx : RequestContext}

theorem withUserId_alike {msg : String} {k k' : UserId → Handler HttpResponse} (hQ : ∀ r, Q r r)
    (h : ∀ u, ctx.userData = some u → (k u).Alike L S Q (k' u)) :
    (withUserId ctx msg k).Alike L S Q (withUserId ctx msg k') := by
  unfold withUserId RequestContext.getUserData
  cases hu : ctx.userData with
  | none => exact .ret (hQ _)
  | some u => exact h u hu

theorem rateLimited_alike {e : Endpoint} {u : UserId} {k k' : Handler HttpResponse} (hQ : ∀ r, Q r r)
    (hfixed : Prog.Fixed L S (.checkRateLimit e u)) (h : k.Alike L S Q k') :
    (rateLimited e u k).Alike L S Q (rateLimited e u k') := by
  refine .call hfixed.1 fun r r' hr => ?_
  obtain rfl := hfixed.2 r r' hr
  rcases r with exc | ⟨_ | _, remaining⟩
  · exact .raise exc
  · exact .ret (hQ _)
  · exact h

/-- Two requests with one header are alike if their handlers are. -/
theorem serve_alike_of (cfg : Config D) (hQ : ∀ r, Q r r) (he : q'.endpoint = q.endpoint)
    (hauth : q'.authorization = q.authorization) (hat : q'.receivedAt = q.receivedAt)
    (h : (dispatch cfg q (q.context cfg)).Alike L S Q (dispatch cfg q' (q.context cfg))) :
    (serve cfg q).Alike L S Q (serve cfg q') := by
  unfold serve
  rw [he, hauth, hat]
  unfold HttpRequest.context at h
  split
  · rename_i hjwt
    rw [if_pos hjwt] at h
    dsimp only
    split
    · exact h
    · exact .ret (hQ _)
  · rename_i hjwt
    rwa [if_neg hjwt] at h

end

/-- An account and two passwords, as their columns hold them. -/
structure Secret where
  login : String
  one : String
  other : String

/-- A signup takes the text, and the column holds it as `t`. -/
structure StoredAs (s t : String) : Prop where
  nonempty : s ≠ ""
  storable : Storable s
  column : asColumn s = t

namespace Secret

variable (s : Secret)

/-! ## What may differ -/

/-- Two rows that are equal, or the account's row with the one and with the other password. -/
def SameRow (r r' : UserRow) : Prop :=
  r' = r ∨ (r.login = s.login ∧ r.password = s.one ∧ r' = { r with password := s.other })

structure SamePostgres (pg pg' : Postgres) : Prop where
  users : List.Forall₂ s.SameRow pg.users.rows pg'.users.rows
  usersSeq : pg'.usersSeq = pg.usersSeq
  goalIds : pg'.goalIds = pg.goalIds
  tasks : pg'.tasks = pg.tasks
  tasksSeq : pg'.tasksSeq = pg.tasksSeq

/-- Two worlds that differ in the account's password at most. -/
structure SameWorld (w w' : World) : Prop where
  pg : s.SamePostgres w.pg w'.pg
  goals : w'.goals = w.goals
  rateLimits : w'.rateLimits = w.rateLimits

/-- Equal operations, or the inserts of the account with the one and with the other password. -/
inductive SameOp : Op → Op → Prop
  | same (o : Op) : SameOp o o
  | insert {login password password' : String} (firstName lastName : String) (hlogin : asColumn login = s.login)
      (hone : StoredAs password s.one) (hother : StoredAs password' s.other) :
    SameOp (.execute .kMaster (.insertUser login password firstName lastName))
      (.execute .kMaster (.insertUser login password' firstName lastName))

/-- Equal answers, but for the password in the rows of users. -/
def SameResult : (o o' : Op) → Except Exn o.Ret → Except Exn o'.Ret → Prop
  | .execute _ (.selectUserByLogin login), .execute _ (.selectUserByLogin _), r, r' =>
    Prog.Matches (fun rows rows' => List.Forall₂ s.SameRow rows rows' ∧ ∀ row ∈ rows, row.login = login) r r'
  | .execute _ (.selectUserById _), .execute _ (.selectUserById _), r, r' =>
    Prog.Matches (List.Forall₂ s.SameRow) r r'
  | .execute _ (.searchUsers ..), .execute _ (.searchUsers ..), r, r' =>
    Prog.Matches (List.Forall₂ s.SameRow) r r'
  | _, _, r, r' => HEq r r'

/-- Equal requests, no login among them that offers the account one of the passwords, or its
signups with the one and with the other. -/
inductive SameRequest : HttpRequest → HttpRequest → Prop
  | same (q : HttpRequest) (hq : q.endpoint = .login → ∀ body, LoginRequestBody.parse q.body = .ok body →
      body.login = s.login → body.password ≠ s.one ∧ body.password ≠ s.other) : SameRequest q q
  | signup {q q' : HttpRequest} {login password password' firstName lastName : String}
      (he : q.endpoint = .signup) (he' : q'.endpoint = .signup)
      (hb : CreateUserRequestBody.parse q.body = .ok ⟨login, password, firstName, lastName⟩)
      (hb' : CreateUserRequestBody.parse q'.body = .ok ⟨login, password', firstName, lastName⟩)
      (hlogin : asColumn login = s.login) (hone : StoredAs password s.one)
      (hother : StoredAs password' s.other) : SameRequest q q'

/-- The same input, whose failures do not depend on the password. -/
def SameInput (i i' : Input) : Prop :=
  i' = i ∧ ∀ login password password' firstName lastName, asColumn login = s.login →
    StoredAs password s.one → StoredAs password' s.other →
    i.fault (.execute .kMaster (.insertUser login password firstName lastName)) =
      i.fault (.execute .kMaster (.insertUser login password' firstName lastName))

/-! ## The stores -/

variable {s} {pg pg' : Postgres} {i : Input}

theorem SameRow.columns {r r' : UserRow} (h : s.SameRow r r') :
    r'.id = r.id ∧ r'.login = r.login ∧ r'.firstName = r.firstName ∧ r'.lastName = r.lastName := by
  rcases h with rfl | ⟨-, -, rfl⟩
  · exact ⟨rfl, rfl, rfl, rfl⟩
  · exact ⟨rfl, rfl, rfl, rfl⟩

/-- A column other than the password. -/
theorem map_same {κ : Type} (col : UserRow → κ) {rows rows' : List UserRow}
    (hcol : ∀ r r', s.SameRow r r' → col r' = col r) (h : List.Forall₂ s.SameRow rows rows') :
    rows'.map col = rows.map col := by
  induction h with
  | nil => rfl
  | cons hr _ ih => rw [List.map_cons, List.map_cons, hcol _ _ hr, ih]

/-- Rows chosen by other columns than the password. -/
theorem filter_same {f : UserRow → Bool} {rows rows' : List UserRow}
    (hf : ∀ r r', s.SameRow r r' → f r' = f r) (h : List.Forall₂ s.SameRow rows rows') :
    List.Forall₂ s.SameRow (rows.filter f) (rows'.filter f) :=
  List.rel_filter (fun {r r'} hr => iff_of_eq (congrArg (· = true) (hf r r' hr).symm)) h

/-- Two tables take the user with the one and with the other password, or neither does. -/
theorem insert_same {t t' : UsersTable} {id : Int64} {login password password' firstName lastName : Varchar255}
    (h : List.Forall₂ s.SameRow t.rows t'.rows)
    (hr : s.SameRow ⟨id, login, password, firstName, lastName⟩ ⟨id, login, password', firstName, lastName⟩) :
    (t.insert id login password firstName lastName = .error .uniqueViolation ∧
        t'.insert id login password' firstName lastName = .error .uniqueViolation) ∨
      ∃ u u', t.insert id login password firstName lastName = .ok u ∧
        t'.insert id login password' firstName lastName = .ok u' ∧ List.Forall₂ s.SameRow u.rows u'.rows := by
  have hids := map_same UserRow.id (fun _ _ hr => hr.columns.1) h
  have hlogins := map_same UserRow.login (fun _ _ hr => hr.columns.2.1) h
  unfold UsersTable.insert
  by_cases hnew : id ∉ t.rows.map UserRow.id ∧ login.val ∉ t.rows.map UserRow.login
  · have hnew' : id ∉ t'.rows.map UserRow.id ∧ login.val ∉ t'.rows.map UserRow.login := by
      rw [hids, hlogins]; exact hnew
    rw [dif_pos hnew, dif_pos hnew']
    exact .inr ⟨_, _, rfl, rfl, List.rel_append h (.cons hr .nil)⟩
  · have hnew' : ¬ (id ∉ t'.rows.map UserRow.id ∧ login.val ∉ t'.rows.map UserRow.login) := by
      rw [hids, hlogins]; exact hnew
    rw [dif_neg hnew, dif_neg hnew']
    exact .inl ⟨rfl, rfl⟩

/-- What the column makes of two passwords of the login: refused alike, or kept as equal ones or as the
account's two. -/
def SamePassword (s : Secret) (login password password' : String) : Prop :=
  (∃ e, varchar255 password = .error e ∧ varchar255 password' = .error e) ∨
    ∃ p p', varchar255 password = .ok p ∧ varchar255 password' = .ok p' ∧
      ∀ id (l f n : Varchar255), l.val = asColumn login → s.SameRow ⟨id, l, p, f, n⟩ ⟨id, l, p', f, n⟩

theorem samePassword_refl (login password : String) : s.SamePassword login password password := by
  cases h : varchar255 password with
  | error e => exact .inl ⟨e, h, h⟩
  | ok p => exact .inr ⟨p, p, h, h, fun _ _ _ _ _ => .inl rfl⟩

theorem samePassword_of_stored {login password password' : String} (hlogin : asColumn login = s.login)
    (hone : StoredAs password s.one) (hother : StoredAs password' s.other) :
    s.SamePassword login password password' := by
  refine .inr ⟨_, _, varchar255_of hone.storable, varchar255_of hother.storable, fun id l f n hl => ?_⟩
  exact .inr ⟨hl.trans hlogin, hone.column, congrArg (fun p => UserRow.mk id l p f n) hother.column⟩

/-- Two inserts of one user, with equal passwords or with the two. -/
theorem insertUser_same (h : s.SamePostgres pg pg') {login password password' : String}
    (hpassword : s.SamePassword login password password') (firstName lastName : String) :
    (∃ e, pg.insertUser i login password firstName lastName = .error e ∧
        pg'.insertUser i login password' firstName lastName = .error e) ∨
      ∃ id q q', pg.insertUser i login password firstName lastName = .ok (id, q) ∧
        pg'.insertUser i login password' firstName lastName = .ok (id, q') ∧ s.SamePostgres q q' := by
  unfold Postgres.insertUser
  rw [h.usersSeq]
  cases nextval pg.usersSeq i.skip with
  | error e => exact .inl ⟨e, rfl, rfl⟩
  | ok k =>
  cases hl : varchar255 login with
  | error e => exact .inl ⟨e, rfl, rfl⟩
  | ok l =>
  rcases hpassword with ⟨e, hp, hp'⟩ | ⟨p, p', hp, hp', hrow⟩
  · rw [hp, hp']
    exact .inl ⟨e, rfl, rfl⟩
  rw [hp, hp']
  cases hf : varchar255 firstName with
  | error e => exact .inl ⟨e, rfl, rfl⟩
  | ok f =>
  cases hn : varchar255 lastName with
  | error e => exact .inl ⟨e, rfl, rfl⟩
  | ok n =>
  rcases insert_same h.users (hrow (Int64.ofNat k) l f n (varchar255_ok hl).2) with ⟨h1, h2⟩ | ⟨u, u', h1, h2, hu⟩
  · exact .inl ⟨.uniqueViolation, by simp only [bind, Except.bind, h1], by simp only [bind, Except.bind, h2]⟩
  · refine .inr ⟨Int64.ofNat k, { pg with users := u, usersSeq := k }, { pg' with users := u', usersSeq := k },
      ?_, ?_, hu, rfl, h.goalIds, h.tasks, h.tasksSeq⟩
    · simp only [bind, Except.bind, h1]; rfl
    · simp only [bind, Except.bind, h2]; rfl

/-- The tasks' statements do not look at the users. -/
theorem insertTask_users (users : UsersTable) (goalId : Int64) (title : String) :
    Postgres.insertTask i { pg with users := users } goalId title =
      (pg.insertTask i goalId title).map fun p => (p.1, { p.2 with users := users }) := by
  unfold Postgres.insertTask
  cases nextval pg.tasksSeq i.skip with
  | error e => rfl
  | ok k =>
    cases varchar255 title with
    | error e => rfl
    | ok t =>
      cases ht : pg.tasks.insert (Int64.ofNat k) goalId t i.stamp with
      | error e => simp only [bind, Except.bind, ht]; rfl
      | ok tasks =>
        simp only [bind, Except.bind, ht]
        split <;> rfl

theorem updateTaskStatus_users (users : UsersTable) (id goalId : Int64) (status : String) :
    Postgres.updateTaskStatus { pg with users := users } id goalId status =
      (pg.updateTaskStatus id goalId status).map fun p => (p.1, { p.2 with users := users }) := by
  unfold Postgres.updateTaskStatus
  dsimp only
  split
  · rfl
  split
  · rfl
  · split <;> rfl

/-- A statement that neither looks at the users nor changes them. -/
theorem tasks_same {α : Type} {users : UsersTable} {x x' : Except Exn (α × Postgres)}
    (husers : List.Forall₂ s.SameRow pg.users.rows users.rows)
    (hx' : x' = x.map fun p => (p.1, { p.2 with users := users })) (hx : ∀ p, x = .ok p → p.2.users = pg.users) :
    (atomically pg x).1 = (atomically { pg with users := users } x').1 ∧
      s.SamePostgres (atomically pg x).2 (atomically { pg with users := users } x').2 := by
  subst hx'
  cases x with
  | error e => exact ⟨rfl, husers, rfl, rfl, rfl, rfl⟩
  | ok p =>
    have hp : List.Forall₂ s.SameRow p.2.users.rows users.rows := by rw [hx p rfl]; exact husers
    exact ⟨rfl, hp, rfl, rfl, rfl, rfl⟩

/-- One statement on both databases. -/
theorem postgres_same (h : s.SamePostgres pg pg') (host : ClusterHostType) (stmt : Sql) :
    s.SameResult (.execute host stmt) (.execute host stmt) (pg.exec i stmt).1 (pg'.exec i stmt).1 ∧
      s.SamePostgres (pg.exec i stmt).2 (pg'.exec i stmt).2 := by
  -- the databases differ in the users alone
  obtain ⟨users', rfl⟩ : ∃ users, pg' = { pg with users := users } := by
    obtain ⟨users, usersSeq, goalIds, tasks, tasksSeq⟩ := pg'
    obtain ⟨-, rfl, rfl, rfl, rfl⟩ := h
    exact ⟨users, rfl⟩
  have husers : List.Forall₂ s.SameRow pg.users.rows users'.rows := h.users
  have hids := map_same UserRow.id (fun _ _ hr => hr.columns.1) husers
  cases stmt with
  | insertUser login password firstName lastName =>
    rcases insertUser_same (i := i) h (samePassword_refl login password) firstName lastName with
      ⟨e, h1, h2⟩ | ⟨id, q, q', h1, h2, hq⟩
    · rw [Postgres.exec, Postgres.exec, h1, h2]
      exact ⟨HEq.rfl, h⟩
    · rw [Postgres.exec, Postgres.exec, h1, h2]
      exact ⟨HEq.rfl, hq⟩
  | selectUserByLogin login =>
    refine ⟨?_, h⟩
    simp only [Postgres.exec]
    rcases pg.selectUserByLogin_cases login with ⟨ht, h1⟩ | ⟨ht, h1⟩
    · rw [h1, Postgres.selectUserByLogin_of _ ht]
      refine .ok ⟨filter_same (fun r r' hr => by rw [hr.columns.2.1]) husers, fun row hrow => ?_⟩
      simpa using List.of_mem_filter hrow
    · rw [h1, ((Postgres.selectUserByLogin_cases _ login).resolve_left fun h => ht h.1).2]
      exact .error _
  | selectUserById id => exact ⟨.ok (filter_same (fun r r' hr => by rw [hr.columns.1]) husers), h⟩
  | userExists id =>
    have hany (rows : List UserRow) : rows.any (·.id = id) = (rows.map UserRow.id).any (· = id) := by
      rw [List.any_map]; rfl
    refine ⟨heq_of_eq (congrArg Except.ok ?_), h⟩
    rw [hany, hany, hids]
  | searchUsers login firstMask lastMask =>
    refine ⟨?_, h⟩
    simp only [Postgres.exec]
    rcases pg.searchUsers_cases login firstMask lastMask with ⟨ht, h1⟩ | ⟨ht, h1⟩
    case inr =>
      rw [h1, ((Postgres.searchUsers_cases _ login firstMask lastMask).resolve_left fun h => ht h.1).2]
      exact .error _
    rw [h1, Postgres.searchUsers_of _ ht]
    refine .ok (forall₂_mergeSort (fun a b c d hab hcd => by rw [hab.columns.1, hcd.columns.1])
      (filter_same (fun r r' hr => ?_) husers))
    obtain ⟨-, h2, h3, h4⟩ := hr.columns
    unfold UserRow.found
    rw [h2, h3, h4]
  | insertTask goalId title =>
    obtain ⟨hanswer, hafter⟩ := tasks_same (x := pg.insertTask i goalId title) husers
      (insertTask_users users' goalId title) fun p hp => (Postgres.insertTask_ok hp).2.2.2.1
    exact ⟨heq_of_eq hanswer, hafter⟩
  | selectTaskById id => exact ⟨HEq.rfl, h⟩
  | selectTasksByGoal goalId => exact ⟨HEq.rfl, h⟩
  | updateTaskStatus id goalId status =>
    have hkeep : ∀ p, pg.updateTaskStatus id goalId status = .ok p → p.2.users = pg.users := by
      intro p hp
      unfold Postgres.updateTaskStatus at hp
      dsimp only at hp
      split at hp
      · simp at hp
      split at hp
      · rw [← Except.ok.inj hp]
      · split at hp
        · rw [← Except.ok.inj hp]
        · simp at hp
    obtain ⟨hanswer, hafter⟩ := tasks_same (x := pg.updateTaskStatus id goalId status) husers
      (updateTaskStatus_users users' id goalId status) hkeep
    exact ⟨heq_of_eq hanswer, hafter⟩

/-- **One operation on both worlds** answers the same, but for the password in the rows of users. -/
theorem exec_same {i i' : Input} {o o' : Op} {w w' : World} (hi : s.SameInput i i') (ho : s.SameOp o o')
    (h : s.SameWorld w w') :
    s.SameResult o o' (World.exec i o w).1 (World.exec i' o' w').1 ∧
      s.SameWorld (World.exec i o w).2 (World.exec i' o' w').2 := by
  obtain ⟨rfl, hfault⟩ := hi
  obtain ⟨pg', goals', rateLimits'⟩ := w'
  obtain ⟨hpg, rfl, rfl⟩ := h
  cases ho with
  | @insert login password password' firstName lastName hlogin hone hother =>
    simp only [World.exec, ← hfault login password password' firstName lastName hlogin hone hother]
    split
    · exact ⟨HEq.rfl, hpg, rfl, rfl⟩
    · have hpassword := samePassword_of_stored hlogin hone hother
      rcases insertUser_same (i := i') hpg hpassword firstName lastName with
        ⟨e, h1, h2⟩ | ⟨id, q, q', h1, h2, hq⟩
      · rw [Postgres.exec, Postgres.exec, h1, h2]
        exact ⟨HEq.rfl, hpg, rfl, rfl⟩
      · rw [Postgres.exec, Postgres.exec, h1, h2]
        exact ⟨HEq.rfl, hq, rfl, rfl⟩
  | same =>
    cases o with
    | checkRateLimit e u => exact ⟨HEq.rfl, hpg, rfl, rfl⟩
    | newOid => exact ⟨HEq.rfl, hpg, rfl, rfl⟩
    | execute host stmt =>
      simp only [World.exec]
      split
      · refine ⟨?_, hpg, rfl, rfl⟩
        cases stmt <;> first | exact HEq.rfl | exact .error _
      · obtain ⟨hanswer, hafter⟩ := postgres_same (i := i') hpg host stmt
        exact ⟨hanswer, hafter, rfl, rfl⟩
    | mongo cmd =>
      simp only [World.exec]
      split
      · exact ⟨HEq.rfl, hpg, rfl, rfl⟩
      · exact ⟨HEq.rfl, hpg, rfl, rfl⟩

/-! ## The handlers -/

/-- A program that goes on alike. -/
abbrev AlikeProg {α : Type} (s : Secret) (Q : α → α → Prop) (p p' : Handler α) : Prop :=
  p.Alike s.SameOp s.SameResult Q p'

/-- A program that asks for no rows of users. -/
theorem alike_self {α : Type} {p : Handler α}
    (hp : p.Uses (Prog.Fixed s.SameOp s.SameResult)) : s.AlikeProg Eq p p :=
  Prog.alike_of_uses hp fun _ => rfl

theorem fixed_of_calls {q : HttpRequest} {ctx : RequestContext} (hlogin : q.endpoint ≠ .login)
    (hsearch : q.endpoint ≠ .usersSearch) {o : Op} (h : Calls q ctx o) :
    Prog.Fixed s.SameOp s.SameResult o := by
  refine ⟨.same o, fun r r' hr => ?_⟩
  cases o with
  | checkRateLimit e u => exact eq_of_heq hr
  | newOid => exact eq_of_heq hr
  | execute host stmt =>
    cases stmt with
    | selectUserByLogin login => exact absurd h hlogin
    | selectUserById id => exact h.elim
    | searchUsers login firstMask lastMask => exact absurd h hsearch
    | _ => exact eq_of_heq hr
  | mongo cmd => exact eq_of_heq hr

/-- The signups of the account with the one and with the other password. -/
theorem signup_alike {q q' : HttpRequest} {login password password' firstName lastName : String}
    (hb : CreateUserRequestBody.parse q.body = .ok ⟨login, password, firstName, lastName⟩)
    (hb' : CreateUserRequestBody.parse q'.body = .ok ⟨login, password', firstName, lastName⟩)
    (hlogin : asColumn login = s.login) (hone : StoredAs password s.one) (hother : StoredAs password' s.other) :
    s.AlikeProg Eq (Signup.handleRequestJsonThrow cfg q) (Signup.handleRequestJsonThrow cfg q') := by
  have hone' := String.isEmpty_eq_false_iff.2 hone.nonempty
  have hother' := String.isEmpty_eq_false_iff.2 hother.nonempty
  unfold Signup.handleRequestJsonThrow
  refine Prog.Alike.catching ?_ fun exc => .ret rfl
  simp only [hb, hb', hone', hother', Prog.ofExcept_ok, Prog.bind_eq, Prog.ret_andThen, Bool.or_false]
  split
  · exact .ret rfl
  · refine Prog.Alike.andThen (P := Eq) (Prog.Alike.catching (Prog.Alike.andThen (P := Eq) ?_ ?_) fun exc => ?_) ?_
    · exact .call (.insert firstName lastName hlogin hone hother) fun r r' hr => by
        obtain rfl := eq_of_heq hr
        exact Prog.alike_of_uses (Prog.uses_ofExcept r) fun _ => rfl
    · rintro id _ rfl
      exact .ret rfl
    · cases exc <;> first | exact .ret rfl | exact .raise _
    · rintro user _ rfl
      cases user <;> exact .ret rfl

/-- A login that offers the account neither password. -/
theorem login_alike {q : HttpRequest}
    (hq : ∀ body, LoginRequestBody.parse q.body = .ok body →
      body.login = s.login → body.password ≠ s.one ∧ body.password ≠ s.other) :
    s.AlikeProg Eq (Login.handleRequestJsonThrow cfg q) (Login.handleRequestJsonThrow cfg q) := by
  unfold Login.handleRequestJsonThrow
  refine Prog.Alike.catching ?_ fun exc => .ret rfl
  cases hb : LoginRequestBody.parse q.body with
  | error exc => exact .raise exc
  | ok body =>
    simp only [Prog.ofExcept_ok, Prog.bind_eq, Prog.ret_andThen]
    split
    · exact .ret rfl
    · -- the rows asked for have the login asked for
      refine Prog.Alike.andThen (P := fun u u' => (u = none ∧ u' = none) ∨
          ∃ r r', u = some r ∧ u' = some r' ∧ s.SameRow r r' ∧ r.login = body.login)
        (Prog.Alike.andThen (P := fun rows rows' => List.Forall₂ s.SameRow rows rows' ∧
          ∀ row ∈ rows, row.login = body.login) (.call (.same _) fun r r' hr => Prog.alike_ofExcept hr) ?_) ?_
      · rintro rows rows' ⟨hrows, hlogin⟩
        cases hrows with
        | nil => exact .ret (.inl ⟨rfl, rfl⟩)
        | cons hr _ => exact .ret (.inr ⟨_, _, rfl, rfl, hr, hlogin _ List.mem_cons_self⟩)
      · rintro u u' (⟨rfl, rfl⟩ | ⟨r, r', rfl, rfl, hr, hlogin⟩)
        · exact .ret rfl
        · rcases hr with rfl | ⟨hl, hp, rfl⟩
          · dsimp only
            split <;> exact .ret rfl
          · -- neither password is the one offered
            obtain ⟨hone, hother⟩ := hq body hb (hlogin.symm.trans hl)
            dsimp only
            rw [if_pos (by rw [hp]; exact hone.symm), if_pos hother.symm]
            exact .ret rfl

theorem readUsers_same {rows rows' : List UserRow} (h : List.Forall₂ s.SameRow rows rows') :
    rows'.mapM (UsersRepository.readUser cfg) = rows.mapM (UsersRepository.readUser cfg) := by
  induction h with
  | nil => rfl
  | @cons r r' _ _ hr _ ih =>
    obtain ⟨h1, h2, h3, h4⟩ := hr.columns
    have hread : UsersRepository.readUser cfg r' = UsersRepository.readUser cfg r := by
      unfold UsersRepository.readUser
      rw [h1, h2, h3, h4]
    rw [List.mapM_cons, List.mapM_cons, ih, hread]

/-- A search shows no password. -/
theorem search_alike (q : HttpRequest) (ctx : RequestContext) :
    s.AlikeProg Eq (Search.handleRequestJsonThrow cfg q ctx) (Search.handleRequestJsonThrow cfg q ctx) := by
  unfold Search.handleRequestJsonThrow
  refine withUserId_alike (fun _ => rfl) fun u _ =>
    rateLimited_alike (fun _ => rfl) ⟨.same _, fun _ _ hr => eq_of_heq hr⟩ ?_
  split
  · exact .ret rfl
  · refine Prog.Alike.andThen (P := Eq) (Prog.Alike.andThen (P := List.Forall₂ s.SameRow)
      (.call (.same _) fun r r' hr => Prog.alike_ofExcept hr) fun rows rows' hrows => ?_) ?_
    · rw [readUsers_same hrows]
      exact Prog.alike_of_uses (Prog.uses_ofExcept _) fun _ => rfl
    · rintro us _ rfl
      exact .ret rfl

/-- **Related requests run alike.** -/
theorem serve_alike {q q' : HttpRequest} (h : s.SameRequest q q') :
    s.AlikeProg Eq (serve cfg q) (serve cfg q') := by
  cases h with
  | signup he he' hb hb' hlogin hone hother =>
    unfold serve dispatch
    rw [he, he']
    exact signup_alike hb hb' hlogin hone hother
  | same hq =>
    have hhandler (ctx : RequestContext) : s.AlikeProg Eq (dispatch cfg q ctx) (dispatch cfg q ctx) := by
      by_cases hlogin : q.endpoint = .login
      · unfold dispatch
        rw [hlogin]
        exact login_alike (hq hlogin)
      by_cases hsearch : q.endpoint = .usersSearch
      · unfold dispatch
        rw [hsearch]
        exact search_alike q ctx
      exact alike_self ((dispatch_calls cfg q ctx).mono fun _ ho => fixed_of_calls hlogin hsearch ho)
    exact serve_alike_of cfg (fun _ => rfl) rfl rfl rfl (hhandler _)

end Secret

/-- **Passwords stay private.** Take two runs of the service, from worlds and with events that differ
in nothing but the password of one account, and in which no login for the account offers either of the
two passwords. Then the runs give the same answers, in the same order, to all requests. -/
theorem passwords_private (cfg : Config D) (s : Secret) (w w' : World) (hw : s.SameWorld w w')
    (es es' : List ServiceEvent) (hes : List.Forall₂ (Pool.EventMatch s.SameRequest s.SameInput) es es') :
    (serviceLog cfg w es).map Answer.result = (serviceLog cfg w' es').map Answer.result := by
  have hend : Pool.Matched s.SameOp s.SameResult s.SameRequest (fun _ => Eq) s.SameWorld
      ((Pool.start w).run World.exec (serve cfg) es) ((Pool.start w').run World.exec (serve cfg) es') := by
    refine Pool.run_lockstep ?_ ?_ (Pool.start_matched hw) hes
    · exact fun _ _ _ _ _ _ hi ho hw => Secret.exec_same hi ho hw
    · exact fun _ _ hq => Secret.serve_alike hq
  have hresults := hend.log.imp fun _ _ h => h.result.eq
  rw [← List.forall₂_eq_eq_eq, List.forall₂_map_left_iff, List.forall₂_map_right_iff]
  exact hresults

/-- Ann's account with one of two passwords. -/
def annSecret : Secret := ⟨"ann", "password", "passphrase"⟩

def annOtherSignup : HttpRequest where
  endpoint := .signup
  body := .obj [("login", .str "ann"), ("password", .str "passphrase"), ("firstName", .str "Ann"),
    ("lastName", .str "Lee")]

/-- A guess at the password. -/
def annGuess : HttpRequest where
  endpoint := .login
  body := .obj [("login", .str "ann"), ("password", .str "letmein")]

/-- A signup and a guess in flight together. -/
def guessRun (signup : HttpRequest) : List ServiceEvent :=
  [.arrive signup, .arrive annGuess, .turn 0 {}, .turn 0 {}]

theorem passwords_private_ann :
    (serviceLog (clearConfig .throws) emptyWorld (guessRun annSignup)).map Answer.result =
      (serviceLog (clearConfig .throws) emptyWorld (guessRun annOtherSignup)).map Answer.result := by
  have hinput : annSecret.SameInput {} {} := ⟨rfl, fun _ _ _ _ _ _ _ _ => rfl⟩
  have hguess : annSecret.SameRequest annGuess annGuess := by
    refine .same _ fun _ body hb _ => ?_
    obtain rfl : (⟨"ann", "letmein"⟩ : LoginRequestBody) = body :=
      Except.ok.inj ((show LoginRequestBody.parse annGuess.body = .ok ⟨"ann", "letmein"⟩ by decide).symm.trans hb)
    exact ⟨by decide, by decide⟩
  have hworld : annSecret.SameWorld emptyWorld emptyWorld := ⟨⟨.nil, rfl, rfl, rfl, rfl⟩, rfl, rfl⟩
  have hsignup : annSecret.SameRequest annSignup annOtherSignup :=
    @Secret.SameRequest.signup annSecret _ _ "ann" "password" "passphrase" "Ann" "Lee" rfl rfl (by decide)
      (by decide) (by decide) ⟨by decide, by decide, by decide⟩ ⟨by decide, by decide, by decide⟩
  exact passwords_private (clearConfig .throws) annSecret emptyWorld emptyWorld hworld _ _
    (.cons (.arrive hsignup) (.cons (.arrive hguess) (.cons (.turn 0 hinput) (.cons (.turn 0 hinput) .nil))))

/-- The guess is wrong either way. -/
example : (serviceLog (clearConfig .throws) emptyWorld (guessRun annSignup)).map (fun a => statusOf a.result) =
    [.kOk, .kUnauthorized] := by decide

end Leadertask
