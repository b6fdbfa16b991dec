import Leadertask.Proof.Blame
import Leadertask.Proof.Search
import Leadertask.Proof.TaskIds

/-!
# Which ids survive the response types

The `BIGSERIAL` columns hold 64-bit ids; a signup returns its user's id in an `int64` field, and
every other response reports ids in `int`s.

* `keepsIds_iff`: which calls report the stored ids and do not fail for the size of one.
* `ids_survive_iff`: the same of runs, where a search reports the ids that the signups returned.
-/

namespace Leadertask

open Atomic Tasks.UpdateTaskStatus

variable {D : Type} {cfg : Config D} {i : Input} {w : World} {c : Call}

/-! ## What is read and what is reported -/

/-- The request asks for users by no filter. -/
def NoFilter (request : HttpRequest) : Prop :=
  (request.login.isEmpty && request.firstNameMask.isEmpty && request.lastNameMask.isEmpty) = true

/-- The statement of a search request. -/
def searchStmt (request : HttpRequest) : Sql :=
  .searchUsers (filterArg request.login) (filterArg request.firstNameMask) (filterArg request.lastNameMask)

/-- The search finds the row. -/
structure ReadsUser (w : World) (c : Call) (r : UserRow) : Prop where
  endpoint : c.request.endpoint = .usersSearch
  admitted : ∃ u, c.ctx.userData = some u ∧ w.admits c.input .usersSearch u = true
  filter : ¬ NoFilter c.request
  answered : c.input.fault (.execute .kSlave (searchStmt c.request)) = false
  texts : SearchTexts (filterArg c.request.login) (filterArg c.request.firstNameMask)
    (filterArg c.request.lastNameMask)
  stored : r ∈ w.pg.users.rows
  found : r.found (filterArg c.request.login) (filterArg c.request.firstNameMask)
    (filterArg c.request.lastNameMask) = true

/-- Every id that the call reads into an `int` fits it. -/
structure ReadsFit (w : World) (c : Call) : Prop where
  users : ∀ r, ReadsUser w c r → FitsInt r.id
  tasks : ∀ r, ReadsTask w c r → FitsInt r.id ∧ FitsInt r.goalId
  owner : ∀ u n doc, SeesGoal w c u n doc → doc.userId = u → FitsInt u

/-- The call's answer has the stored ids, and the call does not fail for the size of one. -/
structure KeepsIds (cfg : Config D) (w : World) (c : Call) : Prop where
  /-- No id that is read overflows. -/
  reads : (c.run cfg w).1 ≠ .error .narrowingOverflow
  /-- The owner of a goal is not told that it is not there. -/
  owner : c.request.endpoint ∈ [.tasksCreate, .tasksList] → ∀ u, c.ctx.userData = some u →
    Owns w u c.request.goalId → (c.run cfg w).1 ≠ .ok notOwner
  users : c.request.endpoint = .usersSearch → ∀ us, (c.run cfg w).1 = .ok { payload := .users us } →
    ∀ user ∈ us, ∃ r ∈ w.pg.users.rows, r.login = user.login ∧ r.id = user.id.toInt64
  created : c.request.endpoint = .tasksCreate → ∀ t,
    (c.run cfg w).1 = .ok { status := .kCreated, payload := .task t } → ∀ row,
      (c.run cfg w).2.pg.tasks.rows = w.pg.tasks.rows ++ [row] → SameIds t.id t.goalId row
  listed : c.request.endpoint = .tasksList → ∀ ts, (c.run cfg w).1 = .ok { payload := .tasks ts } →
    ∀ n pos, stoll c.request.goalId = .ok (n, pos) →
      List.Forall₂ (fun t r => SameIds t.id t.goalId r) ts (w.pg.selectTasksByGoal c.input n)
  updated : c.request.endpoint = .tasksUpdateStatus → ∀ t,
    (c.run cfg w).1 = .ok { payload := .task t } → ∀ u G T status, c.ctx.userData = some u →
      Passes c.input w c.request u G T status → ∀ r ∈ w.pg.tasks.rows, r.hit G T = true →
        SameIds t.id t.goalId r

/-! ## The search -/

theorem UsersRepository.mapM_readUser (cfg : Config D) (rows : List UserRow) :
    rows.mapM (readUser cfg) = if ∀ r ∈ rows, cfg.narrowing.Reads r.id then .ok (rows.map UserRow.toUser)
      else .error .narrowingOverflow := by
  refine mapM_ite (fun r => ?_) rows
  rw [readUser, Narrowing.readInt_eq]
  by_cases h : cfg.narrowing.Reads r.id
  · rw [if_pos h, if_pos h]; rfl
  · rw [if_neg h, if_neg h]; rfl

/-- An id survives an `int` field when it is read and comes out as it was. -/
theorem Narrowing.survives_iff {m : Narrowing} {n : Int64} :
    m.Reads n ∧ n.toInt32.toInt64 = n ↔ FitsInt n := by
  constructor
  · rintro ⟨-, h⟩
    exact h
  · intro h
    exact ⟨.inr h, h⟩

/-- What the answer to a search must be like. -/
def SearchKeeps (w : World) (ans : Except Exn HttpResponse) : Prop :=
  ans ≠ .error .narrowingOverflow ∧ ∀ us, ans = .ok { payload := .users us } →
    ∀ user ∈ us, ∃ r ∈ w.pg.users.rows, r.login = user.login ∧ r.id = user.id.toInt64

/-- The rows that are found, read into the answer. -/
theorem searchKeeps_rows (cfg : Config D) {rows : List UserRow} (hrows : ∀ r ∈ rows, r ∈ w.pg.users.rows) :
    SearchKeeps w ((rows.mapM (UsersRepository.readUser cfg)).map fun us => { payload := .users us }) ↔
      ∀ r ∈ rows, FitsInt r.id := by
  rw [UsersRepository.mapM_readUser]
  by_cases hreads : ∀ r ∈ rows, cfg.narrowing.Reads r.id
  · rw [if_pos hreads]
    constructor
    · rintro ⟨-, h⟩ r hr
      obtain ⟨r', hr', hlogin, hid⟩ := h _ rfl r.toUser (List.mem_map_of_mem hr)
      -- one row for each login
      obtain rfl : r' = r := Rows.eq_of_key w.pg.users.loginKey hr' (hrows r hr) hlogin
      exact hid.symm
    · intro h
      refine ⟨by simp [Except.map], fun us hus user huser => ?_⟩
      obtain rfl : rows.map UserRow.toUser = us := by simpa [Except.map] using hus
      obtain ⟨r, hr, rfl⟩ := List.mem_map.1 huser
      exact ⟨r, hrows r hr, rfl, (h r hr).symm⟩
  · rw [if_neg hreads]
    constructor
    · rintro ⟨h, -⟩
      exact absurd rfl h
    · intro h
      exact absurd (fun r hr => .inr (h r hr)) hreads

theorem searchKeeps_error {e : Exn} (he : e ≠ .narrowingOverflow) : SearchKeeps w (.error e) :=
  ⟨by simpa using he, fun us h => by simp at h⟩

/-- A search with a filter, past the prologues. -/
theorem search_run_filtered (cfg : Config D) (i : Input) (w : World) (request : HttpRequest) :
    ((do
      let results ← UsersRepository.search cfg (filterArg request.login)
        (filterArg request.firstNameMask) (filterArg request.lastNameMask)
      return { payload := .users results } : Handler HttpResponse).run (World.exec i) w).1 =
      if i.fault (.execute .kSlave (searchStmt request)) then .error .storeFailure
      else (w.pg.searchUsers (filterArg request.login) (filterArg request.firstNameMask)
        (filterArg request.lastNameMask) >>= List.mapM (UsersRepository.readUser cfg)).map
          fun us => { payload := .users us } := by
  have hmap := Prog.run_andThen_ret (World.exec i) (UsersRepository.search cfg (filterArg request.login)
    (filterArg request.firstNameMask) (filterArg request.lastNameMask))
    (fun us => ({ payload := .users us } : HttpResponse)) w
  refine (congrArg Prod.fst hmap).trans ?_
  rw [UsersRepository.search_eq, searchStmt]
  split <;> rfl

theorem search_keeps_iff (cfg : Config D) (he : c.request.endpoint = .usersSearch) :
    SearchKeeps w (c.run cfg w).1 ↔ ∀ r, ReadsUser w c r → FitsInt r.id := by
  rw [Call.run, dispatch, he]
  simp only [Search.handleRequestJsonThrow]
  rw [prologue_iff (P := fun p => SearchKeeps w p.1)
    ⟨by simp, by simp [makeError]⟩ fun _ _ => ⟨by simp, by simp [rateLimitExceeded]⟩]
  have hstored : ∀ r ∈ w.pg.foundUsers (filterArg c.request.login) (filterArg c.request.firstNameMask)
      (filterArg c.request.lastNameMask), r ∈ w.pg.users.rows := fun r hr =>
    (Postgres.mem_foundUsers.1 hr).1
  have hrows := searchKeeps_rows cfg hstored
  constructor
  · rintro h r ⟨-, ⟨u, hu, ha⟩, hfilter, hf, htexts, hr, hfound⟩
    have h := h u hu ha
    rw [if_neg (show ¬ (_ = true) from hfilter), search_run_filtered, hf, Postgres.searchUsers_of _ htexts] at h
    exact hrows.1 h r (Postgres.mem_foundUsers.2 ⟨hr, hfound⟩)
  · intro h u hu ha
    by_cases hfilter : NoFilter c.request
    · rw [if_pos (show _ = true from hfilter)]
      exact ⟨by simp, by simp [makeError]⟩
    rw [if_neg (show ¬ (_ = true) from hfilter), search_run_filtered]
    cases hf : c.input.fault (.execute .kSlave (searchStmt c.request)) with
    | true => exact searchKeeps_error (by simp)
    | false =>
      rcases w.pg.searchUsers_cases (filterArg c.request.login) (filterArg c.request.firstNameMask)
        (filterArg c.request.lastNameMask) with ⟨htexts, hs⟩ | ⟨-, hs⟩
      · rw [World.limited_pg, hs]
        refine hrows.2 fun r hr => ?_
        obtain ⟨hmem, hfound⟩ := Postgres.mem_foundUsers.1 hr
        exact h r ⟨he, ⟨u, hu, ha⟩, hfilter, hf, htexts, hmem, hfound⟩
      · rw [World.limited_pg, hs]
        exact searchKeeps_error (by simp)

/-! ## Every call -/

/-- **Which calls keep the ids**: those all of whose ids fit. -/
theorem keepsIds_iff (cfg : Config D) (w : World) (c : Call) : KeepsIds cfg w c ↔ ReadsFit w c := by
  constructor
  · intro h
    refine ⟨fun r hr => ?_, fun r hr => ?_, (owner_served_iff cfg).1 h.owner⟩
    · exact (search_keeps_iff cfg hr.endpoint).1 ⟨h.reads, h.users hr.endpoint⟩ r hr
    · cases he : c.request.endpoint with
      | tasksCreate => exact (create_keeps_iff cfg he).1 ⟨h.reads, h.created he⟩ r hr
      | tasksList => exact (list_keeps_iff cfg he).1 ⟨h.reads, h.listed he⟩ r hr
      | tasksUpdateStatus => exact (update_keeps_iff cfg he).1 ⟨h.reads, h.updated he⟩ r hr
      | _ => simp [ReadsTask, he] at hr
  · intro h
    have hreads : (c.run cfg w).1 ≠ .error .narrowingOverflow := by
      cases he : c.request.endpoint with
      | signup =>
        rw [Call.run, dispatch, he]
        exact catching_ne_error _ _ _
      | login =>
        rw [Call.run, dispatch, he]
        exact catching_ne_error _ _ _
      | usersSearch => exact ((search_keeps_iff cfg he).2 h.users).1
      | goalsCreate => exact goalsCreate_ne_overflow he cfg
      | goalsList => exact goalsList_ne_overflow he cfg
      | tasksCreate => exact ((create_keeps_iff cfg he).2 h.tasks).1
      | tasksList => exact ((list_keeps_iff cfg he).2 h.tasks).1
      | tasksUpdateStatus => exact ((update_keeps_iff cfg he).2 h.tasks).1
    constructor
    case reads => exact hreads
    case owner => exact (owner_served_iff cfg).2 h.owner
    case users => exact fun he => ((search_keeps_iff cfg he).2 h.users).2
    case created => exact fun he => ((create_keeps_iff cfg he).2 h.tasks).2
    case listed => exact fun he => ((list_keeps_iff cfg he).2 h.tasks).2
    case updated => exact fun he => ((update_keeps_iff cfg he).2 h.tasks).2

/-! ## From the signup to the search -/

theorem World.exec_user (i : Input) (o : Op) {r : UserRow} (hr : r ∈ w.pg.users.rows) :
    r ∈ (World.exec i o w).2.pg.users.rows := by
  cases o with
  | checkRateLimit e u => exact hr
  | newOid => exact hr
  | execute host stmt =>
    simp only [World.exec]
    split
    · exact hr
    · exact w.pg.exec_user i stmt hr
  | mongo cmd =>
    simp only [World.exec]
    split <;> exact hr

/-- No call removes or changes a user. -/
theorem Call.run_user (cfg : Config D) (c : Call) {r : UserRow} (hr : r ∈ w.pg.users.rows) :
    r ∈ (c.run cfg w).2.pg.users.rows :=
  Prog.run_of_uses (World.exec c.input)
    (fun w w' => ∀ r ∈ w.pg.users.rows, r ∈ w'.pg.users.rows) (fun _ _ h => h)
    (fun _ _ _ h h' r hr => h' r (h r hr)) (fun o _ _ _ hr => World.exec_user c.input o hr)
    (dispatch_calls cfg c.request c.ctx) w r hr

theorem serveAll_user (cfg : Config D) (calls : List Call) {r : UserRow} (hr : r ∈ w.pg.users.rows) :
    r ∈ (serveAll cfg w calls).pg.users.rows := by
  induction calls generalizing w with
  | nil => exact hr
  | cons c calls ih => exact ih (c.run_user cfg hr)

/-- A signup that answers with an id has stored its user under it. -/
theorem Signup.stored (cfg : Config D) (he : c.request.endpoint = .signup) {b : CreateUserRequestBody}
    (hb : CreateUserRequestBody.parse c.request.body = .ok b) {n : Int64}
    (hn : (c.run cfg w).1 = .ok { payload := .createdUser ⟨n⟩ }) :
    ⟨n, asColumn b.login, asColumn b.password, asColumn b.firstName, asColumn b.lastName⟩ ∈
      (c.run cfg w).2.pg.users.rows := by
  have hrun : c.run cfg w = (Signup.handleRequestJsonThrow cfg c.request).run (World.exec c.input) w := by
    rw [Call.run, dispatch, he]
  rcases Signup.run_cases (i := c.input) (w := w) cfg c.request with hno | ⟨b', id, pg', hb', hins, hans⟩
  · refine absurd ?_ hno.2
    rw [← hrun, hn]
    exact isSuccess_ok.2 (.inl rfl)
  · obtain rfl := Except.ok.inj (hb.symm.trans hb')
    rw [hrun, hans] at hn ⊢
    obtain rfl : id = n := by simpa using hn
    show _ ∈ pg'.users.rows
    rw [(Postgres.insertUser_ok hins).1]
    exact List.mem_append_right _ List.mem_cons_self

/-- The search reports for a user, under the login that the signup stored, the id that it returned. -/
def ReportsSignups (cfg : Config D) (w₀ : World) (pre : List Call) (c : Call) : Prop :=
  c.request.endpoint = .usersSearch → ∀ before s after b n, pre = before ++ s :: after →
    s.request.endpoint = .signup → CreateUserRequestBody.parse s.request.body = .ok b →
    (s.run cfg (serveAll cfg w₀ before)).1 = .ok { payload := .createdUser ⟨n⟩ } →
    ∀ us, (c.run cfg (serveAll cfg w₀ pre)).1 = .ok { payload := .users us } →
      ∀ user ∈ us, user.login = asColumn b.login → user.id.toInt64 = n

theorem serveAll_append (cfg : Config D) (w : World) (before : List Call) (s : Call) (after : List Call) :
    serveAll cfg w (before ++ s :: after) =
      serveAll cfg (s.run cfg (serveAll cfg w before)).2 after := by
  simp only [serveAll, List.foldl_append, List.foldl_cons]

theorem reportsSignups (cfg : Config D) (w₀ : World) {pre : List Call}
    (h : KeepsIds cfg (serveAll cfg w₀ pre) c) : ReportsSignups cfg w₀ pre c := by
  rintro he before s after b n rfl hs hb hn us hus user huser hlogin
  obtain ⟨r, hr, hrl, hrid⟩ := h.users he us hus user huser
  have hstored := serveAll_user cfg after (Signup.stored cfg hs hb hn)
  rw [← serveAll_append] at hstored
  -- the login has one row
  have hsame := Rows.eq_of_key (serveAll cfg w₀ (before ++ s :: after)).pg.users.loginKey hr hstored
    (hrl.trans hlogin)
  rw [← hrid, hsame]

/-- **In which runs the ids survive**: those whose calls read no id into an `int` that it does
not fit. -/
theorem ids_survive_iff (cfg : Config D) (w₀ : World) (calls : List Call) :
    (∀ pre c post, calls = pre ++ c :: post →
        KeepsIds cfg (serveAll cfg w₀ pre) c ∧ ReportsSignups cfg w₀ pre c) ↔
      ∀ pre c post, calls = pre ++ c :: post → ReadsFit (serveAll cfg w₀ pre) c := by
  constructor
  · intro h pre c post hcs
    exact (keepsIds_iff cfg _ c).1 (h pre c post hcs).1
  · intro h pre c post hcs
    have hkeeps := (keepsIds_iff cfg (serveAll cfg w₀ pre) c).2 (h pre c post hcs)
    exact ⟨hkeeps, reportsSignups cfg w₀ hkeeps⟩

/-- The sequence of the users has given its first `2 ^ 32` values. -/
def largeIdsWorld : World := { emptyWorld with pg := { emptyWorld.pg with usersSeq := 2 ^ 32 } }

def annSignsUp : Call where
  request := validSignup
  ctx := {}
  input := {}

def annIsSearched : Call where
  request := { endpoint := .usersSearch, login := "ann" }
  ctx := ⟨some 1⟩
  input := {}

/-- Ann's signup returns the id `2 ^ 32 + 1`, which the search cannot report, whether it throws
or wraps. -/
theorem largeId_lost :
    (annSignsUp.run (clearConfig .throws) largeIdsWorld).1 =
        .ok { payload := .createdUser ⟨4294967297⟩ } ∧
      (¬ ∀ pre c post, [annSignsUp, annIsSearched] = pre ++ c :: post →
        KeepsIds (clearConfig .throws) (serveAll (clearConfig .throws) largeIdsWorld pre) c ∧
          ReportsSignups (clearConfig .throws) largeIdsWorld pre c) ∧
      ¬ ∀ pre c post, [annSignsUp, annIsSearched] = pre ++ c :: post →
        KeepsIds (clearConfig .wraps) (serveAll (clearConfig .wraps) largeIdsWorld pre) c ∧
          ReportsSignups (clearConfig .wraps) largeIdsWorld pre c := by
  have hreads (m : Narrowing) : ReadsUser (serveAll (clearConfig m) largeIdsWorld [annSignsUp])
      annIsSearched ⟨4294967297, "ann", "password", "Ann", "Lee"⟩ := by
    constructor
    case endpoint => rfl
    case admitted => exact ⟨1, rfl, by cases m <;> decide⟩
    case filter => unfold NoFilter; decide
    case answered => rfl
    case texts => unfold SearchTexts; decide
    case stored => cases m <;> decide
    case found => decide
  have hunfit (m : Narrowing) : ¬ KeepsIds (clearConfig m)
      (serveAll (clearConfig m) largeIdsWorld [annSignsUp]) annIsSearched := by
    intro h
    have hfits := ((keepsIds_iff _ _ _).1 h).users _ (hreads m)
    exact absurd hfits (by decide)
  exact ⟨by decide, fun h => hunfit .throws (h [annSignsUp] annIsSearched [] rfl).1,
    fun h => hunfit .wraps (h [annSignsUp] annIsSearched [] rfl).1⟩

end Leadertask
