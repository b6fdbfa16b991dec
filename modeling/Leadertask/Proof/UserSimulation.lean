import Mathlib.Algebra.Order.Ring.Nat
import Leadertask.Lib.Renaming
import Leadertask.Proof.TaskSimulation
import Leadertask.Proof.UserIndexes

/-!
# The user table against the storage in memory

`UsersRepository` keeps the users in one table, `UsersStorage` kept each one twice. The storage
numbers its users without gaps; the table's sequence also loses the numbers of signups that failed.
So the two give out different ids, and a client can compare them only by the order in which it got
them.

* `UserMirror`: the table and the storage show the same users, each with ids of its own.
* `users_simulated`: every sequence of operations is answered alike, ids apart.
-/

namespace Leadertask

open Atomic

variable {D : Type} {cfg : Config D} {i : Input} {w : World}

/-! ## Operations and their answers -/

def UserRow.toNew (r : UserRow) : NewUser := ⟨r.login, r.password, r.firstName, r.lastName⟩

def UserRecord.toNew (u : UserRecord) : NewUser := ⟨u.login, u.password, u.firstName, u.lastName⟩

/-- What a user shows to others. -/
abbrev PublicUser := String × String × String

def NewUser.toPublic (u : NewUser) : PublicUser := (u.login, u.firstName, u.lastName)

/-- The operations that both classes have. A client knows an account by the number of the id that it
was given for it. -/
inductive UserOp where
  | createUser (u : NewUser)
  | getByLogin (login : String)
  | getById (n : ℕ)
  | userExists (n : ℕ)
  | search (login firstMask lastMask : Option String)

/-- What an operation returns, ids as their numbers. -/
inductive UserAnswer where
  | created (n : Option ℕ)
  | account (u : Option (ℕ × NewUser))
  | user (u : Option (ℕ × PublicUser))
  | existing (b : Bool)
  | users (us : List (ℕ × PublicUser))

/-- The id with number `n` among those given out; no user has the id 0. -/
def givenId (ids : List Int64) (n : ℕ) : Int64 := Rows.nth ids 0 n

def User.numbered (ids : List Int64) (u : User) : ℕ × PublicUser :=
  (ids.idxOf u.id.toInt64, (u.login, u.firstName, u.lastName))

/-- An operation of the repository, and the ids given out afterwards. -/
def UserOp.onRepository (cfg : Config D) (ids : List Int64) : UserOp → Handler (UserAnswer × List Int64)
  | .createUser u => do
    match ← UsersRepository.createUser u.login u.password u.firstName u.lastName with
    | none => return (.created none, ids)
    | some r => return (.created (some ids.length), ids ++ [r.userId])
  | .getByLogin login => do
    let user ← UsersRepository.getByLoginWithPassword login
    return (.account (user.map fun r => (ids.idxOf r.id, r.toNew)), ids)
  | .getById n => do
    let user ← UsersRepository.getById cfg (givenId ids n)
    return (.user (user.map (User.numbered ids)), ids)
  | .userExists n => do
    let known ← UsersRepository.userExists (givenId ids n)
    return (.existing known, ids)
  | .search login firstMask lastMask => do
    let users ← UsersRepository.search cfg login firstMask lastMask
    return (.users (users.map (User.numbered ids)), ids)

/-- A record with its number instead of its id. -/
def UserRecord.numbered (ids : List Int64) (u : UserRecord) : ℕ × NewUser := (ids.idxOf u.id, u.toNew)

def hidePassword (u : ℕ × NewUser) : ℕ × PublicUser := (u.1, u.2.toPublic)

/-- The same operation of the storage. -/
def UserOp.onStorage (t : List Int64 × UsersStorage) : UserOp → UserAnswer × (List Int64 × UsersStorage)
  | .createUser u =>
    match t.2.create u with
    | (none, st) => (.created none, (t.1, st))
    | (some id, st) => (.created (some t.1.length), (t.1 ++ [id], st))
  | .getByLogin login => (.account ((t.2.getByLogin login).map (UserRecord.numbered t.1)), t)
  | .getById n =>
    (.user (((t.2.getById (givenId t.1 n)).map (UserRecord.numbered t.1)).map hidePassword), t)
  | .userExists n => (.existing (t.2.userExists (givenId t.1 n)), t)
  | .search login firstMask lastMask =>
    (.users (((t.2.search login firstMask lastMask).map (UserRecord.numbered t.1)).map hidePassword), t)

/-- An operation of the repository with what the environment adds. -/
def usersStep (cfg : Config D) (s : List Int64 × World) (x : UserOp × Input) :
    Except Exn UserAnswer × (List Int64 × World) :=
  match (x.1.onRepository cfg s.1).run (World.exec x.2) s.2 with
  | (.ok (a, ids), w) => (.ok a, (ids, w))
  | (.error e, w) => (.error e, (s.1, w))

/-- Equal, but for the order of a list. -/
inductive UserAnswer.Alike : UserAnswer → UserAnswer → Prop
  | same (a : UserAnswer) : Alike a a
  | users {us us' : List (ℕ × PublicUser)} (h : us.Perm us') : Alike (.users us) (.users us')

/-- The repository throws nothing and answers as the storage does. -/
def SameUserAnswer (r : Except Exn UserAnswer) (a : UserAnswer) : Prop := ∃ a', r = .ok a' ∧ a'.Alike a

def NewUser.Fits (u : NewUser) : Prop :=
  FitsColumn u.login ∧ FitsColumn u.password ∧ FitsColumn u.firstName ∧ FitsColumn u.lastName

/-- A user that fits the table's columns, texts that Postgres takes, and masks that mean in SQL what
they say. -/
def UserOp.Accepted : UserOp → Prop
  | .createUser u => u.Fits
  | .getByLogin login => IsText login
  | .search login firstMask lastMask =>
    SearchTexts login firstMask lastMask ∧ PlainMask firstMask ∧ PlainMask lastMask
  | _ => True

/-! ## The relation -/

/-- The table and the storage show the users of `l`, and both clients hold all ids given out. -/
structure UserMirror (l : UserLog) (s : List Int64 × World) (t : List Int64 × UsersStorage) : Prop where
  keeps : t.2.Keeps l
  given : s.1 = s.2.pg.users.rows.map UserRow.id
  given' : t.1 = l.users.map UserRecord.id
  renamed : Rows.Renamed UserRow.id UserRecord.id UserRow.toNew UserRecord.toNew s.2.pg.users.rows l.users
  ids : ∀ r ∈ s.2.pg.users.rows, ∃ k, 1 ≤ k ∧ k ≤ s.2.pg.usersSeq ∧ r.id = Int64.ofNat k
  seq : l.users.length ≤ s.2.pg.usersSeq

namespace UserMirror

variable {l : UserLog} {s : List Int64 × World} {t : List Int64 × UsersStorage}

theorem fits (h : UserMirror l s t) (hseq : s.2.pg.usersSeq < 2 ^ 31) {r : UserRow}
    (hr : r ∈ s.2.pg.users.rows) : FitsInt r.id := by
  obtain ⟨k, -, hk, hid⟩ := h.ids r hr
  rw [hid]; exact fitsInt_ofNat (by omega)

/-- Nobody has the id 0. -/
theorem ofNat_ne_zero {k : ℕ} (h1 : 1 ≤ k) (h2 : k < 2 ^ 31) : Int64.ofNat k ≠ 0 := by
  intro h
  have := congrArg Int64.toInt h
  rw [toInt_ofNat h2] at this
  have h0 : (0 : Int64).toInt = 0 := by decide
  omega

theorem zero_new (h : UserMirror l s t) (hseq : s.2.pg.usersSeq < 2 ^ 31) :
    (0 : Int64) ∉ s.2.pg.users.rows.map UserRow.id ∧ (0 : Int64) ∉ l.users.map UserRecord.id := by
  constructor
  · intro hmem
    obtain ⟨r, hr, h0⟩ := List.mem_map.1 hmem
    obtain ⟨k, h1, hk, hid⟩ := h.ids r hr
    exact ofNat_ne_zero h1 (by omega) (hid.symm.trans h0)
  · exact l.numbered.zero_new (by have := h.seq; omega)

/-- The table's next id is new. -/
theorem next_new (h : UserMirror l s t) {k : ℕ} (hk : s.2.pg.usersSeq < k) (hlt : k < 2 ^ 31) :
    Int64.ofNat k ∉ s.2.pg.users.rows.map UserRow.id := by
  intro hmem
  obtain ⟨r, hr, hid⟩ := List.mem_map.1 hmem
  obtain ⟨k', -, hk', hid'⟩ := h.ids r hr
  have := congrArg Int64.toInt (hid.symm.trans hid')
  rw [toInt_ofNat hlt, toInt_ofNat (by omega)] at this
  omega

theorem logins (h : UserMirror l s t) :
    s.2.pg.users.rows.map UserRow.login = l.users.map UserRecord.login := by
  have hsame := congrArg (List.map NewUser.login) h.renamed.same
  rwa [List.map_map, List.map_map] at hsame

end UserMirror

/-! ## One operation -/

/-- The insert of a user who fits, on a sequence with room. -/
theorem Postgres.insertUser_fits {pg : Postgres} {u : NewUser} (hu : u.Fits) {k : ℕ}
    (hk : nextval pg.usersSeq i.skip = .ok k) :
    pg.insertUser i u.login u.password u.firstName u.lastName =
      (pg.users.insert (Int64.ofNat k) ⟨u.login, hu.1⟩ ⟨u.password, hu.2.1⟩ ⟨u.firstName, hu.2.2.1⟩
        ⟨u.lastName, hu.2.2.2⟩).map fun users => (Int64.ofNat k, { pg with users := users, usersSeq := k }) := by
  obtain ⟨h1, h2, h3, h4⟩ := hu
  rw [Postgres.insertUser, hk, varchar255_fits h1, varchar255_fits h2, varchar255_fits h3, varchar255_fits h4]
  simp only [bind, Except.bind]
  cases pg.users.insert (Int64.ofNat k) ⟨u.login, h1⟩ ⟨u.password, h2⟩ ⟨u.firstName, h3⟩ ⟨u.lastName, h4⟩ <;> rfl

/-- A signup in the repository, when the store works. -/
theorem UsersRepository.createUser_eq (hf : ∀ o, i.fault o = false) (u : NewUser) :
    (UsersRepository.createUser u.login u.password u.firstName u.lastName).run (World.exec i) w =
      match w.pg.insertUser i u.login u.password u.firstName u.lastName with
      | .ok p => (.ok (some ⟨p.1⟩), { w with pg := p.2 })
      | .error .uniqueViolation => (.ok none, w)
      | .error e => (.error e, w) := by
  simp only [UsersRepository.createUser, execute, Prog.bind_eq, Prog.tryCatch_eq, Prog.run_catching,
    Prog.run_andThen, Prog.run_perform, World.exec, hf, Bool.false_eq_true, if_false, Postgres.exec]
  cases w.pg.insertUser i u.login u.password u.firstName u.lastName with
  | ok p => rfl
  | error e => cases e <;> rfl

theorem UserRow.toUser_numbered {r : UserRow} (h : FitsInt r.id) (ids : List Int64) :
    r.toUser.numbered ids = hidePassword (ids.idxOf r.id, r.toNew) := by
  have hr : r.id.toInt32.toInt64 = r.id := h
  rw [User.numbered, UserRow.toUser, hr]; rfl

theorem usersStep_ok {s : List Int64 × World} {x : UserOp × Input} {a : UserAnswer} {ids : List Int64} {w' : World}
    (h : (x.1.onRepository cfg s.1).run (World.exec x.2) s.2 = (.ok (a, ids), w')) :
    usersStep cfg s x = (.ok a, (ids, w')) := by
  rw [usersStep, h]

/-- An operation that only reads. -/
theorem usersStep_read {s : List Int64 × World} {x : UserOp × Input} {a a' : UserAnswer}
    (h : (x.1.onRepository cfg s.1).run (World.exec x.2) s.2 = (.ok (a, s.1), s.2)) (ha : a = a') :
    usersStep cfg s x = (.ok a', s) := by
  rw [usersStep_ok h, ha]

section

variable {l : UserLog} {s : List Int64 × World} {t : List Int64 × UsersStorage} (cfg)
variable (hf : ∀ o, i.fault o = false) (h : UserMirror l s t)
include hf h

theorem userMirror_createUser {u : NewUser} (hu : u.Fits) (hseq : s.2.pg.usersSeq + (i.skip + 1) < 2 ^ 31) :
    SameUserAnswer (usersStep cfg s (.createUser u, i)).1 ((UserOp.createUser u).onStorage t).1 ∧
      (∃ l', UserMirror l' (usersStep cfg s (.createUser u, i)).2 ((UserOp.createUser u).onStorage t).2) ∧
      (usersStep cfg s (.createUser u, i)).2.2.pg.usersSeq ≤ s.2.pg.usersSeq + (i.skip + 1) := by
  set k := s.2.pg.usersSeq + 1 + i.skip with hkdef
  have hk : nextval s.2.pg.usersSeq i.skip = .ok k := if_pos (by omega)
  have hins := Postgres.insertUser_fits hu hk
  have hrun := UsersRepository.createUser_eq (w := s.2) hf u
  rw [hins, UsersTable.insert] at hrun
  by_cases hlogin : u.login ∈ l.users.map UserRecord.login
  · -- both know the login
    rw [dif_neg fun hnew => hnew.2 (h.logins ▸ hlogin)] at hrun
    have hstep : usersStep cfg s (.createUser u, i) = (.ok (.created none), s) := usersStep_ok (by
      simp only [UserOp.onRepository, Prog.bind_eq, Prog.run_andThen, hrun, Except.map]; rfl)
    have hstorage : (UserOp.createUser u).onStorage t = (.created none, t) := by
      rw [UserOp.onStorage, t.2.create_known ((h.keeps.getByLogin_isSome _).2 hlogin)]
    rw [hstep, hstorage]
    exact ⟨⟨_, rfl, .same _⟩, ⟨l, h⟩, Nat.le_add_right _ _⟩
  · -- both add the user, each under an id of its own
    have hid := h.next_new (k := k) (by omega) (by omega)
    have hnew : Int64.ofNat k ∉ s.2.pg.users.rows.map UserRow.id ∧
        u.login ∉ s.2.pg.users.rows.map UserRow.login := ⟨hid, h.logins ▸ hlogin⟩
    rw [dif_pos hnew] at hrun
    obtain ⟨hcreated, hkeeps⟩ := keeps_create h.keeps (by have := h.seq; omega) hlogin
    have hlen : s.1.length = t.1.length := by
      rw [h.given, h.given', List.length_map, List.length_map, h.renamed.length]
    have hstep := @usersStep_ok D cfg s (.createUser u, i) (.created (some s.1.length))
      (s.1 ++ [Int64.ofNat k]) _ (by
        simp only [UserOp.onRepository, Prog.bind_eq, Prog.run_andThen, hrun, Except.map]; rfl)
    have hstorage : (UserOp.createUser u).onStorage t =
        (.created (some t.1.length), (t.1 ++ [(l.next u).id], (t.2.create u).2)) := by
      simp only [UserOp.onStorage]
      rw [show t.2.create u = (some (l.next u).id, (t.2.create u).2) from Prod.ext hcreated rfl]
    rw [hstep, hstorage, hlen]
    refine ⟨⟨_, rfl, .same _⟩, ⟨l.add u hlogin, hkeeps, ?_, ?_, ?_, ?_, ?_⟩, ?_⟩
    · rw [List.map_append, ← h.given]; rfl
    · rw [UserLog.add, List.map_append, ← h.given']; rfl
    · exact h.renamed.append hid (l.numbered.next_new (by have := h.seq; omega)) rfl
    · intro r hr
      rcases List.mem_append.1 hr with hr | hr
      · obtain ⟨k', h1, h2, hid'⟩ := h.ids r hr
        exact ⟨k', h1, Nat.le_trans h2 (show _ ≤ k by omega), hid'⟩
      · obtain rfl := List.mem_singleton.1 hr
        exact ⟨k, by omega, Nat.le_refl k, rfl⟩
    · have hadd : (l.add u hlogin).users.length = l.users.length + 1 := List.length_append
      have := h.seq
      show (l.add u hlogin).users.length ≤ k
      omega
    · show k ≤ _
      omega

theorem userMirror_getByLogin {login : String} (ht : IsText login) :
    usersStep cfg s (.getByLogin login, i) = (.ok ((UserOp.getByLogin login).onStorage t).1, s) := by
  have hrun : ((UserOp.getByLogin login).onRepository cfg s.1).run (World.exec i) s.2 =
      (.ok (.account (((s.2.pg.users.rows.filter (·.login = login)).head?).map fun r =>
        (s.1.idxOf r.id, r.toNew)), s.1), s.2) := by
    simp only [UserOp.onRepository, UsersRepository.getByLoginWithPassword, execute, Prog.bind_eq,
      Prog.run_andThen, Prog.run_perform, World.exec, hf, Bool.false_eq_true, if_false, Postgres.exec,
      Postgres.selectUserByLogin_of _ ht]
    rfl
  have hfind := h.renamed.find fun v => decide (v.login = login)
  refine usersStep_read (x := (.getByLogin login, i)) hrun ?_
  rw [List.head?_filter, h.given, UserOp.onStorage, h.keeps.byLogin, h.given']
  exact congrArg UserAnswer.account hfind

theorem userMirror_getById (hseq : s.2.pg.usersSeq < 2 ^ 31) (n : ℕ) :
    usersStep cfg s (.getById n, i) = (.ok ((UserOp.getById n).onStorage t).1, s) := by
  obtain ⟨h0, h0'⟩ := h.zero_new hseq
  have hrun : ((UserOp.getById n).onRepository cfg s.1).run (World.exec i) s.2 =
      (.ok (.user (((s.2.pg.users.rows.find? (·.id = givenId s.1 n)).map fun r =>
        (s.1.idxOf r.id, r.toNew)).map hidePassword), s.1), s.2) := by
    simp only [UserOp.onRepository, UsersRepository.getById, execute, Prog.bind_eq,
      Prog.run_andThen, Prog.run_perform, World.exec, hf, Bool.false_eq_true, if_false, Postgres.exec]
    rcases Rows.find_cases s.2.pg.users.idKey (givenId s.1 n) with ⟨h1, hno⟩ | ⟨r, hr, -, h1, h2⟩
    · have h2 : s.2.pg.users.rows.filter (·.id = givenId s.1 n) = [] :=
        List.filter_eq_nil_iff.2 fun r hr => by simpa using hno r hr
      rw [h1, h2]; rfl
    · have hfits := h.fits hseq hr
      rw [h1, h2]
      simp [asSingleRow, UsersRepository.readUser_fits hfits, UserRow.toUser_numbered hfits, bind, Except.bind]
  have hfind := congrArg (Option.map hidePassword) (h.renamed.find_nth h0 h0' n)
  refine usersStep_read (x := (.getById n, i)) hrun ?_
  rw [h.given, UserOp.onStorage, h.keeps.byId, h.given']
  exact congrArg UserAnswer.user hfind

theorem userMirror_userExists (hseq : s.2.pg.usersSeq < 2 ^ 31) (n : ℕ) :
    usersStep cfg s (.userExists n, i) = (.ok ((UserOp.userExists n).onStorage t).1, s) := by
  obtain ⟨h0, h0'⟩ := h.zero_new hseq
  have hany : s.2.pg.users.rows.any (·.id = givenId s.1 n) =
      (s.2.pg.users.rows.find? (·.id = givenId s.1 n)).isSome := by
    rw [Bool.eq_iff_iff, List.any_eq_true, List.find?_isSome]
  have hrun : ((UserOp.userExists n).onRepository cfg s.1).run (World.exec i) s.2 =
      (.ok (.existing (s.2.pg.users.rows.find? (·.id = givenId s.1 n)).isSome, s.1), s.2) := by
    rw [← hany]
    simp only [UserOp.onRepository, UsersRepository.userExists, execute, Prog.bind_eq,
      Prog.run_andThen, Prog.run_perform, World.exec, hf, Bool.false_eq_true, if_false, Postgres.exec]
    rfl
  have hfind := congrArg Option.isSome (h.renamed.find_nth h0 h0' n)
  rw [Option.isSome_map, Option.isSome_map] at hfind
  have hstorage : t.2.userExists (givenId t.1 n) = (t.2.getById (givenId t.1 n)).isSome := rfl
  refine usersStep_read (x := (.userExists n, i)) hrun ?_
  rw [h.given, UserOp.onStorage, hstorage, h.keeps.byId, h.given']
  exact congrArg UserAnswer.existing hfind

theorem userMirror_search (hseq : s.2.pg.usersSeq < 2 ^ 31) {login firstMask lastMask : Option String}
    (htexts : SearchTexts login firstMask lastMask) (hfirst : PlainMask firstMask) (hlast : PlainMask lastMask) :
    ∃ us us', usersStep cfg s (.search login firstMask lastMask, i) = (.ok (.users us), s) ∧
      ((UserOp.search login firstMask lastMask).onStorage t).1 = .users us' ∧ us.Perm us' := by
  set found := s.2.pg.foundUsers login firstMask lastMask with hfound
  have hread : found.mapM (UsersRepository.readUser cfg) = .ok (found.map UserRow.toUser) :=
    mapM_ok fun r hr => UsersRepository.readUser_fits (h.fits hseq (Postgres.mem_foundUsers.1 hr).1)
  have hrun : ((UserOp.search login firstMask lastMask).onRepository cfg s.1).run (World.exec i) s.2 =
      (.ok (.users ((found.map UserRow.toUser).map (User.numbered s.1)), s.1), s.2) := by
    have hsearch : s.2.pg.searchUsers login firstMask lastMask >>= List.mapM (UsersRepository.readUser cfg) =
        .ok (found.map UserRow.toUser) := by
      rw [Postgres.searchUsers_of _ htexts, ← hread]; rfl
    simp only [UserOp.onRepository, Prog.bind_eq, Prog.run_andThen, UsersRepository.search_eq, hf,
      Bool.false_eq_true, if_false, hsearch]
    rfl
  refine ⟨_, _, usersStep_read (x := (.search login firstMask lastMask, i)) hrun rfl, rfl, ?_⟩
  -- what both conditions look at is what the users show
  let p (u : NewUser) : Bool :=
    UsersStorage.ok login firstMask lastMask ⟨0, u.login, u.password, u.firstName, u.lastName⟩
  have hrows : (found.map UserRow.toUser).map (User.numbered s.1) =
      (found.map (Rows.numbered UserRow.id UserRow.toNew s.2.pg.users.rows)).map hidePassword := by
    rw [List.map_map, List.map_map]
    refine List.map_congr_left fun r hr => ?_
    rw [Function.comp_apply, UserRow.toUser_numbered (h.fits hseq (Postgres.mem_foundUsers.1 hr).1), h.given]
    rfl
  have hfilter : s.2.pg.users.rows.filter (UserRow.found login firstMask lastMask) =
      s.2.pg.users.rows.filter fun r => p r.toNew :=
    List.filter_congr fun r _ => found_eq_ok hfirst hlast r
  have hperm : found.Perm (s.2.pg.users.rows.filter fun r => p r.toNew) := by
    rw [hfound, Postgres.foundUsers, hfilter]
    exact List.mergeSort_perm _ _
  have hstorage : (l.users.filter fun u => p u.toNew).Perm (t.2.search login firstMask lastMask) :=
    (h.keeps.values.filter _).symm
  have hsame := h.renamed.filter p
  rw [hrows, h.given']
  refine ((hperm.map _).trans ?_).map hidePassword
  rw [hsame]
  exact hstorage.map _

/-- **One operation** is answered alike on both sides, and keeps the relation. -/
theorem userMirror_step (op : UserOp) (hacc : op.Accepted) (hseq : s.2.pg.usersSeq + (i.skip + 1) < 2 ^ 31) :
    SameUserAnswer (usersStep cfg s (op, i)).1 (op.onStorage t).1 ∧
      (∃ l', UserMirror l' (usersStep cfg s (op, i)).2 (op.onStorage t).2) ∧
      (usersStep cfg s (op, i)).2.2.pg.usersSeq ≤ s.2.pg.usersSeq + (i.skip + 1) := by
  have hroom : s.2.pg.usersSeq < 2 ^ 31 := by omega
  cases op with
  | createUser u => exact userMirror_createUser cfg hf h hacc hseq
  | getByLogin login =>
    rw [userMirror_getByLogin cfg hf h hacc]
    exact ⟨⟨_, rfl, .same _⟩, ⟨l, h⟩, Nat.le_add_right _ _⟩
  | getById n =>
    rw [userMirror_getById cfg hf h hroom]
    exact ⟨⟨_, rfl, .same _⟩, ⟨l, h⟩, Nat.le_add_right _ _⟩
  | userExists n =>
    rw [userMirror_userExists cfg hf h hroom]
    exact ⟨⟨_, rfl, .same _⟩, ⟨l, h⟩, Nat.le_add_right _ _⟩
  | search login firstMask lastMask =>
    obtain ⟨htexts, hfirst, hlast⟩ := hacc
    obtain ⟨us, us', hrun, hstorage, hperm⟩ := userMirror_search cfg hf h hroom htexts hfirst hlast
    rw [hrun, hstorage]
    exact ⟨⟨_, rfl, .users hperm⟩, ⟨l, h⟩, Nat.le_add_right _ _⟩

end

/-! ## Sequences of operations -/

theorem userMirror_empty {w : World} (hrows : w.pg.users.rows = []) : UserMirror .empty ([], w) ([], {}) := by
  refine ⟨usersKeeps_empty, ?_, rfl, ⟨?_, ?_, ?_⟩, ?_, Nat.zero_le _⟩
  · rw [hrows]; rfl
  · rw [hrows]; exact List.nodup_nil
  · exact List.nodup_nil
  · rw [hrows]; rfl
  · rw [hrows]; exact fun r hr => absurd hr List.not_mem_nil

/-- **The user table simulates the storage in memory.** From no users on, every sequence of signups,
lookups and searches that the table takes, one at a time on one host, is answered alike step by step,
as a client sees it who compares ids only with those that he was given: whatever numbers the sequence
loses in between, as long as its ids fit an `int`. -/
theorem users_simulated (cfg : Config D) {w : World} {ops : List (UserOp × Input)}
    (hrows : w.pg.users.rows = []) (hinput : ∀ x ∈ ops, ∀ o, x.2.fault o = false)
    (haccepted : ∀ x ∈ ops, x.1.Accepted)
    (hseq : w.pg.usersSeq + (ops.map fun x => x.2.skip + 1).sum < 2 ^ 31) :
    List.Forall₂ SameUserAnswer (Machine.outputs (usersStep cfg) ([], w) ops)
      (Machine.outputs (fun t op => UserOp.onStorage t op) ([], {}) (ops.map Prod.fst)) := by
  -- the sequence has room for what is still to come
  let R (rest : List (UserOp × Input)) (s : List Int64 × World) (t : List Int64 × UsersStorage) : Prop :=
    (∃ l, UserMirror l s t) ∧ s.2.pg.usersSeq + (rest.map fun x => x.2.skip + 1).sum < 2 ^ 31 ∧ rest <:+ ops
  refine Machine.outputs_simulated (R := R) Prod.fst ?_ ops
    ⟨⟨.empty, userMirror_empty hrows⟩, hseq, List.suffix_rfl⟩
  rintro ⟨op, i⟩ rest s t ⟨⟨l, hm⟩, hroom, hrest⟩
  have hmem : (op, i) ∈ ops := hrest.subset List.mem_cons_self
  rw [List.map_cons, List.sum_cons] at hroom
  dsimp only at hroom
  have hfault : ∀ o, i.fault o = false := hinput _ hmem
  obtain ⟨hsame, hmirror, hle⟩ := userMirror_step cfg hfault hm op (haccepted _ hmem) (by omega)
  exact ⟨hsame, hmirror, by omega, (List.suffix_cons _ _).trans hrest⟩

/-- Two signups with three numbers lost between them, a third that fails, and what is asked then. -/
def someUserOps : List (UserOp × Input) :=
  [(.createUser ⟨"ann", "password", "Ann", "Lee"⟩, {}),
    (.createUser ⟨"bob", "password", "Bob", "Lee"⟩, { skip := 3 }),
    (.createUser ⟨"ann", "secret", "Anna", "Day"⟩, {}), (.getByLogin "bob", {}), (.getById 1, {}),
    (.userExists 2, {}), (.search none none (some "e"), {})]

theorem users_simulated_some :
    List.Forall₂ SameUserAnswer
      (Machine.outputs (usersStep (clearConfig .throws)) ([], emptyWorld) someUserOps)
      (Machine.outputs (fun t op => UserOp.onStorage t op) ([], {}) (someUserOps.map Prod.fst)) := by
  refine users_simulated (clearConfig .throws) rfl ?_ ?_ (by decide)
  · simp [someUserOps]
  · simp [someUserOps, UserOp.Accepted, NewUser.Fits, SearchTexts, PlainMask, Sql.Plain]
    decide

end Leadertask
