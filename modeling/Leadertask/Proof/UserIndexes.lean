import Leadertask.Lib.Simulation
import Leadertask.Proof.Search

/-!
# The two indexes of the users in memory

`UsersStorage` keeps every user twice, under the login and under the id. Both are views of
one list, the `UserLog`, in which the users stand in the order in which they signed up.

* `keeps_create`: `CreateUser` on the storage is the same on the list.
* `user_indexes_agree`: after every sequence of `CreateUser` calls both indexes hold the same
  users, and a user's record has not changed since.
-/

namespace Leadertask

/-- The arguments of `CreateUser`. -/
structure NewUser where
  login : String
  password : String
  firstName : String
  lastName : String
  deriving DecidableEq, Repr

def UsersStorage.create (st : UsersStorage) (u : NewUser) : Option Int64 × UsersStorage :=
  st.createUser u.login u.password u.firstName u.lastName

/-! ## The list of users -/

/-- The users in the order in which they signed up, numbered from 1 on, no two with one
login. -/
structure UserLog where
  users : List UserRecord
  numbered : Rows.Numbered Int64.ofNat UserRecord.id users
  loginKey : (users.map UserRecord.login).Nodup

namespace UserLog

def empty : UserLog := ⟨[], Rows.numbered_nil, List.nodup_nil⟩

variable (l : UserLog)

/-- The record of the next user. -/
def next (u : NewUser) : UserRecord :=
  ⟨Int64.ofNat (l.users.length + 1), u.login, u.password, u.firstName, u.lastName⟩

def add (u : NewUser) (h : u.login ∉ l.users.map UserRecord.login) : UserLog where
  users := l.users ++ [l.next u]
  numbered := l.numbered.append rfl
  loginKey := Rows.nodup_append l.loginKey h

end UserLog

/-! ## The storage is that list -/

/-- The counter and both indexes are what the list says. -/
structure UsersStorage.Keeps (st : UsersStorage) (l : UserLog) : Prop where
  next : st.nextId = Int64.ofNat (l.users.length + 1)
  byLogin : ∀ login, st.getByLogin login = l.users.find? (·.login = login)
  byId : ∀ id, st.getById id = l.users.find? (·.id = id)
  values : (UnorderedMap.values st.usersByLogin).Perm l.users

variable {st : UsersStorage} {l : UserLog}

theorem usersKeeps_empty : UsersStorage.Keeps {} .empty :=
  ⟨rfl, fun _ => rfl, fun _ => rfl, List.Perm.refl _⟩

/-- `CreateUser` of a login that is there. -/
theorem UsersStorage.create_known (st : UsersStorage) {u : NewUser} (h : (st.getByLogin u.login).isSome) :
    st.create u = (none, st) := if_pos (AList.lookup_isSome.1 h)

/-- `CreateUser` of a new login returns the counter. -/
theorem UsersStorage.create_new (st : UsersStorage) {u : NewUser} (h : ¬ (st.getByLogin u.login).isSome) :
    (st.create u).1 = some st.nextId := by
  rw [UsersStorage.create, UsersStorage.createUser, if_neg (mt AList.lookup_isSome.2 h)]

theorem UsersStorage.Keeps.getByLogin_isSome (h : st.Keeps l) (login : String) :
    (st.getByLogin login).isSome ↔ login ∈ l.users.map UserRecord.login := by
  rw [h.byLogin, List.find?_isSome, List.mem_map]
  simp only [decide_eq_true_eq]

/-- `CreateUser` of a new login: the next number, and the record in both indexes. -/
theorem keeps_create (h : st.Keeps l) (hn : l.users.length + 1 < 2 ^ 63) {u : NewUser}
    (hnew : u.login ∉ l.users.map UserRecord.login) :
    (st.create u).1 = some (l.next u).id ∧ (st.create u).2.Keeps (l.add u hnew) := by
  have hid := l.numbered.next_new hn
  have hlogin : st.usersByLogin.lookup u.login = none := by
    have hno : ¬ (st.getByLogin u.login).isSome := fun hs => hnew ((h.getByLogin_isSome _).1 hs)
    simpa [UsersStorage.getByLogin] using hno
  have hfree : st.usersById.lookup st.nextId = none := by
    have hbyId : st.usersById.lookup st.nextId = _ := h.byId st.nextId
    rw [hbyId, h.next, List.find?_eq_none]
    intro x hx he
    exact hid (List.mem_map.2 ⟨x, hx, by simpa using he⟩)
  have hrec : (⟨st.nextId, u.login, u.password, u.firstName, u.lastName⟩ : UserRecord) = l.next u := by
    rw [h.next]; rfl
  -- neither `emplace` meets an entry
  have hcreate : st.create u = (some (l.next u).id, {
      nextId := st.nextId + 1
      usersByLogin := st.usersByLogin.insert u.login (l.next u)
      usersById := st.usersById.insert (l.next u).id (l.next u) }) := by
    rw [UsersStorage.create, UsersStorage.createUser, if_neg (AList.lookup_eq_none.1 hlogin)]
    simp only [UnorderedMap.emplace_new hlogin, UnorderedMap.emplace_new hfree, hrec]
    rw [h.next]
    rfl
  rw [hcreate]
  refine ⟨rfl, ?_, fun login => ?_, fun id => ?_, ?_⟩
  · simp only [UserLog.add, h.next, List.length_append, List.length_singleton]
    exact (Int64.ofNat_add _ _).symm
  · have hadd := Rows.find_append_new (r := l.next u) hnew login
    rw [UserLog.add, hadd, ← h.byLogin]
    exact UnorderedMap.lookup_insert _ _ _ _
  · have hadd := Rows.find_append_new (r := l.next u) hid id
    rw [UserLog.add, hadd, ← h.byId]
    exact UnorderedMap.lookup_insert _ _ _ _
  · have hentries := AList.entries_insert_of_notMem (b := l.next u) (AList.lookup_eq_none.1 hlogin)
    simp only [UnorderedMap.values, hentries, List.map_cons, UserLog.add]
    exact (List.Perm.cons _ h.values).trans (List.perm_append_singleton _ _).symm

/-! ## Sequences of calls -/

/-- A run of calls adds users to the list, and their ids are what the calls return. -/
theorem keeps_run (us : List NewUser) (h : st.Keeps l)
    (hn : l.users.length + (Machine.outputs UsersStorage.create st us).countP Option.isSome < 2 ^ 63) :
    ∃ (l' : UserLog) (new : List UserRecord), (Machine.final UsersStorage.create st us).Keeps l' ∧
      l'.users = l.users ++ new ∧
      (Machine.outputs UsersStorage.create st us).filterMap id = new.map UserRecord.id := by
  induction us generalizing st l with
  | nil => exact ⟨l, [], h, (List.append_nil _).symm, rfl⟩
  | cons u us ih =>
    rw [Machine.outputs, List.countP_cons] at hn
    rw [Machine.outputs, Machine.final]
    by_cases hu : u.login ∈ l.users.map UserRecord.login
    · have hknown := st.create_known ((h.getByLogin_isSome u.login).2 hu)
      rw [hknown] at hn ⊢
      exact ih h (by simpa using hn)
    · have hsome := st.create_new (mt (h.getByLogin_isSome u.login).1 hu)
      rw [hsome, Option.isSome_some, if_pos rfl] at hn
      obtain ⟨hid, hkeep⟩ := keeps_create h (by omega) hu
      have hlen : (l.add u hu).users.length = l.users.length + 1 := List.length_append
      obtain ⟨l', new, hk, husers, hids⟩ := ih hkeep (by omega)
      refine ⟨l', l.next u :: new, hk, ?_, ?_⟩
      · rw [husers, UserLog.add, List.append_assoc, List.singleton_append]
      · rw [hid, List.filterMap_cons_some (f := id) rfl, hids, List.map_cons]

/-- As many users as ids. -/
theorem length_of_ids {answers : List (Option Int64)} {users : List UserRecord}
    (h : answers.filterMap id = users.map UserRecord.id) : users.length = answers.countP Option.isSome := by
  rw [← List.length_map UserRecord.id, ← h, List.length_filterMap_eq_countP]
  rfl

/-- What the calls return, from the empty storage on. -/
def UsersStorage.answers (us : List NewUser) : List (Option Int64) := Machine.outputs UsersStorage.create {} us

/-- The storage after the calls. -/
def UsersStorage.after (us : List NewUser) : UsersStorage := Machine.final UsersStorage.create {} us

/-- The storage after the calls is a list of the users that they created. -/
theorem usersKeeps_after {us : List NewUser}
    (h : (UsersStorage.answers us).countP Option.isSome < 2 ^ 63) :
    ∃ l : UserLog, (UsersStorage.after us).Keeps l ∧
      (UsersStorage.answers us).filterMap id = l.users.map UserRecord.id ∧
      l.users.length = (UsersStorage.answers us).countP Option.isSome := by
  obtain ⟨l, new, hk, husers, hids⟩ := keeps_run us usersKeeps_empty
    (by rw [UserLog.empty, List.length_nil, Nat.zero_add]; exact h)
  have hnew : l.users = new := husers
  rw [← hnew] at hids
  exact ⟨l, hk, hids, length_of_ids hids⟩

/-- The user meets the filters that are given. -/
def UserRecord.Meets (login firstMask lastMask : Option String) (u : UserRecord) : Prop :=
  (∀ l ∈ login, u.login = l) ∧ (∀ m ∈ firstMask, m.toList <:+: u.firstName.toList) ∧
    ∀ m ∈ lastMask, m.toList <:+: u.lastName.toList

/-- Both indexes hold the same users, no two with one login or one id, namely those whose ids
the calls returned; and the search finds each of them that meets the filters once. -/
structure UsersStorage.Agrees (st : UsersStorage) (answers : List (Option Int64)) : Prop where
  byLogin : ∀ login u, st.getByLogin login = some u ↔ st.getById u.id = some u ∧ u.login = login
  key : ∀ id u, st.getById id = some u → u.id = id
  unique : ∀ u v, st.getById u.id = some u → st.getById v.id = some v →
    u.login = v.login ∨ u.id = v.id → u = v
  userExists : ∀ id, st.userExists id = true ↔ some id ∈ answers
  known : ∀ u : NewUser, (st.getByLogin u.login).isSome → st.create u = (none, st)
  search : ∀ login firstMask lastMask, (st.search login firstMask lastMask).Nodup ∧
    ∀ u, u ∈ st.search login firstMask lastMask ↔
      st.getById u.id = some u ∧ u.Meets login firstMask lastMask

theorem ok_iff {login firstMask lastMask : Option String} {u : UserRecord} :
    UsersStorage.ok login firstMask lastMask u = true ↔ u.Meets login firstMask lastMask := by
  unfold UsersStorage.ok UserRecord.Meets
  rw [Bool.and_eq_true, Bool.and_eq_true, masked_eq, masked_eq, and_assoc]
  cases login <;> simp

theorem usersAgree_of_keeps (h : st.Keeps l) (hn : l.users.length < 2 ^ 63)
    {answers : List (Option Int64)} (hids : answers.filterMap id = l.users.map UserRecord.id) :
    st.Agrees answers := by
  have hidKey := l.numbered.nodup hn
  have hfound : ∀ id u, st.getById id = some u ↔ u ∈ l.users ∧ u.id = id := fun id u => by
    rw [h.byId]; exact Rows.find_eq_some_iff hidKey
  have hstored : ∀ u, st.getById u.id = some u ↔ u ∈ l.users := fun u => by
    rw [hfound, and_iff_left rfl]
  constructor
  case byLogin =>
    intro login u
    rw [hstored, h.byLogin]
    exact Rows.find_eq_some_iff l.loginKey
  case key =>
    intro id u hu
    exact ((hfound id u).1 hu).2
  case unique =>
    intro u v hu hv hkey
    rcases hkey with hlogin | hid
    · exact Rows.eq_of_key l.loginKey ((hstored u).1 hu) ((hstored v).1 hv) hlogin
    · exact Rows.eq_of_key hidKey ((hstored u).1 hu) ((hstored v).1 hv) hid
  case userExists =>
    intro id
    have hmem : some id ∈ answers ↔ id ∈ l.users.map UserRecord.id := by
      rw [← hids, List.mem_filterMap]
      simp
    have hexists : st.userExists id = (st.getById id).isSome := rfl
    rw [hmem, hexists, h.byId, List.find?_isSome, List.mem_map]
    simp only [decide_eq_true_eq]
  case known =>
    intro u hu
    exact st.create_known hu
  case search =>
    intro login firstMask lastMask
    have hperm := h.values.filter (UsersStorage.ok login firstMask lastMask)
    refine ⟨?_, fun u => ?_⟩
    · exact hperm.nodup_iff.2 (hidKey.of_map.sublist List.filter_sublist)
    · rw [UsersStorage.search, hperm.mem_iff, List.mem_filter, hstored, ok_iff]

/-- **The indexes agree** after every sequence of calls, fewer than `2 ^ 63` of which created a
user, and a record that some earlier call left there is there still. -/
theorem user_indexes_agree {us : List NewUser}
    (h : (UsersStorage.answers us).countP Option.isSome < 2 ^ 63) :
    (UsersStorage.after us).Agrees (UsersStorage.answers us) ∧
      ∀ before, before <+: us → ∀ u, (UsersStorage.after before).getById u.id = some u →
        (UsersStorage.after us).getById u.id = some u ∧
          (UsersStorage.after us).getByLogin u.login = some u := by
  obtain ⟨l, hk, hids, hlen⟩ := usersKeeps_after h
  refine ⟨usersAgree_of_keeps hk (by omega) hids, ?_⟩
  rintro before ⟨rest, rfl⟩ u hu
  rw [UsersStorage.answers, Machine.outputs_append, List.countP_append] at h
  have hbefore : (UsersStorage.answers before).countP Option.isSome < 2 ^ 63 := by
    rw [UsersStorage.answers]; omega
  obtain ⟨l₀, hk₀, -, hlen₀⟩ := usersKeeps_after hbefore
  obtain ⟨l₁, new, hk₁, husers, hids₁⟩ := keeps_run rest hk₀ (by rw [hlen₀]; exact h)
  -- the list only grows at its end
  have hrun : UsersStorage.after (before ++ rest) =
      Machine.final UsersStorage.create (UsersStorage.after before) rest := Machine.final_append _ _ _
  rw [hk₀.byId] at hu
  have hmem : u ∈ l₁.users := husers ▸ List.mem_append_left _ (List.mem_of_find?_eq_some hu)
  have hlen₁ : l₁.users.length < 2 ^ 63 := by
    rw [husers, List.length_append, hlen₀, length_of_ids hids₁]
    exact h
  rw [hrun, hk₁.byId, hk₁.byLogin]
  exact ⟨Rows.find_of_mem (l₁.numbered.nodup hlen₁) hmem, Rows.find_of_mem l₁.loginKey hmem⟩

/-- Two users, and a third call with a login that is taken. -/
def someUsers : List NewUser :=
  [⟨"ann", "password", "Ann", "Lee"⟩, ⟨"bob", "password", "Bob", "Lee"⟩, ⟨"ann", "secret", "Anna", "Day"⟩]

theorem someUsers_agree :
    (UsersStorage.after someUsers).Agrees (UsersStorage.answers someUsers) ∧
      ∀ before, before <+: someUsers → ∀ u, (UsersStorage.after before).getById u.id = some u →
        (UsersStorage.after someUsers).getById u.id = some u ∧
          (UsersStorage.after someUsers).getByLogin u.login = some u :=
  user_indexes_agree (by decide)

end Leadertask
