import Leadertask.Model.Storages
import Leadertask.Proof.Frame

/-!
# The user search in SQL and in memory

`UsersRepository::Search` matches names against `'%' || mask || '%'` with `LIKE`, where the
storage in memory looked for the mask as it is; and it answers with `int` ids. Postgres takes
no U+0000, and no column holds more than 255 characters.

* `search_agrees_iff`: both find the same users exactly when Postgres takes the arguments, and
  the masks have no special character and the users' ids fit an `int`, or no table has a user
  to find.
-/

namespace Leadertask

open Atomic

variable {D : Type} {cfg : Config D} {i : Input} {w : World}

/-! ## What is compared -/

/-- The row as the storage keeps it. -/
def UserRow.toRecord (r : UserRow) : UserRecord :=
  ⟨r.id, r.login, r.password, r.firstName, r.lastName⟩

/-- The storage holds the users of the table, in whatever order it iterates over them. -/
def UsersStorage.Holds (st : UsersStorage) (t : UsersTable) : Prop :=
  (st.usersByLogin.entries.map fun e => (e.1, e.2)).Perm (t.rows.map fun r => (r.login, r.toRecord))

/-- The repository answers with the users that the storage finds, each once and by
increasing id. -/
def SearchAgrees (cfg : Config D) (i : Input) (w : World) (st : UsersStorage)
    (login firstMask lastMask : Option String) : Prop :=
  ∃ users, ((UsersRepository.search cfg login firstMask lastMask).run (World.exec i) w).1 = .ok users ∧
    (users.map fun u => (u.id.toInt64, u.login, u.firstName, u.lastName)).Perm
      ((st.search login firstMask lastMask).map fun r => (r.id, r.login, r.firstName, r.lastName)) ∧
    (users.map fun u => u.id.toInt).Pairwise (· < ·)

/-- A mask without `%`, `_` and backslash, or none. -/
def PlainMask (mask : Option String) : Prop := ∀ m ∈ mask, Sql.Plain m.toList

/-- The mask, as a pattern, matches a text that a column can hold: its shortest one. -/
def MaskFits (mask : Option String) : Prop := ∀ m ∈ mask, (Sql.sample m.toList).length ≤ 255

/-- Some user that a table can hold is found. -/
def Findable (login firstMask lastMask : Option String) : Prop :=
  (∀ l ∈ login, l.length ≤ 255) ∧ MaskFits firstMask ∧ MaskFits lastMask

/-! ## Masks -/

theorem masked_eq (mask : Option String) (name : String) :
    UsersStorage.masked mask name = true ↔ ∀ m ∈ mask, m.toList <:+: name.toList := by
  cases mask with
  | none => simp [UsersStorage.masked]
  | some m =>
    rw [UsersStorage.masked, Option.isSome_iff_ne_none, Ne, strFind_eq_none, not_not]
    simp

theorem maskMatches_eq (mask : Option String) (name : String) :
    maskMatches mask name = true ↔
      ∀ m ∈ mask, Sql.like ('%' :: (m.toList ++ ['%'])) name.toList = true := by
  cases mask with
  | none => simp [maskMatches]
  | some m => simp [maskMatches]

/-- A plain mask reads the same as a pattern and as a text. -/
theorem maskMatches_plain {mask : Option String} (h : PlainMask mask) (name : String) :
    maskMatches mask name = UsersStorage.masked mask name := by
  rw [Bool.eq_iff_iff, maskMatches_eq, masked_eq]
  exact forall₂_congr fun m hm => Sql.like_contains (h m hm)

/-- The shortest name that the mask finds as a pattern. -/
def foundName (mask : Option String) : String :=
  match mask with
  | none => ""
  | some m => String.ofList (Sql.sample m.toList)

theorem foundName_matches (mask : Option String) : maskMatches mask (foundName mask) = true := by
  rw [maskMatches_eq]
  rintro m rfl
  rw [foundName, String.toList_ofList]
  exact Sql.like_percent.2 ⟨_, List.suffix_rfl, Sql.like_sample _⟩

/-- A mask that is not plain finds that name as a pattern only. -/
theorem foundName_not_masked {mask : Option String} (h : ¬ PlainMask mask) :
    UsersStorage.masked mask (foundName mask) = false := by
  cases mask with
  | none => exact absurd (fun m hm => by simp at hm) h
  | some m =>
    have hm : ¬ Sql.Plain m.toList := fun hm => h fun m' hm' => Option.some.inj hm' ▸ hm
    rw [← Bool.not_eq_true, masked_eq]
    intro hin
    have := hin m rfl
    rw [foundName, String.toList_ofList] at this
    exact Sql.sample_not_infix hm this

theorem foundName_fits {mask : Option String} (htext : ∀ m ∈ mask, IsText m) (h : MaskFits mask) :
    FitsColumn (foundName mask) := by
  cases mask with
  | none => decide
  | some m =>
    refine ⟨fun hz => ?_, ?_⟩
    · rw [foundName, String.toList_ofList] at hz
      rcases Sql.mem_sample hz with hm | hx | hx
      · exact htext m rfl hm
      · exact absurd hx (by decide)
      · exact absurd hx (by decide)
    · rw [foundName, ← String.length_toList, String.toList_ofList]
      exact h m rfl

/-- A mask that finds a name in a column, in either way, is no longer than that. -/
theorem maskFits_of_found {mask : Option String} {name : String} (hname : FitsColumn name)
    (h : maskMatches mask name = true ∨ UsersStorage.masked mask name = true) : MaskFits mask := by
  rintro m rfl
  have hlen : name.toList.length ≤ 255 := by rw [String.length_toList]; exact hname.2
  rcases h with h | h
  · obtain ⟨s, hs, hlike⟩ := Sql.like_percent.1 ((maskMatches_eq _ _).1 h m rfl)
    exact (Sql.sample_le_of_like hlike).trans (hs.length_le.trans hlen)
  · have hin := (masked_eq _ _).1 h m rfl
    exact (Sql.length_sample_le _).trans (hin.length_le.trans hlen)

/-! ## The two searches -/

/-- A row as `User`, when its id fits. -/
def UserRow.toUser (r : UserRow) : User := ⟨r.id.toInt32, r.login, r.firstName, r.lastName⟩

theorem UsersRepository.readUser_fits {r : UserRow} (h : FitsInt r.id) :
    readUser cfg r = .ok r.toUser := by
  have hr : cfg.narrowing.readInt r.id = .ok r.id.toInt32 := if_pos h
  rw [readUser, hr]; rfl

theorem Postgres.mem_foundUsers {pg : Postgres} {login firstMask lastMask : Option String} {r : UserRow} :
    r ∈ pg.foundUsers login firstMask lastMask ↔
      r ∈ pg.users.rows ∧ r.found login firstMask lastMask = true := by
  rw [Postgres.foundUsers, List.mem_mergeSort, List.mem_filter]

theorem UsersRepository.search_eq (cfg : Config D) (login firstMask lastMask : Option String) :
    (UsersRepository.search cfg login firstMask lastMask).run (World.exec i) w =
      (if i.fault (.execute .kSlave (.searchUsers login firstMask lastMask)) then .error .storeFailure
        else w.pg.searchUsers login firstMask lastMask >>= List.mapM (readUser cfg), w) := by
  simp only [UsersRepository.search, execute, Prog.bind_eq, Prog.run_andThen, Prog.run_perform,
    World.exec]
  cases hf : i.fault (.execute .kSlave (.searchUsers login firstMask lastMask)) with
  | true => rfl
  | false =>
    simp only [Bool.false_eq_true, if_false, Postgres.exec]
    cases w.pg.searchUsers login firstMask lastMask with
    | error e => rfl
    | ok rows => simp [bind, Except.bind]

theorem UsersRepository.search_run (hf : ∀ o, i.fault o = false) {login firstMask lastMask : Option String}
    (htexts : SearchTexts login firstMask lastMask) :
    ((UsersRepository.search cfg login firstMask lastMask).run (World.exec i) w).1 =
      (w.pg.foundUsers login firstMask lastMask).mapM (readUser cfg) := by
  rw [search_eq, hf, Postgres.searchUsers_of _ htexts]
  rfl

/-- What the storage finds among the users of a table. -/
theorem UsersStorage.Holds.search_perm {st : UsersStorage} {t : UsersTable} (h : st.Holds t)
    (login firstMask lastMask : Option String) :
    (st.search login firstMask lastMask).Perm
      ((t.rows.map UserRow.toRecord).filter (UsersStorage.ok login firstMask lastMask)) := by
  have hv := h.map Prod.snd
  rw [List.map_map, List.map_map] at hv
  exact hv.filter _

/-- Both conditions on a row, mask by mask. -/
theorem found_eq_ok {login firstMask lastMask : Option String} (h₁ : PlainMask firstMask)
    (h₂ : PlainMask lastMask) (r : UserRow) :
    UserRow.found login firstMask lastMask r = UsersStorage.ok login firstMask lastMask r.toRecord := by
  unfold UserRow.found UsersStorage.ok
  rw [maskMatches_plain h₁, maskMatches_plain h₂]; rfl

/-- A row that either search finds shows that there is one to find. -/
theorem findable_of_found {login firstMask lastMask : Option String} {r : UserRow} (hr : r.Fits)
    (h : UserRow.found login firstMask lastMask r = true ∨
      UsersStorage.ok login firstMask lastMask r.toRecord = true) : Findable login firstMask lastMask := by
  obtain ⟨hlogin, -, hfirst, hlast⟩ := hr
  have hparts : (∀ l ∈ login, r.login = l) ∧
      (maskMatches firstMask r.firstName = true ∨ UsersStorage.masked firstMask r.firstName = true) ∧
      (maskMatches lastMask r.lastName = true ∨ UsersStorage.masked lastMask r.lastName = true) := by
    rcases h with h | h
    · simp only [UserRow.found, Bool.and_eq_true] at h
      refine ⟨fun l hl => ?_, .inl h.1.2, .inl h.2⟩
      obtain rfl := Option.mem_def.1 hl
      exact of_decide_eq_true h.1.1
    · simp only [UsersStorage.ok, UserRow.toRecord, Bool.and_eq_true] at h
      refine ⟨fun l hl => ?_, .inr h.1.2, .inr h.2⟩
      obtain rfl := Option.mem_def.1 hl
      exact of_decide_eq_true h.1.1
  exact ⟨fun l hl => hparts.1 l hl ▸ hlogin.2, maskFits_of_found hfirst hparts.2.1,
    maskFits_of_found hlast hparts.2.2⟩

theorem FitsInt.toInt_narrowed {n : Int64} (h : FitsInt n) : n.toInt32.toInt = n.toInt := by
  rw [← Int32.toInt_toInt64, show n.toInt32.toInt64 = n from h]

theorem nodup_toInt {ids : List Int64} (h : ids.Nodup) : (ids.map Int64.toInt).Nodup :=
  h.map fun _ _ => Int64.toInt_inj.1

/-- When both conditions agree on every row and the ids of those found fit, the searches agree. -/
theorem searchAgrees_of_rows {st : UsersStorage} {login firstMask lastMask : Option String}
    (hst : st.Holds w.pg.users) (hf : ∀ o, i.fault o = false) (htexts : SearchTexts login firstMask lastMask)
    (hfit : ∀ r ∈ w.pg.users.rows, UserRow.found login firstMask lastMask r = true → FitsInt r.id)
    (hsame : ∀ r ∈ w.pg.users.rows, UserRow.found login firstMask lastMask r =
      UsersStorage.ok login firstMask lastMask r.toRecord) :
    SearchAgrees cfg i w st login firstMask lastMask := by
  set found := w.pg.users.rows.filter (UserRow.found login firstMask lastMask) with hfound
  have hperm : (found.mergeSort fun a b => a.id ≤ b.id).Perm found := List.mergeSort_perm _ _
  have hfits : ∀ r ∈ found.mergeSort fun a b => a.id ≤ b.id, FitsInt r.id := fun r hr =>
    have hmem := List.mem_filter.1 (hperm.mem_iff.1 hr)
    hfit r hmem.1 hmem.2
  refine ⟨_, (UsersRepository.search_run hf htexts).trans
    (mapM_ok fun r hr => UsersRepository.readUser_fits (hfits r hr)), ?_, ?_⟩
  · have hmem : found.map UserRow.toRecord =
        (w.pg.users.rows.map UserRow.toRecord).filter (UsersStorage.ok login firstMask lastMask) := by
      rw [hfound, List.filter_map]
      congr 1
      exact List.filter_congr hsame
    have hst' := (hst.search_perm login firstMask lastMask).map
      fun r => (r.id, r.login, r.firstName, r.lastName)
    rw [← hmem, List.map_map] at hst'
    rw [List.map_map]
    refine List.Perm.trans ?_ ((hperm.map _).trans hst'.symm)
    refine List.Perm.of_eq (List.map_congr_left fun r hr => ?_)
    have hr' : r.id.toInt32.toInt64 = r.id := hfits r hr
    simp only [Function.comp, UserRow.toUser, UserRow.toRecord, hr']
  · have hid : ((found.mergeSort fun a b => a.id ≤ b.id).map fun r => r.id.toInt).Pairwise (· < ·) :=
      Rows.pairwise_mergeSort_key (fun a b => by rw [decide_eq_true_eq, Int64.le_iff_toInt_le])
        (by
          have := nodup_toInt (w.pg.users.idKey.sublist (hfound ▸ List.filter_sublist.map UserRow.id))
          rwa [List.map_map] at this)
    rw [List.map_map]
    refine (List.map_congr_left fun r hr => ?_) ▸ hid
    exact (hfits r hr).toInt_narrowed.symm

/-! ## A table of one user -/

/-- A world with one user. -/
def soleUserWorld (r : UserRow) (hr : r.Fits) : World where
  pg := {
    users := ⟨[r], List.nodup_singleton _, List.nodup_singleton _, List.forall_mem_singleton.2 hr⟩
    usersSeq := 1
    goalIds := []
    tasks := .empty
    tasksSeq := 0 }
  goals := .empty
  rateLimits := fun _ _ => none

/-- The storage with the same user. -/
def soleUserStorage (r : UserRow) : UsersStorage where
  nextId := 2
  usersByLogin := .singleton r.login r.toRecord
  usersById := .singleton r.id r.toRecord

theorem soleUser_holds (r : UserRow) (hr : r.Fits) :
    (soleUserStorage r).Holds (soleUserWorld r hr).pg.users := List.Perm.refl _

/-- Searches can agree only on arguments that Postgres takes. -/
theorem texts_of_agrees {st : UsersStorage} {login firstMask lastMask : Option String}
    (h : SearchAgrees cfg i w st login firstMask lastMask) (hf : ∀ o, i.fault o = false) :
    SearchTexts login firstMask lastMask := by
  obtain ⟨users, hrun, -⟩ := h
  rcases w.pg.searchUsers_cases login firstMask lastMask with ⟨hyes, -⟩ | ⟨-, hrows⟩
  · exact hyes
  · rw [UsersRepository.search_eq, hf, hrows] at hrun
    simp [bind, Except.bind] at hrun

/-- When the searches agree on one user whom SQL finds, the storage finds him too and his
id fits an `int`. -/
theorem sole_of_agrees {r : UserRow} {hfits : r.Fits} {login firstMask lastMask : Option String}
    (h : SearchAgrees cfg {} (soleUserWorld r hfits) (soleUserStorage r) login firstMask lastMask)
    (hr : UserRow.found login firstMask lastMask r = true) :
    UsersStorage.ok login firstMask lastMask r.toRecord = true ∧ FitsInt r.id := by
  have htexts := texts_of_agrees h fun _ => rfl
  obtain ⟨users, hrun, hperm, -⟩ := h
  have hrows : (soleUserWorld r hfits).pg.users.rows.filter (UserRow.found login firstMask lastMask) = [r] := by
    rw [soleUserWorld, List.filter_singleton, hr]; rfl
  rw [UsersRepository.search_run (fun _ => rfl) htexts, Postgres.foundUsers, hrows, List.mergeSort_singleton,
    List.mapM_cons, List.mapM_nil, UsersRepository.readUser, Narrowing.readInt_eq] at hrun
  by_cases hreads : cfg.narrowing.Reads r.id
  · rw [if_pos hreads] at hrun
    obtain rfl : [r.toUser] = users := Except.ok.inj hrun
    have hstore : (soleUserStorage r).search login firstMask lastMask =
        [r.toRecord].filter (UsersStorage.ok login firstMask lastMask) := rfl
    rw [hstore, List.filter_singleton] at hperm
    cases hok : UsersStorage.ok login firstMask lastMask r.toRecord with
    | false => rw [hok] at hperm; simp at hperm
    | true =>
      rw [hok] at hperm
      have hkey := List.singleton_perm_singleton.1 hperm
      exact ⟨rfl, (Prod.mk.inj hkey).1⟩
  · rw [if_neg hreads] at hrun
    exact absurd hrun (by simp [bind, Except.bind])

/-- The user that every search finds which can find one. -/
def soughtUser (n : Int64) (login firstMask lastMask : Option String) : UserRow :=
  ⟨n, login.getD "", "password", foundName firstMask, foundName lastMask⟩

theorem soughtUser_fits {login firstMask lastMask : Option String}
    (htexts : SearchTexts login firstMask lastMask) (h : Findable login firstMask lastMask) (n : Int64) :
    (soughtUser n login firstMask lastMask).Fits := by
  have hpassword : FitsColumn "password" := by decide
  have hempty : FitsColumn "" := by decide
  refine ⟨?_, hpassword, foundName_fits htexts.2.1 h.2.1, foundName_fits htexts.2.2 h.2.2⟩
  cases login with
  | none => exact hempty
  | some l => exact ⟨htexts.1 l rfl, h.1 l rfl⟩

theorem soughtUser_found (n : Int64) (login firstMask lastMask : Option String) :
    UserRow.found login firstMask lastMask (soughtUser n login firstMask lastMask) = true := by
  simp only [UserRow.found, soughtUser, foundName_matches]
  cases login <;> simp

/-- **Where the search in SQL finds the users that the storage in memory found.** For all
users with ids in a set, in any order of iteration, both answer the same if and only if Postgres
takes the arguments and, as far as a table can have a user to find, the ids fit an `int` and the
masks have no special character. -/
theorem search_agrees_iff (cfg : Config D) (S : Int64 → Prop) (login firstMask lastMask : Option String) :
    (∀ (w : World) (st : UsersStorage) (i : Input), st.Holds w.pg.users →
        (∀ r ∈ w.pg.users.rows, S r.id) → (∀ o, i.fault o = false) →
        SearchAgrees cfg i w st login firstMask lastMask) ↔
      SearchTexts login firstMask lastMask ∧
        ∀ n, S n → Findable login firstMask lastMask → FitsInt n ∧ PlainMask firstMask ∧ PlainMask lastMask := by
  constructor
  · intro h
    have htexts : SearchTexts login firstMask lastMask :=
      texts_of_agrees (h emptyWorld {} {} (List.Perm.refl _) (fun r hr => absurd hr List.not_mem_nil)
        fun _ => rfl) fun _ => rfl
    refine ⟨htexts, fun n hn hfind => ?_⟩
    have hfits := soughtUser_fits htexts hfind n
    obtain ⟨hok, hint⟩ := sole_of_agrees (h (soleUserWorld _ hfits) (soleUserStorage _) {} (soleUser_holds _ hfits)
      (fun r hr => List.mem_singleton.1 hr ▸ hn) fun _ => rfl) (soughtUser_found n login firstMask lastMask)
    simp only [UsersStorage.ok, UserRow.toRecord, soughtUser, Bool.and_eq_true] at hok
    refine ⟨hint, ?_, ?_⟩
    · by_contra hno
      simp [foundName_not_masked hno] at hok
    · by_contra hno
      simp [foundName_not_masked hno] at hok
  · rintro ⟨htexts, h⟩ w st i hst hS hf
    have hfits : ∀ r ∈ w.pg.users.rows, r.Fits := w.pg.users.columns
    refine searchAgrees_of_rows hst hf htexts (fun r hr hfound => ?_) fun r hr => ?_
    · exact (h r.id (hS r hr) (findable_of_found (hfits r hr) (.inl hfound))).1
    · by_cases hfind : Findable login firstMask lastMask
      · obtain ⟨-, h₁, h₂⟩ := h r.id (hS r hr) hfind
        exact found_eq_ok h₁ h₂ r
      · -- nobody is found on either side
        have hno := mt (findable_of_found (hfits r hr)) hfind
        rw [not_or, Bool.not_eq_true, Bool.not_eq_true] at hno
        rw [hno.1, hno.2]

def annRow : UserRow := ⟨1, "ann", "password", "Ann", "Lee"⟩

/-- The mask `_` finds Ann in SQL, and nobody in memory. -/
theorem search_finds_underscore :
    ¬ SearchAgrees (clearConfig .throws) {} (soleUserWorld annRow (by decide)) (soleUserStorage annRow) none
      (some "_") none := by
  intro h
  have := (sole_of_agrees h (by decide)).1
  exact absurd this (by decide)

end Leadertask
