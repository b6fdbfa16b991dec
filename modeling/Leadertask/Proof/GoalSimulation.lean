import Leadertask.Lib.Renaming
import Leadertask.Model.Storages
import Leadertask.Proof.ReadBack

/-!
# The goal documents against the storage in memory

`GoalsRepository` keeps the goals as documents under object ids, `GoalsStorage` kept them under the
numbers 1, 2, 3. A client of one class never sees an id of the other, so the two can only be compared
by the order in which their ids were given out.

* `GoalsStorage.Keeps`: the storage is a list of goals in the order of their creation.
* `GoalMirror`: the documents and that list show the same goals.
* `goals_simulated`: every sequence of operations is answered alike, ids apart.
-/

namespace Leadertask

open Atomic

variable {i : Input} {w : World}

/-! ## Operations and their answers -/

/-- What a goal shows besides its id. -/
abbrev GoalText := String × String × Int64

def GoalDoc.text (d : GoalDoc) : GoalText := (d.title, d.description.getD "", d.userId)

def GoalRecord.text (g : GoalRecord) : GoalText := (g.title, g.description, g.userId)

/-- A goal as its client got it, with the number of its id. -/
structure NumberedGoal where
  number : Option ℕ
  title : Option String
  description : Option String
  userId : Option Int64

def CreateGoalResponseBody.withNumber (ids : List String) (g : CreateGoalResponseBody) : NumberedGoal :=
  ⟨g.id.map ids.idxOf, g.title, g.description, g.userId.map Int32.toInt64⟩

def GoalRecord.withNumber (ids : List Int64) (g : GoalRecord) : NumberedGoal :=
  ⟨some (ids.idxOf g.id), some g.title, some g.description, some g.userId⟩

/-- The operations that both classes have. A client knows a goal by the number of the id that it was
given for it. -/
inductive GoalOp where
  | createGoal (userId : UserId) (title : String) (description : Option String)
  | getById (n : ℕ)
  | getByUser (userId : UserId)

/-- What an operation returns, ids as their numbers. -/
inductive GoalAnswer where
  | goal (g : NumberedGoal)
  | found (g : Option NumberedGoal)
  | goals (gs : List NumberedGoal)

/-- An operation of the repository, and the ids given out afterwards. No goal has the object id zero. -/
def GoalOp.onRepository (ids : List String) : GoalOp → Handler (GoalAnswer × List String)
  | .createGoal userId title description => do
    let goal ← GoalsRepository.createGoal userId title description
    let ids := ids ++ goal.id.toList
    return (.goal (goal.withNumber ids), ids)
  | .getById n => do
    let goal ← GoalsRepository.getById (Rows.nth ids Oid.zero.toString n)
    return (.found (goal.map fun g => g.toResponse.withNumber ids), ids)
  | .getByUser userId => do
    let goals ← GoalsRepository.getByUser userId
    return (.goals (goals.map fun g => g.toResponse.withNumber ids), ids)

/-- The same operation of the storage, which takes a missing description as the empty one. -/
def GoalOp.onStorage (t : List Int64 × GoalsStorage) : GoalOp → GoalAnswer × (List Int64 × GoalsStorage)
  | .createGoal userId title description =>
    let r := t.2.createGoal title (description.getD "") userId
    let ids := t.1 ++ [r.1.id]
    (.goal (r.1.withNumber ids), (ids, r.2))
  | .getById n => (.found ((t.2.getById (Rows.nth t.1 0 n)).map (GoalRecord.withNumber t.1)), t)
  | .getByUser userId => (.goals ((t.2.getGoalsByUser userId).map (GoalRecord.withNumber t.1)), t)

/-- An operation of the repository with what the environment adds. -/
def goalsStep (s : List String × World) (x : GoalOp × Input) : Except Exn GoalAnswer × (List String × World) :=
  match (x.1.onRepository s.1).run (World.exec x.2) s.2 with
  | (.ok (a, ids), w) => (.ok a, (ids, w))
  | (.error e, w) => (.error e, (s.1, w))

/-- Equal, but for the order of a list. -/
inductive GoalAnswer.Alike : GoalAnswer → GoalAnswer → Prop
  | same (a : GoalAnswer) : Alike a a
  | goals {gs gs' : List NumberedGoal} (h : gs.Perm gs') : Alike (.goals gs) (.goals gs')

/-- The repository throws nothing and answers as the storage does. -/
def SameGoalAnswer (r : Except Exn GoalAnswer) (a : GoalAnswer) : Prop := ∃ a', r = .ok a' ∧ a'.Alike a

/-- The user of a new goal fits the `int` as which he is read. -/
def GoalOp.Accepted : GoalOp → Prop
  | .createGoal userId .. => FitsInt userId
  | _ => True

/-- The object ids that the operations use up. -/
def createdOids (ops : List (GoalOp × Input)) : List Oid :=
  ops.filterMap fun
    | (.createGoal .., i) => some i.oid
    | _ => none

/-! ## The storage is a list -/

/-- The goals in the order of their creation, numbered from 1 on. -/
structure GoalLog where
  goals : List GoalRecord
  numbered : Rows.Numbered Int64.ofNat GoalRecord.id goals

namespace GoalLog

def empty : GoalLog := ⟨[], Rows.numbered_nil⟩

variable (l : GoalLog)

/-- The record of the next goal. -/
def next (title description : String) (userId : Int64) : GoalRecord :=
  ⟨Int64.ofNat (l.goals.length + 1), title, description, userId⟩

def add (title description : String) (userId : Int64) : GoalLog :=
  ⟨l.goals ++ [l.next title description userId], l.numbered.append rfl⟩

end GoalLog

/-- The counter and the map are what the list says. -/
structure GoalsStorage.Keeps (st : GoalsStorage) (l : GoalLog) : Prop where
  next : st.nextId = Int64.ofNat (l.goals.length + 1)
  byId : ∀ id, st.getById id = l.goals.find? (·.id = id)
  values : (UnorderedMap.values st.goalsById).Perm l.goals

theorem goalsKeeps_empty : GoalsStorage.Keeps {} .empty := ⟨rfl, fun _ => rfl, List.Perm.refl _⟩

/-- `CreateGoal` takes the next number, and adds the goal to the list. -/
theorem keeps_createGoal {st : GoalsStorage} {l : GoalLog} (h : st.Keeps l) (hn : l.goals.length + 1 < 2 ^ 63)
    (title description : String) (userId : Int64) :
    (st.createGoal title description userId).1 = l.next title description userId ∧
      (st.createGoal title description userId).2.Keeps (l.add title description userId) := by
  set g := l.next title description userId with hg
  have hid : g.id ∉ l.goals.map GoalRecord.id := l.numbered.next_new hn
  have hnext : st.nextId = g.id := h.next
  have hfree : st.goalsById.lookup g.id = none := by
    have hbyId : st.goalsById.lookup g.id = l.goals.find? (·.id = g.id) := h.byId g.id
    rw [hbyId, List.find?_eq_none]
    intro x hx he
    exact hid (List.mem_map.2 ⟨x, hx, of_decide_eq_true he⟩)
  -- `emplace` meets no entry
  have hcreate : st.createGoal title description userId =
      (g, { nextId := st.nextId + 1, goalsById := st.goalsById.insert g.id g }) := by
    have hrec : (⟨st.nextId, title, description, userId⟩ : GoalRecord) = g := by rw [hnext]; rfl
    rw [GoalsStorage.createGoal, hrec, UnorderedMap.emplace_new hfree]
  rw [hcreate]
  refine ⟨rfl, ?_, fun id => ?_, ?_⟩
  · simp only [GoalLog.add, h.next, List.length_append, List.length_singleton]
    exact (Int64.ofNat_add _ _).symm
  · have hadd := Rows.find_append_new (r := g) hid id
    rw [GoalLog.add, hadd, ← h.byId]
    exact UnorderedMap.lookup_insert _ _ _ _
  · have hentries := AList.entries_insert_of_notMem (b := g) (AList.lookup_eq_none.1 hfree)
    simp only [UnorderedMap.values, hentries, List.map_cons, GoalLog.add]
    exact (List.Perm.cons _ h.values).trans (List.perm_append_singleton _ _).symm

/-! ## The relation -/

/-- The id as a client has it. -/
def GoalDoc.key (d : GoalDoc) : String := d.id.toString

theorem GoalDoc.mem_key {docs : List GoalDoc} {oid : Oid} :
    oid.toString ∈ docs.map GoalDoc.key ↔ oid ∈ docs.map GoalDoc.id := by
  rw [List.mem_map, List.mem_map]
  constructor
  · rintro ⟨d, hd, hk⟩
    exact ⟨d, hd, Oid.toString_injective hk⟩
  · rintro ⟨d, hd, rfl⟩
    exact ⟨d, hd, rfl⟩

/-- The documents and the storage show the goals of `l`, and both clients hold all ids given out. -/
structure GoalMirror (l : GoalLog) (s : List String × World) (t : List Int64 × GoalsStorage) : Prop where
  keeps : t.2.Keeps l
  given : s.1 = s.2.goals.docs.map GoalDoc.key
  given' : t.1 = l.goals.map GoalRecord.id
  renamed : Rows.Renamed GoalDoc.key GoalRecord.id GoalDoc.text GoalRecord.text s.2.goals.docs l.goals
  fits : ∀ d ∈ s.2.goals.docs, FitsInt d.userId

/-- The text of a goal with its number, as the client gets both. -/
def GoalText.withNumber (x : ℕ × GoalText) : NumberedGoal := ⟨some x.1, some x.2.1, some x.2.2.1, some x.2.2.2⟩

theorem readGoal_withNumber {d : GoalDoc} (h : FitsInt d.userId) (ids : List String) :
    (GoalsRepository.readGoal d).toResponse.withNumber ids = GoalText.withNumber (ids.idxOf d.key, d.text) := by
  have hu : d.userId.toInt32.toInt64 = d.userId := h
  simp only [GoalsRepository.readGoal, Goal.toResponse, CreateGoalResponseBody.withNumber, Option.map_some, hu]
  rfl

theorem goalsStep_ok {s : List String × World} {x : GoalOp × Input} {a a' : GoalAnswer} {ids : List String}
    {w' : World} (h : (x.1.onRepository s.1).run (World.exec x.2) s.2 = (.ok (a, ids), w')) (ha : a = a') :
    goalsStep s x = (.ok a', (ids, w')) := by
  rw [goalsStep, h, ha]

/-! ## One operation -/

section

variable {l : GoalLog} {s : List String × World} {t : List Int64 × GoalsStorage}
variable (hf : ∀ o, i.fault o = false) (h : GoalMirror l s t)
include hf h

theorem goalMirror_createGoal {userId : UserId} (hfit : FitsInt userId) (hn : l.goals.length + 1 < 2 ^ 63)
    (hnew : i.oid ∉ s.2.goals.docs.map GoalDoc.id) (title : String) (description : Option String) :
    SameGoalAnswer (goalsStep s (.createGoal userId title description, i)).1
        ((GoalOp.createGoal userId title description).onStorage t).1 ∧
      GoalMirror (l.add title (description.getD "") userId)
        (goalsStep s (.createGoal userId title description, i)).2
        ((GoalOp.createGoal userId title description).onStorage t).2 ∧
      (goalsStep s (.createGoal userId title description, i)).2.2.goals.docs.map GoalDoc.id =
        s.2.goals.docs.map GoalDoc.id ++ [i.oid] := by
  set g := l.next title (description.getD "") userId
  set d : GoalDoc := ⟨i.oid, title, userId, description⟩
  have hkey : d.key ∉ s.2.goals.docs.map GoalDoc.key := mt GoalDoc.mem_key.1 hnew
  have hid : g.id ∉ l.goals.map GoalRecord.id := l.numbered.next_new hn
  obtain ⟨hcreated, hkeeps⟩ := keeps_createGoal h.keeps hn title (description.getD "") userId
  -- the new ids have the same number
  have hnumber : (s.1 ++ [d.key]).idxOf d.key = (t.1 ++ [g.id]).idxOf g.id := by
    rw [h.given, h.given', List.idxOf_append_of_notMem hkey, List.idxOf_append_of_notMem hid, List.length_map,
      List.length_map, h.renamed.length, List.idxOf_cons_self, List.idxOf_cons_self]
  have hrun := GoalsRepository.createGoal_new (w := s.2) userId title description (hf _) hnew
  obtain ⟨w', hdocs, hstep⟩ : ∃ w' : World, w'.goals.docs = s.2.goals.docs ++ [d] ∧
      goalsStep s (.createGoal userId title description, i) =
        (.ok (.goal (GoalText.withNumber ((s.1 ++ [d.key]).idxOf d.key, d.text))), (s.1 ++ [d.key], w')) := by
    refine ⟨_, rfl, goalsStep_ok (x := (.createGoal userId title description, i)) (by
      simp only [GoalOp.onRepository, Prog.bind_eq, Prog.run_andThen, hrun]; rfl) ?_⟩
    exact congrArg GoalAnswer.goal (readGoal_withNumber (d := d) hfit _)
  have hstorage : (GoalOp.createGoal userId title description).onStorage t =
      (.goal (GoalText.withNumber ((t.1 ++ [g.id]).idxOf g.id, g.text)),
        (t.1 ++ [g.id], (t.2.createGoal title (description.getD "") userId).2)) := by
    simp only [GoalOp.onStorage, hcreated]; rfl
  rw [hstep, hstorage, hnumber]
  refine ⟨⟨_, rfl, .same _⟩, ⟨hkeeps, ?_, ?_, ?_, ?_⟩, by rw [hdocs, List.map_append]; rfl⟩
  · rw [hdocs, List.map_append, ← h.given]; rfl
  · rw [GoalLog.add, List.map_append, ← h.given']; rfl
  · rw [hdocs]; exact h.renamed.append hkey hid rfl
  · rw [hdocs]; exact List.forall_mem_append.2 ⟨h.fits, List.forall_mem_singleton.2 hfit⟩

theorem goalMirror_getById (hzero : Oid.zero ∉ s.2.goals.docs.map GoalDoc.id) (hn : l.goals.length < 2 ^ 63)
    (n : ℕ) : goalsStep s (.getById n, i) = (.ok ((GoalOp.getById n).onStorage t).1, s) := by
  have hdefault : Oid.zero.toString ∉ s.2.goals.docs.map GoalDoc.key := mt GoalDoc.mem_key.1 hzero
  -- whatever the id is, it is the text of an object id
  obtain ⟨oid, hoid⟩ : ∃ oid : Oid, Rows.nth s.1 Oid.zero.toString n = oid.toString := by
    rw [h.given, Rows.nth, List.getElem?_map]
    cases s.2.goals.docs[n]? with
    | none => exact ⟨_, rfl⟩
    | some d => exact ⟨d.id, rfl⟩
  have hfound : s.2.findGoal i (Rows.nth s.1 Oid.zero.toString n) =
      .ok (s.2.goals.docs.find? (·.key = Rows.nth s.1 Oid.zero.toString n)) := by
    have hkey (d : GoalDoc) : decide (d.id = oid) = decide (d.key = oid.toString) :=
      decide_eq_decide.2 ⟨congrArg Oid.toString, fun h => Oid.toString_injective h⟩
    rw [hoid, World.findGoal_ok (Oid.ofString_toString oid) (hf _)]
    simp only [hkey]
  have hread : (s.2.goals.docs.find? (·.key = Rows.nth s.1 Oid.zero.toString n)).map
        (fun d => (GoalsRepository.readGoal d).toResponse.withNumber s.1) =
      ((s.2.goals.docs.find? (·.key = Rows.nth s.1 Oid.zero.toString n)).map
        (Rows.numbered GoalDoc.key GoalDoc.text s.2.goals.docs)).map GoalText.withNumber := by
    rw [Option.map_map]
    refine Option.map_congr fun d hd => ?_
    rw [readGoal_withNumber (h.fits d (List.mem_of_find?_eq_some hd)), h.given]
    rfl
  have hrun : ((GoalOp.getById n).onRepository s.1).run (World.exec i) s.2 =
      (.ok (.found ((s.2.goals.docs.find? (·.key = Rows.nth s.1 Oid.zero.toString n)).map
        fun d => (GoalsRepository.readGoal d).toResponse.withNumber s.1), s.1), s.2) := by
    simp only [GoalOp.onRepository, Prog.bind_eq, Prog.run_andThen, GoalsRepository.getById_run, hfound, Except.map,
      Option.map_map]
    rfl
  refine goalsStep_ok (x := (.getById n, i)) hrun ?_
  rw [hread, h.given, h.renamed.find_nth hdefault (l.numbered.zero_new hn) n, GoalOp.onStorage, h.keeps.byId, h.given',
    Option.map_map]
  rfl

theorem goalMirror_getByUser (userId : UserId) :
    ∃ gs gs', goalsStep s (.getByUser userId, i) = (.ok (.goals gs), s) ∧
      ((GoalOp.getByUser userId).onStorage t).1 = .goals gs' ∧ gs.Perm gs' := by
  let p (x : GoalText) : Bool := x.2.2 = userId
  set listed := (s.2.goals.docs.filter (·.userId = userId)).mergeSort fun a b => b.id.le a.id with hlisted
  have hperm : listed.Perm (s.2.goals.docs.filter fun d => p d.text) := List.mergeSort_perm _ _
  have hread : listed.map (fun d => (GoalsRepository.readGoal d).toResponse.withNumber s.1) =
      (listed.map (Rows.numbered GoalDoc.key GoalDoc.text s.2.goals.docs)).map GoalText.withNumber := by
    rw [List.map_map]
    refine List.map_congr_left fun d hd => ?_
    rw [readGoal_withNumber (h.fits d (List.mem_filter.1 (hperm.mem_iff.1 hd)).1), h.given]
    rfl
  have hrun : ((GoalOp.getByUser userId).onRepository s.1).run (World.exec i) s.2 =
      (.ok (.goals (listed.map fun d => (GoalsRepository.readGoal d).toResponse.withNumber s.1), s.1), s.2) := by
    simp only [GoalOp.onRepository, Prog.bind_eq, Prog.run_andThen, GoalsRepository.getByUser_run (hf _),
      ← hlisted, List.map_map]
    rfl
  refine ⟨_, _, goalsStep_ok (x := (.getByUser userId, i)) hrun rfl, rfl, ?_⟩
  have hstorage : (l.goals.filter fun g => p g.text).Perm (t.2.getGoalsByUser userId) := (h.keeps.values.filter _).symm
  rw [hread, h.given']
  refine ((hperm.map _).map _).trans ?_
  rw [h.renamed.filter p, List.map_map]
  exact hstorage.map _

/-- **One operation** is answered alike on both sides, keeps the relation, and uses up at most its own
object id. -/
theorem goalMirror_step (op : GoalOp) (hacc : op.Accepted)
    (hn : l.goals.length + (createdOids [(op, i)]).length < 2 ^ 63)
    (hzero : Oid.zero ∉ s.2.goals.docs.map GoalDoc.id)
    (hnew : (s.2.goals.docs.map GoalDoc.id ++ createdOids [(op, i)]).Nodup) :
    SameGoalAnswer (goalsStep s (op, i)).1 (op.onStorage t).1 ∧
      (∃ l' : GoalLog, l'.goals.length = l.goals.length + (createdOids [(op, i)]).length ∧
        GoalMirror l' (goalsStep s (op, i)).2 (op.onStorage t).2) ∧
      (goalsStep s (op, i)).2.2.goals.docs.map GoalDoc.id =
        s.2.goals.docs.map GoalDoc.id ++ createdOids [(op, i)] := by
  cases op with
  | createGoal userId title description =>
    have hoid : i.oid ∉ s.2.goals.docs.map GoalDoc.id := fun hmem =>
      (List.nodup_append'.1 hnew).2.2 hmem (List.mem_singleton.2 rfl)
    obtain ⟨hsame, hmirror, hids⟩ := goalMirror_createGoal hf h hacc hn hoid title description
    have hlen : (l.add title (description.getD "") userId).goals.length = l.goals.length + 1 := List.length_append
    exact ⟨hsame, ⟨_, hlen, hmirror⟩, hids⟩
  | getById n =>
    rw [goalMirror_getById hf h hzero hn n]
    exact ⟨⟨_, rfl, .same _⟩, ⟨l, rfl, h⟩, (List.append_nil _).symm⟩
  | getByUser userId =>
    obtain ⟨gs, gs', hrun, hstorage, hperm⟩ := goalMirror_getByUser hf h userId
    rw [hrun, hstorage]
    exact ⟨⟨_, rfl, .goals hperm⟩, ⟨l, rfl, h⟩, (List.append_nil _).symm⟩

end

/-! ## Sequences of operations -/

theorem goalMirror_empty {w : World} (hdocs : w.goals.docs = []) : GoalMirror .empty ([], w) ([], {}) := by
  refine ⟨goalsKeeps_empty, ?_, rfl, ⟨?_, List.nodup_nil, ?_⟩, ?_⟩
  · rw [hdocs]; rfl
  · rw [hdocs]; exact List.nodup_nil
  · rw [hdocs]; rfl
  · rw [hdocs]; exact fun d hd => absurd hd List.not_mem_nil

/-- **The goal documents simulate the storage in memory.** From no goals on, every sequence of new
goals, lookups and lists, one at a time, is answered alike step by step, as a client sees it who
compares ids only with those that he was given: as long as the object ids are new and not zero, and
the users of new goals fit an `int`. -/
theorem goals_simulated {w : World} {ops : List (GoalOp × Input)} (hdocs : w.goals.docs = [])
    (hinput : ∀ x ∈ ops, ∀ o, x.2.fault o = false) (haccepted : ∀ x ∈ ops, x.1.Accepted)
    (hoids : (createdOids ops).Nodup) (hzero : Oid.zero ∉ createdOids ops)
    (hlen : (createdOids ops).length < 2 ^ 63) :
    List.Forall₂ SameGoalAnswer (Machine.outputs goalsStep ([], w) ops)
      (Machine.outputs GoalOp.onStorage ([], {}) (ops.map Prod.fst)) := by
  -- the object ids of the documents, and of what is still to come, are different
  let R (rest : List (GoalOp × Input)) (s : List String × World) (t : List Int64 × GoalsStorage) : Prop :=
    (∃ l : GoalLog, GoalMirror l s t ∧ l.goals.length + (createdOids rest).length < 2 ^ 63) ∧
      (s.2.goals.docs.map GoalDoc.id ++ createdOids rest).Nodup ∧
      Oid.zero ∉ s.2.goals.docs.map GoalDoc.id ++ createdOids rest ∧ rest <:+ ops
  have hnone : w.goals.docs.map GoalDoc.id = [] := by rw [hdocs]; rfl
  refine Machine.outputs_simulated (R := R) Prod.fst ?_ ops
    ⟨⟨.empty, goalMirror_empty hdocs, ?_⟩, ?_, ?_, List.suffix_rfl⟩
  · rintro ⟨op, i⟩ rest s t ⟨⟨l, hm, hroom⟩, hnew, hz, hrest⟩
    have hmem : (op, i) ∈ ops := hrest.subset List.mem_cons_self
    have hcons : createdOids ((op, i) :: rest) = createdOids [(op, i)] ++ createdOids rest :=
      List.filterMap_append (l := [(op, i)])
    rw [hcons, ← List.append_assoc] at hnew hz
    rw [hcons, List.length_append] at hroom
    have hfault : ∀ o, i.fault o = false := hinput _ hmem
    obtain ⟨hsame, ⟨l', hlen', hmirror⟩, hids⟩ := goalMirror_step hfault hm op (haccepted _ hmem) (by omega)
      (fun h0 => hz (List.mem_append_left _ (List.mem_append_left _ h0))) (List.Nodup.of_append_left hnew)
    refine ⟨hsame, ⟨l', hmirror, by omega⟩, ?_, ?_, (List.suffix_cons _ _).trans hrest⟩
    · rw [hids]; exact hnew
    · rw [hids]; exact hz
  · show 0 + (createdOids ops).length < 2 ^ 63
    omega
  · rw [hnone]; exact hoids
  · rw [hnone]; exact hzero

/-- Two goals of one user, and one of another without a description; then what is asked. -/
def someGoalOps : List (GoalOp × Input) :=
  [(.createGoal 7 "read" (some "a book"), { oid := .named "0000000000000000000000ff" }),
    (.createGoal 7 "write" none, { oid := .named "00000000000000000000000a" }),
    (.createGoal 8 "rest" (some ""), { oid := goalOne }), (.getById 1, {}), (.getById 5, {}), (.getByUser 7, {})]

theorem goals_simulated_some :
    List.Forall₂ SameGoalAnswer (Machine.outputs goalsStep ([], emptyWorld) someGoalOps)
      (Machine.outputs GoalOp.onStorage ([], {}) (someGoalOps.map Prod.fst)) := by
  refine goals_simulated rfl ?_ ?_ (by decide) (by decide) (by decide)
  · simp [someGoalOps]
  · simp [someGoalOps, GoalOp.Accepted]
    decide

end Leadertask
