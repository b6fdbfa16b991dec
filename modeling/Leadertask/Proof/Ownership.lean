import Leadertask.Proof.Frame

/-!
# Who owns a goal

The list of a user's goals compares the 64-bit `userId` inside Mongo; the owner check of
tasks-create and tasks-list compares a `userId` that went through the `int` of `Goal`.

* `fitsInt_iff`: the ids that survive the `int` are those from `-2 ^ 31` to `2 ^ 31 - 1`.
* `ownership_agrees_iff`: for which pairs of users both paths name the creator.
-/

namespace Leadertask

open Atomic

variable {i : Input} {w : World}

theorem fitsInt_iff {n : Int64} : FitsInt n ↔ -2 ^ 31 ≤ n.toInt ∧ n.toInt < 2 ^ 31 := by
  unfold FitsInt
  rw [← Int64.toInt_inj, Int32.toInt_toInt64, Int64.toInt_toInt32, Int.bmod_def]
  omega

/-- The document that a goal id names. -/
theorem World.findGoal_doc {doc : GoalDoc} (h : doc ∈ w.goals.docs)
    (hf : i.fault (.mongo (.findOne doc.id)) = false) :
    w.findGoal i doc.id.toString = .ok (some doc) := by
  rw [World.findGoal_ok (Oid.ofString_toString _) hf, Rows.find_of_mem w.goals.idKey h]

/-- The goals that a user's list shows. -/
theorem GoalsRepository.getByUser_run {v : UserId} (hf : i.fault (.mongo (.find v)) = false) :
    (GoalsRepository.getByUser v).run (World.exec i) w =
      (.ok (((w.goals.docs.filter (·.userId = v)).mergeSort fun a b => b.id.le a.id).map
        GoalsRepository.readGoal), w) := by
  simp only [GoalsRepository.getByUser, mongo, Prog.bind_eq, Prog.run_andThen, Prog.run_perform,
    World.exec, hf, Bool.false_eq_true, if_false, GoalsCollection.exec]
  rfl

/-- Goal `g` is in the list of `v`. -/
def ListedFor (i : Input) (w : World) (g : String) (v : UserId) : Prop :=
  ∃ gs, ((GoalsRepository.getByUser v).run (World.exec i) w).1 = .ok gs ∧ g ∈ gs.map Goal.id

/-- The owner check of tasks-create and tasks-list lets `v` through to goal `g`. -/
def LetThrough (i : Input) (w : World) (g : String) (v : UserId) : Prop :=
  ∃ goal, ((GoalsRepository.getById g).run (World.exec i) w).1 = .ok (some goal) ∧
    optionalNe goal.userId v = false

theorem listedFor_iff {doc : GoalDoc} (h : doc ∈ w.goals.docs) {v : UserId}
    (hf : i.fault (.mongo (.find v)) = false) :
    ListedFor i w doc.id.toString v ↔ v = doc.userId := by
  have hperm := List.mergeSort_perm (w.goals.docs.filter (·.userId = v)) fun a b => b.id.le a.id
  unfold ListedFor
  rw [GoalsRepository.getByUser_run hf]
  constructor
  · rintro ⟨gs, hgs, hg⟩
    obtain rfl := Except.ok.inj hgs
    rw [List.map_map, List.mem_map] at hg
    obtain ⟨d, hd, hid⟩ := hg
    obtain ⟨hd, hv⟩ := List.mem_filter.1 (hperm.mem_iff.1 hd)
    obtain rfl := Rows.eq_of_key w.goals.idKey hd h (Oid.toString_injective hid)
    exact (of_decide_eq_true hv).symm
  · rintro rfl
    refine ⟨_, rfl, ?_⟩
    rw [List.map_map]
    exact List.mem_map.2 ⟨doc, hperm.mem_iff.2 (List.mem_filter.2 ⟨h, by simp⟩), rfl⟩

theorem letThrough_iff {doc : GoalDoc} (h : doc ∈ w.goals.docs) {v : UserId}
    (hf : i.fault (.mongo (.findOne doc.id)) = false) :
    LetThrough i w doc.id.toString v ↔ doc.userId.toInt32.toInt64 = v := by
  unfold LetThrough
  rw [GoalsRepository.getById_run, World.findGoal_doc h hf]
  constructor
  · rintro ⟨goal, hg, hv⟩
    obtain rfl := Option.some.inj (Except.ok.inj hg)
    by_contra hne
    rw [optionalNe_readGoal.2 hne] at hv
    exact absurd hv (by decide)
  · intro hv
    refine ⟨_, rfl, ?_⟩
    rw [← Bool.not_eq_true, optionalNe_readGoal]
    exact fun hne => hne hv

/-- Both paths name `u` as the owner of goal `g`, as far as user `v` goes. -/
def OwnershipAgrees (i : Input) (w : World) (g : String) (u v : UserId) : Prop :=
  (ListedFor i w g v ↔ v = u) ∧ (LetThrough i w g v ↔ v = u)

/-- **Where the two ownership paths agree.** For every goal created by `u`, in every later
state, both paths agree on user `v` if and only if `u` fits an `int`, or `v` is neither `u`
nor what an `int` makes of it. -/
theorem ownership_agrees_iff (u v : UserId) (title : String) (description : Option String)
    (i₀ i : Input) (w₀ w₁ w : World) (g : String) (r : CreateGoalResponseBody)
    (hcreate : (GoalsRepository.createGoal u title description).run (World.exec i₀) w₀ = (.ok r, w₁))
    (hg : r.id = some g) (hlater : ∀ doc ∈ w₁.goals.docs, doc ∈ w.goals.docs)
    (hf : ∀ o, i.fault o = false) :
    OwnershipAgrees i w g u v ↔ FitsInt u ∨ (v ≠ u ∧ v ≠ u.toInt32.toInt64) := by
  obtain ⟨doc, hdoc, rfl, rfl⟩ : ∃ doc ∈ w.goals.docs, doc.id.toString = g ∧ doc.userId = u := by
    rcases GoalsRepository.createGoal_run (i := i₀) (w := w₀) u title description with
      ⟨goals', hins, hrun⟩ | ⟨e, hrun⟩
    · rw [hrun] at hcreate
      obtain ⟨hr, rfl⟩ := Prod.mk.inj hcreate
      obtain rfl := Except.ok.inj hr
      refine ⟨_, hlater ⟨i₀.oid, title, u, description⟩ ?_, Option.some.inj hg, rfl⟩
      rw [(GoalsCollection.insertOne_ok hins).1]
      exact List.mem_append_right _ List.mem_cons_self
    · rw [hrun] at hcreate
      simp at hcreate
  unfold OwnershipAgrees
  rw [listedFor_iff hdoc (hf _), letThrough_iff hdoc (hf _)]
  unfold FitsInt
  by_cases hfit : doc.userId.toInt32.toInt64 = doc.userId
  · rw [hfit]
    exact ⟨fun _ => .inl rfl, fun _ => ⟨Iff.rfl, eq_comm⟩⟩
  · -- the list knows the creator, the check the narrowed id, and these are two users
    constructor
    · rintro ⟨-, h⟩
      right
      constructor
      · intro hv
        exact hfit ((h.2 hv).trans hv)
      · intro hv
        exact hfit (hv.symm.trans (h.1 hv.symm))
    · rintro (h | ⟨h1, h2⟩)
      · exact absurd h hfit
      · refine ⟨Iff.rfl, ?_, ?_⟩
        · intro h
          exact absurd h.symm h2
        · intro h
          exact absurd h h1

/-- A user whose id does not fit an `int`. -/
def bigUser : UserId := 4294967297

/-- The world after that user created goal `000000000000000000000001`. -/
def bigUserWorld : World :=
  ((GoalsRepository.createGoal bigUser "books" none).run (World.exec { oid := goalOne })
    { doneWorld with goals := .empty }).2

/-- The goal passes for one of user 1. -/
theorem ownership_disagrees_bigUser :
    ¬ OwnershipAgrees {} bigUserWorld "000000000000000000000001" bigUser 1 := by
  rintro ⟨-, h⟩
  have hlet : LetThrough {} bigUserWorld "000000000000000000000001" 1 :=
    ⟨GoalsRepository.readGoal ⟨goalOne, "books", bigUser, none⟩, by decide, by decide⟩
  exact absurd (h.1 hlet) (by decide)

theorem ownership_agrees_iff_bigUser :
    OwnershipAgrees {} bigUserWorld "000000000000000000000001" bigUser 2 ↔
      FitsInt bigUser ∨ (2 ≠ bigUser ∧ (2 : UserId) ≠ bigUser.toInt32.toInt64) :=
  ownership_agrees_iff bigUser 2 "books" none { oid := goalOne } {}
    { doneWorld with goals := .empty } bigUserWorld bigUserWorld "000000000000000000000001"
    ⟨some "000000000000000000000001", some "books", some "", some 1⟩
    (Prod.ext (by decide) rfl) (by decide) (fun _ h => h) (fun _ => rfl)

end Leadertask
