import Mathlib.Data.Nat.Notation
import Mathlib.Logic.Basic

/-!
# Programs over atomic operations

A `Prog` calls operations that an outside machine executes, one at a time; each
call answers with a value or throws. The same program can be run alone (`run`) or
as one of many threads (`Pool`).

* `run_andThen`: running a sequence is running its parts in order.
* `Uses P p`: every operation the program can call satisfies `P`.
* `MayCall o p`: some answers lead the program to call `o`.
* `Ends R p`: the program's result is decided by the operation called last.
* `Guarded P p`: every operation is allowed by what the program was answered before it.
* `run_of_uses`: what every operation of `P` keeps, a program that only uses `P` keeps.
-/

namespace Atomic

/-- A program that calls operations `Op`. A call answers with a `Ret o` or an
exception, and the rest of the program sees which. -/
inductive Prog (Op : Type) (Ret : Op → Type) (ε α : Type) where
  | ret (a : α)
  | raise (e : ε)
  | call (o : Op) (k : Except ε (Ret o) → Prog Op Ret ε α)

/-- Operations with their outcomes, in order. -/
abbrev Past (Op : Type) (Ret : Op → Type) (ε : Type) := List ((o : Op) × Except ε (Ret o))

variable {Op : Type} {Ret : Op → Type} {ε α β σ : Type}

theorem ok_bind (a : α) (f : α → Except ε β) : Except.ok a >>= f = f a := rfl

/-- A sequence of local computations that succeeds. -/
theorem bind_ok {x : Except ε α} {f : α → Except ε β} {b : β} (h : x >>= f = .ok b) :
    ∃ a, x = .ok a ∧ f a = .ok b := by
  cases x with
  | error e => exact absurd h (by simp [bind, Except.bind])
  | ok a => exact ⟨a, rfl, h⟩

theorem bind_error {x : Except ε α} {f : α → Except ε β} {e : ε} (h : x >>= f = .error e) :
    x = .error e ∨ ∃ a, x = .ok a ∧ f a = .error e := by
  cases x with
  | error e' => exact .inl (congrArg Except.error (Except.error.inj h))
  | ok a => exact .inr ⟨a, rfl, h⟩

/-- A list of local computations that all succeed. -/
theorem mapM_ok {f : α → Except ε β} {g : α → β} {as : List α} (h : ∀ a ∈ as, f a = .ok (g a)) :
    as.mapM f = .ok (as.map g) := by
  induction as with
  | nil => rfl
  | cons a as ih =>
    obtain ⟨ha, has⟩ := List.forall_mem_cons.1 h
    rw [List.mapM_cons, ha, ih has]; rfl

/-- A list of local computations, each of which fails with the one exception `e` or not. -/
theorem mapM_ite {f : α → Except ε β} {p : α → Prop} [DecidablePred p] {g : α → β} {e : ε}
    (h : ∀ a, f a = if p a then .ok (g a) else .error e) (as : List α) :
    as.mapM f = if ∀ a ∈ as, p a then .ok (as.map g) else .error e := by
  induction as with
  | nil => rfl
  | cons a as ih =>
    rw [List.mapM_cons, h a, ih]
    by_cases ha : p a
    · by_cases has : ∀ x ∈ as, p x
      · have hall : ∀ x ∈ a :: as, p x := List.forall_mem_cons.2 ⟨ha, has⟩
        rw [if_pos ha, if_pos has, if_pos hall]; rfl
      · rw [if_pos ha, if_neg has, if_neg fun h => has (List.forall_mem_cons.1 h).2]; rfl
    · rw [if_neg ha, if_neg fun h => ha (List.forall_mem_cons.1 h).1]; rfl

/-- A sequence of local computations none of which throws `e`. -/
theorem bind_ne_error {x : Except ε α} {f : α → Except ε β} {e : ε} (hx : x ≠ .error e)
    (hf : ∀ a, f a ≠ .error e) : x >>= f ≠ .error e := by
  cases x with
  | error e' => simpa [bind, Except.bind] using hx
  | ok a => exact hf a

namespace Prog

/-- Run `p`, then go on with its value. -/
def andThen : Prog Op Ret ε α → (α → Prog Op Ret ε β) → Prog Op Ret ε β
  | .ret a, f => f a
  | .raise e, _ => .raise e
  | .call o k, f => .call o fun r => (k r).andThen f

/-- Run `p`; if it throws, go on with the handler. -/
def catching : Prog Op Ret ε α → (ε → Prog Op Ret ε α) → Prog Op Ret ε α
  | .ret a, _ => .ret a
  | .raise e, h => h e
  | .call o k, h => .call o fun r => (k r).catching h

instance : Monad (Prog Op Ret ε) where
  pure := .ret
  bind := andThen

instance : MonadExceptOf ε (Prog Op Ret ε) where
  throw := .raise
  tryCatch := catching

/-- A local computation that may throw. -/
def ofExcept : Except ε α → Prog Op Ret ε α
  | .ok a => .ret a
  | .error e => .raise e

/-- Call one operation. -/
def perform (o : Op) : Prog Op Ret ε (Ret o) := .call o ofExcept

@[simp] theorem pure_eq (a : α) : (pure a : Prog Op Ret ε α) = .ret a := rfl

@[simp] theorem throw_eq (e : ε) : (throw e : Prog Op Ret ε α) = .raise e := rfl

@[simp] theorem bind_eq (p : Prog Op Ret ε α) (f : α → Prog Op Ret ε β) :
    p >>= f = p.andThen f := rfl

@[simp] theorem tryCatch_eq (p : Prog Op Ret ε α) (h : ε → Prog Op Ret ε α) :
    tryCatch p h = p.catching h := rfl

@[simp] theorem ofExcept_ok (a : α) : (ofExcept (.ok a) : Prog Op Ret ε α) = .ret a := rfl

@[simp] theorem ofExcept_error (e : ε) : (ofExcept (.error e) : Prog Op Ret ε α) = .raise e := rfl

@[simp] theorem ret_andThen (a : α) (f : α → Prog Op Ret ε β) : (ret a).andThen f = f a := rfl

@[simp] theorem raise_andThen (e : ε) (f : α → Prog Op Ret ε β) :
    (raise e).andThen f = .raise e := rfl

@[simp] theorem ret_catching (a : α) (h : ε → Prog Op Ret ε α) : (ret a).catching h = .ret a := rfl

@[simp] theorem raise_catching (e : ε) (h : ε → Prog Op Ret ε α) : (raise e).catching h = h e := rfl

/-! ## Running alone -/

/-- Run the program by itself, each operation executed by `exec`. -/
def run (exec : (o : Op) → σ → Except ε (Ret o) × σ) : Prog Op Ret ε α → σ → Except ε α × σ
  | .ret a, s => (.ok a, s)
  | .raise e, s => (.error e, s)
  | .call o k, s => (k (exec o s).1).run exec (exec o s).2

variable (exec : (o : Op) → σ → Except ε (Ret o) × σ)

@[simp] theorem run_ret (a : α) (s : σ) : (ret a : Prog Op Ret ε α).run exec s = (.ok a, s) := rfl

@[simp] theorem run_raise (e : ε) (s : σ) :
    (raise e : Prog Op Ret ε α).run exec s = (.error e, s) := rfl

@[simp] theorem run_ofExcept (r : Except ε α) (s : σ) :
    (ofExcept r : Prog Op Ret ε α).run exec s = (r, s) := by
  cases r <;> rfl

@[simp] theorem run_perform (o : Op) (s : σ) :
    (perform o : Prog Op Ret ε (Ret o)).run exec s = exec o s := by
  rw [perform, run, run_ofExcept]

@[simp] theorem run_andThen (p : Prog Op Ret ε α) (f : α → Prog Op Ret ε β) (s : σ) :
    (p.andThen f).run exec s =
      match p.run exec s with
      | (.ok a, s') => (f a).run exec s'
      | (.error e, s') => (.error e, s') := by
  induction p generalizing s with
  | ret a => rfl
  | raise e => rfl
  | call o k ih => exact ih _ _

/-- Running a program whose value is then mapped. -/
theorem run_andThen_ret (p : Prog Op Ret ε α) (f : α → β) (s : σ) :
    (p.andThen fun a => .ret (f a)).run exec s = ((p.run exec s).1.map f, (p.run exec s).2) := by
  rw [run_andThen]
  rcases p.run exec s with ⟨e | a, s'⟩ <;> rfl

@[simp] theorem run_catching (p : Prog Op Ret ε α) (h : ε → Prog Op Ret ε α) (s : σ) :
    (p.catching h).run exec s =
      match p.run exec s with
      | (.ok a, s') => (.ok a, s')
      | (.error e, s') => (h e).run exec s' := by
  induction p generalizing s with
  | ret a => rfl
  | raise e => rfl
  | call o k ih => exact ih _ _

/-! ## Which operations a program uses -/

/-- Every operation that the program can call satisfies `P`, whatever the answers. -/
def Uses (P : Op → Prop) : Prog Op Ret ε α → Prop
  | .ret _ => True
  | .raise _ => True
  | .call o k => P o ∧ ∀ r, (k r).Uses P

variable {exec} {P : Op → Prop}

@[simp] theorem uses_ret (a : α) : (ret a : Prog Op Ret ε α).Uses P := trivial

@[simp] theorem uses_raise (e : ε) : (raise e : Prog Op Ret ε α).Uses P := trivial

@[simp] theorem uses_ofExcept (r : Except ε α) : (ofExcept r : Prog Op Ret ε α).Uses P := by
  cases r <;> trivial

@[simp] theorem uses_perform {o : Op} : (perform o : Prog Op Ret ε (Ret o)).Uses P ↔ P o :=
  ⟨fun h => h.1, fun h => ⟨h, fun r => uses_ofExcept r⟩⟩

theorem Uses.mono {P' : Op → Prop} (h : ∀ o, P o → P' o) {p : Prog Op Ret ε α} (hp : p.Uses P) :
    p.Uses P' := by
  induction p with
  | ret a => trivial
  | raise e => trivial
  | call o k ih => exact ⟨h o hp.1, fun r => ih r (hp.2 r)⟩

theorem Uses.andThen {p : Prog Op Ret ε α} {f : α → Prog Op Ret ε β} (hp : p.Uses P)
    (hf : ∀ a, (f a).Uses P) : (p.andThen f).Uses P := by
  induction p with
  | ret a => exact hf a
  | raise e => trivial
  | call o k ih => exact ⟨hp.1, fun r => ih r (hp.2 r)⟩

theorem Uses.catching {p : Prog Op Ret ε α} {h : ε → Prog Op Ret ε α} (hp : p.Uses P)
    (hh : ∀ e, (h e).Uses P) : (p.catching h).Uses P := by
  induction p with
  | ret a => trivial
  | raise e => exact hh e
  | call o k ih => exact ⟨hp.1, fun r => ih r (hp.2 r)⟩

/-- Some answers lead the program to call `o`. -/
def MayCall (o : Op) : Prog Op Ret ε α → Prop
  | .ret _ => False
  | .raise _ => False
  | .call o' k => o = o' ∨ ∃ r, (k r).MayCall o

/-- What every operation of `P` keeps, a program that only uses `P` keeps. -/
theorem run_of_uses (exec : (o : Op) → σ → Except ε (Ret o) × σ) (K : σ → σ → Prop) (hrefl : ∀ s, K s s)
    (htrans : ∀ a b c, K a b → K b c → K a c) (hop : ∀ o, P o → ∀ s, K s (exec o s).2)
    {p : Prog Op Ret ε α} (hp : p.Uses P) (s : σ) : K s (p.run exec s).2 := by
  induction p generalizing s with
  | ret a => exact hrefl s
  | raise e => exact hrefl s
  | call o k ih => exact htrans _ _ _ (hop o hp.1 s) (ih _ (hp.2 _) _)

/-! ## What the last operation decides -/

/-- Whatever the operations answer, the result is related by `R` to the operation called last
and its answer; the second argument is the last one before the program. -/
def Ends (R : Option ((o : Op) × Except ε (Ret o)) → Except ε α → Prop) :
    Prog Op Ret ε α → Option ((o : Op) × Except ε (Ret o)) → Prop
  | .ret a, l => R l (.ok a)
  | .raise e, l => R l (.error e)
  | .call o k, _ => ∀ r, (k r).Ends R (some ⟨o, r⟩)

section

variable {l : Option ((o : Op) × Except ε (Ret o))}
variable {R : Option ((o : Op) × Except ε (Ret o)) → Except ε α → Prop}

theorem ends_of_forall (h : ∀ l r, R l r) (p : Prog Op Ret ε α) : p.Ends R l := by
  induction p generalizing l with
  | ret a => exact h _ _
  | raise e => exact h _ _
  | call o k ih => exact fun r => ih r

theorem ends_ofExcept {r : Except ε α} (h : R l r) : (ofExcept r : Prog Op Ret ε α).Ends R l := by
  cases r <;> exact h

theorem Ends.andThen {p : Prog Op Ret ε β} {f : β → Prog Op Ret ε α}
    (h : p.Ends (fun l r => match r with
      | .ok b => (f b).Ends R l
      | .error e => R l (.error e)) l) : (p.andThen f).Ends R l := by
  induction p generalizing l with
  | ret b => exact h
  | raise e => exact h
  | call o k ih => exact fun r => ih r (h r)

theorem Ends.catching {p : Prog Op Ret ε α} {f : ε → Prog Op Ret ε α}
    (h : p.Ends (fun l r => match r with
      | .ok a => R l (.ok a)
      | .error e => (f e).Ends R l) l) : (p.catching f).Ends R l := by
  induction p generalizing l with
  | ret a => exact h
  | raise e => exact h
  | call o k ih => exact fun r => ih r (h r)

end

/-! ## What was answered before -/

/-- Each operation is allowed by the past, which begins with `past`. -/
def Guarded (P : Past Op Ret ε → Op → Prop) : Past Op Ret ε → Prog Op Ret ε α → Prop
  | _, .ret _ => True
  | _, .raise _ => True
  | past, .call o k => P past o ∧ ∀ r, (k r).Guarded P (past ++ [⟨o, r⟩])

section

variable {P : Past Op Ret ε → Op → Prop} {past : Past Op Ret ε}

theorem guarded_ofExcept (r : Except ε α) : (ofExcept r : Prog Op Ret ε α).Guarded P past := by
  cases r <;> trivial

/-- A sequence whose second program does not look back. -/
theorem Guarded.andThen {p : Prog Op Ret ε β} {f : β → Prog Op Ret ε α} (hp : p.Guarded P past)
    (hf : ∀ b past', (f b).Guarded P past') : (p.andThen f).Guarded P past := by
  induction p generalizing past with
  | ret b => exact hf b past
  | raise e => trivial
  | call o k ih => exact ⟨hp.1, fun r => ih r (hp.2 r)⟩

theorem Guarded.catching {p : Prog Op Ret ε α} {f : ε → Prog Op Ret ε α} (hp : p.Guarded P past)
    (hf : ∀ e past', (f e).Guarded P past') : (p.catching f).Guarded P past := by
  induction p generalizing past with
  | ret a => trivial
  | raise e => exact hf e past
  | call o k ih => exact ⟨hp.1, fun r => ih r (hp.2 r)⟩

theorem guarded_true {p : Prog Op Ret ε α} : p.Guarded (fun _ _ => True) past := by
  induction p generalizing past with
  | ret a => trivial
  | raise e => trivial
  | call o k ih => exact ⟨trivial, fun r => ih r⟩

/-- A program keeps every policy that is weaker than one it keeps. -/
theorem Guarded.mono {Q : Past Op Ret ε → Op → Prop} (hPQ : ∀ past o, P past o → Q past o) {p : Prog Op Ret ε α}
    (hp : p.Guarded P past) : p.Guarded Q past := by
  induction p generalizing past with
  | ret a => trivial
  | raise e => trivial
  | call o k ih => exact ⟨hPQ past o hp.1, fun r => ih r (hp.2 r)⟩

/-- A sequence whose second program looks back at the operation that is its first. -/
theorem guarded_perform {o : Op} {f : Ret o → Prog Op Ret ε α} (h : P past o)
    (hf : ∀ a, (f a).Guarded P (past ++ [⟨o, .ok a⟩])) : ((perform o).andThen f).Guarded P past := by
  refine ⟨h, fun r => ?_⟩
  cases r with
  | ok a => exact hf a
  | error e => trivial

end

end Prog

end Atomic
