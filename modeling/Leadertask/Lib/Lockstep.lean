import Leadertask.Lib.Pool
import Mathlib.Data.List.Forall2

/-!
# Runs in lock-step

Two runs of a pool whose events differ only in what some relation lets differ. If related
operations in related worlds answer so that the programs go on alike, the runs answer alike, one
answer of the one for one answer of the other.

* `Alike`: two programs that call related operations and end alike.
* `run_lockstep`: the runs of alike programs give related answers in the same order.
-/

namespace Atomic

variable {Op : Type} {Ret : Op → Type} {Req ε α β γ σ ι : Type}

namespace Prog

/-- The two programs call related operations `L`, go on alike when the answers are related by `S`,
and return values related by `Q`, or throw the same. -/
inductive Alike (L : Op → Op → Prop) (S : (o o' : Op) → Except ε (Ret o) → Except ε (Ret o') → Prop)
    {α : Type} (Q : α → α → Prop) : Prog Op Ret ε α → Prog Op Ret ε α → Prop
  | ret {a a' : α} (h : Q a a') : Alike L S Q (.ret a) (.ret a')
  | raise (e : ε) : Alike L S Q (.raise e) (.raise e)
  | call {o o' : Op} {k : Except ε (Ret o) → Prog Op Ret ε α} {k' : Except ε (Ret o') → Prog Op Ret ε α}
      (ho : L o o') (hk : ∀ r r', S o o' r r' → Alike L S Q (k r) (k' r')) :
      Alike L S Q (.call o k) (.call o' k')

variable {L : Op → Op → Prop} {S : (o o' : Op) → Except ε (Ret o) → Except ε (Ret o') → Prop}
variable {P : β → β → Prop} {Q : α → α → Prop}

theorem Alike.andThen {p p' : Prog Op Ret ε β} {f f' : β → Prog Op Ret ε α} (hp : p.Alike L S P p')
    (hf : ∀ b b', P b b' → (f b).Alike L S Q (f' b')) : (p.andThen f).Alike L S Q (p'.andThen f') := by
  induction hp with
  | ret h => exact hf _ _ h
  | raise e => exact .raise e
  | call ho _ ih => exact .call ho fun r r' hr => ih r r' hr

theorem Alike.catching {p p' : Prog Op Ret ε α} {f f' : ε → Prog Op Ret ε α} (hp : p.Alike L S Q p')
    (hf : ∀ e, (f e).Alike L S Q (f' e)) : (p.catching f).Alike L S Q (p'.catching f') := by
  induction hp with
  | ret h => exact .ret h
  | raise e => exact hf e
  | call ho _ ih => exact .call ho fun r r' hr => ih r r' hr

theorem Alike.mono {Q' : α → α → Prop} {p p' : Prog Op Ret ε α} (hp : p.Alike L S Q p')
    (hQ : ∀ a a', Q a a' → Q' a a') : p.Alike L S Q' p' := by
  induction hp with
  | ret h => exact .ret (hQ _ _ h)
  | raise e => exact .raise e
  | call ho _ ih => exact .call ho fun r r' hr => ih r r' hr

/-- Answers that are returned or thrown alike. -/
inductive Matches (P : β → β → Prop) : Except ε β → Except ε β → Prop
  | ok {b b' : β} (h : P b b') : Matches P (.ok b) (.ok b')
  | error (e : ε) : Matches P (.error e) (.error e)

theorem Matches.eq {r r' : Except ε β} (h : Matches Eq r r') : r = r' := by
  cases h with
  | ok h => rw [h]
  | error e => rfl

theorem alike_ofExcept {r r' : Except ε α} (h : Matches Q r r') :
    (ofExcept r : Prog Op Ret ε α).Alike L S Q (ofExcept r') := by
  cases h with
  | ok h => exact .ret h
  | error e => exact .raise e

/-- An operation that the relation leaves as it is, with its answers. -/
def Fixed (L : Op → Op → Prop) (S : (o o' : Op) → Except ε (Ret o) → Except ε (Ret o') → Prop) (o : Op) :
    Prop := L o o ∧ ∀ r r', S o o r r' → r = r'

/-- A program that only uses such operations is alike itself. -/
theorem alike_of_uses {p : Prog Op Ret ε α} (hp : p.Uses (Fixed L S)) (hQ : ∀ a, Q a a) : p.Alike L S Q p := by
  induction p with
  | ret a => exact .ret (hQ a)
  | raise e => exact .raise e
  | call o k ih =>
    refine .call hp.1.1 fun r r' hr => ?_
    obtain rfl := hp.1.2 r r' hr
    exact ih r (hp.2 r)

end Prog

/-- The entries of two lists at one place. -/
theorem forall₂_getElem? {γ δ : Type} {R : γ → δ → Prop} {l : List γ} {l' : List δ} (h : List.Forall₂ R l l')
    (n : ℕ) : (l[n]? = none ∧ l'[n]? = none) ∨ ∃ a b, l[n]? = some a ∧ l'[n]? = some b ∧ R a b := by
  induction h generalizing n with
  | nil => exact .inl ⟨rfl, rfl⟩
  | cons hab _ ih =>
    cases n with
    | zero => exact .inr ⟨_, _, rfl, rfl, hab⟩
    | succ n => exact ih n

theorem forall₂_eraseIdx {γ δ : Type} {R : γ → δ → Prop} {l : List γ} {l' : List δ} (h : List.Forall₂ R l l')
    (n : ℕ) : List.Forall₂ R (l.eraseIdx n) (l'.eraseIdx n) := by
  rw [List.eraseIdx_eq_take_drop_succ, List.eraseIdx_eq_take_drop_succ]
  exact List.rel_append (List.forall₂_take n h) (List.forall₂_drop (n + 1) h)

/-- Sorting by what the relation leaves alone. -/
theorem forall₂_mergeSort {γ δ : Type} {R : γ → δ → Prop} {le : γ → γ → Bool} {le' : δ → δ → Bool}
    (hle : ∀ a b c d, R a b → R c d → le a c = le' b d) {l : List γ} {l' : List δ} (h : List.Forall₂ R l l') :
    List.Forall₂ R (l.mergeSort le) (l'.mergeSort le') := by
  obtain ⟨hlen, hR⟩ := List.forall₂_iff_zip.1 h
  -- both sorts are that of the pairs
  have hfst := List.map_mergeSort (f := Prod.fst) (r := fun x y => le x.1 y.1) (s := le) (l := l.zip l')
    fun _ _ _ _ => rfl
  have hsnd := List.map_mergeSort (f := Prod.snd) (r := fun x y => le x.1 y.1) (s := le') (l := l.zip l')
    fun x hx y hy => hle _ _ _ _ (hR hx) (hR hy)
  rw [List.map_fst_zip (Nat.le_of_eq hlen)] at hfst
  rw [List.map_snd_zip (Nat.le_of_eq hlen.symm)] at hsnd
  rw [← hfst, ← hsnd, List.forall₂_map_left_iff, List.forall₂_map_right_iff, List.forall₂_same]
  intro x hx
  exact hR ((List.mergeSort_perm _ _).mem_iff.1 hx)

namespace Pool

/-- Two events: related requests arrive, or the same waiting request executes with related
inputs. -/
inductive EventMatch (K : Req → Req → Prop) (E : ι → ι → Prop) : Event Req ι → Event Req ι → Prop
  | arrive {q q' : Req} (h : K q q') : EventMatch K E (.arrive q) (.arrive q')
  | turn (n : ℕ) {i i' : ι} (h : E i i') : EventMatch K E (.turn n i) (.turn n i')

variable {L : Op → Op → Prop} {S : (o o' : Op) → Except ε (Ret o) → Except ε (Ret o') → Prop}
variable {K : Req → Req → Prop} {Q : Req → α → α → Prop} {E : ι → ι → Prop} {W : σ → σ → Prop}
variable {exec : ι → (o : Op) → σ → Except ε (Ret o) × σ} {serve : Req → Prog Op Ret ε α}
variable {c c' : Pool Op Ret Req ε α σ}

/-- Answers to related requests, given in related worlds; how their values are related is up to the
request. -/
structure AnswerMatch (K : Req → Req → Prop) (Q : Req → α → α → Prop) (W : σ → σ → Prop)
    (a a' : Answer Req ε α σ) : Prop where
  req : K a.req a'.req
  result : Prog.Matches (Q a.req) a.result a'.result
  world : W a.world a'.world

/-- Two requests in flight that have come the same way. -/
def WaitingMatch (L : Op → Op → Prop) (S : (o o' : Op) → Except ε (Ret o) → Except ε (Ret o') → Prop)
    (K : Req → Req → Prop) (Q : Req → α → α → Prop) (x x' : Req × Prog Op Ret ε α) : Prop :=
  K x.1 x'.1 ∧ x.2.Alike L S (Q x.1) x'.2

/-- Two pools that have come the same way. -/
structure Matched (L : Op → Op → Prop) (S : (o o' : Op) → Except ε (Ret o) → Except ε (Ret o') → Prop)
    (K : Req → Req → Prop) (Q : Req → α → α → Prop) (W : σ → σ → Prop) (c c' : Pool Op Ret Req ε α σ) : Prop where
  world : W c.world c'.world
  log : List.Forall₂ (AnswerMatch K Q W) c.log c'.log
  waiting : List.Forall₂ (WaitingMatch L S K Q) c.waiting c'.waiting

theorem start_matched {w w' : σ} (h : W w w') :
    Matched L S K Q W (start w : Pool Op Ret Req ε α σ) (start w') := ⟨h, .nil, .nil⟩

theorem settle_matched {s s' : Shared Req ε α σ} {w w' : σ} {ws ws' : List (Req × Prog Op Ret ε α)} {q q' : Req}
    {p p' : Prog Op Ret ε α} (hw : W w w') (hlog : List.Forall₂ (AnswerMatch K Q W) s.log s'.log)
    (hws : List.Forall₂ (WaitingMatch L S K Q) ws ws') (hq : K q q') (hp : p.Alike L S (Q q) p') :
    Matched L S K Q W (settle s w ws q p) (settle s' w' ws' q' p') := by
  cases hp with
  | ret h => exact ⟨hw, List.rel_append hlog (.cons ⟨hq, .ok h, hw⟩ .nil), hws⟩
  | raise e => exact ⟨hw, List.rel_append hlog (.cons ⟨hq, .error e, hw⟩ .nil), hws⟩
  | call ho hk => exact ⟨hw, hlog, List.rel_append hws (.cons ⟨hq, .call ho hk⟩ .nil)⟩

variable (hexec : ∀ i i' o o' w w', E i i' → L o o' → W w w' →
  S o o' (exec i o w).1 (exec i' o' w').1 ∧ W (exec i o w).2 (exec i' o' w').2)
variable (hserve : ∀ q q', K q q' → (serve q).Alike L S (Q q) (serve q'))
include hexec hserve

theorem step_matched (h : Matched L S K Q W c c') {e e' : Event Req ι} (he : EventMatch K E e e') :
    Matched L S K Q W (c.step exec serve e) (c'.step exec serve e') := by
  obtain ⟨hworld, hlog, hwaiting⟩ := h
  cases he with
  | arrive hq => exact settle_matched hworld hlog hwaiting hq (hserve _ _ hq)
  | @turn n i i' hi =>
    rcases forall₂_getElem? hwaiting n with ⟨hn, hn'⟩ | ⟨⟨q, p⟩, ⟨q', p'⟩, hn, hn', hq, hp⟩
    · simp only [Pool.step, hn, hn']
      exact ⟨hworld, hlog, hwaiting⟩
    · cases hp with
      | ret _ =>
        simp only [Pool.step, hn, hn']
        exact ⟨hworld, hlog, hwaiting⟩
      | raise e =>
        simp only [Pool.step, hn, hn']
        exact ⟨hworld, hlog, hwaiting⟩
      | call ho hk =>
        simp only [Pool.step, hn, hn']
        obtain ⟨hanswer, hafter⟩ := hexec i i' _ _ _ _ hi ho hworld
        exact settle_matched hafter hlog (forall₂_eraseIdx hwaiting n) hq (hk _ _ hanswer)

/-- **In lock-step**: runs whose events match answer alike. -/
theorem run_lockstep (h : Matched L S K Q W c c') {es es' : List (Event Req ι)}
    (hes : List.Forall₂ (EventMatch K E) es es') :
    Matched L S K Q W (c.run exec serve es) (c'.run exec serve es') := by
  induction hes generalizing c c' with
  | nil => exact h
  | cons he _ ih => exact ih (step_matched hexec hserve h he)

end Pool

end Atomic
