import Leadertask.Lib.Pool
import Mathlib.Data.List.Induction

/-!
# Serial runs

A serial run answers requests one at a time, each from the state that the one before left. A
pool interleaves their operations, but where every program keeps its effect for its last
operation, and what it has been answered before holds on, the pool answers as a serial run
does.

* `Prog.Evals`: a program by itself, from its first operation to its result.
* `Serial`: requests answered one after another.
* `Prog.CommitsLast`: only the last operation has an effect or an answer that may pass.
* `Reach.serial`: **a pool of such programs is serial**, in the order of its log.
* `Serial.rule`, `Serial.rule_guarded`: in a serial run of such programs every answer reports one
  operation, and what was answered to the request before it is true at that moment.
-/

namespace Atomic

variable {Op : Type} {Ret : Op → Type} {Req ε α β γ σ τ ι κ : Type}

/-- An answer whose world is looked at through `f`. -/
def Answer.map (f : σ → τ) (a : Answer Req ε α σ) : Answer Req ε α τ := ⟨a.req, a.result, f a.world⟩

/-- What is right of the answers seen through `f`. -/
theorem EachAnswer.of_map {P : List (Answer Req ε α τ) → Answer Req ε α τ → Prop}
    {P' : List (Answer Req ε α σ) → Answer Req ε α σ → Prop} {f : σ → τ} {log : List (Answer Req ε α σ)}
    (h : EachAnswer P (log.map (Answer.map f)))
    (hP : ∀ pre a, P (pre.map (Answer.map f)) (a.map f) → P' pre a) : EachAnswer P' log := by
  rintro pre a post rfl
  exact hP pre a (h _ _ (post.map (Answer.map f)) (by rw [List.map_append, List.map_cons]))

/-- The operations could be answered so in the state `s`. -/
def TrueIn (exec : κ → (o : Op) → τ → Except ε (Ret o) × τ) (input : κ → Prop) (past : Past Op Ret ε) (s : τ) :
    Prop := ∀ a ∈ past, ∃ i, input i ∧ (exec i a.1 s).1 = a.2

theorem trueIn_nil {exec : κ → (o : Op) → τ → Except ε (Ret o) × τ} {input : κ → Prop} {s : τ} :
    TrueIn exec input [] s := fun _ ha => absurd ha List.not_mem_nil

namespace Prog

variable (exec : κ → (o : Op) → τ → Except ε (Ret o) × τ) (input : κ → Prop) (M : τ → τ → Prop)

/-- The program, run by itself from `s`, ends with `r` in `s'`. Each operation has an input of
its own. -/
def Evals : Prog Op Ret ε β → τ → Except ε β → τ → Prop
  | .ret a, s, r, s' => r = .ok a ∧ s' = s
  | .raise e, s, r, s' => r = .error e ∧ s' = s
  | .call o k, s, r, s' => ∃ i, input i ∧ (k (exec i o s).1).Evals (exec i o s).2 r s'

/-- The operation can answer `r` again, without effect, whatever becomes of the state. -/
def Lasting (o : Op) (r : Except ε (Ret o)) (s : τ) : Prop :=
  ∀ s', M s s' → ∃ i, input i ∧ exec i o s' = (r, s')

/-- The program is over, with a result that satisfies `F`. -/
def Over (F : Except ε β → Prop) : Prog Op Ret ε β → Prop
  | .ret a => F (.ok a)
  | .raise e => F (.error e)
  | .call _ _ => False

/-- Each operation is the last one, and then `R` relates it and its answer to the result, or it
has no effect and a lasting answer. Without a last one in this sense the result satisfies `C`. -/
def Commits (R : (o : Op) → Except ε (Ret o) → Except ε β → Prop) (C : Except ε β → Prop) :
    Prog Op Ret ε β → Prop
  | .ret a => C (.ok a)
  | .raise e => C (.error e)
  | .call o k => ∀ i s, input i → (k (exec i o s).1).Over (R o (exec i o s).1) ∨
      (exec i o s).2 = s ∧ Lasting exec input M o (exec i o s).1 s ∧ (k (exec i o s).1).Commits R C

/-- Only the last operation has an effect or an answer that may pass. -/
def CommitsLast (p : Prog Op Ret ε β) : Prop :=
  p.Commits exec input M (fun _ _ _ => True) fun _ => True

variable {exec input M} {R : (o : Op) → Except ε (Ret o) → Except ε β → Prop} {C : Except ε β → Prop}

theorem Over.mono {F F' : Except ε β → Prop} (hF : ∀ r, F r → F' r) {p : Prog Op Ret ε β}
    (h : p.Over F) : p.Over F' := by
  cases p with
  | ret a => exact hF _ h
  | raise e => exact hF _ h
  | call o k => exact h

theorem Over.andThen {F : Except ε γ → Prop} {p : Prog Op Ret ε β} {f : β → Prog Op Ret ε γ}
    (h : p.Over fun r => match r with
      | .ok b => (f b).Over F
      | .error e => F (.error e)) : (p.andThen f).Over F := by
  cases p with
  | ret b => exact h
  | raise e => exact h
  | call o k => exact h

theorem Over.catching {F : Except ε β → Prop} {p : Prog Op Ret ε β} {f : ε → Prog Op Ret ε β}
    (h : p.Over fun r => match r with
      | .ok b => F (.ok b)
      | .error e => (f e).Over F) : (p.catching f).Over F := by
  cases p with
  | ret b => exact h
  | raise e => exact h
  | call o k => exact h

theorem over_ofExcept {F : Except ε β → Prop} {r : Except ε β} (h : F r) :
    (ofExcept r : Prog Op Ret ε β).Over F := by
  cases r <;> exact h

theorem Commits.mono {R' : (o : Op) → Except ε (Ret o) → Except ε β → Prop} {C' : Except ε β → Prop}
    (hR : ∀ o x r, R o x r → R' o x r) (hC : ∀ r, C r → C' r) {p : Prog Op Ret ε β}
    (h : p.Commits exec input M R C) : p.Commits exec input M R' C' := by
  induction p with
  | ret a => exact hC _ h
  | raise e => exact hC _ h
  | call o k ih =>
    exact fun i s hi => (h i s hi).imp (Over.mono (hR _ _)) (And.imp_right (And.imp_right (ih _)))

theorem Commits.commitsLast {p : Prog Op Ret ε β} (h : p.Commits exec input M R C) :
    p.CommitsLast exec input M := by
  induction p with
  | ret a => trivial
  | raise e => trivial
  | call o k ih =>
    exact fun i s hi => (h i s hi).imp (Over.mono fun _ _ => trivial) (And.imp_right (And.imp_right (ih _)))

theorem Commits.andThen {R : (o : Op) → Except ε (Ret o) → Except ε γ → Prop} {C : Except ε γ → Prop}
    {p : Prog Op Ret ε β} {f : β → Prog Op Ret ε γ}
    (h : p.Commits exec input M
      (fun o x r => match r with
        | .ok b => (f b).Over (R o x)
        | .error e => R o x (.error e))
      fun r => match r with
        | .ok b => (f b).Commits exec input M R C
        | .error e => C (.error e)) : (p.andThen f).Commits exec input M R C := by
  induction p with
  | ret b => exact h
  | raise e => exact h
  | call o k ih => exact fun i s hi => (h i s hi).imp Over.andThen (And.imp_right (And.imp_right (ih _)))

theorem Commits.catching {p : Prog Op Ret ε β} {f : ε → Prog Op Ret ε β}
    (h : p.Commits exec input M
      (fun o x r => match r with
        | .ok b => R o x (.ok b)
        | .error e => (f e).Over (R o x))
      fun r => match r with
        | .ok b => C (.ok b)
        | .error e => (f e).Commits exec input M R C) : (p.catching f).Commits exec input M R C := by
  induction p with
  | ret b => exact h
  | raise e => exact h
  | call o k ih => exact fun i s hi => (h i s hi).imp Over.catching (And.imp_right (And.imp_right (ih _)))

theorem commits_ofExcept {r : Except ε β} (h : C r) :
    (ofExcept r : Prog Op Ret ε β).Commits exec input M R C := by
  cases r <;> exact h

/-- A last operation. -/
theorem commits_call {o : Op} {k : Except ε (Ret o) → Prog Op Ret ε β} (h : ∀ x, (k x).Over (R o x)) :
    (Prog.call o k).Commits exec input M R C := fun _ _ _ => .inl (h _)

/-- By itself a program that commits last is its last operation, after a past that is true in the same
state, or nothing. -/
theorem Commits.last_guarded {P : Past Op Ret ε → Op → Prop} {past : Past Op Ret ε} {p : Prog Op Ret ε β}
    {s s' : τ} {r : Except ε β} (hp : p.Commits exec input M R C) (hg : p.Guarded P past)
    (hpast : TrueIn exec input past s) (h : p.Evals exec input s r s') :
    (C r ∧ s' = s) ∨ ∃ i o past', input i ∧ P past' o ∧ TrueIn exec input past' s ∧
      R o (exec i o s).1 r ∧ s' = (exec i o s).2 := by
  induction p generalizing past with
  | ret a =>
    obtain ⟨rfl, rfl⟩ := h
    exact .inl ⟨hp, rfl⟩
  | raise e =>
    obtain ⟨rfl, rfl⟩ := h
    exact .inl ⟨hp, rfl⟩
  | call o k ih =>
    obtain ⟨i, hi, h⟩ := h
    rcases hp i s hi with hover | ⟨hs, -, hrest⟩
    · right
      refine ⟨i, o, past, hi, hg.1, hpast, ?_⟩
      cases hk : k (exec i o s).1 with
      | ret a => rw [hk] at h hover; obtain ⟨rfl, rfl⟩ := h; exact ⟨hover, rfl⟩
      | raise e => rw [hk] at h hover; obtain ⟨rfl, rfl⟩ := h; exact ⟨hover, rfl⟩
      | call o' k' => rw [hk] at hover; exact hover.elim
    · -- the state has not changed, so the operation joins a past that is true in it
      rw [hs] at h
      refine ih _ hrest (hg.2 _) (List.forall_mem_append.2 ⟨hpast, List.forall_mem_singleton.2 ?_⟩) h
      exact ⟨i, hi, rfl⟩

/-- **By itself such a program is its last operation**, executed in the state from which it
started, or nothing. -/
theorem Commits.last {p : Prog Op Ret ε β} {s s' : τ} {r : Except ε β}
    (hp : p.Commits exec input M R C) (h : p.Evals exec input s r s') :
    (C r ∧ s' = s) ∨ ∃ i o, input i ∧ R o (exec i o s).1 r ∧ s' = (exec i o s).2 :=
  (hp.last_guarded guarded_true trueIn_nil h).imp_right fun ⟨i, o, _, hi, _, _, hR⟩ => ⟨i, o, hi, hR⟩

end Prog

/-! ## Serial runs -/

section

variable (exec : κ → (o : Op) → τ → Except ε (Ret o) × τ) (input : κ → Prop)
variable (serve : Req → Prog Op Ret ε α) (admitted : List (Answer Req ε α τ) → Req → Prop)

/-- The answers, and the state after them, of a run that serves one request after another.
Each is admitted in view of the answers before it. -/
inductive Serial (w₀ : τ) : List (Answer Req ε α τ) → τ → Prop
  | nil : Serial w₀ [] w₀
  | snoc {log : List (Answer Req ε α τ)} {w w' : τ} {q : Req} {r : Except ε α}
      (h : Serial w₀ log w) (hq : admitted log q) (he : (serve q).Evals exec input w r w') :
      Serial w₀ (log ++ [⟨q, r, w'⟩]) w'

end

section

variable {exec : κ → (o : Op) → τ → Except ε (Ret o) × τ} {input : κ → Prop} {M : τ → τ → Prop}
variable {serve : Req → Prog Op Ret ε α} {admitted : List (Answer Req ε α τ) → Req → Prop}
variable {R : Req → (o : Op) → Except ε (Ret o) → Except ε α → Prop} {C : Req → Except ε α → Prop}
variable {P : Req → Past Op Ret ε → Op → Prop} {I : List (Answer Req ε α τ) → τ → Prop}

/-- **The rule for serial runs** of guarded programs that commit last: an answer comes with nothing
done, or right after the one operation that it reports, which a past allows that is true in the state
before it. -/
theorem Serial.rule_guarded (hserve : ∀ q, (serve q).Commits exec input M (R q) (C q))
    (hguard : ∀ q, (serve q).Guarded (P q) []) {w₀ : τ} (h₀ : I [] w₀)
    (hnone : ∀ log w q r, I log w → admitted log q → C q r → I (log ++ [⟨q, r, w⟩]) w)
    (hlast : ∀ log w q r i o past, I log w → admitted log q → input i → P q past o → TrueIn exec input past w →
      R q o (exec i o w).1 r → I (log ++ [⟨q, r, (exec i o w).2⟩]) (exec i o w).2)
    {log : List (Answer Req ε α τ)} {w : τ} (h : Serial exec input serve admitted w₀ log w) : I log w := by
  induction h with
  | nil => exact h₀
  | snoc _ hq he ih =>
    rcases (hserve _).last_guarded (hguard _) trueIn_nil he with ⟨hC, rfl⟩ | ⟨i, o, past, hi, hP, hpast, hR, rfl⟩
    · exact hnone _ _ _ _ ih hq hC
    · exact hlast _ _ _ _ i o past ih hq hi hP hpast hR

/-- The rule for programs of which no policy is known. -/
theorem Serial.rule (hserve : ∀ q, (serve q).Commits exec input M (R q) (C q)) {w₀ : τ} (h₀ : I [] w₀)
    (hnone : ∀ log w q r, I log w → admitted log q → C q r → I (log ++ [⟨q, r, w⟩]) w)
    (hlast : ∀ log w q r i o, I log w → admitted log q → input i → R q o (exec i o w).1 r →
      I (log ++ [⟨q, r, (exec i o w).2⟩]) (exec i o w).2)
    {log : List (Answer Req ε α τ)} {w : τ} (h : Serial exec input serve admitted w₀ log w) : I log w :=
  Serial.rule_guarded hserve (fun _ => Prog.guarded_true) h₀ hnone
    (fun log w q r i o _ hI hq hi _ _ hR => hlast log w q r i o hI hq hi hR) h

end

namespace Prog

variable {exec : κ → (o : Op) → τ → Except ε (Ret o) × τ} {input : κ → Prop} {M : τ → τ → Prop}
variable {whole p : Prog Op Ret ε β} {t t' : τ}

/-- `p` is what is left of `whole` after a step from `t` to `t'`. If it is over, `whole` by
itself could have made this step; else nothing has happened, and whatever `p` may still end
with, `whole` may end with. -/
def Resumes (exec : κ → (o : Op) → τ → Except ε (Ret o) × τ) (input : κ → Prop) (M : τ → τ → Prop)
    (whole p : Prog Op Ret ε β) (t t' : τ) : Prop :=
  match p with
  | .ret a => whole.Evals exec input t (.ok a) t'
  | .raise e => whole.Evals exec input t (.error e) t'
  | .call o k => t' = t ∧ (Prog.call o k).CommitsLast exec input M ∧
      ∀ s r s', M t s → (Prog.call o k).Evals exec input s r s' → whole.Evals exec input s r s'

theorem resumes_of_same (hM : M t t) (hlast : p.CommitsLast exec input M)
    (hback : ∀ s r s', M t s → p.Evals exec input s r s' → whole.Evals exec input s r s') :
    Resumes exec input M whole p t t := by
  cases p with
  | ret a => exact hback _ _ _ hM ⟨rfl, rfl⟩
  | raise e => exact hback _ _ _ hM ⟨rfl, rfl⟩
  | call o k => exact ⟨rfl, hlast, hback⟩

theorem resumes_of_over (hover : p.Over fun _ => True)
    (hend : ∀ r, p.Evals exec input t' r t' → whole.Evals exec input t r t') :
    Resumes exec input M whole p t t' := by
  cases p with
  | ret a => exact hend _ ⟨rfl, rfl⟩
  | raise e => exact hend _ ⟨rfl, rfl⟩
  | call o k => exact hover.elim

end Prog

namespace Pool

variable {exec : ι → (o : Op) → σ → Except ε (Ret o) × σ}
variable {exec' : κ → (o : Op) → τ → Except ε (Ret o) × τ} {input : κ → Prop}
variable {serve : Req → Prog Op Ret ε α} {admitted : List (Answer Req ε α τ) → Req → Prop}
variable {allowed : Shared Req ε α σ → Event Req ι → Prop} {M : τ → τ → Prop} {abs : σ → τ}

/-- The answers as the machine on `τ` sees them. -/
def seenLog (abs : σ → τ) (s : Shared Req ε α σ) : List (Answer Req ε α τ) := s.log.map (Answer.map abs)

/-- The answers so far are those of a serial run, and the waiting programs can be resumed. -/
structure SerialSoFar (exec' : κ → (o : Op) → τ → Except ε (Ret o) × τ) (input : κ → Prop)
    (serve : Req → Prog Op Ret ε α) (admitted : List (Answer Req ε α τ) → Req → Prop)
    (M : τ → τ → Prop) (abs : σ → τ) (w₀ : σ) (s : Shared Req ε α σ)
    (ws : List (Req × Prog Op Ret ε α)) : Prop where
  serial : Serial exec' input serve admitted (abs w₀) (seenLog abs s) (abs s.world)
  waiting : ∀ qp ∈ ws, admitted (seenLog abs s) qp.1 ∧ qp.2.CommitsLast exec' input M ∧
    ∀ t r t', M (abs s.world) t → qp.2.Evals exec' input t r t' → (serve qp.1).Evals exec' input t r t'

variable {w₀ w : σ} {s : Shared Req ε α σ} {ws : List (Req × Prog Op Ret ε α)} {q : Req}

theorem SerialSoFar.answer (htrans : ∀ a b c, M a b → M b c → M a c)
    (hgrow : ∀ log a q, admitted log q → admitted (log ++ [a]) q)
    (h : SerialSoFar exec' input serve admitted M abs w₀ s ws) (hq : admitted (seenLog abs s) q)
    (hM : M (abs s.world) (abs w)) {r : Except ε α}
    (he : (serve q).Evals exec' input (abs s.world) r (abs w)) :
    SerialSoFar exec' input serve admitted M abs w₀ (s.answer q r w) ws := by
  have hlog : seenLog abs (s.answer q r w) = seenLog abs s ++ [⟨q, r, abs w⟩] := by
    rw [seenLog, Shared.answer_log, List.map_append]; rfl
  refine ⟨by rw [hlog]; exact h.serial.snoc hq he, fun qp hmem => ?_⟩
  obtain ⟨h1, h2, h3⟩ := h.waiting qp hmem
  rw [hlog]
  exact ⟨hgrow _ _ _ h1, h2, fun t r t' ht => h3 t r t' (htrans _ _ _ hM ht)⟩

theorem SerialSoFar.settle (htrans : ∀ a b c, M a b → M b c → M a c)
    (hgrow : ∀ log a q, admitted log q → admitted (log ++ [a]) q) {p : Prog Op Ret ε α}
    (h : SerialSoFar exec' input serve admitted M abs w₀ s ws) (hq : admitted (seenLog abs s) q)
    (hM : M (abs s.world) (abs w))
    (hp : Prog.Resumes exec' input M (serve q) p (abs s.world) (abs w)) :
    SerialSoFar exec' input serve admitted M abs w₀ (Pool.settle s w ws q p).toShared
      (Pool.settle s w ws q p).waiting := by
  cases p with
  | ret a => exact h.answer htrans hgrow hq hM hp
  | raise e => exact h.answer htrans hgrow hq hM hp
  | call o k =>
    obtain ⟨hs, hlast, hback⟩ := hp
    refine ⟨?_, fun qp hmem => ?_⟩
    · show Serial _ _ _ _ _ _ (abs w)
      rw [hs]; exact h.serial
    · show _ ∧ _ ∧ ∀ t r t', M (abs w) t → _
      rw [hs]
      rcases List.mem_append.1 hmem with hmem | hmem
      · exact h.waiting qp hmem
      · rw [List.mem_singleton] at hmem; subst hmem
        exact ⟨hq, hlast, hback⟩

/-- **A pool of programs that commit last is serial.** The operations are simulated by those of
a machine on `τ`, and the requests are finished in the order of a serial run of that machine. -/
theorem Reach.serial (hrefl : ∀ t, M t t) (htrans : ∀ a b c, M a b → M b c → M a c)
    (hmoves : ∀ i o t, input i → M t (exec' i o t).2)
    (hturn : ∀ (s : Shared Req ε α σ) n i, allowed s (.turn n i) → ∀ o, ∃ j, input j ∧
      exec' j o (abs s.world) = ((exec i o s.world).1, abs (exec i o s.world).2))
    (harrive : ∀ (s : Shared Req ε α σ) q, allowed s (.arrive q) → admitted (seenLog abs s) q)
    (hgrow : ∀ log a q, admitted log q → admitted (log ++ [a]) q)
    (hserve : ∀ q, (serve q).CommitsLast exec' input M) {w₀ : σ} {c : Pool Op Ret Req ε α σ}
    (h : Reach exec serve allowed (Pool.start w₀) c) :
    Serial exec' input serve admitted (abs w₀) (seenLog abs c.toShared) (abs c.world) := by
  suffices hso : SerialSoFar exec' input serve admitted M abs w₀ c.toShared c.waiting from hso.serial
  induction h with
  | start => exact ⟨.nil, fun qp h => absurd h List.not_mem_nil⟩
  | @step c _ e he ih =>
    cases e with
    | arrive q =>
      exact ih.settle htrans hgrow (harrive _ q he) (hrefl _)
        (Prog.resumes_of_same (hrefl _) (hserve q) fun t r t' _ h => h)
    | turn n i =>
      simp only [Pool.step]
      split
      · rename_i q o k hn
        have hmem : (q, Prog.call o k) ∈ c.waiting := List.mem_of_getElem? hn
        obtain ⟨hq, hlast, hback⟩ := ih.waiting _ hmem
        obtain ⟨j, hj, hexec⟩ := hturn _ n i he o
        have hM : M (abs c.world) (abs (exec i o c.world).2) := by
          have := hmoves j o (abs c.world) hj
          rwa [hexec] at this
        have hrest : SerialSoFar exec' input serve admitted M abs w₀ c.toShared (c.waiting.eraseIdx n) :=
          ⟨ih.serial, fun qp h => ih.waiting qp (List.mem_of_mem_eraseIdx h)⟩
        refine hrest.settle htrans hgrow hq hM ?_
        -- what the program may end with after this operation, the whole one may
        have hstep : ∀ {j' t r t'}, input j' → M (abs c.world) t →
            (exec' j' o t).1 = (exec i o c.world).1 →
            (k (exec i o c.world).1).Evals exec' input (exec' j' o t).2 r t' →
            (serve q).Evals exec' input t r t' := by
          intro j' t r t' hj' ht he' hr
          exact hback t r t' ht ⟨j', hj', by rw [he']; exact hr⟩
        have hcall := hlast j (abs c.world) hj
        rw [hexec] at hcall
        rcases hcall with hover | ⟨hs, hlasting, hcommits⟩
        · exact Prog.resumes_of_over hover fun r hr =>
            hstep hj (hrefl _) (by rw [hexec]) (by rw [hexec]; exact hr)
        · have hsame : abs (exec i o c.world).2 = abs c.world := hs
          rw [hsame]
          refine Prog.resumes_of_same (hrefl _) hcommits fun t r t' ht hr => ?_
          -- a later state gives the same answer again
          obtain ⟨j', hj', hexec'⟩ := hlasting t ht
          exact hstep hj' ht (by rw [hexec']) (by rw [hexec']; exact hr)
      · exact ih

/-- A run is a list of events. -/
theorem Reach.foldl {c₀ : Pool Op Ret Req ε α σ} (es : List (Event Req ι)) (hall : ∀ e ∈ es, ∀ s, allowed s e) :
    Reach exec serve allowed c₀ (es.foldl (Pool.step exec serve) c₀) := by
  induction es using List.reverseRecOn with
  | nil => exact .start
  | append_singleton es e ih =>
    rw [List.foldl_append]
    exact (ih fun e' he' => hall e' (List.mem_append_left _ he')).step e
      (hall e (List.mem_append_right _ (List.mem_singleton_self _)) _)

end Pool

end Atomic
