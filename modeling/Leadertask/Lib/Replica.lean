import Mathlib.Data.List.Infix
import Mathlib.Data.Nat.Notation

/-!
# A log and its replicas

One host, the master, writes a log of records, and its state is their replay. Each replica
replays the same log at its own pace, so what it holds is the replay of a prefix.

* `replay_rec`: what every record keeps, a replay keeps.
* `seen_rec`: what held on the master, as far as the later records keep it, holds on
  every host that has come as far.
-/

/-- A log with the replicas that follow it. -/
structure Replicated (ρ σ : Type) where
  init : σ
  log : List ρ
  /-- How many records each replica has replayed. -/
  replicas : List ℕ
  behind : ∀ k ∈ replicas, k ≤ log.length

namespace Replicated

variable {ρ σ : Type} (apply : ρ → σ → σ)

/-- The state after the records of a log. -/
def replay (s : σ) (log : List ρ) : σ := log.foldl (fun s r => apply r s) s

theorem replay_append (s : σ) (l l' : List ρ) :
    replay apply s (l ++ l') = replay apply (replay apply s l) l' := List.foldl_append

/-- Induction over the records replayed, of which `P` may speak. -/
theorem replay_rec {P : List ρ → σ → Prop} {s : σ} (h₀ : P [] s)
    (h : ∀ l r s, P l s → P (l ++ [r]) (apply r s)) (l : List ρ) : P l (replay apply s l) := by
  induction l using List.reverseRecOn with
  | nil => exact h₀
  | append_singleton l r ih =>
    rw [replay_append]
    exact h l r _ ih

variable (c : Replicated ρ σ)

def master : σ := replay apply c.init c.log

/-- The master writes a record. -/
def write (r : ρ) : Replicated ρ σ where
  init := c.init
  log := c.log ++ [r]
  replicas := c.replicas
  behind := fun k hk => by rw [List.length_append]; exact Nat.le_add_right_of_le (c.behind k hk)

/-- Replica number `j` replays its next record, if there is one. -/
def advance (j : ℕ) : Replicated ρ σ where
  init := c.init
  log := c.log
  replicas := c.replicas.modify j fun k => min (k + 1) c.log.length
  behind := fun k hk => by
    obtain ⟨n, hn, rfl⟩ := List.mem_iff_getElem.1 hk
    rw [List.getElem_modify]
    split
    · exact Nat.min_le_right _ _
    · exact c.behind _ (List.getElem_mem _)

/-- How far the host is that serves a read: replica number `j`, counted round, or the master
where there is no replica. -/
def position (j : ℕ) : ℕ := c.replicas[j % c.replicas.length]?.getD c.log.length

/-- The state that this host holds. -/
def seen (j : ℕ) : σ := replay apply c.init (c.log.take (c.position j))

variable {apply} {c} {c' c'' : Replicated ρ σ}

theorem master_write (r : ρ) : (c.write r).master apply = apply r (c.master apply) :=
  replay_append _ _ _ _

/-- Without replicas the master serves every read. -/
theorem seen_noReplica (h : c.replicas = []) (j : ℕ) : c.seen apply j = c.master apply := by
  have hpos : c.position j = c.log.length := by simp [position, h]
  rw [seen, hpos, List.take_length, master]

/-- `c'` is what the master and the replicas may have made of `c`. -/
structure Extends (c c' : Replicated ρ σ) : Prop where
  init : c'.init = c.init
  log : c.log <+: c'.log

theorem Extends.refl (c : Replicated ρ σ) : c.Extends c := ⟨rfl, List.prefix_refl _⟩

theorem Extends.trans (h : c.Extends c') (h' : c'.Extends c'') : c.Extends c'' :=
  ⟨h'.init.trans h.init, h.log.trans h'.log⟩

theorem extends_write (r : ρ) : c.Extends (c.write r) := ⟨rfl, List.prefix_append _ _⟩

/-- Replicas that replay move neither the log nor the number of hosts. -/
theorem foldl_advance (c : Replicated ρ σ) (js : List ℕ) :
    (js.foldl advance c).init = c.init ∧ (js.foldl advance c).log = c.log ∧
      (js.foldl advance c).replicas.length = c.replicas.length := by
  induction js generalizing c with
  | nil => exact ⟨rfl, rfl, rfl⟩
  | cons j js ih =>
    obtain ⟨h1, h2, h3⟩ := ih (c.advance j)
    exact ⟨h1, h2, h3.trans (List.length_modify ..)⟩

theorem extends_foldl_advance (c : Replicated ρ σ) (js : List ℕ) :
    c.Extends (js.foldl advance c) := by
  obtain ⟨h1, h2, -⟩ := foldl_advance c js
  exact ⟨h1, h2 ▸ List.prefix_refl _⟩

theorem master_foldl_advance (c : Replicated ρ σ) (js : List ℕ) :
    (js.foldl advance c).master apply = c.master apply := by
  obtain ⟨h1, h2, -⟩ := foldl_advance c js
  rw [master, h1, h2, master]

/-- The records that the host of `c'` has replayed since the master stood at `c`. -/
def since (c c' : Replicated ρ σ) (j : ℕ) : List ρ :=
  (c'.log.take (c'.position j)).drop c.log.length

/-- **What the master held is seen** by every host that has replayed its log of then, as far
as the records since have kept it. -/
theorem seen_rec {P : List ρ → σ → Prop} {j : ℕ} (hc : c.Extends c')
    (hpos : c.log.length ≤ c'.position j) (h₀ : P [] (c.master apply))
    (h : ∀ l r s, P l s → P (l ++ [r]) (apply r s)) : P (c.since c' j) (c'.seen apply j) := by
  obtain ⟨later, hlater⟩ := hc.log
  -- the prefix that the host has replayed goes on from the master's log of then
  have htake : c'.log.take (c'.position j) = c.log ++ later.take (c'.position j - c.log.length) := by
    rw [← hlater, List.take_append, List.take_of_length_le hpos]
  have hsince : c.since c' j = later.take (c'.position j - c.log.length) := by
    rw [since, htake, List.drop_left]
  rw [hsince, seen, htake, replay_append, hc.init]
  exact replay_rec apply h₀ h _

end Replicated
