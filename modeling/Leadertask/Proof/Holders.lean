import Leadertask.Proof.Mediation
import Leadertask.Proof.Sessions
import Mathlib.Data.Set.Card

/-!
# Who has a bucket

A handler's `rate_limits` map gets an entry for every user that it is asked about, and no entry is ever
removed. It is only asked about users whom the checker has let in, so the map grows with the accounts,
whatever else is sent to the service.

* `buckets_owned`: each bucket is that of a user who showed a password, and a handler never has more
  buckets than there are accounts.
-/

namespace Leadertask

open Atomic

variable {D : Type} {cfg : Config D}

/-- The users for whom the handler has a bucket. -/
def bucketsOf (c : Cluster) (e : Endpoint) : Set UserId := {u | (c.rateLimits e u).isSome}

/-- Only the limiter makes a bucket. -/
theorem Cluster.exec_bucket {e : Endpoint} {u : UserId} (i : ClusterInput) (o : Op) (c : Cluster)
    (h : u ∈ bucketsOf (Cluster.exec i o c).2 e) : u ∈ bucketsOf c e ∨ o = .checkRateLimit e u := by
  have honMaster (stmt : Sql) (c : Cluster) : (c.executeOnMaster i.toInput stmt).2.rateLimits = c.rateLimits := by
    unfold Cluster.executeOnMaster
    split
    · split <;> rfl
    · rfl
  cases o with
  | checkRateLimit e' v =>
    by_cases hsame : e = e' ∧ u = v
    · obtain ⟨rfl, rfl⟩ := hsame
      exact .inr rfl
    left
    by_cases he : e = e'
    · subst he
      have hu : u ≠ v := fun hu => hsame ⟨rfl, hu⟩
      simpa [bucketsOf, Cluster.exec, World.exec, Cluster.world, checkRateLimit, hu] using h
    · simpa [bucketsOf, Cluster.exec, World.exec, Cluster.world, he] using h
  | newOid => exact .inl h
  | mongo cmd =>
    left
    simp only [bucketsOf, Cluster.exec, World.exec] at h ⊢
    split at h <;> exact h
  | execute host stmt =>
    left
    simp only [bucketsOf, Cluster.exec] at h ⊢
    split at h
    · exact h
    cases host with
    | kMaster =>
      simp only [honMaster] at h
      exact h
    | kSlave =>
      dsimp only at h
      split at h
      · simp only [honMaster] at h
        exact h
      · split at h <;> exact h

/-- The user of a request that was let through. -/
theorem limiter_permitted {q : HttpRequest} {past : StorePast} {e : Endpoint} {u : UserId}
    (h : Mediates cfg q past (.checkRateLimit e u)) :
    e = q.endpoint ∧ q.Passes cfg ∧ (q.context cfg).userData = some u := ⟨h.2.1, h.1, h.2.2⟩

/-- A user is known only where there is a checker. -/
theorem jwtAuth_of_user {q : HttpRequest} {u : UserId} (h : (q.context cfg).userData = some u) :
    q.endpoint.jwtAuth = true := by
  by_contra hno
  rw [HttpRequest.context, if_neg hno] at h
  simp at h

/-- **Buckets are those of accounts** on a cluster whose replicas lag, in every run in which the
clients' tokens come from logins. -/
theorem buckets_owned (cfg : Config D) (hjwt : cfg.jwt.RoundTrip) (c₀ : Cluster)
    (hb : ∀ e, ∀ u ∈ bucketsOf c₀ e, ∃ row ∈ c₀.master.users.rows, row.id = u) (c : ClusterRun)
    (h : Pool.Reach Cluster.exec (serve cfg) (KnownTokens cfg) (Pool.start c₀) c) (e : Endpoint) :
    (∀ u ∈ bucketsOf c.world e, u ∈ bucketsOf c₀ e ∨ e.jwtAuth = true ∧
      ∃ a ∈ c.log, ∃ row ∈ c.world.master.users.rows, Shown a row ∧ row.id = u) ∧
    (bucketsOf c.world e).encard ≤ c.world.master.users.rows.length := by
  have hS := tokens_reach hjwt h
  obtain ⟨es, hes, harrived⟩ := h.events
  have howned (u : UserId) (hu : u ∈ bucketsOf c.world e) : u ∈ bucketsOf c₀ e ∨ e.jwtAuth = true ∧
      ∃ a ∈ c.log, ∃ row ∈ c.world.master.users.rows, Shown a row ∧ row.id = u := by
    rw [hes] at hu
    have hcame : u ∈ bucketsOf c₀ e ∨
        ∃ x ∈ Pool.trace Cluster.exec (serve cfg) (Pool.start c₀) es, x.op = .checkRateLimit e u :=
      Pool.world_of_trace (Q := fun w => u ∈ bucketsOf w e) (F := fun o => o = Op.checkRateLimit e u)
        (fun i o w => Cluster.exec_bucket i o w) es hu
    refine hcame.imp_right fun ⟨x, hx, hop⟩ => ?_
    -- the request that asked the limiter was let in
    obtain ⟨pre, post, hsplit⟩ := List.append_of_mem hx
    obtain ⟨harrival, past, -, hpermit⟩ :=
      Pool.trace_guarded Cluster.exec (serve cfg) (serve_guarded cfg) c₀ es pre x post hsplit
    rw [hop] at hpermit
    obtain ⟨he, hpass, huser⟩ := limiter_permitted hpermit
    obtain ⟨s, hknown, hlog⟩ := harrived x.req harrival
    have hknown' : TokenKnown cfg c.log x.req := by
      intro token d hb hd hv
      obtain ⟨a, ha, hout⟩ := hknown token d hb hd hv
      exact ⟨a, hlog.subset ha, hout⟩
    obtain ⟨a, ha, row, hrow, hshown⟩ := hS.user hjwt hknown' hpass huser
    exact ⟨he ▸ jwtAuth_of_user huser, a, ha, row, hrow, hshown⟩
  refine ⟨howned, ?_⟩
  have hgrow : c₀.master.users.rows ⊆ c.world.master.users.rows :=
    cluster_rule cfg (fun _ _ => True) (fun _ (h : History) => c₀.master.users.rows ⊆ h.master.users.rows)
      (fun _ _ _ => trivial) (fun _ _ _ _ => trivial) (List.Subset.refl _) (fun _ _ _ _ hsub _ _ => hsub)
      (fun _ _ _ _ i o hsub _ _ _ hrow => History.exec_user i o (hsub hrow)) h
  have hids : bucketsOf c.world e ⊆ ↑(c.world.master.users.rows.map UserRow.id).toFinset := by
    intro u hu
    rw [List.coe_toFinset]
    rcases howned u hu with hu | ⟨-, a, ha, row, hrow, -, rfl⟩
    · obtain ⟨row, hrow, rfl⟩ := hb e u hu
      exact List.mem_map_of_mem (hgrow hrow)
    · exact List.mem_map_of_mem hrow
  calc (bucketsOf c.world e).encard
      ≤ ((c.world.master.users.rows.map UserRow.id).toFinset : Set UserId).encard := Set.encard_le_encard hids
    _ = (c.world.master.users.rows.map UserRow.id).toFinset.card := Set.encard_coe_eq_coe_finsetCard _
    _ ≤ c.world.master.users.rows.length := by
      have hcard := List.toFinset_card_le (c.world.master.users.rows.map UserRow.id)
      rw [List.length_map] at hcard
      exact_mod_cast hcard

theorem buckets_owned_ann :
    (1 ∈ bucketsOf annGoalRun.world .goalsCreate) ∧
    (∀ u ∈ bucketsOf annGoalRun.world .goalsCreate, u ∈ bucketsOf oneReplica .goalsCreate ∨
      Endpoint.goalsCreate.jwtAuth = true ∧
        ∃ a ∈ annGoalRun.log, ∃ row ∈ annGoalRun.world.master.users.rows, Shown a row ∧ row.id = u) ∧
    (bucketsOf annGoalRun.world .goalsCreate).encard ≤ annGoalRun.world.master.users.rows.length :=
  ⟨show (annGoalRun.world.rateLimits .goalsCreate 1).isSome by decide,
    buckets_owned (clearConfig .throws) clearJwt_roundTrip oneReplica
      (fun e u hu => absurd hu (by simp [bucketsOf, oneReplica, emptyWorld])) annGoalRun annGoalRun_reach .goalsCreate⟩

end Leadertask
