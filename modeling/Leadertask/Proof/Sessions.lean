import Leadertask.Proof.Ledger
import Leadertask.Proof.Owners

/-!
# Sessions on a cluster

A login reads its account from a replica, and the token that it hands out is used long after.
The replica may lag, but an account does not change and is never removed, so what the token says
holds on the master, for every handler.

* `sessions_safe`: whoever acts as an account has shown its password at a login that was answered
  before, and every goal has an owner that exists.
-/

namespace Leadertask

open Atomic

variable {D : Type} {τ : Type} {cfg : Config D}

/-! ## What is claimed -/

/-- A login answered 200 with the token. -/
def HandedOut (a : Answer HttpRequest Exn HttpResponse τ) (token : String) : Prop :=
  a.req.endpoint = .login ∧ IsSuccess a.result ∧ tokenIn a.result = some token

/-- The login and the password in the body are those of the account. -/
def Shown (a : Answer HttpRequest Exn HttpResponse τ) (row : UserRow) : Prop :=
  a.req.endpoint = .login ∧ IsSuccess a.result ∧
    LoginRequestBody.parse a.req.body = .ok ⟨row.login, row.password⟩

/-- A token that verifies was handed out before. -/
def TokenKnown (cfg : Config D) (log : List (Answer HttpRequest Exn HttpResponse τ)) (q : HttpRequest) :
    Prop :=
  ∀ token d, bearerToken? q.authorization = some token → cfg.jwt.decode token = .ok d →
    cfg.jwt.verify cfg.checkerSecret kServiceName q.receivedAt d = .ok () →
    ∃ a ∈ log, HandedOut a token

/-- The accounts of `pg` stand behind the answers. -/
structure TokensSafe (cfg : Config D) (log : List (Answer HttpRequest Exn HttpResponse τ)) (pg : Postgres) :
    Prop where
  tokens : ∀ a ∈ log, ∀ token, HandedOut a token → ∃ row ∈ pg.users.rows, Shown a row ∧
    token = cfg.jwt.sign cfg.loginSecret "JWT" kIssuer (stdToString row.id)
  acts : EachAnswer (fun before a => ∀ u, a.req.Passes cfg → (a.req.context cfg).userData = some u →
    ∃ b ∈ before, ∃ row ∈ pg.users.rows, Shown b row ∧ row.id = u) log

/-- And behind the goals. -/
structure SessionsSafe (cfg : Config D) (log : List (Answer HttpRequest Exn HttpResponse τ))
    (pg : Postgres) (goals : GoalsCollection) : Prop extends TokensSafe cfg log pg where
  owners : ∀ doc ∈ goals.docs, ∃ row ∈ pg.users.rows, row.id = doc.userId

/-! ## Answers -/

section

variable {a : Answer HttpRequest Exn HttpResponse τ} {log : List (Answer HttpRequest Exn HttpResponse τ)}
variable {pg pg' : Postgres} {goals goals' : GoalsCollection} {q : HttpRequest} {u : UserId}

/-- The user that an accepted header names has shown the password of the account. -/
theorem TokensSafe.user (hjwt : cfg.jwt.RoundTrip) (h : TokensSafe cfg log pg)
    (hq : TokenKnown cfg log q) (hpass : q.Passes cfg) (hu : (q.context cfg).userData = some u) :
    ∃ b ∈ log, ∃ row ∈ pg.users.rows, Shown b row ∧ row.id = u := by
  unfold HttpRequest.context at hu
  split at hu
  · rename_i hauth
    obtain ⟨token, d, subject, u', pos, hb, hd, hv, hs, hn, hctx⟩ := checkAuth_ok (hpass hauth)
    obtain ⟨b, hmem, hout⟩ := hq token d hb hd hv
    obtain ⟨row, hrow, hshown, rfl⟩ := h.tokens b hmem token hout
    -- the token's subject reads back as the id that was signed
    obtain ⟨d', hd', -, hs'⟩ := hjwt.accepts cfg.loginSecret "JWT" kIssuer (stdToString row.id) 0
    obtain rfl := Except.ok.inj (hd.symm.trans hd')
    obtain rfl := Except.ok.inj (hs.symm.trans hs')
    rw [stoll_stdToString] at hn
    obtain ⟨rfl, -⟩ := Prod.mk.inj (Except.ok.inj hn)
    rw [hctx] at hu
    exact ⟨b, hmem, row, hrow, hshown, Option.some.inj hu⟩
  · simp at hu

/-- One more answer, with at least the accounts of before. -/
theorem TokensSafe.append (hjwt : cfg.jwt.RoundTrip) (h : TokensSafe cfg log pg)
    (ha : TokenKnown cfg log a.req) (hgrow : pg.users.rows ⊆ pg'.users.rows)
    (htoken : ∀ token, HandedOut a token → ∃ row ∈ pg'.users.rows, Shown a row ∧
      token = cfg.jwt.sign cfg.loginSecret "JWT" kIssuer (stdToString row.id)) :
    TokensSafe cfg (log ++ [a]) pg' where
  tokens := by
    intro b hb token hout
    rcases List.mem_append.1 hb with hb | hb
    · obtain ⟨row, hrow, hrest⟩ := h.tokens b hb token hout
      exact ⟨row, hgrow hrow, hrest⟩
    · rw [List.mem_singleton] at hb; subst hb
      exact htoken token hout
  acts := by
    refine EachAnswer.append (fun pre b post he u hpass hu => ?_) fun u hpass hu => ?_
    · obtain ⟨b', hb', row, hrow, hrest⟩ := h.acts pre b post he u hpass hu
      exact ⟨b', hb', row, hgrow hrow, hrest⟩
    · obtain ⟨b', hb', row, hrow, hrest⟩ := h.user hjwt ha hpass hu
      exact ⟨b', hb', row, hgrow hrow, hrest⟩

/-- Every goal of before has its owner, and a new one is that of a user who was let in. -/
theorem SessionsSafe.owners_append (hjwt : cfg.jwt.RoundTrip) (h : SessionsSafe cfg log pg goals)
    (hq : TokenKnown cfg log q) (hgrow : pg.users.rows ⊆ pg'.users.rows)
    (hgoals : ∀ doc ∈ goals'.docs, doc ∈ goals.docs ∨ q.Passes cfg ∧ (q.context cfg).userData = some doc.userId) :
    ∀ doc ∈ goals'.docs, ∃ row ∈ pg'.users.rows, row.id = doc.userId := by
  intro doc hdoc
  rcases hgoals doc hdoc with hdoc | ⟨hpass, hu⟩
  · obtain ⟨row, hrow, hid⟩ := h.owners doc hdoc
    exact ⟨row, hgrow hrow, hid⟩
  · obtain ⟨-, -, row, hrow, -, hid⟩ := h.user hjwt hq hpass hu
    exact ⟨row, hgrow hrow, hid⟩

end

/-! ## Runs -/

section

variable {q : HttpRequest} {ctx : RequestContext} {o : Op} {r : Except Exn HttpResponse} {i : HistoryInput}
variable {h : History} {log : List (Answer HttpRequest Exn HttpResponse History)}

/-- The answer after the request's last operation. -/
theorem TokensSafe.report (hjwt : cfg.jwt.RoundTrip) (hS : TokensSafe cfg log h.master)
    (hq : TokenKnown cfg log q) (hR : Reports cfg q ctx o (History.exec i o h).1 r) :
    TokensSafe cfg (log ++ [⟨q, r, (History.exec i o h).2⟩]) (History.exec i o h).2.master := by
  have hgrow : h.master.users.rows ⊆ (History.exec i o h).2.master.users.rows :=
    fun row hrow => History.exec_user i o hrow
  refine hS.append hjwt hq hgrow fun token hout => ?_
  obtain ⟨he, hok, htoken⟩ : q.endpoint = .login ∧ IsSuccess r ∧ tokenIn r = some token := hout
  generalize hx : (History.exec i o h).1 = x at hR
  -- only a login hands out a token
  cases hR with
  | @login login password rows _ _ hb hr =>
    -- the account that the replica showed is on the master
    have hrows : (h.upTo i.position).selectUserByLogin login = .ok rows := History.exec_read rfl hx
    rw [hr, tokenIn_answer cfg hrows] at htoken
    obtain ⟨row, hrow, rfl, rfl, hsign⟩ := htoken
    exact ⟨row, hgrow (History.upTo_user hrow), ⟨he, hok, hb⟩, hsign⟩
  | goalMissing _ _ _ _ hr => exact absurd (hr ▸ hok) (not_isSuccess_makeError (by decide))
  | idle _ hr => exact absurd hok hr.noSuccess
  | signup he' => simp [he] at he'
  | conflict he' => simp [he] at he'
  | usersSearch he' => simp [he] at he'
  | goalsCreate he' => simp [he] at he'
  | goalsList he' => simp [he] at he'
  | tasksCreate he' => simp [he] at he'
  | tasksList he' => simp [he] at he'
  | tasksUpdateStatus he' => simp [he] at he'

/-- Only goals-create stores a goal, the user's. -/
theorem report_goals (hR : Reports cfg q ctx o (History.exec i o h).1 r) :
    ∀ doc ∈ (History.exec i o h).2.goals.docs, doc ∈ h.goals.docs ∨ ctx.userData = some doc.userId := by
  have hsame (hgoals : (History.exec i o h).2.goals = h.goals) :
      ∀ doc ∈ (History.exec i o h).2.goals.docs, doc ∈ h.goals.docs ∨ ctx.userData = some doc.userId :=
    fun doc hdoc => .inl (hgoals ▸ hdoc)
  generalize hx : (History.exec i o h).1 = x at hR
  cases hR with
  | goalsCreate he hu hb htitle hdescription _ hr =>
    intro doc hdoc
    rw [(GoalsCollection.insertOne_ok (History.exec_insertOne hx).1).1, List.mem_append,
      List.mem_singleton] at hdoc
    rcases hdoc with hdoc | rfl
    · exact .inl hdoc
    · exact .inr hu
  | signup => exact hsame (History.exec_write rfl hx).2
  | tasksCreate => exact hsame (History.exec_write rfl hx).2
  | tasksUpdateStatus => exact hsame (History.exec_write rfl hx).2
  | conflict => exact hsame (by rw [History.exec_idle (hx ▸ .inr ⟨_, rfl⟩)])
  | idle hI => exact hsame (by rw [History.exec_idle (hx ▸ hI)])
  | _ => exact hsame (by rw [History.exec_idle (.inl rfl)])

theorem SessionsSafe.report (hjwt : cfg.jwt.RoundTrip) (hS : SessionsSafe cfg log h.master h.goals)
    (hq : TokenKnown cfg log q) (hR : Answered cfg q o (History.exec i o h).1 r) :
    SessionsSafe cfg (log ++ [⟨q, r, (History.exec i o h).2⟩]) (History.exec i o h).2.master
      (History.exec i o h).2.goals := by
  obtain ⟨hpass, hR⟩ := hR
  have hgrow : h.master.users.rows ⊆ (History.exec i o h).2.master.users.rows :=
    fun row hrow => History.exec_user i o hrow
  exact ⟨hS.toTokensSafe.report hjwt hq hR, hS.owners_append hjwt hq hgrow fun doc hdoc =>
    (report_goals hR doc hdoc).imp_right fun hu => ⟨hpass, hu⟩⟩

end

/-- Requests of any kind; a token that verifies was handed out before. -/
def KnownTokens (cfg : Config D) (s : Shared HttpRequest Exn HttpResponse Cluster) :
    Event HttpRequest ClusterInput → Prop
  | .arrive q => TokenKnown cfg s.log q
  | .turn _ _ => True

theorem TokenKnown.append {log : List (Answer HttpRequest Exn HttpResponse τ)} {q : HttpRequest}
    (h : TokenKnown cfg log q) (a : Answer HttpRequest Exn HttpResponse τ) :
    TokenKnown cfg (log ++ [a]) q := by
  intro token d hb hd hv
  obtain ⟨b, hmem, hout⟩ := h token d hb hd hv
  exact ⟨b, List.mem_append_left _ hmem, hout⟩

/-- What is claimed does not look at the states. -/
theorem TokensSafe.of_seen {σ : Type} {f : σ → τ} {log : List (Answer HttpRequest Exn HttpResponse σ)}
    {pg : Postgres} (h : TokensSafe cfg (log.map (Answer.map f)) pg) : TokensSafe cfg log pg where
  tokens := fun a ha token hout => h.tokens _ (List.mem_map_of_mem ha) token hout
  acts := h.acts.of_map fun pre a ha u hpass hu => by
    obtain ⟨b, hb, hrest⟩ := ha u hpass hu
    obtain ⟨b', hb', rfl⟩ := List.mem_map.1 hb
    exact ⟨b', hb', hrest⟩

theorem TokenKnown.seen {s : Shared HttpRequest Exn HttpResponse Cluster} {q : HttpRequest}
    (h : TokenKnown cfg s.log q) : TokenKnown cfg (Pool.seenLog Cluster.history s) q := by
  intro token d hb hd hv
  obtain ⟨a, ha, hout⟩ := h token d hb hd hv
  exact ⟨_, List.mem_map_of_mem ha, hout⟩

/-- Tokens are safe whatever goals there were at the start. -/
theorem tokens_reach (hjwt : cfg.jwt.RoundTrip) {c₀ : Cluster} {c : ClusterRun}
    (h : Pool.Reach Cluster.exec (serve cfg) (KnownTokens cfg) (Pool.start c₀) c) :
    TokensSafe cfg c.log c.world.master := by
  refine (cluster_rule cfg (TokenKnown cfg) (fun log (h : History) => TokensSafe cfg log h.master)
    (fun _ _ hq => hq.seen) (fun _ a _ hq => hq.append a)
    ⟨fun a ha => absurd ha List.not_mem_nil, EachAnswer.nil⟩ ?_ ?_ h).of_seen
  · intro log h q r hS hq hr
    exact hS.append hjwt hq (List.Subset.refl _) fun token hout => absurd hout.2.1 hr.noSuccess
  · intro log h q r i o hS hq hR
    exact hS.report hjwt hq hR.2

/-- **Sessions are safe** on a cluster whose replicas lag, in every run in which the clients'
tokens come from logins. -/
theorem sessions_safe (cfg : Config D) (hjwt : cfg.jwt.RoundTrip) (c₀ : Cluster)
    (h₀ : ∀ doc ∈ c₀.goals.docs, ∃ row ∈ c₀.master.users.rows, row.id = doc.userId) (c : ClusterRun)
    (h : Pool.Reach Cluster.exec (serve cfg) (KnownTokens cfg) (Pool.start c₀) c) :
    SessionsSafe cfg c.log c.world.master c.world.goals := by
  have hS : SessionsSafe cfg (Pool.seenLog Cluster.history c.toShared) c.world.history.master
      c.world.history.goals := by
    refine cluster_rule cfg (TokenKnown cfg) (fun log (h : History) => SessionsSafe cfg log h.master h.goals)
      (fun _ _ hq => hq.seen) (fun _ a _ hq => hq.append a)
      ⟨⟨fun a ha => absurd ha List.not_mem_nil, EachAnswer.nil⟩, h₀⟩ ?_ ?_ h
    · intro log h q r hS hq hr
      exact ⟨hS.append hjwt hq (List.Subset.refl _) fun token hout => absurd hout.2.1 hr.noSuccess, hS.owners⟩
    · intro log h q r i o hS hq hR
      exact hS.report hjwt hq hR
  exact ⟨hS.toTokensSafe.of_seen, hS.owners⟩

/-- Signup, login and a goal with the login's token, on one replica that keeps up. -/
def annGoalRun : ClusterRun :=
  [.arrive annSignup, .turn 0 {}, .arrive annLogin, .turn 0 caughtUp, .arrive annGoal, .turn 0 {},
    .turn 0 {}, .turn 0 {}].foldl (Pool.step Cluster.exec (serve (clearConfig .throws))) (Pool.start oneReplica)

/-- Its goal comes with the token of its login. -/
theorem annGoalRun_reach : Pool.Reach Cluster.exec (serve (clearConfig .throws)) (KnownTokens (clearConfig .throws))
    (Pool.start oneReplica) annGoalRun := by
  have hno {token : String} : bearerToken? "" ≠ some token := by
    rw [show bearerToken? "" = none by decide]; simp
  refine (((((((Pool.Reach.start.step (.arrive annSignup) fun token d hb _ _ => absurd hb hno).step
    (.turn 0 ({} : ClusterInput)) trivial).step (.arrive annLogin) fun token d hb _ _ => absurd hb hno).step
    (.turn 0 caughtUp) trivial).step (.arrive annGoal) fun token d hb _ _ => ?_).step
    (.turn 0 ({} : ClusterInput)) trivial).step (.turn 0 ({} : ClusterInput)) trivial).step
    (.turn 0 ({} : ClusterInput)) trivial
  obtain rfl := Option.some.inj ((bearerToken?_bearer _).symm.trans hb)
  exact ⟨_, List.mem_append_right _ List.mem_cons_self, rfl, by decide, by decide⟩

theorem sessions_safe_ann :
    SessionsSafe (clearConfig .throws) annGoalRun.log annGoalRun.world.master annGoalRun.world.goals :=
  sessions_safe (clearConfig .throws) clearJwt_roundTrip oneReplica
    (fun _ hdoc => absurd hdoc List.not_mem_nil) annGoalRun annGoalRun_reach

/-- The run ends with a goal. -/
example : annGoalRun.world.goals.docs.map GoalDoc.userId = [1] := by decide

end Leadertask
