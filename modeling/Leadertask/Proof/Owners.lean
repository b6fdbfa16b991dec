import Leadertask.Proof.Accounts

/-!
# The owners of the goals

Nothing in goals-create looks for the user in the users table, so that the owner exists
must come from the tokens: every token that a login handed out names the id of a row, and
rows are never deleted.

* `owners_exist`: goals are owned by users that exist, when the clients' tokens come from
  logins.
-/

namespace Leadertask

open Atomic

variable {D : Type} {cfg : Config D}

def World.userIds (w : World) : List Int64 := w.pg.users.rows.map UserRow.id

/-- Every goal's `userId` is the id of a row in the users table. -/
def OwnersExist (w : World) : Prop := ∀ doc ∈ w.goals.docs, doc.userId ∈ w.userIds

/-- Signups, logins and goals-creates; a token that verifies comes from a login that was
answered before. -/
def OwnTokens (cfg : Config D) (s : State HttpRequest) : Event HttpRequest Input → Prop
  | .arrive q => q.endpoint ∈ [.signup, .login, .goalsCreate] ∧
      ∀ token d, bearerToken? q.authorization = some token → cfg.jwt.decode token = .ok d →
        cfg.jwt.verify cfg.checkerSecret kServiceName q.receivedAt d = .ok () →
        ∃ a ∈ s.log, a.req.endpoint = .login ∧ tokenIn a.result = some token
  | .turn _ _ => True

/-! ## The invariant -/

/-- Every goal's owner and every login's token stand for a row of the users table. -/
structure OwnersLogged (cfg : Config D) (s : State HttpRequest) : Prop where
  owners : OwnersExist s.world
  tokens : ∀ a ∈ s.log, a.req.endpoint = .login → ∀ token, tokenIn a.result = some token →
    ∃ u ∈ s.world.userIds, token = cfg.jwt.sign cfg.loginSecret "JWT" kIssuer (stdToString u)

/-- User ids only grow. -/
def IdsGrow (s s' : State HttpRequest) : Prop := s.world.userIds ⊆ s'.world.userIds

theorem IdsGrow.refl (s : State HttpRequest) : IdsGrow s s := List.Subset.refl _

theorem IdsGrow.trans (a b c : State HttpRequest) (h : IdsGrow a b) (h' : IdsGrow b c) : IdsGrow a c :=
  List.Subset.trans h h'

/-- What a world with at least the users of `s` keeps. -/
theorem OwnersLogged.kept {s : State HttpRequest} {w : World} (h : OwnersLogged cfg s)
    (hids : s.world.userIds ⊆ w.userIds)
    (hdocs : ∀ doc ∈ w.goals.docs, doc ∈ s.world.goals.docs ∨ doc.userId ∈ s.world.userIds) :
    Prog.Kept (OwnersLogged cfg) IdsGrow s w := by
  refine ⟨⟨fun doc hd => ?_, fun a ha he token ht => ?_⟩, hids⟩
  · rcases hdocs doc hd with hd | hu
    · exact hids (h.owners doc hd)
    · exact hids hu
  · obtain ⟨u, hu, hsign⟩ := h.tokens a ha he token ht
    exact ⟨u, hids hu, hsign⟩

theorem storesOnly_ownersLogged (cfg : Config D) : StoresOnly (OwnersLogged cfg) IdsGrow := by
  intro s w hw h
  obtain ⟨h1, h2⟩ := Prod.mk.inj hw
  refine h.kept ?_ fun doc hd => .inl (h2 ▸ hd)
  unfold World.userIds
  rw [h1]
  exact List.Subset.refl _

/-- An answer that is not a login's adds no token. -/
theorem answers_no_token {q : HttpRequest} {r : Except Exn HttpResponse} {s : State HttpRequest}
    {w : World} (hq : q.endpoint = .login → tokenIn r = none)
    (h : Prog.Kept (OwnersLogged cfg) IdsGrow s w) :
    Answers (OwnersLogged cfg) IdsGrow q r s w := by
  refine ⟨⟨h.1.owners, fun a ha he token ht => ?_⟩, h.2⟩
  rw [Shared.answer_log, List.mem_append, List.mem_singleton] at ha
  rcases ha with ha | rfl
  · exact h.1.tokens a ha he token ht
  · rw [hq he] at ht
    simp at ht

/-! ## One request -/

/-- The operations of signup and of goals-create, for a user that exists. -/
theorem owners_op {q : HttpRequest} {ctx : RequestContext} {s₀ s : State HttpRequest} {o : Op}
    (he : q.endpoint = .signup ∨ q.endpoint = .goalsCreate)
    (hctx : ∀ u, ctx.userData = some u → u ∈ s₀.world.userIds) (ho : Calls q ctx o)
    (hgrow : IdsGrow s₀ s) (hI : OwnersLogged cfg s) (i : Input) :
    Prog.Kept (OwnersLogged cfg) IdsGrow s (World.exec i o s.world).2 := by
  by_cases hr : o.reads = true
  · exact kept_reads (storesOnly_ownersLogged cfg) hr i hI
  · match o with
    | .execute host (.insertUser login password firstName lastName) =>
      rcases World.exec_insertUser_cases i s.world host login password firstName lastName with
        ⟨e, hrun⟩ | ⟨id, pg', hins, hrun⟩
      · rw [hrun]
        exact hI.kept (List.Subset.refl _) fun doc hd => .inl hd
      · rw [hrun]
        refine hI.kept ?_ fun doc hd => .inl hd
        unfold World.userIds
        rw [(Postgres.insertUser_ok hins).1, List.map_append]
        exact List.subset_append_left _ _
    | .mongo (.insertOne doc) =>
      obtain ⟨hpg, hdocs⟩ := World.exec_insertOne i s.world doc
      refine hI.kept ?_ fun d hd => ?_
      · unfold World.userIds
        rw [hpg]
        exact List.Subset.refl _
      · rcases hdocs d hd with hd | rfl
        · exact .inl hd
        · -- the user existed when the request arrived, and ids only grow
          exact .inr (hgrow (hctx _ ho.2))
    | .execute _ (.insertTask ..) =>
      have ho : q.endpoint = .tasksCreate := ho
      simp [ho] at he
    | .execute _ (.updateTaskStatus ..) =>
      have ho : q.endpoint = .tasksUpdateStatus := ho
      simp [ho] at he

/-- Signup, and goals-create for a user that exists. -/
theorem dispatch_keeps_owners (cfg : Config D) {q : HttpRequest} {ctx : RequestContext}
    {s : State HttpRequest} (he : q.endpoint = .signup ∨ q.endpoint = .goalsCreate)
    (hctx : ∀ u, ctx.userData = some u → u ∈ s.world.userIds) (hI : OwnersLogged cfg s) :
    (dispatch cfg q ctx).wp World.exec (fun _ => True) (OwnersLogged cfg) IdsGrow
      (Answers (OwnersLogged cfg) IdsGrow q) s s.world := by
  have hk := storesOnly_ownersLogged cfg s s.world rfl hI
  refine Prog.wp_of_uses s IdsGrow.trans
    (fun o ho s' i hgrow hI' _ => owners_op he hctx ho hgrow hI' i)
    (fun r s' w' _ hk' => answers_no_token (fun h => ?_) hk') (dispatch_calls cfg q ctx) hk.2 hk
  simp [h] at he

theorem login_keeps_owners (cfg : Config D) {q : HttpRequest} {s : State HttpRequest} (hI : OwnersLogged cfg s) :
    (Login.handleRequestJsonThrow cfg q).wp World.exec (fun _ => True) (OwnersLogged cfg) IdsGrow
      (Answers (OwnersLogged cfg) IdsGrow q) s s.world := by
  have hrefl {s : State HttpRequest} (hI : OwnersLogged cfg s) := storesOnly_ownersLogged cfg s s.world rfl hI
  refine wp_login cfg (hrefl hI) (fun r _ htok => answers_no_token (fun _ => htok) (hrefl hI)) ?_
  intro body s i hb hI _
  split
  · exact answers_no_token (fun _ => rfl) (hrefl hI)
  · refine ⟨⟨hI.owners, fun a ha he token ht => ?_⟩, (hrefl hI).2⟩
    rw [Shared.answer_log, List.mem_append, List.mem_singleton] at ha
    rcases ha with ha | rfl
    · exact hI.tokens a ha he token ht
    · obtain ⟨r, hr, -, -, hsign⟩ := (tokenIn_respond cfg _ _ _ _).1 ht
      exact ⟨r.id, List.mem_map_of_mem hr, hsign⟩

/-- The user of an accepted header is a row, when the header's token comes from a login. -/
theorem checkAuth_user (hjwt : cfg.jwt.RoundTrip) {s : State HttpRequest} {q : HttpRequest}
    (hI : OwnersLogged cfg s) (hq : OwnTokens cfg s (.arrive q))
    (hok : (checkAuth cfg q.authorization q.receivedAt {}).1.status = .kOk) :
    ∃ u ∈ s.world.userIds, (checkAuth cfg q.authorization q.receivedAt {}).2 = ⟨some u⟩ := by
  obtain ⟨token, d, subject, u, pos, hb, hd, hv, hs, hn, hctx⟩ := checkAuth_ok hok
  -- the token was handed out for a row, and reads back as that row's id
  obtain ⟨a, ha, he, htok⟩ := hq.2 token d hb hd hv
  obtain ⟨u', hu', rfl⟩ := hI.tokens a ha he token htok
  obtain ⟨d', hd', -, hs'⟩ := hjwt.accepts cfg.loginSecret "JWT" kIssuer (stdToString u') 0
  obtain rfl := Except.ok.inj (hd.symm.trans hd')
  obtain rfl := Except.ok.inj (hs.symm.trans hs')
  rw [stoll_stdToString] at hn
  obtain ⟨rfl, -⟩ := Prod.mk.inj (Except.ok.inj hn)
  exact ⟨u', hu', hctx⟩

/-- Every request keeps the invariant. -/
theorem serve_keeps_owners (hjwt : cfg.jwt.RoundTrip) {s : State HttpRequest} {q : HttpRequest}
    (hI : OwnersLogged cfg s) (hq : OwnTokens cfg s (.arrive q)) :
    (serve cfg q).wp World.exec (fun _ => True) (OwnersLogged cfg) IdsGrow
      (Answers (OwnersLogged cfg) IdsGrow q) s s.world := by
  have he := hq.1
  simp only [List.mem_cons, List.not_mem_nil, or_false] at he
  unfold serve
  rcases he with he | he | he
  · rw [if_neg (by rw [he]; decide)]
    exact dispatch_keeps_owners cfg (.inl he) (fun u hu => by simp at hu) hI
  · rw [if_neg (by rw [he]; decide), dispatch, he]
    exact login_keeps_owners cfg hI
  · rw [if_pos (by rw [he]; decide)]
    dsimp only
    split
    · rename_i hok
      obtain ⟨u, hu, hctx⟩ := checkAuth_user hjwt hI hq hok
      refine dispatch_keeps_owners cfg (.inr he) (fun u' hu' => ?_) hI
      rw [hctx] at hu'
      exact Option.some.inj hu' ▸ hu
    · exact answers_no_token (fun h => by simp [he] at h) (storesOnly_ownersLogged cfg s s.world rfl hI)

/-! ## Runs -/

/-- **Every goal has an owner that exists**, in every run in which the clients' tokens come
from logins. -/
theorem owners_exist (cfg : Config D) (hjwt : cfg.jwt.RoundTrip) (w₀ : World)
    (h₀ : OwnersExist w₀)
    (c : Pool Op Op.Ret HttpRequest Exn HttpResponse World)
    (h : Pool.Reach World.exec (serve cfg) (OwnTokens cfg) (Pool.start w₀) c) :
    OwnersExist c.world :=
  (Pool.Reach.sound (I := OwnersLogged cfg) (M := IdsGrow) IdsGrow.refl IdsGrow.trans
    (fun _ _ _ _ => trivial)
    (fun _ _ hI hq => serve_keeps_owners hjwt hI hq)
    (Pool.start_sound (w := w₀) ⟨h₀, fun _ ha => absurd ha List.not_mem_nil⟩) h).1.1.owners

/-- The client's goal, with the token of the login. -/
def annGoal : HttpRequest where
  endpoint := .goalsCreate
  authorization := kAlgorithm ++ clearJwt.sign "secret" "JWT" kIssuer "1"
  body := .obj [("title", .str "books")]

def annGoalState : State HttpRequest :=
  annState.alone World.exec (serve (clearConfig .throws)) {} annGoal

theorem owners_exist_ann : OwnersExist annGoalState.world := by
  have hno {token : String} : bearerToken? "" ≠ some token := by
    rw [show bearerToken? "" = none by decide]; simp
  refine owners_exist (clearConfig .throws) clearJwt_roundTrip emptyWorld (fun _ hd => absurd hd List.not_mem_nil)
    ⟨annGoalState, []⟩ (Pool.Reach.alone (fun _ _ => trivial) ⟨by decide, fun token d hb _ _ => ?_⟩
      (Pool.Reach.alone (fun _ _ => trivial) ⟨by decide, fun token d hb _ _ => absurd hb hno⟩
        (Pool.Reach.alone (fun _ _ => trivial) ⟨by decide, fun token d hb _ _ => absurd hb hno⟩ .start)))
  obtain rfl := Option.some.inj ((bearerToken?_bearer _).symm.trans hb)
  exact ⟨_, List.mem_append_right _ List.mem_cons_self, rfl, by decide⟩

/-- The run ends with a goal. -/
example : annGoalState.world.goals.docs.map GoalDoc.userId = [1] := by decide

end Leadertask
