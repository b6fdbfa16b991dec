import Leadertask.Lib.Pool
import Leadertask.Proof.Calls
import Leadertask.Proof.Runs

/-!
# Handlers among other requests

Rules for the prologues in a pool of requests, for any invariant `I` and any preorder `M`
that look at the stores and the answers only.

* `wp_rateLimited`, `wp_withOwnGoal`: past a prologue, or turned away with nothing done.
-/

namespace Leadertask

open Atomic

variable {D : Type} {Req : Type}

/-- A shared state of the service. -/
abbrev State (Req : Type) := Shared Req Exn HttpResponse World

/-- `I` and `M` do not see the rate limiters. -/
def StoresOnly (I : State Req → Prop) (M : State Req → State Req → Prop) : Prop :=
  ∀ s w, w.stores = s.world.stores → I s → Prog.Kept I M s w

/-- Nothing has to be kept but the invariant. -/
def AnyMove (_ _ : State Req) : Prop := True

section

variable {allowed : Input → Prop} {I : State Req → Prop} {M : State Req → State Req → Prop}
variable {Q : Except Exn HttpResponse → State Req → World → Prop}
variable {s : State Req} {w : World}

/-- An operation that only reads, in whatever state others left. -/
theorem kept_reads (hst : StoresOnly I M) {o : Op} (ho : o.reads = true) (i : Input) (hI : I s) :
    Prog.Kept I M s (World.exec i o s.world).2 :=
  hst s _ (World.exec_reads ho) hI

theorem wp_withUserId {ctx : RequestContext} {msg : String} {k : UserId → Handler HttpResponse}
    (hno : Q (.ok (makeError .kUnauthorized msg)) s w)
    (hk : ∀ u, ctx.userData = some u → (k u).wp World.exec allowed I M Q s w) :
    (withUserId ctx msg k).wp World.exec allowed I M Q s w := by
  unfold withUserId RequestContext.getUserData
  cases hu : ctx.userData with
  | none => exact hno
  | some u => exact hk u hu

theorem wp_rateLimited (hst : StoresOnly I M) {e : Endpoint} {u : UserId} {k : Handler HttpResponse}
    (hkept : Prog.Kept I M s w)
    (hno : ∀ n s w, Prog.Kept I M s w → Q (.ok (rateLimitExceeded n)) s w)
    (hk : ∀ s w, Prog.Kept I M s w → k.wp World.exec allowed I M Q s w) :
    (rateLimited e u k).wp World.exec allowed I M Q s w := by
  refine ⟨hkept, fun s' i _ hI _ => ?_⟩
  have hkept' := kept_reads (o := .checkRateLimit e u) hst rfl i hI
  show (if (checkRateLimit (s'.world.rateLimits e) u i.now i.created).1.1 then k
    else _ : Handler HttpResponse).wp World.exec allowed I M Q s' _
  split
  · exact hk _ _ hkept'
  · exact hno _ _ _ hkept'

theorem exec_findOne (i : Input) (w : World) (oid : Oid) :
    (World.exec i (.mongo (.findOne oid)) w).1 = .error .storeFailure ∨
      (World.exec i (.mongo (.findOne oid)) w).1 = .ok (w.goals.docs.find? (·.id = oid)) := by
  simp only [World.exec]
  split
  · exact .inl rfl
  · exact .inr rfl

/-- The goal that the path names, and the number at its front. -/
theorem wp_withOwnGoal (hst : StoresOnly I M) {u : UserId} {g : String}
    {k : Int64 → Handler HttpResponse} (hkept : Prog.Kept I M s w)
    (hno : ∀ r s w, Prog.Kept I M s w → ¬ IsSuccess r → Q r s w)
    (hk : ∀ n pos oid s₁ w, stoll g = .ok (n, pos) → Oid.ofString g = .ok oid →
      (∃ s₀ : State Req, I s₀ ∧ ∃ doc ∈ s₀.world.goals.docs, doc.id = oid) → Prog.Kept I M s₁ w →
      (k n).wp World.exec allowed I M Q s₁ w) :
    (withOwnGoal u g k).wp World.exec allowed I M Q s w := by
  unfold withOwnGoal
  cases hn : stoll g with
  | error e => exact hno _ _ _ hkept (not_isSuccess_makeError (by decide))
  | ok p =>
    unfold GoalsRepository.getById mongo
    cases hoid : Oid.ofString g with
    | error e => exact hno _ _ _ hkept (not_isSuccess_error e)
    | ok oid =>
      refine ⟨hkept, fun s' i _ hI _ => ?_⟩
      -- `s'` is what the others have made of the state since the request was admitted
      have hkept' := kept_reads (o := .mongo (.findOne oid)) hst rfl i hI
      generalize hw : (World.exec i (.mongo (.findOne oid)) s'.world).2 = w' at hkept' ⊢
      rcases exec_findOne i s'.world oid with hr | hr
      · rw [hr]
        exact hno _ _ _ hkept' (not_isSuccess_error _)
      · rw [hr]
        cases hd : s'.world.goals.docs.find? (·.id = oid) with
        | none => exact hno _ _ _ hkept' (not_isSuccess_makeError (by decide))
        | some doc =>
          have hdoc : doc.id = oid := by simpa using List.find?_some hd
          show (if optionalNe (GoalsRepository.readGoal doc).userId u = true then _
            else k p.1 : Handler HttpResponse).wp World.exec allowed I M Q s' w'
          split
          · exact hno _ _ _ hkept' (not_isSuccess_makeError (by decide))
          · exact hk p.1 p.2 oid s' w' hn hoid
              ⟨s', hI, doc, List.mem_of_find?_eq_some hd, hdoc⟩ hkept'

/-! ## Signup and login -/

theorem wp_signup (cfg : Config D) {request : HttpRequest} (hst : StoresOnly I M)
    (hkept : Prog.Kept I M s w)
    (hno : ∀ r s w, Prog.Kept I M s w → ¬ IsSuccess r → Q r s w)
    (hyes : ∀ body s i id pg', CreateUserRequestBody.parse request.body = .ok body → I s →
      s.world.pg.insertUser i body.login body.password body.firstName body.lastName = .ok (id, pg') →
      Q (.ok { payload := .createdUser ⟨id⟩ }) s (s.world.setPg pg')) :
    (Signup.handleRequestJsonThrow cfg request).wp World.exec allowed I M Q s w := by
  unfold Signup.handleRequestJsonThrow
  refine Prog.wp_catching (Prog.wp_andThen (Prog.wp_ofExcept ?_))
  cases hb : CreateUserRequestBody.parse request.body with
  | error e => exact hno _ _ _ hkept (not_isSuccess_makeError (by decide))
  | ok body =>
    dsimp only
    split
    · exact hno _ _ _ hkept (not_isSuccess_makeError (by decide))
    refine Prog.wp_andThen (Prog.wp_catching ⟨hkept, fun s' i _ hI _ => ?_⟩)
    have hkept' : Prog.Kept I M s' s'.world := hst s' s'.world rfl hI
    rcases World.exec_insertUser_cases i s'.world .kMaster body.login body.password body.firstName
      body.lastName with ⟨e, hrun⟩ | ⟨id, pg', hins, hrun⟩
    · -- 409 for a login that is taken, 400 for the rest
      rw [hrun]
      cases e <;> exact hno _ _ _ hkept' (not_isSuccess_makeError (by decide))
    · rw [hrun]
      exact hyes body s' i id pg' hb hI hins

/-- The token that an answer carries. -/
def tokenIn : Except Exn HttpResponse → Option String
  | .ok ⟨_, _, .loggedIn r⟩ => some r.accessToken
  | _ => none

/-- What login answers with the rows of the login. -/
def Login.answer (cfg : Config D) (password : String) : List UserRow → HttpResponse
  | [] => makeError .kUnauthorized "invalid data"
  | user :: _ =>
    if user.password ≠ password then makeError .kUnauthorized "invalid data"
    else { payload := .loggedIn ⟨cfg.jwt.sign cfg.loginSecret "JWT" kIssuer (stdToString user.id)⟩ }

/-- The same with the lookup of the rows, whose failures login answers as well. -/
def Login.respond (cfg : Config D) (password : String) : Except Exn (List UserRow) → HttpResponse
  | .ok rows => Login.answer cfg password rows
  | .error exc => makeError .kBadRequest (cfg.what exc)

theorem wp_login (cfg : Config D) {request : HttpRequest} (hkept : Prog.Kept I M s w)
    (hbad : ∀ r, (∀ body, LoginRequestBody.parse request.body = .ok body →
      body.login.isEmpty = true ∨ body.password.isEmpty = true) → tokenIn r = none → Q r s w)
    (hselect : ∀ body s i, LoginRequestBody.parse request.body = .ok body → I s → allowed i →
      Q (.ok (if i.fault (.execute .kSlave (.selectUserByLogin body.login)) then
          makeError .kBadRequest (cfg.what .storeFailure)
        else Login.respond cfg body.password (s.world.pg.selectUserByLogin body.login))) s s.world) :
    (Login.handleRequestJsonThrow cfg request).wp World.exec allowed I M Q s w := by
  unfold Login.handleRequestJsonThrow
  refine Prog.wp_catching (Prog.wp_andThen (Prog.wp_ofExcept ?_))
  cases hb : LoginRequestBody.parse request.body with
  | error e => exact hbad _ (fun body h => by rw [hb] at h; simp at h) rfl
  | ok body =>
    dsimp only
    split
    · rename_i hempty
      refine hbad _ (fun body' h => ?_) rfl
      obtain rfl := Except.ok.inj (hb.symm.trans h)
      simpa using hempty
    refine Prog.wp_andThen (Prog.wp_andThen ⟨hkept, fun s' i _ hI ha => ?_⟩)
    have hq := hselect body s' i hb hI ha
    rw [World.exec_selectUserByLogin]
    by_cases hf : i.fault (.execute .kSlave (.selectUserByLogin body.login)) = true
    · rw [if_pos hf] at hq ⊢
      exact hq
    · rw [if_neg hf] at hq ⊢
      generalize s'.world.pg.selectUserByLogin body.login = r at hq
      rcases r with exc | _ | ⟨user, rows⟩
      · exact hq
      · exact hq
      · simp only [Login.respond, Login.answer] at hq
        show (if user.password ≠ body.password then _ else _ : Handler HttpResponse).wp _ _ _ _ _ _ _
        split
        · rename_i hp
          rw [if_pos hp] at hq; exact hq
        · rename_i hp
          rw [if_neg hp] at hq; exact hq

end

end Leadertask
