import Leadertask.Proof.Interleaved
import Leadertask.Proof.Tokens

/-!
# Accounts in every interleaving

Signups and logins of any clients, interleaved. The invariant says that the users table
holds the first accounts and then those of the finished signups, in order, and that every
login was answered from the table as it stood.

* `accounts_safe`: one account for each login, a token exactly for its password, and the
  token is accepted as the account's.
-/

namespace Leadertask

open Atomic

variable {D : Type} {cfg : Config D} {w₀ : World}

abbrev ServedEntry := Answer HttpRequest Exn HttpResponse World

/-! ## What is claimed of the answers -/

/-- The login of a signup that succeeded, as its column holds it, and the id. -/
def signedUp (a : ServedEntry) : Option (String × Int64) :=
  if a.req.endpoint = .signup then
    match CreateUserRequestBody.parse a.req.body, a.result with
    | .ok body, .ok ⟨.kOk, _, .createdUser r⟩ => some (asColumn body.login, r.userId)
    | _, _ => none
  else none

/-- The logins and ids of the first accounts and of the finished signups. -/
def accounts (w₀ : World) (log : List ServedEntry) : List (String × Int64) :=
  w₀.pg.users.rows.map (fun r => (r.login, r.id)) ++ log.filterMap signedUp

/-- A login is answered with a token exactly if the login's row has the password, and the
token is accepted, at any time, as that of the id of the one account with the login. -/
structure LoginSafe (cfg : Config D) (w₀ : World) (before : List ServedEntry) (a : ServedEntry) :
    Prop where
  password : ∀ body, LoginRequestBody.parse a.req.body = .ok body → body.login.isEmpty = false →
    body.password.isEmpty = false →
    ((∃ token, tokenIn a.result = some token) ↔
      ∃ r ∈ a.world.pg.users.rows, r.login = body.login ∧ r.password = body.password)
  token : ∀ token, tokenIn a.result = some token →
    ∃ body id, LoginRequestBody.parse a.req.body = .ok body ∧
      (body.login, id) ∈ accounts w₀ before ∧ (∀ id', (body.login, id') ∈ accounts w₀ before → id' = id) ∧
      ∀ now, checkAuth cfg (kAlgorithm ++ token) now {} = ({}, ⟨some id⟩)

structure AccountsSafe (cfg : Config D) (w₀ : World) (log : List ServedEntry) : Prop where
  /-- For each login one signup succeeds at most, and one of those that a column takes for the same. -/
  once : ((log.filterMap signedUp).map Prod.fst).Nodup
  /-- None does for a login that is there already. -/
  fresh : ∀ p ∈ log.filterMap signedUp, p.1 ∉ w₀.pg.users.rows.map UserRow.login
  logins : EachAnswer (fun before a => a.req.endpoint = .login → LoginSafe cfg w₀ before a) log

/-- Signups and logins; reads of the users see what is committed. -/
def AccountEvents (_ : State HttpRequest) : Event HttpRequest Input → Prop
  | .arrive q => q.endpoint ∈ [.signup, .login]
  | .turn _ i => ∀ login, i.fault (.execute .kSlave (.selectUserByLogin login)) = false

/-! ## The invariant -/

structure AccountsLogged (cfg : Config D) (w₀ : World) (s : State HttpRequest) : Prop where
  rows : s.world.pg.users.rows.map (fun r => (r.login, r.id)) = accounts w₀ s.log
  logins : EachAnswer (fun before a => a.req.endpoint = .login → LoginSafe cfg w₀ before a) s.log

theorem storesOnly_accountsLogged (cfg : Config D) (w₀ : World) :
    StoresOnly (AccountsLogged cfg w₀) AnyMove := by
  intro s w hw h
  obtain ⟨h1, -⟩ := Prod.mk.inj hw
  exact ⟨⟨by rw [Shared.moved_world, h1]; exact h.rows, h.logins⟩, trivial⟩

theorem accounts_append (w₀ : World) (log : List ServedEntry) (a : ServedEntry) :
    accounts w₀ (log ++ [a]) = accounts w₀ log ++ (signedUp a).toList := by
  rw [accounts, accounts, List.filterMap_append, List.append_assoc]
  cases h : signedUp a <;> simp [h]

theorem signedUp_fails {a : ServedEntry} (h : ¬ IsSuccess a.result) : signedUp a = none := by
  unfold signedUp
  split
  · split
    · rename_i hr
      exact absurd (by rw [hr]; exact isSuccess_ok.2 (.inl rfl)) h
    · rfl
  · rfl

/-- The table makes the accounts' logins distinct. -/
theorem AccountsLogged.safe {s : State HttpRequest} (h : AccountsLogged cfg w₀ s) :
    AccountsSafe cfg w₀ s.log := by
  have hkey : ((accounts w₀ s.log).map Prod.fst).Nodup := by
    rw [← h.rows, List.map_map]; exact s.world.pg.users.loginKey
  rw [accounts, List.map_append, List.map_map, List.nodup_append] at hkey
  exact ⟨hkey.2.1, fun p hp hmem => hkey.2.2 _ hmem _ (List.mem_map_of_mem hp) rfl, h.logins⟩

/-! ## Signup -/

theorem signup_keeps (cfg : Config D) (w₀ : World) {q : HttpRequest} (he : q.endpoint = .signup)
    {allowed : Input → Prop} {s : State HttpRequest} (hI : AccountsLogged cfg w₀ s) :
    (Signup.handleRequestJsonThrow cfg q).wp World.exec allowed (AccountsLogged cfg w₀) AnyMove
      (Answers (AccountsLogged cfg w₀) AnyMove q) s s.world := by
  refine wp_signup cfg (storesOnly_accountsLogged cfg w₀) ⟨hI, trivial⟩ ?_ ?_
  · intro r s w hk hr
    refine ⟨⟨?_, hk.1.logins.append fun h => by simp [he] at h⟩, trivial⟩
    rw [Shared.answer_log, accounts_append, signedUp_fails hr, Option.toList_none, List.append_nil]
    exact hk.1.rows
  · intro body s i id pg' hb hI hins
    -- the insert answers in its own step, so row and entry come together
    refine ⟨⟨?_, hI.logins.append fun h => by simp [he] at h⟩, trivial⟩
    have hup (w : World) : signedUp ⟨q, .ok { payload := .createdUser ⟨id⟩ }, w⟩ = some (asColumn body.login, id) := by
      rw [signedUp, if_pos he, hb]
    rw [Shared.answer_log, accounts_append, hup, Shared.answer_world, World.setPg_pg,
      (Postgres.insertUser_ok hins).1, List.map_append, hI.rows]
    rfl

/-! ## Login -/

/-- A login's token: that of the row with the login and the password. -/
theorem tokenIn_answer (cfg : Config D) {pg : Postgres} {login : String} {rows : List UserRow}
    (hrows : pg.selectUserByLogin login = .ok rows) (password token : String) :
    tokenIn (.ok (Login.answer cfg password rows)) = some token ↔
      ∃ r ∈ pg.users.rows, r.login = login ∧ r.password = password ∧
        token = cfg.jwt.sign cfg.loginSecret "JWT" kIssuer (stdToString r.id) := by
  obtain rfl := Postgres.selectUserByLogin_ok hrows
  set t := pg.users
  by_cases h : ∃ r ∈ t.rows, r.login = login
  · obtain ⟨r, hr, rfl⟩ := h
    have hone : t.rows.filter (·.login = r.login) = [r] :=
      Rows.filter_eq_singleton t.loginKey hr (by simp) fun x hx => by simpa using hx
    rw [hone, Login.answer]
    constructor
    · intro htok
      -- the password decides
      split at htok
      · simp [tokenIn, makeError] at htok
      · rename_i hp
        exact ⟨r, hr, rfl, not_not.1 hp, (Option.some.inj htok).symm⟩
    · rintro ⟨r', hr', hl, hp, rfl⟩
      obtain rfl := Rows.eq_of_key t.loginKey hr' hr hl
      rw [if_neg (not_not.2 hp)]; rfl
  · have hnone : t.rows.filter (·.login = login) = [] := by
      rw [List.filter_eq_nil_iff]
      intro r hr hl
      exact h ⟨r, hr, by simpa using hl⟩
    rw [hnone]
    constructor
    · intro htok
      simp [Login.answer, tokenIn, makeError] at htok
    · rintro ⟨r, hr, hl, -⟩
      exact absurd ⟨r, hr, hl⟩ h

theorem tokenIn_respond (cfg : Config D) (pg : Postgres) (login password token : String) :
    tokenIn (.ok (Login.respond cfg password (pg.selectUserByLogin login))) = some token ↔
      ∃ r ∈ pg.users.rows, r.login = login ∧ r.password = password ∧
        token = cfg.jwt.sign cfg.loginSecret "JWT" kIssuer (stdToString r.id) := by
  rcases pg.selectUserByLogin_cases login with ⟨-, hrows⟩ | ⟨hno, hrows⟩
  · rw [hrows]
    exact tokenIn_answer cfg hrows password token
  · -- no column holds such a login
    rw [hrows]
    constructor
    · intro htok
      simp [Login.respond, tokenIn, makeError] at htok
    · rintro ⟨r, hr, rfl, -⟩
      exact absurd (pg.users.columns r hr).1.1 hno

theorem login_keeps (cfg : Config D) (hjwt : cfg.jwt.RoundTrip)
    (hsecret : cfg.loginSecret = cfg.checkerSecret) (w₀ : World) {q : HttpRequest}
    (he : q.endpoint = .login) {s : State HttpRequest} (hI : AccountsLogged cfg w₀ s) :
    (Login.handleRequestJsonThrow cfg q).wp World.exec
      (fun i => ∀ login, i.fault (.execute .kSlave (.selectUserByLogin login)) = false)
      (AccountsLogged cfg w₀) AnyMove (Answers (AccountsLogged cfg w₀) AnyMove q) s s.world := by
  have hup {r : Except Exn HttpResponse} {w : World} : signedUp ⟨q, r, w⟩ = none := by
    rw [signedUp, if_neg (by rw [he]; decide)]
  have hkeep {r : Except Exn HttpResponse} {s : State HttpRequest} (hI : AccountsLogged cfg w₀ s)
      (hr : LoginSafe cfg w₀ s.log ⟨q, r, s.world⟩) :
      Answers (AccountsLogged cfg w₀) AnyMove q r s s.world := by
    refine ⟨⟨?_, hI.logins.append fun _ => hr⟩, trivial⟩
    rw [Shared.answer_log, accounts_append, hup, Option.toList_none, List.append_nil]
    exact hI.rows
  refine wp_login cfg ⟨hI, trivial⟩ ?_ ?_
  · intro r hbad htok
    refine hkeep hI ⟨fun body hb h1 h2 => ?_, fun token h => ?_⟩
    · rcases hbad body hb with h | h <;> simp_all
    · simp [htok] at h
  · intro body s i hb hI hi
    -- the table is read in the step that answers
    rw [if_neg (by rw [hi]; decide)]
    refine hkeep hI ⟨fun body' hb' _ _ => ?_, fun token htok => ?_⟩
    · obtain rfl := Except.ok.inj (hb.symm.trans hb')
      simp only [tokenIn_respond]
      exact ⟨fun ⟨_, r, hr, h1, h2, _⟩ => ⟨r, hr, h1, h2⟩, fun ⟨r, hr, h1, h2⟩ => ⟨_, r, hr, h1, h2, rfl⟩⟩
    · obtain ⟨r, hr, h1, -, rfl⟩ := (tokenIn_respond cfg _ _ _ _).1 htok
      refine ⟨body, r.id, hb, ?_, fun id' hid' => ?_, checkAuth_sign hjwt hsecret r.id⟩
      · rw [← hI.rows, ← h1]
        exact List.mem_map.2 ⟨r, hr, rfl⟩
      · rw [← hI.rows] at hid'
        obtain ⟨r', hr', he'⟩ := List.mem_map.1 hid'
        obtain ⟨hl', rfl⟩ := Prod.mk.inj he'
        rw [Rows.eq_of_key s.world.pg.users.loginKey hr' hr (hl'.trans h1.symm)]

/-! ## Runs -/

/-- **Accounts are safe** over any run of signups and logins. -/
theorem accounts_safe (cfg : Config D) (hjwt : cfg.jwt.RoundTrip)
    (hsecret : cfg.loginSecret = cfg.checkerSecret) (w₀ : World)
    (c : Pool Op Op.Ret HttpRequest Exn HttpResponse World)
    (h : Pool.Reach World.exec (serve cfg) AccountEvents (Pool.start w₀) c) :
    AccountsSafe cfg w₀ c.log := by
  refine (Pool.Reach.sound (I := AccountsLogged cfg w₀) (M := AnyMove) (fun _ => trivial)
    (fun _ _ _ _ _ => trivial) (fun _ _ _ he => he) (fun s q hI hq => ?_)
    (Pool.start_sound (w := w₀) ⟨?_, EachAnswer.nil⟩) h).1.1.safe
  · simp only [AccountEvents, List.mem_cons, List.not_mem_nil, or_false] at hq
    unfold serve dispatch
    rcases hq with he | he <;> rw [he]
    · exact signup_keeps cfg w₀ he hI
    · exact login_keeps cfg hjwt hsecret w₀ he hI
  · rw [accounts, List.filterMap_nil, List.append_nil]

/-! ## One client -/

def annSignup : HttpRequest where
  endpoint := .signup
  body := .obj [("login", .str "ann"), ("password", .str "password"), ("firstName", .str "Ann"),
    ("lastName", .str "Lee")]

def annLogin : HttpRequest where
  endpoint := .login
  body := .obj [("login", .str "ann"), ("password", .str "password")]

/-- After signup and login of one client. -/
def annState : State HttpRequest :=
  [annSignup, annLogin].foldl (Shared.alone World.exec (serve (clearConfig .throws)) {}) ⟨emptyWorld, []⟩

theorem accounts_safe_ann : AccountsSafe (clearConfig .throws) emptyWorld annState.log :=
  accounts_safe (clearConfig .throws) clearJwt_roundTrip rfl emptyWorld ⟨annState, []⟩
    (Pool.Reach.alone (fun _ _ _ => rfl) (by simp [AccountEvents, annLogin])
      (Pool.Reach.alone (fun _ _ _ => rfl) (by simp [AccountEvents, annSignup]) .start))

end Leadertask
