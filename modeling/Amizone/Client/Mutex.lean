import Amizone.Client.Model

/-!
# ログインの錠 `muLogin` とゴルーチン（`amizone/amizone.go`、`amizone/requests.go`）

一つの `Client` を使うゴルーチンの並行な実行を、錠 `muLogin` を取る一歩と放す一歩まで分けて表す。
各ゴルーチンは一つの呼び出し（API のメソッドの `doRequest(true, …)`、`login(force)`、`DidLogin()`）を
実行し、その位置を入れ子の型に持つ。呼び出しの中の呼び出しは、呼ぶ側の位置の中に呼ばれた側の位置として
入る。ソースで `login` が呼ぶ `doRequest` は引数が `false` なので、その位置は `QuietRequest`
（認証情報を確かめて一つ送るだけ）であり、`DidLogin` も `login` も呼ばない。

`login` は `Lock` のすぐあとに `defer Unlock` を置くので、どの `return` でも錠を放す。ここでは、
`login` と `DidLogin` から戻る一歩が錠を放す。要求を送る一歩は、ほかのゴルーチンの一歩と入り混じる。
-/

namespace Amizone

open Parse

/-! ## 一歩の形 -/

/-- 一歩が錠にすること：そのまま、取る、放す。 -/
inductive LockOp where
  | keep
  | take
  | give
  deriving DecidableEq, Repr

/-- 一歩の行き先：同じ呼び出しの次の位置、または値を返して終わる。 -/
inductive Next (α β : Type) where
  | cont (a : α)
  | ret (b : β)
  deriving DecidableEq, Repr

/-! ## `doRequest(false, …)` -/

/-- `doRequest(false, …)` の位置：認証情報を確かめる、要求を作って送る。 -/
inductive QuietRequest where
  | start (method endpoint : String) (body : Option Reader)
  | send (method endpoint : String) (body : Option Reader)
  deriving DecidableEq, Repr

def QuietRequest.step (E : Env) : QuietRequest → Sys → Next QuietRequest Reply × Sys
  | .start m e b, s =>
      if s.client.credentials = Credentials.empty then
        (.ret (.err none (ErrFailedLogin ++ ": invalid credentials")), s)
      else (.cont (.send m e b), s)
  | .send m e b, s =>
      if !E.newRequestOk m (BaseURL E ++ e) then (.ret (.err none ErrFailedToComposeRequest), s)
      else
        let (res, s) := s.send E ⟨m, BaseURL E ++ e, requestHeaders E m, (readBody b).1⟩
        (.ret (checkResponse res), s)

/-! ## `DidLogin()` -/

/-- `DidLogin` の位置：錠を取る、`didLogin` を読んで錠を放す。 -/
inductive DidLoginRun where
  | lock
  | read
  deriving DecidableEq, Repr

def DidLoginRun.step : DidLoginRun → Sys → Bool → Option (Next DidLoginRun Bool × Sys × LockOp)
  | .lock, s, free => if free then some (.cont .read, s, .take) else none
  | .read, s, _ => some (.ret s.client.didLogin, s, .give)

/-! ## `login(force)` -/

/-- `login` の位置。`get` と `post` は入れ子の `doRequest(false, …)` を実行している。 -/
inductive LoginRun where
  | lock
  | check
  | get (q : QuietRequest)
  | afterGet (rep : Reply)
  | post (q : QuietRequest)
  | afterPost (rep : Reply)
  deriving DecidableEq, Repr

/-- 錠を持って戻る：`defer a.muLogin.Unlock()`。 -/
def loginReturn (r : Option String) (s : Sys) : Option (Next LoginRun (Option String) × Sys × LockOp) :=
  some (.ret r, s, .give)

def LoginRun.step (E : Env) (force : Bool) :
    LoginRun → Sys → Bool → Option (Next LoginRun (Option String) × Sys × LockOp)
  | .lock, s, free => if free then some (.cont .check, s, .take) else none
  | .check, s, _ =>
      if !force && E.jarLoggedIn s.trace && within s.now s.client.lastLoginSuccess hour then
        loginReturn none s.reuse
      else if !force && within s.now s.client.lastAttempt (2 * minute) then
        loginReturn (if s.client.didLogin then none else some "login throttled") s
      else some (.cont (.get (.start "GET" "/" none)), s.beginAttempt force, .keep)
  | .get q, s, _ =>
      match q.step E s with
      | (.cont q, s) => some (.cont (.get q), s, .keep)
      | (.ret rep, s) => some (.cont (.afterGet rep), s, .keep)
  | .afterGet rep, s, _ =>
      match rep with
      | .err _ e => loginReturn (some (ErrFailedLogin ++ ": " ++ e)) s
      | .ok _ page =>
          match ParseLoginForm E.parseDocument page with
          | none => loginReturn (some (ErrFailedLogin ++ ": " ++ ErrFailedToParsePage)) s
          | some form =>
              if form.VerificationToken = "" then loginReturn (some (ErrFailedLogin ++ ": " ++ ErrFailedToParsePage)) s
              else
                match solveCaptcha E s form (loginRequestData s.client.credentials form) with
                | .error e => loginReturn (some e) s
                | .ok v => some (.cont (.post (.start "POST" loginRequestEndpoint (some ⟨v.encode⟩))), s, .keep)
  | .post q, s, _ =>
      match q.step E s with
      | (.cont q, s) => some (.cont (.post q), s, .keep)
      | (.ret rep, s) => some (.cont (.afterPost rep), s, .keep)
  | .afterPost rep, s, _ =>
      match rep with
      | .err _ e => loginReturn (some (ErrFailedLogin ++ ": " ++ e)) s
      | .ok resp body => loginReturn (loginResult E resp body s).1 (loginResult E resp body s).2

/-! ## `doRequest(true, …)` -/

/-- API のメソッドの `doRequest(true, …)` の位置。`didLogin`、`login`、`relogin` は入れ子の
`DidLogin()`、`login(false)`、`login(true)` を、`resend` は最後の `doRequest(false, …)` を実行している。 -/
inductive RequestRun where
  | start
  | didLogin (d : DidLoginRun)
  | afterDidLogin (d : Bool)
  | login (l : LoginRun)
  | afterLogin (r : Option String)
  | send (tryLogin : Bool)
  | relogin (body : Option Reader) (l : LoginRun)
  | afterRelogin (body : Option Reader) (r : Option String)
  | resend (q : QuietRequest)
  deriving DecidableEq, Repr

/-- 入れ子の呼び出しの一歩を、呼ぶ側の一歩にする：続けるなら位置を包み、戻るならその値で次の位置へ進む。 -/
def RequestRun.nest {α β : Type} (wrap : α → RequestRun) (after : β → RequestRun) :
    Option (Next α β × Sys × LockOp) → Option (Next RequestRun Reply × Sys × LockOp) :=
  Option.map fun
    | (.cont a, s, op) => (.cont (wrap a), s, op)
    | (.ret b, s, op) => (.cont (after b), s, op)

def RequestRun.step (E : Env) (method endpoint : String) (body : Option Reader) :
    RequestRun → Sys → Bool → Option (Next RequestRun Reply × Sys × LockOp)
  | .start, s, _ =>
      if s.client.credentials = Credentials.empty then
        some (.ret (.err none (ErrFailedLogin ++ ": invalid credentials")), s, .keep)
      else some (.cont (.didLogin .lock), s, .keep)
  | .didLogin d, s, free => RequestRun.nest .didLogin .afterDidLogin (d.step s free)
  | .afterDidLogin d, s, _ => some (.cont (if d then .send true else .login .lock), s, .keep)
  | .login l, s, free => RequestRun.nest .login .afterLogin (l.step E false s free)
  | .afterLogin r, s, _ =>
      match r with
      | some e => some (.ret (.err none e), s, .keep)
      | none => some (.cont (.send false), s, .keep)
  | .send tryLogin, s, _ =>
      if !E.newRequestOk method (BaseURL E ++ endpoint) then
        some (.ret (.err none ErrFailedToComposeRequest), s, .keep)
      else
        let (sent, body) := readBody body
        let (res, s) := s.send E ⟨method, BaseURL E ++ endpoint, requestHeaders E method, sent⟩
        match checkResponse res with
        | .ok resp page =>
            if tryLogin && s.client.credentials ≠ Credentials.empty && !E.IsLoggedIn page then
              some (.cont (.relogin body .lock), s, .keep)
            else some (.ret (.ok resp page), s, .keep)
        | r => some (.ret r, s, .keep)
  | .relogin b l, s, free => RequestRun.nest (.relogin b) (.afterRelogin b) (l.step E true s free)
  | .afterRelogin b r, s, _ =>
      match r with
      | some _ => some (.ret (.err none ErrFailedLogin), s, .keep)
      | none => some (.cont (.resend (.start method endpoint b)), s, .keep)
  | .resend q, s, _ =>
      match q.step E s with
      | (.cont q, s) => some (.cont (.resend q), s, .keep)
      | (.ret rep, s) => some (.ret rep, s, .keep)

/-! ## ゴルーチン -/

/-- ゴルーチンの始める呼び出し。 -/
inductive Invocation where
  | request (method endpoint : String) (body : Option Reader)
  | login (force : Bool)
  | didLogin
  deriving DecidableEq, Repr

/-- 呼び出しの返した値。 -/
inductive Result where
  | reply (r : Reply)
  | login (r : Option String)
  | didLogin (d : Bool)
  deriving DecidableEq, Repr

/-- ゴルーチンの位置。 -/
inductive Goroutine where
  | idle
  | request (method endpoint : String) (body : Option Reader) (r : RequestRun)
  | login (force : Bool) (l : LoginRun)
  | didLogin (d : DidLoginRun)
  | done (r : Result)
  deriving DecidableEq, Repr

def Invocation.entry : Invocation → Goroutine
  | .request m e b => .request m e b .start
  | .login force => .login force .lock
  | .didLogin => .didLogin .lock

/-- 呼び出しの一歩を、ゴルーチンの一歩にする：続けるなら位置を包み、戻るなら値を持って終わる。 -/
def Goroutine.lift {α β : Type} (wrap : α → Goroutine) (result : β → Result) :
    Option (Next α β × Sys × LockOp) → Option (Goroutine × Sys × LockOp) :=
  Option.map fun
    | (.cont a, s, op) => (wrap a, s, op)
    | (.ret b, s, op) => (.done (result b), s, op)

/-- ゴルーチンの一歩。`free` は錠が空いていること。終わったゴルーチンは進まない。 -/
def Goroutine.step (E : Env) : Goroutine → Sys → Bool → Option (Goroutine × Sys × LockOp)
  | .idle, _, _ | .done _, _, _ => none
  | .request m e b r, s, free => Goroutine.lift (.request m e b) .reply (r.step E m e b s free)
  | .login force l, s, free => Goroutine.lift (.login force) .login (l.step E force s free)
  | .didLogin d, s, free => Goroutine.lift .didLogin .didLogin (d.step s free)

/-! ## 錠を持つ位置 -/

/-- 錠を持っている位置（`Lock` のあと、戻るまで）。 -/
def DidLoginRun.Holding : DidLoginRun → Bool
  | .lock => false
  | .read => true

def LoginRun.Holding : LoginRun → Bool
  | .lock => false
  | _ => true

def RequestRun.Holding : RequestRun → Bool
  | .didLogin d => d.Holding
  | .login l | .relogin _ l => l.Holding
  | _ => false

def Goroutine.Holding : Goroutine → Bool
  | .request _ _ _ r => r.Holding
  | .login _ l => l.Holding
  | .didLogin d => d.Holding
  | _ => false

/-- 次の一歩が錠を取る位置（`a.muLogin.Lock()`）。 -/
def Goroutine.NeedsLock : Goroutine → Bool
  | .request _ _ _ (.didLogin .lock) | .request _ _ _ (.login .lock) | .request _ _ _ (.relogin _ .lock)
  | .login _ .lock | .didLogin .lock => true
  | _ => false

/-- `login` の本体（錠を取ったあと、戻るまで）にいる。 -/
def Goroutine.InLogin : Goroutine → Bool
  | .request _ _ _ (.login l) | .request _ _ _ (.relogin _ l) | .login _ l => l.Holding
  | _ => false

/-- 呼び出しを実行している。 -/
def Goroutine.Running : Goroutine → Bool
  | .idle | .done _ => false
  | _ => true

/-! ## 全体 -/

/-- クライアントと、錠 `muLogin` を持つゴルーチン、各ゴルーチンの位置。 -/
structure World where
  sys : Sys
  holder : Option Nat
  threads : Nat → Goroutine

/-- 錠の持ち主を一歩に合わせて変える。 -/
def LockOp.apply (i : Nat) (holder : Option Nat) : LockOp → Option Nat
  | .keep => holder
  | .take => some i
  | .give => none

/-- ゴルーチン `i` の一歩。錠を取る一歩は、錠が空いているときだけ進む。 -/
def World.stepThread (E : Env) (w : World) (i : Nat) : Option World :=
  ((w.threads i).step E w.sys (w.holder = none)).map fun (g, s, op) =>
    { sys := s, holder := op.apply i w.holder, threads := Function.update w.threads i g }

/-- 並行な実行の一歩：休んでいるか終わったゴルーチンが呼び出しを始める、ゴルーチンが進む、時が経つ。 -/
inductive Action where
  | start (i : Nat) (c : Invocation)
  | run (i : Nat)
  | tick (d : Nat)
  deriving DecidableEq, Repr

def World.step (E : Env) (w : World) : Action → Option World
  | .start i c =>
      match w.threads i with
      | .idle | .done _ => some { w with threads := Function.update w.threads i c.entry }
      | _ => none
  | .run i => w.stepThread E i
  | .tick d => some { w with sys := { w.sys with now := w.sys.now + d } }

/-- 動作の列を順に実行する。途中で進めない動作があれば `none`。 -/
def World.exec (E : Env) (w : World) : List Action → Option World
  | [] => some w
  | a :: as => (w.step E a).bind fun w' => w'.exec E as

/-- 作られたばかりのクライアントと、休んでいるゴルーチン。 -/
def World.init (s : Sys) : World := ⟨s, none, fun _ => .idle⟩

/-- 始めの状態から動作の列で届く状態。 -/
inductive World.Reachable (E : Env) : World → Prop where
  | init (s : Sys) : World.Reachable E (World.init s)
  | step {w w' : World} (a : Action) : World.Reachable E w → w.step E a = some w' → World.Reachable E w'

theorem World.Reachable.exec {E : Env} {w w' : World} (h : World.Reachable E w) :
    ∀ {as : List Action}, w.exec E as = some w' → World.Reachable E w'
  | [], he => by cases he; exact h
  | a :: as, he => by
      simp only [World.exec, Option.bind_eq_some] at he
      obtain ⟨w₁, h₁, h₂⟩ := he
      exact (World.Reachable.step a h h₁).exec h₂

end Amizone
