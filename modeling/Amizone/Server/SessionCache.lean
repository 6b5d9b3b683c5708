import Amizone.Basic

/-!
# セッションキャッシュ（`server/session_cache.go`）

`SessionCache` を、ゴルーチンの並行な実行として表す。各ゴルーチンは一つの呼び出し（`Get`、`Set`、
`Delete`、`GetOrCreate`）を実行し、その進み具合をプログラムカウンタ `Pc` に持つ。読み出しの錠
（`RLock` から `RUnlock` まで）と、`Set`・`Delete`・`Get` の書き込みの錠は、間に何も挟まないので
一歩で表し、錠が空いているときだけ進める。`GetOrCreate` の遅い道は、書き込みの錠を持ったまま
ログインを待つので、錠を取る一歩と放す一歩を分けて表す。

`cachedSession.lastUsed` は書かれるだけで、どこからも読まれないので持たない。それを書く一歩は、
錠を取ることだけが残る。幽霊の状態として、作られた `*Client` の数と、ログインの試みの記録を持つ。
-/

namespace Amizone.Server

/-- `SessionCache.makeKey`：利用者名と合言葉を `:` でつないだ表の鍵。 -/
def makeKey (username password : String) : String := username ++ ":" ++ password

/-- `DefaultSessionTTL`：正でない `ttl` の代わりに使う期限、30 分。 -/
def DefaultSessionTTL : Nat := 30 * minute

/-- 表の一項（`cachedSession`）。`client` は `*amizone.Client` を、作られた順の番号で表す。 -/
structure Entry where
  client : Nat
  createdAt : Nat
  deriving DecidableEq, Repr

/-- 呼び出しが返すもの。`error` は `GetOrCreate` の `(nil, err)`。 -/
inductive Reply where
  | client (c : Nat)
  | none
  | error
  deriving DecidableEq, Repr

/-- 始められる呼び出し。 -/
inductive Op where
  | get (u p : String)
  | set (u p : String) (c : Nat)
  | delete (u p : String)
  | getOrCreate (u p : String)
  deriving DecidableEq, Repr

/-- ゴルーチンが次に行う一歩と、その局所変数。 -/
inductive Pc where
  | idle
  | getRead (u p : String)
  | getCheck (u p : String) (e : Entry)
  | getDelete (u p : String)
  | getTouch (e : Entry)
  | setNow (u p : String) (c : Nat)
  | setStore (u p : String) (c t : Nat)
  | delete (u p : String)
  | gocRead (u p : String)
  | gocCheck (u p : String) (found : Option Entry)
  | gocTouch (e : Entry)
  | gocLock (u p : String)
  | gocRecheck (u p : String)
  | gocNew (u p : String)
  | gocLogin (u p : String) (c : Nat)
  | gocStore (u p : String) (c : Nat)
  | done (r : Reply)
  deriving DecidableEq, Repr

/-- 呼び出しの最初の一歩。 -/
def Op.entry : Op → Pc
  | .get u p => .getRead u p
  | .set u p c => .setNow u p c
  | .delete u p => .delete u p
  | .getOrCreate u p => .gocRead u p

/-- `sc.mu` を書き込みで持っている間の一歩（`GetOrCreate` の遅い道）。 -/
def Pc.Holding : Pc → Bool
  | .gocRecheck _ _ | .gocNew _ _ | .gocLogin _ _ _ | .gocStore _ _ _ => true
  | _ => false

/-- `GetOrCreate` が新しい `*Client` を作り、ログインし、表に入れるまでの一歩と、その鍵。 -/
def Pc.creatingKey : Pc → Option String
  | .gocNew u p | .gocLogin u p _ | .gocStore u p _ => some (makeKey u p)
  | _ => none

/-- `sc.mu` を取る一歩（読み出しか書き込みか）。錠が書き込みで持たれている間は進めない。 -/
def Pc.NeedsLock : Pc → Bool
  | .getRead _ _ | .getDelete _ _ | .getTouch _ | .setStore _ _ _ _ | .delete _ _
  | .gocRead _ _ | .gocTouch _ | .gocLock _ _ => true
  | _ => false

/-- 呼び出しの途中にいる。 -/
def Pc.Running : Pc → Bool
  | .idle | .done _ => false
  | _ => true

/-- `SessionCache` と、それを使うゴルーチンの全体の状態。`writer` は `sc.mu` を書き込みで持つゴルーチン。 -/
structure SessionCache where
  sessions : String → Option Entry
  ttl : Nat
  now : Nat
  writer : Option Nat
  threads : Nat → Pc
  clients : Nat
  logins : List (String × Nat)

/-- `NewSessionCache(ttl)`。正でない `ttl` は既定値に置き換える。 -/
def NewSessionCache (ttl : Int) (now : Nat) : SessionCache where
  sessions := fun _ => none
  ttl := if ttl ≤ 0 then DefaultSessionTTL else ttl.toNat
  now := now
  writer := none
  threads := fun _ => .idle
  clients := 0
  logins := []

/-- 鍵 `k` の項が生きている（作られてから `ttl` 以内）。 -/
def SessionCache.Live (s : SessionCache) (k : String) : Prop :=
  match s.sessions k with
  | some e => s.now - e.createdAt ≤ s.ttl
  | none => False

instance (s : SessionCache) (k : String) : Decidable (s.Live k) :=
  match h : s.sessions k with
  | some e => decidable_of_iff (s.now - e.createdAt ≤ s.ttl) (by simp [SessionCache.Live, h])
  | none => isFalse (by simp [SessionCache.Live, h])

/-- 項 `e` は期限切れ（`time.Since(e.createdAt) > sc.ttl`）。 -/
def SessionCache.expired (s : SessionCache) (e : Entry) : Bool := decide (s.ttl < s.now - e.createdAt)

/-- `cleanup`：期限切れの項をすべて除く。 -/
def SessionCache.sweep (s : SessionCache) : String → Option Entry :=
  fun k => (s.sessions k).filter fun e => !s.expired e

/-- ゴルーチン `i` の局所状態を `pc` にする。 -/
def SessionCache.setPc (s : SessionCache) (i : Nat) (pc : Pc) : SessionCache :=
  { s with threads := Function.update s.threads i pc }

/-- 鍵 `k` の項を置き換える（`delete` は `none`）。 -/
def SessionCache.store (s : SessionCache) (k : String) (v : Option Entry) : SessionCache :=
  { s with sessions := Function.update s.sessions k v }

/-- 錠が空いているときだけ進む一歩。 -/
def SessionCache.whenFree (s : SessionCache) (s' : SessionCache) : Option SessionCache :=
  if s.writer = none then some s' else none

/-- ゴルーチン `i` の次の一歩。`ok` は外の世界の選択で、`NewClientWithOptions` の選択肢が
適用できたか、ログインが成功したかを表す。 -/
def SessionCache.stepThread (s : SessionCache) (i : Nat) (ok : Bool) : Option SessionCache :=
  match s.threads i with
  | .idle | .done _ => none
  | .getRead u p =>
      s.whenFree (s.setPc i (match s.sessions (makeKey u p) with
        | none => .done .none
        | some e => .getCheck u p e))
  | .getCheck u p e => some (s.setPc i (if s.expired e then .getDelete u p else .getTouch e))
  | .getDelete u p => s.whenFree ((s.store (makeKey u p) none).setPc i (.done .none))
  | .getTouch e => s.whenFree (s.setPc i (.done (.client e.client)))
  | .setNow u p c => some (s.setPc i (.setStore u p c s.now))
  | .setStore u p c t =>
      s.whenFree ((s.store (makeKey u p) (some ⟨c, t⟩)).setPc i (.done .none))
  | .delete u p => s.whenFree ((s.store (makeKey u p) none).setPc i (.done .none))
  | .gocRead u p => s.whenFree (s.setPc i (.gocCheck u p (s.sessions (makeKey u p))))
  | .gocCheck u p found =>
      some (s.setPc i (match found with
        | some e => if s.now - e.createdAt ≤ s.ttl then .gocTouch e else .gocLock u p
        | none => .gocLock u p))
  | .gocTouch e => s.whenFree (s.setPc i (.done (.client e.client)))
  | .gocLock u p => s.whenFree ({ s with writer := some i }.setPc i (.gocRecheck u p))
  | .gocRecheck u p =>
      match s.sessions (makeKey u p) with
      | some e =>
          if s.now - e.createdAt ≤ s.ttl then
            some ({ s with writer := none }.setPc i (.done (.client e.client)))
          else some (s.setPc i (.gocNew u p))
      | none => some (s.setPc i (.gocNew u p))
  | .gocNew u p =>
      let s' := { s with clients := s.clients + 1 }
      if !ok then some ({ s' with writer := none }.setPc i (.done .error))
      else if u = "" ∧ p = "" then some (s'.setPc i (.gocStore u p s.clients))
      else some ({ s' with logins := (makeKey u p, s.clients) :: s.logins }.setPc i
        (.gocLogin u p s.clients))
  | .gocLogin u p c =>
      if ok then some (s.setPc i (.gocStore u p c))
      else some ({ s with writer := none }.setPc i (.done .error))
  | .gocStore u p c =>
      some ({ s.store (makeKey u p) (some ⟨c, s.now⟩) with writer := none }.setPc i
        (.done (.client c)))

/-- 並行な実行の一歩：呼び出しを始める、ゴルーチンが進む、時が経つ、掃除が走る。 -/
inductive Action where
  | start (i : Nat) (op : Op)
  | run (i : Nat) (ok : Bool)
  | tick (d : Nat)
  | cleanup
  deriving DecidableEq, Repr

def SessionCache.step (s : SessionCache) : Action → Option SessionCache
  | .start i op => if s.threads i = .idle then some (s.setPc i op.entry) else none
  | .run i ok => s.stepThread i ok
  | .tick d => some { s with now := s.now + d }
  | .cleanup => s.whenFree { s with sessions := s.sweep }

/-- 動作の列を順に実行する。途中で進めない動作があれば `none`。 -/
def SessionCache.exec (s : SessionCache) : List Action → Option SessionCache
  | [] => some s
  | a :: as => (s.step a).bind fun s' => s'.exec as

/-- 新しいキャッシュから、任意の動作の順で届く状態。 -/
inductive Reachable : SessionCache → Prop where
  | init (ttl : Int) (now : Nat) : Reachable (NewSessionCache ttl now)
  | step {s s' : SessionCache} (a : Action) : Reachable s → s.step a = some s' → Reachable s'

theorem Reachable.exec {s s' : SessionCache} (h : Reachable s) :
    ∀ {as : List Action}, s.exec as = some s' → Reachable s'
  | [], he => by cases he; exact h
  | a :: as, he => by
      simp only [SessionCache.exec, Option.bind_eq_some] at he
      obtain ⟨s₁, h₁, h₂⟩ := he
      exact (Reachable.step a h h₁).exec h₂

end Amizone.Server
