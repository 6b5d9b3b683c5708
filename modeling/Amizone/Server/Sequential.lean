import Amizone.Server.SessionCache

/-!
# 一つずつ読むセッションキャッシュ

ほかのゴルーチンが動かなければ、各メソッドの本体は表を読み、確かめ、書くだけの関数として読める。
`Get`、`Set`、`Delete`、`GetOrCreate` を、そう読んだ状態の関数として書く。錠と局所状態は読まない。
`GetOrCreate` の遅い道は、錠を取ってから表を読み直し（`recheck`）、それでも生きた項がなければ
新しい `*Client` を作る（`create`）。`optionsOk` は `NewClientWithOptions` の選択肢が適用できたか、
`loginOk` はそのログインが成功したかである。
-/

namespace Amizone.Server

/-- `Delete`：錠を取って鍵の項を除く。 -/
def SessionCache.Delete (s : SessionCache) (username password : String) : Reply × SessionCache :=
  (.none, s.store (makeKey username password) none)

/-- `Get`。期限切れの項は `Delete` で消す。 -/
def SessionCache.Get (s : SessionCache) (username password : String) : Reply × SessionCache :=
  match s.sessions (makeKey username password) with
  | none => (.none, s)
  | some session =>
      if s.expired session then (.none, (s.Delete username password).2) else (.client session.client, s)

/-- `Set`：錠を取って、鍵の項を今の時刻に作った `*Client` の項で置き換える。 -/
def SessionCache.Set (s : SessionCache) (username password : String) (client : Nat) : Reply × SessionCache :=
  (.none, s.store (makeKey username password) (some ⟨client, s.now⟩))

/-- `GetOrCreate` の、新しい `*Client` を作ってログインし、表に入れる部分。 -/
def SessionCache.create (s : SessionCache) (username password : String) (optionsOk loginOk : Bool) :
    Reply × SessionCache :=
  let key := makeKey username password
  let client := s.clients
  let s := { s with clients := s.clients + 1 }
  if !optionsOk then (.error, s)
  else if username = "" ∧ password = "" then (.client client, s.store key (some ⟨client, s.now⟩))
  else
    let s := { s with logins := (key, client) :: s.logins }
    if loginOk then (.client client, s.store key (some ⟨client, s.now⟩)) else (.error, s)

/-- `GetOrCreate` の、錠を取ったあとの部分：確かめ直し、生きた項がなければ作る。 -/
def SessionCache.recheck (s : SessionCache) (username password : String) (optionsOk loginOk : Bool) :
    Reply × SessionCache :=
  match s.sessions (makeKey username password) with
  | some session =>
      if s.now - session.createdAt ≤ s.ttl then (.client session.client, s)
      else s.create username password optionsOk loginOk
  | none => s.create username password optionsOk loginOk

/-- `GetOrCreate`：生きた項があればその `*Client` を返し、なければ錠を取って確かめ直し（`recheck`）、まだ
なければ新しく作ってログインし、成功すれば入れる。`optionsOk` と `loginOk` は、選択肢の適用とログインの成否。 -/
def SessionCache.GetOrCreate (s : SessionCache) (username password : String) (optionsOk loginOk : Bool) :
    Reply × SessionCache :=
  match s.sessions (makeKey username password) with
  | some session =>
      if s.now - session.createdAt ≤ s.ttl then (.client session.client, s)
      else s.recheck username password optionsOk loginOk
  | none => s.recheck username password optionsOk loginOk

/-- 呼び出し `op` を一つずつ読んだもの。 -/
def SessionCache.call (s : SessionCache) (optionsOk loginOk : Bool) : Op → Reply × SessionCache
  | .get u p => s.Get u p
  | .set u p c => s.Set u p c
  | .delete u p => s.Delete u p
  | .getOrCreate u p => s.GetOrCreate u p optionsOk loginOk

end Amizone.Server
