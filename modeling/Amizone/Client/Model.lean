import Amizone.Parse.LoginForm

/-!
# クライアントのログインと要求（`amizone/amizone.go`、`amizone/requests.go`）

`Client` のうちログインが読み書きする欄（`muLogin` の三つ）と、それを取り巻く時計と記録を
状態 `Sys` に持つ。HTTP の輸送層、クッキー入れ、ページの解析器、CapSolver はコードの外にあり、
環境 `Env` の関数として、それまでの記録に応じて答える。`login` と `doRequest` は互いを呼ぶ。
`doRequest(true, …)` は `login` を呼び、`login` は `doRequest(false, …)` を呼ぶ。

要求の本文は読み手（`io.Reader`）として渡り、送るときに読み切られる。再送は同じ読み手を渡す。
-/

namespace Amizone

open Parse

/-! ## 要求と応答 -/

/-- 要求の本文の読み手（`io.Reader`）。`rest` はまだ読まれていない内容。 -/
structure Reader where
  rest : String
  deriving DecidableEq, Repr

/-- 送るために読み手を読み切る。`nil` の本文は空の本文として送る。 -/
def readBody : Option Reader → String × Option Reader
  | none => ("", none)
  | some r => (r.rest, some ⟨""⟩)

/-- 輸送層に渡る要求（`*http.Request`）。 -/
structure Request where
  method : String
  url : String
  headers : List (String × String)
  body : String
  deriving DecidableEq, Repr

/-- 輸送層の返す応答（`*http.Response`）。`path` は転送のあとの `Request.URL.Path`、`body` は
本文を読み切れなければ `none`。 -/
structure Response where
  StatusCode : Nat
  path : String
  body : Option String
  deriving DecidableEq, Repr

/-- `doRequest` の返す `(*http.Response, error)`。`ok` の本文は読み切ったもの。 -/
inductive Reply where
  | ok (resp : Response) (body : String)
  | err (resp : Option Response) (msg : String)
  deriving DecidableEq, Repr

/-- 外から見える出来事。新しいものが先頭に来る。`attempt` は、ネットワークに出るログインの
試みのはじめ（`lastAttempt` を書く時刻）。 -/
inductive Event where
  | exchange (req : Request) (res : Except String Response)
  | attempt (time : Nat) (force : Bool)
  deriving DecidableEq, Repr

/-- コードの外にあるもの。`src/` にない定数 `internal.AmizoneDomain`、`internal.FirefoxUserAgent`
と、判定関数 `internal.IsLoggedIn`（クッキー入れ）、`parse.IsLoggedIn`（ページ）も含む。 -/
structure Env where
  AmizoneDomain : String
  FirefoxUserAgent : String
  newRequestOk : String → String → Bool
  transport : List Event → Request → Except String Response
  latency : List Event → Request → Nat
  jarLoggedIn : List Event → Bool
  IsLoggedIn : String → Bool
  parseDocument : String → Option Document
  solveTurnstile : List Event → String → String → Except String String

/-! ## 定数 -/

def BaseURL (E : Env) : String := "https://" ++ E.AmizoneDomain

def loginRequestEndpoint : String := "/"

def coursesEndpoint : String := "/Academics/MyCourses/CourseListSemWise"

def examinationResultEndpoint : String := "/Examination/Examination/ExaminationListSemWise"

def verificationTokenName : String := "__RequestVerificationToken"

def ErrFailedToVisitPage : String := "failed to visit page"

def ErrFailedToReadResponse : String := "failed to read response body"

def ErrFailedLogin : String := "failed to login"

def ErrInvalidCredentials : String := ErrFailedLogin ++ ": invalid credentials"

def ErrInternalFailure : String := "internal failure"

def ErrFailedToComposeRequest : String := ErrInternalFailure ++ ": failed to compose request"

def ErrFailedToParsePage : String := ErrInternalFailure ++ ": failed to parse page"

def ErrNon200StatusCode : String := "received non-200 status code from amizone - is it down?"

/-! ## 状態 -/

/-- `Client` のうち、ログインが読み書きするもの。`capsolver` は `capsolverClient != nil`。
時刻の `none` は `time.Time` のゼロ値。 -/
structure Client where
  credentials : Credentials
  capsolver : Bool
  lastAttempt : Option Nat
  lastLoginSuccess : Option Nat
  didLogin : Bool
  deriving DecidableEq, Repr

/-- クライアントと、その時計と記録。 -/
structure Sys where
  client : Client
  now : Nat
  trace : List Event
  deriving DecidableEq, Repr

/-- `NewClientWithOptions` が作るクライアント（ログインの前）。 -/
def Sys.init (cred : Credentials) (capsolver : Bool) (now : Nat) : Sys :=
  ⟨⟨cred, capsolver, none, none, false⟩, now, []⟩

/-- 試みのはじめ：`lastAttempt` に今の時刻を書き、記録に残す。 -/
def Sys.beginAttempt (s : Sys) (force : Bool) : Sys :=
  { s with client := { s.client with lastAttempt := some s.now },
           trace := .attempt s.now force :: s.trace }

/-- ログインの成功：`didLogin` を立て、`lastLoginSuccess` に今の時刻を書く。 -/
def Sys.succeed (s : Sys) : Sys :=
  { s with client := { s.client with didLogin := true, lastLoginSuccess := some s.now } }

/-- セッションの使い回し：`didLogin` を立てる。 -/
def Sys.reuse (s : Sys) : Sys := { s with client := { s.client with didLogin := true } }

/-- 要求を輸送層に渡す。答えと、掛かった時間と、やり取りの記録。 -/
def Sys.send (E : Env) (s : Sys) (req : Request) : Except String Response × Sys :=
  let res := E.transport s.trace req
  (res, { s with now := s.now + E.latency s.trace req, trace := .exchange req res :: s.trace })

/-! ## ログインの書式 -/

/-- `doRequest` が付ける頭書き。 -/
def requestHeaders (E : Env) (method : String) : List (String × String) :=
  [("User-Agent", E.FirefoxUserAgent), ("Referer", BaseURL E ++ "/"), ("Origin", BaseURL E)] ++
    if method = "POST" then [("Content-Type", "application/x-www-form-urlencoded")] else []

/-- 送る書式の値：検証の印と認証情報、空の `_QString` と `honeypot`、空でない追加の欄。 -/
def loginRequestData (cred : Credentials) (form : LoginFormFields) : Values :=
  let v : Values := (((((⟨[]⟩ : Values).set verificationTokenName form.VerificationToken).set
    "_UserName" cred.username).set "_Password" cred.password).set "_QString" "").set "honeypot" ""
  let v := if form.Salt != "" then v.set "Salt" form.Salt else v
  let v := if form.SecretNumber != "" then v.set "SecretNumber" form.SecretNumber else v
  let v := if form.Signature != "" then v.set "Signature" form.Signature else v
  if form.Challenge != "" then v.set "Challenge" form.Challenge else v

/-- CapSolver があり、Turnstile の鍵があれば解き、その答えを `RecaptchaToken` と
`cf-turnstile-response` に入れ、`_QString` を `test` にする。 -/
def solveCaptcha (E : Env) (s : Sys) (form : LoginFormFields) (v : Values) : Except String Values :=
  if s.client.capsolver && form.TurnstileSiteKey != "" then
    match E.solveTurnstile s.trace (BaseURL E) form.TurnstileSiteKey with
    | .error e => .error (ErrFailedLogin ++ ": failed to solve Turnstile CAPTCHA: " ++ e)
    | .ok token => .ok (((v.set "RecaptchaToken" token).set "_QString" "test").set
        "cf-turnstile-response" token)
  else .ok v

/-- 書式を送ったあとの判定：ログインの道に戻されれば認証情報の誤り、ページとクッキーの両方が
ログインを示せば成功、ほかは失敗。 -/
def loginResult (E : Env) (resp : Response) (body : String) (s : Sys) : Option String × Sys :=
  if resp.path = loginRequestEndpoint then (some ErrInvalidCredentials, s)
  else if !E.IsLoggedIn body then (some ErrFailedLogin, s)
  else if !E.jarLoggedIn s.trace then (some ErrFailedLogin, s)
  else (none, s.succeed)

/-- 応答を確かめる：200 でなければ誤り、本文を読み切れなければ応答と誤り、読めれば本文。 -/
def checkResponse : Except String Response → Reply
  | .error e => .err none (ErrFailedToVisitPage ++ ": " ++ e)
  | .ok resp =>
      if resp.StatusCode ≠ 200 then
        .err none (ErrNon200StatusCode ++ ": " ++ toString resp.StatusCode)
      else
        match resp.body with
        | none => .err (some resp) ErrFailedToReadResponse
        | some page => .ok resp page

/-! ## `login` と `doRequest` -/

mutual

/-- `Client.login`：使い回しと二分の抑えを確かめ、ページを取り、書式を送って結果を判定する。 -/
def login (E : Env) (force : Bool) (s : Sys) : Option String × Sys :=
  if !force && E.jarLoggedIn s.trace && within s.now s.client.lastLoginSuccess hour then
    (none, s.reuse)
  else if !force && within s.now s.client.lastAttempt (2 * minute) then
    if s.client.didLogin then (none, s) else (some "login throttled", s)
  else
    match doRequest E false "GET" "/" none (s.beginAttempt force) with
    | (.err _ e, s) => (some (ErrFailedLogin ++ ": " ++ e), s)
    | (.ok _ page, s) =>
        match ParseLoginForm E.parseDocument page with
        | none => (some (ErrFailedLogin ++ ": " ++ ErrFailedToParsePage), s)
        | some form =>
            if form.VerificationToken = "" then (some (ErrFailedLogin ++ ": " ++ ErrFailedToParsePage), s)
            else
              match solveCaptcha E s form (loginRequestData s.client.credentials form) with
              | .error e => (some e, s)
              | .ok v =>
                  match doRequest E false "POST" loginRequestEndpoint (some ⟨v.encode⟩) s with
                  | (.err _ e, s) => (some (ErrFailedLogin ++ ": " ++ e), s)
                  | (.ok resp body, s) => loginResult E resp body s
termination_by 2
decreasing_by all_goals simp_wf

/-- `Client.doRequest`：認証情報を確かめ、まだログインしていなければログインしてから送る。 -/
def doRequest (E : Env) (tryLogin : Bool) (method endpoint : String) (body : Option Reader)
    (s : Sys) : Reply × Sys :=
  if s.client.credentials = Credentials.empty then (.err none (ErrFailedLogin ++ ": invalid credentials"), s)
  else if tryLogin && !s.client.didLogin then
    match login E false s with
    | (some e, s) => (.err none e, s)
    | (none, s) => doRequestSend E false method endpoint body s
  else doRequestSend E tryLogin method endpoint body s
termination_by if tryLogin then 4 else 1
decreasing_by all_goals (simp_wf; cases tryLogin <;> simp_all)

/-- `doRequest` の後半：要求を作って送り、応答を確かめる。ページがログインしていないと読め、
`tryLogin` が立っていれば、強いてログインし直して同じ読み手で送り直す。 -/
def doRequestSend (E : Env) (tryLogin : Bool) (method endpoint : String) (body : Option Reader)
    (s : Sys) : Reply × Sys :=
  if !E.newRequestOk method (BaseURL E ++ endpoint) then (.err none ErrFailedToComposeRequest, s)
  else
    let (sent, body) := readBody body
    let (res, s) := s.send E ⟨method, BaseURL E ++ endpoint, requestHeaders E method, sent⟩
    match checkResponse res with
    | .ok resp page =>
        if tryLogin && s.client.credentials ≠ Credentials.empty && !E.IsLoggedIn page then
          match login E true s with
          | (some _, s) => (.err none ErrFailedLogin, s)
          | (none, s) => doRequest E false method endpoint body s
        else (.ok resp page, s)
    | r => (r, s)
termination_by if tryLogin then 3 else 0
decreasing_by all_goals (simp_wf; cases tryLogin <;> simp_all)

end

/-! ## 呼び出しの列 -/

/-- クライアントへの呼び出し：API のメソッドの `doRequest(true, …)`、`NewClient` の
`login(false)`、時の経過。 -/
inductive Call where
  | request (method endpoint : String) (body : Option String)
  | login
  | wait (d : Nat)
  deriving DecidableEq, Repr

def Sys.call (E : Env) (s : Sys) : Call → Sys
  | .request method endpoint body => (doRequest E true method endpoint (body.map (⟨·⟩)) s).2
  | .login => (login E false s).2
  | .wait d => { s with now := s.now + d }

def Sys.run (E : Env) (s : Sys) (calls : List Call) : Sys := calls.foldl (Sys.call E) s

/-- `GetCourses` と `GetExaminationResult` の送る本文 `url.Values{"sem": {semesterRef}}.Encode()`。 -/
def semesterPayload (semesterRef : String) : String := Values.encode ⟨[("sem", semesterRef)]⟩

/-- `GetCourses` の要求（応答のページの解析は含めない）。 -/
def GetCourses (semesterRef : String) : Call := .request "POST" coursesEndpoint (some (semesterPayload semesterRef))

/-- `GetExaminationResult` の要求（応答のページの解析は含めない）。 -/
def GetExaminationResult (semesterRef : String) : Call :=
  .request "POST" examinationResultEndpoint (some (semesterPayload semesterRef))

end Amizone
