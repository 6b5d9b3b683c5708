import Amizone.Client.Lemmas.Request

/-!
# 試しの門

具体的な実行を評価する門 `testPortal` と、その上で `login` と `doRequest(true, …)` が何をするかを、
一度だけ閉じた形で書く（`login_testPortal`、`doRequest_testPortal`）。具体的な実行の証明は、これを
書き換えに使い、門の定義を開かない。
-/

namespace Amizone

open Parse

variable {E : Env} {s a : Sys} {force : Bool} {form : Document} {accept : List Event → Bool}
  {api : List Event → String}

/-- 試しの門：`/` への `GET` はログインのページ `login` を返し、それは `form` と読まれる。
`/` への `POST` は `accept` が真なら `/Home` に進み、偽なら `/` に戻す。ほかの道はページ `api` を返す。
クッキー入れはいつもログインを示し、ページは `login` でなければログインしていると読まれる。 -/
def testPortal (form : Document) (accept : List Event → Bool) (api : List Event → String) : Env where
  AmizoneDomain := "s.amizone.net"
  FirefoxUserAgent := "Firefox"
  newRequestOk _ _ := true
  transport tr req :=
    if req.url = "https://s.amizone.net/" then
      if req.method = "GET" then .ok ⟨200, "/", some "login"⟩
      else if accept tr then .ok ⟨200, "/Home", some "home"⟩
      else .ok ⟨200, "/", some "login"⟩
    else .ok ⟨200, "/Home", some (api tr)⟩
  latency _ _ := 0
  jarLoggedIn _ := true
  IsLoggedIn b := b != "login"
  parseDocument b := if b = "login" then some form else none
  solveTurnstile _ _ _ := .error "no solver"

/-- 検証の印だけを持つログインの書式。 -/
def tokenOnlyForm : Document := ⟨[(verificationTokenName, some "tok")], []⟩

@[simp] theorem tokenOnlyForm_VerificationToken :
    (ParseLoginFormFromDom tokenOnlyForm).VerificationToken = "tok" := rfl

/-! ## 門の欄 -/

section Fields

variable {m u b : String} {tr : List Event} {req : Request}

@[simp] theorem testPortal_BaseURL : BaseURL (testPortal form accept api) = "https://s.amizone.net" := rfl

@[simp] theorem testPortal_newRequestOk : (testPortal form accept api).newRequestOk m u = true := rfl

@[simp] theorem testPortal_latency : (testPortal form accept api).latency tr req = 0 := rfl

@[simp] theorem testPortal_jarLoggedIn : (testPortal form accept api).jarLoggedIn tr = true := rfl

@[simp] theorem testPortal_IsLoggedIn : (testPortal form accept api).IsLoggedIn b = (b != "login") := rfl

@[simp] theorem testPortal_parseDocument :
    (testPortal form accept api).parseDocument b = if b = "login" then some form else none := rfl

@[simp] theorem testPortal_transport : (testPortal form accept api).transport tr req =
    if req.url = "https://s.amizone.net/" then
      if req.method = "GET" then .ok ⟨200, "/", some "login"⟩
      else if accept tr then .ok ⟨200, "/Home", some "home"⟩
      else .ok ⟨200, "/", some "login"⟩
    else .ok ⟨200, "/Home", some (api tr)⟩ := rfl

end Fields

/-! ## `login` -/

/-- 使い回しも抑えもなく、ページが取れ、書式に検証の印があり、CAPTCHA が済み、送った書式の応答が読めれば、
`login` の結果はその応答の判定である。 -/
theorem login_submit {resp resp' : Response} {page body : String} {f : LoginFormFields} {v : Values} {a' : Sys}
    (hr : (!force && E.jarLoggedIn s.trace && within s.now s.client.lastLoginSuccess hour) = false)
    (ht : (!force && within s.now s.client.lastAttempt (2 * minute)) = false)
    (hg : doRequest E false "GET" "/" none (s.beginAttempt force) = (.ok resp page, a))
    (hp : ParseLoginForm E.parseDocument page = some f) (hv : f.VerificationToken ≠ "")
    (hc : solveCaptcha E a f (loginRequestData a.client.credentials f) = .ok v)
    (hpost : doRequest E false "POST" loginRequestEndpoint (some ⟨v.encode⟩) a = (.ok resp' body, a')) :
    login E force s = loginResult E resp' body a' := by
  rw [login]; simp only [hr, ht, hg, hp, hv, hc, hpost, Bool.false_eq_true, if_false]

/-- CapSolver がなければ、CAPTCHA の段は書式の値をそのまま返す。 -/
theorem solveCaptcha_of_capsolver_false {f : LoginFormFields} {v : Values} (h : s.client.capsolver = false) :
    solveCaptcha E s f v = .ok v := by
  simp [solveCaptcha, h]

/-! ## 試しの門の上の要求 -/

section Requests

variable {b : Option Reader}

/-- 試しの門の `/` への `GET` は、ログインのページを返す。 -/
theorem testPortal_get_root (hc : s.client.credentials ≠ Credentials.empty) :
    doRequest (testPortal form accept api) false "GET" "/" none s =
      (.ok ⟨200, "/", some "login"⟩ "login",
        (s.send (testPortal form accept api) (sentRequest (testPortal form accept api) "GET" "/" none)).2) := by
  simp [doRequest_false, hc, sentRequest, checkResponse]

/-- 試しの門の `/` への `POST` は、`accept` が受ければ `/Home` に進み、受けなければ `/` に戻す。 -/
theorem testPortal_post_root (hc : s.client.credentials ≠ Credentials.empty) :
    doRequest (testPortal form accept api) false "POST" loginRequestEndpoint b s =
      let a := (s.send (testPortal form accept api)
        (sentRequest (testPortal form accept api) "POST" loginRequestEndpoint b)).2
      if accept s.trace then (.ok ⟨200, "/Home", some "home"⟩ "home", a)
      else (.ok ⟨200, "/", some "login"⟩ "login", a) := by
  simp only [doRequest_false, hc, if_false, testPortal_newRequestOk, Bool.true_eq_false, testPortal_transport]
  split_ifs <;> simp_all [sentRequest, checkResponse, loginRequestEndpoint]

end Requests

/-- 試しの門の上の `login`：使い回しも抑えもなく、CapSolver がなければ、ページを取り、書式に検証の印が
なければ誤りを返し、あれば書式を送って、`accept` が受ければ成功し、受けなければ認証情報の誤りを返す。 -/
theorem login_testPortal (hc : s.client.credentials ≠ Credentials.empty) (hcap : s.client.capsolver = false)
    (hr : (!force && within s.now s.client.lastLoginSuccess hour) = false)
    (ht : (!force && within s.now s.client.lastAttempt (2 * minute)) = false) :
    login (testPortal form accept api) force s =
      let E := testPortal form accept api
      let f := ParseLoginFormFromDom form
      let a := ((s.beginAttempt force).send E (sentRequest E "GET" "/" none)).2
      if f.VerificationToken = "" then (some (ErrFailedLogin ++ ": " ++ ErrFailedToParsePage), a)
      else
        let b := (a.send E (sentRequest E "POST" loginRequestEndpoint
          (some ⟨(loginRequestData s.client.credentials f).encode⟩))).2
        if accept a.trace then (none, b.succeed) else (some ErrInvalidCredentials, b) := by
  dsimp only
  set a := ((s.beginAttempt force).send (testPortal form accept api)
    (sentRequest (testPortal form accept api) "GET" "/" none)).2 with ha
  have hg : doRequest (testPortal form accept api) false "GET" "/" none (s.beginAttempt force) =
      (.ok ⟨200, "/", some "login"⟩ "login", a) := testPortal_get_root (by simpa using hc)
  have hac : a.client = { s.client with lastAttempt := some s.now } := by simp [ha]
  split_ifs with hv hacc
  · rw [login]; simp [hr, ht, hg, ParseLoginForm, hv]
  all_goals
    rw [login_submit (by simpa using hr) ht hg (by simp [ParseLoginForm]) hv
      (solveCaptcha_of_capsolver_false (by simpa [hac] using hcap))
      ((testPortal_post_root (by simpa [hac] using hc)).trans (by simp only [hacc]; rfl))]
    simp [hac, loginResult, loginRequestEndpoint]

/-- 試しの門の、`/` でない道への `doRequest(true, …)`（ログインの済んだクライアント）は、ページ `api` を
受け取り、それが `login` なら、強いてログインし直して送り直す。 -/
theorem doRequest_testPortal {m e : String} {b : Option Reader} (hc : s.client.credentials ≠ Credentials.empty)
    (hd : s.client.didLogin = true) (he : e ≠ "/") :
    doRequest (testPortal form accept api) true m e b s =
      let E := testPortal form accept api
      let a := (s.send E (sentRequest E m e b)).2
      if api s.trace = "login" then
        if (login E true a).1.isSome then (.err none ErrFailedLogin, (login E true a).2)
        else doRequest E false m e (readBody b).2 (login E true a).2
      else (.ok ⟨200, "/Home", some (api s.trace)⟩ (api s.trace), a) := by
  have hu : "https://s.amizone.net" ++ e ≠ "https://s.amizone.net/" := fun h =>
    he (String.ext (List.append_cancel_left (congrArg String.data (h.trans (by decide)))))
  have hok : checkResponse ((testPortal form accept api).transport s.trace
      (sentRequest (testPortal form accept api) m e b)) = .ok ⟨200, "/Home", some (api s.trace)⟩ (api s.trace) := by
    simp [sentRequest, hu, checkResponse]
  rw [doRequest_of_didLogin hc hd]
  dsimp only
  by_cases hl : api s.trace = "login"
  · rw [if_pos hl]; exact doRequestSend_relogin rfl hok (by simp [hl]) hc rfl
  · rw [if_neg hl]; exact doRequestSend_answered rfl hok (by simp [hl])

end Amizone
