import Amizone.Client.Lemmas.Throttle
import Amizone.Client.Feedback
import Amizone.Client.Lemmas.Mutex
import Amizone.Client.Lemmas.Progress
import Amizone.Client.Lemmas.Portal

/-!
# クライアントのログインについての定理

ログインの抑え（二分の窓）、書式の検証、`login` の結果と副作用、`doRequest` の
送り直し、評価の一括送信、そしてログインの錠 `muLogin` についての主な結果。錠の使い方は行き詰まらず、
途中の呼び出しは錠の持ち主を先に進めれば値を返す。具体的な実行は、試しの門 `testPortal` の上で、
そこでの `login` と `doRequest` の閉じた形（`login_testPortal`、`doRequest_testPortal`）で評価する。
-/

namespace Amizone

open Parse

variable {E : Env} {s s' : Sys} {r : Option String} {force : Bool}

/-! ## 二分の抑え -/

/-- 呼び出しのどの列でも、強いないログインの試みは、一つ前の試みの始まりから二分以上あとに始まる。 -/
theorem unforced_attempt_after_two_minutes (E : Env) (cred : Credentials) (capsolver : Bool) (now : Nat)
    (calls : List Call) {pre post : List (Nat × Bool)} {t₁ t₂ : Nat} {f₁ : Bool}
    (h : attempts ((Sys.init cred capsolver now).run E calls).trace = pre ++ (t₂, false) :: (t₁, f₁) :: post) :
    t₁ + 2 * minute ≤ t₂ :=
  Spaced.gap (h ▸ ((ThrottleInv.init cred capsolver now).run calls).spaced)

theorem unforced_attempt_after_two_minutes_on_refusing_portal :
    attempts ((Sys.init ⟨"u", "p"⟩ false 0).run (testPortal tokenOnlyForm (fun _ => false) fun _ => "login")
        [.login, .wait (2 * minute), .login]).trace = [] ++ (2 * minute, false) :: (0, false) :: [] ∧
      0 + 2 * minute ≤ 2 * minute := by
  have h : attempts ((Sys.init ⟨"u", "p"⟩ false 0).run (testPortal tokenOnlyForm (fun _ => false)
      fun _ => "login") [.login, .wait (2 * minute), .login]).trace = [] ++ (2 * minute, false) :: (0, false) :: [] := by
    simp [Sys.run, Sys.call, Sys.init, login_testPortal, Credentials.empty, within]
  exact ⟨h, unforced_attempt_after_two_minutes _ _ _ _ _ h⟩

/-- ゴルーチンがどう入り混じっても、`lastAttempt` は最後の試みの始まりを指し、強いないログインの試みは
一つ前の試みの始まりから二分以上あとに始まる。 -/
theorem concurrent_unforced_attempt_after_two_minutes (E : Env) (cred : Credentials) (capsolver : Bool) (now : Nat)
    {as : List Action} {w : World} (he : (World.init (Sys.init cred capsolver now)).exec E as = some w) :
    w.sys.client.lastAttempt = (attempts w.sys.trace).head?.map Prod.fst ∧
      ∀ pre post t₁ t₂ f₁, attempts w.sys.trace = pre ++ (t₂, false) :: (t₁, f₁) :: post → t₁ + 2 * minute ≤ t₂ :=
  have h := (ThrottleInv.init cred capsolver now).exec he
  ⟨h.last, fun _ _ _ _ _ ht => Spaced.gap (ht ▸ h.spaced)⟩

/-- ゴルーチン 0 が錠を持ってログインを試みるあいだに、ゴルーチン 1 の要求が始まって錠を待ち、
二分後にそれ自身のログインを試みる。 -/
theorem attempts_spaced_while_request_waits_for_login :
    let w := ((World.init (Sys.init ⟨"u", "p"⟩ false 0)).exec (testPortal tokenOnlyForm (fun _ => false) fun _ => "login")
      [.start 0 (.login false), .run 0, .run 0, .start 1 (.request "POST" coursesEndpoint none), .run 1,
       .run 0, .run 0, .run 0, .run 0, .run 0, .run 0, .tick (2 * minute),
       .run 1, .run 1, .run 1, .run 1, .run 1]).get (by decide)
    attempts w.sys.trace = [] ++ (2 * minute, false) :: (0, false) :: [] ∧ 0 + 2 * minute ≤ 2 * minute := by
  intro w
  have he : (World.init (Sys.init ⟨"u", "p"⟩ false 0)).exec _ _ = some w := (Option.some_get _).symm
  have ht : attempts w.sys.trace = [] ++ (2 * minute, false) :: (0, false) :: [] := by decide
  exact ⟨ht, (concurrent_unforced_attempt_after_two_minutes _ _ _ _ he).2 [] [] 0 (2 * minute) false ht⟩

/-- 強いた試み（`doRequest` のログインし直し）は窓を確かめない。十分目に成功したあと、ページが
ログインしていないと読める要求ごとに、失敗した試みのすぐあとに次の試みが出る。 -/
theorem forced_attempt_within_two_minutes :
    attempts ((Sys.init ⟨"u", "p"⟩ false 0).run
        (testPortal tokenOnlyForm (fun tr => (attempts tr).length ≤ 1) fun _ => "login")
        [.login, .wait (10 * minute), .request "GET" "/Home" none, .wait second,
          .request "GET" "/Home" none]).trace =
        [(10 * minute + second, true), (10 * minute, true), (0, false)] ∧
      ((Sys.init ⟨"u", "p"⟩ false 0).run
        (testPortal tokenOnlyForm (fun tr => (attempts tr).length ≤ 1) fun _ => "login")
        [.login, .wait (10 * minute), .request "GET" "/Home" none, .wait second,
          .request "GET" "/Home" none]).client.lastLoginSuccess = some 0 := by
  simp [Sys.run, Sys.call, Sys.init, login_testPortal, doRequest_testPortal, Credentials.empty, within]

/-! ## 書式の検証 -/

/-- ログインのページの検証の印が空なら（読めなくても）、`login` は誤りを返し、`POST` を一つも送らない。 -/
theorem login_without_token_sends_no_post {added : List Event} {req : Request} {res : Except String Response}
    {resp : Response} {page : String}
    (h : login E force s = (r, s')) (hadd : s'.trace = added ++ s.trace) (hget : .exchange req res ∈ added)
    (hm : req.method = "GET") (hok : checkResponse res = .ok resp page)
    (hform : ∀ form, ParseLoginForm E.parseDocument page = some form → form.VerificationToken = "") :
    r.isSome ∧ ∀ req' res', .exchange req' res' ∈ added → req'.method ≠ "POST" := by
  rcases login_exit h with ⟨-, -, -, -, rfl⟩ | ⟨-, -, -, -, rfl⟩ | ⟨-, hx⟩
  · simp [List.self_eq_append_left.1 hadd] at hget
  · simp [List.self_eq_append_left.1 hadd] at hget
  · obtain ⟨get, post, ht, hgetM, hpostM, -, hempty, -⟩ := hx.shape
    have hin : Event.exchange req res ∈ get :=
      (AttemptExit.mem_added ht hadd hget).resolve_left fun hp => by simp [method_of_mem hpostM hp] at hm
    obtain ⟨rfl, hr⟩ := hempty req res resp page hin hok hform
    refine ⟨hr, fun req' res' hmem => ?_⟩
    rcases AttemptExit.mem_added ht hadd hmem with hp | hg
    · cases hp
    · rw [method_of_mem hgetM hg]; decide

theorem login_without_token_sends_no_post_on_empty_form :
    (login (testPortal ⟨[], []⟩ (fun _ => true) fun _ => "login") false (Sys.init ⟨"u", "p"⟩ false 0)).1.isSome ∧
      ∀ req' res', Event.exchange req' res' ∈
        [.exchange ⟨"GET", "https://s.amizone.net/", requestHeaders (testPortal ⟨[], []⟩ (fun _ => true)
          fun _ => "login") "GET", ""⟩ (.ok ⟨200, "/", some "login"⟩), .attempt 0 false] →
        req'.method ≠ "POST" :=
  login_without_token_sends_no_post rfl
    (by simp [Sys.init, login_testPortal, Credentials.empty, ParseLoginFormFromDom, Document.inputValue,
      sentRequest, readBody])
    (List.mem_cons_self _ _) rfl rfl
    (by simp [ParseLoginForm, ParseLoginFormFromDom, Document.inputValue])

/-- `login` は検証の印だけを確かめる。`Salt` などの欠けた書式（`IsValid` でない）も、認証情報を
載せて送る。 -/
theorem login_submits_form_without_salt :
    (ParseLoginForm (testPortal tokenOnlyForm (fun _ => true) fun _ => "login").parseDocument "login").map
        LoginFormFields.IsValid = some false ∧
      ∃ req res rest, (login (testPortal tokenOnlyForm (fun _ => true) fun _ => "login") false
          (Sys.init ⟨"u", "p"⟩ false 0)).2.trace = .exchange req res :: rest ∧ req.method = "POST" ∧
        req.body = "_Password=p&_QString=&_UserName=u&__RequestVerificationToken=tok&honeypot=" := by
  refine ⟨by decide, ?_⟩
  simp [Sys.init, login_testPortal, Credentials.empty, sentRequest, readBody]
  decide

/-! ## `login` の結果と副作用 -/

/-- `doRequest` は、自分では `login` を高々一度呼び、要求を高々二つ送る。`login(false)` を呼ぶのは
`tryLogin` が立っていて、まだログインしていないときで、そのあとは一つだけ送る。ページがログインして
いないと読めれば `login(true)` を呼び、送り直しは `doRequest(false, …)` なので、その応答のページは、
ログインしていないと読めても、そのまま確かめて返す。 -/
theorem doRequest_own_calls {tl : Bool} {m e : String} {b : Option Reader} {rep : Reply}
    (h : doRequest E tl m e b s = (rep, s')) :
    ∃ calls, s' = OwnCall.run E calls s ∧
      (calls = [] ∨ calls = [.send (sentRequest E m e b)] ∨
        (tl = true ∧ (calls = [.login false] ∨ calls = [.login false, .send (sentRequest E m e b)] ∨
          calls = [.send (sentRequest E m e b), .login true] ∨
          (calls = [.send (sentRequest E m e b), .login true, .send (sentRequest E m e (readBody b).2)] ∧
            rep = checkResponse (E.transport (OwnCall.run E [.send (sentRequest E m e b), .login true] s).trace
              (sentRequest E m e (readBody b).2)))))) := by
  rcases doRequest_exit h with ⟨-, -, rfl⟩ | ⟨-, ht, -, ⟨e', hl, -⟩ | ⟨s₁, hl, hx⟩⟩ | ⟨-, -, hx⟩
  · exact ⟨[], rfl, .inl rfl⟩
  · exact ⟨[.login false], by simp [OwnCall.run, hl], .inr (.inr ⟨ht, .inl rfl⟩)⟩
  · obtain ⟨calls, rfl, hc⟩ := hx.own_calls
    rcases hc with rfl | rfl | ⟨hf, -⟩
    · exact ⟨[.login false], by simp [OwnCall.run, hl], .inr (.inr ⟨ht, .inl rfl⟩)⟩
    · exact ⟨_, by simp [OwnCall.run, hl], .inr (.inr ⟨ht, .inr (.inl rfl)⟩)⟩
    · cases hf
  · obtain ⟨calls, rfl, hc⟩ := hx.own_calls
    rcases hc with rfl | rfl | ⟨ht, rfl | ⟨rfl, hrep⟩⟩
    · exact ⟨[], rfl, .inl rfl⟩
    · exact ⟨_, rfl, .inr (.inl rfl)⟩
    · exact ⟨_, rfl, .inr (.inr ⟨ht, .inr (.inr (.inl rfl))⟩)⟩
    · exact ⟨_, rfl, .inr (.inr ⟨ht, .inr (.inr (.inr ⟨rfl, hrep⟩))⟩)⟩

/-- 送り直しは、最初の要求の読み手を使うので、本文を空にして送る。ページがログインしていないと
読め、強いたログインが成功すれば、最後に送られるのは、最初と同じ方法、同じ URL、同じ頭書きで、
本文だけが空の要求である。 -/
theorem doRequest_replay_sends_empty_body {m e x : String} {resp : Response} {page : String} {rep : Reply}
    (h : doRequest E true m e (some ⟨x⟩) s = (rep, s'))
    (hc : s.client.credentials ≠ Credentials.empty) (hd : s.client.didLogin = true)
    (hn : E.newRequestOk m (BaseURL E ++ e) = true)
    (hok : checkResponse (E.transport s.trace (sentRequest E m e (some ⟨x⟩))) = .ok resp page)
    (hnot : E.IsLoggedIn page = false)
    (hlog : (login E true (s.send E (sentRequest E m e (some ⟨x⟩))).2).1 = none) :
    (sentRequest E m e (some ⟨x⟩)).body = x ∧
      ∃ res, s'.trace.head? = some (.exchange { sentRequest E m e (some ⟨x⟩) with body := "" } res) := by
  refine ⟨rfl, ?_⟩
  rcases doRequest_exit h with ⟨hc', -⟩ | ⟨-, -, hd', -⟩ | ⟨-, -, hx⟩
  · exact absurd hc' hc
  · rw [hd] at hd'; cases hd'
  · cases hx with
    | composeFailed hn' => rw [hn] at hn'; cases hn'
    | answered _ hno => have := hno resp page hok rfl hc; rw [hnot] at this; cases this
    | reloginFailed _ _ _ _ hl => rw [hl] at hlog; cases hlog
    | resent _ _ _ _ hl hd₂ =>
        simp only [doRequest_false, login_credentials hl, Sys.send_client, hc, hn, Bool.true_eq_false,
          if_false] at hd₂
        cases hd₂
        exact ⟨_, rfl⟩

/-- 十時間前にログインしたクライアント。 -/
def staleClient : Sys := ⟨⟨⟨"u", "p"⟩, false, none, some 0, true⟩, 10 * hour, []⟩

/-- セッションの切れた門：ログインし直すまで、ほかの道はログインのページを返す。 -/
def expiringPortal : Env :=
  testPortal tokenOnlyForm (fun _ => true) fun tr => if attempts tr = [] then "login" else "courses"

theorem getCourses_replay_sends_empty_body :
    (sentRequest expiringPortal "POST" coursesEndpoint (some ⟨semesterPayload "3"⟩)).body = "sem=3" ∧
      ∃ res, (staleClient.call expiringPortal (GetCourses "3")).trace.head? =
        some (.exchange { sentRequest expiringPortal "POST" coursesEndpoint (some ⟨semesterPayload "3"⟩) with
          body := "" } res) := by
  have hok : checkResponse (expiringPortal.transport staleClient.trace
      (sentRequest expiringPortal "POST" coursesEndpoint (some ⟨semesterPayload "3"⟩))) =
      .ok ⟨200, "/Home", some "login"⟩ "login" := by decide
  have h := doRequest_replay_sends_empty_body rfl (by decide) rfl rfl hok rfl
    (by simp [staleClient, expiringPortal, login_testPortal, Credentials.empty])
  exact ⟨h.1.trans (by decide), h.2⟩

theorem doRequest_own_calls_on_expired_session :
    ∃ calls, (doRequest expiringPortal true "POST" coursesEndpoint (some ⟨semesterPayload "3"⟩) staleClient).2 =
        OwnCall.run expiringPortal calls staleClient ∧
      (calls = [] ∨ calls = [.send (sentRequest expiringPortal "POST" coursesEndpoint (some ⟨semesterPayload "3"⟩))] ∨
        (true = true ∧ (calls = [.login false] ∨
          calls = [.login false, .send (sentRequest expiringPortal "POST" coursesEndpoint (some ⟨semesterPayload "3"⟩))] ∨
          calls = [.send (sentRequest expiringPortal "POST" coursesEndpoint (some ⟨semesterPayload "3"⟩)), .login true] ∨
          (calls = [.send (sentRequest expiringPortal "POST" coursesEndpoint (some ⟨semesterPayload "3"⟩)), .login true,
              .send (sentRequest expiringPortal "POST" coursesEndpoint (readBody (some ⟨semesterPayload "3"⟩)).2)] ∧
            (doRequest expiringPortal true "POST" coursesEndpoint (some ⟨semesterPayload "3"⟩) staleClient).1 =
              checkResponse (expiringPortal.transport (OwnCall.run expiringPortal
                [.send (sentRequest expiringPortal "POST" coursesEndpoint (some ⟨semesterPayload "3"⟩)), .login true]
                staleClient).trace
                (sentRequest expiringPortal "POST" coursesEndpoint (readBody (some ⟨semesterPayload "3"⟩)).2)))))) :=
  doRequest_own_calls rfl

/-! ## 評価の一括送信 -/

/-- 本文をどれも作れれば、書式ごとに一つずつ goroutine を走らせ、誤りなく返る。 -/
theorem fanOut_of_ok {fill : FeedbackSpec → FeedbackSpec} {Execute : FeedbackSpec → Except String String}
    {replies : Nat → Reply} {specs : List FeedbackSpec} (hexec : ∀ sp ∈ specs, ∃ p, Execute (fill sp) = .ok p)
    (i : Nat) :
    fanOut fill Execute replies i specs =
      ((List.range specs.length).map fun j => submissionGoroutine (replies (i + j)), none) := by
  induction specs generalizing i with
  | nil => rfl
  | cons sp specs ih =>
      obtain ⟨p, hp⟩ := hexec sp (List.mem_cons_self _ _)
      rw [fanOut, hp]
      simp only [ih (fun sp h => hexec sp (List.mem_cons_of_mem _ h)) (i + 1), List.length_cons,
        List.range_succ_eq_map, List.map_cons, List.map_map, Nat.add_zero, Prod.mk.injEq, and_true]
      congr 2
      funext j
      simp only [Function.comp, Nat.succ_eq_add_one, Nat.add_assoc, Nat.add_comm 1 j]

/-- 評価が正しく、ページと書式が読め、本文をどれも作れても、走らせた goroutine のどれかの送信が、本文を
読めなかった場合のほかの誤り（輸送の誤り、200 でない状態、ログインのし直しの失敗、…）で返れば、
その goroutine は `response.StatusCode` を読むときに nil を参照する。 -/
theorem SubmitFacultyFeedbackHack_dereferences_nil {rating queryRating : Int} {comment : String}
    {FacultyFeedback : String → Except String (List FeedbackSpec)} {Execute : FeedbackSpec → Except String String}
    {replies : Nat → Reply} {resp : Response} {page : String} {specs : List FeedbackSpec}
    (hrating : 1 ≤ rating ∧ rating ≤ 5) (hquery : 1 ≤ queryRating ∧ queryRating ≤ 3) (hcomment : comment ≠ "")
    (hpage : (doRequest E true "GET" facultyBaseEndpoint none s).1 = .ok resp page)
    (hspecs : FacultyFeedback page = .ok specs)
    (hexec : ∀ sp ∈ specs, ∃ p, Execute (FeedbackSpec.fill rating
      (if queryRating = 1 then 3 else if queryRating = 3 then 1 else queryRating) comment sp) = .ok p)
    {i : Nat} (hi : i < specs.length) {E' : Env} {s₁ s₂ : Sys} {b : Option Reader} {r : Option Response}
    {msg : String} (hsubmit : doRequest E' true "POST" facultyEndpointSubmitEndpoint b s₁ = (.err r msg, s₂))
    (hmsg : msg ≠ ErrFailedToReadResponse) (hreply : replies i = .err r msg) :
    .nilDereference ∈
      (SubmitFacultyFeedbackHack E s rating queryRating comment FacultyFeedback (.ok Execute) replies).goroutines := by
  have hgo : submissionGoroutine (replies i) = .nilDereference := by
    rcases doRequest_err_response hsubmit with rfl | h
    · rw [hreply]; rfl
    · exact absurd h hmsg
  unfold SubmitFacultyFeedbackHack
  rw [if_neg (by omega), if_neg (by omega), if_neg hcomment]
  simp only [hpage, hspecs, fanOut_of_ok hexec 0]
  exact List.mem_map.2 ⟨i, List.mem_range.2 hi, by simpa using hgo⟩

/-- 評価のページは読めるが、評価の送信（`POST`）は輸送の誤りで失敗する門。 -/
def feedbackPortal : Env :=
  { testPortal tokenOnlyForm (fun _ => true) (fun _ => "feedback") with
    transport := fun tr req =>
      if req.method = "POST" then .error "connection reset"
      else (testPortal tokenOnlyForm (fun _ => true) (fun _ => "feedback")).transport tr req }

/-- ログインの済んだクライアント。 -/
def loggedInClient : Sys := ⟨⟨⟨"u", "p"⟩, false, none, some 0, true⟩, 0, []⟩

theorem SubmitFacultyFeedbackHack_dereferences_nil_on_connection_reset :
    doRequest feedbackPortal true "POST" facultyEndpointSubmitEndpoint (some ⟨"payload"⟩) loggedInClient =
        (.err none "failed to visit page: connection reset",
          (loggedInClient.send feedbackPortal
            (sentRequest feedbackPortal "POST" facultyEndpointSubmitEndpoint (some ⟨"payload"⟩))).2) ∧
      .nilDereference ∈ (SubmitFacultyFeedbackHack feedbackPortal loggedInClient 5 2 "good"
        (fun _ => .ok [⟨"", "", "", [("FacultyId", "7")]⟩]) (.ok fun _ => .ok "payload")
        (fun _ => .err none "failed to visit page: connection reset")).goroutines := by
  have hpage : (doRequest feedbackPortal true "GET" facultyBaseEndpoint none loggedInClient).1 =
      .ok ⟨200, "/Home", some "feedback"⟩ "feedback" := by
    rw [doRequest_of_didLogin (by decide) rfl]
    refine congrArg Prod.fst (doRequestSend_answered rfl ?_ ?_) <;> rfl
  have hsubmit : doRequest feedbackPortal true "POST" facultyEndpointSubmitEndpoint (some ⟨"payload"⟩) loggedInClient =
      (.err none "failed to visit page: connection reset",
        (loggedInClient.send feedbackPortal
          (sentRequest feedbackPortal "POST" facultyEndpointSubmitEndpoint (some ⟨"payload"⟩))).2) := by
    rw [doRequest_of_didLogin (by decide) rfl]; exact doRequestSend_err rfl rfl
  exact ⟨hsubmit, SubmitFacultyFeedbackHack_dereferences_nil (by decide) (by decide) (by decide) hpage rfl
    (fun _ _ => ⟨_, rfl⟩) (i := 0) (by decide) hsubmit (by decide) rfl⟩

/-! ## ログインの錠 -/

/-- ログインの錠 `muLogin`：どの門と解き手のふるまいでも、届くどの状態で、錠を持つのは錠を持つ位置に
いるゴルーチンちょうどそれで、`login` の本体にいるゴルーチンは高々一つである。錠を持つゴルーチンは
錠を取る位置になく、錠を待たずに進める。呼び出しを終えたゴルーチンは錠を持たず、動いている
ゴルーチンがあれば、進めるゴルーチンがある。ゴルーチンの位置の一歩は、一つだけで走らせると、
`login(force)`、`DidLogin()`、API の `doRequest(true, …)` のコードと同じ値を返す。 -/
theorem muLogin_discipline {w : World} (hw : w.Reachable E) :
    (∀ i, w.holder = some i ↔ (w.threads i).Holding = true) ∧
    (∀ i j, (w.threads i).InLogin = true → (w.threads j).InLogin = true → i = j) ∧
    (∀ i, (w.threads i).Holding = true → (w.threads i).NeedsLock = false ∧ (w.stepThread E i).isSome) ∧
    (∀ i r, w.threads i = .done r → w.holder ≠ some i) ∧
    ((∃ i, (w.threads i).Running = true) → ∃ j, (w.stepThread E j).isSome) ∧
    (∀ force s, Returns (LoginRun.step E force) .lock s (login E force s).1 (login E force s).2) ∧
    (∀ s, Returns DidLoginRun.step .lock s s.client.didLogin s) ∧
    (∀ m e b s, Returns (RequestRun.step E m e b) .start s (doRequest E true m e b s).1 (doRequest E true m e b s).2) := by
  have h := hw.lockInv
  refine ⟨h, fun i j hi hj => ?_, fun i hi => ⟨(Goroutine.Holding.needsLock hi).1, World.stepThread_isSome_of_holding hi⟩,
    fun i r hr hh => ?_, fun ⟨i, hi⟩ => h.progress hi, fun _ => LoginRun.returns, DidLoginRun.returns,
    fun _ _ _ => RequestRun.returns⟩
  · exact Option.some.inj (((h i).2 (Goroutine.InLogin.holding hi)).symm.trans ((h j).2 (Goroutine.InLogin.holding hj)))
  · simpa [hr, Goroutine.Holding] using (h i).1 hh

/-- 一つのゴルーチンが強いてログインし直す途中で、もう一つの `doRequest(true, …)` が `DidLogin` の錠を
待つ状態。 -/
theorem muLogin_discipline_on_relogin_in_progress :
    let w := ((World.init staleClient).exec expiringPortal [.start 0 (.login true), .run 0,
      .start 1 (.request "POST" coursesEndpoint none), .run 1]).get (by decide)
    (∀ i, w.holder = some i ↔ (w.threads i).Holding = true) ∧
    (∀ i j, (w.threads i).InLogin = true → (w.threads j).InLogin = true → i = j) ∧
    (∀ i, (w.threads i).Holding = true → (w.threads i).NeedsLock = false ∧
      (w.stepThread expiringPortal i).isSome) ∧
    (∀ i r, w.threads i = .done r → w.holder ≠ some i) ∧
    ((∃ i, (w.threads i).Running = true) → ∃ j, (w.stepThread expiringPortal j).isSome) ∧
    (∀ force s, Returns (LoginRun.step expiringPortal force) .lock s (login expiringPortal force s).1
      (login expiringPortal force s).2) ∧
    (∀ s, Returns DidLoginRun.step .lock s s.client.didLogin s) ∧
    (∀ m e b s, Returns (RequestRun.step expiringPortal m e b) .start s (doRequest expiringPortal true m e b s).1
      (doRequest expiringPortal true m e b s).2) :=
  muLogin_discipline ((World.Reachable.init _).exec (Option.some_get _).symm)

/-! ## 呼び出しは終わる -/

/-- 一つのクライアントを分け合うゴルーチンの、届くどの状態でも、ポータルがどう答えても、途中の呼び出し
（API のメソッドの `doRequest(true, …)`、`login(force)`、`DidLogin()`）は、錠 `muLogin` の持ち主を先に
進める順でゴルーチンを進めれば値を返す。 -/
theorem client_call_returns {w : World} {i : Nat} (h : World.Reachable E w) (hr : (w.threads i).Running = true) :
    ∃ w' r, Drives (fun w j => w.stepThread E j) w w' ∧ World.Reachable E w' ∧ w'.threads i = .done r := by
  obtain ⟨w', hd, h₀⟩ := (World.lockProgress E).drive i h
  have hn := World.drives_ne_idle (i := i) hd fun hi => by simp [hi, Goroutine.Running] at hr
  obtain ⟨r, hr'⟩ := Goroutine.eq_done_of_rank h₀ hn
  exact ⟨w', r, hd, Drives.preserves (fun hj hw => (World.lockProgress E).good hw hj) hd h, hr'⟩

/-- 強いてログインし直すゴルーチンが錠を持ち、もう一つの `doRequest(true, …)` が `DidLogin` の錠を待つ
状態でも、その要求は値を返す。 -/
theorem request_returns_while_relogin_holds_lock :
    let w := ((World.init staleClient).exec expiringPortal [.start 0 (.login true), .run 0,
      .start 1 (.request "POST" coursesEndpoint none), .run 1]).get (by decide)
    World.Reachable expiringPortal w ∧ (w.threads 1).Running = true ∧
      ∃ w' r, Drives (fun w j => w.stepThread expiringPortal j) w w' ∧ World.Reachable expiringPortal w' ∧
        w'.threads 1 = .done r :=
  have h := (World.Reachable.init staleClient).exec (Option.some_get _).symm
  ⟨h, by decide, client_call_returns h (by decide)⟩

end Amizone
