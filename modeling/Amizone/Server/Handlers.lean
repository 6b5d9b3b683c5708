import Amizone.Server.Screenshot

/-!
# 並行に走る画面写しの処理（`server/attendance_screenshot.go`）

`handleAttendanceScreenshot` は要求ごとのゴルーチンで並行に走り、大域の
`globalAttendanceScreenshotLimiter` を分け合う。表に触れるのは `Reserve` と解放の閉包だけで、
どちらも `l.mu` の下で一度に起こる。そこで処理を二つの一歩に分ける。確かめて `Reserve` を呼ぶ一歩
（許されなければ答えを書いて終わる）と、画面写しの結果で答えを書き、`defer` した `release(success)` を
呼んで終わる一歩である。二つの間に、ほかの処理の一歩と時の経過が入る。

画面写しを待つ処理は、幽霊の状態として予約した時刻を持つ。`fetchAttendanceScreenshot` の
`http.Client` には二分の期限があるが、答えを呼び手へ書く間には期限がない。
-/

namespace Amizone.Server

/-- 処理のゴルーチンの位置。`fetching` は予約が許され、`fetchAttendanceScreenshot` から戻るのを
待っている。`release` は `defer` した閉包、`reservedAt` は予約した時刻。 -/
inductive Handler where
  | idle
  | fetching (username : String) (release : Release) (reservedAt : Nat)
  | done (written : Written)
  deriving DecidableEq, Repr

/-- `handleAttendanceScreenshot` の `Reserve` までの部分。 -/
def handleBegin (l : attendanceScreenshotLimiter) (now : Nat) (request : ScreenshotRequest) :
    Handler × attendanceScreenshotLimiter :=
  let unauthorized : Written :=
    writeJSON [("WWW-Authenticate", basicRealm)] 401 (.errorResponse "authentication required")
  if request.Method ≠ "GET" then (.done (writeJSON [("Allow", "GET")] 405 (.errorResponse "method not allowed")), l)
  else
    match request.BasicAuth with
    | none => (.done unauthorized, l)
    | some (username, password) =>
        if username = "" ∨ password = "" then (.done unauthorized, l)
        else
          match l.Reserve username now with
          | (.refused retryAfter, l) =>
              (.done (writeJSON [("Retry-After", toString (retryAfterSeconds retryAfter))] 429
                (.rateLimitedErrorResponse "screenshot is rate limited for this user" (retryAfterSeconds retryAfter))),
                l)
          | (.granted release, l) => (.fetching username release now, l)

/-- `handleAttendanceScreenshot` の残り：画面写しの結果で答えを書き、`defer release(success)` を呼ぶ。
渡るのは `defer` の時点の `success`、つまり偽である。 -/
def handleEnd (l : attendanceScreenshotLimiter) (release : Release) (fetch : Except FetchError (List UInt8)) :
    Written × attendanceScreenshotLimiter :=
  let success := false
  let l := l.release release success
  match fetch with
  | .error .browserLoginUnauthorized =>
      (writeJSON [("WWW-Authenticate", basicRealm)] 401 (.errorResponse "invalid credentials"), l)
  | .error .other => (writeJSON [] 502 (.errorResponse "failed to capture attendance screenshot"), l)
  | .ok png => (⟨200, [("Content-Type", "image/png"), ("Cache-Control", "no-store")], .png png⟩, l)

/-- 大域の制限、時計、処理のゴルーチンの全体。 -/
structure Screenshots where
  limiter : attendanceScreenshotLimiter
  now : Nat
  handlers : Nat → Handler

/-- 並行な実行の一歩：処理を始める、画面写しの結果を受けて処理を終える、時が経つ。 -/
inductive Screenshots.Action where
  | start (i : Nat) (request : ScreenshotRequest)
  | finish (i : Nat) (fetch : Except FetchError (List UInt8))
  | tick (d : Nat)
  deriving DecidableEq, Repr

def Screenshots.step (S : Screenshots) : Screenshots.Action → Option Screenshots
  | .start i request =>
      if S.handlers i = .idle then
        let (h, l) := handleBegin S.limiter S.now request
        some { S with limiter := l, handlers := Function.update S.handlers i h }
      else none
  | .finish i fetch =>
      match S.handlers i with
      | .fetching _ release _ =>
          let (w, l) := handleEnd S.limiter release fetch
          some { S with limiter := l, handlers := Function.update S.handlers i (.done w) }
      | _ => none
  | .tick d => some { S with now := S.now + d }

/-- 処理 `i` を、間に何も入れずに走らせる：始め、画面写しを待つなら `fetch` を受けて終える。 -/
def Screenshots.runAlone (S : Screenshots) (i : Nat) (request : ScreenshotRequest)
    (fetch : Except FetchError (List UInt8)) : Option Screenshots :=
  (S.step (.start i request)).bind fun S₁ =>
    match S₁.handlers i with
    | .fetching _ _ _ => S₁.step (.finish i fetch)
    | _ => some S₁

/-- 画面写しを待つどの処理も、予約から `cooldown` のうちにある。 -/
def Screenshots.Timely (S : Screenshots) : Prop :=
  ∀ i username release t, S.handlers i = .fetching username release t → S.now < t + S.limiter.cooldown

/-- 新しい制限から、画面写しを待つどの処理も予約から `cooldown` のうちに返る走りで届く状態。 -/
inductive Screenshots.TimelyReachable : Screenshots → Prop where
  | init (cooldown : Int) (now : Nat) :
      Screenshots.TimelyReachable ⟨NewAttendanceScreenshotLimiter cooldown, now, fun _ => .idle⟩
  | step {S S' : Screenshots} (a : Screenshots.Action) :
      Screenshots.TimelyReachable S → S.step a = some S' → S'.Timely → Screenshots.TimelyReachable S'

end Amizone.Server
