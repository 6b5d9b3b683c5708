import Amizone.Basic
import Mathlib.Logic.Function.Basic

/-!
# 出席の画面写しの制限（`server/attendance_screenshot.go`）

利用者ごとの予約表 `lastByUser` と、`Reserve` が返す解放の閉包を持つ。閉包はそれぞれ自分の旗
`alreadyReleased` を持つので、閉包に作った順の番号を振り、旗を番号の関数として表に置く。
表の操作はどれも `l.mu` の下で一度に起こる。

`handleAttendanceScreenshot` は、予約し、画面写しを取り、返るときに `release(success)` を呼ぶ。
`defer` は引数をその場で評価するので、渡るのは `defer` の時点の `success`、つまり偽である。
画面写しを取る `fetchAttendanceScreenshot` は外の browser-login に問い合わせるので、その結果を
入力として受け取る。
-/

namespace Amizone.Server

/-- `attendanceScreenshotCooldown`：同じ利用者の画面写しのあいだに置く時間、10 分。 -/
def attendanceScreenshotCooldown : Nat := 10 * minute

/-- `Reserve` の返す解放の閉包：予約した利用者と、閉包の番号。 -/
structure Release where
  user : String
  id : Nat
  deriving DecidableEq, Repr

/-- `attendanceScreenshotLimiter`。`alreadyReleased` は閉包ごとの旗、`closures` は作った閉包の数。 -/
structure attendanceScreenshotLimiter where
  cooldown : Nat
  lastByUser : String → Option Nat
  alreadyReleased : Nat → Bool
  closures : Nat

/-- `NewAttendanceScreenshotLimiter`：正でない長さは既定の十分にする。 -/
def NewAttendanceScreenshotLimiter (cooldown : Int) : attendanceScreenshotLimiter :=
  ⟨if cooldown ≤ 0 then attendanceScreenshotCooldown else cooldown.toNat, fun _ => none, fun _ => false, 0⟩

/-- `Reserve` の答え `(release, retryAfter, ok)`：許せば `(閉包, 0, true)`、断れば `(nil, 待つ長さ, false)`。 -/
inductive Reservation where
  | granted (release : Release)
  | refused (retryAfter : Nat)
  deriving DecidableEq, Repr

namespace attendanceScreenshotLimiter

/-- `Reserve`：前の予約から `cooldown` が過ぎていなければ断る。許すなら今の時刻を書き、閉包を作る。 -/
def Reserve (l : attendanceScreenshotLimiter) (user : String) (now : Nat) :
    Reservation × attendanceScreenshotLimiter :=
  let granted : Reservation × attendanceScreenshotLimiter :=
    (.granted ⟨user, l.closures⟩,
      { l with lastByUser := Function.update l.lastByUser user (some now), closures := l.closures + 1 })
  match l.lastByUser user with
  | some last => if now < last + l.cooldown then (.refused (last + l.cooldown - now), l) else granted
  | none => granted

/-- 解放の閉包を呼ぶ：まだ呼ばれていなければ旗を立て、`success` が偽なら利用者の予約を消す。 -/
def release (l : attendanceScreenshotLimiter) (r : Release) (success : Bool) : attendanceScreenshotLimiter :=
  if l.alreadyReleased r.id then l
  else
    { l with
      alreadyReleased := Function.update l.alreadyReleased r.id true
      lastByUser := if success then l.lastByUser else Function.update l.lastByUser r.user none }

end attendanceScreenshotLimiter

/-! ## 要求の処理 -/

/-- 処理が読む要求の部分：方法と `request.BasicAuth()`（読めなければ `none`）。 -/
structure ScreenshotRequest where
  Method : String
  BasicAuth : Option (String × String)
  deriving DecidableEq, Repr

/-- `fetchAttendanceScreenshot` の誤り：`errBrowserLoginUnauthorized` か、ほかの誤り（処理は文面を読まない）。 -/
inductive FetchError where
  | browserLoginUnauthorized
  | other
  deriving DecidableEq, Repr

/-- 応答の本文：JSON の `errorResponse` と `rateLimitedErrorResponse`、そして PNG。 -/
inductive ResponseBody where
  | errorResponse (Error : String)
  | rateLimitedErrorResponse (Error : String) (RetryAfterSeconds : Nat)
  | png (data : List UInt8)
  deriving DecidableEq, Repr

/-- 書き手に書かれた応答：状態の番号、設定した順の頭書き、本文。 -/
structure Written where
  StatusCode : Nat
  Header : List (String × String)
  Body : ResponseBody
  deriving DecidableEq, Repr

/-- `writeJSON`：`Content-Type` を JSON にして書く。 -/
def writeJSON (header : List (String × String)) (statusCode : Nat) (body : ResponseBody) : Written :=
  ⟨statusCode, header ++ [("Content-Type", "application/json")], body⟩

def basicRealm : String := "Basic realm=\"go-amizone\""

/-- `int64(math.Ceil(retryAfter.Seconds()))` を 1 以上にしたもの。待つ長さは `cooldown` より短く、
四十日より短い長さでは、浮動小数の秒の切り上げは整数の切り上げと同じである。 -/
def retryAfterSeconds (retryAfter : Nat) : Nat := max 1 ((retryAfter + second - 1) / second)

/-- 処理の結果：書いた応答、処理のあとの表、画面写しを取りに行った利用者。 -/
structure Handled where
  written : Written
  limiter : attendanceScreenshotLimiter
  fetched : Option String

/-- `handleAttendanceScreenshot`。`fetch` は、呼ばれれば `fetchAttendanceScreenshot` が返すもの。 -/
def handleAttendanceScreenshot (l : attendanceScreenshotLimiter) (now : Nat) (request : ScreenshotRequest)
    (fetch : Except FetchError (List UInt8)) : Handled :=
  let unauthorized : Handled :=
    ⟨writeJSON [("WWW-Authenticate", basicRealm)] 401 (.errorResponse "authentication required"), l, none⟩
  if request.Method ≠ "GET" then ⟨writeJSON [("Allow", "GET")] 405 (.errorResponse "method not allowed"), l, none⟩
  else
    match request.BasicAuth with
    | none => unauthorized
    | some (username, password) =>
        if username = "" ∨ password = "" then unauthorized
        else
          match l.Reserve username now with
          | (.refused retryAfter, l) =>
              ⟨writeJSON [("Retry-After", toString (retryAfterSeconds retryAfter))] 429
                (.rateLimitedErrorResponse "screenshot is rate limited for this user" (retryAfterSeconds retryAfter)),
                l, none⟩
          | (.granted release, l) =>
              let success := false
              let l := l.release release success
              match fetch with
              | .error .browserLoginUnauthorized =>
                  ⟨writeJSON [("WWW-Authenticate", basicRealm)] 401 (.errorResponse "invalid credentials"), l,
                    some username⟩
              | .error .other =>
                  ⟨writeJSON [] 502 (.errorResponse "failed to capture attendance screenshot"), l, some username⟩
              | .ok png =>
                  ⟨⟨200, [("Content-Type", "image/png"), ("Cache-Control", "no-store")], .png png⟩, l,
                    some username⟩

/-- 要求を順に処理する。要求ごとに、届いた時刻と、画面写しを取れば返るものを持つ。 -/
def handleAll (l : attendanceScreenshotLimiter) :
    List (Nat × ScreenshotRequest × Except FetchError (List UInt8)) → List Handled
  | [] => []
  | (now, request, fetch) :: rest =>
      let h := handleAttendanceScreenshot l now request fetch
      h :: handleAll h.limiter rest

end Amizone.Server
