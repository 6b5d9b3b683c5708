import Amizone.Basic

/-!
# CapSolver の課題の結果を待つ（`capsolver.Client.waitForTaskResult`）

`waitForTaskResult` は、二秒ごとの刻みに `getTaskResult` を問い合わせ、百二十秒の締め切りが
来れば時間切れの誤りを返す。締め切りは一度だけ来るので、一回の待ちを、締め切りの前に
`select` が選んだ刻みの問い合わせの答えの列で表す。列が尽きたところで締め切りが選ばれる。
送る要求 `{clientKey, taskId}` は待ちのはじめに一度だけ作られ、どの刻みでも同じである。

`SolveTurnstile` と `SolveRecaptchaV2` は、課題を作って解を待つ試みを三回まで繰り返す。二つは
課題の種類と誤りの文面の語だけが違うので、その語を引数にした一つの繰り返し `solve` で表す。
試みごとの外からの答えは、`createTask` への答えと、課題の番号ごとの刻みの答えである。二秒の
間は時刻を持たないこの模型には現れない。
-/

namespace Amizone.Capsolver

/-- `TaskSolution`：解けた課題の答えのうち、読む印 `token`。 -/
structure TaskSolution where
  Token : String
  deriving DecidableEq, Repr

/-- `GetTaskResultResponse`：`getTaskResult` の答えの、誤りの番号、符号と説明、状態と答え。 -/
structure GetTaskResultResponse where
  ErrorID : Int
  ErrorCode : String
  ErrorDescription : String
  Status : String
  Solution : TaskSolution
  deriving DecidableEq, Repr

/-- 一つの刻みの問い合わせの答え：送れない、本文を読めない、JSON として読めない、読めた。 -/
inductive Poll where
  | postFailed
  | readFailed
  | undecodable
  | decoded (result : GetTaskResultResponse)
  deriving DecidableEq, Repr

/-- 一つの刻みで待ちが終わるなら、その答え。`ErrorID` が 0 でなければ誤り、`Status` が `ready` なら
解の印（空なら誤り）、ほかは待ち続ける。 -/
def pollResult : Poll → Option (Except String String)
  | .decoded result =>
      if result.ErrorID ≠ 0 then
        some (.error ("capsolver error " ++ result.ErrorCode ++ ": " ++ result.ErrorDescription))
      else if result.Status = "ready" then
        if result.Solution.Token = "" then some (.error "no token in solution") else some (.ok result.Solution.Token)
      else none
  | _ => none

/-- `waitForTaskResult`：締め切りの前の刻みの答えを順に見る。 -/
def waitForTaskResult : List Poll → Except String String
  | [] => .error "timeout waiting for captcha solution"
  | p :: polls =>
      match pollResult p with
      | some r => r
      | none => waitForTaskResult polls

/-! ## 課題を作り、解を待つ繰り返し -/

/-- Go の `error` のうち、ここで作られるもの：`errors.New` の `errorString` と、`fmt.Errorf` の `%w` が作る
`wrapError`。`wrapError` は書式を埋めた全文と、包んだ誤りを持つ。 -/
inductive GoError where
  | errorString (s : String)
  | wrapError (msg : String) (err : GoError)
  deriving DecidableEq, Repr

/-- `Error()`：誤りの文。包んだ誤りは、`%w` を展開した文を持つ。 -/
def GoError.Error : GoError → String
  | .errorString s => s
  | .wrapError msg _ => msg

/-- `errors.Unwrap`：`%w` で包んだ誤りを一つ外す。 -/
def GoError.Unwrap : GoError → Option GoError
  | .errorString _ => none
  | .wrapError _ err => some err

/-- 書式が `format ++ "%w"` の `fmt.Errorf`。 -/
def Errorf (format : String) (err : GoError) : GoError := .wrapError (format ++ err.Error) err

/-- `CreateTaskResponse`：`createTask` の答えの、誤りの番号、符号と説明、課題の番号。 -/
structure CreateTaskResponse where
  ErrorID : Int
  ErrorCode : String
  ErrorDescription : String
  TaskID : String
  deriving DecidableEq, Repr

/-- `createTask` の問い合わせの答え：送れない、本文を読めない、JSON として読めない、読めた。要求を JSON に
する段は、文字列だけの要求では失敗しないので現れない。 -/
inductive CreateReply where
  | postFailed (err : GoError)
  | readFailed (err : GoError)
  | undecodable (err : GoError)
  | decoded (result : CreateTaskResponse)
  deriving DecidableEq, Repr

/-- `createTask`：作った課題の番号か、誤り。 -/
def createTask : CreateReply → Except GoError String
  | .postFailed err => .error (Errorf "failed to send request: " err)
  | .readFailed err => .error (Errorf "failed to read response: " err)
  | .undecodable err => .error (Errorf "failed to unmarshal response: " err)
  | .decoded result =>
      if result.ErrorID ≠ 0 then
        .error (.errorString ("capsolver error " ++ result.ErrorCode ++ ": " ++ result.ErrorDescription))
      else if result.TaskID = "" then .error (.errorString "no task ID returned")
      else .ok result.TaskID

/-- 一回の試みに外から来る答え：`createTask` への答えと、課題の番号ごとの、締め切りの前の刻みの答え。 -/
structure Round where
  create : CreateReply
  polls : String → List Poll

/-- 試みの失敗：課題を作れなかったか、解を得られなかったか。どちらも元の誤りを持つ。 -/
inductive AttemptFailure where
  | create (err : GoError)
  | solution (err : GoError)
  deriving DecidableEq, Repr

/-- 失敗の元の誤り。 -/
def AttemptFailure.err : AttemptFailure → GoError
  | .create err => err
  | .solution err => err

/-- 失敗を `lastErr` に包む。`kind` は `turnstile` か `recaptcha`。 -/
def AttemptFailure.wrap (kind : String) : AttemptFailure → GoError
  | .create err => Errorf ("failed to create " ++ kind ++ " task: ") err
  | .solution err => Errorf ("failed to get " ++ kind ++ " solution: ") err

/-- 繰り返しの一回：課題を作り、作れたらその課題の番号で待つ。 -/
def attempt (round : Round) : Except AttemptFailure String :=
  match createTask round.create with
  | .error err => .error (.create err)
  | .ok taskID =>
      match waitForTaskResult (round.polls taskID) with
      | .error msg => .error (.solution (.errorString msg))
      | .ok token => .ok token

/-- 残りの試みを順に行う。解の印を得ればそれを返し、尽きれば `("", lastErr)` を返す。 -/
def solveLoop (kind : String) : List Round → Option GoError → String × Option GoError
  | [], lastErr => ("", lastErr)
  | round :: rounds, _ =>
      match attempt round with
      | .ok token => (token, none)
      | .error failure => solveLoop kind rounds (some (failure.wrap kind))

/-- `for i := 0; i < 3; i++` の繰り返し。`rounds i` は `i` 回目の試みへの答え。 -/
def solve (kind : String) (rounds : Nat → Round) : String × Option GoError :=
  solveLoop kind ((List.range 3).map rounds) none

/-- `SolveTurnstile`：課題の種類 `turnstile` で `solve` を走らせる。 -/
def SolveTurnstile (rounds : Nat → Round) : String × Option GoError := solve "turnstile" rounds

/-- `SolveRecaptchaV2`。課題の種類は代理の設定で変わるが、答えは外から来るので繰り返しは同じである。 -/
def SolveRecaptchaV2 (rounds : Nat → Round) : String × Option GoError := solve "recaptcha" rounds

end Amizone.Capsolver
