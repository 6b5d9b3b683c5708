import Amizone.Client.Model

/-!
# 教員への評価の一括送信（`Client.SubmitFacultyFeedbackHack`）

評価を確かめ、評価のページを `doRequest(true, …)` で取り、ページから評価の書式の並びを読み、
書式ごとに送る本文を作って、それぞれを新しい goroutine の `doRequest(true, POST, …)` で送る。
goroutine はどれも、誤りを記録したあと `response.StatusCode` を読む。

ページの解析 `parse.FacultyFeedback`、書式の型 `FacultyFeedbackSpec`、型紙 `facultyFeedbackTpl` は
`src/` にないので、解析と型紙は引数で受け取る。goroutine の `doRequest` は互いに、また呼び出し手と
並んで走るので、その答えも引数 `replies` で受け取る（`replies i` は `i` 番目に走らせた goroutine の答え）。
-/

namespace Amizone

def facultyBaseEndpoint : String := "/FacultyFeeback/FacultyFeedback"

def facultyEndpointSubmitEndpoint : String := facultyBaseEndpoint ++ "/SaveFeedbackRating"

def ErrFailedToFetchPage : String := "failed to fetch page"

/-- 評価の書式のうち、この関数が書く三つの欄と、ページから読んだほかの欄。 -/
structure FeedbackSpec where
  Set__Rating : String
  Set__Comment : String
  Set__QRating : String
  fields : List (String × String)
  deriving DecidableEq, Repr

/-- 送信の goroutine の終わり方：`response.StatusCode` を読むとき `response` が nil なら、nil の参照で
止まる（回復されないので、プロセスが落ちる）。そうでなければ、200 でない状態を記録したかどうか。 -/
inductive GoroutineEnd where
  | nilDereference
  | done (loggedNon200 : Bool)
  deriving DecidableEq, Repr

/-- 送信の goroutine：`doRequest` の答えの `response` の `StatusCode` を読む。 -/
def submissionGoroutine : Reply → GoroutineEnd
  | .ok response _ => .done (response.StatusCode ≠ 200)
  | .err (some response) _ => .done (response.StatusCode ≠ 200)
  | .err none _ => .nilDereference

/-- 書式に評価、言葉、問いの評価を書く。 -/
def FeedbackSpec.fill (rating queryRating : Int) (comment : String) (spec : FeedbackSpec) : FeedbackSpec :=
  { spec with Set__Rating := toString rating, Set__Comment := queryEscape comment,
              Set__QRating := toString queryRating }

/-- 書式を順に回る：本文を作れれば goroutine を走らせ、作れなければそこで誤りを返す。
`i` は次に走らせる goroutine の番号。 -/
def fanOut (fill : FeedbackSpec → FeedbackSpec) (Execute : FeedbackSpec → Except String String)
    (replies : Nat → Reply) : Nat → List FeedbackSpec → List GoroutineEnd × Option String
  | _, [] => ([], none)
  | i, spec :: specs =>
      match Execute (fill spec) with
      | .error err => ([], some err)
      | .ok _ =>
          let rest := fanOut fill Execute replies (i + 1) specs
          (submissionGoroutine (replies i) :: rest.1, rest.2)

/-- 一括送信の結果：返した `(int32, error)` と、走らせた goroutine の終わり方（走らせた順）。 -/
structure FanOut where
  result : Except String Int
  goroutines : List GoroutineEnd
  deriving DecidableEq, Repr

/-- `SubmitFacultyFeedbackHack`。`payloadTemplate` は型紙を読んだもの（読めなければ誤り）。 -/
def SubmitFacultyFeedbackHack (E : Env) (s : Sys) (rating queryRating : Int) (comment : String)
    (FacultyFeedback : String → Except String (List FeedbackSpec))
    (payloadTemplate : Except String (FeedbackSpec → Except String String)) (replies : Nat → Reply) : FanOut :=
  if rating > 5 ∨ rating < 1 then ⟨.error "invalid rating", []⟩
  else if queryRating > 3 ∨ queryRating < 1 then ⟨.error "invalid query rating", []⟩
  else if comment = "" then ⟨.error "comment cannot be empty", []⟩
  else
    let queryRating := if queryRating = 1 then 3 else if queryRating = 3 then 1 else queryRating
    match (doRequest E true "GET" facultyBaseEndpoint none s).1 with
    | .err _ err => ⟨.error (ErrFailedToFetchPage ++ ": " ++ err), []⟩
    | .ok _ page =>
        match FacultyFeedback page with
        | .error _ => ⟨.error ErrFailedToParsePage, []⟩
        | .ok specs =>
            match payloadTemplate with
            | .error _ => ⟨.error ErrInternalFailure, []⟩
            | .ok Execute =>
                match fanOut (FeedbackSpec.fill rating queryRating comment) Execute replies 0 specs with
                | (goroutines, some err) => ⟨.error ("error marshalling feedback request: " ++ err), goroutines⟩
                | (goroutines, none) => ⟨.ok (int32 specs.length), goroutines⟩

end Amizone
