import Amizone.Basic

/-!
# ログインの書式（`internal/parse/login_form.go`）

HTML の解析は goquery に任せる。このコードが文書から見るのは、`form#loginform` の中の `input`
要素の `name` と `value` 属性と、`script` 要素の文字列だけなので、文書をそれらの並びで表す。
Go の文字列は Lean の `String` で表し、位置は文字で数える。一致の前に ASCII でない文字があれば、見つかる
位置の値はバイトで数えた Go の値と違う。それでも探す文字列はどれも ASCII なので、どちらの数え方でも同じ
一致を指し、切り出す部分と、それが空かどうかは Go と同じである。
-/

namespace Amizone.Parse

/-- goquery が読んだ文書のうち、このコードが見る部分（文書の順）。 -/
structure Document where
  formInputs : List (String × Option String)
  scripts : List String
  deriving DecidableEq, Repr

/-- `LoginFormFields`：ログインの書式から読む値。 -/
structure LoginFormFields where
  VerificationToken : String
  Salt : String
  SecretNumber : String
  Signature : String
  Challenge : String
  TurnstileSiteKey : String
  RecaptchaSiteKey : String
  TurnstileResponse : String
  RecaptchaToken : String
  Honeypot : String
  deriving DecidableEq, Repr

/-- `form.Find("input[name='n']").AttrOr("value", "")`：名前の合う最初の要素の `value`。 -/
def Document.inputValue (d : Document) (n : String) : String :=
  match d.formInputs.find? (fun x => x.1 == n) with
  | some (_, some v) => v
  | _ => ""

/-- `findSubstring` の繰り返し：位置 `i` から先の `s` について、`substr` で始まる最初の位置。 -/
def findSubstringFrom (substr : List Char) : List Char → Nat → Int
  | [], i => if substr = [] then i else -1
  | c :: s, i => if substr.isPrefixOf (c :: s) then i else findSubstringFrom substr s (i + 1)

/-- `findSubstring`：見つからなければ `-1`。 -/
def findSubstring (s substr : String) : Int := findSubstringFrom substr.data s.data 0

/-- 合図の文字列 `sitekey: "`。 -/
def sitekeyMarker : String := "sitekey: \""

/-- 一つの `script` を見たあとの Turnstile の鍵。まだ鍵がなく、文字列が空でなければ、
`sitekey: "` の後ろから次の `"` の手前までを取る。 -/
def scanSiteKey (key text : String) : String :=
  if key == "" && text.length > 0 then
    let idx := findSubstring text sitekeyMarker
    if idx ≥ 0 then
      let start := idx.toNat + sitekeyMarker.length
      let stop := findSubstring (String.mk (text.data.drop start)) "\""
      if stop > 0 then String.mk ((text.data.drop start).take stop.toNat) else key
    else key
  else key

/-- `ParseLoginFormFromDom`：書式の `input` の値を名前で読み、Turnstile の鍵を `script` から探す。 -/
def ParseLoginFormFromDom (dom : Document) : LoginFormFields where
  VerificationToken := dom.inputValue "__RequestVerificationToken"
  Salt := dom.inputValue "Salt"
  SecretNumber := dom.inputValue "SecretNumber"
  Signature := dom.inputValue "Signature"
  Challenge := dom.inputValue "Challenge"
  TurnstileSiteKey := dom.scripts.foldl scanSiteKey ""
  RecaptchaSiteKey := ""
  TurnstileResponse := dom.inputValue "cf-turnstile-response"
  RecaptchaToken := dom.inputValue "RecaptchaToken"
  Honeypot := dom.inputValue "honeypot"

/-- `ParseLoginForm`：`parse` は goquery の `NewDocumentFromReader`。 -/
def ParseLoginForm (parse : String → Option Document) (body : String) : Option LoginFormFields :=
  (parse body).map ParseLoginFormFromDom

/-- `LoginFormFields.IsValid`：検証の印と四つの隠しの値がどれも空でない。 -/
def LoginFormFields.IsValid (f : LoginFormFields) : Bool :=
  f.VerificationToken != "" && f.Salt != "" && f.SecretNumber != "" && f.Signature != "" &&
    f.Challenge != ""

end Amizone.Parse
