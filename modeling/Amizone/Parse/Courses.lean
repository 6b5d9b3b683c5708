import Amizone.Parse.Regexp

/-!
# 履修の表の出席と内部評価（`internal/parse/courses.go`）

`Courses` は表の行ごとに、出席の欄と内部評価の欄の文字列を `CleanString` で整えてから、それぞれの
閉包で読む。閉包はどちらも値を返すだけで誤りを返さない。ここでは、整えたあとの文字列から値を読む
二つの閉包と、それが使う `isNAValue`、`isNonNumericValue` を書く。

出席の数は `strconv.Atoi` で 64 ビットの整数にしてから `int32` に変える。評価の数は
`strconv.ParseFloat(s, 32)` で読み `float32` にする。`float32` は IEEE の 32 ビットの綴り（`UInt32`）で表し、
`ParseFloat` は `src/` の外の関数なので引数で受け取る（範囲を外れる数には `none` を返す）。
-/

namespace Amizone.Parse

open Regexp

/-- `models.Attendance`：出た数と開かれた数。Go では `int32` の値である。 -/
structure Attendance where
  ClassesAttended : Int
  ClassesHeld : Int
  deriving DecidableEq, Repr

/-- `models.Marks`（`float32` の綴り）。零の値は `0` の綴りである。 -/
structure Marks where
  Max : UInt32
  Have : UInt32
  deriving DecidableEq, Repr

/-! ## 値のない欄 -/

/-- `isNAValue`：空の文字列、または両端の空白を除いて大文字にし、`.` と空白を除いたものが `NA`、`N/A`、
`-`、`--` のどれか。 -/
def isNAValue (s : String) : Bool :=
  if s = "" then true
  else
    let normal := stringsToUpper (stringsTrimSpace s)
    let normal := stringsRemoveAll normal '.'
    let normal := stringsRemoveAll normal ' '
    normal = "NA" || normal = "N/A" || normal = "-" || normal = "--"

/-- `isNonNumericValue`：大文字にして、数でない印の語のどれかを含む。 -/
def isNonNumericValue (s : String) : Bool :=
  let upper := stringsToUpper s
  stringsContains upper "NOT PUBLISHED" || stringsContains upper "NOT AVAILABLE" ||
    stringsContains upper "NOT APPLICABLE" || stringsContains upper "VIEW"

/-! ## 数を読む -/

/-- 十進の数字の並びの値。 -/
def decimalValue (ds : List Char) : Nat := ds.foldl (fun n c => 10 * n + (c.toNat - '0'.toNat)) 0

/-- `strconv.Atoi`（64 ビットの `int`）：符号を一つ許し、残りが空でない十進の数字だけで、値が `int` に
収まれば、その値。 -/
def Atoi (s : String) : Option Int :=
  let (neg, ds) : Bool × List Char :=
    match s.data with
    | '+' :: ds => (false, ds)
    | '-' :: ds => (true, ds)
    | ds => (false, ds)
  if ds ≠ [] ∧ ds.all Char.isDigit then
    let x : Int := if neg then -(decimalValue ds : Int) else decimalValue ds
    if -2 ^ 63 ≤ x ∧ x < 2 ^ 63 then some x else none
  else none

/-! ## 式 -/

/-- 出席の式 `(\d+)\s*/\s*(\d+)`。 -/
def attendancePattern : Regexp :=
  seq (group 1 (plus digit)) (seq (star space) (seq (lit '/') (seq (star space) (group 2 (plus digit)))))

/-- 数の式 `\d+(?:\.\d+)?`：小数の部分を許す十進数。 -/
def numberPattern : Regexp := seq (plus digit) (opt (seq (lit '.') (plus digit)))

/-- 内訳の文字 `[\d\.\+]`。 -/
def breakdownChar (c : Char) : Bool := c.isDigit || c == '.' || c == '+'

/-- 新しい書式の式 `(\d+(?:\.\d+)?)\[[\d\.\+]+\]/(\d+(?:\.\d+)?)`。 -/
def newFormatPattern : Regexp :=
  seq (group 1 numberPattern)
    (seq (lit '[') (seq (plus breakdownChar) (seq (lit ']') (seq (lit '/') (group 2 numberPattern)))))

/-- 古い書式の式 `(\d+(?:\.\d+)?)\s*(?:/|\[)\s*(\d+(?:\.\d+)?)`。 -/
def legacyPattern : Regexp :=
  seq (group 1 numberPattern)
    (seq (star space) (seq (alt (lit '/') (lit '[')) (seq (star space) (group 2 numberPattern))))

/-! ## 欄の閉包 -/

/-- 出席の欄の閉包。`cleanRaw` は `CleanString` で整えた欄の文字列。 -/
def Courses.Attendance (cleanRaw : String) : Attendance :=
  if isNAValue cleanRaw then ⟨0, 0⟩
  else
    let m := attendancePattern.FindStringSubmatch 2 cleanRaw
    if m.length < 3 then ⟨0, 0⟩
    else
      match Atoi (m.getD 1 ""), Atoi (m.getD 2 "") with
      | some attended, some total => ⟨int32 attended, int32 total⟩
      | _, _ => ⟨0, 0⟩

/-- 二つの数の組の式が見つかったときの値：`have` と `max` を読めればそれ、読めなければ零。 -/
def pairMarks (ParseFloat : String → Option UInt32) (m : List String) : Marks :=
  match ParseFloat (m.getD 1 ""), ParseFloat (m.getD 2 "") with
  | some got, some max => ⟨max, got⟩
  | _, _ => ⟨0, 0⟩

/-- 内部評価の欄の閉包。新しい書式 `have[内訳]/max` を先に、次に古い書式 `have/max`、`have [max]` を
探し、どちらもなければ最初の数を `Have` にする。 -/
def Courses.InternalMarks (ParseFloat : String → Option UInt32) (cleanRaw : String) : Marks :=
  if isNAValue cleanRaw || isNonNumericValue cleanRaw then ⟨0, 0⟩
  else
    let newFormat := newFormatPattern.FindStringSubmatch 2 cleanRaw
    if newFormat.length ≥ 3 then pairMarks ParseFloat newFormat
    else
      let pair := legacyPattern.FindStringSubmatch 2 cleanRaw
      if pair.length ≥ 3 then pairMarks ParseFloat pair
      else
        let gotStr := numberPattern.FindString cleanRaw
        if gotStr = "" then ⟨0, 0⟩
        else
          match ParseFloat gotStr with
          | some got => ⟨0, got⟩
          | none => ⟨0, 0⟩

end Amizone.Parse
