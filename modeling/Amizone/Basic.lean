import Mathlib.Data.List.Sort
import Mathlib.Algebra.Group.Int

/-!
# Go の標準ライブラリのうち、模型が使う部分

時刻は単調な時計のナノ秒（`Nat`）で表す。`time.Time` のゼロ値は `none` で表す。ゼロ値からの
`time.Since` は飽和して最大の長さになるので、どの窓にも入らない。Go の `(値, error)` の組は
`Except` で表し、具体的な実行を `decide` で評価できるよう、その等しさを判定できるようにする。
-/

namespace Amizone

instance instDecidableEqExcept {ε α : Type} [DecidableEq ε] [DecidableEq α] : DecidableEq (Except ε α)
  | .error a, .error b => decidable_of_iff (a = b) (by simp)
  | .ok a, .ok b => decidable_of_iff (a = b) (by simp)
  | .error _, .ok _ => isFalse (by simp)
  | .ok _, .error _ => isFalse (by simp)

/-! ## 時刻 -/

/-- `time.Second`：時刻はナノ秒で数える。 -/
def second : Nat := 1000000000

def minute : Nat := 60 * second

def hour : Nat := 60 * minute

/-- `time.Since(t) < d`。ゼロ値の時刻はどの窓にも入らない。 -/
def within (now : Nat) (t : Option Nat) (d : Nat) : Bool :=
  match t with
  | none => false
  | some t => now - t < d

@[simp] theorem within_none (now d : Nat) : within now none d = false := rfl

@[simp] theorem within_some (now t d : Nat) : within now (some t) d = decide (now - t < d) := rfl

/-! ## 整数 -/

/-- `int32(x)`：下の 32 ビットを二の補数で読んだ値。 -/
def int32 (x : Int) : Int := x.bmod (2 ^ 32)

/-! ## `strings` -/

/-- `strings.Index`：`substr` が `s` に最初に現れる位置、現れなければ -1。位置は文字で数える。 -/
def stringsIndex (s substr : String) : Int :=
  match (List.range (s.length + 1)).find? (fun i => substr.data.isPrefixOf (s.data.drop i)) with
  | some i => i
  | none => -1

/-- `strings.Contains`：`Index(s, substr) >= 0`。 -/
def stringsContains (s substr : String) : Bool := decide (0 ≤ stringsIndex s substr)

/-- `unicode.IsSpace`：Latin-1 の `\t \n \v \f \r`、空白、U+0085、U+00A0 と、`White_Space` の残り。 -/
def unicodeIsSpace (c : Char) : Bool :=
  c == '\t' || c == '\n' || c == '\x0B' || c == '\x0C' || c == '\r' || c == ' ' || c == '\x85' || c == '\xA0' ||
    c == '\u1680' || ('\u2000' ≤ c && c ≤ '\u200A') || c == '\u2028' || c == '\u2029' || c == '\u202F' ||
    c == '\u205F' || c == '\u3000'

/-- `strings.TrimSpace`：両端の空白を除く。 -/
def stringsTrimSpace (s : String) : String :=
  String.mk ((s.data.dropWhile unicodeIsSpace).reverse.dropWhile unicodeIsSpace).reverse

/-- `unicode.ToUpper` のうち、ASCII の文字と、大文字が ASCII になる `ı` と `ſ`。ほかの文字の大文字は
ASCII でないので、ASCII の語と比べる限り、写さなくても答えは変わらない。 -/
def unicodeToUpper (c : Char) : Char := if c = 'ı' then 'I' else if c = 'ſ' then 'S' else c.toUpper

/-- `strings.ToUpper`：文字ごとに大文字にする。 -/
def stringsToUpper (s : String) : String := String.mk (s.data.map unicodeToUpper)

/-- `strings.ReplaceAll(s, old, "")` で `old` が一文字のもの：その文字をすべて除く。 -/
def stringsRemoveAll (s : String) (old : Char) : String := String.mk (s.data.filter (· != old))

/-! ## 認証情報 -/

/-- `amizone.Credentials`：利用者名と合言葉。 -/
structure Credentials where
  username : String
  password : String
  deriving DecidableEq, Repr

/-- 空の認証情報 `Credentials{}`。 -/
def Credentials.empty : Credentials := ⟨"", ""⟩

/-! ## `url.Values` -/

/-- `url.Values`。このコードは `Set` だけを使うので、鍵ごとに値は一つである。 -/
structure Values where
  entries : List (String × String)
  deriving DecidableEq, Repr

/-- `Values.Set`：鍵の古い値を捨てて、新しい値を置く。 -/
def Values.set (v : Values) (k x : String) : Values := ⟨(k, x) :: v.entries.filter (fun p => p.1 != k)⟩

/-- `Values.Get`：値がなければ空の文字列。 -/
def Values.get (v : Values) (k : String) : String :=
  ((v.entries.find? (fun p => p.1 == k)).map Prod.snd).getD ""

private def hexDigit (n : Nat) : Char := "0123456789ABCDEF".get ⟨n⟩

/-- `url.QueryEscape` の一文字分。英数字と `-_.~` はそのまま、空白は `+`、ほかは UTF-8 の各バイトを `%XX` にする。 -/
def queryEscapeChar (c : Char) : String :=
  if c.isAlphanum || c == '-' || c == '_' || c == '.' || c == '~' then c.toString
  else if c == ' ' then "+"
  else String.join ((String.utf8EncodeChar c).map fun b =>
    String.mk ['%', hexDigit (b.toNat / 16), hexDigit (b.toNat % 16)])

/-- `url.QueryEscape`：文字ごとに、書式の値に使える形へ書き換えてつなぐ。 -/
def queryEscape (s : String) : String := String.join (s.data.map queryEscapeChar)

/-- Go の文字列の比較 `a <= b`：UTF-8 のバイトの順は文字の番号の順と同じなので、文字の番号で比べる。 -/
def stringLE : List Char → List Char → Bool
  | [], _ => true
  | _ :: _, [] => false
  | c :: cs, d :: ds => c.toNat < d.toNat || (c.toNat = d.toNat && stringLE cs ds)

/-- `Values.Encode`：鍵の順（`sort.Strings`）に並べ、`鍵=値` を `&` でつなぐ。 -/
def Values.encode (v : Values) : String :=
  "&".intercalate ((v.entries.insertionSort (fun a b => stringLE a.1.data b.1.data)).map
    fun p => queryEscape p.1 ++ "=" ++ queryEscape p.2)

end Amizone
