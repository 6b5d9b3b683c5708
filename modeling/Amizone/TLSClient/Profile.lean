import Amizone.Basic

/-!
# ブラウザの指紋の選び方（`tlsclient.selectProfile`）

`NewHTTPClient` は新しい `http.Client` ごとに `selectProfile` を呼び、選択肢の `ProfileRotationMode` に
従ってブラウザの指紋を一つ選ぶ。順に回す選び方は、大域の数え `currentProfileIndex` を `profileMutex` の
下で読んで一つ進める。ほかの選び方は数えに触れないので、並行な呼び出しは、呼び出しの列として表せる。

指紋は、`profileName` が返すその名前で表す。`rand.Intn` の返す数は入力として受け取る。Go の `int` は
64 ビットで、数えは `2^63 - 1` の次に負へ折り返す。添字が範囲の外なら panic で、それを `none` で表す。
-/

namespace Amizone.TLSClient

/-- `ProfileRotationOff`：いつも一つめの指紋を使う。 -/
def ProfileRotationOff : Int := 0

/-- `ProfileRotationRandom`：`rand.Intn` で指紋を選ぶ。 -/
def ProfileRotationRandom : Int := 1

/-- `ProfileRotationSequential`：数 `currentProfileIndex` で順に回す。 -/
def ProfileRotationSequential : Int := 2

/-- `DefaultProfiles`：`CustomProfiles` が空のときの指紋の並び。 -/
def DefaultProfiles : List String :=
  ["Chrome_144", "Chrome_146", "Chrome_133", "Chrome_131", "Firefox_147", "Firefox_135", "Firefox_133"]

/-- `ClientOptions` のうち、`selectProfile` が読むもの。 -/
structure ClientOptions where
  ProfileRotationMode : Int
  CustomProfiles : List String
  deriving DecidableEq, Repr

/-- Go の `int`（64 ビット）の値への折り返し。 -/
def goInt (x : Int) : Int := (x + 2 ^ 63) % 2 ^ 64 - 2 ^ 63

/-- `profileList[i]`。範囲の外なら panic（`none`）。 -/
def index (profileList : List String) (i : Int) : Option String :=
  if 0 ≤ i then profileList[i.toNat]? else none

/-- `selectProfile`。`intn` は `rand.Intn(len(profileList))` の返す数。選んだ指紋（添字が範囲の外で panic する
ときは `none`）と、新しい `currentProfileIndex` を返す。順に回すとき、この式は panic の場合も進めた数を返すが、
Go では panic が `currentProfileIndex++` より前に起きるので、数は進まない。 -/
def selectProfile (opts : ClientOptions) (intn : Nat) (currentProfileIndex : Int) : Option String × Int :=
  let profileList := if opts.CustomProfiles.length = 0 then DefaultProfiles else opts.CustomProfiles
  if opts.ProfileRotationMode = ProfileRotationOff then (index profileList 0, currentProfileIndex)
  else if opts.ProfileRotationMode = ProfileRotationRandom then (index profileList intn, currentProfileIndex)
  else if opts.ProfileRotationMode = ProfileRotationSequential then
    (index profileList (currentProfileIndex.tmod profileList.length), goInt (currentProfileIndex + 1))
  else (index profileList 0, currentProfileIndex)

/-- `selectProfile` の呼び出しを順に行う。呼び出しごとに、選択肢と `rand.Intn` の返す数を持つ。 -/
def selectAll (currentProfileIndex : Int) : List (ClientOptions × Nat) → List (Option String) × Int
  | [] => ([], currentProfileIndex)
  | (opts, intn) :: calls =>
      let (profile, c) := selectProfile opts intn currentProfileIndex
      let (profiles, c) := selectAll c calls
      (profile :: profiles, c)

end Amizone.TLSClient
