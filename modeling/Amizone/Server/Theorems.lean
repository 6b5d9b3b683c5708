import Amizone.Server.Lemmas.Lock
import Amizone.Server.Lemmas.Progress
import Amizone.Server.Lemmas.Solo
import Amizone.Server.Lemmas.Reuse
import Amizone.Server.Lemmas.Limiter
import Amizone.Server.Lemmas.Handlers

/-!
# セッションキャッシュの性質

鍵は利用者名と合言葉を `:` でつないだものなので、`:` を含む対どうしは同じ項を共有しうる。
利用者名に `:` がなければ、鍵は対を決める。
`GetOrCreate` は書き込みの錠を持ったまま新しい `*Client` を作ってログインするので、作る者は
いつも一つで、作るのはその鍵に生きた項がないときだけである。その代わり、ログインの間は
ほかのすべての対の呼び出しが錠を待つ。失敗したログインは表に何も残さないので、次に錠を取った
待ち手がまた作ってログインする。成功した `*Client` が入ったあとの待ち手はそれを使うので、ほかの
呼び出しが走っていない状態から同じ対の `GetOrCreate` だけを走らせ、`ttl` のうちに終わる実行では、
成功した呼び出しはどれも同じ `*Client` を返す。`Get` の期限切れの枝は、錠を放してから `Delete` を呼ぶので、その間に入った
生きた項を消しうる。

それでも錠の使い方は行き詰まらない。届くどの状態でも、途中の呼び出しは、錠の持ち主を先に進めれば
値を返す。ほかのゴルーチンが動かなければ、各呼び出しはメソッドの本体を一つずつ読んだものと同じ答えと
表を残す。

画面写しの処理は、`defer release(success)` が偽を渡すので、取れたときも予約を消す。要求が
重ならなければ、制限はどの要求も断らない。解放の閉包は利用者の項を、それが自分の予約のものかを
確かめずに消すので、古い予約の遅れた解放は、同じ利用者の新しい予約も消す。
-/

namespace Amizone.Server

variable {s : SessionCache} {i c : Nat} {u p : String}

/-! ## 鍵の衝突 -/

/-- `Set("a:b", "c", 7)` のあとの `Get("a", "b:c")` は、その対に入れられていない `*Client` を返し、
`Delete("a", "b:c")` は `("a:b", "c")` の項を消す。 -/
theorem makeKey_collision :
    ((NewSessionCache 0 0).exec [.start 0 (.set "a:b" "c" 7), .run 0 true, .run 0 true,
        .start 1 (.get "a" "b:c"), .run 1 true, .run 1 true, .run 1 true]).map (·.threads 1) =
      some (.done (.client 7)) ∧
    ((NewSessionCache 0 0).exec [.start 0 (.set "a:b" "c" 7), .run 0 true, .run 0 true,
        .start 1 (.delete "a" "b:c"), .run 1 true]).map (·.sessions (makeKey "a:b" "c")) =
      some none := by
  decide

/-- 区切りを含まない頭で切ると、区切りの前と後ろが決まる。 -/
theorem append_cons_eq_of_not_mem {a a' b b' : List Char} {c : Char} (ha : c ∉ a) (ha' : c ∉ a')
    (h : a ++ c :: b = a' ++ c :: b') : a = a' ∧ b = b' := by
  rw [List.append_eq_append_iff] at h
  rcases h with ⟨d, rfl, h⟩ | ⟨d, rfl, h⟩ <;> rcases d with _ | ⟨x, d⟩
  · simpa [eq_comm] using h
  · simp only [List.cons_append, List.cons.injEq] at h
    obtain ⟨rfl, -⟩ := h
    simp at ha'
  · simpa [eq_comm] using h
  · simp only [List.cons_append, List.cons.injEq] at h
    obtain ⟨rfl, -⟩ := h
    simp at ha

/-- 利用者名に `:` がなければ、鍵は対を決める（合言葉には `:` があってよい）。 -/
theorem makeKey_injective_of_colon_free {u p u' p' : String} (hu : ':' ∉ u.data) (hu' : ':' ∉ u'.data)
    (h : makeKey u p = makeKey u' p') : u = u' ∧ p = p' := by
  have := append_cons_eq_of_not_mem hu hu' (by simpa [makeKey, String.ext_iff] using h)
  exact ⟨String.ext this.1, String.ext this.2⟩

theorem makeKey_injective_of_colon_free_at_colon_password :
    ':' ∉ "a".data ∧ makeKey "a" "b:c" = makeKey "a" "b:c" ∧ ("a" = "a" ∧ "b:c" = "b:c") :=
  ⟨by decide, rfl, makeKey_injective_of_colon_free (by decide) (by decide) rfl⟩

/-! ## 作る者は一つ -/

/-- 期限切れの項を見た `Get` が `Delete` を呼ぶ前に、`GetOrCreate` が新しい項を入れると、その
生きた項が消される。 -/
theorem get_expiry_deletes_live_entry :
    ∃ s, Reachable s ∧ s.threads 1 = .getDelete "u" "p" ∧ s.Live (makeKey "u" "p") ∧
      (s.step (.run 1 true)).map (·.sessions (makeKey "u" "p")) = some none := by
  exact ⟨_, (Reachable.init 1 0).exec (Option.some_get (by decide : ((NewSessionCache 1 0).exec
    [.start 0 (.set "u" "p" 5), .run 0 true, .run 0 true, .tick 2, .start 1 (.get "u" "p"),
      .run 1 true, .run 1 true, .start 2 (.getOrCreate "u" "p"), .run 2 true, .run 2 true,
      .run 2 true, .run 2 true, .run 2 true, .run 2 true, .run 2 true]).isSome)).symm,
    by decide, by decide, by decide⟩

/-! ## ログインの間の錠 -/

/-- ログインの途中のゴルーチンは `sc.mu` を書き込みで持ち、その間、錠を取るほかのどの一歩も、
掃除も進めない。 -/
theorem getOrCreate_login_holds_lock (h : Reachable s) (hi : s.threads i = .gocLogin u p c) :
    s.writer = some i ∧ (∀ j ok, (s.threads j).NeedsLock = true → s.step (.run j ok) = none) ∧
      s.step .cleanup = none := by
  have hw : s.writer = some i := h.inv.lock.holder (by simp [hi, Pc.Holding])
  refine ⟨hw, fun j ok hn => SessionCache.stepThread_blocked (by simp [hw]) hn, ?_⟩
  simp [SessionCache.step, SessionCache.whenFree, hw]

theorem getOrCreate_login_holds_lock_at_login :
    let s := ((NewSessionCache 0 0).exec [.start 0 (.getOrCreate "u" "p"), .run 0 true,
      .run 0 true, .run 0 true, .run 0 true, .run 0 true]).get (by decide)
    s.threads 0 = .gocLogin "u" "p" 0 ∧ (s.writer = some 0 ∧
      (∀ j ok, (s.threads j).NeedsLock = true → s.step (.run j ok) = none) ∧
        s.step .cleanup = none) :=
  ⟨by decide, getOrCreate_login_holds_lock (u := "u") (p := "p") (c := 0)
    ((Reachable.init 0 0).exec (Option.some_get _).symm) (by decide)⟩

/-- ログインの途中で `sc.mu` は持たれたままで、別の対の `Get` は錠を待つ。 -/
theorem getOrCreate_login_blocks_other_pair :
    ∃ s, Reachable s ∧ s.threads 0 = .gocLogin "u" "p" 0 ∧ s.writer = some 0 ∧
      s.threads 1 = .getRead "v" "q" ∧ s.step (.run 1 true) = none := by
  exact ⟨_, (Reachable.init 0 0).exec (Option.some_get (by decide : ((NewSessionCache 0 0).exec
    [.start 0 (.getOrCreate "u" "p"), .run 0 true, .run 0 true, .run 0 true, .run 0 true,
      .run 0 true, .start 1 (.get "v" "q")]).isSome)).symm, by decide, by decide, by decide, rfl⟩

/-! ## 呼び出しは終わる -/

/-- 届くどの状態でも、途中にある呼び出しは、外の世界がどう答えても、ゴルーチンを選んで進めれば
値を返す。錠を待つゴルーチンがあっても、錠の持ち主を先に進めればよい。 -/
theorem call_returns (env : SessionCache → Bool) (h : Reachable s) (hr : (s.threads i).Running = true) :
    ∃ s' r, SessionCache.Drives env s s' ∧ Reachable s' ∧ s'.threads i = .done r := by
  obtain ⟨s', hd, h₀⟩ := (SessionCache.lockProgress env).drive i h
  have hn := SessionCache.Drives.ne_idle (i := i) hd fun hi => by simp [hi, Pc.Running] at hr
  obtain ⟨r, hr'⟩ := Pc.eq_done_of_rank h₀ hn
  exact ⟨s', r, hd, SessionCache.Drives.reachable hd h, hr'⟩

/-- ゴルーチン 0 がログインの間 `sc.mu` を持ち、ゴルーチン 1 の `Get` が錠を待つ状態でも、`Get` は
値を返す。 -/
theorem get_returns_while_login_holds_lock :
    let s := ((NewSessionCache 0 0).exec [.start 0 (.getOrCreate "u" "p"), .run 0 true,
      .run 0 true, .run 0 true, .run 0 true, .run 0 true, .start 1 (.get "v" "q")]).get (by decide)
    Reachable s ∧ (s.threads 1).Running = true ∧
      ∃ s' r, SessionCache.Drives (fun _ => false) s s' ∧ Reachable s' ∧ s'.threads 1 = .done r :=
  have h := (Reachable.init 0 0).exec (Option.some_get _).symm
  ⟨h, by decide, call_returns _ h (by decide)⟩

/-! ## 一つだけで走る呼び出し -/

/-- 錠が空いているとき、ゴルーチン `i` が呼び出し `op` を始め、ほかのどのゴルーチンも動かないまま
終えるなら、その答えと表は、メソッドの本体を一つずつ読んだもの（`SessionCache.call`）と同じである。
逆に、`NewClientWithOptions` の選択肢とログインのどの結果についても、そう終える走りがある。 -/
theorem call_alone_refines_sequential {op : Op} {t s' : SessionCache} {r : Reply} (hw : s.writer = none)
    (hs : s.step (.start i op) = some t) :
    t.Finishes i r s' ↔ ∃ optionsOk loginOk, r = (s.call optionsOk loginOk op).1 ∧
      s' = (s.call optionsOk loginOk op).2.setPc i (.done (s.call optionsOk loginOk op).1) := by
  simp only [SessionCache.step] at hs
  split at hs
  · cases hs; exact SessionCache.solo_call hw op
  · cases hs

/-- 新しいキャッシュで一つだけ走る `GetOrCreate("u", "p")` は、ログインが通れば最初の `*Client` を
返し、それを表に入れて終わる。 -/
theorem getOrCreate_alone_on_new_cache :
    let s := NewSessionCache 0 0
    s.writer = none ∧ s.step (.start 0 (.getOrCreate "u" "p")) = some (s.setPc 0 (.gocRead "u" "p")) ∧
      (s.setPc 0 (.gocRead "u" "p")).Finishes 0 (.client 0)
        ((s.call true true (.getOrCreate "u" "p")).2.setPc 0 (.done (.client 0))) :=
  have hs : (NewSessionCache 0 0).step (.start 0 (.getOrCreate "u" "p")) =
      some ((NewSessionCache 0 0).setPc 0 (.gocRead "u" "p")) := rfl
  ⟨rfl, hs, (call_alone_refines_sequential rfl hs).2 ⟨true, true, rfl, rfl⟩⟩

/-! ## 画面写しの制限 -/

theorem handleAttendanceScreenshot_ne_429_of_idle {l : attendanceScreenshotLimiter} {now : Nat}
    {request : ScreenshotRequest} {fetch : Except FetchError (List UInt8)}
    (hidle : l.lastByUser = fun _ => none) :
    (handleAttendanceScreenshot l now request fetch).written.StatusCode ≠ 429 := by
  rcases handleAttendanceScreenshot_cases (l := l) now request fetch with
    ⟨-, -, h429⟩ | ⟨-, -, -, -, -, -, hne⟩
  · intro hs
    obtain ⟨user, d, hres⟩ := h429 hs
    obtain ⟨-, last, hlast, -⟩ := attendanceScreenshotLimiter.Reserve_refused hres
    simp [hidle] at hlast
  · exact hne

/-- 要求を一つずつ処理すると、予約はいつも消えているので、どの要求も 429 で断られない。 -/
theorem handleAll_never_rate_limits (cooldown : Int)
    (requests : List (Nat × ScreenshotRequest × Except FetchError (List UInt8))) :
    ∀ h ∈ handleAll (NewAttendanceScreenshotLimiter cooldown) requests, h.written.StatusCode ≠ 429 := by
  suffices ∀ l : attendanceScreenshotLimiter, l.Fresh → l.lastByUser = (fun _ => none) →
      ∀ h ∈ handleAll l requests, h.written.StatusCode ≠ 429 from
    this _ (attendanceScreenshotLimiter.Fresh.init cooldown) rfl
  induction requests with
  | nil => intro _ _ _ _ h; cases h
  | cons req rest ih =>
      obtain ⟨now, request, fetch⟩ := req
      intro l hl hidle h hh
      rcases List.mem_cons.1 hh with rfl | hh
      · exact handleAttendanceScreenshot_ne_429_of_idle hidle
      · refine ih _ (hl.handle now request fetch) ?_ h hh
        rcases handleAttendanceScreenshot_forgets now request fetch hl with
          ⟨-, hl'⟩ | ⟨user, -, hl'⟩
        · rw [hl', hidle]
        · rw [hl', hidle]; exact Function.update_eq_self _ _

theorem handleAll_never_rate_limits_on_repeat :
    let first := handleAttendanceScreenshot (NewAttendanceScreenshotLimiter 0) 0 ⟨"GET", some ("u", "p")⟩ (.ok [137])
    let second := handleAttendanceScreenshot first.limiter minute ⟨"GET", some ("u", "p")⟩ (.ok [137])
    second ∈ handleAll (NewAttendanceScreenshotLimiter 0)
        [(0, ⟨"GET", some ("u", "p")⟩, .ok [137]), (minute, ⟨"GET", some ("u", "p")⟩, .ok [137])] ∧
      second.written.StatusCode ≠ 429 := by
  intro first second
  have hmem : second ∈ handleAll (NewAttendanceScreenshotLimiter 0)
      [(0, ⟨"GET", some ("u", "p")⟩, .ok [137]), (minute, ⟨"GET", some ("u", "p")⟩, .ok [137])] :=
    List.mem_cons_of_mem _ (List.mem_cons_self _ _)
  exact ⟨hmem, handleAll_never_rate_limits 0 _ _ hmem⟩

/-- 十分の制限のもとで、`u` の画面写しが時刻 0 に取れたあと、一分後の `u` の要求も許され、
画面写しを取りに行く。 -/
theorem screenshot_cooldown_not_kept :
    (handleAll (NewAttendanceScreenshotLimiter 0)
        [(0, ⟨"GET", some ("u", "p")⟩, .ok [137]), (minute, ⟨"GET", some ("u", "p")⟩, .ok [137])]).map
      (fun h => (h.written.StatusCode, h.fetched)) = [(200, some "u"), (200, some "u")] := by
  decide

/-! ## 遅れた解放 -/

/-- 利用者の予約が時刻 `t` から効いていて、`Reserve` が断る時刻 `now` でも、同じ利用者のまだ呼ばれて
いない閉包を偽で呼べば、その時刻の `Reserve` は許される。閉包は、消す項が自分の予約のものかを確かめない。 -/
theorem stale_release_frees_reservation (l : attendanceScreenshotLimiter) (r : Release)
    (hr : l.alreadyReleased r.id = false) {t : Nat} (hin : l.lastByUser r.user = some t)
    (now : Nat) (ht : now < t + l.cooldown) :
    (l.Reserve r.user now).1 = .refused (t + l.cooldown - now) ∧
      ((l.release r false).Reserve r.user now).1 = .granted ⟨r.user, l.closures⟩ := by
  constructor
  · simp [attendanceScreenshotLimiter.Reserve, hin, ht]
  · simp [attendanceScreenshotLimiter.Reserve, attendanceScreenshotLimiter.release, hr]

/-- 十分の制限で、`u` の予約が時刻 0 に閉包 0 で、十分後に閉包 1 で許される。閉包 1 の予約が効いている
十一分後の `Reserve` は、閉包 0 を偽で呼んだあとでは許される。 -/
theorem stale_release_frees_reservation_of_second_window :
    let first := (NewAttendanceScreenshotLimiter 0).Reserve "u" 0
    let second := first.2.Reserve "u" (10 * minute)
    first.1 = .granted ⟨"u", 0⟩ ∧ second.1 = .granted ⟨"u", 1⟩ ∧
      second.2.alreadyReleased 0 = false ∧ second.2.lastByUser "u" = some (10 * minute) ∧
      11 * minute < 10 * minute + second.2.cooldown ∧
      (second.2.Reserve "u" (11 * minute)).1 = .refused (9 * minute) ∧
      ((second.2.release ⟨"u", 0⟩ false).Reserve "u" (11 * minute)).1 = .granted ⟨"u", 2⟩ := by
  dsimp only
  have h := stale_release_frees_reservation
    (((NewAttendanceScreenshotLimiter 0).Reserve "u" 0).2.Reserve "u" (10 * minute)).2 ⟨"u", 0⟩ rfl
    (t := 10 * minute) (by decide) (11 * minute) (by decide)
  exact ⟨by decide, by decide, rfl, by decide, by decide, h.1.trans (by decide), h.2⟩

/-! ## 並行な処理 -/

/-- 間に何も入れずに走る処理は、`handleAttendanceScreenshot` と同じ答えを書き、同じ表を残す。要求を
一つずつ処理するときの結果は、並行な処理の特別な場合である。 -/
theorem handler_alone_is_handleAttendanceScreenshot {S : Screenshots} {i : Nat} {request : ScreenshotRequest}
    {fetch : Except FetchError (List UInt8)} (hi : S.handlers i = .idle) :
    ∃ S', S.runAlone i request fetch = some S' ∧
      S'.handlers =
        Function.update S.handlers i (.done (handleAttendanceScreenshot S.limiter S.now request fetch).written) ∧
      S'.limiter = (handleAttendanceScreenshot S.limiter S.now request fetch).limiter ∧ S'.now = S.now := by
  unfold Screenshots.runAlone handleAttendanceScreenshot
  by_cases hm : request.Method ≠ "GET"
  · simp [Screenshots.step, hi, handleBegin, hm]
  rcases hauth : request.BasicAuth with _ | ⟨u, p⟩
  · simp [Screenshots.step, hi, handleBegin, hm, hauth]
  by_cases he : u = "" ∨ p = ""
  · simp [Screenshots.step, hi, handleBegin, hm, hauth, he]
  rcases hr : S.limiter.Reserve u S.now with ⟨r | d, l⟩
  · rcases fetch with (_ | _) | png <;> simp [Screenshots.step, hi, handleBegin, handleEnd, hm, hauth, he, hr]
  · simp [Screenshots.step, hi, handleBegin, hm, hauth, he, hr]

theorem handler_alone_is_handleAttendanceScreenshot_on_new_limiter :
    let S : Screenshots := ⟨NewAttendanceScreenshotLimiter 0, 0, fun _ => .idle⟩
    S.handlers 0 = .idle ∧
      ∃ S', S.runAlone 0 ⟨"GET", some ("u", "p")⟩ (.ok [137]) = some S' ∧
        S'.handlers = Function.update S.handlers 0
          (.done (handleAttendanceScreenshot S.limiter S.now ⟨"GET", some ("u", "p")⟩ (.ok [137])).written) ∧
        S'.limiter = (handleAttendanceScreenshot S.limiter S.now ⟨"GET", some ("u", "p")⟩ (.ok [137])).limiter ∧
        S'.now = S.now :=
  ⟨rfl, handler_alone_is_handleAttendanceScreenshot rfl⟩

/-- 各処理が予約から `cooldown` のうちに返る走りでは、制限は利用者ごとに、画面写しを待つ処理を一つに
限る錠として働く。ある利用者の画面写しを待つ処理はいつも高々一つで、その利用者の名で始まる `GET` は、
待つ処理があれば画面写しを取りに行かずに 429 で答えて表を変えず、なければ予約して画面写しを待つ。 -/
theorem screenshot_fetch_single_flight {S S' : Screenshots} {k : Nat} {u p : String}
    (h : S.TimelyReachable) (hu : u ≠ "") (hp : p ≠ "") (hs : S.step (.start k ⟨"GET", some (u, p)⟩) = some S') :
    (∀ i j r r' t t', S.handlers i = .fetching u r t → S.handlers j = .fetching u r' t' → i = j) ∧
      ((∃ i r t, S.handlers i = .fetching u r t) →
        ∃ w, S'.handlers k = .done w ∧ w.StatusCode = 429 ∧ S'.limiter = S.limiter) ∧
      ((∀ i r t, S.handlers i ≠ .fetching u r t) → ∃ r, S'.handlers k = .fetching u r S.now) := by
  obtain ⟨hI, hT⟩ := h.inv
  simp only [Screenshots.step] at hs
  split at hs
  · refine ⟨fun i j r r' t t' => hI.alone i j u r r' t t', fun ⟨i, r, t, hi⟩ => ?_, fun hno => ?_⟩
    · obtain ⟨d, hd⟩ := hI.reserve_refused hT hi
      rw [handleBegin_refused hu hp hd] at hs
      cases hs
      exact ⟨_, Function.update_same _ _ _, rfl, rfl⟩
    · have hl : S.limiter.lastByUser u = none := by
        cases hl : S.limiter.lastByUser u with
        | none => rfl
        | some t => obtain ⟨i, r, hi⟩ := hI.tracked u t hl; exact absurd hi (hno i r t)
      obtain ⟨r, hr⟩ : ∃ r, (handleBegin S.limiter S.now ⟨"GET", some (u, p)⟩).1 = .fetching u r S.now :=
        handleBegin_granted hu hp hl
      rcases hb : handleBegin S.limiter S.now ⟨"GET", some (u, p)⟩ with ⟨h, l⟩
      rw [hb] at hs hr
      cases hs
      exact ⟨r, by simpa using hr⟩
  · cases hs

/-- はじめの要求が画面写しを待つ間に、同じ利用者の二つ目の要求が来る。 -/
theorem screenshot_fetch_single_flight_after_first_request :
    let S := ((⟨NewAttendanceScreenshotLimiter 0, 0, fun _ => .idle⟩ : Screenshots).step
      (.start 0 ⟨"GET", some ("u", "p")⟩)).get (by decide)
    let S' := (S.step (.start 1 ⟨"GET", some ("u", "q")⟩)).get (by decide)
    S.TimelyReachable ∧ S.handlers 0 = .fetching "u" ⟨"u", 0⟩ 0 ∧
      (∀ i j r r' t t', S.handlers i = .fetching "u" r t → S.handlers j = .fetching "u" r' t' → i = j) ∧
      ((∃ i r t, S.handlers i = .fetching "u" r t) →
        ∃ w, S'.handlers 1 = .done w ∧ w.StatusCode = 429 ∧ S'.limiter = S.limiter) ∧
      ((∀ i r t, S.handlers i ≠ .fetching "u" r t) → ∃ r, S'.handlers 1 = .fetching "u" r S.now) := by
  intro S S'
  have h : S.TimelyReachable := .step _ (.init 0 0) (Option.some_get _).symm
    fun _ _ _ t _ => Nat.lt_of_lt_of_le (by decide) (Nat.le_add_left _ t)
  exact ⟨h, by decide, screenshot_fetch_single_flight h (by decide) (by decide) (Option.some_get _).symm⟩

end Amizone.Server
