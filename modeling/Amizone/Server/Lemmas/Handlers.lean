import Amizone.Server.Handlers
import Amizone.Server.Lemmas.Limiter

/-!
# 並行な画面写しの処理の補題

`handleBegin` の出口を一度だけ書き出し、画面写しを待つ処理についての不変条件 `Screenshots.Inv` が
どの一歩でも保たれることを示す。予約が許されるのは、その利用者に画面写しを待つ処理がないときだけで
ある。待つ処理があれば、その予約は表にあり、まだ `cooldown` が過ぎていないからである。
-/

namespace Amizone.Server

open attendanceScreenshotLimiter

variable {l l' : attendanceScreenshotLimiter} {now : Nat} {request : ScreenshotRequest} {h : Handler}
  {S S' : Screenshots} {i j : Nat} {u : String} {r : Release} {t : Nat}

/-! ## 二つの一歩 -/

/-- `handleBegin` の出口：表に触れずに答えるか、予約して画面写しを待つ。 -/
theorem handleBegin_cases (hb : handleBegin l now request = (h, l')) :
    (l' = l ∧ ∀ u r t, h ≠ .fetching u r t) ∨
      ∃ u r, u ≠ "" ∧ h = .fetching u r now ∧ l.Reserve u now = (.granted r, l') := by
  unfold handleBegin at hb
  split at hb
  · cases hb; exact .inl ⟨rfl, by simp⟩
  · split at hb
    · cases hb; exact .inl ⟨rfl, by simp⟩
    · rename_i u p _
      split at hb
      · cases hb; exact .inl ⟨rfl, by simp⟩
      · rename_i hu
        split at hb
        · rename_i d l₁ hr
          cases hb; exact .inl ⟨(Reserve_refused hr).1, by simp⟩
        · rename_i r l₁ hr
          cases hb; exact .inr ⟨u, r, fun h => hu (.inl h), rfl, hr⟩

theorem handleEnd_limiter (l : attendanceScreenshotLimiter) (r : Release) (fetch : Except FetchError (List UInt8)) :
    (handleEnd l r fetch).2 = l.release r false := by
  unfold handleEnd; split <;> rfl

theorem attendanceScreenshotLimiter.release_false (h : l.alreadyReleased r.id = false) :
    l.release r false =
      { l with
        alreadyReleased := Function.update l.alreadyReleased r.id true
        lastByUser := Function.update l.lastByUser r.user none } := by
  simp [attendanceScreenshotLimiter.release, h]

/-! ## 画面写しを待つ処理 -/

/-- 画面写しを待つ処理について、届くどの状態でも成り立つこと：その予約は表にあり、閉包はまだ
呼ばれておらず、同じ利用者の処理はほかに画面写しを待たない。表にある予約は、どれも画面写しを待つ
処理のものである。 -/
structure Screenshots.Inv (S : Screenshots) : Prop where
  pos : 0 < S.limiter.cooldown
  fresh : S.limiter.Fresh
  reserved : ∀ i u r t, S.handlers i = .fetching u r t →
    u ≠ "" ∧ S.limiter.lastByUser u = some t ∧ r.user = u ∧ r.id < S.limiter.closures ∧
      S.limiter.alreadyReleased r.id = false
  alone : ∀ i j u r r' t t', S.handlers i = .fetching u r t → S.handlers j = .fetching u r' t' → i = j
  distinct : ∀ i j u u' r r' t t', S.handlers i = .fetching u r t → S.handlers j = .fetching u' r' t' →
    r.id = r'.id → i = j
  tracked : ∀ u t, S.limiter.lastByUser u = some t → ∃ i r, S.handlers i = .fetching u r t

theorem Screenshots.Inv.init (cooldown : Int) (now : Nat) :
    Screenshots.Inv ⟨NewAttendanceScreenshotLimiter cooldown, now, fun _ => .idle⟩ where
  pos := by
    simp only [NewAttendanceScreenshotLimiter]
    split
    · simp [attendanceScreenshotCooldown, minute, second]
    · omega
  fresh := Fresh.init cooldown
  reserved := by simp
  alone := by simp
  distinct := by simp
  tracked := by simp [NewAttendanceScreenshotLimiter]

/-- 予約が生きている利用者の `Reserve` は断られる。 -/
theorem Screenshots.Inv.reserve_refused (hI : S.Inv) (hT : S.Timely) (hf : S.handlers j = .fetching u r t) :
    ∃ d, S.limiter.Reserve u S.now = (.refused d, S.limiter) := by
  obtain ⟨-, hlast, -⟩ := hI.reserved j u r t hf
  have hlt := hT j u r t hf
  simp [attendanceScreenshotLimiter.Reserve, hlast, hlt]

/-- 表を変えず、画面写しを待つ処理も変えない一歩は、不変条件を保つ。 -/
theorem Screenshots.Inv.of_fetching_iff (hI : S.Inv) (hl : S'.limiter = S.limiter)
    (hf : ∀ j u r t, S'.handlers j = .fetching u r t ↔ S.handlers j = .fetching u r t) : S'.Inv := by
  obtain ⟨pos, fresh, reserved, alone, distinct, tracked⟩ := hI
  rw [← hl] at pos fresh reserved tracked
  exact ⟨pos, fresh, fun j u r t hj => reserved j u r t ((hf _ _ _ _).1 hj),
    fun j k u r r' t t' hj hk => alone j k u r r' t t' ((hf _ _ _ _).1 hj) ((hf _ _ _ _).1 hk),
    fun j k u u' r r' t t' hj hk => distinct j k u u' r r' t t' ((hf _ _ _ _).1 hj) ((hf _ _ _ _).1 hk),
    fun u t hl => (tracked u t hl).imp fun j ⟨r, hj⟩ => ⟨r, (hf _ _ _ _).2 hj⟩⟩

theorem update_eq_fetching {H : Nat → Handler} :
    Function.update H i h j = .fetching u r t ↔ (j = i ∧ h = .fetching u r t) ∨ (j ≠ i ∧ H j = .fetching u r t) := by
  rcases eq_or_ne j i with rfl | hj <;> simp [*]

/-- 処理を始める一歩は不変条件を保つ。予約が許されるのは、その利用者に画面写しを待つ処理がないとき
だけである。 -/
theorem Screenshots.Inv.start (hI : S.Inv) (hT : S.Timely)
    (hs : S.step (.start i request) = some S') : S'.Inv := by
  simp only [Screenshots.step] at hs
  split at hs
  · rename_i hidle
    rcases hb : handleBegin S.limiter S.now request with ⟨h, l⟩
    rw [hb] at hs
    cases hs
    have hkeep : ∀ {j u r t}, S.handlers j = .fetching u r t → Function.update S.handlers i h j = .fetching u r t :=
      fun hj => update_eq_fetching.2 (.inr ⟨(by rintro rfl; rw [hidle] at hj; cases hj), hj⟩)
    rcases handleBegin_cases hb with ⟨rfl, hnf⟩ | ⟨u, r, hu, rfl, hr⟩
    · refine hI.of_fetching_iff rfl fun j u r t => ⟨fun hj => ?_, hkeep⟩
      rcases update_eq_fetching.1 hj with ⟨-, he⟩ | ⟨-, hj⟩
      exacts [absurd he (hnf u r t), hj]
    · have hno : ∀ j r' t', S.handlers j ≠ .fetching u r' t' := fun j r' t' hj => by
        obtain ⟨d, hd⟩ := hI.reserve_refused hT hj
        rw [hd] at hr; cases hr
      have hfresh := hI.fresh.reserve hr
      obtain ⟨rfl, rfl⟩ := Reserve_granted hr
      refine ⟨hI.pos, hfresh, ?_, ?_, ?_, ?_⟩
      · intro j u' r' t' hj
        rcases update_eq_fetching.1 hj with ⟨-, he⟩ | ⟨-, hj⟩
        · cases he
          exact ⟨hu, by simp, rfl, by simp, hI.fresh _ le_rfl⟩
        · obtain ⟨hu', hlast, huser, hid, hrel⟩ := hI.reserved j u' r' t' hj
          have hne : u' ≠ u := fun he => hno j r' t' (he ▸ hj)
          exact ⟨hu', by simpa [hne] using hlast, huser, by simp; omega, hrel⟩
      · intro j k u' r₁ r₂ t₁ t₂ hj hk
        rcases update_eq_fetching.1 hj with ⟨rfl, he⟩ | ⟨-, hj'⟩ <;>
          rcases update_eq_fetching.1 hk with ⟨rfl, he'⟩ | ⟨-, hk'⟩
        · rfl
        · cases he; exact absurd hk' (hno _ _ _)
        · cases he'; exact absurd hj' (hno _ _ _)
        · exact hI.alone j k u' r₁ r₂ t₁ t₂ hj' hk'
      · intro j k u₁ u₂ r₁ r₂ t₁ t₂ hj hk hid
        rcases update_eq_fetching.1 hj with ⟨rfl, he⟩ | ⟨-, hj'⟩ <;>
          rcases update_eq_fetching.1 hk with ⟨rfl, he'⟩ | ⟨-, hk'⟩
        · rfl
        · cases he; have := (hI.reserved k _ _ _ hk').2.2.2.1; simp at hid; omega
        · cases he'; have := (hI.reserved j _ _ _ hj').2.2.2.1; simp at hid; omega
        · exact hI.distinct j k u₁ u₂ r₁ r₂ t₁ t₂ hj' hk' hid
      · intro u' t' hl
        rcases eq_or_ne u' u with rfl | hne
        · simp only [Function.update_same, Option.some.injEq] at hl
          subst hl
          exact ⟨i, _, Function.update_same _ _ _⟩
        · simp only [ne_eq, hne, not_false_eq_true, Function.update_noteq] at hl
          exact (hI.tracked u' t' hl).imp fun j ⟨r', hj⟩ => ⟨r', hkeep hj⟩
  · cases hs

/-- 処理を終える一歩は不変条件を保つ。閉包は自分の利用者の予約を消し、その利用者の予約はほかの処理の
ものではない。 -/
theorem Screenshots.Inv.finish {fetch : Except FetchError (List UInt8)} (hI : S.Inv)
    (hs : S.step (.finish i fetch) = some S') : S'.Inv := by
  simp only [Screenshots.step] at hs
  split at hs
  · rename_i u r t hi
    rcases hb : handleEnd S.limiter r fetch with ⟨w, l⟩
    rw [hb] at hs
    cases hs
    obtain ⟨-, -, huser, hid, hrel⟩ := hI.reserved i u r t hi
    have hl : l = S.limiter.release r false := by rw [← handleEnd_limiter, hb]
    have hupd : ∀ {j u r t}, Function.update S.handlers i (.done w) j = .fetching u r t →
        j ≠ i ∧ S.handlers j = .fetching u r t :=
      fun hj => (update_eq_fetching.1 hj).resolve_left fun ⟨_, he⟩ => by cases he
    /- 画面写しを待つほかの処理は、利用者も閉包も `i` のものと違う。 -/
    have hother : ∀ {j u' r' t'}, S.handlers j = .fetching u' r' t' → j ≠ i → u' ≠ u ∧ r'.id ≠ r.id :=
      fun hj hji => ⟨fun he => hji (hI.alone _ _ _ _ _ _ _ hj (he ▸ hi)), fun he => hji (hI.distinct _ _ _ _ _ _ _ _ hj hi he)⟩
    subst hl
    have hfresh := hI.fresh.release hid false
    simp only [release_false hrel] at hfresh ⊢
    refine ⟨hI.pos, hfresh, ?_, ?_, ?_, ?_⟩
    · intro j u' r' t' hj
      obtain ⟨hji, hj⟩ := hupd hj
      obtain ⟨hu', hlast, huser', hid', hrel'⟩ := hI.reserved j u' r' t' hj
      obtain ⟨hne, hne'⟩ := hother hj hji
      refine ⟨hu', ?_, huser', hid', ?_⟩ <;> simp [huser, hne, hne', hlast, hrel']
    · exact fun j k u' r₁ r₂ t₁ t₂ hj hk => hI.alone j k u' r₁ r₂ t₁ t₂ (hupd hj).2 (hupd hk).2
    · exact fun j k u₁ u₂ r₁ r₂ t₁ t₂ hj hk => hI.distinct j k u₁ u₂ r₁ r₂ t₁ t₂ (hupd hj).2 (hupd hk).2
    · intro u' t' hl
      rcases eq_or_ne u' u with rfl | hne
      · dsimp only at hl; rw [huser, Function.update_same] at hl; cases hl
      · simp only [huser, ne_eq, hne, not_false_eq_true, Function.update_noteq] at hl
        obtain ⟨j, r', hj⟩ := hI.tracked u' t' hl
        have hji : j ≠ i := by rintro rfl; rw [hi] at hj; cases hj; exact hne rfl
        exact ⟨j, r', update_eq_fetching.2 (.inr ⟨hji, hj⟩)⟩
  · cases hs

theorem Screenshots.Inv.step {a : Screenshots.Action} (hI : S.Inv) (hT : S.Timely) (hs : S.step a = some S') :
    S'.Inv := by
  cases a with
  | start i request => exact hI.start hT hs
  | finish i fetch => exact hI.finish hs
  | tick d => cases hs; exact hI.of_fetching_iff rfl fun _ _ _ _ => Iff.rfl

theorem Screenshots.TimelyReachable.inv (h : S.TimelyReachable) : S.Inv ∧ S.Timely := by
  induction h with
  | init cooldown now => exact ⟨Screenshots.Inv.init cooldown now, by simp [Screenshots.Timely]⟩
  | step a _ hs hT ih => exact ⟨ih.1.step ih.2 hs, hT⟩

/-- 予約が断られる利用者の `GET` は、429 で答えて終わり、表を変えない。 -/
theorem handleBegin_refused {p : String} {d : Nat} (hu : u ≠ "") (hp : p ≠ "")
    (hr : l.Reserve u now = (.refused d, l)) :
    handleBegin l now ⟨"GET", some (u, p)⟩ =
      (.done (writeJSON [("Retry-After", toString (retryAfterSeconds d))] 429
        (.rateLimitedErrorResponse "screenshot is rate limited for this user" (retryAfterSeconds d))), l) := by
  simp [handleBegin, hu, hp, hr]

/-- 予約のない利用者の `GET` は、予約して画面写しを待つ。 -/
theorem handleBegin_granted {p : String} (hu : u ≠ "") (hp : p ≠ "") (hl : l.lastByUser u = none) :
    ∃ r, (handleBegin l now ⟨"GET", some (u, p)⟩).1 = .fetching u r now := by
  simp [handleBegin, hu, hp, attendanceScreenshotLimiter.Reserve, hl]

end Amizone.Server
