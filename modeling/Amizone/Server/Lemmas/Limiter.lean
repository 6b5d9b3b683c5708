import Amizone.Server.Screenshot

/-!
# 画面写しの制限の補題

`Reserve` の二つの答えと、新しい閉包の解放を一度だけ書き出し、そこから要求の処理が表に
残すものを導く。処理は、画面写しを取りに行けば、その利用者の予約を必ず消す。
-/

namespace Amizone.Server

namespace attendanceScreenshotLimiter

variable {l l' : attendanceScreenshotLimiter} {user : String} {now : Nat}

/-- まだ作っていない閉包の旗は、どれも立っていない。 -/
def Fresh (l : attendanceScreenshotLimiter) : Prop := ∀ i, l.closures ≤ i → l.alreadyReleased i = false

theorem Reserve_refused {d : Nat} (h : l.Reserve user now = (.refused d, l')) :
    l' = l ∧ ∃ last, l.lastByUser user = some last ∧ now < last + l.cooldown := by
  unfold Reserve at h
  split at h
  · rename_i last hl
    split at h
    · cases h; exact ⟨rfl, last, hl, by assumption⟩
    · cases h
  · cases h

theorem Reserve_granted {r : Release} (h : l.Reserve user now = (.granted r, l')) :
    r = ⟨user, l.closures⟩ ∧
      l' = { l with lastByUser := Function.update l.lastByUser user (some now), closures := l.closures + 1 } := by
  unfold Reserve at h
  split at h
  · split at h
    · cases h
    · cases h; exact ⟨rfl, rfl⟩
  · cases h; exact ⟨rfl, rfl⟩

@[simp] theorem release_closures (r : Release) (success : Bool) :
    (l.release r success).closures = l.closures := by
  unfold release; split <;> rfl

theorem Fresh.init (cooldown : Int) : (NewAttendanceScreenshotLimiter cooldown).Fresh := fun _ _ => rfl

theorem Fresh.reserve (hl : l.Fresh) (h : l.Reserve user now = (res, l')) : l'.Fresh := by
  cases res with
  | refused d => rw [(Reserve_refused h).1]; exact hl
  | granted r => rw [(Reserve_granted h).2]; exact fun i hi => hl i (by simp at hi; omega)

theorem Fresh.release (hl : l.Fresh) {r : Release} (hr : r.id < l.closures) (success : Bool) :
    (l.release r success).Fresh := by
  intro i hi
  rw [release_closures] at hi
  unfold attendanceScreenshotLimiter.release
  split
  · exact hl i hi
  · exact (Function.update_noteq (by omega) _ _).trans (hl i hi)

end attendanceScreenshotLimiter

open attendanceScreenshotLimiter

/-! ## 処理が表に残すもの -/

variable {l : attendanceScreenshotLimiter} (now : Nat) (request : ScreenshotRequest)
  (fetch : Except FetchError (List UInt8))

/-- 処理の出口：表に触れずに答えるか（405、401、429）、予約して画面写しを取りに行き、
偽で解放するか。 -/
theorem handleAttendanceScreenshot_cases :
    ((handleAttendanceScreenshot l now request fetch).limiter = l ∧
        (handleAttendanceScreenshot l now request fetch).fetched = none ∧
        ((handleAttendanceScreenshot l now request fetch).written.StatusCode = 429 →
          ∃ user d, l.Reserve user now = (.refused d, l))) ∨
      ∃ user r l', l.Reserve user now = (.granted r, l') ∧
        (handleAttendanceScreenshot l now request fetch).fetched = some user ∧
        (handleAttendanceScreenshot l now request fetch).limiter = l'.release r false ∧
        (handleAttendanceScreenshot l now request fetch).written.StatusCode ≠ 429 := by
  unfold handleAttendanceScreenshot
  split
  · exact .inl ⟨rfl, rfl, by simp [writeJSON]⟩
  · split
    · exact .inl ⟨rfl, rfl, by simp [writeJSON]⟩
    · rename_i username password _
      split
      · exact .inl ⟨rfl, rfl, by simp [writeJSON]⟩
      · rcases hres : l.Reserve username now with ⟨res, l'⟩
        cases res with
        | refused d =>
            obtain ⟨rfl, -⟩ := Reserve_refused hres
            exact .inl ⟨rfl, rfl, fun _ => ⟨username, d, hres⟩⟩
        | granted r =>
            refine .inr ⟨username, r, l', hres, ?_, ?_, ?_⟩ <;>
              (simp only; split <;> simp [writeJSON])

/-- 画面写しを取りに行った処理は、取れたかどうかによらず、その利用者の予約を消す。 -/
theorem handleAttendanceScreenshot_forgets (hl : l.Fresh) :
    ((handleAttendanceScreenshot l now request fetch).fetched = none ∧
        (handleAttendanceScreenshot l now request fetch).limiter = l) ∨
      ∃ user, (handleAttendanceScreenshot l now request fetch).fetched = some user ∧
        (handleAttendanceScreenshot l now request fetch).limiter.lastByUser =
          Function.update l.lastByUser user none := by
  rcases handleAttendanceScreenshot_cases (l := l) now request fetch with
    ⟨hl', hf, -⟩ | ⟨user, r, l', hres, hf, hl', -⟩
  · exact .inl ⟨hf, hl'⟩
  · obtain ⟨rfl, rfl⟩ := Reserve_granted hres
    refine .inr ⟨user, hf, ?_⟩
    simp [hl', release, hl _ le_rfl]

theorem attendanceScreenshotLimiter.Fresh.handle (hl : l.Fresh) : (handleAttendanceScreenshot l now request fetch).limiter.Fresh := by
  rcases handleAttendanceScreenshot_cases (l := l) now request fetch with
    ⟨hl', -, -⟩ | ⟨user, r, l', hres, -, hl', -⟩
  · rw [hl']; exact hl
  · obtain ⟨rfl, rfl⟩ := Reserve_granted hres
    rw [hl']
    exact (hl.reserve hres).release (by simp) false

end Amizone.Server
