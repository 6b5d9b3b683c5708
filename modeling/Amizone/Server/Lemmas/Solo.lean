import Amizone.Server.Lemmas.Lock
import Amizone.Server.Sequential

/-!
# 一つだけで走る呼び出し

錠が空いているとき、ゴルーチン `i` が呼び出しを始め、ほかのゴルーチンが動かないまま終わるなら、その
答えと終わりの状態は、呼び出しを一つずつ読んだもの（`SessionCache.call`）と同じである。逆に、外の
世界のどの答えについても、そう終わる走りがある。各一歩を `finishes_setPc` で書き換え、状態を
`setPc` と `store` の形にそろえて比べる。
-/

namespace Amizone.Server

/-- ゴルーチン `i` だけが進む走り。一歩ごとの `ok` は外の世界が選ぶ。 -/
inductive SessionCache.Solo (i : Nat) : SessionCache → SessionCache → Prop
  | refl (s : SessionCache) : SessionCache.Solo i s s
  | step {s s' s'' : SessionCache} (ok : Bool) :
      s.stepThread i ok = some s' → SessionCache.Solo i s' s'' → SessionCache.Solo i s s''

/-- ゴルーチン `i` だけが進み、呼び出しが `r` を返して `s'` で終わる。 -/
def SessionCache.Finishes (i : Nat) (s : SessionCache) (r : Reply) (s' : SessionCache) : Prop :=
  SessionCache.Solo i s s' ∧ s'.threads i = .done r

variable {s s' t : SessionCache} {i : Nat} {r : Reply} {u p : String}

@[simp] theorem SessionCache.setPc_setPc (s : SessionCache) (i : Nat) (a b : Pc) :
    (s.setPc i a).setPc i b = s.setPc i b := by
  simp [SessionCache.setPc]

@[simp] theorem SessionCache.store_sessions (s : SessionCache) (k : String) (v : Option Entry) :
    (s.store k v).sessions = Function.update s.sessions k v := rfl

@[simp] theorem SessionCache.setPc_expired (s : SessionCache) (i : Nat) (pc : Pc) (e : Entry) :
    (s.setPc i pc).expired e = s.expired e := rfl

/-! ## 一歩ずつの書き換え -/

@[simp] theorem SessionCache.finishes_setPc_done (r₀ : Reply) :
    (t.setPc i (.done r₀)).Finishes i r s' ↔ r = r₀ ∧ s' = t.setPc i (.done r₀) := by
  constructor
  · rintro ⟨hs, hd⟩
    cases hs with
    | refl => simp at hd; exact ⟨hd.symm, rfl⟩
    | step ok h₁ _ => simp [SessionCache.stepThread] at h₁
  · rintro ⟨rfl, rfl⟩; exact ⟨.refl _, by simp⟩

theorem SessionCache.finishes_setPc {pc : Pc} (hr : pc.Running = true) :
    (t.setPc i pc).Finishes i r s' ↔
      ∃ ok s₁, (t.setPc i pc).stepThread i ok = some s₁ ∧ s₁.Finishes i r s' := by
  constructor
  · rintro ⟨hs, hd⟩
    cases hs with
    | refl => simp at hd; simp [hd, Pc.Running] at hr
    | step ok h₁ h₂ => exact ⟨ok, _, h₁, h₂, hd⟩
  · rintro ⟨ok, s₁, h₁, h₂, hd⟩; exact ⟨.step ok h₁ h₂, hd⟩

/-! ## 各メソッド -/

section
variable (hw : s.writer = none)
include hw

theorem SessionCache.solo_set {c : Nat} :
    (s.setPc i (.setNow u p c)).Finishes i r s' ↔
      r = (s.Set u p c).1 ∧ s' = (s.Set u p c).2.setPc i (.done (s.Set u p c).1) := by
  simp [SessionCache.finishes_setPc, Pc.Running, SessionCache.stepThread, SessionCache.whenFree, hw,
    SessionCache.Set]
  simp [SessionCache.setPc, SessionCache.store]

theorem SessionCache.solo_delete :
    (s.setPc i (.delete u p)).Finishes i r s' ↔
      r = (s.Delete u p).1 ∧ s' = (s.Delete u p).2.setPc i (.done (s.Delete u p).1) := by
  simp [SessionCache.finishes_setPc, Pc.Running, SessionCache.stepThread, SessionCache.whenFree, hw,
    SessionCache.Delete]
  simp [SessionCache.setPc, SessionCache.store]

theorem SessionCache.solo_get :
    (s.setPc i (.getRead u p)).Finishes i r s' ↔
      r = (s.Get u p).1 ∧ s' = (s.Get u p).2.setPc i (.done (s.Get u p).1) := by
  unfold SessionCache.Get
  cases h : s.sessions (makeKey u p) with
  | none => simp [SessionCache.finishes_setPc, Pc.Running, SessionCache.stepThread, SessionCache.whenFree, hw, h]
  | some e =>
      cases he : s.expired e <;>
        simp [SessionCache.finishes_setPc, Pc.Running, SessionCache.stepThread, SessionCache.whenFree, hw, h,
          he, SessionCache.Delete]
      simp [SessionCache.setPc, SessionCache.store]

/-- 錠を取ったあと、新しい `*Client` を作る道は `create` である。 -/
theorem SessionCache.solo_create :
    ({ s with writer := some i }.setPc i (.gocNew u p)).Finishes i r s' ↔
      ∃ b₁ b₂, r = (s.create u p b₁ b₂).1 ∧ s' = (s.create u p b₁ b₂).2.setPc i (.done (s.create u p b₁ b₂).1) := by
  unfold SessionCache.create
  by_cases hu : u = "" ∧ p = "" <;>
    simp [SessionCache.finishes_setPc, Pc.Running, SessionCache.stepThread, SessionCache.whenFree, hw, hu,
      Bool.exists_bool] <;>
    simp [SessionCache.setPc, SessionCache.store, hw]

theorem SessionCache.solo_getOrCreate :
    (s.setPc i (.gocRead u p)).Finishes i r s' ↔
      ∃ b₁ b₂, r = (s.GetOrCreate u p b₁ b₂).1 ∧
        s' = (s.GetOrCreate u p b₁ b₂).2.setPc i (.done (s.GetOrCreate u p b₁ b₂).1) := by
  have hc : ({ s with writer := some i }.setPc i (.gocNew u p)).Finishes i r s' ↔ _ :=
    SessionCache.solo_create hw
  unfold SessionCache.GetOrCreate SessionCache.recheck
  cases h : s.sessions (makeKey u p) with
  | none =>
      simpa [SessionCache.finishes_setPc, Pc.Running, SessionCache.stepThread, SessionCache.whenFree, hw, h]
        using hc
  | some e =>
      by_cases hl : s.now - e.createdAt ≤ s.ttl
      · simp [SessionCache.finishes_setPc, Pc.Running, SessionCache.stepThread, SessionCache.whenFree, hw, h, hl]
      · simpa [SessionCache.finishes_setPc, Pc.Running, SessionCache.stepThread, SessionCache.whenFree, hw, h, hl]
          using hc

/-- ゴルーチン `i` だけの走りは、呼び出しを一つずつ読んだものと同じ答えと状態で終わる。 -/
theorem SessionCache.solo_call (op : Op) :
    (s.setPc i op.entry).Finishes i r s' ↔
      ∃ optionsOk loginOk, r = (s.call optionsOk loginOk op).1 ∧
        s' = (s.call optionsOk loginOk op).2.setPc i (.done (s.call optionsOk loginOk op).1) := by
  cases op with
  | get u p => simpa [SessionCache.call] using SessionCache.solo_get hw
  | set u p c => simpa [SessionCache.call] using SessionCache.solo_set hw
  | delete u p => simpa [SessionCache.call] using SessionCache.solo_delete hw
  | getOrCreate u p => exact SessionCache.solo_getOrCreate hw

end

end Amizone.Server
