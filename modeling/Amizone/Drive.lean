import Mathlib.Logic.Basic

/-!
# 錠の持ち主を先に進める走り

一つの錠を分け合うゴルーチンの系が、次を満たすとする。ゴルーチンの一歩はその残り（`rank`）を減らし、
ほかのゴルーチンの残りを変えない。錠は、空きからそのゴルーチンへ、または持ち主から空きへしか動かない。
錠が空いていれば途中のゴルーチンは進め、錠の持ち主はいつでも進める。このとき、どのゴルーチンも、
錠の持ち主を先に進める順で進めれば呼び出しを終える。測度は、そのゴルーチンの残りと、ほかのゴルーチンが
錠を持つならその残りとの和である。

セッションキャッシュの `sc.mu` と、クライアントの `muLogin` の両方に使う。
-/

namespace Amizone

/-- ゴルーチンを一つずつ選んで進める走り。`step s j` はゴルーチン `j` の一歩。 -/
inductive Drives {σ : Type} (step : σ → Nat → Option σ) : σ → σ → Prop
  | refl (s : σ) : Drives step s s
  | step {s s' s'' : σ} (j : Nat) : step s j = some s' → Drives step s' s'' → Drives step s s''

section

variable {σ : Type} {step : σ → Nat → Option σ} {s s' : σ}

/-- 一歩ごとに保たれる性質は、走りの終わりでも成り立つ。 -/
theorem Drives.preserves {P : σ → Prop} (hP : ∀ {s j s'}, step s j = some s' → P s → P s')
    (h : Drives step s s') (hs : P s) : P s' := by
  induction h with
  | refl => exact hs
  | step j hj _ ih => exact ih (hP hj hs)

/-- ゴルーチン `i` の一歩が作り、ほかのゴルーチンの一歩が壊さない性質は、走りの終わりでも成り立つ。 -/
theorem Drives.preserves_at {Q : σ → Prop} {i : Nat} (hself : ∀ {s s'}, step s i = some s' → Q s')
    (hother : ∀ {s j s'}, step s j = some s' → j ≠ i → Q s → Q s') (h : Drives step s s') (hs : Q s) : Q s' := by
  refine h.preserves (fun {s j s'} hj hq => ?_) hs
  by_cases hji : j = i
  · subst hji; exact hself hj
  · exact hother hj hji hq

variable (step) (rank : σ → Nat → Nat) (holder : σ → Option Nat) (Good : σ → Prop)

/-- 錠を使うゴルーチンの系の進み方。`Good` は届く状態の不変条件。 -/
structure LockProgress : Prop where
  good : ∀ {s j s'}, Good s → step s j = some s' → Good s'
  rank_lt : ∀ {s j s'}, step s j = some s' → rank s' j < rank s j
  rank_other : ∀ {s j s' k}, step s j = some s' → k ≠ j → rank s' k = rank s k
  holder_step : ∀ {s j s'}, step s j = some s' →
    holder s' = holder s ∨ holder s' = none ∨ (holder s = none ∧ holder s' = some j)
  free : ∀ {s i}, Good s → holder s = none → 0 < rank s i → (step s i).isSome
  held : ∀ {s j}, Good s → holder s = some j → 0 < rank s j ∧ (step s j).isSome

/-- 錠の持ち主が `i` でなければ、その残り。 -/
def holderRank (s : σ) (i : Nat) : Nat :=
  match holder s with
  | some j => if j = i then 0 else rank s j
  | none => 0

variable {step rank holder Good}

theorem LockProgress.drive_of_lt (h : LockProgress step rank holder Good) (i : Nat) :
    ∀ n, ∀ s, Good s → rank s i + holderRank rank holder s i < n → ∃ s', Drives step s s' ∧ rank s' i = 0 := by
  intro n
  induction n with
  | zero => intro s _ hn; omega
  | succ n ih =>
  intro s hs hn
  rcases Nat.eq_zero_or_pos (rank s i) with h0 | hpos
  · exact ⟨s, .refl s, h0⟩
  /- 自分が進む：錠は空いているか自分のもので、一歩のあとも他人のものにはならない。 -/
  have self (hfree : holder s = none ∨ holder s = some i) : ∃ s', Drives step s s' ∧ rank s' i = 0 := by
    obtain ⟨s', hs'⟩ := Option.isSome_iff_exists.1 <| hfree.elim (h.free hs · hpos) (h.held hs · |>.2)
    have hh : holderRank rank holder s' i = 0 := by
      rcases h.holder_step hs' with e | e | ⟨-, e⟩ <;> rcases hfree with f | f <;>
        simp_all [holderRank]
    have hs₀ : holderRank rank holder s i = 0 := by rcases hfree with f | f <;> simp [holderRank, f]
    obtain ⟨s'', hd, hz⟩ := ih s' (h.good hs hs') (by have := h.rank_lt hs'; omega)
    exact ⟨s'', .step i hs' hd, hz⟩
  cases hw : holder s with
  | none => exact self (.inl hw)
  | some j =>
      by_cases hji : j = i
      · exact self (.inr (hji ▸ hw))
      /- 錠の持ち主 `j` が進む：自分の残りは変わらず、持ち主の残りが減るか、錠が空く。 -/
      obtain ⟨hjpos, hjs⟩ := h.held hs hw
      obtain ⟨s', hs'⟩ := Option.isSome_iff_exists.1 hjs
      have hi' := h.rank_other hs' (Ne.symm hji)
      have hh : holderRank rank holder s' i < holderRank rank holder s i := by
        rcases h.holder_step hs' with e | e | ⟨e, -⟩
        · simpa [holderRank, e, hw, hji] using h.rank_lt hs'
        · simpa [holderRank, e, hw, hji] using hjpos
        · simp [hw] at e
      obtain ⟨s'', hd, hz⟩ := ih s' (h.good hs hs') (by omega)
      exact ⟨s'', .step j hs' hd, hz⟩

/-- 届くどの状態からも、ゴルーチン `i` の残りを使い切る走りがある。 -/
theorem LockProgress.drive (h : LockProgress step rank holder Good) (i : Nat) (hs : Good s) :
    ∃ s', Drives step s s' ∧ rank s' i = 0 :=
  h.drive_of_lt i _ s hs (Nat.lt_succ_self _)

end

end Amizone
