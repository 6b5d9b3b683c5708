import Amizone.Server.SessionCache

/-!
# セッションキャッシュの錠の不変条件

届くどの状態でも、`sc.mu` を書き込みで持つのは `GetOrCreate` の遅い道にいるゴルーチンちょうど
一つである（`LockInv`）。さらに、新しい `*Client` を作っている間、その鍵には生きた項がない
（`RecheckInv`）。錠を持つ間はほかの誰も表に触れないので、遅い道のはじめの確かめが保たれる。
-/

namespace Amizone.Server

variable {s s' : SessionCache} {i j : Nat} {ok : Bool} {k : String}

/-! ## 一歩の形 -/

@[simp] theorem SessionCache.setPc_threads (s : SessionCache) (i : Nat) (pc : Pc) :
    (s.setPc i pc).threads = Function.update s.threads i pc := rfl

@[simp] theorem SessionCache.setPc_writer (s : SessionCache) (i : Nat) (pc : Pc) :
    (s.setPc i pc).writer = s.writer := rfl

@[simp] theorem SessionCache.setPc_sessions (s : SessionCache) (i : Nat) (pc : Pc) :
    (s.setPc i pc).sessions = s.sessions := rfl

@[simp] theorem SessionCache.setPc_now (s : SessionCache) (i : Nat) (pc : Pc) :
    (s.setPc i pc).now = s.now := rfl

@[simp] theorem SessionCache.setPc_ttl (s : SessionCache) (i : Nat) (pc : Pc) :
    (s.setPc i pc).ttl = s.ttl := rfl

@[simp] theorem SessionCache.store_threads (s : SessionCache) (k : String) (v : Option Entry) :
    (s.store k v).threads = s.threads := rfl

@[simp] theorem SessionCache.store_writer (s : SessionCache) (k : String) (v : Option Entry) :
    (s.store k v).writer = s.writer := rfl

@[simp] theorem SessionCache.store_now (s : SessionCache) (k : String) (v : Option Entry) :
    (s.store k v).now = s.now := rfl

@[simp] theorem SessionCache.store_ttl (s : SessionCache) (k : String) (v : Option Entry) :
    (s.store k v).ttl = s.ttl := rfl

theorem SessionCache.whenFree_eq_some {t : SessionCache} :
    s.whenFree t = some s' ↔ s.writer = none ∧ t = s' := by
  unfold SessionCache.whenFree; split <;> simp_all

/-- ゴルーチン `i` の一歩の形：`i` の位置を `pc` に変え、時計と期限はそのまま。錠は、そのままか、空きから
`i` が取るか、持つ `i` が放す。表を書き換えるのは、錠が空いているときか錠を持つ者だけである。作る者の
鍵は、表を変えずに前の位置から受け継ぐか、その鍵に生きた項がないと確かめて始める。 -/
theorem SessionCache.stepThread_shape (hs : s.stepThread i ok = some s') :
    ∃ pc, s'.threads = Function.update s.threads i pc ∧ s'.now = s.now ∧ s'.ttl = s.ttl ∧
      ((s'.writer = s.writer ∧ pc.Holding = (s.threads i).Holding) ∨
        (s.writer = none ∧ (s.threads i).Holding = false ∧ s'.writer = some i ∧ pc.Holding = true) ∨
        ((s.threads i).Holding = true ∧ s'.writer = none ∧ pc.Holding = false)) ∧
      (s'.sessions = s.sessions ∨ s.writer = none ∨ (s.threads i).Holding = true) ∧
      ∀ k, pc.creatingKey = some k →
        s'.sessions = s.sessions ∧ ((s.threads i).creatingKey = some k ∨ ¬ s.Live k) := by
  unfold SessionCache.stepThread at hs
  cases hpc : s.threads i <;> simp only [hpc, SessionCache.whenFree_eq_some] at hs
  all_goals (repeat' split at hs) <;> (try simp only [Option.some.injEq] at hs) <;>
    (try obtain ⟨hw, rfl⟩ := hs) <;>
    refine ⟨_, rfl, rfl, rfl, ?_, ?_, ?_⟩ <;>
    simp_all [Pc.Holding, Pc.creatingKey, SessionCache.Live]

/-- ゴルーチン `i` の一歩は、ほかのゴルーチンの局所状態を変えない。 -/
theorem SessionCache.stepThread_other (hs : s.stepThread i ok = some s') (hj : j ≠ i) :
    s'.threads j = s.threads j := by
  obtain ⟨pc, ht, -⟩ := SessionCache.stepThread_shape hs
  rw [ht, Function.update_noteq hj]

/-- 錠は、空きから `i` へ、または `i` から空きへしか動かない。 -/
theorem SessionCache.stepThread_lock (hi : s.writer = some i ↔ (s.threads i).Holding = true)
    (hs : s.stepThread i ok = some s') :
    (s'.writer = some i ↔ (s'.threads i).Holding = true) ∧
      ∀ j, j ≠ i → (s'.writer = some j ↔ s.writer = some j) := by
  obtain ⟨pc, ht, -, -, hl, -⟩ := SessionCache.stepThread_shape hs
  rw [ht, Function.update_same]
  rcases hl with ⟨hw, hh⟩ | ⟨hw, -, hw', hh⟩ | ⟨hh₀, hw', hh⟩
  · rw [hw, hh]; exact ⟨hi, fun _ _ => Iff.rfl⟩
  · rw [hw', hh, hw]; exact ⟨by simp, fun j hj => by simp [Ne.symm hj]⟩
  · rw [hw', hh, hi.2 hh₀]; exact ⟨by simp, fun j hj => by simp [Ne.symm hj]⟩

/-- 錠が書き込みで持たれている間、錠を取る一歩は進めない。 -/
theorem SessionCache.stepThread_blocked (hw : s.writer ≠ none)
    (hn : (s.threads i).NeedsLock = true) : s.stepThread i ok = none := by
  unfold SessionCache.stepThread
  cases hpc : s.threads i <;> simp_all [Pc.NeedsLock, SessionCache.whenFree]

/-- ゴルーチンの一歩は時計を進めず、表を書き換えるのは錠が空いているときか、錠を持つ者だけである。 -/
theorem SessionCache.stepThread_sessions (hs : s.stepThread i ok = some s') :
    s'.now = s.now ∧ s'.ttl = s.ttl ∧
      (s'.sessions = s.sessions ∨ s.writer = none ∨ (s.threads i).Holding = true) := by
  obtain ⟨-, -, hn, ht, -, hses, -⟩ := SessionCache.stepThread_shape hs
  exact ⟨hn, ht, hses⟩

/-! ## 錠の持ち主 -/

/-- `sc.mu` を書き込みで持つのは、遅い道にいるゴルーチンちょうどそれである。 -/
def LockInv (s : SessionCache) : Prop := ∀ i, s.writer = some i ↔ (s.threads i).Holding = true

theorem LockInv.holder (h : LockInv s) (hi : (s.threads i).Holding = true) : s.writer = some i :=
  (h i).mpr hi

theorem LockInv.stepThread (h : LockInv s) (hs : s.stepThread i ok = some s') : LockInv s' := by
  obtain ⟨hi, hother⟩ := SessionCache.stepThread_lock (h i) hs
  intro j
  by_cases hj : j = i
  · subst hj; exact hi
  · rw [hother j hj, SessionCache.stepThread_other hs hj]; exact h j

theorem LockInv.step {a : Action} (h : LockInv s) (hs : s.step a = some s') : LockInv s' := by
  cases a with
  | start i op =>
      simp only [SessionCache.step] at hs
      split at hs
      · cases hs
        intro j
        by_cases hj : j = i
        · subst hj; cases op <;> simp_all [Op.entry, Pc.Holding, h j]
        · simp [hj, h j]
      · cases hs
  | run i ok => exact h.stepThread hs
  | tick d => cases hs; exact h
  | cleanup =>
      obtain ⟨-, rfl⟩ := SessionCache.whenFree_eq_some.mp hs
      exact h

/-! ## 作る者の確かめ -/

/-- 新しい `*Client` を作っている鍵には、生きた項がない。 -/
def RecheckInv (s : SessionCache) : Prop :=
  ∀ i k, (s.threads i).creatingKey = some k → ¬ s.Live k

theorem Pc.holding_of_creatingKey {pc : Pc} (h : pc.creatingKey = some k) : pc.Holding = true := by
  cases pc <;> simp_all [Pc.creatingKey, Pc.Holding]

/-- 表、時計、期限が同じなら、生きた項も同じである。 -/
theorem SessionCache.live_iff_of_eq (hses : s'.sessions = s.sessions) (hn : s'.now = s.now) (ht : s'.ttl = s.ttl) :
    s'.Live k ↔ s.Live k := by
  unfold SessionCache.Live; rw [hses, hn, ht]

theorem SessionCache.not_live_tick (d : Nat) (h : ¬ s.Live k) :
    ¬ ({ s with now := s.now + d } : SessionCache).Live k := by
  unfold SessionCache.Live at *
  split <;> simp_all only [not_le, not_false_eq_true]
  omega

/-- 作る者自身の一歩は、確かめを保つ。遅い道のはじめは、表を読んで生きた項がないことを確かめる。 -/
theorem SessionCache.stepThread_creating (hs : s.stepThread i ok = some s')
    (h : ∀ k, (s.threads i).creatingKey = some k → ¬ s.Live k) :
    ∀ k, (s'.threads i).creatingKey = some k → ¬ s'.Live k := by
  obtain ⟨pc, ht, hn, httl, -, -, hc⟩ := SessionCache.stepThread_shape hs
  intro k hk
  rw [ht, Function.update_same] at hk
  obtain ⟨hses, hk'⟩ := hc k hk
  rw [SessionCache.live_iff_of_eq hses hn httl]
  exact hk'.elim (h k) id

theorem RecheckInv.stepThread (hl : LockInv s) (h : RecheckInv s) (hs : s.stepThread j ok = some s') :
    RecheckInv s' := by
  intro i k hk
  by_cases hij : i = j
  · subst hij; exact SessionCache.stepThread_creating hs (h i) k hk
  · rw [SessionCache.stepThread_other hs hij] at hk
    have hw := hl.holder (Pc.holding_of_creatingKey hk)
    obtain ⟨hnow, httl, hses | hfree | hown⟩ := SessionCache.stepThread_sessions hs
    · rw [SessionCache.live_iff_of_eq hses hnow httl]; exact h i k hk
    · simp [hw] at hfree
    · rw [hl.holder hown] at hw; cases hw; exact absurd rfl hij

theorem RecheckInv.step {a : Action} (hl : LockInv s) (h : RecheckInv s) (hs : s.step a = some s') :
    RecheckInv s' := by
  cases a with
  | start i op =>
      simp only [SessionCache.step] at hs
      split at hs
      · cases hs
        intro j k hk
        by_cases hj : j = i
        · subst hj; cases op <;> simp [Op.entry, Pc.creatingKey] at hk
        · simp only [SessionCache.setPc_threads, ne_eq, hj, not_false_eq_true,
            Function.update_noteq] at hk
          exact h j k hk
      · cases hs
  | run i ok => exact h.stepThread hl hs
  | tick d => cases hs; exact fun i k hk => SessionCache.not_live_tick d (h i k hk)
  | cleanup =>
      obtain ⟨hw, rfl⟩ := SessionCache.whenFree_eq_some.mp hs
      intro i k hk
      simpa [hw] using hl.holder (Pc.holding_of_creatingKey hk)

/-! ## 届く状態 -/

/-- 届くどの状態でも成り立つこと。 -/
structure Inv (s : SessionCache) : Prop where
  lock : LockInv s
  recheck : RecheckInv s

theorem Inv.init (ttl : Int) (now : Nat) : Inv (NewSessionCache ttl now) where
  lock i := by simp [NewSessionCache, Pc.Holding]
  recheck i k := by simp [NewSessionCache, Pc.creatingKey]

theorem Reachable.inv (h : Reachable s) : Inv s := by
  induction h with
  | init ttl now => exact Inv.init ttl now
  | step a _ hs ih => exact ⟨ih.lock.step hs, ih.recheck.step ih.lock hs⟩

end Amizone.Server
