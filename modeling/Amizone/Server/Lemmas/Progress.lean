import Amizone.Drive
import Amizone.Server.Lemmas.Lock

/-!
# 呼び出しは終わる

届くどの状態からも、途中にある呼び出しは、外の世界がどう答えても、錠を持つゴルーチンを先に進める
順で進めれば値を返す。錠を待つのは錠を取る一歩だけで、錠を持つのは `GetOrCreate` の遅い道にいる
ゴルーチン一つだけであり（`LockInv`）、その道は錠を放すまで待たずに進む。これで `LockProgress` の
前提がそろう。
-/

namespace Amizone.Server

variable {s s' : SessionCache} {i j : Nat} {ok : Bool}

/-- 呼び出しを終えるまでに残る一歩の数の上界。 -/
def Pc.rank : Pc → Nat
  | .idle | .done _ => 0
  | .getRead _ _ => 3
  | .getCheck _ _ _ => 2
  | .getDelete _ _ | .getTouch _ => 1
  | .setNow _ _ _ => 2
  | .setStore _ _ _ _ | .delete _ _ => 1
  | .gocRead _ _ => 7
  | .gocCheck _ _ _ => 6
  | .gocTouch _ => 1
  | .gocLock _ _ => 5
  | .gocRecheck _ _ => 4
  | .gocNew _ _ => 3
  | .gocLogin _ _ _ => 2
  | .gocStore _ _ _ => 1

theorem Pc.rank_pos_iff {pc : Pc} : 0 < pc.rank ↔ pc.Running = true := by
  cases pc <;> simp [Pc.Running, Pc.rank]

theorem Pc.running_of_holding {pc : Pc} (h : pc.Holding = true) : pc.Running = true ∧ pc.NeedsLock = false := by
  cases pc <;> simp_all [Pc.Running, Pc.Holding, Pc.NeedsLock]

/-! ## 一歩 -/

/-- 一歩は残りを減らし、ゴルーチンを呼び出しの外へは戻さない。 -/
theorem SessionCache.stepThread_rank (hs : s.stepThread i ok = some s') :
    (s'.threads i).rank < (s.threads i).rank ∧ s'.threads i ≠ .idle := by
  unfold SessionCache.stepThread at hs
  cases hpc : s.threads i <;> simp only [hpc, SessionCache.whenFree_eq_some] at hs
  all_goals (repeat' split at hs) <;> (try simp only [Option.some.injEq] at hs) <;>
    (try obtain ⟨-, rfl⟩ := hs) <;> simp [Pc.rank, hpc]

/-- 途中のゴルーチンは、錠が空いているか、錠を待つ一歩にいなければ進める。 -/
theorem SessionCache.stepThread_isSome (ok : Bool) (hr : (s.threads i).Running = true)
    (hf : s.writer = none ∨ (s.threads i).NeedsLock = false) : (s.stepThread i ok).isSome := by
  unfold SessionCache.stepThread
  cases hpc : s.threads i <;> simp only [hpc, Pc.Running, Pc.NeedsLock, Bool.false_eq_true] at hr hf ⊢
  all_goals
    (try simp only [Bool.true_eq_false, or_false] at hf)
    (try simp only [SessionCache.whenFree, hf, if_true])
    (repeat' split)
  all_goals rfl

/-- 一歩のあと、錠を持つのは前の持ち主か、錠が空いていれば進んだゴルーチン `i` だけである。 -/
theorem SessionCache.stepThread_writer (hs : s.stepThread i ok = some s') :
    s'.writer = s.writer ∨ s'.writer = none ∨ (s.writer = none ∧ s'.writer = some i) := by
  obtain ⟨-, -, -, -, ⟨hw, -⟩ | ⟨hw, -, hw', -⟩ | ⟨-, hw', -⟩, -⟩ := SessionCache.stepThread_shape hs
  · exact .inl hw
  · exact .inr (.inr ⟨hw, hw'⟩)
  · exact .inr (.inl hw')

/-! ## 進める順 -/

/-- 外の世界が一歩ごとの `ok` を状態から決めるとき、ゴルーチンを一つずつ選んで進める走り。 -/
def SessionCache.Drives (env : SessionCache → Bool) : SessionCache → SessionCache → Prop :=
  Amizone.Drives fun s j => s.stepThread j (env s)

theorem Pc.eq_done_of_rank {pc : Pc} (h : pc.rank = 0) (hn : pc ≠ .idle) : ∃ r, pc = .done r := by
  cases pc <;> simp_all [Pc.rank]

/-- 錠の持ち主は `GetOrCreate` の遅い道にいて、錠を待たずに進める。 -/
theorem SessionCache.lockProgress (env : SessionCache → Bool) :
    LockProgress (fun s j => s.stepThread j (env s)) (fun s i => (s.threads i).rank) (·.writer) Reachable where
  good hs h := .step (.run _ _) hs h
  rank_lt h := (SessionCache.stepThread_rank h).1
  rank_other h hk := by rw [SessionCache.stepThread_other h hk]
  holder_step h := SessionCache.stepThread_writer h
  free _ hw hpos := SessionCache.stepThread_isSome _ (Pc.rank_pos_iff.1 hpos) (.inl hw)
  held hs hw :=
    have hj := Pc.running_of_holding ((hs.inv.lock _).1 hw)
    ⟨Pc.rank_pos_iff.2 hj.1, SessionCache.stepThread_isSome _ hj.1 (.inr hj.2)⟩

variable {env : SessionCache → Bool}

theorem SessionCache.Drives.reachable (h : SessionCache.Drives env s s') (hs : Reachable s) : Reachable s' :=
  Drives.preserves (fun hj hs => (SessionCache.lockProgress env).good hs hj) h hs

theorem SessionCache.Drives.ne_idle (h : SessionCache.Drives env s s') (hi : s.threads i ≠ .idle) :
    s'.threads i ≠ .idle :=
  Drives.preserves_at (Q := fun s => s.threads i ≠ .idle) (fun hs => (SessionCache.stepThread_rank hs).2)
    (fun hs hji hne => (SessionCache.stepThread_other hs (Ne.symm hji)).trans_ne hne) h hi

end Amizone.Server
