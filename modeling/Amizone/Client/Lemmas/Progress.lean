import Amizone.Drive
import Amizone.Client.Lemmas.Mutex

/-!
# クライアントの呼び出しは終わる

一つの `Client` を分け合うゴルーチンの、途中の呼び出しは、錠 `muLogin` の持ち主を先に進める順で進めれば
値を返す。各位置に、呼び出しを終えるまでの一歩の数の上界 `rank` を入れ子の形に沿って与え、一歩がそれを
減らすことを、入れ子の各段で示す。錠を持つのは `login` か `DidLogin` の中のゴルーチン一つだけで
（`LockInv`）、その位置は錠を待たずに進めるので、`LockProgress` の前提がそろう。
-/

namespace Amizone

variable {E : Env} {s s' : Sys} {free : Bool} {op : LockOp}

/-! ## 残りの一歩 -/

/-- `doRequest(false, …)` を終えるまでの一歩の数。 -/
def QuietRequest.rank : QuietRequest → Nat
  | .start _ _ _ => 2
  | .send _ _ _ => 1

/-- `DidLogin()` を終えるまでの一歩の数。 -/
def DidLoginRun.rank : DidLoginRun → Nat
  | .lock => 2
  | .read => 1

/-- `login(force)` を終えるまでの一歩の数の上界。 -/
def LoginRun.rank : LoginRun → Nat
  | .lock => 8
  | .check => 7
  | .get q => q.rank + 4
  | .afterGet _ => 4
  | .post q => q.rank + 1
  | .afterPost _ => 1

/-- `doRequest(true, …)` を終えるまでの一歩の数の上界。 -/
def RequestRun.rank : RequestRun → Nat
  | .start => 25
  | .didLogin d => d.rank + 22
  | .afterDidLogin _ => 22
  | .login l => l.rank + 13
  | .afterLogin _ => 13
  | .send _ => 12
  | .relogin _ l => l.rank + 3
  | .afterRelogin _ _ => 3
  | .resend q => q.rank

def Goroutine.rank : Goroutine → Nat
  | .idle | .done _ => 0
  | .request _ _ _ r => r.rank
  | .login _ l => l.rank
  | .didLogin d => d.rank

/-- 行き先の残り。値を返したあとは 0。 -/
def Next.rank {α β : Type} (R : α → Nat) : Next α β → Nat
  | .cont a => R a
  | .ret _ => 0

/-! ## 一歩は残りを減らす -/

theorem QuietRequest.rank_pos (q : QuietRequest) : 0 < q.rank := by cases q <;> simp [QuietRequest.rank]

theorem QuietRequest.step_rank (q : QuietRequest) : ((q.step E s).1.rank QuietRequest.rank) < q.rank := by
  cases q with
  | start => simp only [QuietRequest.step]; split <;> simp [Next.rank, QuietRequest.rank]
  | send => simp only [QuietRequest.step]; split <;> simp [Next.rank, QuietRequest.rank]

theorem DidLoginRun.step_rank {d : DidLoginRun} {n : Next DidLoginRun Bool} (h : d.step s free = some (n, s', op)) :
    n.rank DidLoginRun.rank < d.rank := by
  cases d with
  | lock => simp only [DidLoginRun.step] at h; split at h <;> cases h; simp [Next.rank, DidLoginRun.rank]
  | read => cases h; simp [Next.rank, DidLoginRun.rank]

theorem LoginRun.step_rank {force : Bool} {l : LoginRun} {n : Next LoginRun (Option String)}
    (h : l.step E force s free = some (n, s', op)) : n.rank LoginRun.rank < l.rank := by
  cases l with
  | get q =>
      have := q.step_rank (E := E) (s := s)
      simp only [LoginRun.step] at h
      split at h <;> (cases h; rename_i h'; rw [h'] at this; simp_all [Next.rank, LoginRun.rank])
  | post q =>
      have := q.step_rank (E := E) (s := s)
      simp only [LoginRun.step] at h
      split at h <;> (cases h; rename_i h'; rw [h'] at this; simp_all [Next.rank, LoginRun.rank])
  | _ =>
      simp only [LoginRun.step, loginReturn] at h
      repeat' split at h
      all_goals (cases h <;> simp [Next.rank, LoginRun.rank, QuietRequest.rank])

theorem RequestRun.nest_rank {α β : Type} {wrap : α → RequestRun} {after : β → RequestRun} {R : α → Nat}
    {c x : Nat} {o : Option (Next α β × Sys × LockOp)} {n : Next RequestRun Reply}
    (ho : RequestRun.nest wrap after o = some (n, s', op)) (hw : ∀ a, (wrap a).rank = R a + c)
    (ha : ∀ b, (after b).rank = c) (hin : ∀ {n s' op}, o = some (n, s', op) → n.rank R < x) :
    n.rank RequestRun.rank < x + c := by
  obtain ⟨⟨n₀, s₀, op₀⟩, hd, he⟩ := Option.map_eq_some'.1 ho
  have := hin hd
  cases n₀ <;> (simp only [Prod.mk.injEq] at he; obtain ⟨rfl, rfl, rfl⟩ := he) <;>
    simp only [Next.rank, hw, ha] at this ⊢ <;> omega

theorem RequestRun.step_rank {m e : String} {b : Option Reader} {r : RequestRun} {n : Next RequestRun Reply}
    (h : r.step E m e b s free = some (n, s', op)) : n.rank RequestRun.rank < r.rank := by
  cases r with
  | didLogin d => exact RequestRun.nest_rank h (fun _ => rfl) (fun _ => rfl) DidLoginRun.step_rank
  | login l => exact RequestRun.nest_rank h (fun _ => rfl) (fun _ => rfl) LoginRun.step_rank
  | relogin b l => exact RequestRun.nest_rank h (fun _ => rfl) (fun _ => rfl) LoginRun.step_rank
  | resend q =>
      have := q.step_rank (E := E) (s := s)
      simp only [RequestRun.step] at h
      split at h <;> (cases h; rename_i h'; rw [h'] at this; simp_all [Next.rank, RequestRun.rank])
  | _ =>
      simp only [RequestRun.step] at h
      repeat' split at h
      all_goals (cases h; simp [Next.rank, RequestRun.rank, DidLoginRun.rank, LoginRun.rank, QuietRequest.rank])

theorem Goroutine.lift_rank {α β : Type} {wrap : α → Goroutine} {result : β → Result} {R : α → Nat} {x : Nat}
    {o : Option (Next α β × Sys × LockOp)} {g' : Goroutine} (ho : Goroutine.lift wrap result o = some (g', s', op))
    (hw : ∀ a, (wrap a).rank = R a ∧ wrap a ≠ .idle) (hin : ∀ {n s' op}, o = some (n, s', op) → n.rank R < x) :
    g'.rank < x ∧ g' ≠ .idle := by
  obtain ⟨⟨n, s₀, op₀⟩, hd, he⟩ := Option.map_eq_some'.1 ho
  have := hin hd
  cases n <;> (simp only [Prod.mk.injEq] at he; obtain ⟨rfl, rfl, rfl⟩ := he)
  · exact ⟨(hw _).1 ▸ this, (hw _).2⟩
  · exact ⟨this, Goroutine.noConfusion⟩

/-- ゴルーチンの一歩は残りを減らし、ゴルーチンを呼び出しの外へは戻さない。 -/
theorem Goroutine.step_rank {g g' : Goroutine} (h : g.step E s free = some (g', s', op)) :
    g'.rank < g.rank ∧ g' ≠ .idle := by
  cases g with
  | idle | done => cases h
  | request m e b r => exact Goroutine.lift_rank h (fun _ => ⟨rfl, Goroutine.noConfusion⟩) RequestRun.step_rank
  | login force l => exact Goroutine.lift_rank h (fun _ => ⟨rfl, Goroutine.noConfusion⟩) LoginRun.step_rank
  | didLogin d => exact Goroutine.lift_rank h (fun _ => ⟨rfl, Goroutine.noConfusion⟩) DidLoginRun.step_rank

theorem Goroutine.rank_pos_iff {g : Goroutine} : 0 < g.rank ↔ g.Running = true := by
  cases g with
  | idle | done => simp [Goroutine.Running, Goroutine.rank]
  | request m e b r => cases r <;> simp [Goroutine.Running, Goroutine.rank, RequestRun.rank, QuietRequest.rank_pos]
  | login force l => cases l <;> simp [Goroutine.Running, Goroutine.rank, LoginRun.rank]
  | didLogin d => cases d <;> simp [Goroutine.Running, Goroutine.rank, DidLoginRun.rank]

theorem Goroutine.eq_done_of_rank {g : Goroutine} (h : g.rank = 0) (hn : g ≠ .idle) : ∃ r, g = .done r := by
  cases g with
  | idle => exact absurd rfl hn
  | done r => exact ⟨r, rfl⟩
  | _ => exact absurd h (Nat.pos_iff_ne_zero.1 (Goroutine.rank_pos_iff.2 rfl))

/-! ## 全体の一歩 -/

section World

variable {w w' : World} {i j : Nat}

theorem World.stepThread_rank (hs : w.stepThread E i = some w') :
    (w'.threads i).rank < (w.threads i).rank ∧ w'.threads i ≠ .idle := by
  obtain ⟨g, op, hg, -, ht⟩ := World.stepThread_eq_some hs
  rw [ht, Function.update_same]
  exact Goroutine.step_rank hg

theorem World.stepThread_other (hs : w.stepThread E i = some w') (hj : j ≠ i) : w'.threads j = w.threads j := by
  obtain ⟨g, op, -, -, ht⟩ := World.stepThread_eq_some hs
  rw [ht, Function.update_noteq hj]

/-- 一歩のあと、錠を持つのは前の持ち主か、錠が空いていれば進んだゴルーチン `i` だけである。 -/
theorem World.stepThread_holder (hs : w.stepThread E i = some w') :
    w'.holder = w.holder ∨ w'.holder = none ∨ (w.holder = none ∧ w'.holder = some i) := by
  obtain ⟨g, op, hg, hh, -⟩ := World.stepThread_eq_some hs
  have hl := Goroutine.step_lock hg
  cases op with
  | keep => exact .inl hh
  | take => exact .inr (.inr ⟨by simpa using hl.2.1, hh⟩)
  | give => exact .inr (.inl hh)

/-- 錠の持ち主は `login` か `DidLogin` の中にいて、錠を待たずに進める。 -/
theorem World.lockProgress (E : Env) :
    LockProgress (fun w j => w.stepThread E j) (fun w i => (w.threads i).rank) (·.holder) (World.Reachable E) where
  good hw h := .step (.run _) hw h
  rank_lt h := (World.stepThread_rank h).1
  rank_other h hk := by rw [World.stepThread_other h hk]
  holder_step h := World.stepThread_holder h
  free {w i} _ hw hpos := by
    simpa [World.stepThread, hw] using
      Goroutine.step_isSome (E := E) (s := w.sys) (Goroutine.rank_pos_iff.1 hpos) (.inr rfl)
  held hw hj :=
    have hh := (hw.lockInv _).1 hj
    ⟨Goroutine.rank_pos_iff.2 (Goroutine.Holding.needsLock hh).2, World.stepThread_isSome_of_holding hh⟩

theorem World.drives_ne_idle (h : Drives (fun w j => w.stepThread E j) w w') (hi : w.threads i ≠ .idle) :
    w'.threads i ≠ .idle :=
  Drives.preserves_at (Q := fun w => w.threads i ≠ .idle) (fun hs => (World.stepThread_rank hs).2)
    (fun hs hji hne => (World.stepThread_other hs (Ne.symm hji)).trans_ne hne) h hi

end World

end Amizone
