import Amizone.Client.Mutex
import Amizone.Client.Lemmas.Login

/-!
# 錠 `muLogin` の不変条件

一歩ごとに、錠への操作（そのまま、取る、放す）と、錠を持つ位置にいるかどうかが合っている
（`LockStep`）。取るのは錠を持たない位置から錠が空いているときだけ、放すのは `login` か `DidLogin` から
戻るときだけで、入れ子の `doRequest(false, …)` の一歩は錠に触れない。ここから、届くどの状態でも、
錠を持つのは錠を持つ位置にいるゴルーチンちょうど一つである（`LockInv`）。
-/

namespace Amizone

variable {E : Env} {s s' : Sys} {free : Bool} {op : LockOp}

/-! ## 一歩と錠 -/

/-- 一歩の前に錠を持つ位置にいたか（`h`）、錠が空いていたか（`free`）、一歩のあとに錠を持つ位置に
いるか（`h'`）と、錠への操作が合っている。 -/
def LockStep (h free h' : Bool) : LockOp → Prop
  | .keep => h' = h
  | .take => h = false ∧ free = true ∧ h' = true
  | .give => h = true ∧ h' = false

/-- 行き先が錠を持つ位置か。値を返したあとは持たない。 -/
def Next.holds {α β : Type} (H : α → Bool) : Next α β → Bool
  | .cont a => H a
  | .ret _ => false

theorem DidLoginRun.step_lock {d : DidLoginRun} {n : Next DidLoginRun Bool}
    (h : d.step s free = some (n, s', op)) :
    LockStep d.Holding free (n.holds DidLoginRun.Holding) op := by
  cases d with
  | lock =>
      simp only [DidLoginRun.step] at h
      split at h
      · cases h; exact ⟨rfl, ‹_›, rfl⟩
      · cases h
  | read => cases h; exact ⟨rfl, rfl⟩

/-- `login` の一歩：`Lock` から錠を取るか、錠を持ったまま次の位置へ進むか、錠を放して戻る。 -/
theorem LoginRun.step_cases {force : Bool} {l : LoginRun} {n : Next LoginRun (Option String)}
    (h : l.step E force s free = some (n, s', op)) :
    (l = .lock ∧ free = true ∧ n = .cont .check ∧ op = .take) ∨
      (l.Holding = true ∧ ((∃ r, n = .ret r ∧ op = .give) ∨ (∃ l', n = .cont l' ∧ l'.Holding = true ∧ op = .keep))) := by
  cases l with
  | lock =>
      simp only [LoginRun.step] at h
      split at h
      · cases h; exact .inl ⟨rfl, ‹_›, rfl, rfl⟩
      · cases h
  | _ =>
      refine .inr ⟨rfl, ?_⟩
      simp only [LoginRun.step, loginReturn] at h
      repeat' split at h
      all_goals
        simp only [Option.some.injEq, Prod.mk.injEq] at h
        obtain ⟨rfl, rfl, rfl⟩ := h
        first | exact .inl ⟨_, rfl, rfl⟩ | exact .inr ⟨_, rfl, rfl, rfl⟩

theorem LoginRun.step_lock {force : Bool} {l : LoginRun} {n : Next LoginRun (Option String)}
    (h : l.step E force s free = some (n, s', op)) :
    LockStep l.Holding free (n.holds LoginRun.Holding) op := by
  obtain ⟨rfl, hf, rfl, rfl⟩ | ⟨hl, ⟨r, rfl, rfl⟩ | ⟨l', rfl, hl', rfl⟩⟩ := LoginRun.step_cases h
  · exact ⟨rfl, hf, rfl⟩
  · exact ⟨hl, rfl⟩
  · exact hl'.trans hl.symm

theorem RequestRun.nest_lock {α β : Type} {wrap : α → RequestRun} {after : β → RequestRun} {h : Bool}
    {o : Option (Next α β × Sys × LockOp)} {n : Next RequestRun Reply}
    (ho : RequestRun.nest wrap after o = some (n, s', op)) (ha : ∀ b, (after b).Holding = false)
    (hin : ∀ {n s' op}, o = some (n, s', op) → LockStep h free (n.holds fun a => (wrap a).Holding) op) :
    LockStep h free (n.holds RequestRun.Holding) op := by
  obtain ⟨⟨n, s'', op'⟩, hd, he⟩ := Option.map_eq_some'.1 ho
  have := hin hd
  cases n <;> (simp only [Prod.mk.injEq] at he; obtain ⟨rfl, rfl, rfl⟩ := he)
  · exact this
  · simpa [Next.holds, ha] using this

theorem RequestRun.step_lock {m e : String} {b : Option Reader} {r : RequestRun} {n : Next RequestRun Reply}
    (h : r.step E m e b s free = some (n, s', op)) :
    LockStep r.Holding free (n.holds RequestRun.Holding) op := by
  cases r with
  | didLogin d => exact RequestRun.nest_lock h (fun _ => rfl) DidLoginRun.step_lock
  | login l => exact RequestRun.nest_lock h (fun _ => rfl) LoginRun.step_lock
  | relogin b l => exact RequestRun.nest_lock h (fun _ => rfl) LoginRun.step_lock
  | _ =>
      simp only [RequestRun.step] at h
      repeat' split at h
      all_goals
        simp only [Option.some.injEq, Prod.mk.injEq] at h
        obtain ⟨rfl, rfl, rfl⟩ := h
        simp [LockStep, Next.holds, RequestRun.Holding, DidLoginRun.Holding, LoginRun.Holding]

theorem Goroutine.lift_lock {α β : Type} {wrap : α → Goroutine} {result : β → Result} {h : Bool}
    {o : Option (Next α β × Sys × LockOp)} {g' : Goroutine} (ho : Goroutine.lift wrap result o = some (g', s', op))
    (hin : ∀ {n s' op}, o = some (n, s', op) → LockStep h free (n.holds fun a => (wrap a).Holding) op) :
    LockStep h free g'.Holding op := by
  obtain ⟨⟨n, s'', op'⟩, hd, he⟩ := Option.map_eq_some'.1 ho
  have := hin hd
  cases n <;> (simp only [Prod.mk.injEq] at he; obtain ⟨rfl, rfl, rfl⟩ := he) <;> exact this

/-- ゴルーチンの一歩と錠。 -/
theorem Goroutine.step_lock {g g' : Goroutine} (h : g.step E s free = some (g', s', op)) :
    LockStep g.Holding free g'.Holding op := by
  cases g with
  | idle | done => cases h
  | request m e b r => exact Goroutine.lift_lock h RequestRun.step_lock
  | login force l => exact Goroutine.lift_lock h LoginRun.step_lock
  | didLogin d => exact Goroutine.lift_lock h DidLoginRun.step_lock

/-! ## 進める一歩 -/

theorem LoginRun.step_isSome {force : Bool} {l : LoginRun} (hl : l = .lock → free = true) :
    (l.step E force s free).isSome := by
  cases l with
  | lock => simp [LoginRun.step, hl rfl]
  | _ => simp only [LoginRun.step, loginReturn]; (repeat' split) <;> rfl

theorem RequestRun.step_isSome {m e : String} {b : Option Reader} {r : RequestRun}
    (hr : r = .didLogin .lock ∨ r = .login .lock ∨ (∃ b', r = .relogin b' .lock) → free = true) :
    (r.step E m e b s free).isSome := by
  cases r with
  | didLogin d => cases d <;> simp_all [RequestRun.step, RequestRun.nest, DidLoginRun.step]
  | login l => simpa [RequestRun.step, RequestRun.nest] using LoginRun.step_isSome (by simp_all)
  | relogin b l => simpa [RequestRun.step, RequestRun.nest] using LoginRun.step_isSome (by simp_all)
  | _ => simp only [RequestRun.step]; (repeat' split) <;> rfl

/-- 動いているゴルーチンは、錠を取る位置でなければ、または錠が空いていれば、進める。 -/
theorem Goroutine.step_isSome {g : Goroutine} (hg : g.Running = true) (hl : g.NeedsLock = false ∨ free = true) :
    (g.step E s free).isSome := by
  cases g with
  | idle | done => cases hg
  | request m e b r =>
      have hr : (r.step E m e b s free).isSome :=
        RequestRun.step_isSome (by rintro (rfl | rfl | ⟨b', rfl⟩) <;> simpa [Goroutine.NeedsLock] using hl)
      simpa [Goroutine.step, Goroutine.lift] using hr
  | login force l =>
      have hs : (l.step E force s free).isSome :=
        LoginRun.step_isSome (by rintro rfl; simpa [Goroutine.NeedsLock] using hl)
      simpa [Goroutine.step, Goroutine.lift] using hs
  | didLogin d => cases d <;> simp_all [Goroutine.step, Goroutine.lift, DidLoginRun.step, Goroutine.NeedsLock]

/-- `login` の本体にいるゴルーチンは、錠を持つ位置にいる。 -/
theorem Goroutine.InLogin.holding {g : Goroutine} (h : g.InLogin = true) : g.Holding = true := by
  revert h; unfold Goroutine.InLogin; split <;> simp [Goroutine.Holding, RequestRun.Holding]

/-- 錠を持つ位置は、錠を取る位置ではなく、呼び出しの途中である。 -/
theorem Goroutine.Holding.needsLock {g : Goroutine} (h : g.Holding = true) : g.NeedsLock = false ∧ g.Running = true := by
  constructor
  · revert h; unfold Goroutine.NeedsLock
    split <;> simp [Goroutine.Holding, RequestRun.Holding, LoginRun.Holding, DidLoginRun.Holding]
  · cases g <;> simp_all [Goroutine.Holding, Goroutine.Running]

/-! ## 全体の一歩 -/

section World

variable {w w' : World} {i j : Nat}

/-- ゴルーチン `i` の一歩は、その位置の一歩で、錠の持ち主を錠への操作に合わせて変える。 -/
theorem World.stepThread_eq_some (h : w.stepThread E i = some w') :
    ∃ g op, (w.threads i).step E w.sys (w.holder = none) = some (g, w'.sys, op) ∧
      w'.holder = op.apply i w.holder ∧ w'.threads = Function.update w.threads i g := by
  obtain ⟨⟨g, s, op⟩, hg, rfl⟩ := Option.map_eq_some'.1 h
  exact ⟨g, op, hg, rfl, rfl⟩

/-- 錠を持つのは、錠を持つ位置にいるゴルーチンちょうどそれである。 -/
def LockInv (w : World) : Prop := ∀ i, w.holder = some i ↔ (w.threads i).Holding = true

theorem LockInv.stepThread (h : LockInv w) (hs : w.stepThread E i = some w') : LockInv w' := by
  obtain ⟨g, op, hg, hh, ht⟩ := World.stepThread_eq_some hs
  have hl := Goroutine.step_lock hg
  intro j
  rw [hh, ht]
  by_cases hj : j = i
  · subst hj
    rw [Function.update_same]
    cases op with
    | keep => rw [LockOp.apply, hl]; exact h j
    | take => simp [LockOp.apply, hl.2.2]
    | give => simp [LockOp.apply, hl.2]
  · rw [Function.update_noteq hj]
    cases op with
    | keep => exact h j
    | take =>
        have hn : w.holder = none := by simpa using hl.2.1
        simpa [LockOp.apply, Ne.symm hj, hn] using h j
    | give =>
        have hi := (h i).2 hl.1
        simpa [LockOp.apply, hi, Ne.symm hj] using h j

theorem LockInv.step {a : Action} (h : LockInv w) (hs : w.step E a = some w') : LockInv w' := by
  cases a with
  | start i c =>
      simp only [World.step] at hs
      split at hs
      all_goals try cases hs
      all_goals
        intro j
        by_cases hj : j = i
        · subst hj; cases c <;> simp_all [Invocation.entry, Goroutine.Holding, RequestRun.Holding,
            LoginRun.Holding, DidLoginRun.Holding, h j]
        · simp [hj, h j]
  | run i => exact h.stepThread hs
  | tick d => cases hs; exact h

theorem World.Reachable.lockInv (h : World.Reachable E w) : LockInv w := by
  induction h with
  | init s => intro i; simp [World.init, Goroutine.Holding]
  | step a _ hs ih => exact ih.step hs

/-- 錠を持つ位置のゴルーチンは、錠を待たずに進める。 -/
theorem World.stepThread_isSome_of_holding (hi : (w.threads i).Holding = true) : (w.stepThread E i).isSome := by
  obtain ⟨hn, hr⟩ := Goroutine.Holding.needsLock hi
  have hs : ((w.threads i).step E w.sys (w.holder = none)).isSome := Goroutine.step_isSome hr (.inl hn)
  simpa [World.stepThread] using hs

/-- 動いているゴルーチンがあれば、進めるゴルーチンがある。錠が空いていれば、そのゴルーチンが進め、
錠が持たれていれば、持ち主が進める。 -/
theorem LockInv.progress (h : LockInv w) (hi : (w.threads i).Running = true) : ∃ j, (w.stepThread E j).isSome := by
  cases hw : w.holder with
  | none =>
      exact ⟨i, by simpa [World.stepThread, hw] using Goroutine.step_isSome (E := E) (s := w.sys) hi (.inr rfl)⟩
  | some j => exact ⟨j, World.stepThread_isSome_of_holding ((h j).1 hw)⟩

end World

/-! ## 一つのゴルーチンだけの実行 -/

section Solo

variable {α β : Type} (step : α → Sys → Bool → Option (Next α β × Sys × LockOp))

/-- ほかのゴルーチンが進まない実行で、錠を待たずに、位置 `a`・状態 `s` から `a'`・`s'` へ進む。
各一歩の錠への操作を `op` に書く。 -/
inductive Reaches : α → Sys → α → Sys → Prop
  | refl (a : α) (s : Sys) : Reaches a s a s
  | cont {a a' a'' : α} {s s' s'' : Sys} (op : LockOp) :
      step a s true = some (.cont a', s', op) → Reaches a' s' a'' s'' → Reaches a s a'' s''

/-- 同じ実行で、位置 `a`・状態 `s` から、値 `b` を返して状態 `s'` で終わる。 -/
inductive Returns : α → Sys → β → Sys → Prop
  | ret {a : α} {s s' : Sys} {b : β} (op : LockOp) : step a s true = some (.ret b, s', op) → Returns a s b s'
  | cont {a a' : α} {s s' s'' : Sys} {b : β} (op : LockOp) :
      step a s true = some (.cont a', s', op) → Returns a' s' b s'' → Returns a s b s''

variable {step}

theorem Reaches.returns {a a' : α} {s s' s'' : Sys} {b : β} (h : Reaches step a s a' s')
    (h' : Returns step a' s' b s'') : Returns step a s b s'' := by
  induction h with
  | refl => exact h'
  | cont op hs _ ih => exact .cont op hs (ih h')

end Solo

/-- 入れ子の `doRequest(false, …)` は、一歩か二歩で `doRequest E false` の答えを返す。 -/
theorem QuietRequest.run (E : Env) (m e : String) (b : Option Reader) (s : Sys) :
    (QuietRequest.start m e b).step E s = (.ret (doRequest E false m e b s).1, (doRequest E false m e b s).2) ∨
      ((QuietRequest.start m e b).step E s = (.cont (.send m e b), s) ∧
        (QuietRequest.send m e b).step E s = (.ret (doRequest E false m e b s).1, (doRequest E false m e b s).2)) := by
  rw [doRequest_false]
  by_cases hc : s.client.credentials = Credentials.empty
  · left; simp [QuietRequest.step, hc]
  · right
    by_cases hn : E.newRequestOk m (BaseURL E ++ e) = false <;> simp [QuietRequest.step, hc, hn]

/-- 入れ子の `doRequest(false, …)` を包む位置は、錠に触れずに、その答えを持つ次の位置へ進む。 -/
theorem Reaches.quiet {α β : Type} {step : α → Sys → Bool → Option (Next α β × Sys × LockOp)}
    {wrap : QuietRequest → α} {after : Reply → α}
    (hstep : ∀ q s, step (wrap q) s true = match q.step E s with
      | (.cont q, s) => some (.cont (wrap q), s, .keep)
      | (.ret rep, s) => some (.cont (after rep), s, .keep))
    (m e : String) (b : Option Reader) (s : Sys) :
    Reaches step (wrap (.start m e b)) s (after (doRequest E false m e b s).1) (doRequest E false m e b s).2 := by
  rcases QuietRequest.run E m e b s with h | ⟨h₁, h₂⟩
  · exact .cont .keep (by rw [hstep, h]) (.refl _ _)
  · exact .cont .keep (by rw [hstep, h₁]) (.cont .keep (by rw [hstep, h₂]) (.refl _ _))

/-! ## `login` の実行は `login` -/

section Login

variable {force : Bool}

/-- 錠を取ってからの `login` の実行は、`login E force` と同じ値を返し、同じ状態で終わる。戻る一歩は
どれも錠を放す。 -/
theorem LoginRun.returns (s : Sys) :
    Returns (LoginRun.step E force) .lock s (login E force s).1 (login E force s).2 := by
  refine .cont .take rfl ?_
  rw [login]
  split
  · exact .ret .give (by rw [LoginRun.step, if_pos ‹_›]; rfl)
  · split
    · exact .ret .give (by rw [LoginRun.step, if_neg ‹_›, if_pos ‹_›]; split <;> rfl)
    · refine .cont .keep (by rw [LoginRun.step, if_neg ‹_›, if_neg ‹_›])
        ((Reaches.quiet (fun _ _ => rfl) _ _ _ _).returns ?_)
      generalize doRequest E false "GET" "/" none (s.beginAttempt force) = p
      obtain ⟨rep, s₁⟩ := p
      cases rep with
      | err x e => exact .ret .give rfl
      | ok resp page =>
          dsimp only
          cases hp : Parse.ParseLoginForm E.parseDocument page with
          | none => exact .ret .give (by rw [LoginRun.step, hp]; rfl)
          | some form =>
              dsimp only
              split
              · exact .ret .give (by rw [LoginRun.step, hp]; dsimp only; rw [if_pos ‹_›]; rfl)
              · cases hc : solveCaptcha E s₁ form (loginRequestData s₁.client.credentials form) with
                | error e => exact .ret .give (by rw [LoginRun.step, hp]; dsimp only; rw [if_neg ‹_›, hc]; rfl)
                | ok v =>
                    dsimp only
                    refine .cont .keep (by rw [LoginRun.step, hp]; dsimp only; rw [if_neg ‹_›, hc])
                      ((Reaches.quiet (fun _ _ => rfl) _ _ _ _).returns ?_)
                    generalize doRequest E false "POST" loginRequestEndpoint (some ⟨v.encode⟩) s₁ = p
                    obtain ⟨rep, s₂⟩ := p
                    cases rep <;> exact .ret .give rfl

end Login

/-! ## `doRequest(true, …)` の実行は `doRequest E true` -/

theorem DidLoginRun.returns (s : Sys) : Returns DidLoginRun.step .lock s s.client.didLogin s :=
  .cont .take rfl (.ret .give rfl)

section Request

variable {m e : String} {b : Option Reader}

/-- 入れ子の呼び出しが値を返すと、呼ぶ側はその値を持つ次の位置へ進む。 -/
theorem RequestRun.reaches_nest {α β : Type} {inner : α → Sys → Bool → Option (Next α β × Sys × LockOp)}
    {wrap : α → RequestRun} {after : β → RequestRun} {a : α} {s s' : Sys} {v : β} (h : Returns inner a s v s')
    (hstep : ∀ a s, RequestRun.step E m e b (wrap a) s true = RequestRun.nest wrap after (inner a s true)) :
    Reaches (RequestRun.step E m e b) (wrap a) s (after v) s' := by
  induction h with
  | ret op hs => exact .cont op (by rw [hstep, hs]; rfl) (.refl _ _)
  | cont op hs _ ih => exact .cont op (by rw [hstep, hs]; rfl) ih

theorem RequestRun.returns_resend (b' : Option Reader) (s : Sys) :
    Returns (RequestRun.step E m e b) (.resend (.start m e b')) s (doRequest E false m e b' s).1
      (doRequest E false m e b' s).2 := by
  rcases QuietRequest.run E m e b' s with h | ⟨h₁, h₂⟩
  · exact .ret .keep (by rw [RequestRun.step, h])
  · exact .cont .keep (by rw [RequestRun.step, h₁]) (.ret .keep (by rw [RequestRun.step, h₂]))

theorem RequestRun.returns_send (tl : Bool) (s : Sys) :
    Returns (RequestRun.step E m e b) (.send tl) s (doRequestSend E tl m e b s).1 (doRequestSend E tl m e b s).2 := by
  rw [doRequestSend]
  split
  · exact .ret .keep (by rw [RequestRun.step, if_pos ‹_›])
  · dsimp only
    split
    · rename_i hc
      split
      · refine .cont .keep (by rw [RequestRun.step, if_neg ‹_›]; dsimp only; rw [hc]; exact if_pos ‹_›)
          ((RequestRun.reaches_nest (LoginRun.returns _) fun _ _ => by rfl).returns ?_)
        generalize Amizone.login E true _ = p
        obtain ⟨r, s₂⟩ := p
        cases r
        · exact .cont .keep rfl (RequestRun.returns_resend _ _)
        · exact .ret .keep rfl
      · exact .ret .keep (by rw [RequestRun.step, if_neg ‹_›]; dsimp only; rw [hc]; exact if_neg ‹_›)
    · rename_i hc
      refine .ret .keep ?_
      rw [RequestRun.step, if_neg ‹_›]
      dsimp only
      split
      · exact absurd ‹_› (hc _ _)
      · rfl

/-- API のメソッドの `doRequest(true, …)` を一つだけ実行すると、`doRequest E true` と同じ値を返し、
同じ状態で終わる。 -/
theorem RequestRun.returns (s : Sys) :
    Returns (RequestRun.step E m e b) .start s (doRequest E true m e b s).1 (doRequest E true m e b s).2 := by
  rw [doRequest]
  split
  · exact .ret .keep (by rw [RequestRun.step, if_pos ‹_›])
  · refine .cont .keep (by rw [RequestRun.step, if_neg ‹_›])
      ((RequestRun.reaches_nest (DidLoginRun.returns s) fun _ _ => by rfl).returns ?_)
    split
    · rename_i hd
      replace hd : s.client.didLogin = false := by simpa using hd
      refine .cont .keep (by rw [RequestRun.step, hd]; rfl)
        ((RequestRun.reaches_nest (LoginRun.returns s) fun _ _ => by rfl).returns ?_)
      generalize Amizone.login E false s = p
      obtain ⟨r, s₁⟩ := p
      cases r
      · exact .cont .keep rfl (RequestRun.returns_send false s₁)
      · exact .ret .keep rfl
    · rename_i hd
      replace hd : s.client.didLogin = true := by simpa using hd
      exact .cont .keep (by rw [RequestRun.step, hd]; rfl) (RequestRun.returns_send true s)

end Request

end Amizone
