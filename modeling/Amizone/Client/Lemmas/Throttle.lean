import Amizone.Client.Lemmas.Request
import Amizone.Client.Mutex

/-!
# ログインの抑え

`lastAttempt` は、いつも記録にある最後の試みの始まりを指す。強いない試み（`login(false)`）は、
二分の窓を確かめてから始まるので、一つ前の試みから二分以上あとに始まる。強いた試み
（`doRequest` のログインし直し）は窓を確かめない。呼び出しのどの列でも、この形が保たれる。

ゴルーチンが入り混じる実行でも同じである。窓を確かめて試みを始めるのは錠 `muLogin` を持つ一歩
（`login` の `check`）ただ一つで、ほかの一歩は `lastAttempt` にも試みの記録にも触れない。
-/

namespace Amizone

open Parse

variable {E : Env} {s s' a : Sys} {r : Option String} {force : Bool}

/-! ## 試みの記録 -/

/-- 記録にあるログインの試み（始まりの時刻と、強いたか）。新しいものが先頭。 -/
def attempts : List Event → List (Nat × Bool)
  | [] => []
  | .attempt t f :: tr => (t, f) :: attempts tr
  | .exchange _ _ :: tr => attempts tr

@[simp] theorem attempts_nil : attempts [] = [] := rfl

@[simp] theorem attempts_attempt (t : Nat) (f : Bool) (tr : List Event) :
    attempts (.attempt t f :: tr) = (t, f) :: attempts tr := rfl

@[simp] theorem attempts_exchange (req : Request) (res : Except String Response) (tr : List Event) :
    attempts (.exchange req res :: tr) = attempts tr := rfl

theorem attempts_append_exchanges {added : List Event}
    (h : ∀ ev ∈ added, ∃ req res, ev = .exchange req res) (tr : List Event) :
    attempts (added ++ tr) = attempts tr := by
  induction added with
  | nil => rfl
  | cons ev added ih =>
      obtain ⟨req, res, rfl⟩ := h ev (List.mem_cons_self _ _)
      exact ih fun ev' h' => h ev' (List.mem_cons_of_mem _ h')

/-- 強いない試みは、どれも一つ前の試みの始まりから二分以上あとに始まる。 -/
def Spaced : List (Nat × Bool) → Prop
  | (t₂, f₂) :: (t₁, f₁) :: rest => (f₂ = false → t₁ + 2 * minute ≤ t₂) ∧ Spaced ((t₁, f₁) :: rest)
  | _ => True

/-! ## 不変条件 -/

/-- 抑えの不変条件：`lastAttempt` は最後の試みの始まりで、今より前にあり、試みは間をあけている。 -/
structure ThrottleInv (s : Sys) : Prop where
  last : s.client.lastAttempt = (attempts s.trace).head?.map Prod.fst
  past : ∀ t, s.client.lastAttempt = some t → t ≤ s.now
  spaced : Spaced (attempts s.trace)

/-- 試みのない移り変わり：`lastAttempt` と試みの記録を変えず、時を戻さない。 -/
structure Quiet (s s' : Sys) : Prop where
  last : s'.client.lastAttempt = s.client.lastAttempt
  attempts : attempts s'.trace = attempts s.trace
  now : s.now ≤ s'.now

theorem ThrottleInv.quiet (h : ThrottleInv s) (hq : Quiet s s') : ThrottleInv s' where
  last := by rw [hq.last, hq.attempts]; exact h.last
  past t ht := (h.past t (hq.last ▸ ht)).trans hq.now
  spaced := hq.attempts ▸ h.spaced

theorem Quiet.refl (s : Sys) : Quiet s s := ⟨rfl, rfl, le_rfl⟩

theorem Quiet.send (E : Env) (s : Sys) (req : Request) : Quiet s (s.send E req).2 :=
  ⟨rfl, by simp, by simp⟩

theorem doRequest_false_quiet {m e : String} {b : Option Reader} {rep : Reply}
    (h : doRequest E false m e b s = (rep, s')) : Quiet s s' := by
  obtain ⟨hc, hn, ⟨rfl, -⟩ | ⟨req, res, -, -, -, ht, -⟩⟩ := doRequest_false_spec h
  · exact Quiet.refl _
  · exact ⟨by rw [hc], by rw [ht, attempts_exchange], hn⟩

theorem AttemptExit.quiet (h : AttemptExit E a r s') : Quiet a s' := by
  obtain ⟨get, post, ht, hget, hpost, -⟩ := h.shape
  refine ⟨?_, ?_, h.now_le⟩
  · rcases h.client with ⟨-, hc⟩ | ⟨-, hc⟩ <;> rw [hc]
  · rw [ht, List.append_assoc, attempts_append_exchanges, attempts_append_exchanges]
    · intro ev hev; obtain ⟨req, res, rfl, -⟩ := hget ev hev; exact ⟨req, res, rfl⟩
    · intro ev hev; obtain ⟨req, res, rfl, -⟩ := hpost ev hev; exact ⟨req, res, rfl⟩

/-- 試みの始まり：窓を確かめた強いない試みは、一つ前の試みから二分以上あとにある。 -/
theorem ThrottleInv.beginAttempt (h : ThrottleInv s)
    (hw : force = false → within s.now s.client.lastAttempt (2 * minute) = false) :
    ThrottleInv (s.beginAttempt force) where
  last := by simp
  past t ht := by simp at ht ⊢; omega
  spaced := by
    have hl := h.last
    simp only [Sys.beginAttempt_trace, attempts_attempt]
    cases hat : attempts s.trace with
    | nil => trivial
    | cons p rest =>
        refine ⟨fun hf => ?_, hat ▸ h.spaced⟩
        rw [hat] at hl
        have hpast := h.past p.1 (by simp [hl])
        have hwin := hw hf
        simp only [hl, List.head?_cons, Option.map_some', within_some, decide_eq_false_iff_not,
          not_lt] at hwin
        omega

theorem ThrottleInv.login (h : ThrottleInv s) (hl : login E force s = (r, s')) : ThrottleInv s' := by
  rcases login_exit hl with ⟨-, -, -, -, rfl⟩ | ⟨-, -, -, -, rfl⟩ | ⟨hw, hx⟩
  · exact h.quiet ⟨rfl, rfl, le_rfl⟩
  · exact h
  · exact (h.beginAttempt hw).quiet hx.quiet

/-! ## 要求と呼び出しの列 -/

section Request

variable {tl : Bool} {m e : String} {b : Option Reader} {rep : Reply}

theorem ThrottleInv.sendExit (h : ThrottleInv s) (hx : SendExit E tl m e b s rep s') : ThrottleInv s' := by
  cases hx with
  | composeFailed => exact h
  | answered => exact h.quiet (Quiet.send E s _)
  | reloginFailed _ _ _ _ hl => exact (h.quiet (Quiet.send E s _)).login hl
  | resent _ _ _ _ hl hd => exact ((h.quiet (Quiet.send E s _)).login hl).quiet (doRequest_false_quiet hd)

theorem ThrottleInv.doRequest (h : ThrottleInv s) (hd : doRequest E tl m e b s = (rep, s')) : ThrottleInv s' := by
  rcases doRequest_exit hd with ⟨-, -, rfl⟩ | ⟨-, -, -, ⟨_, hl, -⟩ | ⟨_, hl, hx⟩⟩ | ⟨-, -, hx⟩
  · exact h
  · exact h.login hl
  · exact (h.login hl).sendExit hx
  · exact h.sendExit hx

end Request

theorem ThrottleInv.call (h : ThrottleInv s) (c : Call) : ThrottleInv (s.call E c) := by
  cases c with
  | request => exact h.doRequest rfl
  | login => exact h.login rfl
  | wait d => exact h.quiet ⟨rfl, rfl, Nat.le_add_right _ _⟩

theorem ThrottleInv.run (h : ThrottleInv s) (calls : List Call) : ThrottleInv (s.run E calls) := by
  induction calls generalizing s with
  | nil => exact h
  | cons c calls ih => exact ih (h.call c)

theorem ThrottleInv.init (cred : Credentials) (capsolver : Bool) (now : Nat) :
    ThrottleInv (Sys.init cred capsolver now) :=
  ⟨rfl, by simp [Sys.init], trivial⟩

/-! ## 並行な実行 -/

theorem loginResult_quiet (resp : Response) (body : String) (a : Sys) : Quiet a (loginResult E resp body a).2 := by
  unfold loginResult; split_ifs <;> exact ⟨rfl, rfl, le_rfl⟩

theorem QuietRequest.step_quiet (q : QuietRequest) (s : Sys) : Quiet s (q.step E s).2 := by
  cases q with
  | start => simp only [QuietRequest.step]; split <;> exact Quiet.refl s
  | send => simp only [QuietRequest.step]; split; exacts [Quiet.refl s, Quiet.send E s _]

section World

variable {free : Bool} {op : LockOp}

theorem DidLoginRun.step_sys {d : DidLoginRun} {n : Next DidLoginRun Bool} (h : d.step s free = some (n, s', op)) :
    s' = s := by
  cases d with
  | lock => simp only [DidLoginRun.step] at h; split at h <;> cases h; rfl
  | read => cases h; rfl

/-- `login` の一歩：窓を確かめて試みを始める `check` のほかは、試みに触れない。 -/
theorem ThrottleInv.loginStep {l : LoginRun} {n : Next LoginRun (Option String)} (h : ThrottleInv s)
    (hs : l.step E force s free = some (n, s', op)) : ThrottleInv s' := by
  cases l with
  | lock => simp only [LoginRun.step] at hs; split at hs <;> cases hs; exact h
  | check =>
      simp only [LoginRun.step, loginReturn] at hs
      split_ifs at hs with h₁ h₂ <;> cases hs
      exacts [h.quiet ⟨rfl, rfl, le_rfl⟩, h, h, h.beginAttempt fun hf => by simpa [hf] using h₂]
  | get q | post q =>
      have hq := q.step_quiet (E := E) s
      simp only [LoginRun.step] at hs
      split at hs <;> (cases hs; rename_i he; rw [he] at hq; exact h.quiet hq)
  | afterGet rep =>
      simp only [LoginRun.step, loginReturn] at hs
      repeat' split at hs
      all_goals (cases hs; exact h)
  | afterPost rep =>
      simp only [LoginRun.step, loginReturn] at hs
      split at hs <;> cases hs
      exacts [h, h.quiet (loginResult_quiet _ _ _)]

theorem RequestRun.nest_sys {α β : Type} {wrap : α → RequestRun} {after : β → RequestRun}
    {o : Option (Next α β × Sys × LockOp)} {n : Next RequestRun Reply}
    (ho : RequestRun.nest wrap after o = some (n, s', op)) : ∃ n₀ op₀, o = some (n₀, s', op₀) := by
  obtain ⟨⟨n₀, s₀, op₀⟩, hd, he⟩ := Option.map_eq_some'.1 ho
  cases n₀ <;> (simp only [Prod.mk.injEq] at he; obtain ⟨-, rfl, -⟩ := he; exact ⟨_, _, hd⟩)

theorem ThrottleInv.requestStep {m e : String} {b : Option Reader} {r : RequestRun} {n : Next RequestRun Reply}
    (h : ThrottleInv s) (hs : r.step E m e b s free = some (n, s', op)) : ThrottleInv s' := by
  cases r with
  | didLogin d => obtain ⟨_, _, hd⟩ := RequestRun.nest_sys hs; exact DidLoginRun.step_sys hd ▸ h
  | login l | relogin _ l => obtain ⟨_, _, hl⟩ := RequestRun.nest_sys hs; exact h.loginStep hl
  | resend q =>
      have hq := q.step_quiet (E := E) s
      simp only [RequestRun.step] at hs
      split at hs <;> (cases hs; rename_i he; rw [he] at hq; exact h.quiet hq)
  | _ =>
      simp only [RequestRun.step] at hs
      repeat' split at hs
      all_goals (cases hs; first | exact h | exact h.quiet (Quiet.send E s _))

theorem Goroutine.lift_sys {α β : Type} {wrap : α → Goroutine} {result : β → Result}
    {o : Option (Next α β × Sys × LockOp)} {g' : Goroutine}
    (ho : Goroutine.lift wrap result o = some (g', s', op)) : ∃ n₀ op₀, o = some (n₀, s', op₀) := by
  obtain ⟨⟨n₀, s₀, op₀⟩, hd, he⟩ := Option.map_eq_some'.1 ho
  cases n₀ <;> (simp only [Prod.mk.injEq] at he; obtain ⟨-, rfl, -⟩ := he; exact ⟨_, _, hd⟩)

theorem ThrottleInv.goroutineStep {g g' : Goroutine} (h : ThrottleInv s) (hs : g.step E s free = some (g', s', op)) :
    ThrottleInv s' := by
  cases g with
  | idle | done => cases hs
  | request m e b r => obtain ⟨_, _, hr⟩ := Goroutine.lift_sys hs; exact h.requestStep hr
  | login force l => obtain ⟨_, _, hl⟩ := Goroutine.lift_sys hs; exact h.loginStep hl
  | didLogin d => obtain ⟨_, _, hd⟩ := Goroutine.lift_sys hs; exact DidLoginRun.step_sys hd ▸ h

/-- 並行な実行のどの一歩も、抑えの不変条件を保つ。 -/
theorem ThrottleInv.worldStep {w w' : World} {a : Action} (h : ThrottleInv w.sys) (hs : w.step E a = some w') :
    ThrottleInv w'.sys := by
  cases a with
  | start i c => simp only [World.step] at hs; split at hs <;> cases hs <;> exact h
  | run i => obtain ⟨⟨g, s₁, op⟩, hg, rfl⟩ := Option.map_eq_some'.1 hs; exact h.goroutineStep hg
  | tick d => cases hs; exact h.quiet ⟨rfl, rfl, Nat.le_add_right _ _⟩

theorem ThrottleInv.exec {w w' : World} (h : ThrottleInv w.sys) :
    ∀ {as : List Action}, w.exec E as = some w' → ThrottleInv w'.sys
  | [], he => by cases he; exact h
  | a :: as, he => by
      simp only [World.exec, Option.bind_eq_some] at he
      obtain ⟨w₁, h₁, h₂⟩ := he
      exact (h.worldStep h₁).exec h₂

end World

/-- 間をあけた記録では、強いない試みの一つ前の試みは、二分以上前に始まっている。 -/
theorem Spaced.gap {pre post : List (Nat × Bool)} {t₁ t₂ : Nat} {f₁ : Bool}
    (h : Spaced (pre ++ (t₂, false) :: (t₁, f₁) :: post)) : t₁ + 2 * minute ≤ t₂ := by
  induction pre with
  | nil => exact h.1 rfl
  | cons p pre ih =>
      apply ih
      rcases pre with _ | ⟨q, pre⟩ <;> exact h.2

end Amizone
