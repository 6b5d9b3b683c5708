import Amizone.Server.Lemmas.Solo

/-!
# 同じ対の `GetOrCreate` が返す `*Client`

ほかの呼び出しが走っていない状態から、同じ対 `(u, p)` の `GetOrCreate` だけを新しいゴルーチンで走らせる
実行を見る。始めにその鍵に生きた項はなく、実行は始めの時刻 `T0` から `ttl` のうちに終わる。

始めにあった項は生きていないので、`T0` より `ttl` 以上前に作られている（古い項）。実行の中で入る項は
`T0` 以後に作られ（新しい項）、実行の間は生きている。項を入れるのは、再確認で生きた項を見なかった作る者
だけなので、新しい項が入ったあとは、それが鍵の項であり続ける。速い道で見つけた項も、再確認で見つけた
項も新しい項なので、成功した呼び出しは、どれも鍵の項の `*Client` を返す。
-/

namespace Amizone.Server

variable {u p : String} {s₀ s s' : SessionCache}

/-- 対 `(u, p)` の `GetOrCreate` の位置。`gocTouch` は、速い道で見つけた項を返す位置である。 -/
def Pc.InGetOrCreate (u p : String) : Pc → Prop
  | .gocRead u' p' | .gocLock u' p' | .gocRecheck u' p' | .gocNew u' p' => u' = u ∧ p' = p
  | .gocCheck u' p' _ | .gocLogin u' p' _ | .gocStore u' p' _ => u' = u ∧ p' = p
  | .gocTouch _ => True
  | _ => False

/-- 実行に許す動作：対 `(u, p)` の `GetOrCreate` を始める、ゴルーチンを進める、時が経つ、掃除が走る。 -/
def Action.GetOrCreateOnly (u p : String) : Action → Bool
  | .start _ op => op == .getOrCreate u p
  | _ => true

/-- 一つのゴルーチンの位置について成り立つこと。`v` は鍵の項、`T0` は始めの時刻、`started` はその
ゴルーチンが実行の中で始まったこと。速い道で見た項は古いか鍵の新しい項で、返す項と返した `*Client` は
鍵の新しい項のものである。 -/
structure PosOk (u p : String) (T0 ttl : Nat) (v : Option Entry) (started : Prop) (pc : Pc) : Prop where
  running : pc.Running = true → pc.InGetOrCreate u p
  found : ∀ e, pc = .gocCheck u p (some e) → ttl < T0 - e.createdAt ∨ T0 ≤ e.createdAt ∧ v = some e
  touch : ∀ e, pc = .gocTouch e → T0 ≤ e.createdAt ∧ v = some e
  done : started → ∀ c, pc = .done (.client c) → ∃ t₀, T0 ≤ t₀ ∧ v = some ⟨c, t₀⟩

/-- 鍵の新しい項が変わらなければ、位置についての性質は保たれる。 -/
theorem PosOk.transfer {T0 ttl : Nat} {v v' : Option Entry} {started : Prop} {pc : Pc}
    (h : PosOk u p T0 ttl v started pc) (hv : ∀ e, v = some e → T0 ≤ e.createdAt → v' = some e) :
    PosOk u p T0 ttl v' started pc where
  running := h.running
  found e he := (h.found e he).imp_right fun ⟨hT, hs⟩ => ⟨hT, hv e hs hT⟩
  touch e he := have ⟨hT, hs⟩ := h.touch e he; ⟨hT, hv e hs hT⟩
  done hs c he := have ⟨t₀, hT, hs'⟩ := h.done hs c he; ⟨t₀, hT, hv _ hs' hT⟩

/-- 実行の始め `s₀` から `s` までの不変条件。 -/
structure ReuseInv (u p : String) (s₀ s : SessionCache) : Prop where
  ttl : s.ttl = s₀.ttl
  now : s₀.now ≤ s.now
  entry : ∀ e, s.sessions (makeKey u p) = some e → s₀.ttl < s₀.now - e.createdAt ∨ s₀.now ≤ e.createdAt
  unstarted : ∀ i, s₀.threads i ≠ .idle → s.threads i = s₀.threads i ∧ (s₀.threads i).Running = false
  pos : ∀ i, PosOk u p s₀.now s₀.ttl (s.sessions (makeKey u p)) (s₀.threads i = .idle) (s.threads i)

theorem ReuseInv.init (hq : ∀ i, (s₀.threads i).Running = false) (hl : ¬ s₀.Live (makeKey u p)) :
    ReuseInv u p s₀ s₀ where
  ttl := rfl
  now := le_rfl
  entry e he := by simp only [SessionCache.Live, he, not_le] at hl; exact .inl hl
  unstarted i _ := ⟨rfl, hq i⟩
  pos i := ⟨fun h => absurd h (by simp [hq i]), fun e he => absurd (hq i) (by simp [he, Pc.Running]),
    fun e he => absurd (hq i) (by simp [he, Pc.Running]), fun hi c he => absurd (hi.symm.trans he) (by simp)⟩

/-! ## 一歩 -/

section Step

variable (h : ReuseInv u p s₀ s)
include h

/-- 鍵の項は、今の時刻が `T0` から `ttl` のうちなら、新しいときちょうど生きている。 -/
theorem ReuseInv.live_iff {e : Entry} (he : s.sessions (makeKey u p) = some e)
    (hb : s.now ≤ s₀.now + s₀.ttl) : s.now - e.createdAt ≤ s.ttl ↔ s₀.now ≤ e.createdAt := by
  have := h.now; have := h.ttl; rcases h.entry e he with h' | h' <;> constructor <;> intro <;> omega

/-- ゴルーチン `j` の一歩：`j` の位置を `pc` にし、鍵の新しい項を変えず、鍵の項を古いか新しいかに保つ。 -/
theorem ReuseInv.update {j : Nat} {pc : Pc} (hj : s₀.threads j = .idle)
    (hth : s'.threads = Function.update s.threads j pc) (httl : s'.ttl = s.ttl) (hnow : s.now ≤ s'.now)
    (hv : ∀ e, s.sessions (makeKey u p) = some e → s₀.now ≤ e.createdAt → s'.sessions (makeKey u p) = some e)
    (hentry : ∀ e, s'.sessions (makeKey u p) = some e → s₀.ttl < s₀.now - e.createdAt ∨ s₀.now ≤ e.createdAt)
    (hpc : PosOk u p s₀.now s₀.ttl (s'.sessions (makeKey u p)) True pc) : ReuseInv u p s₀ s' where
  ttl := httl.trans h.ttl
  now := h.now.trans hnow
  entry := hentry
  unstarted i hi := by
    have hij : i ≠ j := by rintro rfl; exact hi hj
    rw [hth, Function.update_noteq hij]; exact h.unstarted i hi
  pos i := by
    rw [hth]
    rcases eq_or_ne i j with rfl | hij
    · rw [Function.update_same]
      exact ⟨hpc.running, hpc.found, hpc.touch, fun _ => hpc.done trivial⟩
    · rw [Function.update_noteq hij]; exact (h.pos i).transfer hv

/-- 走っているゴルーチンは、実行の中で始まった `GetOrCreate` である。 -/
theorem ReuseInv.started {j : Nat} (hr : (s.threads j).Running = true) :
    s₀.threads j = .idle ∧ (s.threads j).InGetOrCreate u p := by
  refine ⟨by_contra fun hj => ?_, (h.pos j).running hr⟩
  obtain ⟨he, hq⟩ := h.unstarted j hj
  rw [he, hq] at hr; cases hr

/-- ゴルーチンの一歩は不変条件を保つ。項を入れる一歩は、再確認で生きた項を見なかった作る者のもので、
鍵に新しい項はまだない。 -/
theorem ReuseInv.stepThread {j : Nat} {ok : Bool} (hR : Reachable s) (hs : s.stepThread j ok = some s')
    (hb : s.now ≤ s₀.now + s₀.ttl) : ReuseInv u p s₀ s' := by
  have hr : (s.threads j).Running = true := by
    by_contra hn; unfold SessionCache.stepThread at hs; cases hpc : s.threads j <;> simp_all [Pc.Running]
  obtain ⟨hj, hin⟩ := h.started hr
  have hpos := h.pos j
  have keep : ∀ e, s.sessions (makeKey u p) = some e → s₀.now ≤ e.createdAt →
      s.sessions (makeKey u p) = some e := fun _ he _ => he
  unfold SessionCache.stepThread at hs
  generalize hpc : s.threads j = pc at hin hs hpos
  cases pc
  all_goals dsimp only [Pc.InGetOrCreate] at hin hs
  case gocRead u' p' =>
    obtain ⟨rfl, rfl⟩ := hin
    obtain ⟨-, rfl⟩ := SessionCache.whenFree_eq_some.1 hs
    refine h.update hj rfl rfl le_rfl keep h.entry ⟨fun _ => ⟨rfl, rfl⟩, ?_, by simp, by simp⟩
    intro e he
    injection he with _ _ he
    exact (h.entry e he).imp_right fun hT => ⟨hT, he⟩
  case gocCheck u' p' found =>
    obtain ⟨rfl, rfl⟩ := hin
    cases hs
    refine h.update hj rfl rfl le_rfl keep h.entry ?_
    rcases found with _ | e
    · exact ⟨fun _ => ⟨rfl, rfl⟩, by simp, by simp, by simp⟩
    dsimp only
    split_ifs with hlive
    · obtain ⟨hT, hs⟩ := (hpos.found e rfl).resolve_left fun hold => by
        have := h.now; have := h.ttl; omega
      exact ⟨fun _ => trivial, by simp, fun e' he' => by cases he'; exact ⟨hT, hs⟩, by simp⟩
    · exact ⟨fun _ => ⟨rfl, rfl⟩, by simp, by simp, by simp⟩
  case gocTouch e =>
    obtain ⟨-, rfl⟩ := SessionCache.whenFree_eq_some.1 hs
    obtain ⟨hT, hs⟩ := hpos.touch e rfl
    refine h.update hj rfl rfl le_rfl keep h.entry ⟨by simp [Pc.Running], by simp, by simp, ?_⟩
    rintro - c ⟨⟩; exact ⟨e.createdAt, hT, hs⟩
  case gocLock u' p' =>
    obtain ⟨rfl, rfl⟩ := hin
    obtain ⟨-, rfl⟩ := SessionCache.whenFree_eq_some.1 hs
    exact h.update hj rfl rfl le_rfl keep h.entry ⟨fun _ => ⟨rfl, rfl⟩, by simp, by simp, by simp⟩
  case gocRecheck u' p' =>
    obtain ⟨rfl, rfl⟩ := hin
    split at hs
    · rename_i e he
      split at hs <;> cases hs
      · rename_i hlive
        refine h.update hj rfl rfl le_rfl keep h.entry ⟨by simp [Pc.Running], by simp, by simp, ?_⟩
        rintro - c ⟨⟩; exact ⟨e.createdAt, (h.live_iff he hb).1 hlive, he⟩
      · exact h.update hj rfl rfl le_rfl keep h.entry ⟨fun _ => ⟨rfl, rfl⟩, by simp, by simp, by simp⟩
    · cases hs
      exact h.update hj rfl rfl le_rfl keep h.entry ⟨fun _ => ⟨rfl, rfl⟩, by simp, by simp, by simp⟩
  case gocNew u' p' | gocLogin u' p' _ =>
    obtain ⟨rfl, rfl⟩ := hin
    split_ifs at hs <;> cases hs
    all_goals exact h.update hj rfl rfl le_rfl keep h.entry
                ⟨fun hr => by simp_all [Pc.Running, Pc.InGetOrCreate], by simp, by simp, by simp⟩
  case gocStore u' p' c =>
    obtain ⟨rfl, rfl⟩ := hin
    cases hs
    /- 作る者の鍵に生きた項はないので、鍵に新しい項はない。 -/
    have hnew : ∀ e, s.sessions (makeKey u' p') = some e → ¬ s₀.now ≤ e.createdAt := fun e he hT =>
      hR.inv.recheck j (makeKey u' p') (by simp [hpc, Pc.creatingKey]) (by
        simpa [SessionCache.Live, he] using (h.live_iff he hb).2 hT)
    refine h.update hj rfl rfl le_rfl (fun e he hT => absurd hT (hnew e he)) ?_ ?_
    · intro e he; simp at he; subst he; exact .inr h.now
    · refine ⟨by simp [Pc.Running], by simp, by simp, ?_⟩
      rintro - c' ⟨⟩; exact ⟨s.now, h.now, by simp⟩

/-- 許した動作の一歩は不変条件を保つ。掃除は、`T0` から `ttl` のうちなら新しい項を残す。 -/
theorem ReuseInv.step {a : Action} (ha : a.GetOrCreateOnly u p = true) (hR : Reachable s)
    (hs : s.step a = some s') (hb : s'.now ≤ s₀.now + s₀.ttl) : ReuseInv u p s₀ s' := by
  cases a with
  | start i op =>
      simp only [SessionCache.step] at hs
      split at hs
      · rename_i hi
        cases hs
        simp only [Action.GetOrCreateOnly, beq_iff_eq] at ha; subst ha
        have hj : s₀.threads i = .idle := by_contra fun hj => hj ((h.unstarted i hj).1.symm.trans hi)
        exact h.update hj rfl rfl le_rfl (fun _ he _ => he) h.entry
          ⟨fun _ => ⟨rfl, rfl⟩, by simp [Op.entry], by simp [Op.entry], by simp [Op.entry]⟩
      · cases hs
  | run i ok =>
      have hn := (SessionCache.stepThread_shape hs).choose_spec.2.1
      exact h.stepThread hR hs (hn ▸ hb)
  | tick d =>
      cases hs
      exact ⟨h.ttl, h.now.trans (Nat.le_add_right _ _), h.entry, h.unstarted, h.pos⟩
  | cleanup =>
      obtain ⟨-, rfl⟩ := SessionCache.whenFree_eq_some.mp hs
      have hsweep : ∀ e, s.sweep (makeKey u p) = some e ↔
          s.sessions (makeKey u p) = some e ∧ s.expired e = false := by
        intro e; simp [SessionCache.sweep, Option.filter_eq_some]
      have hv : ∀ e, s.sessions (makeKey u p) = some e → s₀.now ≤ e.createdAt →
          s.sweep (makeKey u p) = some e := fun e he hT => by
        have := (h.live_iff he hb).2 hT
        exact (hsweep e).2 ⟨he, by simpa [SessionCache.expired] using this⟩
      have hentry : ∀ e, s.sweep (makeKey u p) = some e →
          s₀.ttl < s₀.now - e.createdAt ∨ s₀.now ≤ e.createdAt := fun e he => h.entry e ((hsweep e).1 he).1
      exact ⟨h.ttl, h.now, hentry, h.unstarted, fun i => (h.pos i).transfer hv⟩

end Step

/-! ## 実行 -/

theorem SessionCache.step_now_le {a : Action} (hs : s.step a = some s') : s.now ≤ s'.now := by
  cases a with
  | start i op => simp only [SessionCache.step] at hs; split at hs <;> cases hs; exact le_rfl
  | run i ok => exact (SessionCache.stepThread_shape hs).choose_spec.2.1.ge
  | tick d => cases hs; exact Nat.le_add_right _ _
  | cleanup => obtain ⟨-, rfl⟩ := SessionCache.whenFree_eq_some.mp hs; exact le_rfl

theorem SessionCache.exec_now_le {as : List Action} (he : s.exec as = some s') : s.now ≤ s'.now := by
  induction as generalizing s with
  | nil => cases he; exact le_rfl
  | cons a as ih =>
      simp only [SessionCache.exec, Option.bind_eq_some] at he
      obtain ⟨s₁, h₁, h₂⟩ := he
      exact (SessionCache.step_now_le h₁).trans (ih h₂)

/-- 許した動作だけの実行は、終わりの時刻が `T0` から `ttl` のうちなら、不変条件を保つ。 -/
theorem ReuseInv.exec {as : List Action} (h : ReuseInv u p s₀ s) (hR : Reachable s)
    (ha : ∀ a ∈ as, a.GetOrCreateOnly u p = true) (he : s.exec as = some s')
    (hb : s'.now ≤ s₀.now + s₀.ttl) : ReuseInv u p s₀ s' := by
  induction as generalizing s with
  | nil => cases he; exact h
  | cons a as ih =>
      simp only [SessionCache.exec, Option.bind_eq_some] at he
      obtain ⟨s₁, h₁, h₂⟩ := he
      have ha' := List.forall_mem_cons.1 ha
      exact ih (h.step ha'.1 hR h₁ ((SessionCache.exec_now_le h₂).trans hb)) (hR.step a h₁) ha'.2 h₂

end Amizone.Server
