import Amizone.Capsolver.Client

/-!
# 結果を待つ繰り返しの性質

待ちは、終わりを告げる最初の答えで返る。終わりを告げるのは、`ErrorID` が 0 でない答えと、
`Status` が `ready` の答えだけである。`failed` の `Status` も、`ErrorID` が 0 なら `processing` と
同じに扱われ、待ちは締め切りまで続く。

解く繰り返しは、三回までの試みのうち解の印を得た最初の試みで返り、どの試みも失敗すれば最後の
試みの誤りを包んで返す。試みが問い合わせるのは、その試みで作った課題の番号だけである。
-/

namespace Amizone.Capsolver

variable {p : Poll} {r : Except String String}

/-! ## 一つの刻み -/

theorem pollResult_eq_none_iff :
    pollResult p = none ↔ ∀ result, p = .decoded result → result.ErrorID = 0 ∧ result.Status ≠ "ready" := by
  cases p with
  | decoded result =>
      simp only [pollResult, Poll.decoded.injEq, forall_eq']
      split_ifs <;> simp_all
  | _ => simp [pollResult]

theorem pollResult_eq_some (h : pollResult p = some r) :
    ∃ result, p = .decoded result ∧ (result.ErrorID ≠ 0 ∨ result.Status = "ready") ∧
      r = if result.ErrorID ≠ 0 then .error ("capsolver error " ++ result.ErrorCode ++ ": " ++ result.ErrorDescription)
        else if result.Solution.Token = "" then .error "no token in solution" else .ok result.Solution.Token := by
  cases p with
  | decoded result =>
      refine ⟨result, rfl, ?_⟩
      simp only [pollResult] at h
      split_ifs at h with h₁ h₂ h₃ <;> cases h <;> simp_all
  | _ => cases h

@[simp] theorem waitForTaskResult_cons_none (polls : List Poll) (hp : pollResult p = none) :
    waitForTaskResult (p :: polls) = waitForTaskResult polls := by
  simp [waitForTaskResult, hp]

@[simp] theorem waitForTaskResult_cons_some (polls : List Poll) (hp : pollResult p = some r) :
    waitForTaskResult (p :: polls) = r := by
  simp [waitForTaskResult, hp]

/-! ## 待ちの全体 -/

/-- 待ちは、終わりを告げる最初の答え（`ErrorID` が 0 でないか、`Status` が `ready`）で返り、その答えが
誤りか解の印かを決める。そのような答えがなければ、時間切れの誤りを返す。 -/
theorem waitForTaskResult_first_terminal (polls : List Poll) :
    ((∀ p ∈ polls, ∀ result, p = .decoded result → result.ErrorID = 0 ∧ result.Status ≠ "ready") ∧
        waitForTaskResult polls = .error "timeout waiting for captcha solution") ∨
      ∃ pre result post, polls = pre ++ .decoded result :: post ∧
        (∀ p ∈ pre, ∀ result, p = .decoded result → result.ErrorID = 0 ∧ result.Status ≠ "ready") ∧
        (result.ErrorID ≠ 0 ∨ result.Status = "ready") ∧
        waitForTaskResult polls =
          if result.ErrorID ≠ 0 then
            .error ("capsolver error " ++ result.ErrorCode ++ ": " ++ result.ErrorDescription)
          else if result.Solution.Token = "" then .error "no token in solution" else .ok result.Solution.Token := by
  induction polls with
  | nil => exact .inl ⟨by simp, rfl⟩
  | cons p polls ih =>
      cases hp : pollResult p with
      | none =>
          have hw := pollResult_eq_none_iff.1 hp
          rw [waitForTaskResult_cons_none polls hp]
          rcases ih with ⟨hall, ht⟩ | ⟨pre, result, post, rfl, hpre, hterm, hr⟩
          · exact .inl ⟨List.forall_mem_cons.2 ⟨hw, hall⟩, ht⟩
          · exact .inr ⟨p :: pre, result, post, rfl, List.forall_mem_cons.2 ⟨hw, hpre⟩, hterm, hr⟩
      | some r =>
          obtain ⟨result, rfl, hterm, rfl⟩ := pollResult_eq_some hp
          exact .inr ⟨[], result, polls, rfl, by simp, hterm, waitForTaskResult_cons_some polls hp⟩

/-- `ErrorID` が 0 で `Status` が `failed` の答えは待ちを終えず、締め切りで時間切れの誤りになる。 -/
theorem waitForTaskResult_failed_status_times_out :
    waitForTaskResult [.decoded ⟨0, "", "", "failed", ⟨""⟩⟩] = .error "timeout waiting for captcha solution" := by
  decide

/-! ## 解く繰り返し -/

theorem waitForTaskResult_eq_findSome (polls : List Poll) :
    waitForTaskResult polls =
      (polls.findSome? pollResult).getD (.error "timeout waiting for captcha solution") := by
  induction polls with
  | nil => rfl
  | cons p polls ih => cases hp : pollResult p <;> simp [waitForTaskResult, hp, ih]

theorem pollResult_eq_ok {token : String} :
    pollResult p = some (.ok token) ↔ ∃ result, p = .decoded result ∧ result.ErrorID = 0 ∧
      result.Status = "ready" ∧ result.Solution.Token = token ∧ token ≠ "" := by
  cases p with
  | decoded result =>
      simp only [pollResult, Poll.decoded.injEq, exists_eq_left']
      split_ifs <;> simp_all [eq_comm]
  | _ => simp [pollResult]

/-- 待ちが解の印を返すのは、終わりを告げる最初の答えが `ErrorID` 0、`Status` `ready`、空でない印のときである。 -/
theorem waitForTaskResult_eq_ok {polls : List Poll} {token : String} :
    waitForTaskResult polls = .ok token ↔
      ∃ pre result post, polls = pre ++ .decoded result :: post ∧ (∀ p ∈ pre, pollResult p = none) ∧
        result.ErrorID = 0 ∧ result.Status = "ready" ∧ result.Solution.Token = token ∧ token ≠ "" := by
  have hget : ∀ o : Option (Except String String),
      o.getD (.error "timeout waiting for captcha solution") = .ok token ↔ o = some (.ok token) := by
    intro o; cases o <;> simp
  rw [waitForTaskResult_eq_findSome, hget, List.findSome?_eq_some_iff]
  constructor
  · rintro ⟨pre, p, post, rfl, hp, hpre⟩
    obtain ⟨result, rfl, h⟩ := pollResult_eq_ok.1 hp
    exact ⟨pre, result, post, rfl, hpre, h⟩
  · rintro ⟨pre, result, post, rfl, hpre, h⟩
    exact ⟨pre, _, post, rfl, pollResult_eq_ok.2 ⟨result, rfl, h⟩, hpre⟩

variable {round : Round} {token kind : String}

/-- 試みが解の印を得るのは、作った課題の番号の待ちが印を返すときである。 -/
theorem attempt_eq_ok :
    attempt round = .ok token ↔
      ∃ taskID, createTask round.create = .ok taskID ∧ waitForTaskResult (round.polls taskID) = .ok token := by
  unfold attempt
  cases createTask round.create with
  | error err => simp
  | ok taskID => dsimp only; split <;> simp_all

@[simp] theorem solveLoop_nil {lastErr : Option GoError} : solveLoop kind [] lastErr = ("", lastErr) := rfl

@[simp] theorem solveLoop_cons_ok {rounds : List Round} {lastErr : Option GoError}
    (h : attempt round = .ok token) : solveLoop kind (round :: rounds) lastErr = (token, none) := by
  simp [solveLoop, h]

@[simp] theorem solveLoop_cons_error {rounds : List Round} {lastErr : Option GoError} {f : AttemptFailure}
    (h : attempt round = .error f) :
    solveLoop kind (round :: rounds) lastErr = solveLoop kind rounds (some (f.wrap kind)) := by
  simp [solveLoop, h]

@[simp] theorem AttemptFailure.Unwrap_wrap (kind : String) (f : AttemptFailure) : (f.wrap kind).Unwrap = some f.err := by
  cases f <;> rfl

/-- 三回までの試みのうち、解の印を得た最初の試みの印を誤りなしで返す。どの試みも失敗すれば、空の印と、
三回目の試みの元の誤りを包んだ誤りを返す。試みが印を得るのは、その試みで作った課題の番号の待ちが、
`ready` で空でない印の答えに届いたときである。 -/
theorem solve_contract (rounds : Nat → Round) :
    ((∃ i < 3, ∃ token, (∀ j < i, ∃ f, attempt (rounds j) = .error f) ∧ attempt (rounds i) = .ok token ∧
          token ≠ "" ∧ solve kind rounds = (token, none)) ∨
      ((∀ i < 3, ∃ f, attempt (rounds i) = .error f) ∧
        ∃ f err, attempt (rounds 2) = .error f ∧ solve kind rounds = ("", some err) ∧ err.Unwrap = some f.err)) ∧
    ∀ i token, attempt (rounds i) = .ok token ↔
      ∃ taskID, createTask (rounds i).create = .ok taskID ∧
        ∃ pre result post, (rounds i).polls taskID = pre ++ .decoded result :: post ∧
          (∀ p ∈ pre, pollResult p = none) ∧
          result.ErrorID = 0 ∧ result.Status = "ready" ∧ result.Solution.Token = token ∧ token ≠ "" := by
  have hok : ∀ (r : Round) (t : String), attempt r = .ok t ↔
      ∃ taskID, createTask r.create = .ok taskID ∧
        ∃ pre result post, r.polls taskID = pre ++ .decoded result :: post ∧
          (∀ p ∈ pre, pollResult p = none) ∧
          result.ErrorID = 0 ∧ result.Status = "ready" ∧ result.Solution.Token = t ∧ t ≠ "" := fun _ _ =>
    attempt_eq_ok.trans (exists_congr fun _ => and_congr_right fun _ => waitForTaskResult_eq_ok)
  have hne : ∀ {r : Round} {t : String}, attempt r = .ok t → t ≠ "" := fun h => by
    obtain ⟨_, -, _, _, _, -, -, -, -, -, h⟩ := (hok _ _).1 h; exact h
  have hsolve : solve kind rounds = solveLoop kind [rounds 0, rounds 1, rounds 2] none := rfl
  refine ⟨?_, fun i _ => hok (rounds i) _⟩
  rcases h0 : attempt (rounds 0) with f0 | t0
  · rcases h1 : attempt (rounds 1) with f1 | t1
    · rcases h2 : attempt (rounds 2) with f2 | t2
      · exact .inr ⟨fun | 0, _ => ⟨f0, h0⟩ | 1, _ => ⟨f1, h1⟩ | 2, _ => ⟨f2, h2⟩, f2, _, rfl,
          by simp [hsolve, h0, h1, h2], AttemptFailure.Unwrap_wrap kind f2⟩
      · exact .inl ⟨2, by omega, t2, fun | 0, _ => ⟨f0, h0⟩ | 1, _ => ⟨f1, h1⟩, h2, hne h2,
          by simp [hsolve, h0, h1, h2]⟩
    · exact .inl ⟨1, by omega, t1, fun | 0, _ => ⟨f0, h0⟩, h1, hne h1, by simp [hsolve, h0, h1]⟩
  · exact .inl ⟨0, by omega, t0, fun j hj => absurd hj (Nat.not_lt_zero j), h0, hne h0, by simp [hsolve, h0]⟩

example : SolveTurnstile (fun i => ⟨if i = 0 then .decoded ⟨1, "ERROR_KEY", "bad key", ""⟩ else .decoded ⟨0, "", "", "t1"⟩,
    fun _ => [.decoded ⟨0, "", "", "ready", ⟨"tok"⟩⟩]⟩) = ("tok", none) := by decide

end Amizone.Capsolver
