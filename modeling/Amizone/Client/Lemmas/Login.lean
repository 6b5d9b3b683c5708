import Amizone.Client.Model

/-!
# `login` の出口

`doRequest(false, …)` はログインも再送もせず、要求を高々一つ送るだけである（`doRequest_false`）。
それを使って、`login` のすべての出口を一度だけ書き出す（`login_exit`）。使い回し、二分の抑え、
そして試み（`AttemptExit`）のいずれかである。以後の性質はこの出口の場合分けから導く。
-/

namespace Amizone

open Parse

variable {E : Env} {s s' a : Sys} {r : Option String} {force : Bool}

/-! ## 状態の小さな補題 -/

@[simp] theorem Sys.beginAttempt_client (s : Sys) (force : Bool) :
    (s.beginAttempt force).client = { s.client with lastAttempt := some s.now } := rfl

@[simp] theorem Sys.beginAttempt_now (s : Sys) (force : Bool) : (s.beginAttempt force).now = s.now := rfl

@[simp] theorem Sys.beginAttempt_trace (s : Sys) (force : Bool) :
    (s.beginAttempt force).trace = .attempt s.now force :: s.trace := rfl

@[simp] theorem Sys.succeed_client (s : Sys) :
    s.succeed.client = { s.client with didLogin := true, lastLoginSuccess := some s.now } := rfl

@[simp] theorem Sys.succeed_now (s : Sys) : s.succeed.now = s.now := rfl

@[simp] theorem Sys.succeed_trace (s : Sys) : s.succeed.trace = s.trace := rfl

@[simp] theorem Sys.reuse_client (s : Sys) : s.reuse.client = { s.client with didLogin := true } := rfl

@[simp] theorem Sys.reuse_now (s : Sys) : s.reuse.now = s.now := rfl

@[simp] theorem Sys.reuse_trace (s : Sys) : s.reuse.trace = s.trace := rfl

@[simp] theorem Sys.send_fst (E : Env) (s : Sys) (req : Request) :
    (s.send E req).1 = E.transport s.trace req := rfl

@[simp] theorem Sys.send_client (E : Env) (s : Sys) (req : Request) : (s.send E req).2.client = s.client :=
  rfl

@[simp] theorem Sys.send_now (E : Env) (s : Sys) (req : Request) :
    (s.send E req).2.now = s.now + E.latency s.trace req := rfl

@[simp] theorem Sys.send_trace (E : Env) (s : Sys) (req : Request) :
    (s.send E req).2.trace = .exchange req (E.transport s.trace req) :: s.trace := rfl

/-! ## `doRequest(false, …)` -/


/-- `doRequest(false, …)` は認証情報と要求の形を確かめ、要求を一つ送って応答を確かめるだけである。 -/
theorem doRequest_false (E : Env) (m e : String) (b : Option Reader) (s : Sys) :
    doRequest E false m e b s =
      if s.client.credentials = Credentials.empty then
        (.err none (ErrFailedLogin ++ ": invalid credentials"), s)
      else if E.newRequestOk m (BaseURL E ++ e) = false then (.err none ErrFailedToComposeRequest, s)
      else
        (checkResponse (E.transport s.trace ⟨m, BaseURL E ++ e, requestHeaders E m, (readBody b).1⟩),
          (s.send E ⟨m, BaseURL E ++ e, requestHeaders E m, (readBody b).1⟩).2) := by
  rw [doRequest, doRequestSend]
  split
  · rfl
  · simp only [Bool.false_and, Bool.false_eq_true, ↓reduceIte, Bool.not_eq_true']
    split
    · rfl
    · simp only [Sys.send_fst]
      split <;> simp_all

/-- `doRequest(false, …)` のあと：クライアントは変わらず、時は戻らず、記録に加わるのは高々一つの
やり取りで、答えはその応答を確かめたものである。 -/
theorem doRequest_false_spec {m e : String} {b : Option Reader} {rep : Reply}
    (h : doRequest E false m e b s = (rep, s')) :
    s'.client = s.client ∧ s.now ≤ s'.now ∧
      ((s' = s ∧ ∃ x msg, rep = .err x msg) ∨
        ∃ req res, req.method = m ∧ req.url = BaseURL E ++ e ∧ req.body = (readBody b).1 ∧
          s'.trace = .exchange req res :: s.trace ∧ rep = checkResponse res) := by
  rw [doRequest_false] at h
  split at h
  · cases h; exact ⟨rfl, le_rfl, .inl ⟨rfl, _, _, rfl⟩⟩
  · split at h
    · cases h; exact ⟨rfl, le_rfl, .inl ⟨rfl, _, _, rfl⟩⟩
    · cases h
      exact ⟨rfl, by simp, .inr ⟨_, _, rfl, rfl, rfl, rfl, rfl⟩⟩

/-! ## 試みの出口 -/

/-- `beginAttempt` のあとの、ログインの試みの出口（状態 `a` から）。 -/
inductive AttemptExit (E : Env) (a : Sys) : Option String → Sys → Prop where
  | fetchFailed {x : Option Response} {e : String} {a₁ : Sys} :
      doRequest E false "GET" "/" none a = (.err x e, a₁) →
      AttemptExit E a (some (ErrFailedLogin ++ ": " ++ e)) a₁
  | formInvalid {resp : Response} {page : String} {a₁ : Sys} :
      doRequest E false "GET" "/" none a = (.ok resp page, a₁) →
      (∀ form, ParseLoginForm E.parseDocument page = some form → form.VerificationToken = "") →
      AttemptExit E a (some (ErrFailedLogin ++ ": " ++ ErrFailedToParsePage)) a₁
  | captchaFailed {resp : Response} {page e : String} {a₁ : Sys} {form : LoginFormFields} :
      doRequest E false "GET" "/" none a = (.ok resp page, a₁) →
      ParseLoginForm E.parseDocument page = some form → form.VerificationToken ≠ "" →
      solveCaptcha E a₁ form (loginRequestData a₁.client.credentials form) = .error e →
      AttemptExit E a (some e) a₁
  | submitFailed {resp : Response} {page e : String} {a₁ a₂ : Sys} {form : LoginFormFields}
      {v : Values} {x : Option Response} :
      doRequest E false "GET" "/" none a = (.ok resp page, a₁) →
      ParseLoginForm E.parseDocument page = some form → form.VerificationToken ≠ "" →
      solveCaptcha E a₁ form (loginRequestData a₁.client.credentials form) = .ok v →
      doRequest E false "POST" loginRequestEndpoint (some ⟨v.encode⟩) a₁ = (.err x e, a₂) →
      AttemptExit E a (some (ErrFailedLogin ++ ": " ++ e)) a₂
  | submitted {resp resp' : Response} {page body : String} {a₁ a₂ : Sys} {form : LoginFormFields}
      {v : Values} :
      doRequest E false "GET" "/" none a = (.ok resp page, a₁) →
      ParseLoginForm E.parseDocument page = some form → form.VerificationToken ≠ "" →
      solveCaptcha E a₁ form (loginRequestData a₁.client.credentials form) = .ok v →
      doRequest E false "POST" loginRequestEndpoint (some ⟨v.encode⟩) a₁ = (.ok resp' body, a₂) →
      AttemptExit E a (loginResult E resp' body a₂).1 (loginResult E resp' body a₂).2

/-- `login` の出口：使い回し、二分の抑え、試み。 -/
theorem login_exit (h : login E force s = (r, s')) :
    (force = false ∧ E.jarLoggedIn s.trace = true ∧ within s.now s.client.lastLoginSuccess hour = true ∧
        r = none ∧ s' = s.reuse) ∨
    (force = false ∧ ¬(E.jarLoggedIn s.trace = true ∧ within s.now s.client.lastLoginSuccess hour = true) ∧
        within s.now s.client.lastAttempt (2 * minute) = true ∧
        r = (if s.client.didLogin then none else some "login throttled") ∧ s' = s) ∨
    ((force = false → within s.now s.client.lastAttempt (2 * minute) = false) ∧
        AttemptExit E (s.beginAttempt force) r s') := by
  rw [login] at h
  split at h
  · next h₁ =>
    simp only [Bool.and_eq_true, Bool.not_eq_true'] at h₁
    cases h; exact .inl ⟨h₁.1.1, h₁.1.2, h₁.2, rfl, rfl⟩
  · next h₁ =>
    simp only [Bool.and_eq_true, Bool.not_eq_true', not_and] at h₁
    split at h
    · next h₂ =>
      simp only [Bool.and_eq_true, Bool.not_eq_true'] at h₂
      refine .inr (.inl ⟨h₂.1, fun h₃ => h₁ ⟨h₂.1, h₃.1⟩ h₃.2, h₂.2, ?_⟩)
      split at h <;> cases h <;> simp_all
    · next h₂ =>
      simp only [Bool.and_eq_true, Bool.not_eq_true', not_and, Bool.not_eq_true] at h₂
      refine .inr (.inr ⟨h₂, ?_⟩)
      split at h
      · next hg => cases h; exact .fetchFailed hg
      · next hg =>
        split at h
        · next hp => cases h; exact .formInvalid hg (by simp [hp])
        · next hp =>
          split at h
          · next ht => cases h; exact .formInvalid hg (by simp [hp, ht])
          · next ht =>
            split at h
            · next hc => cases h; exact .captchaFailed hg hp ht hc
            · next hc =>
              split at h
              · next hs => cases h; exact .submitFailed hg hp ht hc hs
              · next hs => simpa [h] using AttemptExit.submitted hg hp ht hc hs

/-! ## 一つの要求の答え -/

section Request

variable {m e msg page : String} {b : Option Reader} {resp : Response} {x : Option Response}

theorem doRequest_false_ok (h : doRequest E false m e b s = (.ok resp page, s')) :
    s'.client = s.client ∧ s.now ≤ s'.now ∧ ∃ req res, req.method = m ∧
      s'.trace = .exchange req res :: s.trace ∧ checkResponse res = .ok resp page := by
  obtain ⟨hc, hn, ⟨-, _, _, hx⟩ | ⟨req, res, hm, -, -, ht, hr⟩⟩ := doRequest_false_spec h
  · cases hx
  · exact ⟨hc, hn, req, res, hm, ht, hr.symm⟩

theorem doRequest_false_err (h : doRequest E false m e b s = (.err x msg, s')) :
    s'.client = s.client ∧ s.now ≤ s'.now ∧ (s'.trace = s.trace ∨ ∃ req res, req.method = m ∧
      s'.trace = .exchange req res :: s.trace ∧ checkResponse res = .err x msg) := by
  obtain ⟨hc, hn, ⟨rfl, -⟩ | ⟨req, res, hm, -, -, ht, hr⟩⟩ := doRequest_false_spec h
  · exact ⟨hc, hn, .inl rfl⟩
  · exact ⟨hc, hn, .inr ⟨req, res, hm, ht, hr.symm⟩⟩

end Request

/-! ## 書式を送ったあとの判定 -/

theorem loginResult_cases {resp : Response} {body : String} (h : loginResult E resp body a = (r, s')) :
    (r.isSome ∧ s' = a) ∨ (r = none ∧ s' = a.succeed ∧ resp.path ≠ loginRequestEndpoint ∧
      E.IsLoggedIn body = true ∧ E.jarLoggedIn a.trace = true) := by
  unfold loginResult at h
  split at h
  · cases h; exact .inl ⟨rfl, rfl⟩
  · split at h
    · cases h; exact .inl ⟨rfl, rfl⟩
    · split at h
      · cases h; exact .inl ⟨rfl, rfl⟩
      · cases h; simp_all

/-! ## 試みの出口の性質 -/

/-- 試みは、失敗すればクライアントを変えず、成功すれば `didLogin` と `lastLoginSuccess` だけを書く。 -/
theorem AttemptExit.client (h : AttemptExit E a r s') :
    (r.isSome ∧ s'.client = a.client) ∨
      (r = none ∧ s'.client = { a.client with didLogin := true, lastLoginSuccess := some s'.now }) := by
  cases h with
  | fetchFailed hg => exact .inl ⟨rfl, (doRequest_false_err hg).1⟩
  | formInvalid hg => exact .inl ⟨rfl, (doRequest_false_ok hg).1⟩
  | captchaFailed hg => exact .inl ⟨rfl, (doRequest_false_ok hg).1⟩
  | submitFailed hg _ _ _ hs =>
      exact .inl ⟨rfl, (doRequest_false_err hs).1.trans (doRequest_false_ok hg).1⟩
  | @submitted _ resp' _ body _ a₂ _ _ hg _ _ _ hs =>
      have hc := (doRequest_false_ok hs).1.trans (doRequest_false_ok hg).1
      rcases hl : loginResult E resp' body a₂ with ⟨r', s''⟩
      rcases loginResult_cases hl with ⟨hr, rfl⟩ | ⟨hr, rfl, -⟩
      · exact .inl ⟨hr, hc⟩
      · exact .inr ⟨hr, by simp [hc]⟩

/-- `login` は認証情報を変えない。 -/
theorem login_credentials (h : login E force s = (r, s')) : s'.client.credentials = s.client.credentials := by
  rcases login_exit h with ⟨-, -, -, -, rfl⟩ | ⟨-, -, -, -, rfl⟩ | ⟨-, hx⟩
  · rfl
  · rfl
  · rcases hx.client with ⟨-, hc⟩ | ⟨-, hc⟩ <;> rw [hc] <;> rfl

/-- 一つだけのやり取りの記録にある応答は、そのやり取りの応答である。 -/
theorem checkResponse_of_mem_singleton {req req' : Request} {res res' : Except String Response}
    (h : Event.exchange req' res' ∈ [Event.exchange req res]) : checkResponse res' = checkResponse res := by
  simp only [List.mem_singleton, Event.exchange.injEq] at h
  rw [h.2]

/-- 一つだけのやり取りの記録は、そのメソッドの要求だけを持つ。 -/
theorem exchanges_singleton {req : Request} {res : Except String Response} {method : String}
    (hm : req.method = method) : ∀ ev ∈ [Event.exchange req res], ∃ req res, ev = .exchange req res ∧ req.method = method :=
  fun _ h => ⟨req, res, List.mem_singleton.1 h, hm⟩

/-- 試みのあいだに記録に加わるのは、ログインのページを取る `GET` の高々一つのやり取りと、
書式を送る `POST` の高々一つのやり取りだけである。判定は `POST` の読めた応答によってのみ下り、
ページの検証の印が空なら `POST` は送られない。 -/
theorem AttemptExit.shape (h : AttemptExit E a r s') :
    ∃ get post : List Event, s'.trace = post ++ get ++ a.trace ∧
      (∀ ev ∈ get, ∃ req res, ev = .exchange req res ∧ req.method = "GET") ∧
      (∀ ev ∈ post, ∃ req res, ev = .exchange req res ∧ req.method = "POST") ∧
      (∀ req res resp page, .exchange req res ∈ post → checkResponse res = .ok resp page →
        (r, s') = loginResult E resp page { s' with client := a.client }) ∧
      (∀ req res resp page, .exchange req res ∈ get → checkResponse res = .ok resp page →
        (∀ form, ParseLoginForm E.parseDocument page = some form → form.VerificationToken = "") →
        post = [] ∧ r.isSome) ∧
      (r = none → ∃ req res resp page, post = [.exchange req res] ∧ checkResponse res = .ok resp page) := by
  cases h with
  | fetchFailed hg =>
      obtain ⟨-, -, ht | ⟨req, res, hm, ht, hr⟩⟩ := doRequest_false_err hg
      · exact ⟨[], [], ht, List.forall_mem_nil _, List.forall_mem_nil _,
          fun _ _ _ _ h => absurd h (List.not_mem_nil _), fun _ _ _ _ h => absurd h (List.not_mem_nil _), Option.noConfusion⟩
      · exact ⟨[.exchange req res], [], ht, exchanges_singleton hm, List.forall_mem_nil _,
          fun _ _ _ _ h => absurd h (List.not_mem_nil _),
          fun _ _ _ _ hmem hok => by (rw [checkResponse_of_mem_singleton hmem, hr] at hok; cases hok), Option.noConfusion⟩
  | formInvalid hg =>
      obtain ⟨-, -, req, res, hm, ht, -⟩ := doRequest_false_ok hg
      exact ⟨[.exchange req res], [], ht, exchanges_singleton hm, List.forall_mem_nil _,
          fun _ _ _ _ h => absurd h (List.not_mem_nil _), fun _ _ _ _ _ _ _ => ⟨rfl, rfl⟩, Option.noConfusion⟩
  | captchaFailed hg =>
      obtain ⟨-, -, req, res, hm, ht, -⟩ := doRequest_false_ok hg
      exact ⟨[.exchange req res], [], ht, exchanges_singleton hm, List.forall_mem_nil _,
          fun _ _ _ _ h => absurd h (List.not_mem_nil _), fun _ _ _ _ _ _ _ => ⟨rfl, rfl⟩, Option.noConfusion⟩
  | submitFailed hg hp htok _ hs =>
      obtain ⟨-, -, req, res, hm, ht, hr⟩ := doRequest_false_ok hg
      have hget : ∀ req' res' resp page, .exchange req' res' ∈ [Event.exchange req res] →
          checkResponse res' = .ok resp page →
          (∀ form, ParseLoginForm E.parseDocument page = some form → form.VerificationToken = "") →
          False := by
        intro _ _ _ _ hmem hok hf
        rw [checkResponse_of_mem_singleton hmem, hr] at hok; cases hok
        exact htok (hf _ hp)
      obtain ⟨-, -, ht' | ⟨reqP, resP, hmP, ht', hrP⟩⟩ := doRequest_false_err hs
      · exact ⟨[.exchange req res], [], ht'.trans ht, exchanges_singleton hm, List.forall_mem_nil _,
          fun _ _ _ _ h => absurd h (List.not_mem_nil _),
          fun _ _ _ _ h₁ h₂ h₃ => (hget _ _ _ _ h₁ h₂ h₃).elim, Option.noConfusion⟩
      · exact ⟨[.exchange req res], [.exchange reqP resP], by rw [ht', ht]; rfl, exchanges_singleton hm,
          exchanges_singleton hmP,
          fun _ _ _ _ hmem hok => by (rw [checkResponse_of_mem_singleton hmem, hrP] at hok; cases hok),
          fun _ _ _ _ h₁ h₂ h₃ => (hget _ _ _ _ h₁ h₂ h₃).elim, Option.noConfusion⟩
  | @submitted _ resp' _ body _ a₂ _ _ hg hp htok _ hs =>
      obtain ⟨hcG, -, req, res, hm, ht, hr⟩ := doRequest_false_ok hg
      obtain ⟨hcP, -, reqP, resP, hmP, ht', hrP⟩ := doRequest_false_ok hs
      have hs' : { (loginResult E resp' body a₂).2 with client := a.client } = a₂ := by
        unfold loginResult; split_ifs <;> (rw [← hcG, ← hcP]; try rfl)
      have htr : (loginResult E resp' body a₂).2.trace = a₂.trace := by
        unfold loginResult; split_ifs <;> rfl
      refine ⟨[.exchange req res], [.exchange reqP resP], by rw [htr, ht', ht]; rfl, exchanges_singleton hm,
        exchanges_singleton hmP, ?_, ?_, fun _ => ⟨_, _, _, _, rfl, hrP⟩⟩
      · intro _ _ _ _ hmem hok
        rw [checkResponse_of_mem_singleton hmem, hrP] at hok; cases hok
        rw [hs']
      · intro _ _ _ _ hmem hok hf
        rw [checkResponse_of_mem_singleton hmem, hr] at hok; cases hok
        exact (htok (hf _ hp)).elim

/-- 試みのあいだに記録に加わったやり取りは、書式を送る `POST` か、ページを取る `GET` である。 -/
theorem AttemptExit.mem_added {added get post : List Event} {req : Request} {res : Except String Response}
    (ht : s'.trace = post ++ get ++ (s.beginAttempt force).trace) (hadd : s'.trace = added ++ s.trace)
    (hmem : .exchange req res ∈ added) : .exchange req res ∈ post ∨ .exchange req res ∈ get := by
  have : added = post ++ get ++ [.attempt s.now force] :=
    List.append_cancel_right (hadd.symm.trans (by simp [ht]))
  subst this
  simpa using hmem

/-- どれも同じメソッドのやり取りである列にある要求は、そのメソッドである。 -/
theorem method_of_mem {l : List Event} {m : String} {req : Request} {res : Except String Response}
    (hl : ∀ ev ∈ l, ∃ req res, ev = .exchange req res ∧ req.method = m) (h : .exchange req res ∈ l) :
    req.method = m := by
  obtain ⟨_, _, he, hm⟩ := hl _ h
  cases he; exact hm

/-- 試みは時を戻さない。 -/
theorem AttemptExit.now_le (h : AttemptExit E a r s') : a.now ≤ s'.now := by
  cases h with
  | fetchFailed hg => exact (doRequest_false_err hg).2.1
  | formInvalid hg => exact (doRequest_false_ok hg).2.1
  | captchaFailed hg => exact (doRequest_false_ok hg).2.1
  | submitFailed hg _ _ _ hs => exact (doRequest_false_ok hg).2.1.trans (doRequest_false_err hs).2.1
  | submitted hg _ _ _ hs =>
      have := (doRequest_false_ok hg).2.1.trans (doRequest_false_ok hs).2.1
      unfold loginResult; split_ifs <;> exact this

end Amizone
