import Amizone.Client.Lemmas.Login

/-!
# `doRequest` の出口

`doRequestSend` は要求を一つ送り、ページがログインしていないと読めて `tryLogin` が立っていれば、
強いてログインし直し、最初の要求のあとの読み手で `doRequest(false, …)` を呼んで送り直す
（`SendExit`）。`doRequest` は、その前に認証情報を確かめ、まだなら `login(false)` を挟む
（`doRequest_exit`）。

`doRequest` 自身の呼び出し（自分の送る要求と、自分の呼ぶ `login`）を列 `OwnCall` に書くと、呼び出しの
状態への働きは、その列を順に行ったものになる。
-/

namespace Amizone

open Parse

variable {E : Env} {s s' : Sys} {tl : Bool} {m e : String} {b : Option Reader} {rep : Reply}

/-- `doRequestSend` が送る要求。 -/
def sentRequest (E : Env) (m e : String) (b : Option Reader) : Request :=
  ⟨m, BaseURL E ++ e, requestHeaders E m, (readBody b).1⟩

/-- `doRequestSend` の出口（状態 `s` から）。 -/
inductive SendExit (E : Env) (tl : Bool) (m e : String) (b : Option Reader) (s : Sys) :
    Reply → Sys → Prop where
  | composeFailed :
      E.newRequestOk m (BaseURL E ++ e) = false →
      SendExit E tl m e b s (.err none ErrFailedToComposeRequest) s
  | answered :
      E.newRequestOk m (BaseURL E ++ e) = true →
      (∀ resp page, checkResponse (E.transport s.trace (sentRequest E m e b)) = .ok resp page →
        tl = true → s.client.credentials ≠ Credentials.empty → E.IsLoggedIn page = true) →
      SendExit E tl m e b s (checkResponse (E.transport s.trace (sentRequest E m e b)))
        (s.send E (sentRequest E m e b)).2
  | reloginFailed {resp : Response} {page e' : String} {s₂ : Sys} :
      E.newRequestOk m (BaseURL E ++ e) = true →
      checkResponse (E.transport s.trace (sentRequest E m e b)) = .ok resp page →
      tl = true → E.IsLoggedIn page = false →
      login E true (s.send E (sentRequest E m e b)).2 = (some e', s₂) →
      SendExit E tl m e b s (.err none ErrFailedLogin) s₂
  | resent {resp : Response} {page : String} {s₂ s₃ : Sys} {rep : Reply} :
      E.newRequestOk m (BaseURL E ++ e) = true →
      checkResponse (E.transport s.trace (sentRequest E m e b)) = .ok resp page →
      tl = true → E.IsLoggedIn page = false →
      login E true (s.send E (sentRequest E m e b)).2 = (none, s₂) →
      doRequest E false m e (readBody b).2 s₂ = (rep, s₃) →
      SendExit E tl m e b s rep s₃

theorem doRequestSend_exit (h : doRequestSend E tl m e b s = (rep, s')) : SendExit E tl m e b s rep s' := by
  rw [doRequestSend] at h
  split at h
  · rename_i hn; cases h; exact .composeFailed (by simpa using hn)
  · rename_i hn
    simp only [Bool.not_eq_true', Bool.not_eq_false] at hn
    simp only at h
    rw [show (⟨m, BaseURL E ++ e, requestHeaders E m, (readBody b).1⟩ : Request) = sentRequest E m e b
      from rfl, Sys.send_fst] at h
    split at h
    · rename_i resp page hok
      split at h
      · rename_i hc
        simp only [Bool.and_eq_true, Bool.not_eq_true'] at hc
        split at h
        · next hl => cases h; exact .reloginFailed hn hok hc.1.1 hc.2 hl
        · next hl => exact .resent hn hok hc.1.1 hc.2 hl h
      · rename_i hc
        cases h; rw [← hok]
        refine .answered hn fun resp' page' h' ht hc' => ?_
        rw [hok] at h'; cases h'
        simpa [ht, hc'] using hc
    · rename_i hnok
      cases h; exact .answered hn fun resp page h' => (hnok resp page h').elim

/-- `doRequest` の出口：認証情報が空、まだなら `login(false)` を挟んで送る、そのまま送る。 -/
theorem doRequest_exit (h : doRequest E tl m e b s = (rep, s')) :
    (s.client.credentials = Credentials.empty ∧ rep = .err none (ErrFailedLogin ++ ": invalid credentials") ∧
        s' = s) ∨
    (s.client.credentials ≠ Credentials.empty ∧ tl = true ∧ s.client.didLogin = false ∧
      ((∃ e', login E false s = (some e', s') ∧ rep = .err none e') ∨
        ∃ s₁, login E false s = (none, s₁) ∧ SendExit E false m e b s₁ rep s')) ∨
    (s.client.credentials ≠ Credentials.empty ∧ (tl = true → s.client.didLogin = true) ∧
      SendExit E tl m e b s rep s') := by
  rw [doRequest] at h
  split at h
  · rename_i hc; cases h; exact .inl ⟨hc, rfl, rfl⟩
  · rename_i hc
    split at h
    · rename_i hl
      simp only [Bool.and_eq_true, Bool.not_eq_true'] at hl
      split at h
      · next hlog => cases h; exact .inr (.inl ⟨hc, hl.1, hl.2, .inl ⟨_, hlog, rfl⟩⟩)
      · next hlog => exact .inr (.inl ⟨hc, hl.1, hl.2, .inr ⟨_, hlog, doRequestSend_exit h⟩⟩)
    · rename_i hl
      simp only [Bool.and_eq_true, Bool.not_eq_true', not_and, Bool.not_eq_false] at hl
      exact .inr (.inr ⟨hc, hl, doRequestSend_exit h⟩)

/-! ## 前向きの式 -/

/-- ログインの済んだクライアントの `doRequest` は、そのまま `doRequestSend` に進む。 -/
theorem doRequest_of_didLogin (hc : s.client.credentials ≠ Credentials.empty) (hd : s.client.didLogin = true) :
    doRequest E tl m e b s = doRequestSend E tl m e b s := by
  rw [doRequest]; simp [hc, hd]

section Send

variable (hn : E.newRequestOk m (BaseURL E ++ e) = true)
include hn

/-- 応答を確かめた誤りは、そのまま返る。 -/
theorem doRequestSend_err {x : Option Response} {msg : String}
    (herr : checkResponse (E.transport s.trace (sentRequest E m e b)) = .err x msg) :
    doRequestSend E tl m e b s = (.err x msg, (s.send E (sentRequest E m e b)).2) := by
  rw [doRequestSend]; simp only [sentRequest] at herr ⊢; simp [hn, herr]

/-- 読めた応答は、ページがログインを示すか `tryLogin` が偽なら、そのまま返る。 -/
theorem doRequestSend_answered {resp : Response} {page : String}
    (hok : checkResponse (E.transport s.trace (sentRequest E m e b)) = .ok resp page)
    (hl : (tl && !E.IsLoggedIn page) = false) :
    doRequestSend E tl m e b s = (.ok resp page, (s.send E (sentRequest E m e b)).2) := by
  rw [doRequestSend]; simp only [sentRequest] at hok ⊢; cases tl <;> simp_all

/-- ページがログインを示さなければ、強いてログインし直し、成功すれば `doRequest(false, …)` で送り直す。 -/
theorem doRequestSend_relogin {resp : Response} {page : String} {r : Option String} {s₁ : Sys}
    (hok : checkResponse (E.transport s.trace (sentRequest E m e b)) = .ok resp page)
    (hl : E.IsLoggedIn page = false) (hc : s.client.credentials ≠ Credentials.empty)
    (hlog : login E true (s.send E (sentRequest E m e b)).2 = (r, s₁)) :
    doRequestSend E true m e b s =
      if r.isSome then (.err none ErrFailedLogin, s₁) else doRequest E false m e (readBody b).2 s₁ := by
  rw [doRequestSend]; simp only [sentRequest] at hok hlog ⊢; cases r <;> simp [hn, hok, hl, hc, hlog]

end Send

/-! ## 自身の呼び出し -/

/-- `doRequest` が自分で行う呼び出し：要求を一つ送る、`login(force)` を呼ぶ。 -/
inductive OwnCall where
  | send (req : Request)
  | login (force : Bool)
  deriving DecidableEq, Repr

/-- 呼び出しを順に行ったあとの状態。 -/
def OwnCall.run (E : Env) : List OwnCall → Sys → Sys
  | [], s => s
  | .send req :: calls, s => OwnCall.run E calls (s.send E req).2
  | .login force :: calls, s => OwnCall.run E calls (Amizone.login E force s).2

/-- `doRequest(false, …)` は、何も送らずに返るか、要求を一つ送ってその応答を確かめたものを返す。 -/
theorem doRequest_false_calls (h : doRequest E false m e b s = (rep, s')) :
    s' = s ∨ (s' = (s.send E (sentRequest E m e b)).2 ∧
      rep = checkResponse (E.transport s.trace (sentRequest E m e b))) := by
  rw [doRequest_false] at h
  split at h
  · cases h; exact .inl rfl
  · split at h
    · cases h; exact .inl rfl
    · cases h; exact .inr ⟨rfl, rfl⟩

/-- `doRequestSend` の自身の呼び出し：なし、最初の要求、それに強いたログイン、そして送り直し。 -/
theorem SendExit.own_calls (h : SendExit E tl m e b s rep s') :
    ∃ calls, s' = OwnCall.run E calls s ∧
      (calls = [] ∨ calls = [.send (sentRequest E m e b)] ∨
        (tl = true ∧ (calls = [.send (sentRequest E m e b), .login true] ∨
          (calls = [.send (sentRequest E m e b), .login true, .send (sentRequest E m e (readBody b).2)] ∧
            rep = checkResponse (E.transport (OwnCall.run E [.send (sentRequest E m e b), .login true] s).trace
              (sentRequest E m e (readBody b).2)))))) := by
  cases h with
  | composeFailed _ => exact ⟨[], rfl, .inl rfl⟩
  | answered _ _ => exact ⟨[.send (sentRequest E m e b)], rfl, .inr (.inl rfl)⟩
  | reloginFailed _ _ ht _ hl =>
      exact ⟨[.send (sentRequest E m e b), .login true], by simp [OwnCall.run, hl], .inr (.inr ⟨ht, .inl rfl⟩)⟩
  | resent _ _ ht _ hl hd =>
      rcases doRequest_false_calls hd with rfl | ⟨rfl, rfl⟩
      · exact ⟨[.send (sentRequest E m e b), .login true], by simp [OwnCall.run, hl], .inr (.inr ⟨ht, .inl rfl⟩)⟩
      · refine ⟨_, by simp [OwnCall.run, hl], .inr (.inr ⟨ht, .inr ⟨rfl, ?_⟩⟩)⟩
        simp [OwnCall.run, hl]

/-! ## 誤りとともに返る応答 -/

/-- 応答を確かめた誤りが応答を持つのは、本文を読めなかったときだけである。 -/
theorem checkResponse_err {res : Except String Response} {r : Option Response} {msg : String}
    (h : checkResponse res = .err r msg) : r = none ∨ msg = ErrFailedToReadResponse := by
  unfold checkResponse at h
  split at h
  · cases h; exact .inl rfl
  · split at h
    · cases h; exact .inl rfl
    · split at h <;> cases h; exact .inr rfl

theorem doRequest_false_err_response {r : Option Response} {msg : String} (h : doRequest E false m e b s = (.err r msg, s')) :
    r = none ∨ msg = ErrFailedToReadResponse := by
  rw [doRequest_false] at h
  split at h
  · cases h; exact .inl rfl
  · split at h
    · cases h; exact .inl rfl
    · exact checkResponse_err (Prod.mk.inj h).1

theorem SendExit.err_response {r : Option Response} {msg : String} (h : SendExit E tl m e b s rep s')
    (hr : rep = .err r msg) : r = none ∨ msg = ErrFailedToReadResponse := by
  cases h with
  | composeFailed _ => cases hr; exact .inl rfl
  | answered _ _ => exact checkResponse_err hr
  | reloginFailed _ _ _ _ _ => cases hr; exact .inl rfl
  | resent _ _ _ _ _ hd => exact doRequest_false_err_response (hr ▸ hd)

/-- `doRequest` が誤りとともに応答を返すのは、本文を読めなかったときだけで、ほかの誤りの応答は nil である。 -/
theorem doRequest_err_response {r : Option Response} {msg : String} (h : doRequest E tl m e b s = (.err r msg, s')) :
    r = none ∨ msg = ErrFailedToReadResponse := by
  rcases doRequest_exit h with ⟨-, hrep, -⟩ | ⟨-, -, -, ⟨e', -, hrep⟩ | ⟨s₁, -, hx⟩⟩ | ⟨-, -, hx⟩
  · cases hrep; exact .inl rfl
  · cases hrep; exact .inl rfl
  · exact hx.err_response rfl
  · exact hx.err_response rfl

end Amizone
