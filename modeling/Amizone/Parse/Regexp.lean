import Amizone.Basic

/-!
# Go の正規表現（`regexp`）のうち、このコードの式が使う部分

`regexp` は、文字列のなるべく左で始まる一致を選び、そこで始まる一致のうち、後戻りで探す実装が
最初に見つけるものを返す（leftmost-first）。この意味を、続き（継続）を渡す後戻りの照合として書く。
式の構文は、文字の組、組の繰り返し `*`（貪欲）、連接、選択 `|`（左を先に）、省略 `?`（貪欲）、
番号つきの括弧だけである。`\d` は ASCII の数字、`\s` は `[\t\n\f\r ]` である。括弧が取り込んだ文字列は
番号ごとの表 `Caps` に置く。

照合の正しさとして、一致が見つかれば、取った部分が式の言語 `Regexp.Matches` に入ることを示す。
-/

namespace Amizone.Parse

/-- 式の構文。`cls p` は `p` を満たす一文字、`star p` はその繰り返し、`group n a` は `n` 番目の括弧。 -/
inductive Regexp where
  | cls (p : Char → Bool)
  | star (p : Char → Bool)
  | seq (a b : Regexp)
  | alt (a b : Regexp)
  | opt (a : Regexp)
  | group (n : Nat) (a : Regexp)

/-- 括弧の番号ごとに取り込んだ文字列。 -/
abbrev Caps := Nat → Option (List Char)

namespace Regexp

/-- 一文字 `c`。 -/
def lit (c : Char) : Regexp := cls (· == c)

/-- `p+`：一文字のあとに繰り返し。 -/
def plus (p : Char → Bool) : Regexp := seq (cls p) (star p)

/-- `\d`：ASCII の数字。 -/
def digit (c : Char) : Bool := c.isDigit

/-- `\s`：RE2 の空白、タブ、改行、改ページ、復帰、空白文字。 -/
def space (c : Char) : Bool := c == '\t' || c == '\n' || c == '\x0C' || c == '\r' || c == ' '

/-- 繰り返し `p*` の照合：なるべく多く取り、続きが失敗すれば一つずつ戻す。 -/
def starMatch {α : Type} (p : Char → Bool) (k : List Char → Caps → Option α) (caps : Caps) :
    List Char → Option α
  | [] => k [] caps
  | c :: s => if p c then (starMatch p k caps s).orElse fun _ => k (c :: s) caps else k (c :: s) caps

/-- 後戻りの照合：`s` の先頭から式に合う部分を取り、残りと取り込みを続き `k` に渡す。続きが失敗すれば、
優先の順に次の取り方を試す。 -/
def m {α : Type} : Regexp → List Char → Caps → (List Char → Caps → Option α) → Option α
  | cls p, s, caps, k =>
      match s with
      | c :: s => if p c then k s caps else none
      | [] => none
  | star p, s, caps, k => starMatch p k caps s
  | seq a b, s, caps, k => a.m s caps fun s' caps' => b.m s' caps' k
  | alt a b, s, caps, k => (a.m s caps k).orElse fun _ => b.m s caps k
  | opt a, s, caps, k => (a.m s caps k).orElse fun _ => k s caps
  | group n a, s, caps, k =>
      a.m s caps fun s' caps' => k s' (Function.update caps' n (some (s.take (s.length - s'.length))))

/-- 一つの位置で始まる一致：一致した部分と取り込み。 -/
def matchHere (re : Regexp) (s : List Char) : Option (List Char × Caps) :=
  re.m s (fun _ => none) fun s' caps => some (s.take (s.length - s'.length), caps)

/-- なるべく左で始まる一致。 -/
def search (re : Regexp) : List Char → Option (List Char × Caps)
  | [] => re.matchHere []
  | c :: s => (re.matchHere (c :: s)).orElse fun _ => re.search s

/-- `FindStringSubmatch`：一致がなければ空の並び、あれば一致した部分と `ngroups` 個の括弧の中身。 -/
def FindStringSubmatch (re : Regexp) (ngroups : Nat) (s : String) : List String :=
  match re.search s.data with
  | none => []
  | some (whole, caps) => String.mk whole :: (List.range ngroups).map fun i => String.mk ((caps (i + 1)).getD [])

/-- `FindString`：一致がなければ空の文字列。 -/
def FindString (re : Regexp) (s : String) : String :=
  match re.search s.data with
  | none => ""
  | some (whole, _) => String.mk whole

/-! ## 式の言語 -/

/-- 式に合う文字列。 -/
inductive Matches : Regexp → List Char → Prop
  | cls {p : Char → Bool} {c : Char} : p c = true → Matches (cls p) [c]
  | star_nil {p : Char → Bool} : Matches (star p) []
  | star_cons {p : Char → Bool} {c : Char} {u : List Char} : p c = true → Matches (star p) u → Matches (star p) (c :: u)
  | seq {a b : Regexp} {u v : List Char} : Matches a u → Matches b v → Matches (seq a b) (u ++ v)
  | alt_left {a b : Regexp} {u : List Char} : Matches a u → Matches (alt a b) u
  | alt_right {a b : Regexp} {u : List Char} : Matches b u → Matches (alt a b) u
  | opt_none {a : Regexp} : Matches (opt a) []
  | opt_some {a : Regexp} {u : List Char} : Matches a u → Matches (opt a) u
  | group {n : Nat} {a : Regexp} {u : List Char} : Matches a u → Matches (group n a) u

variable {α : Type} {k : List Char → Caps → Option α} {caps : Caps} {r : α}

theorem starMatch_sound {p : Char → Bool} {s : List Char} (h : starMatch p k caps s = some r) :
    ∃ u v, s = u ++ v ∧ Matches (star p) u ∧ k v caps = some r := by
  induction s with
  | nil => exact ⟨[], [], rfl, .star_nil, h⟩
  | cons c s ih =>
      unfold starMatch at h
      split at h
      · rcases (Option.orElse_eq_some' _ _ _).1 h with ho | ⟨-, hk⟩
        · obtain ⟨u, v, rfl, hu, hv⟩ := ih ho
          exact ⟨c :: u, v, rfl, .star_cons ‹_› hu, hv⟩
        · exact ⟨[], c :: s, rfl, .star_nil, hk⟩
      · exact ⟨[], c :: s, rfl, .star_nil, h⟩

/-- 照合が成功すれば、先頭の取った部分は式に合い、続きはその残りで成功している。 -/
theorem m_sound (re : Regexp) {s : List Char} {k : List Char → Caps → Option α} {caps : Caps}
    (h : re.m s caps k = some r) : ∃ u v caps', s = u ++ v ∧ re.Matches u ∧ k v caps' = some r := by
  induction re generalizing s caps k with
  | cls p =>
      cases s with
      | nil => cases h
      | cons c s =>
          simp only [m] at h
          split at h
          · exact ⟨[c], s, caps, rfl, .cls ‹_›, h⟩
          · cases h
  | star p =>
      obtain ⟨u, v, rfl, hu, hv⟩ := starMatch_sound h
      exact ⟨u, v, caps, rfl, hu, hv⟩
  | seq a b iha ihb =>
      obtain ⟨u, v, caps₁, rfl, hu, hv⟩ := iha h
      obtain ⟨u', v', caps₂, rfl, hu', hv'⟩ := ihb hv
      exact ⟨u ++ u', v', caps₂, (List.append_assoc _ _ _).symm, .seq hu hu', hv'⟩
  | alt a b iha ihb =>
      rcases (Option.orElse_eq_some' _ _ _).1 h with ha | ⟨-, hb⟩
      · obtain ⟨u, v, caps', rfl, hu, hv⟩ := iha ha
        exact ⟨u, v, caps', rfl, .alt_left hu, hv⟩
      · obtain ⟨u, v, caps', rfl, hu, hv⟩ := ihb hb
        exact ⟨u, v, caps', rfl, .alt_right hu, hv⟩
  | opt a iha =>
      rcases (Option.orElse_eq_some' _ _ _).1 h with ha | ⟨-, hk⟩
      · obtain ⟨u, v, caps', rfl, hu, hv⟩ := iha ha
        exact ⟨u, v, caps', rfl, .opt_some hu, hv⟩
      · exact ⟨[], s, caps, rfl, .opt_none, hk⟩
  | group n a iha =>
      obtain ⟨u, v, caps', rfl, hu, hv⟩ := iha h
      exact ⟨u, v, _, rfl, .group hu, hv⟩

theorem Matches.star_inv {p : Char → Bool} {u : List Char} (h : (star p).Matches u) : ∀ c ∈ u, p c = true := by
  generalize hre : star p = re at h
  induction h with
  | star_nil => simp
  | star_cons hc _ ih =>
      cases hre
      exact List.forall_mem_cons.2 ⟨hc, ih rfl⟩
  | _ => cases hre

theorem Matches.plus_inv {p : Char → Bool} {u : List Char} (h : (plus p).Matches u) :
    u ≠ [] ∧ ∀ c ∈ u, p c = true := by
  cases h with
  | seq h₁ h₂ =>
      cases h₁ with
      | cls hc => exact ⟨by simp, List.forall_mem_cons.2 ⟨hc, h₂.star_inv⟩⟩

theorem Matches.seq_inv {a b : Regexp} {u : List Char} (h : (Regexp.seq a b).Matches u) :
    ∃ u₁ u₂, a.Matches u₁ ∧ b.Matches u₂ ∧ u = u₁ ++ u₂ := by
  cases h with
  | seq h₁ h₂ => exact ⟨_, _, h₁, h₂, rfl⟩

theorem Matches.group_inv {n : Nat} {a : Regexp} {u : List Char} (h : (Regexp.group n a).Matches u) : a.Matches u := by
  cases h with
  | group h => exact h

theorem Matches.opt_inv {a : Regexp} {u : List Char} (h : (opt a).Matches u) : u = [] ∨ a.Matches u := by
  cases h with
  | opt_none => exact .inl rfl
  | opt_some h => exact .inr h

theorem Matches.lit_inv {c : Char} {u : List Char} (h : (lit c).Matches u) : u = [c] := by
  cases h with
  | cls hc => simp only [beq_iff_eq] at hc; rw [hc]

/-- 見つかる一致は、文字列のどこかの部分で、式に合う。 -/
theorem search_sound {re : Regexp} {s whole : List Char} {caps : Caps} (h : re.search s = some (whole, caps)) :
    re.Matches whole ∧ whole <:+: s := by
  induction s with
  | nil =>
      obtain ⟨u, v, caps', hs, hu, hv⟩ := m_sound re h
      cases hv
      obtain ⟨rfl, rfl⟩ := List.append_eq_nil.1 hs.symm
      exact ⟨hu, List.infix_refl _⟩
  | cons c s ih =>
      rcases (Option.orElse_eq_some' _ _ _).1 h with hm | ⟨-, ht⟩
      · obtain ⟨u, v, caps', hs, hu, hv⟩ := m_sound re hm
        cases hv
        rw [hs, List.length_append, Nat.add_sub_cancel, List.take_left]
        exact ⟨hu, (List.prefix_append u v).isInfix.trans (hs ▸ List.infix_refl _)⟩
      · obtain ⟨hw, hinf⟩ := ih ht
        exact ⟨hw, hinf.trans (List.suffix_cons c s).isInfix⟩

/-- どの部分も式に合わなければ、一致は見つからない。 -/
theorem search_eq_none {re : Regexp} {s : List Char} (h : ∀ u, re.Matches u → ¬u <:+: s) : re.search s = none := by
  rcases hs : re.search s with _ | ⟨whole, caps⟩
  · rfl
  · exact absurd (search_sound hs).2 (h _ (search_sound hs).1)

/-! ## 一致を作る -/

/-- 組を満たす文字の並び `u` のあとに組を満たさない文字が来れば、繰り返しは `u` をすべて取る。 -/
theorem starMatch_all {p : Char → Bool} {u v : List Char} (hu : ∀ c ∈ u, p c = true)
    (hv : ∀ c ∈ v.head?, p c = false) (hk : k v caps = some r) : starMatch p k caps (u ++ v) = some r := by
  induction u with
  | nil =>
      cases v with
      | nil => exact hk
      | cons c v => simp only [List.nil_append, starMatch, hv c rfl]; exact hk
  | cons c u ih =>
      simp only [List.cons_append, starMatch, hu c (List.mem_cons_self _ _), if_true, List.append_eq]
      rw [ih fun c hc => hu c (List.mem_cons_of_mem _ hc)]
      rfl

theorem m_plus {p : Char → Bool} {u v : List Char} (hne : u ≠ []) (hu : ∀ c ∈ u, p c = true)
    (hv : ∀ c ∈ v.head?, p c = false) (hk : k v caps = some r) : (plus p).m (u ++ v) caps k = some r := by
  obtain ⟨c, u, rfl⟩ := List.exists_cons_of_ne_nil hne
  simp only [plus, m, List.cons_append, hu c (List.mem_cons_self _ _), if_true]
  exact starMatch_all (fun c hc => hu c (List.mem_cons_of_mem _ hc)) hv hk

theorem m_seq {a b : Regexp} {s : List Char} : (seq a b).m s caps k = a.m s caps fun s' caps' => b.m s' caps' k :=
  rfl

theorem m_opt {a : Regexp} {s : List Char} : (opt a).m s caps k = (a.m s caps k).orElse fun _ => k s caps := rfl

theorem m_alt {a b : Regexp} {s : List Char} : (alt a b).m s caps k = (a.m s caps k).orElse fun _ => b.m s caps k :=
  rfl

theorem m_lit {c : Char} {s : List Char} : (lit c).m (c :: s) caps k = k s caps := by
  simp [lit, m]

theorem m_lit_of_ne {c d : Char} {s : List Char} (h : d ≠ c) : (lit c).m (d :: s) caps k = none := by
  simp [lit, m, h]

end Regexp

end Amizone.Parse
