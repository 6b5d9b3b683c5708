import Amizone.Parse.Courses

/-!
# 出席と内部評価の欄の補題

数字の文字は十個だけなので、文字の性質は十個について確かめる。数字を含む文字列は値のない欄ではなく、
大文字で `N` や `V` にならない文字を前に足しても、数でない印の語を含むかどうかは変わらない。

式ごとに、欄の形から一致を組み立てる。式の照合は続きを渡す形なので、補題はどれも「続きが成功すれば
全体が同じ答えで成功する」と述べる。一致がないことは、式の言語に入る部分が文字列にないことから言う。
-/

namespace Amizone.Parse

open Regexp

/-! ## 文字 -/

/-- 数字の文字は `0` から `9` の十個である。 -/
theorem Char.isDigit_mem {c : Char} (h : c.isDigit = true) : c ∈ "0123456789".data := by
  have hn : 48 ≤ c.toNat ∧ c.toNat ≤ 57 := by
    simpa [Char.isDigit, UInt32.le_def, BitVec.le_def, Char.toNat, UInt32.toNat] using h
  have key : ∀ n, n < 58 → 48 ≤ n → Char.ofNat n ∈ "0123456789".data := by decide
  rw [← Char.ofNat_toNat c]
  exact key _ (by omega) hn.1

theorem space_mem {c : Char} (h : space c = true) : c ∈ ['\t', '\n', '\x0C', '\r', ' '] := by
  simp only [space, Bool.or_eq_true, beq_iff_eq] at h
  rcases h with (((h | h) | h) | h) | h <;> simp [h]

theorem space_not_digit {c : Char} (h : space c = true) : c.isDigit = false := by
  have key : ∀ c ∈ ['\t', '\n', '\x0C', '\r', ' '], c.isDigit = false := by decide
  exact key c (space_mem h)

theorem digit_not_space {c : Char} (h : c.isDigit = true) : space c = false := by
  have key : ∀ c ∈ "0123456789".data, space c = false := by decide
  exact key c (Char.isDigit_mem h)

theorem space_ne_dot {c : Char} (h : space c = true) : c ≠ '.' := by
  rintro rfl
  cases h

/-- 評価の欄の書式を書く文字：数字、空白、`.`、`+`、`/`、`[`、`]`。 -/
def formChar (c : Char) : Bool :=
  c.isDigit || space c || c == '.' || c == '+' || c == '/' || c == '[' || c == ']'

/-- 書式の文字は、大文字にしても `N` にも `V` にもならない。 -/
theorem upper_ne_of_formChar {c : Char} (h : formChar c = true) :
    unicodeToUpper c ≠ 'N' ∧ unicodeToUpper c ≠ 'V' := by
  have key : ∀ c ∈ "0123456789".data ++ ['\t', '\n', '\x0C', '\r', ' '] ++ ".+/[]".data,
      unicodeToUpper c ≠ 'N' ∧ unicodeToUpper c ≠ 'V' := by decide
  refine key c ?_
  simp only [formChar, Bool.or_eq_true, beq_iff_eq] at h
  rcases h with (((((h | h) | h) | h) | h) | h) | h
  · exact List.mem_append_left _ (List.mem_append_left _ (Char.isDigit_mem h))
  · exact List.mem_append_left _ (List.mem_append_right _ (space_mem h))
  all_goals subst h; decide

/-- 数字の並び（空でない）。 -/
def Digits (ds : List Char) : Prop := ds ≠ [] ∧ ∀ c ∈ ds, c.isDigit = true

instance : DecidablePred Digits := fun ds => inferInstanceAs (Decidable (ds ≠ [] ∧ ∀ c ∈ ds, c.isDigit = true))

theorem Digits.head_append {d : List Char} (hd : Digits d) (t : List Char) :
    ∀ c ∈ (d ++ t).head?, c.isDigit = true := by
  rw [List.head?_append_of_ne_nil _ hd.1]
  exact fun c hc => hd.2 c (List.mem_of_mem_head? hc)

/-- 符号のない十進数：数字の並びと、あれば `.` に続く数字の並び。 -/
def Decimal (x : List Char) : Prop := ∃ d, Digits d ∧ (x = d ∨ ∃ f, Digits f ∧ x = d ++ '.' :: f)

theorem Decimal.ne_nil {x : List Char} (h : Decimal x) : x ≠ [] := by
  obtain ⟨d, ⟨hd, -⟩, rfl | ⟨f, -, rfl⟩⟩ := h <;> simp [hd]

theorem Decimal.head_append {x : List Char} (h : Decimal x) (t : List Char) :
    ∀ c ∈ (x ++ t).head?, c.isDigit = true := by
  obtain ⟨d, hd, rfl | ⟨f, -, rfl⟩⟩ := h
  · exact hd.head_append t
  · rw [List.append_assoc]
    exact hd.head_append _

theorem Decimal.getLast_isDigit {x : List Char} (h : Decimal x) : ∀ c ∈ x.getLast?, c.isDigit = true := by
  obtain ⟨d, ⟨-, hd⟩, rfl | ⟨f, ⟨hf, hfs⟩, rfl⟩⟩ := h
  · exact fun c hc => hd c (List.mem_of_mem_getLast? hc)
  · rw [List.getLast?_append_of_ne_nil _ (List.cons_ne_nil _ _), ← List.singleton_append,
      List.getLast?_append_of_ne_nil _ hf]
    exact fun c hc => hfs c (List.mem_of_mem_getLast? hc)

/-- 十進数の文字は数字か `.` である。 -/
theorem Decimal.mem {x : List Char} (h : Decimal x) : ∀ c ∈ x, c.isDigit = true ∨ c = '.' := by
  obtain ⟨d, ⟨-, hd⟩, rfl | ⟨f, ⟨-, hf⟩, rfl⟩⟩ := h
  · exact fun c hc => .inl (hd c hc)
  · intro c hc
    simp only [List.mem_append, List.mem_cons] at hc
    rcases hc with hc | rfl | hc
    · exact .inl (hd c hc)
    · exact .inr rfl
    · exact .inl (hf c hc)

theorem Decimal.not_mem_bracket {x : List Char} (h : Decimal x) : '[' ∉ x := fun hm => by
  rcases h.mem _ hm with h | h <;> exact absurd h (by decide)

theorem Decimal.formChar {x : List Char} (h : Decimal x) : ∀ c ∈ x, formChar c = true := by
  intro c hc
  rcases h.mem c hc with h | rfl
  · simp [Amizone.Parse.formChar, h]
  · rfl

/-! ## 数を読む -/

/-- 数字だけの並びは、値が `int` に収まれば、`Atoi` でその値になる（先頭が数字なので符号の枝には入らない）。 -/
theorem Atoi_digits {ds : List Char} (hd : Digits ds) (hlt : decimalValue ds < 2 ^ 63) :
    Atoi (String.mk ds) = some (decimalValue ds : Int) := by
  unfold Atoi
  split
  next neg ds' h =>
    split at h
    · next t ht => exact absurd (hd.2 '+' (by rw [show ds = _ from ht]; simp)) (by decide)
    · next t ht => exact absurd (hd.2 '-' (by rw [show ds = _ from ht]; simp)) (by decide)
    · cases h
      simp [hd.1, List.all_eq_true.2 hd.2]
      omega

/-- `int32` は `int32` に収まる値を変えない。 -/
theorem int32_of_lt {x : Int} (h0 : 0 ≤ x) (h1 : x < 2 ^ 31) : int32 x = x := by
  rw [int32, Int.bmod_def, Int.emod_eq_of_lt h0 (by omega), if_pos (by omega)]

/-! ## 値のない欄 -/

theorem mem_dropWhile {p : Char → Bool} {x : Char} {l : List Char} (hx : x ∈ l) (hp : p x = false) :
    x ∈ l.dropWhile p := by
  induction l with
  | nil => cases hx
  | cons y l ih =>
      rw [List.dropWhile_cons]
      split
      · rcases List.mem_cons.1 hx with rfl | hx
        · simp_all
        · exact ih hx
      · exact hx

/-- 数字を含む文字列は、値のない欄の印ではない。 -/
theorem isNAValue_of_digit {s : String} {d : Char} (hd : d ∈ s.data) (hdig : d.isDigit = true) :
    isNAValue s = false := by
  have hfacts : ∀ c ∈ "0123456789".data, unicodeIsSpace c = false ∧ unicodeToUpper c = c ∧ c ≠ '.' ∧ c ≠ ' ' ∧
      c ∉ "NA".data ∧ c ∉ "N/A".data ∧ c ∉ "-".data ∧ c ∉ "--".data := by decide
  obtain ⟨hsp, hup, hdot, hblank, h1, h2, h3, h4⟩ := hfacts d (Char.isDigit_mem hdig)
  have hs : s ≠ "" := by rintro rfl; cases hd
  have htrim : d ∈ (stringsTrimSpace s).data :=
    List.mem_reverse.2 (mem_dropWhile (List.mem_reverse.2 (mem_dropWhile hd hsp)) hsp)
  have hnorm : d ∈ (stringsRemoveAll (stringsRemoveAll (stringsToUpper (stringsTrimSpace s)) '.') ' ').data := by
    simp only [stringsRemoveAll, stringsToUpper, List.mem_filter, List.mem_map, bne_iff_ne, ne_eq]
    exact ⟨⟨⟨d, htrim, hup⟩, hdot⟩, hblank⟩
  unfold isNAValue
  simp only [hs, if_false, Bool.or_eq_false_iff, decide_eq_false_iff_not]
  refine ⟨⟨⟨?_, ?_⟩, ?_⟩, ?_⟩ <;> intro h <;> rw [h] at hnorm <;> contradiction

/-- 十進数を含む文字列は、値のない欄の印ではない。 -/
theorem Decimal.isNAValue_of_subset {x : List Char} (h : Decimal x) {s : String} (hs : x ⊆ s.data) :
    isNAValue s = false := by
  obtain ⟨d, ⟨hne, hds⟩, hx⟩ := h
  obtain ⟨c, d, rfl⟩ := List.exists_cons_of_ne_nil hne
  have hc : c ∈ x := by rcases hx with rfl | ⟨f, -, rfl⟩ <;> simp
  exact isNAValue_of_digit (hs hc) (hds c (List.mem_cons_self _ _))

/-! ## 数でない印の語 -/

theorem stringsContains_iff {s substr : String} : stringsContains s substr = true ↔ substr.data <:+: s.data := by
  unfold stringsContains stringsIndex
  rw [decide_eq_true_iff]
  split
  · rename_i i hi
    simp only [Int.ofNat_nonneg, true_iff]
    have hp := List.find?_some hi
    rw [List.isPrefixOf_iff_prefix] at hp
    exact hp.isInfix.trans (List.drop_suffix i _).isInfix
  · rename_i hi
    refine iff_of_false (by omega) fun h => ?_
    obtain ⟨t, hpre, hsuf⟩ := List.infix_iff_prefix_suffix.1 h
    have ht := List.suffix_iff_eq_drop.1 hsuf
    rw [List.find?_eq_none] at hi
    refine hi (s.data.length - t.length) (List.mem_range.2 (Nat.lt_succ_of_le (Nat.sub_le _ _))) ?_
    rw [List.isPrefixOf_iff_prefix, ← ht]
    exact hpre

/-- 数でない印の語。 -/
def nonNumericWords : List String := ["NOT PUBLISHED", "NOT AVAILABLE", "NOT APPLICABLE", "VIEW"]

theorem isNonNumericValue_iff {s : String} :
    isNonNumericValue s = true ↔ ∃ w ∈ nonNumericWords, w.data <:+: s.data.map unicodeToUpper := by
  simp only [isNonNumericValue, Bool.or_eq_true, stringsContains_iff, stringsToUpper, nonNumericWords,
    List.mem_cons, List.mem_singleton, List.not_mem_nil, or_false, exists_eq_or_imp, exists_eq_left, or_assoc]

/-- 先頭が `x` に現れない語は、`x ++ y` に含まれるなら `y` に含まれる。 -/
theorem infix_append_iff_of_head_not_mem {w x y : List Char} {d : Char} (hw : w.head? = some d) (hd : d ∉ x) :
    w <:+: x ++ y ↔ w <:+: y := by
  refine ⟨fun ⟨a, b, hab⟩ => ?_, fun h => h.trans (List.suffix_append _ _).isInfix⟩
  rw [List.append_assoc] at hab
  rcases List.append_eq_append_iff.1 hab with ⟨_ | ⟨c, a'⟩, hxa, hw'⟩ | ⟨c', -, hy⟩
  · exact ⟨[], b, by simpa using hw'⟩
  · cases w with
    | nil => cases hw
    | cons w₀ w' =>
        simp only [List.head?_cons, Option.some.injEq, List.cons_append, List.cons.injEq] at hw hw'
        obtain ⟨rfl, -⟩ := hw'
        exact absurd (hw ▸ by simp [hxa]) hd
  · exact ⟨c', b, by rw [hy, List.append_assoc]⟩

/-- 大文字で `N` にも `V` にもならない文字だけの `x` を前に足しても、数でない印の語を含むかどうかは変わらない。
語はどれも `N` か `V` で始まるので、`x` にかかる現れ方はない。 -/
theorem isNonNumericValue_append {x : List Char} (hx : ∀ c ∈ x, unicodeToUpper c ≠ 'N' ∧ unicodeToUpper c ≠ 'V')
    (T : String) : isNonNumericValue (String.mk (x ++ T.data)) = isNonNumericValue T := by
  have hhead : ∀ w ∈ nonNumericWords, w.data.head? = some 'N' ∨ w.data.head? = some 'V' := by decide
  have hN : 'N' ∉ x.map unicodeToUpper := by simpa using fun c hc => (hx c hc).1
  have hV : 'V' ∉ x.map unicodeToUpper := by simpa using fun c hc => (hx c hc).2
  have key : (∃ w ∈ nonNumericWords, w.data <:+: (x ++ T.data).map unicodeToUpper) ↔
      ∃ w ∈ nonNumericWords, w.data <:+: T.data.map unicodeToUpper := by
    refine exists_congr fun w => and_congr_right fun hw => ?_
    rw [List.map_append]
    rcases hhead w hw with h | h
    · exact infix_append_iff_of_head_not_mem h hN
    · exact infix_append_iff_of_head_not_mem h hV
  rw [Bool.eq_iff_iff, isNonNumericValue_iff, isNonNumericValue_iff]
  exact key

/-- 数でない印の語を、大文字と小文字を問わずに含む。 -/
theorem isNonNumericValue_iff_infix {s : String} :
    isNonNumericValue s = true ↔ ∃ w ∈ nonNumericWords, ∃ v, v <:+: s.data ∧ v.map unicodeToUpper = w.data := by
  rw [isNonNumericValue_iff]
  refine exists_congr fun w => and_congr_right fun _ => ?_
  rw [List.isInfix_map_iff]
  exact exists_congr fun v => and_congr_right fun _ => eq_comm

/-! ## 式の一致を組み立てる -/

section Matching

variable {α : Type} {k : List Char → Caps → Option α} {caps : Caps} {r : α}

theorem take_sub_length (x rest : List Char) : (x ++ rest).take ((x ++ rest).length - rest.length) = x := by
  simp

/-- 十進数のあとに数字でも `.` でもない文字が来れば（または終われば）、数の式はその十進数をすべて取る。 -/
theorem m_numberPattern {x rest : List Char} (hx : Decimal x)
    (hrest : ∀ c ∈ rest.head?, c.isDigit = false ∧ c ≠ '.') (hk : k rest caps = some r) :
    numberPattern.m (x ++ rest) caps k = some r := by
  have hnone : (seq (lit '.') (plus digit)).m rest caps k = none := by
    cases rest with
    | nil => rfl
    | cons c rest => rw [m_seq]; exact m_lit_of_ne (hrest c rfl).2
  obtain ⟨d, hd, rfl | ⟨f, hf, rfl⟩⟩ := hx
  · refine m_plus hd.1 hd.2 (fun c hc => (hrest c hc).1) ?_
    rw [m_opt, hnone]
    exact hk
  · rw [List.append_assoc, List.cons_append, numberPattern, m_seq]
    refine m_plus hd.1 hd.2 (fun c hc => by cases hc; rfl) ?_
    have hsome : (seq (lit '.') (plus digit)).m ('.' :: (f ++ rest)) caps k = some r := by
      rw [m_seq, m_lit]
      exact m_plus hf.1 hf.2 (fun c hc => (hrest c hc).1) hk
    rw [m_opt, hsome]
    rfl

/-- 括弧は、中の式が取った部分を取り込む。 -/
theorem m_group_of {n : Nat} {a : Regexp} {x rest : List Char}
    (ha : ∀ {k : List Char → Caps → Option α} {caps : Caps}, k rest caps = some r → a.m (x ++ rest) caps k = some r)
    (hk : k rest (Function.update caps n (some x)) = some r) : (group n a).m (x ++ rest) caps k = some r :=
  ha (by rw [take_sub_length]; exact hk)

theorem search_of_matchHere {re : Regexp} {s : List Char} {p : List Char × Caps} (h : re.matchHere s = some p) :
    re.search s = some p := by
  cases s with
  | nil => exact h
  | cons c s => simp only [search, h, Option.orElse]

theorem matchHere_of_m {re : Regexp} {s rest : List Char} {caps : Caps}
    (h : re.m s (fun _ => none) (fun s' caps' => some (s.take (s.length - s'.length), caps')) =
      some (s.take (s.length - rest.length), caps)) :
    re.matchHere s = some (s.take (s.length - rest.length), caps) := h

/-- 数字の並び、空白、`/`、空白、数字の並びのあとに数字でない文字が来れば（または終われば）、
出席の式は二つの数字の並びをすべて取る。 -/
theorem m_attendancePattern {A ws₁ ws₂ H T : List Char} (hA : Digits A) (hH : Digits H)
    (hws₁ : ∀ c ∈ ws₁, space c = true) (hws₂ : ∀ c ∈ ws₂, space c = true)
    (hT : ∀ c ∈ T.head?, c.isDigit = false)
    (hk : k T (Function.update (Function.update caps 1 (some A)) 2 (some H)) = some r) :
    attendancePattern.m (A ++ ws₁ ++ '/' :: ws₂ ++ H ++ T) caps k = some r := by
  simp only [List.append_assoc, List.cons_append]
  rw [attendancePattern, m_seq]
  refine m_group_of (fun hk => m_plus hA.1 hA.2 ?_ hk) ?_
  · cases ws₁ with
    | nil => intro c hc; cases hc; rfl
    | cons c ws₁ => intro d hd; cases hd; exact space_not_digit (hws₁ c (List.mem_cons_self _ _))
  · rw [m_seq]
    refine starMatch_all hws₁ (fun c hc => by cases hc; rfl) ?_
    rw [m_seq, m_lit, m_seq]
    exact starMatch_all hws₂ (fun c hc => digit_not_space (hH.head_append T c hc))
      (m_group_of (fun hk => m_plus hH.1 hH.2 hT hk) hk)

/-- 新しい書式 `H[B]/M` のあとに数字でも `.` でもない文字が来れば（または終われば）、式は `H` と `M` を取る。 -/
theorem m_newFormatPattern {H B M R : List Char} (hH : Decimal H) (hB : B ≠ [])
    (hBs : ∀ c ∈ B, breakdownChar c = true) (hM : Decimal M) (hR : ∀ c ∈ R.head?, c.isDigit = false ∧ c ≠ '.')
    (hk : k R (Function.update (Function.update caps 1 (some H)) 2 (some M)) = some r) :
    newFormatPattern.m (H ++ '[' :: B ++ ']' :: '/' :: M ++ R) caps k = some r := by
  simp only [List.append_assoc, List.cons_append]
  rw [newFormatPattern, m_seq]
  refine m_group_of (fun hk => m_numberPattern hH (fun c hc => by cases hc; decide) hk) ?_
  rw [m_seq, m_lit, m_seq]
  refine m_plus hB hBs (fun c hc => by cases hc; rfl) ?_
  rw [m_seq, m_lit, m_seq, m_lit]
  exact m_group_of (fun hk => m_numberPattern hM hR hk) hk

/-- 古い書式 `H/M`、`H[M` の一致。区切りの前後の空白も取る。 -/
theorem m_legacyPattern {H ws₁ ws₂ M R : List Char} {sep : Char} (hH : Decimal H)
    (hws₁ : ∀ c ∈ ws₁, space c = true) (hsep : sep = '/' ∨ sep = '[') (hws₂ : ∀ c ∈ ws₂, space c = true)
    (hM : Decimal M) (hR : ∀ c ∈ R.head?, c.isDigit = false ∧ c ≠ '.')
    (hk : k R (Function.update (Function.update caps 1 (some H)) 2 (some M)) = some r) :
    legacyPattern.m (H ++ ws₁ ++ sep :: ws₂ ++ M ++ R) caps k = some r := by
  have hsep' : sep.isDigit = false ∧ sep ≠ '.' ∧ space sep = false := by rcases hsep with rfl | rfl <;> decide
  simp only [List.append_assoc, List.cons_append]
  rw [legacyPattern, m_seq]
  refine m_group_of (fun hk => m_numberPattern hH ?_ hk) ?_
  · cases ws₁ with
    | nil => intro c hc; cases hc; exact ⟨hsep'.1, hsep'.2.1⟩
    | cons c ws₁ =>
        intro d hd; cases hd
        have hc := hws₁ c (List.mem_cons_self _ _)
        exact ⟨space_not_digit hc, space_ne_dot hc⟩
  · have hrest : (seq (star space) (group 2 numberPattern)).m (ws₂ ++ (M ++ R))
        (Function.update caps 1 (some H)) k = some r := by
      rw [m_seq]
      exact starMatch_all hws₂ (fun c hc => digit_not_space (hM.head_append R c hc))
        (m_group_of (fun hk => m_numberPattern hM hR hk) hk)
    rw [m_seq]
    refine starMatch_all hws₁ (fun c hc => by cases hc; exact hsep'.2.2) ?_
    rw [m_seq, m_alt]
    rcases hsep with rfl | rfl
    · rw [m_lit, hrest]
      rfl
    · rw [m_lit_of_ne (by decide), m_lit]
      exact hrest

end Matching

/-! ## 式の言語 -/

/-- 数の式に合う部分は十進数である。 -/
theorem numberPattern_matches {u : List Char} (h : numberPattern.Matches u) : Decimal u := by
  obtain ⟨d, v, hd, hv, rfl⟩ := h.seq_inv
  rcases hv.opt_inv with rfl | hv
  · exact ⟨d, hd.plus_inv, .inl (List.append_nil d)⟩
  · obtain ⟨dot, f, hdot, hf, rfl⟩ := hv.seq_inv
    obtain rfl := hdot.lit_inv
    exact ⟨d, hd.plus_inv, .inr ⟨f, hf.plus_inv, rfl⟩⟩

/-- 新しい書式の式に合う部分は、十進数のすぐあとに `[` を持つ。 -/
theorem newFormatPattern_matches {u : List Char} (h : newFormatPattern.Matches u) :
    ∃ x y, Decimal x ∧ u = x ++ '[' :: y := by
  obtain ⟨x, v, hx, h₁, rfl⟩ := h.seq_inv
  obtain ⟨br, y, hbr, -, rfl⟩ := h₁.seq_inv
  obtain rfl := hbr.lit_inv
  exact ⟨x, y, numberPattern_matches hx.group_inv, rfl⟩

/-- `[` を含まない文字列に、新しい書式の一致はない。 -/
theorem newFormatPattern_search_of_not_mem {c : List Char} (h : '[' ∉ c) : newFormatPattern.search c = none :=
  search_eq_none fun u hu hin => by
    obtain ⟨x, y, -, rfl⟩ := newFormatPattern_matches hu
    exact h (hin.subset (List.mem_append_right _ (List.mem_cons_self _ _)))

/-- `[` が一つだけで、その前が空白なら、新しい書式の一致はない。 -/
theorem newFormatPattern_search_of_space {p ws q : List Char} (hp : '[' ∉ p) (hws : ws ≠ [])
    (hws' : ∀ c ∈ ws, space c = true) (hq : '[' ∉ q) : newFormatPattern.search (p ++ ws ++ '[' :: q) = none :=
  search_eq_none fun u hu ⟨a, b, hab⟩ => by
    obtain ⟨x, y, hx, rfl⟩ := newFormatPattern_matches hu
    have hnot : '[' ∉ p ++ ws := fun hm => (List.mem_append.1 hm).elim hp fun hm => by
      cases hws' _ hm
    rw [show a ++ (x ++ '[' :: y) ++ b = (a ++ x) ++ '[' :: (y ++ b) by simp,
      eq_comm, List.append_cons_inj_of_not_mem hnot hq] at hab
    have hlast : (p ++ ws).getLast? = (a ++ x).getLast? := by rw [hab.1]
    rw [List.getLast?_append_of_ne_nil _ hws, List.getLast?_append_of_ne_nil _ hx.ne_nil] at hlast
    obtain ⟨c, hc⟩ := Option.isSome_iff_exists.1 (List.getLast?_isSome.2 hws)
    have hd := hx.getLast_isDigit c (hlast ▸ hc)
    rw [space_not_digit (hws' c (List.mem_of_getLast?_eq_some hc))] at hd
    cases hd

/-! ## 出席の欄 -/

theorem FindStringSubmatch_attendancePattern {A ws₁ ws₂ H T : List Char} (hA : Digits A) (hH : Digits H)
    (hws₁ : ∀ c ∈ ws₁, space c = true) (hws₂ : ∀ c ∈ ws₂, space c = true)
    (hT : ∀ c ∈ T.head?, c.isDigit = false) :
    attendancePattern.FindStringSubmatch 2 (String.mk (A ++ ws₁ ++ '/' :: ws₂ ++ H ++ T)) =
      [String.mk (A ++ ws₁ ++ '/' :: ws₂ ++ H), String.mk A, String.mk H] := by
  have h := matchHere_of_m (m_attendancePattern hA hH hws₁ hws₂ hT rfl)
  rw [take_sub_length] at h
  rw [FindStringSubmatch, search_of_matchHere h]
  rfl

/-- 出席の式の言語：数字の並び、空白、`/`、空白、数字の並び。 -/
theorem attendancePattern_matches {u : List Char} (h : attendancePattern.Matches u) :
    ∃ A ws₁ ws₂ H, Digits A ∧ Digits H ∧ (∀ c ∈ ws₁ ++ ws₂, space c = true) ∧
      u = A ++ ws₁ ++ '/' :: ws₂ ++ H := by
  obtain ⟨A, v, hA, h₁, rfl⟩ := h.seq_inv
  obtain ⟨ws₁, v, hw₁, h₂, rfl⟩ := h₁.seq_inv
  obtain ⟨sl, v, hsl, h₃, rfl⟩ := h₂.seq_inv
  obtain ⟨ws₂, H, hw₂, hH, rfl⟩ := h₃.seq_inv
  obtain rfl := hsl.lit_inv
  exact ⟨A, ws₁, ws₂, H, hA.group_inv.plus_inv, hH.group_inv.plus_inv,
    fun c hc => (List.mem_append.1 hc).elim (hw₁.star_inv c) (hw₂.star_inv c), by simp⟩

/-- 数字の並びの組を含まない欄は零になる。 -/
theorem Attendance_of_no_pair {c : String}
    (h : ¬∃ A ws₁ ws₂ H, Digits A ∧ Digits H ∧ (∀ c ∈ ws₁ ++ ws₂, space c = true) ∧
      A ++ ws₁ ++ '/' :: ws₂ ++ H <:+: c.data) :
    Courses.Attendance c = ⟨0, 0⟩ := by
  have hnone : attendancePattern.search c.data = none := search_eq_none fun u hu hin => by
    obtain ⟨A, ws₁, ws₂, H, hA, hH, hws, rfl⟩ := attendancePattern_matches hu
    exact h ⟨A, ws₁, ws₂, H, hA, hH, hws, hin⟩
  unfold Courses.Attendance
  simp [FindStringSubmatch, hnone]

/-- `A/H` の形の欄は、`int` に収まる値を `int32` に変えたものになる。 -/
theorem Attendance_of_pair {A ws₁ ws₂ H T : List Char} (hA : Digits A) (hH : Digits H)
    (hws : ∀ c ∈ ws₁ ++ ws₂, space c = true) (hT : ∀ c ∈ T.head?, c.isDigit = false)
    (hA63 : decimalValue A < 2 ^ 63) (hH63 : decimalValue H < 2 ^ 63) :
    Courses.Attendance (String.mk (A ++ ws₁ ++ '/' :: ws₂ ++ H ++ T)) =
      ⟨int32 (decimalValue A), int32 (decimalValue H)⟩ := by
  obtain ⟨d, A', rfl⟩ := List.exists_cons_of_ne_nil hA.1
  have hna := isNAValue_of_digit (s := String.mk (d :: A' ++ ws₁ ++ '/' :: ws₂ ++ H ++ T)) (by simp)
    (hA.2 d (List.mem_cons_self _ _))
  unfold Courses.Attendance
  rw [hna, FindStringSubmatch_attendancePattern hA hH (fun c hc => hws c (List.mem_append_left _ hc))
    (fun c hc => hws c (List.mem_append_right _ hc)) hT]
  simp [Atoi_digits hA hA63, Atoi_digits hH hH63]

/-! ## 内部評価の欄 -/

theorem FindStringSubmatch_newFormatPattern {H B M : List Char} (hH : Decimal H) (hB : B ≠ [])
    (hBs : ∀ c ∈ B, breakdownChar c = true) (hM : Decimal M) :
    newFormatPattern.FindStringSubmatch 2 (String.mk (H ++ '[' :: B ++ ']' :: '/' :: M)) =
      [String.mk (H ++ '[' :: B ++ ']' :: '/' :: M), String.mk H, String.mk M] := by
  have h := matchHere_of_m (m_newFormatPattern hH hB hBs hM (R := []) (fun c hc => by cases hc) rfl)
  rw [take_sub_length, List.append_nil] at h
  rw [FindStringSubmatch, search_of_matchHere h]
  rfl

theorem FindStringSubmatch_legacyPattern {H ws₁ ws₂ M R : List Char} {sep : Char} (hH : Decimal H)
    (hws₁ : ∀ c ∈ ws₁, space c = true) (hsep : sep = '/' ∨ sep = '[') (hws₂ : ∀ c ∈ ws₂, space c = true)
    (hM : Decimal M) (hR : ∀ c ∈ R.head?, c.isDigit = false ∧ c ≠ '.') :
    legacyPattern.FindStringSubmatch 2 (String.mk (H ++ ws₁ ++ sep :: ws₂ ++ M ++ R)) =
      [String.mk (H ++ ws₁ ++ sep :: ws₂ ++ M), String.mk H, String.mk M] := by
  have h := matchHere_of_m (m_legacyPattern hH hws₁ hsep hws₂ hM hR rfl)
  rw [take_sub_length] at h
  rw [FindStringSubmatch, search_of_matchHere h]
  rfl

variable (ParseFloat : String → Option UInt32) {c : String}

/-- 値のない印か、数でない印の語を含む欄は零になる。 -/
theorem InternalMarks_of_nonNumeric (h : isNAValue c = true ∨ isNonNumericValue c = true) :
    Courses.InternalMarks ParseFloat c = ⟨0, 0⟩ := by
  rw [Courses.InternalMarks, if_pos (by simpa using h)]

/-- 新しい書式の一致があれば、その二つの数を読む。 -/
theorem InternalMarks_of_newFormat (hna : isNAValue c = false) (hnn : isNonNumericValue c = false) {m : List String}
    (hm : newFormatPattern.FindStringSubmatch 2 c = m) (hlen : 3 ≤ m.length) :
    Courses.InternalMarks ParseFloat c = pairMarks ParseFloat m := by
  simp [Courses.InternalMarks, hna, hnn, hm, hlen]

/-- 新しい書式の一致がなく、古い書式の一致があれば、その二つの数を読む。 -/
theorem InternalMarks_of_legacy (hna : isNAValue c = false) (hnn : isNonNumericValue c = false)
    (hnew : newFormatPattern.FindStringSubmatch 2 c = []) {m : List String}
    (hm : legacyPattern.FindStringSubmatch 2 c = m) (hlen : 3 ≤ m.length) :
    Courses.InternalMarks ParseFloat c = pairMarks ParseFloat m := by
  simp [Courses.InternalMarks, hna, hnn, hnew, hm, hlen]

/-- 新しい書式 `H[B]/M` の欄は `H` と `M` を読む。 -/
theorem InternalMarks_newFormat {H B M : List Char} (hH : Decimal H) (hB : B ≠ [])
    (hBs : ∀ c ∈ B, breakdownChar c = true) (hM : Decimal M) :
    Courses.InternalMarks ParseFloat (String.mk (H ++ '[' :: B ++ ']' :: '/' :: M)) =
      pairMarks ParseFloat [String.mk (H ++ '[' :: B ++ ']' :: '/' :: M), String.mk H, String.mk M] := by
  have hform : ∀ c ∈ H ++ '[' :: B ++ ']' :: '/' :: M, formChar c = true := by
    simp only [List.forall_mem_append, List.forall_mem_cons]
    refine ⟨⟨hH.formChar, rfl, fun c hc => ?_⟩, rfl, rfl, hM.formChar⟩
    have h := hBs c hc
    simp only [breakdownChar, Bool.or_eq_true, beq_iff_eq] at h
    rcases h with (h | rfl) | rfl
    · simp [formChar, h]
    · rfl
    · rfl
  have hnn := isNonNumericValue_append (fun c hc => upper_ne_of_formChar (hform c hc)) ""
  rw [show "".data = [] from rfl, List.append_nil] at hnn
  rw [List.append_assoc] at hnn ⊢
  exact InternalMarks_of_newFormat ParseFloat (hH.isNAValue_of_subset fun a ha => by simp [ha]) (hnn.trans (by decide))
    (by rw [← List.append_assoc]; exact FindStringSubmatch_newFormatPattern hH hB hBs hM) (by simp)

/-- 古い書式 `H/M`（`/` の前後に空白を許す）のあとに、数でない印の語を含まず、数字でも `.` でも始まらない
文字列が続き、新しい書式の一致がない欄は、`H` と `M` を読む。 -/
theorem InternalMarks_slash {H ws₁ ws₂ M T : List Char} (hH : Decimal H) (hws₁ : ∀ c ∈ ws₁, space c = true)
    (hws₂ : ∀ c ∈ ws₂, space c = true) (hM : Decimal M) (hT : ∀ c ∈ T.head?, c.isDigit = false ∧ c ≠ '.')
    (hnew : newFormatPattern.FindStringSubmatch 2 (String.mk (H ++ ws₁ ++ '/' :: ws₂ ++ M ++ T)) = [])
    (hTn : isNonNumericValue (String.mk T) = false) :
    Courses.InternalMarks ParseFloat (String.mk (H ++ ws₁ ++ '/' :: ws₂ ++ M ++ T)) =
      pairMarks ParseFloat [String.mk (H ++ ws₁ ++ '/' :: ws₂ ++ M), String.mk H, String.mk M] := by
  have hform : ∀ c ∈ H ++ ws₁ ++ '/' :: ws₂ ++ M, formChar c = true := by
    simp only [List.forall_mem_append, List.forall_mem_cons]
    exact ⟨⟨⟨hH.formChar, fun c hc => by simp [formChar, hws₁ c hc]⟩, rfl,
      fun c hc => by simp [formChar, hws₂ c hc]⟩, hM.formChar⟩
  exact InternalMarks_of_legacy ParseFloat (hH.isNAValue_of_subset fun a ha => by simp [ha])
    ((isNonNumericValue_append (fun c hc => upper_ne_of_formChar (hform c hc)) (String.mk T)).trans hTn)
    hnew (FindStringSubmatch_legacyPattern hH hws₁ (.inl rfl) hws₂ hM hT) (by simp)

/-- 古い書式 `H [M]`（`[` の前に空白を許す）のあとに、数でない印の語を含まない文字列が続き、新しい書式の
一致がない欄は、`H` と `M` を読む。 -/
theorem InternalMarks_bracket {H ws₁ ws₂ M T : List Char} (hH : Decimal H) (hws₁ : ∀ c ∈ ws₁, space c = true)
    (hws₂ : ∀ c ∈ ws₂, space c = true) (hM : Decimal M)
    (hnew : newFormatPattern.FindStringSubmatch 2 (String.mk (H ++ ws₁ ++ '[' :: ws₂ ++ M ++ ']' :: T)) = [])
    (hTn : isNonNumericValue (String.mk T) = false) :
    Courses.InternalMarks ParseFloat (String.mk (H ++ ws₁ ++ '[' :: ws₂ ++ M ++ ']' :: T)) =
      pairMarks ParseFloat [String.mk (H ++ ws₁ ++ '[' :: ws₂ ++ M), String.mk H, String.mk M] := by
  have hform : ∀ c ∈ H ++ ws₁ ++ '[' :: ws₂ ++ M ++ [']'], formChar c = true := by
    simp only [List.forall_mem_append, List.forall_mem_cons]
    exact ⟨⟨⟨⟨hH.formChar, fun c hc => by simp [formChar, hws₁ c hc]⟩, rfl,
      fun c hc => by simp [formChar, hws₂ c hc]⟩, hM.formChar⟩, rfl, fun c hc => by cases hc⟩
  have hnn := isNonNumericValue_append (fun c hc => upper_ne_of_formChar (hform c hc)) (String.mk T)
  rw [List.append_assoc _ [']'], List.singleton_append] at hnn
  exact InternalMarks_of_legacy ParseFloat (hH.isNAValue_of_subset fun a ha => by simp [ha]) (hnn.trans hTn) hnew
    (FindStringSubmatch_legacyPattern hH hws₁ (.inr rfl) hws₂ hM (R := ']' :: T) (fun c hc => by cases hc; decide))
    (by simp)

/-- `T` が `[` を含まなければ、`H/M` の欄に新しい書式の一致はない。 -/
theorem newFormatPattern_slash_of_not_mem {H ws₁ ws₂ M T : List Char} (hH : Decimal H)
    (hws₁ : ∀ c ∈ ws₁, space c = true) (hws₂ : ∀ c ∈ ws₂, space c = true) (hM : Decimal M) (hTb : '[' ∉ T) :
    newFormatPattern.FindStringSubmatch 2 (String.mk (H ++ ws₁ ++ '/' :: ws₂ ++ M ++ T)) = [] := by
  have hnot : '[' ∉ H ++ ws₁ ++ '/' :: ws₂ ++ M ++ T := by
    simp only [List.mem_append, List.mem_cons, not_or]
    exact ⟨⟨⟨⟨hH.not_mem_bracket, fun h => absurd (hws₁ _ h) (by decide)⟩, by decide,
      fun h => absurd (hws₂ _ h) (by decide)⟩, hM.not_mem_bracket⟩, hTb⟩
  rw [FindStringSubmatch, newFormatPattern_search_of_not_mem hnot]

/-- `T` が `[` を含まなければ、`[` の前に空白のある `H [M]` の欄に新しい書式の一致はない。 -/
theorem newFormatPattern_bracket_of_not_mem {H ws₁ ws₂ M T : List Char} (hH : Decimal H)
    (hws₁ : ∀ c ∈ ws₁, space c = true) (hne : ws₁ ≠ []) (hws₂ : ∀ c ∈ ws₂, space c = true) (hM : Decimal M)
    (hTb : '[' ∉ T) :
    newFormatPattern.FindStringSubmatch 2 (String.mk (H ++ ws₁ ++ '[' :: ws₂ ++ M ++ ']' :: T)) = [] := by
  have hnew := newFormatPattern_search_of_space (q := ws₂ ++ M ++ ']' :: T) (fun h => hH.not_mem_bracket h) hne hws₁
    (by
      simp only [List.mem_append, List.mem_cons, not_or]
      exact ⟨⟨fun h => absurd (hws₂ _ h) (by decide), hM.not_mem_bracket⟩, by decide, hTb⟩)
  simp only [List.append_assoc, List.cons_append] at hnew
  rw [FindStringSubmatch]
  simp only [List.append_assoc, List.cons_append, hnew]

end Amizone.Parse
