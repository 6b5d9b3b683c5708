import Amizone.Parse.Lemmas.Search
import Amizone.Parse.Lemmas.Courses

/-!
# ページの解析の性質

ログインのページの Turnstile の鍵は、`strings.Index` で書いた読み方と同じに取られる。手で書いた
`findSubstring` は、空の `substr`、見つからない場合、`s` より長い `substr` を含め、どの文字列についても
`strings.Index` と同じ位置を返す。

履修の表の出席の欄は、値のない印と、数字の並びの組を含まない文字列では零になり、`A/H` の形では
`strconv.Atoi` の値を `int32` に変えた組になる。`int32` への変換は `2^31` 以上の値を負に折り返すので、
出席の値が負になることはある。

内部評価の欄は、値のない印と数でない印の語を含む文字列では零になり、新しい書式 `H[B]/M` では `H` と
`M` を読む。古い書式 `H/M`、`H [M]` も、あとに続く文字列が印の語を含まず、欄に新しい書式の一致がなければ
`H` と `M` を読む。続く文字列が `[` を含まなければ一致はないが、`[` があっても一致がないことはある。
続く文字列に印の語があれば欄は零になり、新しい書式の部分があればそちらが先に読まれる。
-/

namespace Amizone.Parse

/-! ## Turnstile の鍵 -/

/-- `TurnstileSiteKey` は、文書の順で、`sitekey: "` の後ろに閉じる `"` までの空でない鍵を持つ最初の
`script` の鍵であり、なければ空である。`findSubstring` は `strings.Index` と同じ位置を返す。 -/
theorem ParseLoginFormFromDom_siteKey_eq_ref (dom : Document) :
    (ParseLoginFormFromDom dom).TurnstileSiteKey = turnstileSiteKeyRef dom.scripts ∧
      ∀ s substr, findSubstring s substr = stringsIndex s substr :=
  ⟨foldl_scanSiteKey dom.scripts, findSubstring_eq_stringsIndex⟩

example : (ParseLoginFormFromDom ⟨[], ["sitekey: \"\"", "render(el, sitekey: \"0xAB\")", "sitekey: \"CD\""]⟩).TurnstileSiteKey =
    "0xAB" := by decide

/-! ## 出席の欄 -/

/-- 出席の欄：値のない印は零、数字の並びの組（`/` の両側に空白を許す）を含まない文字列は零。
`A/H` のあとに数字でない文字が続く（または何も続かない）欄は、`Atoi` が読める値なら
`⟨int32 A, int32 H⟩` であり、`int32` に収まる値ならそのまま `⟨A, H⟩` である。 -/
theorem Courses_Attendance_contract :
    (∀ c, isNAValue c = true → Courses.Attendance c = ⟨0, 0⟩) ∧
    (∀ c : String, (¬∃ A ws₁ ws₂ H, Digits A ∧ Digits H ∧ (∀ ch ∈ ws₁ ++ ws₂, Regexp.space ch = true) ∧
        A ++ ws₁ ++ '/' :: ws₂ ++ H <:+: c.data) → Courses.Attendance c = ⟨0, 0⟩) ∧
    (∀ A ws₁ ws₂ H T, Digits A → Digits H → (∀ ch ∈ ws₁ ++ ws₂, Regexp.space ch = true) →
        (∀ ch ∈ T.head?, ch.isDigit = false) → decimalValue A < 2 ^ 63 → decimalValue H < 2 ^ 63 →
        Courses.Attendance (String.mk (A ++ ws₁ ++ '/' :: ws₂ ++ H ++ T)) =
          ⟨int32 (decimalValue A), int32 (decimalValue H)⟩) ∧
    (∀ A ws₁ ws₂ H T, Digits A → Digits H → (∀ ch ∈ ws₁ ++ ws₂, Regexp.space ch = true) →
        (∀ ch ∈ T.head?, ch.isDigit = false) → decimalValue A < 2 ^ 31 → decimalValue H < 2 ^ 31 →
        Courses.Attendance (String.mk (A ++ ws₁ ++ '/' :: ws₂ ++ H ++ T)) = ⟨decimalValue A, decimalValue H⟩) := by
  refine ⟨fun c hc => ?_, fun c => Attendance_of_no_pair, fun A ws₁ ws₂ H T hA hH hws hT hA63 hH63 =>
    Attendance_of_pair hA hH hws hT hA63 hH63, fun A ws₁ ws₂ H T hA hH hws hT hA31 hH31 => ?_⟩
  · simp [Courses.Attendance, hc]
  · rw [Attendance_of_pair hA hH hws hT (by omega) (by omega), int32_of_lt (by omega) (by omega),
      int32_of_lt (by omega) (by omega)]

/-- `2147483648/1` は `Atoi` で読めるが、`int32` への変換で出席の数が負になる。 -/
theorem Courses_Attendance_contract_of_int32_overflow :
    Courses.Attendance "2147483648/1" = ⟨-2147483648, 1⟩ :=
  (Courses_Attendance_contract.2.2.1 "2147483648".data [] [] ['1'] [] (by decide) (by decide) (by decide)
    (by decide) (by decide) (by decide)).trans (by decide)

/-! ## 内部評価の欄 -/

/-- 内部評価の欄：値のない印か、印の語を大文字と小文字を問わずに含む欄は零。`H[B]/M` は `⟨M, H⟩`。
`H/M`（`/` の前後に空白を許す、`T` は数字でも `.` でも始まらない）と `H [M]` は、あとに続く `T` が印の語を
含まず、欄に新しい書式の一致がなければ `⟨M, H⟩` である。`T` が `[` を含まなければ、新しい書式の一致は
ない（`H [M]` では `[` の前に空白があるとき）。 -/
theorem Courses_InternalMarks_contract (ParseFloat : String → Option UInt32) :
    (∀ c : String, (isNAValue c = true ∨ ∃ w ∈ ["NOT PUBLISHED", "NOT AVAILABLE", "NOT APPLICABLE", "VIEW"],
        ∃ v, v <:+: c.data ∧ v.map unicodeToUpper = w.data) → Courses.InternalMarks ParseFloat c = ⟨0, 0⟩) ∧
    (∀ H B M h mx, Decimal H → Decimal M → B ≠ [] → (∀ ch ∈ B, ch.isDigit = true ∨ ch = '.' ∨ ch = '+') →
        ParseFloat (String.mk H) = some h → ParseFloat (String.mk M) = some mx →
        Courses.InternalMarks ParseFloat (String.mk (H ++ '[' :: B ++ ']' :: '/' :: M)) = ⟨mx, h⟩) ∧
    (∀ H M ws₁ ws₂ T h mx, Decimal H → Decimal M → (∀ ch ∈ ws₁ ++ ws₂, Regexp.space ch = true) →
        (¬∃ w ∈ ["NOT PUBLISHED", "NOT AVAILABLE", "NOT APPLICABLE", "VIEW"],
          ∃ v, v <:+: T ∧ v.map unicodeToUpper = w.data) →
        ParseFloat (String.mk H) = some h → ParseFloat (String.mk M) = some mx →
        ((∀ ch ∈ T.head?, ch.isDigit = false ∧ ch ≠ '.') →
          newFormatPattern.FindStringSubmatch 2 (String.mk (H ++ ws₁ ++ '/' :: ws₂ ++ M ++ T)) = [] →
          Courses.InternalMarks ParseFloat (String.mk (H ++ ws₁ ++ '/' :: ws₂ ++ M ++ T)) = ⟨mx, h⟩) ∧
        (newFormatPattern.FindStringSubmatch 2 (String.mk (H ++ ws₁ ++ '[' :: ws₂ ++ M ++ ']' :: T)) = [] →
          Courses.InternalMarks ParseFloat (String.mk (H ++ ws₁ ++ '[' :: ws₂ ++ M ++ ']' :: T)) = ⟨mx, h⟩) ∧
        ('[' ∉ T → newFormatPattern.FindStringSubmatch 2 (String.mk (H ++ ws₁ ++ '/' :: ws₂ ++ M ++ T)) = [] ∧
          (ws₁ ≠ [] →
            newFormatPattern.FindStringSubmatch 2 (String.mk (H ++ ws₁ ++ '[' :: ws₂ ++ M ++ ']' :: T)) = []))) := by
  refine ⟨fun c hc => InternalMarks_of_nonNumeric ParseFloat (hc.imp_right isNonNumericValue_iff_infix.2),
    fun H B M h mx hH hM hB hBs hPH hPM => ?_, fun H M ws₁ ws₂ T h mx hH hM hws hTn hPH hPM => ?_⟩
  · have hBs' : ∀ ch ∈ B, breakdownChar ch = true := fun ch hch => by
      rcases hBs ch hch with hd | rfl | rfl <;> simp [breakdownChar, *]
    rw [InternalMarks_newFormat ParseFloat hH hB hBs' hM]
    simp [pairMarks, hPH, hPM]
  obtain ⟨hws₁, hws₂⟩ := List.forall_mem_append.1 hws
  have hTn' : isNonNumericValue (String.mk T) = false := Bool.eq_false_iff.2 (mt isNonNumericValue_iff_infix.1 hTn)
  refine ⟨fun hT hnew => ?_, fun hnew => ?_, fun hTb => ⟨newFormatPattern_slash_of_not_mem hH hws₁ hws₂ hM hTb,
    fun hne => newFormatPattern_bracket_of_not_mem hH hws₁ hne hws₂ hM hTb⟩⟩
  · rw [InternalMarks_slash ParseFloat hH hws₁ hws₂ hM hT hnew hTn']
    simp [pairMarks, hPH, hPM]
  · rw [InternalMarks_bracket ParseFloat hH hws₁ hws₂ hM hnew hTn']
    simp [pairMarks, hPH, hPM]

/-- 記録の試験の `50[49+1.00]/49` は `⟨49, 50⟩` を読み、`15/20 [x` は、`[` を含んでも新しい書式の一致が
ないので `⟨20, 15⟩` を読む（`ParseFloat` は、ここに現れる数を `float32` の綴りにする）。 -/
theorem Courses_InternalMarks_contract_of_bonus_and_trailing_bracket :
    let ParseFloat : String → Option UInt32 := fun s =>
      if s = "50" then some 0x42480000 else if s = "49" then some 0x42440000
      else if s = "15" then some 0x41700000 else if s = "20" then some 0x41A00000 else none
    Courses.InternalMarks ParseFloat "50[49+1.00]/49" = ⟨0x42440000, 0x42480000⟩ ∧
      Courses.InternalMarks ParseFloat "15/20 [x" = ⟨0x41A00000, 0x41700000⟩ :=
  ⟨(Courses_InternalMarks_contract _).2.1 "50".data "49+1.00".data "49".data _ _ ⟨"50".data, by decide, .inl rfl⟩
    ⟨"49".data, by decide, .inl rfl⟩ (by decide) (by decide) rfl rfl,
   ((Courses_InternalMarks_contract _).2.2 "15".data "20".data [] [] " [x".data _ _ ⟨"15".data, by decide, .inl rfl⟩
    ⟨"20".data, by decide, .inl rfl⟩ (by decide) (mt isNonNumericValue_iff_infix.2 (by decide))
    rfl rfl).1 (by decide) (by decide)⟩

/-- `15/20` のあとの文字列が印の語を含めば欄は零になり、新しい書式の部分を含めば、そちらの数が読まれる
（`ParseFloat` は、ここに現れる数を `float32` の綴りにする）。 -/
theorem Courses_InternalMarks_trailing_text :
    let ParseFloat : String → Option UInt32 := fun s =>
      if s = "15" then some 0x41700000 else if s = "20" then some 0x41A00000
      else if s = "1" then some 0x3F800000 else if s = "3" then some 0x40400000 else none
    Courses.InternalMarks ParseFloat "15/20 (View)" = ⟨0, 0⟩ ∧
      Courses.InternalMarks ParseFloat "15/20 (1[2]/3)" = ⟨0x40400000, 0x3F800000⟩ :=
  ⟨InternalMarks_of_nonNumeric _ (.inr (by decide)),
    (InternalMarks_of_newFormat _ (m := ["1[2]/3", "1", "3"]) (by decide) (by decide) (by decide) (by decide)).trans
      (by decide)⟩

end Amizone.Parse
