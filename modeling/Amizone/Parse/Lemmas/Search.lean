import Amizone.Parse.LoginForm

/-!
# 文字列の探索の補題

手で書いた `findSubstring` は、どの文字列についても `strings.Index` と同じ位置を返す。どちらも
`substr` で始まる最初の位置を `0` から `len(s)` までの中から探す。そこから、`script` 要素を順に
見る鍵の走査を、最初に鍵を与える要素を探すことに書き直す。
-/

namespace Amizone.Parse

/-- 先頭に一文字を足した文字列の中の最初の位置：先頭で始まれば 0、そうでなければ残りの位置の一つ後。 -/
theorem find?_isPrefixOf_cons (substr l : List Char) (c : Char) :
    (List.range ((c :: l).length + 1)).find? (fun k => substr.isPrefixOf ((c :: l).drop k)) =
      if substr.isPrefixOf (c :: l) then some 0
      else ((List.range (l.length + 1)).find? (fun k => substr.isPrefixOf (l.drop k))).map Nat.succ := by
  rw [List.length_cons, List.range_succ_eq_map, List.find?_cons, List.find?_map]
  split
  · simp_all
  · simp_all only [List.drop_zero, Bool.false_eq_true, if_false]; rfl

/-- 位置 `i` から数えた繰り返しは、残りの中で `substr` で始まる最初の位置を `i` だけずらしたもの。 -/
theorem findSubstringFrom_eq (substr l : List Char) (i : Nat) :
    findSubstringFrom substr l i =
      match (List.range (l.length + 1)).find? (fun k => substr.isPrefixOf (l.drop k)) with
      | some k => ((i + k : Nat) : Int)
      | none => -1 := by
  induction l generalizing i with
  | nil => cases substr <;> rfl
  | cons c l ih =>
      rw [findSubstringFrom, find?_isPrefixOf_cons]
      split
      · rfl
      · rw [ih]
        cases (List.range (l.length + 1)).find? (fun k => substr.isPrefixOf (l.drop k)) with
        | none => rfl
        | some k => simp only [Option.map_some']; congr 1; omega

/-- `findSubstring` は `strings.Index` と同じ位置を返す。 -/
theorem findSubstring_eq_stringsIndex (s substr : String) : findSubstring s substr = stringsIndex s substr := by
  rw [findSubstring, findSubstringFrom_eq, stringsIndex, String.length]
  cases (List.range (s.data.length + 1)).find? (fun k => substr.data.isPrefixOf (s.data.drop k)) <;> simp

theorem stringsIndex_le_length (s substr : String) : stringsIndex s substr ≤ s.length := by
  unfold stringsIndex
  split
  · rename_i k hk
    have := List.mem_range.1 (List.mem_of_find?_eq_some hk)
    omega
  · omega

/-! ## 鍵の走査 -/

/-- 参照の読み方で一つの `script` が与える鍵：`i = strings.Index(t, "sitekey: \"")` が 0 以上で、
`j = strings.Index(t[i+10:], "\"")` が正なら `t[i+10 : i+10+j]`。 -/
def siteKeyOfScript (t : String) : Option String :=
  let i := stringsIndex t sitekeyMarker
  if 0 ≤ i then
    let rest := t.data.drop (i.toNat + 10)
    let j := stringsIndex (String.mk rest) "\""
    if 0 < j then some (String.mk (rest.take j.toNat)) else none
  else none

/-- 参照の鍵：文書の順で、鍵を与える最初の `script` の鍵。なければ空。 -/
def turnstileSiteKeyRef (scripts : List String) : String := (scripts.findSome? siteKeyOfScript).getD ""

/-- 見つかった位置が正なら、その手前までの部分は空でない。 -/
theorem take_index_ne_empty {rest : List Char} {substr : String} (hj : 0 < stringsIndex (String.mk rest) substr) :
    String.mk (rest.take (stringsIndex (String.mk rest) substr).toNat) ≠ "" := by
  have hle : stringsIndex (String.mk rest) substr ≤ rest.length := stringsIndex_le_length _ _
  intro hk
  have hlen : (rest.take (stringsIndex (String.mk rest) substr).toNat).length = 0 := by
    simpa using congrArg String.length hk
  rw [List.length_take] at hlen
  omega

theorem siteKeyOfScript_ne_empty {t k : String} (h : siteKeyOfScript t = some k) : k ≠ "" := by
  unfold siteKeyOfScript at h
  dsimp only at h
  split_ifs at h with hi hj
  cases h
  exact take_index_ne_empty hj

/-- 鍵がすでにあれば、`script` は鍵を変えない。 -/
theorem scanSiteKey_of_ne {key : String} (t : String) (h : key ≠ "") : scanSiteKey key t = key := by
  simp [scanSiteKey, h]

/-- 鍵がまだなければ、`script` は参照の読み方の鍵を与える（与えなければ空のまま）。 -/
theorem scanSiteKey_empty (t : String) : scanSiteKey "" t = (siteKeyOfScript t).getD "" := by
  unfold scanSiteKey siteKeyOfScript
  simp only [findSubstring_eq_stringsIndex, beq_self_eq_true, Bool.true_and, decide_eq_true_eq,
    show sitekeyMarker.length = 10 from rfl]
  split
  · split_ifs <;> rfl
  · rename_i ht
    have : t = "" := String.ext (List.eq_nil_of_length_eq_zero (Nat.eq_zero_of_not_pos ht))
    subst this
    rfl

theorem foldl_scanSiteKey_of_ne {key : String} (h : key ≠ "") (scripts : List String) :
    scripts.foldl scanSiteKey key = key := by
  induction scripts with
  | nil => rfl
  | cons t ts ih => rw [List.foldl_cons, scanSiteKey_of_ne t h, ih]

/-- `script` 要素を順に見る走査は、鍵を与える最初の要素の鍵を取る。 -/
theorem foldl_scanSiteKey (scripts : List String) :
    scripts.foldl scanSiteKey "" = turnstileSiteKeyRef scripts := by
  induction scripts with
  | nil => rfl
  | cons t ts ih =>
      rw [List.foldl_cons, scanSiteKey_empty, turnstileSiteKeyRef, List.findSome?_cons]
      cases h : siteKeyOfScript t with
      | none => exact ih
      | some k => exact foldl_scanSiteKey_of_ne (siteKeyOfScript_ne_empty h) ts

end Amizone.Parse
