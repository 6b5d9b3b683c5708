import Mathlib.Data.List.Rotate
import Amizone.TLSClient.Profile

/-!
# 順に回す選び方の性質

数えに触れるのは順に回す選び方の呼び出しだけで、一つずつ進める。数えが折り返さない間は、どの呼び出しの
列でも、順に回す呼び出しは、それより前の順に回す呼び出しの数だけ進んだ位置の指紋を選ぶ。同じ並びで
呼び続ければ、並びを順に一巡する。
-/

namespace Amizone.TLSClient

/-- 選ぶ並び：`CustomProfiles` が空なら `DefaultProfiles`。 -/
def ClientOptions.profileList (opts : ClientOptions) : List String :=
  if opts.CustomProfiles.length = 0 then DefaultProfiles else opts.CustomProfiles

/-- 順に回す呼び出しの数。 -/
def seqCount (calls : List (ClientOptions × Nat)) : Nat :=
  calls.countP fun call => call.1.ProfileRotationMode = ProfileRotationSequential

variable {opts : ClientOptions} {r : Nat} {c : Int}

theorem ClientOptions.profileList_length_pos (opts : ClientOptions) : 0 < opts.profileList.length := by
  unfold ClientOptions.profileList; split <;> simp_all [DefaultProfiles, Nat.pos_iff_ne_zero]

theorem goInt_of_lt {x : Int} (h0 : 0 ≤ x) (h1 : x < 2 ^ 63) : goInt x = x := by
  unfold goInt; omega

theorem index_natCast (profileList : List String) (k : Nat) : index profileList k = profileList[k]? := by
  simp only [index, if_pos (Int.natCast_nonneg k), Int.toNat_natCast]

theorem tmod_natCast (c n : Nat) : (c : Int).tmod n = ((c % n : Nat) : Int) := by
  rw [Int.tmod_eq_emod (Int.natCast_nonneg c) (Int.natCast_nonneg n), Int.natCast_mod]

/-- 順に回す呼び出しは、数えを並びの長さで割った余りの位置を選び、数えを一つ進める。 -/
theorem selectProfile_sequential (h : opts.ProfileRotationMode = ProfileRotationSequential) :
    selectProfile opts r c = (index opts.profileList (c.tmod opts.profileList.length), goInt (c + 1)) := by
  simp [selectProfile, h, ClientOptions.profileList, ProfileRotationOff, ProfileRotationRandom,
    ProfileRotationSequential]

/-- ほかの選び方の呼び出しは数えに触れない。 -/
theorem selectProfile_counter (h : opts.ProfileRotationMode ≠ ProfileRotationSequential) :
    (selectProfile opts r c).2 = c := by
  unfold selectProfile; split_ifs <;> simp_all

/-- 数えが折り返さない間、順に回す呼び出しは、それより前の順に回す呼び出しの数だけ進んだ位置の指紋を
選ぶ。ほかの選び方の呼び出しが間に入っても変わらない。 -/
theorem selectAll_sequential_at {c : Nat} (pre post : List (ClientOptions × Nat))
    (hs : opts.ProfileRotationMode = ProfileRotationSequential) (hb : c + seqCount pre < 2 ^ 63) :
    (selectAll c (pre ++ (opts, r) :: post)).1[pre.length]? =
      some opts.profileList[(c + seqCount pre) % opts.profileList.length]? := by
  induction pre generalizing c with
  | nil =>
      simp only [seqCount, List.countP_nil, Nat.add_zero, List.nil_append, selectAll, selectProfile_sequential hs,
        List.length_nil, List.getElem?_cons_zero, tmod_natCast, index_natCast]
  | cons call pre ih =>
      obtain ⟨o, d⟩ := call
      simp only [List.cons_append, selectAll, List.length_cons, List.getElem?_cons_succ]
      by_cases ho : o.ProfileRotationMode = ProfileRotationSequential
      · have hcount : seqCount ((o, d) :: pre) = seqCount pre + 1 := by simp [seqCount, ho]
        rw [hcount] at hb ⊢
        rw [selectProfile_sequential ho, goInt_of_lt (by omega) (by omega)]
        simpa [Nat.add_assoc, Nat.add_comm 1] using ih (c := c + 1) (by omega)
      · have hcount : seqCount ((o, d) :: pre) = seqCount pre := by simp [seqCount, ho]
        rw [hcount] at hb ⊢
        rw [selectProfile_counter ho]
        exact ih hb

/-- `TestProfileRotation` の順に回す場合：四度目は一度目に戻る。 -/
example : (selectAll 0 (List.replicate 4 (⟨ProfileRotationSequential, ["Chrome_144", "Firefox_147", "Chrome_146"]⟩, 0))).1 =
    [some "Chrome_144", some "Firefox_147", some "Chrome_146", some "Chrome_144"] := by
  decide

theorem selectAll_length (c : Int) (calls : List (ClientOptions × Nat)) :
    (selectAll c calls).1.length = calls.length := by
  induction calls generalizing c with
  | nil => rfl
  | cons call calls ih => simp [selectAll, ih]

/-- 同じ並びで続けて呼べば、並びを数えの位置から一巡する。 -/
theorem selectAll_replicate {c : Nat} (hs : opts.ProfileRotationMode = ProfileRotationSequential)
    (hb : c + opts.profileList.length < 2 ^ 63) :
    (selectAll c (List.replicate opts.profileList.length (opts, r))).1 = (opts.profileList.rotate c).map some := by
  apply List.ext_getElem?
  intro k
  rcases Nat.lt_or_ge k opts.profileList.length with hk | hk
  · have hsplit : List.replicate opts.profileList.length (opts, r) =
        List.replicate k (opts, r) ++ (opts, r) :: List.replicate (opts.profileList.length - k - 1) (opts, r) := by
      rw [← List.replicate_succ, List.append_replicate_replicate]; congr 1; omega
    have hcount : seqCount (List.replicate k (opts, r)) = k := by simp [seqCount, List.countP_replicate, hs]
    have hat := selectAll_sequential_at (c := c) (r := r) (List.replicate k (opts, r))
      (List.replicate (opts.profileList.length - k - 1) (opts, r)) hs (by rw [hcount]; omega)
    rw [List.length_replicate, hcount] at hat
    rw [hsplit, hat, List.getElem?_map, List.getElem?_rotate hk, Nat.add_comm k c,
      List.getElem?_eq_getElem (Nat.mod_lt _ opts.profileList_length_pos)]
    rfl
  · rw [List.getElem?_eq_none (by simp [selectAll_length, hk]), List.getElem?_eq_none (by simp [hk])]

/-! ## 順に回す選び方 -/

/-- 数えが折り返さない間、どの呼び出しの列でも、順に回す呼び出しは、それより前の順に回す呼び出しの数だけ
数えから進んだ位置の指紋を選ぶ。ほかの選び方の呼び出しは、間に入っても数えを動かさない。同じ並びで並びの
長さだけ続けて呼べば、並びを数えの位置から回したものが返り、どの指紋もちょうど一度選ばれる。 -/
theorem sequential_rotation {c : Nat} (hs : opts.ProfileRotationMode = ProfileRotationSequential) :
    (∀ pre post, c + seqCount pre < 2 ^ 63 →
      (selectAll c (pre ++ (opts, r) :: post)).1[pre.length]? =
        some opts.profileList[(c + seqCount pre) % opts.profileList.length]?) ∧
    (c + opts.profileList.length < 2 ^ 63 →
      (selectAll c (List.replicate opts.profileList.length (opts, r))).1 = (opts.profileList.rotate c).map some) :=
  ⟨fun pre post hb => selectAll_sequential_at pre post hs hb, selectAll_replicate hs⟩

/-- 既定の七つの指紋を、数え 0 から順に回す。 -/
theorem sequential_rotation_of_default_profiles :
    let opts : ClientOptions := ⟨ProfileRotationSequential, []⟩
    opts.ProfileRotationMode = ProfileRotationSequential ∧
    (∀ pre post, 0 + seqCount pre < 2 ^ 63 →
      (selectAll (0 : Nat) (pre ++ (opts, 0) :: post)).1[pre.length]? =
        some opts.profileList[(0 + seqCount pre) % opts.profileList.length]?) ∧
    (0 + opts.profileList.length < 2 ^ 63 →
      (selectAll (0 : Nat) (List.replicate opts.profileList.length (opts, 0))).1 =
        (opts.profileList.rotate 0).map some) :=
  ⟨rfl, sequential_rotation rfl⟩

end Amizone.TLSClient
