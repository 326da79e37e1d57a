import Mathlib.Data.Int.Log
import Worksheet.Proofs.Decimal.Rounding

/-!
The intervals of the doubles, side by side.

Every number above half the least double lies in the interval of some significand and exponent
(`exists_roundsTo`), and no double is nearer to the number than that one (`RoundsTo.abs_sub_le`).
The exponents of the finite doubles end where the numbers reach half way from the greatest finite
double to the next power of two (`RoundsTo.lt_overflowBound`, `RoundsTo.overflowBound_le`).
-/

set_option autoImplicit false
set_option relaxedAutoImplicit false

namespace Worksheet.Decimal

/-! ### A significand and an exponent for every number -/

/-- The nearest whole number; of two that are equally near, the even one. -/
structure IsNearest (r : ℚ) (n : Nat) : Prop where
  low : n ≤ r + 1 / 2
  high : r ≤ n + 1 / 2
  tie : ¬ Even n → n < r + 1 / 2 ∧ r < n + 1 / 2

theorem exists_isNearest {r : ℚ} (hr : 0 ≤ r) : ∃ n, IsNearest r n := by
  have hlow := Nat.floor_le hr
  have hhigh := Nat.lt_floor_add_one r
  rcases lt_trichotomy r (⌊r⌋₊ + 1 / 2) with hlt | heq | hgt
  · exact ⟨⌊r⌋₊, by linarith, hlt.le, fun _ ↦ ⟨by linarith, hlt⟩⟩
  · rcases Nat.even_or_odd ⌊r⌋₊ with heven | hodd
    · exact ⟨⌊r⌋₊, by linarith, heq.le, fun hodd ↦ absurd heven hodd⟩
    · refine ⟨⌊r⌋₊ + 1, ?_, ?_, fun hneven ↦ absurd hodd.add_one hneven⟩ <;> push_cast <;> linarith
  · refine ⟨⌊r⌋₊ + 1, ?_, ?_, fun _ ↦ ⟨?_, ?_⟩⟩ <;> push_cast <;> linarith

/-- The exponent of a positive number: the least one, or the one that gives it 53 digits. -/
theorem exists_roundedAt {q : ℚ} (hq : 0 < q) : ∃ t, RoundedAt q t := by
  have hlow := Int.zpow_log_le_self one_lt_two hq
  have hhigh := Int.lt_zpow_succ_log_self one_lt_two q
  push_cast at hlow hhigh
  refine ⟨max (Int.log 2 q - 52) (-1074), le_max_right _ _, hhigh.trans_le ?_, fun hlt ↦ ?_⟩
  · exact zpow_le_zpow_right₀ one_le_two (by omega)
  · rwa [show max (Int.log 2 q - 52) (-1074) + 52 = Int.log 2 q by omega]

theorem RoundsTo.of_div {m : Nat} {e : Int} {q : ℚ} (hlow : m - quartersBelow m e / 4 ≤ q / 2 ^ e)
    (hhigh : q / 2 ^ e ≤ m + 1 / 2)
    (htie : ¬ Even m → m - quartersBelow m e / 4 < q / 2 ^ e ∧ q / 2 ^ e < m + 1 / 2) :
    RoundsTo m e q where
  low := (le_div_iff₀ (by positivity)).mp hlow
  high := (div_le_iff₀ (by positivity)).mp hhigh
  tie hodd := ⟨(lt_div_iff₀ (by positivity)).mp (htie hodd).1,
    (div_lt_iff₀ (by positivity)).mp (htie hodd).2⟩

namespace RoundedAt

variable {q : ℚ} {t : Int}

theorem div_lt (h : RoundedAt q t) : q / 2 ^ t < 2 ^ 53 := by
  rw [div_lt_iff₀ (by positivity), ← zpow_natCast (2 : ℚ) 53, ← zpow_add₀ two_ne_zero, add_comm]
  exact h.lt

theorem le_div (h : RoundedAt q t) (ht : -1074 < t) : 2 ^ 52 ≤ q / 2 ^ t := by
  rw [le_div_iff₀ (by positivity), ← zpow_natCast (2 : ℚ) 52, ← zpow_add₀ two_ne_zero, add_comm]
  exact h.le ht

theorem half_lt_div (h : RoundedAt q t) (hq : 2 ^ (-1075 : Int) < q) : 1 / 2 < q / 2 ^ t := by
  rcases h.least_le.eq_or_lt with ht | ht
  · rw [lt_div_iff₀ (by positivity), one_div, ← zpow_neg_one, ← zpow_add₀ two_ne_zero, ← ht]
    exact hq
  · exact lt_of_lt_of_le (by norm_num) (h.le_div ht)

variable {n : Nat}

/-- Unless it is `2 ^ 53`, the nearest whole number is a significand. -/
theorem canonical (h : RoundedAt q t) (hq : 2 ^ (-1075 : Int) < q) (hn : IsNearest (q / 2 ^ t) n)
    (hlt : n < 2 ^ 53) : Canonical n t where
  pos := by
    have hhalf := h.half_lt_div hq
    have hhigh := hn.high
    have hpos : (0 : ℚ) < n := by linarith
    exact_mod_cast hpos
  lt := hlt
  le_exponent := h.least_le
  leading := by
    rcases h.least_le.eq_or_lt with ht | ht
    · exact Or.inr ht.symm
    · have hfull := h.le_div ht
      have hhigh := hn.high
      have hless : (2 : ℚ) ^ 52 < n + 1 := by linarith
      exact Or.inl (Nat.le_of_lt_succ (by exact_mod_cast hless))

theorem roundsTo (h : RoundedAt q t) (hn : IsNearest (q / 2 ^ t) n) : RoundsTo n t q := by
  by_cases hedge : n = 2 ^ 52 ∧ -1074 < t
  · obtain ⟨rfl, ht⟩ := hedge
    have hfull := h.le_div ht
    refine RoundsTo.of_div ?_ hn.high fun hodd ↦ absurd ⟨2 ^ 51, by norm_num⟩ hodd
    rw [quartersBelow_eq_one rfl ht]
    push_cast
    linarith
  · have hquarters : (n : ℚ) - quartersBelow n t / 4 = n - 1 / 2 := by
      rw [quartersBelow_eq_two hedge]
      norm_num
    refine RoundsTo.of_div ?_ hn.high fun hodd ↦ ⟨?_, (hn.tie hodd).2⟩ <;> rw [hquarters]
    · exact sub_le_iff_le_add.mpr hn.low
    · exact sub_lt_iff_lt_add.mpr (hn.tie hodd).1

/-- When rounding carries, the number is next below a power of two. -/
theorem roundsTo_carry (h : RoundedAt q t) (hn : IsNearest (q / 2 ^ t) (2 ^ 53)) :
    RoundsTo (2 ^ 52) (t + 1) q := by
  have hhalved : q / 2 ^ (t + 1) = q / 2 ^ t / 2 := by
    rw [zpow_add_one₀ two_ne_zero, div_mul_eq_div_div]
  have hleast := h.least_le
  have hwide := h.div_lt
  have hlow := hn.low
  push_cast at hlow
  refine RoundsTo.of_div ?_ ?_ fun hodd ↦ absurd ⟨2 ^ 51, by norm_num⟩ hodd <;> rw [hhalved]
  · rw [quartersBelow_eq_one rfl (by omega)]
    push_cast
    linarith
  · push_cast
    linarith

end RoundedAt

/-- Every number above half the least double rounds to some significand and exponent. -/
theorem exists_roundsTo {q : ℚ} (hq : 2 ^ (-1075 : Int) < q) :
    ∃ m e, Canonical m e ∧ RoundsTo m e q := by
  have hqpos : 0 < q := (by positivity : (0 : ℚ) < 2 ^ (-1075 : Int)).trans hq
  obtain ⟨t, ht⟩ := exists_roundedAt hqpos
  obtain ⟨n, hn⟩ := exists_isNearest (r := q / 2 ^ t) (by positivity)
  rcases Nat.lt_or_ge n (2 ^ 53) with hlt | hcarry
  · exact ⟨n, t, ht.canonical hq hn hlt, ht.roundsTo hn⟩
  · have hleast := ht.least_le
    have hwide := ht.div_lt
    have hlow := hn.low
    have hless : (n : ℚ) < 2 ^ 53 + 1 := by linarith
    have hless' : n < 2 ^ 53 + 1 := by exact_mod_cast hless
    obtain rfl : n = 2 ^ 53 := by omega
    exact ⟨2 ^ 52, t + 1, ⟨by norm_num, by norm_num, by omega, Or.inl le_rfl⟩, ht.roundsTo_carry hn⟩

/-! ### Neighbours -/

theorem two_zpow_pred (e : Int) : (2 : ℚ) ^ (e - 1) = 1 / 2 * 2 ^ e := by
  rw [zpow_sub_one₀ two_ne_zero, mul_comm, one_div]

section

variable {m m' : Nat} {e e' : Int}

/-- At a greater exponent all magnitudes are multiples of the last place. -/
theorem exists_multiple (m' : Nat) (h : e ≤ e') : ∃ j : Nat, (m' : ℚ) * 2 ^ e' = j * 2 ^ e := by
  refine ⟨m' * 2 ^ (e' - e).toNat, ?_⟩
  push_cast
  rw [mul_assoc, ← zpow_natCast (2 : ℚ), ← zpow_add₀ two_ne_zero, Int.toNat_of_nonneg (by omega),
    sub_add_cancel]

/-- At a smaller exponent all magnitudes are below the full significands. -/
theorem mul_zpow_le_of_lt (hlt' : m' < 2 ^ 53) (h : e' < e) :
    (m' : ℚ) * 2 ^ e' ≤ (2 ^ 52 - 1 / 2) * 2 ^ e := by
  have hm : (m' : ℚ) ≤ 2 ^ 53 - 1 := by
    have : (m' : ℚ) + 1 ≤ 2 ^ 53 := by exact_mod_cast hlt'
    linarith
  calc (m' : ℚ) * 2 ^ e' ≤ (2 ^ 53 - 1) * 2 ^ (e - 1) :=
        mul_le_mul hm (zpow_le_zpow_right₀ one_le_two (by omega)) (by positivity) (by norm_num)
    _ = (2 ^ 52 - 1 / 2) * 2 ^ e := by
        rw [two_zpow_pred]
        ring

/-- The next double above is one place away. -/
theorem Canonical.next_le (h : Canonical m e) (hlt' : m' < 2 ^ 53) (hleast : -1074 ≤ e')
    (hless : (m : ℚ) * 2 ^ e < m' * 2 ^ e') : (m + 1 : ℚ) * 2 ^ e ≤ m' * 2 ^ e' := by
  have hpos : (0 : ℚ) < 2 ^ e := by positivity
  rcases le_or_gt e e' with hle | hlt
  · obtain ⟨j, hj⟩ := exists_multiple m' hle
    rw [hj] at hless ⊢
    have hmj : m < j := by exact_mod_cast lt_of_mul_lt_mul_right hless hpos.le
    exact mul_le_mul_of_nonneg_right (by exact_mod_cast hmj) hpos.le
  · have hleading : (2 : ℚ) ^ 52 ≤ m := by
      exact_mod_cast h.leading.resolve_right (by omega)
    have hbelow := hless.trans_le (mul_zpow_le_of_lt hlt' hlt)
    have := lt_of_mul_lt_mul_right hbelow hpos.le
    linarith

/-- The next double below is one place away, or half a place below a power of two. -/
theorem Canonical.le_previous (h : Canonical m e) (hlt' : m' < 2 ^ 53) (hleast : -1074 ≤ e')
    (hless : (m' : ℚ) * 2 ^ e' < m * 2 ^ e) :
    (m' : ℚ) * 2 ^ e' ≤ (m - quartersBelow m e / 2) * 2 ^ e := by
  have hpos : (0 : ℚ) < 2 ^ e := by positivity
  have hquarters := quartersBelow_le m e
  rcases le_or_gt e e' with hle | hlt
  · obtain ⟨j, hj⟩ := exists_multiple m' hle
    rw [hj] at hless ⊢
    have hjm : j < m := by exact_mod_cast lt_of_mul_lt_mul_right hless hpos.le
    have : (j : ℚ) + 1 ≤ m := by exact_mod_cast hjm
    exact mul_le_mul_of_nonneg_right (by linarith) hpos.le
  · refine (mul_zpow_le_of_lt hlt' hlt).trans (mul_le_mul_of_nonneg_right ?_ hpos.le)
    rcases (h.leading.resolve_right (by omega)).eq_or_lt with heq | hgt
    · rw [quartersBelow_eq_one heq.symm (by omega), ← heq]
      norm_num
    · have : (2 : ℚ) ^ 52 + 1 ≤ m := by exact_mod_cast hgt
      linarith

/-- No double is nearer to a number than the one whose interval the number is in. -/
theorem RoundsTo.abs_sub_le {q : ℚ} (h : RoundsTo m e q) (hcanonical : Canonical m e)
    (hlt' : m' < 2 ^ 53) (hleast : -1074 ≤ e') : |q - m * 2 ^ e| ≤ |q - m' * 2 ^ e'| := by
  have hlow := h.low
  have hhigh := h.high
  rcases lt_trichotomy ((m : ℚ) * 2 ^ e) (m' * 2 ^ e') with hless | heq | hgreater
  · have hnext := hcanonical.next_le hlt' hleast hless
    refine le_trans (abs_le.mpr ⟨?_, ?_⟩) (neg_le_abs _) <;> linarith
  · rw [heq]
  · have hprevious := hcanonical.le_previous hlt' hleast hgreater
    refine le_trans (abs_le.mpr ⟨?_, ?_⟩) (le_abs_self _) <;> linarith

end

/-! ### The ends of the finite doubles -/

/-- Half way between the greatest finite double and the next power of two. -/
def overflowBound : ℚ := (2 ^ 53 - 1 / 2) * 2 ^ (971 : Int)

theorem small_lt_overflowBound : 2 ^ (-1075 : Int) < overflowBound := by
  have hlow : (2 : ℚ) ^ (-1075 : Int) ≤ 1 := zpow_le_one_of_nonpos₀ one_le_two (by omega)
  have hhigh : (1 : ℚ) ≤ 2 ^ (971 : Int) := one_le_zpow₀ one_le_two (by omega)
  refine hlow.trans_lt (lt_of_lt_of_le ?_ (mul_le_mul_of_nonneg_left hhigh (by norm_num)))
  norm_num

namespace RoundsTo

variable {m : Nat} {e : Int} {q : ℚ}

/-- The intervals of the finite doubles lie above half the least double. -/
theorem small_lt (h : RoundsTo m e q) (hcanonical : Canonical m e) : 2 ^ (-1075 : Int) < q := by
  have hpos : (0 : ℚ) < 2 ^ e := by positivity
  have hleast : (2 : ℚ) ^ (-1075 : Int) ≤ 1 / 2 * 2 ^ e := by
    rw [← two_zpow_pred]
    exact zpow_le_zpow_right₀ one_le_two (by have := hcanonical.le_exponent; omega)
  rcases Nat.lt_or_ge 1 m with hlarge | hone
  · have hm : (2 : ℚ) ≤ m := by exact_mod_cast hlarge
    have hless : 1 / 2 * 2 ^ e < (m - 1 / 2 : ℚ) * 2 ^ e :=
      mul_lt_mul_of_pos_right (by linarith) hpos
    exact hleast.trans_lt (hless.trans_le h.half_low)
  · obtain rfl : m = 1 := le_antisymm hone hcanonical.pos
    have hlow := (h.tie (by decide)).1
    rw [quartersBelow_eq_two (by norm_num)] at hlow
    refine hleast.trans_lt (lt_of_eq_of_lt ?_ hlow)
    norm_num

theorem lt_overflowBound (h : RoundsTo m e q) (hcanonical : Canonical m e) (he : e ≤ 971) :
    q < overflowBound := by
  have hpos : (0 : ℚ) < 2 ^ e := by positivity
  have hgreatest : (2 ^ 53 - 1 / 2 : ℚ) * 2 ^ e ≤ overflowBound :=
    mul_le_mul_of_nonneg_left (zpow_le_zpow_right₀ one_le_two he) (by norm_num)
  rcases Nat.lt_or_ge m (2 ^ 53 - 1) with hless | hgreater
  · have hm : (m : ℚ) + 1 ≤ 2 ^ 53 - 1 := by
      have : m + 1 + 1 ≤ 2 ^ 53 := by omega
      have : (m : ℚ) + 1 + 1 ≤ 2 ^ 53 := by exact_mod_cast this
      linarith
    refine h.high.trans_lt (lt_of_lt_of_le (mul_lt_mul_of_pos_right ?_ hpos) hgreatest)
    linarith
  · obtain rfl : m = 2 ^ 53 - 1 := by
      have := hcanonical.lt
      omega
    have hhigh := (h.tie (by decide)).2
    refine hhigh.trans_le (le_of_eq_of_le ?_ hgreatest)
    norm_num

theorem overflowBound_le (h : RoundsTo m e q) (hcanonical : Canonical m e) (he : 971 < e) :
    overflowBound ≤ q := by
  have hleading : 2 ^ 52 ≤ m := hcanonical.leading.resolve_right (by omega)
  have hbound : overflowBound = (2 ^ 52 - 1 / 4) * 2 ^ (972 : Int) := by
    have hdouble : (2 : ℚ) ^ (972 : Int) = 2 ^ (971 : Int) * 2 := zpow_add_one₀ two_ne_zero 971
    rw [overflowBound, hdouble]
    ring
  have hquarters : (2 ^ 52 - 1 / 4 : ℚ) ≤ m - quartersBelow m e / 4 := by
    rcases hleading.eq_or_lt with heq | hlt
    · rw [quartersBelow_eq_one heq.symm (by omega), ← heq]
      norm_num
    · have hm : (2 : ℚ) ^ 52 + 1 ≤ m := by exact_mod_cast hlt
      have := quartersBelow_le m e
      linarith
  rw [hbound]
  refine le_trans (mul_le_mul hquarters ?_ (by positivity) ?_) h.low
  · exact zpow_le_zpow_right₀ one_le_two he
  · refine le_trans ?_ hquarters
    norm_num

end RoundsTo

end Worksheet.Decimal
