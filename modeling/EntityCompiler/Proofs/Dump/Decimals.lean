import EntityCompiler.Number.Shortest
import Mathlib.Algebra.Order.Field.Power
import Mathlib.Data.Rat.Cast.Order
import Mathlib.Tactic.Linarith
import Mathlib.Tactic.Ring
import Mathlib.Tactic.FieldSimp
import Mathlib.Tactic.NormNum
import Mathlib.Tactic.Positivity

/-!
# Shortest decimals and the doubles they stand for

The search for a shortest decimal always ends with one that reads back as the value: at seventeen
digits the grid of decimals is finer than the interval of the reals that round to the value, so one
of the two neighbours on it lies inside. The intervals of two values meet in at most one end, which
then belongs to only one of them. So no decimal reads back as two values.
-/

namespace EntityCompiler

/-- The number a decimal stands for. -/
def Decimal.value (d : Decimal) : ℚ :=
  d.digits * 10 ^ (d.point - d.count)

namespace FiniteDouble

/-- The lower end of the interval of a double, as a numerator over `denominator`. -/
def low (x : FiniteDouble) : Nat := x.interval.2.1

/-- The upper end of the interval of a double, as a numerator over `denominator`. -/
def high (x : FiniteDouble) : Nat := x.interval.2.2

/-- How far below the value the interval starts, in quarters of the last bit of the mantissa. -/
def reach (x : FiniteDouble) : Nat :=
  if x.mantissa = Nat.pow 2 52 ∧ x.scale ≠ 0 then 1 else 2

/-- A rational that lies in the interval of a double. The ends belong to it if the mantissa is
even. -/
structure Covers (x : FiniteDouble) (v : ℚ) : Prop where
  low_le : (x.low : ℚ) ≤ v * denominator
  le_high : v * denominator ≤ x.high
  inside_of_odd : x.mantissa % 2 = 1 → (x.low : ℚ) < v * denominator ∧ v * denominator < x.high

lemma denominator_pos : 0 < denominator := by
  decide +kernel

lemma low_eq (x : FiniteDouble) : x.low = (4 * x.mantissa - x.reach) * 2 ^ x.scale := rfl

lemma high_eq (x : FiniteDouble) : x.high = (4 * x.mantissa + 2) * 2 ^ x.scale := rfl

lemma mantissa_lt (x : FiniteDouble) : x.mantissa < 9007199254740992 :=
  lt_of_lt_of_eq x.canonical.1 (by norm_num)

lemma mantissa_of_scale_ne_zero {x : FiniteDouble} (h : x.scale ≠ 0) :
    4503599627370496 ≤ x.mantissa := by
  rcases x.canonical.2.2 with hzero | hmantissa
  · contradiction
  · exact le_of_eq_of_le (by norm_num) hmantissa

/-- The reach is one quarter at the least mantissa of a scale above zero, and else two. -/
lemma reach_cases (x : FiniteDouble) :
    x.reach = 1 ∧ x.mantissa = 4503599627370496 ∨
      x.reach = 2 ∧ (x.scale ≠ 0 → 4503599627370496 < x.mantissa) := by
  have hpow : Nat.pow 2 52 = 4503599627370496 := by norm_num
  unfold reach
  rw [hpow]
  split
  next h => exact .inl ⟨rfl, h.1⟩
  next h =>
    refine .inr ⟨rfl, fun hscale => ?_⟩
    have := mantissa_of_scale_ne_zero hscale
    omega

/-! ## The intervals of two doubles -/

lemma low_pos {x : FiniteDouble} (hx : 0 < x.mantissa) : 0 < x.low := by
  rw [low_eq]
  refine Nat.mul_pos ?_ (by positivity)
  rcases x.reach_cases with ⟨h, -⟩ | ⟨h, -⟩ <;> omega

lemma Covers.pos {x : FiniteDouble} {v : ℚ} (h : x.Covers v) (hx : 0 < x.mantissa) : 0 < v := by
  have hlow : (0 : ℚ) < x.low := by exact_mod_cast low_pos hx
  have hden : (0 : ℚ) < denominator := by exact_mod_cast denominator_pos
  exact pos_of_mul_pos_left (lt_of_lt_of_le hlow h.low_le) hden.le

/-- The order of the magnitudes of two doubles: that of the scales, then that of the mantissas. -/
def Below (x y : FiniteDouble) : Prop :=
  x.scale < y.scale ∨ x.scale = y.scale ∧ x.mantissa < y.mantissa

/-- The interval of the smaller one of two doubles ends where that of the larger one starts, or
before; if they meet, one of the two mantissas is odd. -/
lemma Below.high_le_low {x y : FiniteDouble} (h : x.Below y) :
    x.high ≤ y.low ∧ (x.high = y.low → x.mantissa % 2 = 1 ∨ y.mantissa % 2 = 1) := by
  have hx := x.mantissa_lt
  have hunit : 0 < 2 ^ x.scale := by positivity
  rw [high_eq, low_eq]
  rcases h with hscale | ⟨hscale, hmantissa⟩
  · -- a larger scale doubles the unit at least, and the mantissa has all its bits
    obtain ⟨k, hk⟩ := Nat.exists_eq_add_of_lt hscale
    have hpow : 2 ^ y.scale = 2 * 2 ^ k * 2 ^ x.scale := by
      rw [hk]
      ring
    have hk : 0 < 2 ^ k := by positivity
    have hends : 4 * x.mantissa + 2 ≤ (4 * y.mantissa - y.reach) * 2 ∧
        (4 * x.mantissa + 2 = (4 * y.mantissa - y.reach) * 2 → x.mantissa % 2 = 1) := by
      rcases y.reach_cases with ⟨hreach, hy⟩ | ⟨hreach, hy⟩
      · omega
      · have := hy (by omega)
        omega
    have hmul : (4 * y.mantissa - y.reach) * 2 * 2 ^ x.scale
        ≤ (4 * y.mantissa - y.reach) * 2 ^ y.scale := by
      rw [hpow, ← mul_assoc, ← mul_assoc]
      refine Nat.mul_le_mul_right _ (Nat.le_mul_of_pos_right _ hk)
    refine ⟨le_trans (Nat.mul_le_mul_right _ hends.1) hmul, fun heq => .inl (hends.2 ?_)⟩
    refine le_antisymm hends.1 (Nat.le_of_mul_le_mul_right ?_ hunit)
    rwa [heq]
  · rw [← hscale]
    have hends : 4 * x.mantissa + 2 ≤ 4 * y.mantissa - y.reach := by
      rcases y.reach_cases with ⟨hreach, -⟩ | ⟨hreach, -⟩ <;> omega
    refine ⟨Nat.mul_le_mul_right _ hends, fun heq => ?_⟩
    have := Nat.eq_of_mul_eq_mul_right hunit heq
    rcases y.reach_cases with ⟨hreach, -⟩ | ⟨hreach, -⟩ <;> omega

lemma not_covers_of_below {x y : FiniteDouble} {v : ℚ} (h : x.Below y) (hx : x.Covers v) :
    ¬y.Covers v := by
  intro hy
  have hends : (x.high : ℚ) ≤ y.low := by exact_mod_cast h.high_le_low.1
  have hmeet : x.high = y.low := by
    have : (x.high : ℚ) = y.low := le_antisymm hends (hy.low_le.trans hx.le_high)
    exact_mod_cast this
  rcases h.high_le_low.2 hmeet with hodd | hodd
  · linarith [(hx.inside_of_odd hodd).2, hy.low_le]
  · linarith [(hy.inside_of_odd hodd).1, hx.le_high]

/-- No rational lies in the intervals of doubles of two magnitudes. -/
theorem Covers.unique {x y : FiniteDouble} {v : ℚ} (hx : x.Covers v) (hy : y.Covers v) :
    x.mantissa = y.mantissa ∧ x.scale = y.scale := by
  by_contra hne
  have horder : x.Below y ∨ y.Below x := by
    unfold Below
    omega
  -- the intervals of two magnitudes are disjoint, or meet in an end that one of them leaves out
  rcases horder with h | h
  · exact not_covers_of_below h hx hy
  · exact not_covers_of_below h hy hx

/-! ## The grid of decimals with a given count of digits -/

/-- A power of ten with an integer exponent, as the quotient of two powers that are whole. -/
lemma pow_toNat (e : Int) : (10 : ℚ) ^ e.toNat = 10 ^ e * 10 ^ (-e).toNat := by
  rcases le_total 0 e with h | h
  · obtain ⟨n, rfl⟩ := Int.eq_ofNat_of_zero_le h
    simp
  · obtain ⟨n, hn⟩ := Int.eq_ofNat_of_zero_le (Int.neg_nonneg_of_nonpos h)
    obtain rfl : e = -n := by omega
    simp

/-- The test of a decimal in the search, where `up` and `step` scale the grid to whole numbers. -/
def isInside (x : FiniteDouble) (up step d : Nat) : Bool :=
  if x.mantissa % 2 == 0 then x.low * up ≤ d * step && d * step ≤ x.high * up
  else x.low * up < d * step && d * step < x.high * up

lemma neighbour_eq (x : FiniteDouble) (point : Int) (count : Nat) :
    x.neighbour point count =
      let up := 10 ^ (count - point).toNat
      let step := denominator * 10 ^ (point - count).toNat
      let floor := 4 * x.mantissa * 2 ^ x.scale * up / step
      let rest := 4 * x.mantissa * 2 ^ x.scale * up % step
      if x.isInside up step floor && x.isInside up step (floor + 1) then
        if 2 * rest < step || (2 * rest == step && floor % 2 == 0) then some floor
        else some (floor + 1)
      else if x.isInside up step floor then some floor
      else if x.isInside up step (floor + 1) then some (floor + 1)
      else none := rfl

lemma isInside_eq_true {x : FiniteDouble} {up step d : Nat} (h : x.isInside up step d = true) :
    x.low * up ≤ d * step ∧ d * step ≤ x.high * up ∧
      (x.mantissa % 2 = 1 → x.low * up < d * step ∧ d * step < x.high * up) := by
  unfold isInside at h
  split at h
  next heven =>
    simp only [Bool.and_eq_true, decide_eq_true_eq, beq_iff_eq] at h heven
    exact ⟨h.1, h.2, fun hodd => by omega⟩
  next =>
    simp only [Bool.and_eq_true, decide_eq_true_eq] at h
    exact ⟨h.1.le, h.2.le, fun _ => h⟩

lemma isInside_eq_false {x : FiniteDouble} {up step d : Nat} (h : x.isInside up step d = false) :
    d * step ≤ x.low * up ∨ x.high * up ≤ d * step := by
  by_contra hout
  rw [not_or, not_le, not_le] at hout
  unfold isInside at h
  split at h
  · simp [hout.1.le, hout.2.le] at h
  · simp [hout] at h

/-- The scales of the grid of `count` digits. -/
lemma grid_step (point : Int) (count : Nat) :
    ((denominator * 10 ^ (point - count).toNat : Nat) : ℚ)
      = denominator * 10 ^ (point - count) * (10 ^ (count - point).toNat : Nat) := by
  have h := pow_toNat (point - count)
  rw [neg_sub] at h
  simp only [Nat.cast_mul, Nat.cast_pow, Nat.cast_ofNat, h]
  ring

lemma covers_of_isInside {x : FiniteDouble} {point : Int} {count d : Nat}
    (h : x.isInside (10 ^ (count - point).toNat)
      (denominator * 10 ^ (point - count).toNat) d = true) :
    x.Covers (d * 10 ^ (point - count)) := by
  obtain ⟨hlow, hhigh, hodd⟩ := isInside_eq_true h
  have hup : (0 : ℚ) < (10 ^ (count - point).toNat : Nat) := by
    exact_mod_cast Nat.pow_pos (by decide)
  have hscaled : ((d * (denominator * 10 ^ (point - count).toNat) : Nat) : ℚ)
      = d * 10 ^ (point - count) * denominator * (10 ^ (count - point).toNat : Nat) := by
    rw [Nat.cast_mul, grid_step]
    ring
  -- the ends were compared after they were scaled by a power of ten
  refine ⟨le_of_mul_le_mul_right ?_ hup, le_of_mul_le_mul_right ?_ hup, fun h => ⟨?_, ?_⟩⟩
  · rw [← hscaled]
    exact_mod_cast hlow
  · rw [← hscaled]
    exact_mod_cast hhigh
  · refine lt_of_mul_lt_mul_right ?_ hup.le
    rw [← hscaled]
    exact_mod_cast (hodd h).1
  · refine lt_of_mul_lt_mul_right ?_ hup.le
    rw [← hscaled]
    exact_mod_cast (hodd h).2

/-- A decimal that the search accepts reads back as the value. -/
lemma covers_of_neighbour {x : FiniteDouble} {point : Int} {count d : Nat}
    (h : x.neighbour point count = some d) : x.Covers (d * 10 ^ (point - count)) := by
  refine covers_of_isInside ?_
  rw [neighbour_eq] at h
  dsimp only at h
  split at h
  next hboth =>
    rw [Bool.and_eq_true] at hboth
    split at h
    all_goals
      cases h
    · exact hboth.1
    · exact hboth.2
  next =>
    split at h
    next hfloor =>
      cases h
      exact hfloor
    next =>
      split at h
      next hnext =>
        cases h
        exact hnext
      next => contradiction

/-- On a grid that is finer than the interval of a double, one of the two neighbours of the value
lies in the interval. -/
lemma isInside_floor_or_next {x : FiniteDouble} {up step : Nat} (hx : 0 < x.mantissa) (hup : 0 < up)
    (hstep : 0 < step) (h : step < (x.reach + 2) * (2 ^ x.scale * up)) :
    x.isInside up step (4 * x.mantissa * 2 ^ x.scale * up / step) = true ∨
      x.isInside up step (4 * x.mantissa * 2 ^ x.scale * up / step + 1) = true := by
  -- everything is measured in quarters of the last bit of the mantissa
  have hquarter : 0 < 2 ^ x.scale * up := by positivity
  have hlow : x.low * up = (4 * x.mantissa - x.reach) * (2 ^ x.scale * up) := by
    rw [low_eq, mul_assoc]
  have hhigh : x.high * up = (4 * x.mantissa + 2) * (2 ^ x.scale * up) := by
    rw [high_eq, mul_assoc]
  rw [mul_assoc (4 * x.mantissa)]
  generalize 2 ^ x.scale * up = quarter at *
  have hreach : x.reach ≤ 4 * x.mantissa := by
    rcases x.reach_cases with ⟨hreach, -⟩ | ⟨hreach, -⟩ <;> omega
  have hbelow : x.low * up + x.reach * quarter = 4 * x.mantissa * quarter := by
    rw [hlow, ← Nat.add_mul, Nat.sub_add_cancel hreach]
  have habove : x.high * up = 4 * x.mantissa * quarter + 2 * quarter := by
    rw [hhigh, Nat.add_mul]
  have hfloor := Nat.div_mul_le_self (4 * x.mantissa * quarter) step
  have hnext := Nat.lt_div_mul_add (a := 4 * x.mantissa * quarter) hstep
  generalize 4 * x.mantissa * quarter / step = floor at *
  have hsum : (floor + 1) * step = floor * step + step := Nat.succ_mul _ _
  rw [Nat.add_mul] at h
  by_contra hout
  rw [not_or, Bool.not_eq_true, Bool.not_eq_true] at hout
  have hfloorOut := isInside_eq_false hout.1
  have hnextOut := isInside_eq_false hout.2
  omega

/-- A grid of decimals that is finer than the interval of a double has a decimal that reads back as
the value. -/
lemma neighbour_ne_none {x : FiniteDouble} {point : Int} {count : Nat} (hx : 0 < x.mantissa)
    (h : denominator * 10 ^ (point - count).toNat
      < (x.reach + 2) * (2 ^ x.scale * 10 ^ (count - point).toNat)) :
    x.neighbour point count ≠ none := by
  have hinside := isInside_floor_or_next hx (Nat.pow_pos (by decide))
    (Nat.mul_pos denominator_pos (Nat.pow_pos (by decide))) h
  rw [neighbour_eq]
  dsimp only
  split
  · split <;> simp
  · split
    · simp
    · rcases hinside with hfloor | hnext
      · contradiction
      · rw [if_pos hnext]
        simp

/-! ## The search -/

lemma pow_length_toDigits_le {n : Nat} (hn : 0 < n) :
    10 ^ ((Nat.toDigits 10 n).length - 1) ≤ n := by
  rcases Nat.eq_zero_or_pos ((Nat.toDigits 10 n).length - 1) with hone | hmore
  · rw [hone]
    exact hn
  · refine Nat.le_of_not_lt fun hlt => ?_
    have := (Nat.length_toDigits_le_iff (by decide) hmore).mpr hlt
    omega

lemma lt_pow_length_toDigits (n : Nat) : n < 10 ^ (Nat.toDigits 10 n).length :=
  (Nat.length_toDigits_le_iff (by decide) Nat.length_toDigits_pos).mp le_rfl

lemma zpow_neg_mul_le {num den k : Nat} (h : den ≤ num * 10 ^ k) :
    (10 : ℚ) ^ (-(k : Int)) * den ≤ num := by
  have hcast : (den : ℚ) ≤ num * 10 ^ k := by exact_mod_cast h
  rw [zpow_neg, zpow_natCast, inv_mul_le_iff₀ (by positivity), mul_comm]
  exact hcast

/-- The power of ten below a positive quotient is no more than the quotient. -/
lemma zpow_pointOf_le {num den : Nat} (hnum : 0 < num) (hden : 0 < den) :
    (10 : ℚ) ^ (pointOf num den - 1) * den ≤ num := by
  unfold pointOf
  split
  next hle =>
    have hlength : 0 < (Nat.toDigits 10 (num / den)).length := Nat.length_toDigits_pos
    have hpow := pow_length_toDigits_le (Nat.div_pos hle hden)
    rw [Nat.le_div_iff_mul_le hden] at hpow
    rw [show ((Nat.toDigits 10 (num / den)).length : Int) - 1
      = ((Nat.toDigits 10 (num / den)).length - 1 : Nat) by omega, zpow_natCast]
    exact_mod_cast hpow
  next hlt =>
    have hlength : 0 < (Nat.toDigits 10 (den / num)).length := Nat.length_toDigits_pos
    have hpow := lt_pow_length_toDigits (den / num)
    rw [Nat.div_lt_iff_lt_mul hnum] at hpow
    dsimp only
    generalize (Nat.toDigits 10 (den / num)).length = zeros at *
    split
    next hexact =>
      rw [show 2 - (zeros : Int) - 1 = -((zeros - 1 : Nat) : Int) by omega]
      exact zpow_neg_mul_le hexact
    next =>
      rw [show 1 - (zeros : Int) - 1 = -(zeros : Int) by omega]
      refine zpow_neg_mul_le ?_
      rw [mul_comm]
      exact hpow.le

/-- Seventeen digits are enough. -/
lemma neighbour_seventeen {x : FiniteDouble} {point : Int} (hx : 0 < x.mantissa)
    (hpoint : (10 : ℚ) ^ (point - 1) * denominator ≤ (4 * x.mantissa * 2 ^ x.scale : Nat)) :
    x.neighbour point 17 ≠ none := by
  refine neighbour_ne_none hx ?_
  have hup : (0 : ℚ) < (10 ^ (((17 : Nat) : Int) - point).toNat : Nat) := by positivity
  have hunit : (0 : ℚ) < 2 ^ x.scale := by positivity
  -- sixteen digits after the first one are more than the bits of a mantissa
  have hbits : (4 * x.mantissa : ℚ) < (x.reach + 2) * 10 ^ 16 := by
    have hmantissa := x.mantissa_lt
    have : 4 * x.mantissa < (x.reach + 2) * 10 ^ 16 := by
      rcases x.reach_cases with ⟨hreach, _⟩ | ⟨hreach, -⟩ <;> omega
    exact_mod_cast this
  have hstep : (10 : ℚ) ^ (point - (17 : Nat)) * 10 ^ 16 = 10 ^ (point - 1) := by
    rw [← zpow_natCast, ← zpow_add₀ (by norm_num)]
    congr 1
    push_cast
    ring
  have hgrid : (denominator : ℚ) * 10 ^ (point - (17 : Nat)) < (x.reach + 2) * 2 ^ x.scale := by
    refine lt_of_mul_lt_mul_right ?_ (show (0 : ℚ) ≤ 10 ^ 16 by positivity)
    calc (denominator : ℚ) * 10 ^ (point - (17 : Nat)) * 10 ^ 16
        = 10 ^ (point - 1) * denominator := by rw [← hstep]; ring
      _ ≤ 4 * x.mantissa * 2 ^ x.scale := by exact_mod_cast hpoint
      _ < (x.reach + 2) * 10 ^ 16 * 2 ^ x.scale := mul_lt_mul_of_pos_right hbits hunit
      _ = (x.reach + 2) * 2 ^ x.scale * 10 ^ 16 := by ring
  have hscaled := mul_lt_mul_of_pos_right hgrid hup
  rw [← grid_step, mul_assoc] at hscaled
  exact_mod_cast hscaled

/-- A search that reaches a count with a decimal that reads back ends with such a decimal. -/
lemma covers_searchFrom {x : FiniteDouble} {point : Int} {last : Nat}
    (h : x.neighbour point last ≠ none) {tries count : Nat} (hcount : count ≤ last)
    (htries : last < count + tries) : x.Covers (x.searchFrom point tries count).value := by
  -- the search does not pass the last count, for there it finds a decimal
  induction tries generalizing count with
  | zero => omega
  | succ tries ih =>
    rw [searchFrom]
    cases hfound : x.neighbour point count with
    | some d => exact covers_of_neighbour hfound
    | none =>
      have hne : count ≠ last := fun heq => h (heq ▸ hfound)
      exact ih (by omega) (by omega)

/-- The shortest decimal of a double other than zero reads back as its magnitude. -/
theorem covers_shortest {x : FiniteDouble} (hx : 0 < x.mantissa) : x.Covers x.shortest.value := by
  have hvalue : 0 < 4 * x.mantissa * 2 ^ x.scale := by positivity
  exact covers_searchFrom (neighbour_seventeen hx (zpow_pointOf_le hvalue denominator_pos))
    (by decide) (by decide)

end FiniteDouble

end EntityCompiler
