import Mathlib
import JsonRpc.Decimal.Shortest

set_option autoImplicit false

namespace JsonRpc.Decimal

def Scientific.value (d : Scientific) : ℚ := d.digits * 10 ^ d.exponent

theorem scaled_value (n base : Nat) (e : Int) (positive : 0 < base) :
    0 < (scaled n base e).2 ∧ ((scaled n base e).1 : ℚ) / (scaled n base e).2 = n * (base : ℚ) ^ e := by
  unfold scaled
  by_cases whole : 0 ≤ e
  · obtain ⟨power, rfl⟩ := Int.eq_ofNat_of_zero_le whole
    simp
  · obtain ⟨power, rfl⟩ : ∃ power : Nat, e = -power := ⟨e.natAbs, by omega⟩
    simp only [if_neg whole, Nat.pow_eq, Int.natAbs_neg, Int.natAbs_natCast, Nat.cast_pow, zpow_neg, zpow_natCast]
    exact ⟨Nat.pow_pos positive, div_eq_mul_inv _ _⟩

theorem scaled_le_iff (n base k other : Nat) (e f : Int) (first : 0 < base) (second : 0 < other) :
    (scaled n base e).1 * (scaled k other f).2 ≤ (scaled k other f).1 * (scaled n base e).2 ↔
      (n * (base : ℚ) ^ e) ≤ k * (other : ℚ) ^ f := by
  obtain ⟨left, leftValue⟩ := scaled_value n base e first
  obtain ⟨right, rightValue⟩ := scaled_value k other f second
  rw [← leftValue, ← rightValue, div_le_div_iff₀ (by exact_mod_cast left) (by exact_mod_cast right)]
  exact_mod_cast Iff.rfl

theorem scaled_lt_iff (n base k other : Nat) (e f : Int) (first : 0 < base) (second : 0 < other) :
    (scaled n base e).1 * (scaled k other f).2 < (scaled k other f).1 * (scaled n base e).2 ↔
      (n * (base : ℚ) ^ e) < k * (other : ℚ) ^ f := by
  obtain ⟨left, leftValue⟩ := scaled_value n base e first
  obtain ⟨right, rightValue⟩ := scaled_value k other f second
  rw [← leftValue, ← rightValue, div_lt_div_iff₀ (by exact_mod_cast left) (by exact_mod_cast right)]
  exact_mod_cast Iff.rfl

namespace Binary

def value (b : Binary) : ℚ := b.mantissa * 2 ^ b.exponent

-- Half the way to the next smaller number.
def below (b : Binary) : ℚ := if b.narrow then 2 ^ b.exponent / 4 else 2 ^ b.exponent / 2

-- Half the way to the next larger number.
def above (b : Binary) : ℚ := 2 ^ b.exponent / 2

-- What lies half the way between two numbers rounds to the one with an even mantissa.
def Rounds (b : Binary) (q : ℚ) : Prop :=
  if b.mantissa % 2 = 0 then b.value - b.below ≤ q ∧ q ≤ b.value + b.above
  else b.value - b.below < q ∧ q < b.value + b.above

structure Nearest (b : Binary) (d : Scientific) : Prop where
  rounds : b.Rounds d.value
  nearest : ∀ point : ℕ, b.Rounds (point * 10 ^ d.exponent) →
    |d.value - b.value| ≤ |point * 10 ^ d.exponent - b.value|
  even : ∀ point : ℕ, b.Rounds (point * 10 ^ d.exponent) → point ≠ d.digits →
    |d.value - b.value| = |point * 10 ^ d.exponent - b.value| → d.digits % 2 = 0

structure Shortest (b : Binary) (d : Scientific) : Prop extends Nearest b d where
  coarsest : ∀ (grid : ℤ) (point : ℕ), b.Rounds (point * 10 ^ grid) → grid ≤ d.exponent

variable (b : Binary)

theorem ends_positive : 0 < b.below ∧ 0 < b.above ∧ 2 ^ b.exponent / 4 ≤ b.below ∧ b.below ≤ 2 ^ b.exponent / 2 := by
  have unit : (0 : ℚ) < 2 ^ b.exponent := by positivity
  unfold below above
  split <;> refine ⟨by linarith, by linarith, by linarith, by linarith⟩

theorem contains_iff (positive : 0 < b.mantissa) (grid : Int) (point : Nat) :
    b.contains grid point = true ↔ b.Rounds (point * 10 ^ grid) := by
  have quarter : (2 : ℚ) ^ (b.exponent - 2) = 2 ^ b.exponent / 4 := by
    rw [zpow_sub₀ (by norm_num)]
    norm_num
  have low : ((4 * b.mantissa - (if b.narrow then 1 else 2) : ℕ) : ℚ) * ((2 : ℕ) : ℚ) ^ (b.exponent - 2) =
      b.value - b.below := by
    have enough : (if b.narrow then 1 else 2) ≤ 4 * b.mantissa := by split <;> omega
    rw [Nat.cast_sub enough, Nat.cast_ofNat, quarter]
    unfold value below
    split <;> push_cast <;> ring
  have high : ((4 * b.mantissa + 2 : ℕ) : ℚ) * ((2 : ℕ) : ℚ) ^ (b.exponent - 2) = b.value + b.above := by
    rw [Nat.cast_ofNat, quarter]
    unfold value above
    push_cast
    ring
  have ten : (((10 : ℕ) : ℚ) : ℚ) = 10 := by norm_num
  unfold contains Rounds
  simp only
  split
  · rw [Bool.and_eq_true, decide_eq_true_iff, decide_eq_true_iff, scaled_le_iff _ _ _ _ _ _ (by norm_num) (by norm_num),
      scaled_le_iff _ _ _ _ _ _ (by norm_num) (by norm_num), low, high, ten]
  · rw [Bool.and_eq_true, decide_eq_true_iff, decide_eq_true_iff, scaled_lt_iff _ _ _ _ _ _ (by norm_num) (by norm_num),
      scaled_lt_iff _ _ _ _ _ _ (by norm_num) (by norm_num), low, high, ten]

theorem rounds_convex (p q r : ℚ) (first : b.Rounds p) (last : b.Rounds r) (after : p ≤ q) (before : q ≤ r) :
    b.Rounds q := by
  by_cases even : b.mantissa % 2 = 0
  · simp only [Rounds, if_pos even] at *
    exact ⟨first.1.trans after, before.trans last.2⟩
  · simp only [Rounds, if_neg even] at *
    exact ⟨first.1.trans_le after, before.trans_lt last.2⟩

theorem rounds_value : b.Rounds b.value := by
  obtain ⟨below, above, _⟩ := b.ends_positive
  by_cases even : b.mantissa % 2 = 0
  · simp only [Rounds, if_pos even]
    constructor <;> linarith
  · simp only [Rounds, if_neg even]
    constructor <;> linarith

theorem grid_sides (unit value : ℚ) (floor point : ℕ) (positive : 0 < unit) (low : floor * unit ≤ value)
    (high : value < (floor + 1) * unit) :
    (point * unit ≤ floor * unit ∧ |point * unit - value| = value - point * unit) ∨
      ((floor + 1) * unit ≤ point * unit ∧ |point * unit - value| = point * unit - value) := by
  rcases Nat.lt_or_ge floor point with above | below
  · have further : (floor + 1) * unit ≤ point * unit := by
      have : (floor : ℚ) + 1 ≤ point := by exact_mod_cast above
      gcongr
    exact .inr ⟨further, abs_of_nonneg (by linarith)⟩
  · have further : point * unit ≤ floor * unit := by gcongr
    exact .inl ⟨further, (abs_of_nonpos (by linarith)).trans (by ring)⟩

variable (grid : ℤ) (floor : ℕ) (low : floor * 10 ^ grid ≤ b.value) (high : b.value < (floor + 1) * 10 ^ grid)

include low high in
theorem nearest_floor (rounds : b.Rounds (floor * 10 ^ grid))
    (preferred : b.Rounds ((floor + 1) * 10 ^ grid) →
      b.value - floor * 10 ^ grid ≤ (floor + 1) * 10 ^ grid - b.value ∧
        (b.value - floor * 10 ^ grid = (floor + 1) * 10 ^ grid - b.value → floor % 2 = 0)) :
    b.Nearest ⟨floor, grid⟩ := by
  have unit : (0 : ℚ) < 10 ^ grid := by positivity
  have own : |(⟨floor, grid⟩ : Scientific).value - b.value| = b.value - floor * 10 ^ grid :=
    (abs_of_nonpos (by simp only [Scientific.value]; linarith)).trans (by simp only [Scientific.value]; ring)
  have upper (point : ℕ) (above : (floor + 1) * 10 ^ grid ≤ point * (10 : ℚ) ^ grid)
      (fits : b.Rounds (point * 10 ^ grid)) : b.Rounds ((floor + 1) * 10 ^ grid) :=
    b.rounds_convex _ _ _ b.rounds_value fits high.le above
  refine ⟨rounds, fun point fits => ?_, fun point fits differs same => ?_⟩
  · rw [own]
    rcases grid_sides _ _ floor point unit low high with ⟨further, distance⟩ | ⟨further, distance⟩
    · simp only [distance]
      linarith
    · have near := (preferred (upper point further fits)).1
      simp only [distance]
      linarith
  · rw [own] at same
    rcases grid_sides _ _ floor point unit low high with ⟨_, distance⟩ | ⟨further, distance⟩
    · simp only [distance] at same
      have equal : (point : ℚ) = floor := mul_right_cancel₀ unit.ne' (by linarith)
      exact absurd (by exact_mod_cast equal) differs
    · obtain ⟨near, tied⟩ := preferred (upper point further fits)
      simp only [distance] at same
      exact tied (by linarith)

include low high in
theorem nearest_ceiling (rounds : b.Rounds ((floor + 1) * 10 ^ grid))
    (preferred : b.Rounds (floor * 10 ^ grid) →
      (floor + 1) * 10 ^ grid - b.value ≤ b.value - floor * 10 ^ grid ∧
        ((floor + 1) * 10 ^ grid - b.value = b.value - floor * 10 ^ grid → (floor + 1) % 2 = 0)) :
    b.Nearest ⟨floor + 1, grid⟩ := by
  have unit : (0 : ℚ) < 10 ^ grid := by positivity
  have shown : (⟨floor + 1, grid⟩ : Scientific).value = (floor + 1) * 10 ^ grid := by simp [Scientific.value]
  have own : |(⟨floor + 1, grid⟩ : Scientific).value - b.value| = (floor + 1) * 10 ^ grid - b.value :=
    (abs_of_nonneg (by rw [shown]; linarith)).trans (by rw [shown])
  have lower (point : ℕ) (below : point * (10 : ℚ) ^ grid ≤ floor * 10 ^ grid) (fits : b.Rounds (point * 10 ^ grid)) :
      b.Rounds (floor * 10 ^ grid) :=
    b.rounds_convex _ _ _ fits b.rounds_value below low
  refine ⟨shown ▸ rounds, fun point fits => ?_, fun point fits differs same => ?_⟩
  · rw [own]
    rcases grid_sides _ _ floor point unit low high with ⟨further, distance⟩ | ⟨further, distance⟩
    · have near := (preferred (lower point further fits)).1
      simp only [distance]
      linarith
    · simp only [distance]
      linarith
  · rw [own] at same
    rcases grid_sides _ _ floor point unit low high with ⟨further, distance⟩ | ⟨_, distance⟩
    · obtain ⟨near, tied⟩ := preferred (lower point further fits)
      simp only [distance] at same
      exact tied (by linarith)
    · simp only [distance] at same
      have equal : (point : ℚ) = floor + 1 := mul_right_cancel₀ unit.ne' (by linarith)
      exact absurd (by exact_mod_cast equal) differs

-- In units of the product of both denominators, the first number is `floor * whole + rest`.
theorem division_remainder (p q r s : ℕ) (value unit : ℚ) (first : 0 < q) (second : 0 < s) (shown : (p : ℚ) / q = value)
    (unitShown : (r : ℚ) / s = unit) :
    let whole := q * r
    let floor := p * s / whole
    let rest := p * s % whole
    (rest : ℚ) = q * s * (value - floor * unit) ∧ (whole - rest : ℚ) = q * s * ((floor + 1) * unit - value) := by
  intro whole floor rest
  have denominator : (0 : ℚ) < q := by exact_mod_cast first
  have unitDenominator : (0 : ℚ) < s := by exact_mod_cast second
  have numerator : (p : ℚ) = q * value := by
    rw [← shown]
    field_simp
  have unitNumerator : (r : ℚ) = s * unit := by
    rw [← unitShown]
    field_simp
  have parts : (floor * whole + rest : ℚ) = p * s := by exact_mod_cast Nat.div_add_mod' (p * s) whole
  have wholeShown : (whole : ℚ) = q * (s * unit) := by rw [← unitNumerator, Nat.cast_mul]
  rw [numerator, wholeShown] at parts
  have excess : (rest : ℚ) = q * s * (value - floor * unit) := by linarith
  refine ⟨excess, ?_⟩
  rw [excess, wholeShown]
  ring

theorem floor_point (grid : ℤ) :
    let value := scaled b.mantissa 2 b.exponent
    let unit := scaled 1 10 grid
    let whole := value.2 * unit.1
    let floor := value.1 * unit.2 / whole
    let rest := value.1 * unit.2 % whole
    floor * 10 ^ grid ≤ b.value ∧ b.value < (floor + 1) * 10 ^ grid ∧
      (2 * rest < whole ↔ b.value - floor * 10 ^ grid < (floor + 1) * 10 ^ grid - b.value) ∧
      (2 * rest = whole ↔ b.value - floor * 10 ^ grid = (floor + 1) * 10 ^ grid - b.value) := by
  intro value unit whole floor rest
  obtain ⟨first, shown⟩ := scaled_value b.mantissa 2 b.exponent (by norm_num)
  obtain ⟨second, unitShown⟩ := scaled_value 1 10 grid (by norm_num)
  have unitValue : (unit.1 : ℚ) / unit.2 = 10 ^ grid := by simpa using unitShown
  obtain ⟨excess, lack⟩ := division_remainder value.1 value.2 unit.1 unit.2 b.value _ first second shown unitValue
  have scale : (0 : ℚ) < value.2 * unit.2 := by exact_mod_cast Nat.mul_pos first second
  have wholePositive : 0 < whole := by
    have ten : (0 : ℚ) < unit.1 / unit.2 := by
      rw [unitValue]
      positivity
    have present : unit.1 ≠ 0 := by
      intro none
      simp [none] at ten
    exact Nat.mul_pos first (Nat.pos_of_ne_zero present)
  have short : (rest : ℚ) < whole := by exact_mod_cast Nat.mod_lt _ wholePositive
  have natLess : 2 * rest < whole ↔ (rest : ℚ) < whole - rest := by
    rw [lt_sub_iff_add_lt, ← two_mul]
    exact_mod_cast Iff.rfl
  have natSame : 2 * rest = whole ↔ (rest : ℚ) = whole - rest := by
    rw [eq_sub_iff_add_eq, ← two_mul]
    exact_mod_cast Iff.rfl
  refine ⟨?_, ?_, ?_, ?_⟩
  · have := nonneg_of_mul_nonneg_right (excess ▸ Nat.cast_nonneg rest) scale
    linarith
  · have := (mul_pos_iff_of_pos_left scale).mp (lack ▸ sub_pos.mpr short)
    linarith
  · rw [natLess, lack, excess, mul_lt_mul_iff_right₀ scale]
  · rw [natSame, lack, excess, mul_right_inj' scale.ne']

-- The search takes the floor of the number on the grid or the point after it, the nearer one if both round to it.
theorem on_grid_floor (grid : ℤ) :
    ∃ (floor : ℕ) (preferBelow : Bool), floor * 10 ^ grid ≤ b.value ∧ b.value < (floor + 1) * 10 ^ grid ∧
      (preferBelow = true → b.value - floor * 10 ^ grid ≤ (floor + 1) * 10 ^ grid - b.value ∧
        (b.value - floor * 10 ^ grid = (floor + 1) * 10 ^ grid - b.value → floor % 2 = 0)) ∧
      (preferBelow = false → (floor + 1) * 10 ^ grid - b.value ≤ b.value - floor * 10 ^ grid ∧
        ((floor + 1) * 10 ^ grid - b.value = b.value - floor * 10 ^ grid → (floor + 1) % 2 = 0)) ∧
      b.onGrid? grid =
        if b.contains grid floor ∧ (preferBelow = true ∨ b.contains grid (floor + 1) = false) then some ⟨floor, grid⟩
        else if b.contains grid (floor + 1) then some ⟨floor + 1, grid⟩ else none := by
  obtain ⟨low, high, nearer, tied⟩ := b.floor_point grid
  unfold onGrid?
  simp only at low high nearer tied ⊢
  generalize (scaled b.mantissa 2 b.exponent).2 * (scaled 1 10 grid).1 = whole at *
  generalize (scaled b.mantissa 2 b.exponent).1 * (scaled 1 10 grid).2 = numerator at *
  generalize numerator % whole = rest at *
  generalize numerator / whole = floor at *
  refine ⟨floor, 2 * rest < whole ∨ 2 * rest = whole ∧ floor % 2 = 0, low, high, fun preferred => ?_,
    fun other => ?_, ?_⟩
  · rcases of_decide_eq_true preferred with less | ⟨same, even⟩
    · exact ⟨(nearer.mp less).le, fun equal => absurd (nearer.mp less) (by linarith)⟩
    · exact ⟨(tied.mp same).le, fun _ => even⟩
  · have neither := of_decide_eq_false other
    refine ⟨not_lt.mp fun less => neither (.inl (nearer.mpr less)), fun equal => ?_⟩
    have odd : ¬ floor % 2 = 0 := fun even => neither (.inr ⟨tied.mpr equal.symm, even⟩)
    omega
  · cases b.contains grid floor <;> cases b.contains grid (floor + 1) <;> simp
    split <;> rfl

variable (positive : 0 < b.mantissa)

include positive

theorem on_grid_some (grid : ℤ) (d : Scientific) (found : b.onGrid? grid = some d) :
    d.exponent = grid ∧ b.Nearest d := by
  obtain ⟨floor, preferBelow, low, high, below, above, taken⟩ := b.on_grid_floor grid
  have belowFits := b.contains_iff positive grid floor
  have aboveFits := b.contains_iff positive grid (floor + 1)
  rw [Nat.cast_add_one] at aboveFits
  rw [taken] at found
  by_cases first : b.contains grid floor ∧ (preferBelow = true ∨ b.contains grid (floor + 1) = false)
  · rw [if_pos first, Option.some_inj] at found
    refine found ▸ ⟨rfl, b.nearest_floor grid floor low high (belowFits.mp first.1) fun fits => ?_⟩
    have preferred := first.2.resolve_right (by simp [aboveFits.mpr fits])
    exact below preferred
  · by_cases second : b.contains grid (floor + 1)
    · rw [if_neg first, if_pos second, Option.some_inj] at found
      refine found ▸ ⟨rfl, b.nearest_ceiling grid floor low high (aboveFits.mp second) fun fits => ?_⟩
      have other : preferBelow = false := by simpa [belowFits.mpr fits, second] using first
      exact above other
    · rw [if_neg first, if_neg second] at found
      cases found

theorem on_grid_none (grid : ℤ) (none : b.onGrid? grid = none) (point : ℕ) : ¬ b.Rounds (point * 10 ^ grid) := by
  obtain ⟨floor, preferBelow, low, high, _, _, taken⟩ := b.on_grid_floor grid
  have belowFits := b.contains_iff positive grid floor
  have aboveFits := b.contains_iff positive grid (floor + 1)
  rw [Nat.cast_add_one] at aboveFits
  rw [taken] at none
  intro fits
  by_cases chosen : b.contains grid floor ∧ (preferBelow = true ∨ b.contains grid (floor + 1) = false)
  · rw [if_pos chosen] at none
    cases none
  · have second : b.contains grid (floor + 1) = true := by
      rcases grid_sides _ _ floor point (by positivity) low high with ⟨further, _⟩ | ⟨further, _⟩
      · have first := belowFits.mpr (b.rounds_convex _ _ _ fits b.rounds_value further low)
        by_contra other
        exact chosen ⟨first, .inr (Bool.eq_false_iff.mpr other)⟩
      · exact aboveFits.mpr (b.rounds_convex _ _ _ b.rounds_value fits high.le further)
    rw [if_neg chosen, if_pos second] at none
    cases none

theorem search_grid (steps : ℕ) (grid : ℤ)
    (passed : ∀ (coarser : ℤ) (point : ℕ), grid < coarser → ¬ b.Rounds (point * 10 ^ coarser))
    (last : ℤ) (near : grid < last + steps) (before : last ≤ grid) (hit : (b.onGrid? last).isSome) :
    b.Shortest (b.searchGrid steps grid) := by
  induction steps generalizing grid with
  | zero => omega
  | succ steps ih =>
    unfold searchGrid
    cases found : b.onGrid? grid with
    | some d =>
      obtain ⟨here, nearest⟩ := b.on_grid_some positive grid d found
      refine ⟨nearest, fun coarser point fits => ?_⟩
      by_contra above
      exact passed coarser point (by simp_all) fits
    | none =>
      have further : last ≠ grid := by
        rintro rfl
        simp [found] at hit
      refine ih (grid - 1) (fun coarser point above fits => ?_) (by push_cast at near; omega) (by omega)
      rcases Int.lt_or_eq_of_le (show grid ≤ coarser by omega) with passing | rfl
      · exact passed coarser point passing fits
      · exact b.on_grid_none positive grid found point fits

omit positive in
-- The logarithm of two to the base ten is between `59 / 196` and `28 / 93`.
theorem two_le_ten (k t : ℤ) (up : 0 ≤ k → 28 * k ≤ 93 * t) (down : k ≤ 0 → 59 * k ≤ 196 * t) :
    (2 : ℚ) ^ k ≤ 10 ^ t := by
  rcases Int.le_total 0 k with raised | lowered
  · have powers : ((2 : ℚ) ^ k) ^ 93 ≤ (10 ^ t) ^ 93 :=
      calc ((2 : ℚ) ^ k) ^ 93 = (2 ^ 93) ^ k := by rw [← zpow_natCast, zpow_comm, zpow_natCast]
        _ ≤ (10 ^ 28) ^ k := zpow_le_zpow_left₀ raised (by norm_num) (by norm_num)
        _ = 10 ^ (28 * k) := by rw [zpow_mul]; rfl
        _ ≤ 10 ^ (93 * t) := zpow_le_zpow_right₀ (by norm_num) (up raised)
        _ = (10 ^ t) ^ 93 := by rw [mul_comm, zpow_mul]; rfl
    exact le_of_pow_le_pow_left₀ (by norm_num) (by positivity) powers
  · have powers : ((2 : ℚ) ^ k) ^ 196 ≤ (10 ^ t) ^ 196 :=
      calc ((2 : ℚ) ^ k) ^ 196 = (2 ^ 196) ^ k := by rw [← zpow_natCast, zpow_comm, zpow_natCast]
        _ = ((2 ^ 196) ^ (-k))⁻¹ := by rw [zpow_neg, inv_inv]
        _ ≤ ((10 ^ 59) ^ (-k))⁻¹ :=
          inv_anti₀ (by positivity) (zpow_le_zpow_left₀ (by omega) (by norm_num) (by norm_num))
        _ = (10 ^ 59) ^ k := by rw [zpow_neg, inv_inv]
        _ = 10 ^ (59 * k) := by rw [zpow_mul]; rfl
        _ ≤ 10 ^ (196 * t) := zpow_le_zpow_right₀ (by norm_num) (down lowered)
        _ = (10 ^ t) ^ 196 := by rw [mul_comm, zpow_mul]; rfl
    exact le_of_pow_le_pow_left₀ (by norm_num) (by positivity) powers

omit positive in
theorem ten_le_two (k t : ℤ) (up : 0 ≤ k → 196 * t ≤ 59 * k) (down : k ≤ 0 → 93 * t ≤ 28 * k) :
    (10 : ℚ) ^ t ≤ 2 ^ k := by
  have turned := two_le_ten (-k) (-t) (by omega) (by omega)
  rw [zpow_neg, zpow_neg] at turned
  exact (inv_le_inv₀ (by positivity) (by positivity)).mp turned

theorem top_grid_passed (small : b.mantissa < 2 ^ 53) (coarser : ℤ) (point : ℕ) (above : b.topGrid < coarser) :
    ¬ b.Rounds (point * 10 ^ coarser) := by
  have unit : (0 : ℚ) < 2 ^ b.exponent := by positivity
  obtain ⟨_, _, _, half⟩ := b.ends_positive
  have mantissaLow : (1 : ℚ) ≤ b.mantissa := by exact_mod_cast positive
  have mantissaHigh : (b.mantissa + 1 : ℚ) ≤ 2 ^ 53 := by exact_mod_cast small
  have top : b.value + b.above < 2 ^ (b.exponent + 53) := by
    rw [zpow_add₀ (by norm_num)]
    unfold value Binary.above
    linarith [mul_le_mul_of_nonneg_left mantissaHigh unit.le]
  have bottom : 0 < b.value - b.below := by
    unfold value
    nlinarith
  have reached : (2 : ℚ) ^ (b.exponent + 53) ≤ 10 ^ coarser := by
    unfold topGrid at above
    simp only at above
    apply two_le_ten <;> intro <;> split at above <;> omega
  have inside (fits : b.Rounds (point * 10 ^ coarser)) :
      b.value - b.below ≤ point * 10 ^ coarser ∧ point * 10 ^ coarser ≤ b.value + b.above := by
    unfold Rounds at fits
    split at fits
    · exact fits
    · exact ⟨fits.1.le, fits.2.le⟩
  intro fits
  obtain ⟨first, last⟩ := inside fits
  rcases Nat.eq_zero_or_pos point with rfl | present
  · simp only [Nat.cast_zero, zero_mul] at first
    linarith
  · have counted : (1 : ℚ) ≤ point := by exact_mod_cast present
    nlinarith [show (0 : ℚ) < 10 ^ coarser by positivity]

theorem fine_grid_hit (grid : ℤ) (fine : (10 : ℚ) ^ grid ≤ 2 ^ b.exponent / 4) : (b.onGrid? grid).isSome := by
  obtain ⟨floor, _, low, high, _⟩ := b.on_grid_floor grid
  obtain ⟨_, above, quarter, _⟩ := b.ends_positive
  rw [Option.isSome_iff_ne_none]
  intro none
  refine b.on_grid_none positive grid none floor ?_
  unfold Rounds
  split
  · constructor <;> linarith
  · constructor <;> linarith

theorem shortest_correct (small : b.mantissa < 2 ^ 53) (low : -1074 ≤ b.exponent) (high : b.exponent ≤ 971) :
    b.Shortest b.shortest := by
  rw [shortest, if_neg positive.ne']
  refine b.search_grid positive 40 b.topGrid (b.top_grid_passed positive small) (b.topGrid - 39) (by omega) (by omega)
    (b.fine_grid_hit positive _ ?_)
  calc (10 : ℚ) ^ (b.topGrid - 39) ≤ 2 ^ (b.exponent - 2) := by
        apply ten_le_two <;> intro <;> unfold topGrid <;> simp only <;> split <;> omega
    _ = 2 ^ b.exponent / 4 := by
        rw [zpow_sub₀ (by norm_num)]
        norm_num

omit positive in
-- Of two decimals as near, the one between them would be nearer.
theorem shortest_unique (d other : Scientific) (first : b.Shortest d) (second : b.Shortest other) : d = other := by
  obtain ⟨digits, grid⟩ := d
  obtain ⟨otherDigits, otherGrid⟩ := other
  obtain rfl : grid = otherGrid :=
    le_antisymm (second.coarsest grid digits first.rounds) (first.coarsest _ _ second.rounds)
  wlog ordered : digits < otherDigits generalizing digits otherDigits
  · rcases Nat.lt_trichotomy digits otherDigits with less | same | more
    · exact this _ first _ second less
    · rw [same]
    · exact (this _ second _ first more).symm
  have unit : (0 : ℚ) < 10 ^ grid := by positivity
  have distance := le_antisymm (first.nearest otherDigits second.rounds) (second.nearest digits first.rounds)
  have firstEven := first.even otherDigits second.rounds (by simp only; omega) distance
  have secondEven := second.even digits first.rounds (by simp only; omega) distance.symm
  simp only [Scientific.value] at distance firstEven secondEven
  have apart : (digits + 1 : ℚ) < otherDigits := by exact_mod_cast (by omega : digits + 1 < otherDigits)
  have before : (digits : ℚ) * 10 ^ grid < (digits + 1) * 10 ^ grid := by gcongr; linarith
  have after : ((digits : ℚ) + 1) * 10 ^ grid < otherDigits * 10 ^ grid := by gcongr
  have inside : b.Rounds ((digits + 1 : ℕ) * 10 ^ grid) := by
    push_cast
    exact b.rounds_convex _ _ _ first.rounds second.rounds before.le after.le
  have nearer := first.nearest _ inside
  simp only [Scientific.value, Nat.cast_add, Nat.cast_one] at nearer
  rcases abs_eq_abs.mp distance with same | opposite
  · linarith
  · have closer : |(digits + 1) * 10 ^ grid - b.value| < |digits * 10 ^ grid - b.value| := by
      rw [abs_of_neg (by linarith : (digits : ℚ) * 10 ^ grid - b.value < 0)]
      exact abs_lt.mpr ⟨by linarith, by linarith⟩
    linarith

end Binary

end JsonRpc.Decimal
