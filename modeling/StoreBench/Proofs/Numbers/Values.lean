import StoreBench.Proofs.Numbers.Stored

namespace StoreBench.Binary

/-! The numbers that floating-point numbers stand for, and what comparing, adding, multiplying
and dividing means for these numbers. -/

open Float.Model (Format totalExponent UnpackedFloat)
open Float.Model.UnpackedFloat

/-! ## Values -/

def valueOf? (number : Float) : Option ℚ :=
  match number.toModel.unpack with
  | .zero _ => some 0
  | .finite sign digits exponent _ => some (sign.apply digits * 2 ^ exponent)
  | _ => none

def infinity : Float := .ofModel (.pack (.infinity .positive))

theorem unpack_infinity : infinity.toModel.unpack = .infinity .positive := rfl

/-- What a result that is not negative is stored as: as itself, or as infinity if it is too
large. -/
inductive Holds (result : ℚ) : Float → Prop where
  | small {number : Float} (room : result < 2 ^ 1024) (stands : valueOf? number = some result) :
      Holds result number
  | large (noRoom : 2 ^ 1024 ≤ result) : Holds result infinity

theorem Holds.value_of_lt {result : ℚ} {number : Float} (holds : Holds result number)
    (room : result < 2 ^ 1024) : valueOf? number = some result := by
  cases holds with
  | small _ stands => exact stands
  | large noRoom => exact absurd noRoom room.not_ge

theorem valueOf?_of_unpack {number : Float} {digits : Nat} {exponent : ℤ} {nonzero : 0 < digits}
    (unpacked : number.toModel.unpack = .finite .positive digits exponent nonzero) :
    valueOf? number = some (digits * 2 ^ exponent : ℚ) := by
  simp [valueOf?, unpacked, Sign.apply]

theorem unpack_of_value {number : Float} {value : ℚ} (stands : valueOf? number = some value) :
    (∃ sign, number.toModel.unpack = .zero sign ∧ value = 0) ∨
      ∃ sign digits exponent, ∃ nonzero : 0 < digits,
        number.toModel.unpack = .finite sign digits exponent nonzero ∧
        value = (sign.apply digits : ℤ) * 2 ^ exponent := by
  unfold valueOf? at stands
  split at stands
  next sign unpacked => exact .inl ⟨sign, unpacked, (Option.some.inj stands).symm⟩
  next sign digits exponent nonzero unpacked =>
    exact .inr ⟨sign, digits, exponent, nonzero, unpacked, (Option.some.inj stands).symm⟩
  · cases stands

theorem apply_pos_iff {sign : Sign} {digits : Nat} {exponent : ℤ} (nonzero : 0 < digits) :
    (0 : ℚ) < (sign.apply digits : ℤ) * 2 ^ exponent ↔ sign = .positive := by
  rw [mul_pos_iff_of_pos_right (zpow_pos two_pos exponent), Int.cast_pos]
  cases sign with
  | positive => exact iff_of_true (Int.natCast_pos.mpr nonzero) rfl
  | negative =>
      exact iff_of_false (by simp [Sign.apply]) nofun

theorem unpack_of_positive {number : Float} {value : ℚ} (stands : valueOf? number = some value)
    (positive : 0 < value) :
    ∃ digits exponent, ∃ nonzero : 0 < digits,
      number.toModel.unpack = .finite .positive digits exponent nonzero ∧
      Stored digits exponent ∧ exponent ≤ 971 ∧ (digits : ℚ) * 2 ^ exponent = value := by
  rcases unpack_of_value stands with
    ⟨_, _, rfl⟩ | ⟨sign, digits, exponent, nonzero, unpacked, rfl⟩
  · exact absurd positive (lt_irrefl 0)
  · obtain rfl := (apply_pos_iff nonzero).mp positive
    rcases stored_of_unpack unpacked with ⟨stored, room⟩
    exact ⟨digits, exponent, nonzero, unpacked, stored, room, rfl⟩

theorem unpack_of_zero {number : Float} (stands : valueOf? number = some 0) :
    ∃ sign, number.toModel.unpack = .zero sign := by
  rcases unpack_of_value stands with
    ⟨sign, unpacked, _⟩ | ⟨sign, digits, exponent, nonzero, _, same⟩
  · exact ⟨sign, unpacked⟩
  · have factor : ((sign.apply digits : ℤ) : ℚ) ≠ 0 := by
      cases sign <;> simp [Sign.apply, nonzero.ne']
    exact absurd same.symm (mul_ne_zero factor (zpow_pos two_pos exponent).ne')

theorem Stored.lt_of_lt {digits other : Nat} {exponent later : ℤ}
    (stored : Stored digits exponent) (full : 2 ^ 52 ≤ other) (ordered : exponent < later) :
    (digits : ℚ) * 2 ^ exponent < other * 2 ^ later := by
  have few : (digits : ℚ) < 2 ^ 53 := by exact_mod_cast stored.few
  have many : (2 : ℚ) ^ 52 ≤ other := by exact_mod_cast full
  calc (digits : ℚ) * 2 ^ exponent
      < 2 ^ 53 * 2 ^ exponent := by gcongr
    _ = 2 ^ 52 * 2 ^ (exponent + 1) := by rw [zpow_add_one₀ two_ne_zero]; ring
    _ ≤ 2 ^ 52 * 2 ^ later := by gcongr <;> linarith
    _ ≤ other * 2 ^ later := by gcongr

theorem Stored.lt_iff {digits : Nat} {exponent : ℤ} (stored : Stored digits exponent) :
    (digits : ℚ) * 2 ^ exponent < 2 ^ 1024 ↔ exponent ≤ 971 := by
  have power : (2 : ℚ) ^ 1024 = (2 ^ 52 : Nat) * 2 ^ (972 : ℤ) := by
    rw [show (972 : ℤ) = (972 : Nat) from rfl, zpow_natCast, Nat.cast_pow, Nat.cast_ofNat,
      ← pow_add]
  rw [power]
  constructor
  · contrapose!
    intro large
    have full : 2 ^ 52 ≤ digits := stored.full.resolve_right (by omega)
    gcongr
    · norm_num
    · exact large
  · intro room
    exact stored.lt_of_lt le_rfl (by omega)

theorem Stored.full_of_le {digits : Nat} {exponent power : ℤ} (stored : Stored digits exponent)
    (least : -1022 < power) (large : (2 : ℚ) ^ power ≤ digits * 2 ^ exponent) :
    2 ^ 52 ≤ digits ∧ power - 52 ≤ exponent := by
  have few : (digits : ℚ) < 2 ^ (53 : ℤ) := by exact_mod_cast stored.few
  have below : (2 : ℚ) ^ power < 2 ^ (53 + exponent) := by
    rw [zpow_add₀ two_ne_zero]
    exact large.trans_lt (by gcongr)
  have ordered := (zpow_lt_zpow_iff_right₀ one_lt_two).mp below
  exact ⟨stored.full.resolve_right (by omega), by omega⟩

theorem holds_pack {digits : Nat} {exponent : ℤ} (stored : Stored digits exponent)
    (nonzero : 0 < digits) :
    Holds (digits * 2 ^ exponent)
      (.ofModel (.pack (.finite .positive digits exponent nonzero))) := by
  rcases lt_or_ge ((digits : ℚ) * 2 ^ exponent) (2 ^ 1024) with room | noRoom
  · exact .small room (valueOf?_of_unpack (unpack_pack stored nonzero (stored.lt_iff.mp room)))
  · have high : 971 < exponent := not_le.mp fun low => noRoom.not_gt (stored.lt_iff.mpr low)
    rw [pack_overflow nonzero high]
    exact .large noRoom

/-! ## Comparing -/

theorem Stored.le_iff {digits other : Nat} {exponent later : ℤ}
    (stored : Stored digits exponent) (second : Stored other later) :
    ((compare exponent later).then (compare digits other)).isLE ↔
      (digits : ℚ) * 2 ^ exponent ≤ other * 2 ^ later := by
  rcases lt_trichotomy exponent later with less | rfl | more
  · have full : 2 ^ 52 ≤ other := second.full.resolve_right (by have := stored.least; omega)
    rw [Std.compare_eq_lt.mpr less]
    exact iff_of_true rfl (stored.lt_of_lt full less).le
  · rw [Std.compare_self, mul_le_mul_iff_left₀ (zpow_pos two_pos exponent), Nat.cast_le]
    exact Nat.isLE_compare
  · have full : 2 ^ 52 ≤ digits := stored.full.resolve_right (by have := second.least; omega)
    rw [Std.compare_eq_gt.mpr more]
    exact iff_of_false nofun (second.lt_of_lt full more).not_ge

theorem le_iff_unpack {number other : Float} :
    number ≤ other ↔ number.toModel.unpack.le other.toModel.unpack = true := by
  change decide (number.toModel ≤ other.toModel) = true ↔ _
  exact decide_eq_true_iff

theorem le_iff_of_values {number other : Float} {value bound : ℚ}
    (stands : valueOf? number = some value) (stands' : valueOf? other = some bound)
    (nonnegative : 0 ≤ value) (nonnegative' : 0 ≤ bound) :
    number ≤ other ↔ value ≤ bound := by
  rw [le_iff_unpack]
  rcases nonnegative.eq_or_lt with rfl | positive
  · rcases unpack_of_zero stands with ⟨sign, unpacked⟩
    rw [unpacked]
    refine iff_of_true ?_ nonnegative'
    rcases nonnegative'.eq_or_lt with rfl | positive'
    · rcases unpack_of_zero stands' with ⟨sign', unpacked'⟩
      rw [unpacked']
      rfl
    · rcases unpack_of_positive stands' positive' with ⟨_, _, _, unpacked', _⟩
      rw [unpacked']
      rfl
  · rcases unpack_of_positive stands positive with ⟨digits, exponent, _, unpacked, stored, _, rfl⟩
    rcases nonnegative'.eq_or_lt with rfl | positive'
    · rcases unpack_of_zero stands' with ⟨sign', unpacked'⟩
      rw [unpacked, unpacked']
      exact iff_of_false nofun positive.not_ge
    · rcases unpack_of_positive stands' positive' with ⟨_, _, _, unpacked', stored', _, rfl⟩
      rw [unpacked, unpacked', ← stored.le_iff stored']
      rfl

theorem value_lt {number : Float} {value : ℚ} (stands : valueOf? number = some value)
    (nonnegative : 0 ≤ value) : value < 2 ^ 1024 := by
  rcases nonnegative.eq_or_lt with rfl | positive
  · exact pow_pos two_pos 1024
  · rcases unpack_of_positive stands positive with ⟨_, _, _, _, stored, room, rfl⟩
    exact stored.lt_iff.mpr room

theorem holds_of_value {number : Float} {value : ℚ} (stands : valueOf? number = some value)
    (nonnegative : 0 ≤ value) : Holds value number :=
  .small (value_lt stands nonnegative) stands

theorem not_infinity_le {number : Float} {value : ℚ} (stands : valueOf? number = some value) :
    ¬infinity ≤ number := by
  rw [le_iff_unpack, unpack_infinity]
  rcases unpack_of_value stands with ⟨_, unpacked, _⟩ | ⟨_, _, _, _, unpacked, _⟩ <;>
    rw [unpacked] <;> nofun

theorem le_infinity_of_holds {number : Float} {result : ℚ} (holds : Holds result number) :
    number ≤ infinity := by
  rw [le_iff_unpack, unpack_infinity]
  cases holds with
  | large => rfl
  | small _ stands =>
      rcases unpack_of_value stands with ⟨_, unpacked, _⟩ | ⟨sign, _, _, _, unpacked, _⟩
      · rw [unpacked]
        rfl
      · rw [unpacked]
        cases sign <;> rfl

theorem le_iff_of_holds {number bound : Float} {result value : ℚ} (holds : Holds result number)
    (stands : valueOf? bound = some value) (nonnegative : 0 ≤ result)
    (nonnegative' : 0 ≤ value) : number ≤ bound ↔ result ≤ value := by
  cases holds with
  | small _ stored => exact le_iff_of_values stored stands nonnegative nonnegative'
  | large noRoom =>
      exact iff_of_false (not_infinity_le stands)
        (not_le.mpr ((value_lt stands nonnegative').trans_le noRoom))

theorem lt_iff_unpack {number other : Float} :
    number < other ↔ number.toModel.unpack.lt other.toModel.unpack = true := by
  change decide (number.toModel < other.toModel) = true ↔ _
  exact decide_eq_true_iff

theorem unpack_zero : (0 : Float).toModel.unpack = .zero .positive := rfl

theorem pos_iff_of_value {number : Float} {value : ℚ} (stands : valueOf? number = some value) :
    0 < number ↔ 0 < value := by
  rw [lt_iff_unpack, unpack_zero]
  rcases unpack_of_value stands with
    ⟨_, unpacked, rfl⟩ | ⟨sign, digits, exponent, nonzero, unpacked, rfl⟩
  · rw [unpacked]
    exact iff_of_false nofun (lt_irrefl 0)
  · rw [unpacked, apply_pos_iff nonzero]
    cases sign with
    | positive => exact iff_of_true rfl rfl
    | negative => exact iff_of_false nofun nofun

theorem unpack_of_pos {number : Float} (positive : 0 < number) (none : valueOf? number = none) :
    number.toModel.unpack = .infinity .positive := by
  rw [lt_iff_unpack, unpack_zero] at positive
  unfold valueOf? at none
  cases unpacked : number.toModel.unpack with
  | infinity sign =>
      cases sign with
      | positive => rfl
      | negative => rw [unpacked] at positive; cases positive
  | notANumber => rw [unpacked] at positive; cases positive
  | zero sign => rw [unpacked] at none; cases none
  | finite sign digits exponent nonzero => rw [unpacked] at none; cases none

theorem isInf_of_value {number : Float} {value : ℚ} (stands : valueOf? number = some value) :
    number.isInf = false := by
  change number.toModel.unpack.isInf = false
  rcases unpack_of_value stands with ⟨_, unpacked, _⟩ | ⟨_, _, _, _, unpacked, _⟩ <;>
    rw [unpacked] <;> rfl

theorem isInf_infinity : infinity.isInf = true := rfl

/-! ## Adding and multiplying -/

theorem add_eq_pack (number other : Float) : number + other =
    .ofModel (.pack (add .binary64 number.toModel.unpack other.toModel.unpack)) := rfl

theorem mul_eq_pack (number other : Float) : number * other =
    .ofModel (.pack (mul .binary64 number.toModel.unpack other.toModel.unpack)) := rfl

theorem normalize_of_pos {number : Nat} (positive : number ≠ 0) (exponent : ℤ) (zero : Sign) :
    UnpackedFloat.normalize .binary64 number exponent zero =
      UnpackedFloat.round .binary64 .positive number exponent := by
  rw [UnpackedFloat.normalize, Int.compare_eq_gt.mpr (by omega), Int.toNat_natCast]

theorem holds_add {number other : Float} {value more : ℚ}
    (stands : valueOf? number = some value) (stands' : valueOf? other = some more)
    (positive : 0 < value) (positive' : 0 < more) :
    ∃ result, Rounds (value + more) result ∧ Holds result (number + other) := by
  rcases unpack_of_positive stands positive with
    ⟨digits, exponent, nonzero, unpacked, stored, _, rfl⟩
  rcases unpack_of_positive stands' positive' with
    ⟨digits', exponent', nonzero', unpacked', stored', _, rfl⟩
  have least : -1074 ≤ min exponent exponent' := le_min stored.least stored'.least
  obtain ⟨zeros, aligned⟩ := Int.le.dest (min_le_left exponent exponent')
  obtain ⟨zeros', aligned'⟩ := Int.le.dest (min_le_right exponent exponent')
  have shift : (exponent - min exponent exponent').toNat = zeros := by omega
  have shift' : (exponent' - min exponent exponent').toNat = zeros' := by omega
  have positiveSum : digits * 2 ^ zeros + digits' * 2 ^ zeros' ≠ 0 :=
    (Nat.add_pos_left (Nat.mul_pos nonzero (Nat.two_pow_pos zeros)) _).ne'
  have added : number + other = .ofModel (.pack (UnpackedFloat.round .binary64 .positive
      (digits * 2 ^ zeros + digits' * 2 ^ zeros') (min exponent exponent'))) := by
    rw [← normalize_of_pos positiveSum _ .positive, add_eq_pack, unpacked, unpacked', add]
    simp only [decreaseExponent, shift, shift', Nat.shiftLeft_eq, Sign.apply, Nat.cast_add]
  rcases round_eq positiveSum least with ⟨sum, last, nonzero, result, storedSum, same⟩
  refine ⟨rounded (digits * 2 ^ zeros + digits' * 2 ^ zeros') * 2 ^ min exponent exponent',
    ⟨_, _, ?_, rfl⟩, ?_⟩
  · rw [Nat.cast_add, add_mul, mul_pow_mul_zpow, mul_pow_mul_zpow, aligned, aligned']
  · rw [added, result, ← same]
    exact holds_pack storedSum nonzero

theorem valueOf?_zero_add {number other : Float} {value : ℚ} (stands : valueOf? number = some 0)
    (stands' : valueOf? other = some value) (positive : 0 < value) :
    valueOf? (number + other) = some value := by
  rcases unpack_of_zero stands with ⟨sign, unpacked⟩
  rcases unpack_of_positive stands' positive with
    ⟨digits, exponent, nonzero, unpacked', stored, room, rfl⟩
  rw [add_eq_pack, unpacked, unpacked']
  exact valueOf?_of_unpack (unpack_pack stored nonzero room)

theorem infinity_add {number : Float} (positive : 0 < number) : infinity + number = infinity := by
  rw [add_eq_pack, unpack_infinity]
  cases stands : valueOf? number with
  | none =>
      rw [unpack_of_pos positive stands]
      rfl
  | some value =>
      rcases unpack_of_positive stands ((pos_iff_of_value stands).mp positive) with
        ⟨_, _, _, unpacked, _⟩
      rw [unpacked]
      rfl

theorem add_infinity {number other : Float} {value : ℚ} (stands : valueOf? number = some value)
    (infinite : other.toModel.unpack = .infinity .positive) : number + other = infinity := by
  rw [add_eq_pack, infinite]
  rcases unpack_of_value stands with ⟨_, unpacked, _⟩ | ⟨_, _, _, _, unpacked, _⟩ <;>
    rw [unpacked] <;> rfl

/-- Two numbers, and their product too, are not so small that they lack digits. -/
theorem holds_mul {number other : Float} {value factor : ℚ} {power power' : ℤ}
    (stands : valueOf? number = some value) (stands' : valueOf? other = some factor)
    (large : (2 : ℚ) ^ power ≤ value) (large' : (2 : ℚ) ^ power' ≤ factor)
    (least : -1022 < power) (least' : -1022 < power') (enough : -1022 ≤ power + power') :
    ∃ result, Rounds (value * factor) result ∧ Holds result (number * other) := by
  rcases unpack_of_positive stands ((zpow_pos two_pos power).trans_le large) with
    ⟨digits, exponent, nonzero, unpacked, stored, _, rfl⟩
  rcases unpack_of_positive stands' ((zpow_pos two_pos power').trans_le large') with
    ⟨digits', exponent', nonzero', unpacked', stored', _, rfl⟩
  rcases stored.full_of_le least large with ⟨full, above⟩
  rcases stored'.full_of_le least' large' with ⟨full', above'⟩
  have nonzeroProduct : digits * digits' ≠ 0 := (Nat.mul_pos nonzero nonzero').ne'
  have long : 104 ≤ (digits * digits').log2 := by
    rw [Nat.le_log2 nonzeroProduct, show 2 ^ 104 = 2 ^ 52 * 2 ^ 52 from rfl]
    exact Nat.mul_le_mul full full'
  have multiplied : number * other = .ofModel (.pack (roundWithAccuracy .binary64 .positive
      (digits * digits') (exponent + exponent') .exact)) := by
    rw [mul_eq_pack, unpacked, unpacked', mul]
    rfl
  rcases roundWithAccuracy_eq _ (exponent + exponent') nonzeroProduct (by omega) (by omega)
    with ⟨product, last, nonzero, result, storedProduct, same⟩
  refine ⟨rounded (digits * digits') * 2 ^ (exponent + exponent'), ⟨_, _, ?_, rfl⟩, ?_⟩
  · rw [zpow_add₀ two_ne_zero]
    push_cast
    ring
  · rw [multiplied, result, ← same]
    exact holds_pack storedProduct nonzero

theorem value_of_packed_zero (sign : Sign) :
    valueOf? (.ofModel (.pack (.zero sign))) = some 0 := by
  cases sign <;> rfl

theorem zero_mul_value {number other : Float} {value : ℚ} (stands : valueOf? number = some 0)
    (stands' : valueOf? other = some value) : valueOf? (number * other) = some 0 := by
  rcases unpack_of_zero stands with ⟨_, unpacked⟩
  rw [mul_eq_pack, unpacked]
  rcases unpack_of_value stands' with ⟨_, unpacked', _⟩ | ⟨_, _, _, _, unpacked', _⟩ <;>
    rw [unpacked', mul] <;> exact value_of_packed_zero _

theorem zero_mul_infinity {number : Float} (stands : valueOf? number = some 0) :
    (number * infinity).toModel.unpack = .notANumber := by
  rcases unpack_of_zero stands with ⟨_, unpacked⟩
  rw [mul_eq_pack, unpacked, unpack_infinity, mul]
  rfl

theorem mul_infinity {number : Float} {value : ℚ} (stands : valueOf? number = some value)
    (positive : 0 < value) : number * infinity = infinity := by
  rcases unpack_of_positive stands positive with ⟨_, _, _, unpacked, _⟩
  rw [mul_eq_pack, unpacked, unpack_infinity, mul]
  rfl

/-! ## Fractions -/

theorem value_toFloat {number : UInt64} (short : number.toNat < 2 ^ 53) :
    valueOf? number.toFloat = some (number.toNat : ℚ) := by
  rcases Nat.eq_zero_or_pos number.toNat with zero | positive
  · obtain rfl : number = 0 := UInt64.toNat_inj.mp zero
    rfl
  · have size : number.toNat.log2 ≤ 52 :=
      Nat.le_of_lt_succ ((Nat.log2_lt positive.ne').mpr short)
    rcases round_eq positive.ne' (by norm_num : (-1074 : ℤ) ≤ 0) with
      ⟨digits, last, nonzero, result, stored, value⟩
    rw [rounded_of_short size, zpow_zero, mul_one] at value
    have converted : number.toFloat =
        .ofModel (.pack (.finite .positive digits last nonzero)) := by
      rw [← result, ← normalize_of_pos positive.ne' 0 .positive]
      rfl
    have holds := holds_pack stored nonzero
    rw [← converted, value] at holds
    refine holds.value_of_lt ?_
    calc (number.toNat : ℚ) < 2 ^ 53 := by exact_mod_cast short
      _ ≤ 2 ^ 1024 := pow_le_pow_right₀ one_le_two (by norm_num)

theorem unpack_pow53 : (9007199254740992 : Float).toModel.unpack =
    .finite .positive (2 ^ 52) 1 (by decide) := rfl

theorem divCore_pow53 {digits : Nat} {exponent : ℤ} (size : digits.log2 = 52)
    (least : -1000 ≤ exponent) :
    divCore .binary64 digits exponent (2 ^ 52) 1 = (digits * 2 ^ 1, exponent - 54, .exact) := by
  have target : min (exponent - 1) (Format.binary64.targetExponent
      (totalExponent digits exponent - totalExponent (2 ^ 52) 1)) = exponent - 54 := by
    simp only [Format.targetExponent, totalExponent, Format.mantissaBits, Format.minExponent,
      size, Nat.log2_two_pow]
    omega
  have shift : (exponent - 1 - (exponent - 54)).toNat = 53 := by omega
  have split : digits <<< 53 = digits * 2 ^ 1 * 2 ^ 52 := by rw [Nat.shiftLeft_eq]; ring
  simp only [divCore, target, shift, split, Nat.mul_div_cancel _ (Nat.two_pow_pos 52),
    Nat.mul_mod_left, accuracyOfFraction, if_true]

theorem value_div_pow53 {number : Float} {value : ℚ} (stands : valueOf? number = some value)
    (large : 1 ≤ value) : valueOf? (number / 9007199254740992) = some (value / 2 ^ 53) := by
  rcases unpack_of_positive stands (one_pos.trans_le large) with
    ⟨digits, exponent, nonzero, unpacked, stored, _, rfl⟩
  rcases stored.full_of_le (by norm_num : (-1022 : ℤ) < 0) (by simpa using large) with ⟨full, least⟩
  have size : digits.log2 = 52 := (Nat.log2_eq_iff nonzero.ne').mpr ⟨full, stored.few⟩
  have doubled : (digits * 2 ^ 1).log2 = 53 := by rw [log2_mul_pow nonzero.ne', size]
  have divided : number / 9007199254740992 = .ofModel (.pack (roundWithAccuracy .binary64
      .positive (digits * 2 ^ 1) (exponent - 54) .exact)) := by
    change Float.ofModel (.pack (div .binary64 number.toModel.unpack
      (9007199254740992 : Float).toModel.unpack)) = _
    rw [unpacked, unpack_pow53, div, divCore_pow53 size (by omega)]
    rfl
  rcases roundWithAccuracy_eq (digits * 2 ^ 1) (exponent - 54) (by omega)
    (by omega) (by omega) with ⟨quotient, last, nonzero', result, stored', same⟩
  have moved : (quotient : ℚ) * 2 ^ last = digits * 2 ^ exponent / 2 ^ 53 := by
    rw [same, rounded_mul_pow, rounded_of_short size.le, mul_pow_mul_zpow, div_eq_mul_inv,
      mul_assoc, ← zpow_natCast, ← zpow_neg, ← zpow_add₀ two_ne_zero]
    congr 2
    norm_num
    ring
  have holds := holds_pack stored' nonzero'
  rw [← result, ← divided, moved] at holds
  exact holds.value_of_lt ((div_le_self (one_pos.trans_le large).le (by norm_num)).trans_lt
    (value_lt stands (by positivity)))

end StoreBench.Binary
