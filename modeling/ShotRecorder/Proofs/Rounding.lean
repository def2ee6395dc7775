import Mathlib
import ShotRecorder.Decimal.Reading

/-!
Whole numbers rounded to binary numbers with a fraction. Rounding cuts a mantissa to the digits that the format holds
and may then carry it to one digit more (`roundWithAccuracy_of_lt`, `roundWithAccuracy_of_carry`), which raises the
exponent by one. The greatest exponent that is kept is 971: a whole number is rounded to a finite one just if it is
below half way from the greatest number to the next power of two (`plain_ofInt`, `not_finite_ofInt`), and stays finite
when it is divided by a thousand (`Plain.div_thousand`).
-/
namespace ShotRecorder.Decimal

open Float.Model Float.Model.UnpackedFloat

/-! ### Binary digits -/

theorem log2_mul_two_pow {n : Nat} (k : Nat) (some : n ≠ 0) : (n * 2 ^ k).log2 = n.log2 + k := by
  induction k with
  | zero => simp
  | succ k ih =>
    have twice : n * 2 ^ (k + 1) = 2 * (n * 2 ^ k) := by
      rw [Nat.pow_succ]
      ac_rfl
    rw [twice,Nat.log2_two_mul (Nat.mul_ne_zero some (Nat.ne_of_gt (Nat.two_pow_pos k))),ih,Nat.add_assoc]

/-- A quotient has as many binary digits fewer than the dividend as the divisor has at least. -/
theorem log2_div_le {n d k : Nat} (large : 2 ^ k ≤ d) (some : n / d ≠ 0) : (n / d).log2 + k ≤ n.log2 := by
  have whole : n ≠ 0 := fun none => some (by rw [none,Nat.zero_div])
  rw [Nat.le_log2 whole,Nat.pow_add]
  exact Nat.le_trans (Nat.mul_le_mul (Nat.log2_self_le some) large) (Nat.div_mul_le_self n d)

/-- A mantissa below `2 ^ 53` has at most 53 binary digits. -/
theorem log2_le_of_short {m : Nat} (short : m < 2 ^ 53) : m.log2 ≤ 52 := by
  rcases Nat.eq_zero_or_pos m with rfl | positive
  · decide
  · exact Nat.le_of_lt_succ ((Nat.log2_lt (Nat.ne_of_gt positive)).mpr short)

theorem ne_zero_of_digits {n k : Nat} (digits : n.log2 = k + 53) : n ≠ 0 := by
  rintro rfl
  rw [Nat.log2_zero] at digits
  omega

theorem div_two_pow_lt {n i j k : Nat} (less : n < 2 ^ i) (le : i ≤ k + j) : n / 2 ^ k < 2 ^ j := by
  refine Nat.div_lt_of_lt_mul (Nat.lt_of_lt_of_le less ?_)
  rw [← Nat.pow_add]
  exact Nat.pow_le_pow_right (by decide) le

theorem le_div_two_pow {n i j k : Nat} (more : 2 ^ i ≤ n) (le : k + j ≤ i) : 2 ^ j ≤ n / 2 ^ k := by
  rw [Nat.le_div_iff_mul_le (Nat.two_pow_pos k),Nat.mul_comm,← Nat.pow_add]
  exact Nat.le_trans (Nat.pow_le_pow_right (by decide) le) more

/-! ### Shifted mantissas -/

section Shifted

variable (em : ExtendedMantissa) (k : Nat)

theorem mantissa_shiftRight : (em >>> k).mantissa = em.mantissa / 2 ^ k := by
  induction k with
  | zero => exact (Nat.div_one _).symm
  | succ k ih =>
    change (em >>> k).mantissa / 2 = _
    rw [ih,Nat.div_div_eq_div_mul,← Nat.pow_succ]

theorem roundBit_shiftRight_succ : (em >>> (k + 1)).roundBit = (em.mantissa / 2 ^ k % 2 != 0) := by
  change ((em >>> k).mantissa % 2 != 0) = _
  rw [mantissa_shiftRight]

/-- A mantissa is rounded to itself or to the next one. -/
theorem roundedMantissa_near : em.mantissa ≤ em.roundedMantissa ∧ em.roundedMantissa ≤ em.mantissa + 1 := by
  obtain ⟨m,_ | _,_ | _⟩ := em <;>
    simp only [ExtendedMantissa.roundedMantissa,ExtendedMantissa.accuracy,Accuracy.roundToNearestEven] <;> omega

variable {em}

theorem roundedMantissa_of_low (low : em.roundBit = false) : em.roundedMantissa = em.mantissa := by
  obtain ⟨m,_ | _,_ | _⟩ := em <;>
    simp_all [ExtendedMantissa.roundedMantissa,ExtendedMantissa.accuracy,Accuracy.roundToNearestEven]

/-- Half a place or more takes an odd mantissa to the next one. -/
theorem roundedMantissa_of_odd (half : em.roundBit = true) (odd : em.mantissa % 2 = 1) :
    em.roundedMantissa = em.mantissa + 1 := by
  obtain ⟨m,_ | _,_ | _⟩ := em <;>
    simp_all [ExtendedMantissa.roundedMantissa,ExtendedMantissa.accuracy,Accuracy.roundToNearestEven]

end Shifted

/-! ### Rounding to the format -/

section Rounded

variable (m : Nat) (e : Int) (acc : Accuracy)

theorem targetExponent_binary64 (total : Int) : Format.binary64.targetExponent total = max (total - 53) (-1074) := by
  simp [Format.targetExponent,Format.mantissaBits,Format.minExponent]

/-- A mantissa with no more digits than the format holds, the digits behind them, and the exponent. -/
abbrev shifted : ExtendedMantissa × Int := shiftToTargetExponent Format.binary64 m e acc

theorem shifted_exponent : (shifted m e acc).2 = max e (max (m.log2 + 1 + e - 53) (-1074)) := by
  simp only [shifted,shiftToTargetExponent,shiftToExponent,totalExponent,targetExponent_binary64]
  omega

theorem le_shifted_exponent : -1074 ≤ (shifted m e acc).2 := by
  rw [shifted_exponent]
  omega

theorem shifted_mantissa :
    (shifted m e acc).1.mantissa = m / 2 ^ (max (m.log2 + 1 + e - 53) (-1074) - e).toNat := by
  have start : (ExtendedMantissa.ofMantissaAndAccuracy m acc).mantissa = m := by
    rcases acc with _ | _ | _ | _ <;> rfl
  simp only [shifted,shiftToTargetExponent,shiftToExponent,totalExponent,targetExponent_binary64,mantissa_shiftRight,
    start]

theorem shifted_mantissa_lt : (shifted m e acc).1.mantissa < 2 ^ 53 := by
  rw [shifted_mantissa]
  refine Nat.div_lt_of_lt_mul (Nat.lt_of_lt_of_le (Nat.lt_log2_self (n := m)) ?_)
  rw [← Nat.pow_add]
  exact Nat.pow_le_pow_right (by decide) (by omega)

variable {m e acc} {s : Sign}

theorem shifted_of_lt (short : m < 2 ^ 53) (least : -1074 ≤ e) (acc : Accuracy) :
    shifted m e acc = (.ofMantissaAndAccuracy m acc,e) := by
  have digits := log2_le_of_short short
  have none : (max ((m.log2 : Int) + 1 + e - 53) (-1074) - e).toNat = 0 := by omega
  simp only [shifted,shiftToTargetExponent,shiftToExponent,totalExponent,targetExponent_binary64,none]
  exact Prod.ext rfl (by simp)

/-- A mantissa that is not carried is rounded where it was cut. -/
theorem roundWithAccuracy_of_lt (short : (shifted m e acc).1.roundedMantissa < 2 ^ 53) :
    roundWithAccuracy Format.binary64 s m e acc =
      if none : (shifted m e acc).1.roundedMantissa = 0 then .zero s
      else .finite s (shifted m e acc).1.roundedMantissa (shifted m e acc).2 (Nat.pos_of_ne_zero none) := by
  have least := le_shifted_exponent m e acc
  have again := shifted_of_lt short least .exact
  unfold roundWithAccuracy
  dsimp only
  simp only [again,ExtendedMantissa.ofMantissaAndAccuracy]

/-- A mantissa that is carried is cut once more, and loses nothing by it. -/
theorem roundWithAccuracy_of_carry (carry : (shifted m e acc).1.roundedMantissa = 2 ^ 53) :
    roundWithAccuracy Format.binary64 s m e acc = .finite s (2 ^ 52) ((shifted m e acc).2 + 1) (by decide) := by
  have least := le_shifted_exponent m e acc
  have mantissa : (shifted (2 ^ 53) (shifted m e acc).2 .exact).1.mantissa = 2 ^ 52 := by
    rw [shifted_mantissa,Nat.log2_two_pow]
    have one : (max ((53 : Nat) + 1 + (shifted m e acc).2 - 53) (-1074) - (shifted m e acc).2).toNat = 1 := by omega
    rw [one]
    rfl
  have exponent : (shifted (2 ^ 53) (shifted m e acc).2 .exact).2 = (shifted m e acc).2 + 1 := by
    rw [shifted_exponent,Nat.log2_two_pow]
    omega
  unfold roundWithAccuracy
  dsimp only
  simp only [carry,mantissa,exponent]
  rfl

end Rounded

/-! ### Numbers within a bound -/

/-- Finite and not negative, with a mantissa that the format holds and an exponent up to a bound. -/
inductive Within (bound : Int) : UnpackedFloat → Prop where
  | zero : Within bound (.zero .positive)
  | finite {m : Nat} {e : Int} (positive : 0 < m) (short : m < 2 ^ 53) (below : e ≤ bound) :
      Within bound (.finite .positive m e positive)

theorem Within.mono {bound bound' : Int} {u : UnpackedFloat} (within : Within bound u) (le : bound ≤ bound') :
    Within bound' u := by
  cases within with
  | zero => exact .zero
  | finite positive short below => exact .finite positive short (Int.le_trans below le)

section Within

variable {bound : Int}

/-- Rounding keeps a number within a bound that leaves room for a carry. -/
theorem within_roundWithAccuracy {m : Nat} {e : Int} (acc : Accuracy)
    (room : max e (max (m.log2 + 1 + e - 53) (-1074)) < bound) :
    Within bound (roundWithAccuracy Format.binary64 .positive m e acc) := by
  rw [← shifted_exponent m e acc] at room
  have near := (roundedMantissa_near (shifted m e acc).1).2
  have short := shifted_mantissa_lt m e acc
  rcases Nat.lt_or_eq_of_le (Nat.le_trans near short) with noCarry | carry
  · rw [roundWithAccuracy_of_lt noCarry]
    split
    · exact .zero
    · exact .finite _ noCarry (by omega)
  · rw [roundWithAccuracy_of_carry carry]
    exact .finite _ (by decide) (by omega)

theorem unpackSign_packComponents (s : Sign) (exponent : BitVec 11) (mantissa : BitVec 52) :
    unpackSign (packComponents Format.binary64 s exponent mantissa) = s.toBitVec := by
  ext i inside
  obtain rfl : i = 0 := by omega
  have outer : (s.toBitVec ++ exponent ++ mantissa).getLsbD 63 = (s.toBitVec ++ exponent).getLsbD 11 :=
    BitVec.getLsbD_append
  have inner : (s.toBitVec ++ exponent).getLsbD 11 = s.toBitVec.getLsbD 0 := BitVec.getLsbD_append
  simp [unpackSign,packComponents,outer.trans inner,BitVec.getLsbD_eq_getElem]

theorem within_unpack {exponent : BitVec 11} {mantissa : BitVec 52} (finite : exponent ≠ -1#11)
    (least : -1074 ≤ bound) (most : (exponent.toNat : Int) - 1075 ≤ bound) :
    Within bound
      (UnpackedFloat.unpack Format.binary64 (packComponents Format.binary64 .positive exponent mantissa)) := by
  have bias : (Format.binary64.exponentBias : Int) = 1023 := rfl
  have sign : Sign.ofBitVec (Sign.toBitVec .positive) = .positive := rfl
  simp only [UnpackedFloat.unpack,unpackMantissa_packComponents,unpackExponent_packComponents,unpackSign_packComponents,
    sign,bias]
  rw [if_neg finite]
  split
  · rename_i low
    split
    · exact .zero
    · refine .finite _ (Nat.lt_trans mantissa.isLt (by decide)) ?_
      rw [low]
      simpa using least
  · exact .finite _ (1#1 ++ mantissa).isLt (by omega)

/-- Up to the greatest exponent, packing takes a number to no infinity. -/
theorem within_pack {u : UnpackedFloat} (within : Within bound u) (least : -1074 ≤ bound) (most : bound ≤ 971) :
    Within bound (Float.Model.pack u).unpack := by
  change Within bound (UnpackedFloat.unpack Format.binary64 (UnpackedFloat.pack Format.binary64 u))
  cases within with
  | zero => exact within_unpack (by decide) least (by simp; omega)
  | @finite m e positive short below =>
    have bias : (Format.binary64.exponentBias : Int) = 1023 := rfl
    simp only [UnpackedFloat.pack,bias]
    rw [if_neg (by omega)]
    split
    · refine within_unpack (fun same => ?_) least ?_
      · have value := congrArg BitVec.toNat same
        simp at value
        omega
      · simp
        omega
    · exact within_unpack (by decide) least (by simp; omega)

end Within

/-! ### Arithmetic within bounds -/

/-- Multiplying by one may round, and so raise the exponent. -/
theorem within_mul_one {u : UnpackedFloat} {bound : Int} (within : Within bound u) (least : -1074 ≤ bound) :
    Within (bound + 1) (UnpackedFloat.mul Format.binary64 u (.finite .positive (2 ^ 52) (-52) (by decide))) := by
  cases within with
  | zero => exact .zero
  | @finite m e positive short below =>
    have digits := log2_le_of_short short
    refine within_roundWithAccuracy _ ?_
    rw [log2_mul_two_pow 52 (Nat.ne_of_gt positive)]
    omega

/-- Dividing by a thousand keeps a number within the greatest exponent. -/
theorem within_div_thousand {u : UnpackedFloat} (within : Within 971 u) :
    Within 971 (UnpackedFloat.div Format.binary64 u (.finite .positive (1000 * 2 ^ 43) (-43) (by decide))) := by
  cases within with
  | zero => exact .zero
  | @finite m e positive short below =>
    have digits := log2_le_of_short short
    have divisor : (1000 * 2 ^ 43).log2 = 52 := rfl
    refine within_roundWithAccuracy _ ?_
    simp only [targetExponent_binary64,totalExponent,divisor,Nat.shiftLeft_eq]
    generalize exponent : min (e - -43) _ = quotientExponent
    -- The divisor has 53 binary digits, and takes 52 of them off those that the dividend was given.
    by_cases some : m * 2 ^ (e - -43 - quotientExponent).toNat / (1000 * 2 ^ 43) = 0
    · rw [some,Nat.log2_zero]
      omega
    · have fewer := log2_div_le (k := 52) (by decide) some
      rw [log2_mul_two_pow _ (Nat.ne_of_gt positive)] at fewer
      omega

/-! ### Finite numbers -/

section Numbers

variable {x : Float}

/-- Finite and not negative. -/
def Plain (x : Float) : Prop := Within 971 x.toModel.unpack

theorem exponentField_eq (x : Float) :
    exponentField x = (@unpackExponent Format.binary64 x.toModel.toBits.toBitVec).toNat := by
  simp only [unpackExponent,exponentField]
  rw [BitVec.toNat_cast,BitVec.extractLsb_toNat,Nat.shiftRight_eq_div_pow]
  rfl

theorem Plain.finite (plain : Plain x) : finite x = true := by
  unfold Decimal.finite
  rw [exponentField_eq,bne_iff_ne]
  intro top
  have ones : @unpackExponent Format.binary64 x.toModel.toBits.toBitVec = -1#11 := BitVec.eq_of_toNat_eq top
  unfold Plain at plain
  generalize unpacked : x.toModel.unpack = u at plain
  simp only [Float.Model.unpack,UnpackedFloat.unpack] at unpacked
  rw [if_pos ones] at unpacked
  split at unpacked <;> subst unpacked <;> cases plain

theorem unpack_zero : (0.0 : Float).toModel.unpack = .zero .positive := rfl

theorem Plain.zero_le (plain : Plain x) : (0.0 : Float) ≤ x := by
  refine decide_eq_true ?_
  change UnpackedFloat.le (0.0 : Float).toModel.unpack x.toModel.unpack = true
  rw [unpack_zero]
  unfold Plain at plain
  generalize x.toModel.unpack = u at plain
  cases plain <;> rfl

theorem Plain.not_lt_zero (plain : Plain x) : ¬x < (0.0 : Float) := by
  refine fun less => absurd (of_decide_eq_true less) ?_
  change ¬UnpackedFloat.lt x.toModel.unpack (0.0 : Float).toModel.unpack = true
  rw [unpack_zero]
  unfold Plain at plain
  generalize x.toModel.unpack = u at plain
  cases plain <;> exact Bool.false_ne_true

theorem unpack_one : (1.0 : Float).toModel.unpack = .finite .positive (2 ^ 52) (-52) (by decide) := rfl

theorem unpack_thousand : (1000.0 : Float).toModel.unpack = .finite .positive (1000 * 2 ^ 43) (-43) (by decide) := rfl

theorem Plain.div_thousand (plain : Plain x) : Plain (x / 1000.0) := by
  change Within 971 (Float.Model.pack (UnpackedFloat.div Format.binary64 x.toModel.unpack
    (1000.0 : Float).toModel.unpack)).unpack
  rw [unpack_thousand]
  exact within_pack (within_div_thousand plain) (by decide) (by decide)

/-- From the exponent 972 on, numbers are packed as infinities. -/
theorem not_finite_pack {s : Sign} {m : Nat} {e : Int} (positive : 0 < m) (large : 972 ≤ e) :
    finite ⟨Float.Model.pack (.finite s m e positive)⟩ = false := by
  have bias : (Format.binary64.exponentBias : Int) = 1023 := rfl
  have packed : UnpackedFloat.pack Format.binary64 (.finite s m e positive) = packedInfinity Format.binary64 s := by
    simp only [UnpackedFloat.pack,bias]
    exact if_pos (by omega)
  unfold finite
  rw [exponentField_eq]
  change ((unpackExponent (UnpackedFloat.pack Format.binary64 (.finite s m e positive))).toNat != 2047) = false
  rw [packed,packedInfinity,unpackExponent_packComponents]
  rfl

end Numbers

/-! ### Whole numbers -/

theorem within_ofNat {n : Nat} (short : n < 2 ^ 53) : Within 1 (UnpackedFloat.ofNat Format.binary64 n) := by
  rcases Nat.eq_zero_or_pos n with rfl | positive
  · exact .zero
  · have digits := log2_le_of_short short
    have above : compare (n : Int) 0 = .gt := Int.compare_eq_gt.mpr (by omega)
    simp only [UnpackedFloat.ofNat,UnpackedFloat.ofInt,UnpackedFloat.normalize,above,UnpackedFloat.round,
      decreaseExponent,targetExponent_binary64,totalExponent,Int.toNat_natCast,Nat.shiftLeft_eq]
    refine within_roundWithAccuracy _ ?_
    rw [log2_mul_two_pow _ (Nat.ne_of_gt positive)]
    omega

theorem plain_ofInt_of_short {n : Nat} (short : n < 2 ^ 53) : Plain (Float.ofInt n) := by
  have quick : Float.ofInt n = n.toUInt64.toFloat * 1.0 := dif_pos ⟨short,by decide⟩
  have same : n.toUInt64.toNat = n := Nat.mod_eq_of_lt (Nat.lt_trans short (by decide))
  have started : Within 1 n.toUInt64.toFloat.toModel.unpack := by
    refine within_pack ?_ (by decide) (by decide)
    rw [UnpackedFloat.ofUInt64,same]
    exact within_ofNat short
  rw [quick]
  change Within 971 (Float.Model.pack (UnpackedFloat.mul Format.binary64 n.toUInt64.toFloat.toModel.unpack
    (1.0 : Float).toModel.unpack)).unpack
  rw [unpack_one]
  exact within_pack ((within_mul_one started (by decide)).mono (by decide)) (by decide) (by decide)

/-- A whole number with more binary digits than the format holds, as it is rounded. -/
theorem ofInt_of_long {n : Nat} (long : 2 ^ 53 ≤ n) :
    Float.ofInt n = ⟨Float.Model.pack (roundWithAccuracy Format.binary64 .positive (n * 2 ^ 53) (-53) .exact)⟩ := by
  have some : n ≠ 0 := by omega
  have slow : Float.ofInt n = ⟨Float.Model.ofScientific n 0⟩ := dif_neg (by omega)
  have bits : (2 : Int) ^ Format.binary64.exponentBits = 2048 := rfl
  rw [slow,Float.Model.ofScientific,UnpackedFloat.ofScientific,dif_neg some,if_neg (by decide),bits,if_neg (by omega),
    if_pos (by decide)]
  simp only [UnpackedFloat.mul,Nat.shiftLeft_eq,Int.toNat_zero,Nat.pow_zero,Nat.mul_one]
  rfl

/-- Of a number with more binary digits than the format holds, 53 are kept, and the next of them rounds. -/
theorem shifted_of_digits {n k : Nat} (digits : n.log2 = k + 53) :
    (shifted (n * 2 ^ 53) (-53) .exact).2 = k + 1 ∧
      (shifted (n * 2 ^ 53) (-53) .exact).1.mantissa = n / 2 ^ k / 2 ∧
      (shifted (n * 2 ^ 53) (-53) .exact).1.roundBit = (n / 2 ^ k % 2 != 0) := by
  have scaled : (n * 2 ^ 53).log2 = k + 106 := by rw [log2_mul_two_pow 53 (ne_zero_of_digits digits),digits]
  have places : (max (((k + 106 : Nat) : Int) + 1 + -53 - 53) (-1074) - -53).toNat = k + 53 + 1 := by omega
  have cut : n * 2 ^ 53 / 2 ^ (k + 53) = n / 2 ^ k := by
    rw [Nat.pow_add,Nat.mul_div_mul_right _ _ (Nat.two_pow_pos 53)]
  refine ⟨?_,?_,?_⟩
  · rw [shifted_exponent,scaled]
    omega
  · rw [shifted_mantissa,scaled,places,Nat.pow_succ 2 (k + 53),← Nat.div_div_eq_div_mul,cut]
  · have bit := roundBit_shiftRight_succ (.ofMantissaAndAccuracy (n * 2 ^ 53) .exact) (k + 53)
    simp only [shifted,shiftToTargetExponent,shiftToExponent,totalExponent,targetExponent_binary64,scaled,places,bit]
    rw [ExtendedMantissa.ofMantissaAndAccuracy,cut]

/-- Only a number whose first 54 binary digits are all ones is carried to the next power of two. -/
theorem roundWithAccuracy_of_digits {n k : Nat} (digits : n.log2 = k + 53) :
    ∃ m e positive, roundWithAccuracy Format.binary64 .positive (n * 2 ^ 53) (-53) .exact =
        .finite .positive m e positive ∧
      m < 2 ^ 53 ∧ e = if n / 2 ^ k < 2 ^ 54 - 1 then (k : Int) + 1 else k + 2 := by
  have ⟨lower,upper⟩ := (Nat.log2_eq_iff (ne_zero_of_digits digits)).mp digits
  have least : 2 ^ 53 ≤ n / 2 ^ k := le_div_two_pow lower (Nat.le_refl _)
  have most : n / 2 ^ k < 2 ^ 54 := div_two_pow_lt upper (Nat.le_refl _)
  have ⟨exponent,mantissa,bit⟩ := shifted_of_digits digits
  have ⟨above,below⟩ := roundedMantissa_near (shifted (n * 2 ^ 53) (-53) .exact).1
  by_cases zeros : n / 2 ^ k < 2 ^ 54 - 1
  · have noCarry : (shifted (n * 2 ^ 53) (-53) .exact).1.roundedMantissa < 2 ^ 53 := by
      rcases Nat.mod_two_eq_zero_or_one (n / 2 ^ k) with even | odd
      · rw [roundedMantissa_of_low (by rw [bit,even]; rfl),mantissa]
        omega
      · omega
    rw [roundWithAccuracy_of_lt noCarry,dif_neg (by omega),if_pos zeros]
    exact ⟨_,_,_,rfl,noCarry,exponent⟩
  · -- The mantissa is odd, so that even half a place takes it to the next one.
    have ones : n / 2 ^ k = 2 ^ 54 - 1 := by omega
    have carry : (shifted (n * 2 ^ 53) (-53) .exact).1.roundedMantissa = 2 ^ 53 := by
      rw [roundedMantissa_of_odd (by rw [bit,ones]; rfl) (by rw [mantissa,ones]; rfl),mantissa,ones]
      rfl
    rw [roundWithAccuracy_of_carry carry,if_neg zeros]
    exact ⟨_,_,_,rfl,by decide,by omega⟩

/-- Half way from the greatest number to the next power of two. -/
def limit : Nat := 2 ^ 1024 - 2 ^ 970

theorem lt_pow_sub_iff (n k : Nat) : n < 2 ^ (54 + k) - 2 ^ k ↔ n / 2 ^ k < 2 ^ 54 - 1 := by
  rw [Nat.div_lt_iff_lt_mul (Nat.two_pow_pos k),Nat.sub_mul,Nat.one_mul,Nat.pow_add]

theorem lt_limit_iff {n : Nat} : n < limit ↔ n / 2 ^ 970 < 2 ^ 54 - 1 := by
  have sum : 1024 = 54 + 970 := rfl
  rw [limit,sum]
  exact lt_pow_sub_iff n 970

theorem pow_sub_lt_twoTo (i j : Nat) : 2 ^ i - 2 ^ j < twoTo (i + 1) :=
  Nat.lt_of_le_of_lt (Nat.sub_le ..) (Nat.pow_lt_pow_right (by decide) (Nat.lt_succ_self i))

theorem limit_lt : limit < twoTo 1025 := by
  rw [limit]
  exact pow_sub_lt_twoTo 1024 970

-- The limit is compared by these lemmas alone, and never computed.
attribute [irreducible] limit

theorem lt_limit_of_short {n : Nat} (short : n < 2 ^ 53) : n < limit :=
  lt_limit_iff.mpr (Nat.lt_of_le_of_lt (Nat.div_le_self ..) (Nat.lt_trans short (by decide)))

/-- A whole number with more binary digits than the format holds is rounded to one with an exponent that is kept just if
    it is below the limit. -/
theorem ofInt_eq_pack {n : Nat} (long : 2 ^ 53 ≤ n) :
    ∃ m e positive, Float.ofInt n = ⟨Float.Model.pack (.finite .positive m e positive)⟩ ∧
      m < 2 ^ 53 ∧ (n < limit ↔ e ≤ 971) := by
  have some : n ≠ 0 := Nat.ne_of_gt (Nat.lt_of_lt_of_le (by decide) long)
  have many : 53 ≤ n.log2 := (Nat.le_log2 some).mpr long
  obtain ⟨k,digits⟩ : ∃ k, n.log2 = k + 53 := ⟨n.log2 - 53,by omega⟩
  have ⟨lower,upper⟩ := (Nat.log2_eq_iff some).mp digits
  obtain ⟨m,e,positive,rounded,short,exponent⟩ := roundWithAccuracy_of_digits digits
  refine ⟨m,e,positive,by rw [ofInt_of_long long,rounded],short,?_⟩
  rw [lt_limit_iff,exponent]
  rcases Nat.lt_trichotomy k 970 with less | rfl | more
  · have small := div_two_pow_lt (k := 970) (j := 53) upper (by omega)
    split <;> omega
  · split <;> omega
  · have great := le_div_two_pow (k := 970) (j := 54) lower (by omega)
    split <;> omega

/-- A whole number below the limit is rounded to a finite one. -/
theorem plain_ofInt {n : Nat} (below : n < limit) : Plain (Float.ofInt n) := by
  rcases Nat.lt_or_ge n (2 ^ 53) with short | long
  · exact plain_ofInt_of_short short
  · obtain ⟨m,e,positive,rounded,short,fits⟩ := ofInt_eq_pack long
    rw [rounded]
    exact within_pack (.finite positive short (fits.mp below)) (by decide) (by decide)

/-- From the limit on, none is. -/
theorem not_finite_ofInt {n : Nat} (above : limit ≤ n) : finite (Float.ofInt n) = false := by
  have long : 2 ^ 53 ≤ n := Nat.le_of_not_lt fun short => Nat.not_lt.mpr above (lt_limit_of_short short)
  obtain ⟨m,e,positive,rounded,short,fits⟩ := ofInt_eq_pack long
  rw [rounded]
  refine not_finite_pack positive ?_
  have notKept := mt fits.mpr (Nat.not_lt.mpr above)
  omega

/-- A whole number below the limit has a form with a fraction, -/
theorem ofInt?_of_lt {n : Nat} (below : n < limit) : ofInt? n = some (Float.ofInt n) := by
  unfold ofInt?
  rw [Int.natAbs_natCast,if_pos (Nat.lt_trans below limit_lt)]
  exact if_pos (plain_ofInt below).finite

/-- and no other has. -/
theorem ofInt?_of_le {n : Nat} (above : limit ≤ n) : ofInt? n = none := by
  unfold ofInt?
  simp [not_finite_ofInt above]

end ShotRecorder.Decimal
