import ShotRecorder.Proofs.Rounding

/-!
Sums of binary numbers that are not negative. Such numbers are ordered as their bits are, read as whole numbers
(`le_iff_place_le`), and the place of a sum among them is that of the exact sum, rounded (`place_add`). Rounding keeps
the order, so that a sum is not below its parts, and does not fall when a part grows (`Timely.le_add`,
`Timely.add_le_add`); all this holds up to infinity.
-/
namespace ShotRecorder.Decimal

open Float.Model Float.Model.UnpackedFloat

/-! ### Rounding keeps the order -/

/-- A mantissa with the two digits that are kept behind it, the last of which tells whether any others were cut off. -/
def weight (em : ExtendedMantissa) : Nat := 4 * em.mantissa + 2 * em.roundBit.toNat + em.stickyBit.toNat

theorem weight_shiftRightOne {em other : ExtendedMantissa} (le : weight em ≤ weight other) :
    weight em.shiftRightOne ≤ weight other.shiftRightOne := by
  have bit : ∀ m : Nat, (m % 2 != 0).toNat = m % 2 := fun m => by
    rcases Nat.mod_two_eq_zero_or_one m with even | odd
    · simp [even]
    · simp [odd]
  obtain ⟨m,round,sticky⟩ := em
  obtain ⟨n,round',sticky'⟩ := other
  unfold weight at le ⊢
  simp only [ExtendedMantissa.shiftRightOne,bit] at le ⊢
  cases round <;> cases sticky <;> cases round' <;> cases sticky' <;>
    simp only [Bool.toNat_true,Bool.toNat_false,Bool.or_true,Bool.or_false] at le ⊢ <;> omega

theorem weight_shiftRight {em other : ExtendedMantissa} (le : weight em ≤ weight other) (k : Nat) :
    weight (em >>> k) ≤ weight (other >>> k) := by
  induction k with
  | zero => exact le
  | succ k ih => exact weight_shiftRightOne ih

theorem roundedMantissa_mono {em other : ExtendedMantissa} (le : weight em ≤ weight other) :
    em.roundedMantissa ≤ other.roundedMantissa := by
  obtain ⟨m,_ | _,_ | _⟩ := em <;> obtain ⟨n,_ | _,_ | _⟩ := other <;>
    simp only [weight,ExtendedMantissa.roundedMantissa,ExtendedMantissa.accuracy,Accuracy.roundToNearestEven,
      Bool.toNat_true,Bool.toNat_false] at le ⊢ <;> omega

/-- A whole number without its last digits, rounded. -/
def rounded (n k : Nat) : Nat := (ExtendedMantissa.ofMantissaAndAccuracy n .exact >>> k).roundedMantissa

theorem rounded_mono {n m : Nat} (le : n ≤ m) (k : Nat) : rounded n k ≤ rounded m k := by
  refine roundedMantissa_mono (weight_shiftRight ?_ k)
  simp only [weight,ExtendedMantissa.ofMantissaAndAccuracy]
  omega

theorem rounded_near (n k : Nat) : n / 2 ^ k ≤ rounded n k ∧ rounded n k ≤ n / 2 ^ k + 1 := by
  have near := roundedMantissa_near (ExtendedMantissa.ofMantissaAndAccuracy n .exact >>> k)
  rw [mantissa_shiftRight] at near
  exact near

theorem rounded_zero (n : Nat) : rounded n 0 = n := rfl

theorem shiftRight_succ (em : ExtendedMantissa) (k : Nat) : em >>> (k + 1) = em.shiftRightOne >>> k := by
  induction k with
  | zero => rfl
  | succ k ih => exact congrArg ExtendedMantissa.shiftRightOne ih

/-- Zeros behind a number are cut off without a trace. -/
theorem rounded_mul_two_pow (n k j : Nat) : rounded (n * 2 ^ j) (k + j) = rounded n k := by
  induction j with
  | zero => rw [Nat.pow_zero,Nat.mul_one,Nat.add_zero]
  | succ j ih =>
    have twice : n * 2 ^ (j + 1) = 2 * (n * 2 ^ j) := by
      rw [Nat.pow_succ]
      ac_rfl
    have halved : (ExtendedMantissa.ofMantissaAndAccuracy (2 * (n * 2 ^ j)) .exact).shiftRightOne =
        .ofMantissaAndAccuracy (n * 2 ^ j) .exact := by
      simp [ExtendedMantissa.shiftRightOne,ExtendedMantissa.ofMantissaAndAccuracy]
    rw [← ih,twice,rounded,rounded,← Nat.add_assoc,shiftRight_succ,halved]

/-! ### Places -/

/-- How many of the least steps it takes from zero to the number at a place: places in a row of `2 ^ 52` are equally
    far from each other, and from one row to the next twice as far. -/
def units (place : Nat) : Nat := (place - (place / 2 ^ 52 - 1) * 2 ^ 52) * 2 ^ (place / 2 ^ 52 - 1)

/-- The place next to a number of least steps. -/
def placeOf (n : Nat) : Nat := (n.log2 - 52) * 2 ^ 52 + rounded n (n.log2 - 52)

theorem units_add {m k : Nat} (short : m < 2 ^ 53) (normal : 0 < k → 2 ^ 52 ≤ m) :
    units (k * 2 ^ 52 + m) = m * 2 ^ k := by
  have row : (k * 2 ^ 52 + m) / 2 ^ 52 - 1 = k := by omega
  rw [units,row,Nat.add_sub_cancel_left]

/-- Every place is one in a row. -/
theorem exists_row (place : Nat) : ∃ m k, m < 2 ^ 53 ∧ (0 < k → 2 ^ 52 ≤ m) ∧ place = k * 2 ^ 52 + m :=
  ⟨place - (place / 2 ^ 52 - 1) * 2 ^ 52,place / 2 ^ 52 - 1,by omega,by omega,by omega⟩

theorem units_mono {place other : Nat} (le : place ≤ other) : units place ≤ units other := by
  obtain ⟨m,k,short,normal,rfl⟩ := exists_row place
  obtain ⟨n,l,short',normal',rfl⟩ := exists_row other
  rw [units_add short normal,units_add short' normal']
  rcases Nat.lt_trichotomy k l with less | rfl | more
  · obtain ⟨d,rfl⟩ : ∃ d, l = k + (d + 1) := ⟨l - k - 1,by omega⟩
    have double : m ≤ n * 2 ^ (d + 1) := by
      have one : 2 * 1 ≤ 2 ^ (d + 1) := by
        rw [Nat.pow_succ,Nat.mul_comm]
        exact Nat.mul_le_mul (Nat.two_pow_pos d) (Nat.le_refl 2)
      calc m ≤ 2 ^ 52 * 2 := by omega
        _ ≤ n * 2 ^ (d + 1) := Nat.mul_le_mul (normal' (by omega)) one
    rw [Nat.add_comm k,Nat.pow_add,← Nat.mul_assoc]
    exact Nat.mul_le_mul_right _ double
  · exact Nat.mul_le_mul_right _ (by omega)
  · have large := normal (by omega)
    omega

/-- Numbers that have a place of their own are not moved. -/
theorem placeOf_units (place : Nat) : placeOf (units place) = place := by
  obtain ⟨m,k,short,normal,rfl⟩ := exists_row place
  rw [units_add short normal]
  rcases Nat.eq_zero_or_pos k with rfl | row
  · have digits : m.log2 - 52 = 0 := by
      have few := log2_le_of_short short
      omega
    rw [Nat.pow_zero,Nat.mul_one,placeOf,digits,rounded_zero]
  · have large := normal row
    have digits : m.log2 = 52 := (Nat.log2_eq_iff (by omega)).mpr ⟨large,short⟩
    have scaled : (m * 2 ^ k).log2 - 52 = 0 + k := by
      rw [log2_mul_two_pow k (by omega),digits]
      omega
    rw [placeOf,scaled,rounded_mul_two_pow,rounded_zero,Nat.zero_add]

theorem placeOf_mono {n m : Nat} (le : n ≤ m) : placeOf n ≤ placeOf m := by
  have digits : n.log2 ≤ m.log2 := by
    rcases Nat.eq_zero_or_pos n with rfl | some
    · rw [Nat.log2_zero]
      exact Nat.zero_le _
    · exact (Nat.le_log2 (by omega)).mpr ((Nat.log2_self_le (by omega)).trans le)
  unfold placeOf
  rcases Nat.eq_or_lt_of_le (Nat.sub_le_sub_right digits 52) with same | less
  · rw [same]
    exact Nat.add_le_add_left (rounded_mono le _) _
  · -- A number of more digits stands in a later row, at least at its start.
    have short : n / 2 ^ (n.log2 - 52) < 2 ^ 53 := div_two_pow_lt Nat.lt_log2_self (by omega)
    have some : m ≠ 0 := by
      rintro rfl
      rw [Nat.log2_zero] at less
      omega
    have long : 2 ^ 52 ≤ m / 2 ^ (m.log2 - 52) := le_div_two_pow (Nat.log2_self_le some) (by omega)
    have upper := (rounded_near n (n.log2 - 52)).2
    have lower := (rounded_near m (m.log2 - 52)).1
    omega

/-! ### Packed numbers -/

section Packed

/-- The place of a number that is not negative among all such numbers: its bits, read as a whole number. -/
def place (x : Float) : Nat := x.toModel.toBits.toNat

/-- The place of infinity. -/
def top : Nat := 2047 * 2 ^ 52

theorem toNat_packComponents (exponent : BitVec 11) (mantissa : BitVec 52) :
    (packComponents Format.binary64 .positive exponent mantissa).toNat = exponent.toNat * 2 ^ 52 + mantissa.toNat := by
  have sign : (Sign.toBitVec .positive ++ exponent).toNat = exponent.toNat := by
    rw [BitVec.toNat_append]
    simp [Sign.toBitVec]
  change (Sign.toBitVec .positive ++ exponent ++ mantissa : BitVec 64).toNat = _
  rw [BitVec.toNat_append,sign,← Nat.shiftLeft_add_eq_or_of_lt mantissa.isLt,Nat.shiftLeft_eq]

theorem place_pack (u : UnpackedFloat) : place ⟨Float.Model.pack u⟩ = (UnpackedFloat.pack Format.binary64 u).toNat := rfl

theorem place_infinity : place ⟨Float.Model.pack (.infinity .positive)⟩ = top := rfl

theorem place_zero : place ⟨Float.Model.pack (.zero .positive)⟩ = 0 := rfl

/-- From the last row on, numbers are packed as infinity. -/
theorem place_finite {m k : Nat} (positive : 0 < m) (short : m < 2 ^ 53) (normal : 0 < k → 2 ^ 52 ≤ m) :
    place ⟨Float.Model.pack (.finite .positive m (k - 1074) positive)⟩ = min top (k * 2 ^ 52 + m) := by
  have bias : (Format.binary64.exponentBias : Int) = 1023 := rfl
  have biased : ((k : Int) - 1074 + 1023 + (52 : Nat)).toNat = k + 1 := by omega
  rw [place_pack]
  simp only [UnpackedFloat.pack,bias,biased]
  split
  · rename_i last
    have infinite : (packedInfinity Format.binary64 .positive).toNat = top := rfl
    have large := normal (by omega)
    rw [infinite,Nat.min_eq_left]
    unfold top
    omega
  · rename_i inside
    rw [Nat.min_eq_right (by unfold top; omega)]
    split
    · rename_i digits
      have large : 2 ^ 52 ≤ m := (Nat.le_log2 (by omega)).mp (Nat.le_of_eq (Nat.succ.inj digits).symm)
      rw [toNat_packComponents,BitVec.toNat_ofNat,BitVec.toNat_ofNat]
      omega
    · rename_i digits
      have small : m < 2 ^ 52 := by
        refine Nat.lt_of_not_le fun large => digits ?_
        rw [(Nat.log2_eq_iff (by omega)).mpr ⟨large,short⟩]
        rfl
      have row : k = 0 := by omega
      rw [toNat_packComponents,BitVec.toNat_ofNat,row]
      simp
      omega

/-- A number that is rounded is packed at the place next to it. -/
theorem place_roundWithAccuracy {m : Nat} {e : Int} (positive : 0 < m) (least : -1074 ≤ e)
    (spread : e ≤ max (m.log2 + 1 + e - 53) (-1074)) :
    place ⟨Float.Model.pack (roundWithAccuracy Format.binary64 .positive m e .exact)⟩ =
      min top (placeOf (m * 2 ^ (e + 1074).toNat)) := by
  have digits := log2_mul_two_pow (e + 1074).toNat (Nat.ne_of_gt positive)
  have shift : ∃ s k : Nat, (max (m.log2 + 1 + e - 53) (-1074) - e).toNat = s ∧ s + (e + 1074).toNat = k ∧
      (m * 2 ^ (e + 1074).toNat).log2 - 52 = k := ⟨_,_,rfl,rfl,by omega⟩
  obtain ⟨s,k,amount,sum,row⟩ := shift
  have exponent : (shifted m e .exact).2 = (k : Int) - 1074 := by
    rw [shifted_exponent]
    omega
  have mantissa : (shifted m e .exact).1.roundedMantissa = rounded m s := by
    simp only [shifted,shiftToTargetExponent,shiftToExponent,totalExponent,targetExponent_binary64,amount]
    rfl
  have whole : placeOf (m * 2 ^ (e + 1074).toNat) = k * 2 ^ 52 + rounded m s := by
    rw [placeOf,row,← sum,rounded_mul_two_pow]
  have normal : 0 < k → 2 ^ 52 ≤ rounded m s := fun later =>
    (le_div_two_pow (Nat.log2_self_le (Nat.ne_of_gt positive)) (by omega)).trans (rounded_near m s).1
  have near := (roundedMantissa_near (shifted m e .exact).1).2
  rcases Nat.lt_or_eq_of_le (Nat.le_trans near (shifted_mantissa_lt m e .exact)) with noCarry | carry
  · rw [roundWithAccuracy_of_lt noCarry,whole]
    rw [mantissa] at noCarry
    simp only [mantissa,exponent]
    split
    · rename_i none
      have first : k = 0 := by omega
      rw [place_zero,first,none]
      rfl
    · exact place_finite _ noCarry normal
  · have next : (k : Int) - 1074 + 1 = ((k + 1 : Nat) : Int) - 1074 := by omega
    rw [roundWithAccuracy_of_carry carry,whole,exponent,← mantissa,carry,next,
      place_finite _ (by decide) fun _ => Nat.le_refl _]
    exact congrArg (min top) (by omega)

/-! ### Unpacked numbers -/

variable (bits : BitVec Format.binary64.numBits)

theorem toNat_unpackMantissa : (unpackMantissa bits).toNat = bits.toNat % 2 ^ 52 := by
  simp only [unpackMantissa]
  rw [BitVec.toNat_cast,BitVec.extractLsb_toNat]
  rfl

theorem toNat_unpackExponent : (unpackExponent bits).toNat = bits.toNat / 2 ^ 52 % 2 ^ 11 := by
  simp only [unpackExponent]
  rw [BitVec.toNat_cast,BitVec.extractLsb_toNat,Nat.shiftRight_eq_div_pow]

theorem toNat_unpackSign : (unpackSign bits).toNat = bits.toNat / 2 ^ 63 % 2 := by
  simp only [unpackSign]
  rw [BitVec.toNat_cast,BitVec.extractLsb_toNat,Nat.shiftRight_eq_div_pow]

end Packed

/-! ### Numbers that are not negative -/

section Timely

variable {x y : Float}

/-- Not negative; infinity is not left out. -/
def Timely (x : Float) : Prop := place x ≤ top

instance (x : Float) : Decidable (Timely x) := inferInstanceAs (Decidable (place x ≤ top))

/-- What a number is, by its place. -/
inductive Placed : (place : Nat) → UnpackedFloat → Prop where
  | zero : Placed 0 (.zero .positive)
  | finite {m k : Nat} (positive : 0 < m) : m < 2 ^ 53 → (0 < k → 2 ^ 52 ≤ m) → k * 2 ^ 52 + m < top →
      Placed (k * 2 ^ 52 + m) (.finite .positive m (k - 1074) positive)
  | infinity : Placed top (.infinity .positive)

theorem Placed.of_finite {place m k : Nat} {e : Int} {positive : 0 < m} (row : place = k * 2 ^ 52 + m)
    (exponent : e = k - 1074) (short : m < 2 ^ 53) (normal : 0 < k → 2 ^ 52 ≤ m) (below : place < top) :
    Placed place (.finite .positive m e positive) := by
  subst row exponent
  exact .finite positive short normal below

theorem Timely.placed (timely : Timely x) : Placed (place x) x.toModel.unpack := by
  obtain ⟨bits,isBits⟩ : ∃ bits : BitVec Format.binary64.numBits, x.toModel.toBits.toBitVec = bits := ⟨_,rfl⟩
  have here : place x = bits.toNat := congrArg BitVec.toNat isBits
  unfold Timely at timely
  rw [here] at timely
  rw [Float.Model.unpack,isBits,here]
  have bias : (Format.binary64.exponentBias : Int) = 1023 := rfl
  have mantissa := toNat_unpackMantissa bits
  have exponent := toNat_unpackExponent bits
  have ones : (-1#11 : BitVec 11).toNat = 2047 := rfl
  have sign : Sign.ofBitVec (unpackSign bits) = .positive := by
    refine if_pos (BitVec.eq_of_toNat_eq ?_)
    rw [toNat_unpackSign]
    unfold top at timely
    simp
    omega
  simp only [UnpackedFloat.unpack,sign,bias]
  unfold top at timely
  rcases Nat.eq_or_lt_of_le timely with last | below
  · rw [if_pos (BitVec.eq_of_toNat_eq (by rw [exponent,ones]; omega)),
      if_pos (BitVec.eq_of_toNat_eq (by rw [mantissa]; simp; omega)),last]
    exact .infinity
  · rw [if_neg fun same => by
      have value := congrArg BitVec.toNat same
      rw [exponent,ones] at value
      omega]
    split
    · rename_i subnormal
      have first := congrArg BitVec.toNat subnormal
      rw [exponent] at first
      simp at first
      split
      · rename_i nothing
        have none := congrArg BitVec.toNat nothing
        rw [mantissa] at none
        simp at none
        have zero : bits.toNat = 0 := by omega
        rw [zero]
        exact .zero
      · refine .of_finite (k := 0) ?_ ?_ ?_ ?_ below
        · rw [mantissa]
          omega
        · rw [exponent]
          omega
        · omega
        · omega
    · rename_i normal
      have later : (unpackExponent bits).toNat ≠ 0 := fun none => normal (BitVec.eq_of_toNat_eq none)
      have whole : (1#1 ++ unpackMantissa bits).toNat = 2 ^ 52 + bits.toNat % 2 ^ 52 := by
        rw [BitVec.toNat_append,← Nat.shiftLeft_add_eq_or_of_lt (unpackMantissa bits).isLt,mantissa]
        rfl
      rw [exponent] at later
      refine .of_finite (k := bits.toNat / 2 ^ 52 - 1) ?_ ?_ ?_ ?_ below
      · rw [whole]
        omega
      · rw [exponent]
        omega
      · rw [whole]
        omega
      · rw [whole]
        omega

/-- A plain number has its sign bit and its exponent below those of infinity. -/
theorem Plain.timely (plain : Plain x) : Timely x := by
  refine Nat.le_of_not_lt fun above => ?_
  obtain ⟨bits,isBits⟩ : ∃ bits : BitVec Format.binary64.numBits, x.toModel.toBits.toBitVec = bits := ⟨_,rfl⟩
  have here : place x = bits.toNat := congrArg BitVec.toNat isBits
  have ones : (-1#11 : BitVec 11).toNat = 2047 := rfl
  have most : bits.toNat < 2 ^ 64 := bits.isLt
  unfold Plain at plain
  rw [here,top] at above
  rw [Float.Model.unpack,isBits] at plain
  simp only [UnpackedFloat.unpack] at plain
  by_cases negative : 2 ^ 63 ≤ bits.toNat
  · have sign : Sign.ofBitVec (unpackSign bits) = .negative := by
      refine if_neg fun same => ?_
      have value := congrArg BitVec.toNat same
      rw [toNat_unpackSign] at value
      simp at value
      omega
    rw [sign] at plain
    split at plain
    · split at plain <;> cases plain
    · split at plain
      · split at plain <;> cases plain
      · cases plain
  · have last : unpackExponent bits = -1#11 := BitVec.eq_of_toNat_eq (by rw [toNat_unpackExponent,ones]; omega)
    have some : unpackMantissa bits ≠ 0#52 := fun same => by
      have value := congrArg BitVec.toNat same
      rw [toNat_unpackMantissa] at value
      simp at value
      omega
    rw [if_pos last,if_neg some] at plain
    cases plain

/-! ### Sums -/

theorem Placed.le_top {p : Nat} {u : UnpackedFloat} (placed : Placed p u) : p ≤ top := by
  cases placed with
  | zero => exact Nat.zero_le _
  | finite _ _ _ below => exact Nat.le_of_lt below
  | infinity => exact Nat.le_refl _

/-- Packing a number leaves it at its place. -/
theorem Placed.place_pack {p : Nat} {u : UnpackedFloat} (placed : Placed p u) : place ⟨Float.Model.pack u⟩ = p := by
  cases placed with
  | zero => exact place_zero
  | finite positive short normal below => rw [place_finite positive short normal,Nat.min_eq_right (Nat.le_of_lt below)]
  | infinity => exact place_infinity

theorem units_zero : units 0 = 0 := rfl

theorem place_round {m : Nat} {e : Int} (positive : 0 < m) (least : -1074 ≤ e) :
    place ⟨Float.Model.pack (UnpackedFloat.round Format.binary64 .positive m e)⟩ =
      min top (placeOf (m * 2 ^ (e + 1074).toNat)) := by
  simp only [UnpackedFloat.round,decreaseExponent,targetExponent_binary64,totalExponent,Nat.shiftLeft_eq]
  generalize amount : (e - max (m.log2 + 1 + e - 53) (-1074)).toNat = s
  have scaled := log2_mul_two_pow s (Nat.ne_of_gt positive)
  rw [place_roundWithAccuracy (Nat.mul_pos positive (Nat.two_pow_pos s)) (by omega) (by rw [scaled]; omega),
    Nat.mul_assoc,← Nat.pow_add]
  have whole : s + (e - s + 1074).toNat = (e + 1074).toNat := by omega
  rw [whole]

/-- A zero adds nothing, and infinity takes everything. -/
theorem Placed.add_ends {q : Nat} {v : UnpackedFloat} (placed : Placed q v) :
    UnpackedFloat.add Format.binary64 (.zero .positive) v = v ∧
      UnpackedFloat.add Format.binary64 v (.zero .positive) = v ∧
      UnpackedFloat.add Format.binary64 (.infinity .positive) v = .infinity .positive ∧
      UnpackedFloat.add Format.binary64 v (.infinity .positive) = .infinity .positive := by
  cases placed <;> exact ⟨rfl,rfl,rfl,rfl⟩

theorem add_finite {m n k l : Nat} (positive : 0 < m) (positive' : 0 < n) :
    place ⟨Float.Model.pack (UnpackedFloat.add Format.binary64 (.finite .positive m (k - 1074) positive)
        (.finite .positive n (l - 1074) positive'))⟩ =
      min top (placeOf (m * 2 ^ k + n * 2 ^ l)) := by
  generalize exponent : min ((k : Int) - 1074) (l - 1074) = e
  have least : -1074 ≤ e := by omega
  -- Both mantissas in steps of the smaller exponent.
  have first : k = ((k : Int) - 1074 - e).toNat + (e + 1074).toNat := by omega
  have second : l = ((l : Int) - 1074 - e).toNat + (e + 1074).toNat := by omega
  have sum : 0 < m * 2 ^ ((k : Int) - 1074 - e).toNat + n * 2 ^ ((l : Int) - 1074 - e).toNat :=
    Nat.add_pos_left (Nat.mul_pos positive (Nat.two_pow_pos _)) _
  have above : ∀ s : Nat, 0 < s → compare (s : Int) 0 = .gt := fun s some => Int.compare_eq_gt.mpr (by omega)
  simp only [UnpackedFloat.add,decreaseExponent,Nat.shiftLeft_eq,Sign.apply,UnpackedFloat.normalize,exponent,
    ← Int.natCast_add,above _ sum,Int.toNat_natCast]
  rw [place_round sum least,Nat.add_mul,Nat.mul_assoc,Nat.mul_assoc,← Nat.pow_add,← Nat.pow_add,← first,← second]

/-- A sum stands at the place next to the exact sum. -/
theorem Placed.add {p q : Nat} {u v : UnpackedFloat} (first : Placed p u) (second : Placed q v) :
    place ⟨Float.Model.pack (UnpackedFloat.add Format.binary64 u v)⟩ = min top (placeOf (units p + units q)) := by
  have alone : ∀ {p u}, Placed p u → place ⟨Float.Model.pack u⟩ = min top (placeOf (units p)) := fun placed => by
    rw [placed.place_pack,placeOf_units,Nat.min_eq_right placed.le_top]
  have infinite : ∀ n, min top (placeOf (units top + n)) = top := fun n => by
    refine Nat.min_eq_left ?_
    have grows := placeOf_mono (Nat.le_add_right (units top) n)
    rwa [placeOf_units] at grows
  cases first with
  | zero => rw [second.add_ends.1,units_zero,Nat.zero_add,alone second]
  | infinity => rw [second.add_ends.2.2.1,infinite,place_infinity]
  | @finite m k positive short normal below =>
    have first := Placed.finite positive short normal below
    cases second with
    | zero => rw [first.add_ends.2.1,units_zero,Nat.add_zero,alone first]
    | infinity => rw [first.add_ends.2.2.2,Nat.add_comm,infinite,place_infinity]
    | finite positive' short' normal' below' => rw [add_finite,units_add short normal,units_add short' normal']

/-- Numbers are compared row by row, and in a row by their mantissas. -/
theorem Placed.le_iff {p q : Nat} {u v : UnpackedFloat} (first : Placed p u) (second : Placed q v) :
    UnpackedFloat.le u v = true ↔ p ≤ q := by
  have above : ∀ {k m : Nat}, 0 < m → ¬k * 2 ^ 52 + m ≤ 0 := by omega
  cases first with
  | zero =>
    refine iff_of_true ?_ (Nat.zero_le _)
    cases second <;> rfl
  | infinity =>
    cases second with
    | zero => exact iff_of_false Bool.false_ne_true (by decide)
    | finite positive short normal below => exact iff_of_false Bool.false_ne_true (Nat.not_le.mpr below)
    | infinity => exact iff_of_true rfl (Nat.le_refl _)
  | @finite m k positive short normal below =>
    cases second with
    | zero => exact iff_of_false Bool.false_ne_true (above positive)
    | infinity => exact iff_of_true rfl (Nat.le_of_lt below)
    | @finite n l positive' short' normal' below' =>
      change ((compare ((k : Int) - 1074) (l - 1074)).then (compare m n)).isLE = true ↔ _
      rcases Nat.lt_trichotomy k l with less | rfl | more
      · have earlier : compare ((k : Int) - 1074) (l - 1074) = .lt := Int.compare_eq_lt.mpr (by omega)
        have large := normal' (by omega)
        rw [earlier]
        exact iff_of_true rfl (by omega)
      · have same : compare ((k : Int) - 1074) (k - 1074) = .eq := Int.compare_eq_eq.mpr rfl
        rw [same,Nat.add_le_add_iff_left]
        exact Nat.isLE_compare
      · have later : compare ((k : Int) - 1074) (l - 1074) = .gt := Int.compare_eq_gt.mpr (by omega)
        have large := normal (by omega)
        rw [later]
        exact iff_of_false Bool.false_ne_true (by omega)

theorem le_iff_place_le (first : Timely x) (second : Timely y) : x ≤ y ↔ place x ≤ place y := by
  rw [← first.placed.le_iff second.placed]
  exact decide_eq_true_iff (p := UnpackedFloat.le x.toModel.unpack y.toModel.unpack = true)

theorem place_add (first : Timely x) (second : Timely y) :
    place (x + y) = min top (placeOf (units (place x) + units (place y))) :=
  first.placed.add second.placed

namespace Timely

variable {z : Float}

theorem add (first : Timely x) (second : Timely y) : Timely (x + y) := by
  unfold Timely
  rw [place_add first second]
  exact Nat.min_le_left _ _

theorem not_lt_zero (timely : Timely x) : ¬x < (0.0 : Float) := by
  refine fun less => absurd (of_decide_eq_true less) ?_
  change ¬UnpackedFloat.lt x.toModel.unpack (0.0 : Float).toModel.unpack = true
  rw [unpack_zero]
  have placed := timely.placed
  generalize x.toModel.unpack = u at placed
  generalize place x = p at placed
  cases placed <;> exact Bool.false_ne_true

theorem le_refl (timely : Timely x) : x ≤ x := (le_iff_place_le timely timely).mpr (Nat.le_refl _)

theorem le_trans (first : Timely x) (second : Timely y) (third : Timely z) (le : x ≤ y) (le' : y ≤ z) : x ≤ z := by
  rw [le_iff_place_le first second] at le
  rw [le_iff_place_le second third] at le'
  rw [le_iff_place_le first third]
  exact Nat.le_trans le le'

/-- A sum is not below its first part. -/
theorem le_add (first : Timely x) (second : Timely y) : x ≤ x + y := by
  rw [le_iff_place_le first (first.add second),place_add first second]
  refine Nat.le_min.mpr ⟨first,?_⟩
  have grows := placeOf_mono (Nat.le_add_right (units (place x)) (units (place y)))
  rwa [placeOf_units] at grows

/-- A sum does not fall when its first part grows. -/
theorem add_le_add (first : Timely x) (second : Timely y) (third : Timely z) (le : x ≤ y) : x + z ≤ y + z := by
  rw [le_iff_place_le first second] at le
  rw [le_iff_place_le (first.add third) (second.add third),place_add first third,place_add second third]
  exact min_le_min_left top (placeOf_mono (Nat.add_le_add_right (units_mono le) _))

end Timely

end Timely

end ShotRecorder.Decimal
