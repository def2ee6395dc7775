/-!
# Decimal digits

Whole numbers as lists of the ten ASCII digits, most significant first, and back.
Main statements: writing and reading undo each other (`value_write`), and what is written is never
empty and holds digits only.
-/

namespace ShotRecorder.Digits

/-- One of the ten ASCII digits. -/
def isDigit (c : Char) : Bool := '0' ≤ c && c ≤ '9'

/-- What a digit stands for. -/
def digitValue (c : Char) : Nat := c.toNat - '0'.toNat

/-- What a hexadecimal digit stands for. -/
def hexValue? (c : Char) : Option Nat :=
  if isDigit c then some (digitValue c)
  else if 'a' ≤ c && c ≤ 'f' then some (c.toNat - 'a'.toNat + 10)
  else if 'A' ≤ c && c ≤ 'F' then some (c.toNat - 'A'.toNat + 10)
  else none

/-- The digit of a number below ten. -/
def digit (n : Nat) : Char := Char.ofNat ('0'.toNat + n % 10)

/-- The number that a list of digits spells, read behind `acc`. -/
def valueFrom (acc : Nat) : List Char → Nat
  | [] => acc
  | c :: rest => valueFrom (acc * 10 + digitValue c) rest

/-- The number that a list of digits spells. -/
def value (cs : List Char) : Nat := valueFrom 0 cs

/-- A number in decimal digits, without leading zeros. -/
def write (n : Nat) : List Char :=
  if n < 10 then [digit n] else write (n / 10) ++ [digit n]

/-- The leading digits of a text, and what follows them. -/
def span (cs : List Char) : List Char × List Char := (cs.takeWhile isDigit, cs.dropWhile isDigit)

private theorem digit_facts :
    ∀ m : Fin 10, isDigit (digit m) = true ∧ digitValue (digit m) = m := by
  decide +kernel

private theorem digit_mod (n : Nat) : digit (n % 10) = digit n := by
  simp [digit]

theorem digit_isDigit (n : Nat) : isDigit (digit n) = true :=
  digit_mod n ▸ (digit_facts ⟨n % 10, Nat.mod_lt _ (by decide)⟩).1

theorem digitValue_digit (n : Nat) : digitValue (digit n) = n % 10 :=
  digit_mod n ▸ (digit_facts ⟨n % 10, Nat.mod_lt _ (by decide)⟩).2

theorem valueFrom_append (acc : Nat) (cs ds : List Char) :
    valueFrom acc (cs ++ ds) = valueFrom (valueFrom acc cs) ds := by
  induction cs generalizing acc with
  | nil => rfl
  | cons c rest ih => exact ih _

/-- A further digit adds its worth to ten times what stands before it. -/
theorem value_append_digit (cs : List Char) (n : Nat) :
    value (cs ++ [digit n]) = value cs * 10 + n % 10 := by
  rw [value, valueFrom_append, ← digitValue_digit]
  rfl

/-- Reading what was written gives the number back. -/
theorem value_write (n : Nat) : value (write n) = n := by
  induction n using write.induct with
  | case1 n small =>
    have last : value [digit n] = n % 10 := (value_append_digit [] n).trans (Nat.zero_add _)
    rw [write, if_pos small, last, Nat.mod_eq_of_lt small]
  | case2 n large ih =>
    rw [write, if_neg large, value_append_digit, ih, Nat.div_add_mod']

theorem write_ne_nil (n : Nat) : write n ≠ [] := by
  rw [write]
  split <;> simp

theorem all_isDigit_write (n : Nat) : (write n).all isDigit = true := by
  fun_induction write n with
  | case1 n h => simp [digit_isDigit]
  | case2 n h ih => simp [List.all_append, ih, digit_isDigit]

end ShotRecorder.Digits
