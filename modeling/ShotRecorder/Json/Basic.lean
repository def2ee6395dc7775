import ShotRecorder.Decimal.Reading

/-!
# JSON values

Values as they are received, kept and written. A number keeps the form it was written in, and an
object keeps its members in order; a repeated key keeps its first place and its last value.
-/

namespace ShotRecorder

/-- A number: whole, or written with a point or an exponent. -/
inductive Number where
  | int (value : Int)
  | float (value : Float)
  deriving Inhabited

/-- A JSON value. -/
inductive Json where
  | null
  | bool (value : Bool)
  | number (value : Number)
  | string (value : String)
  | array (items : List Json)
  | object (members : List (String × Json))
  deriving Inhabited

/-- The members of an object, in order. -/
abbrev Members := List (String × Json)

/-! ### Members -/

namespace Members

/-- The value of a key. -/
def get? (members : Members) (key : String) : Option Json := members.lookup key

/-- A value under a key: in place of the key's value, or as a new last member. -/
def set : Members → String → Json → Members
  | [], key, value => [(key, value)]
  | (k, v) :: rest, key, value =>
    if k = key then (k, value) :: rest else (k, v) :: set rest key value

/-- Members of a list that may repeat keys. -/
def ofList (pairs : List (String × Json)) : Members :=
  pairs.foldl (fun members (key, value) => members.set key value) []

/-- Every member of the second list set in the first. -/
def update (members others : Members) : Members :=
  others.foldl (fun members (key, value) => members.set key value) members

theorem get?_set (members : Members) (key other : String) (value : Json) :
    (members.set key value).get? other =
      if other = key then some value else members.get? other := by
  unfold get?
  induction members with
  | nil =>
    by_cases h : other = key
    · simp [set, h]
    · simp [set, List.lookup_cons, h, beq_false_of_ne h]
  | cons entry rest ih =>
    obtain ⟨k, v⟩ := entry
    by_cases same : k = key
    · subst same
      by_cases h : other = k
      · simp [set, h]
      · simp [set, List.lookup_cons, h, beq_false_of_ne h]
    · by_cases h : other = k
      · subst h
        simp [set, same]
      · simp [set, same, List.lookup_cons, ih, beq_false_of_ne h]

end Members

/-! ### Numbers -/

namespace Number

/-- The number as a binary one, unless it is a whole number beyond all of them. -/
def toFloat? : Number → Option Float
  | int n => Decimal.ofInt? n
  | float x => some x

/-- Whether the number is written with a fraction and is an infinity or undefined. -/
def isNonFinite : Number → Bool
  | int _ => false
  | float x => !Decimal.finite x

/-- Below zero; negative zero is not. -/
def isNegative : Number → Bool
  | int n => n < 0
  | float x => x < 0.0

/-- The whole number of the same value, if there is one. -/
def toInt? : Number → Option Int
  | int n => some n
  | float x =>
    let b := Decimal.Binary.ofFloat x
    if Decimal.finite x && b.isWhole then some b.truncate else none

/-- Equal value, whatever the form; an undefined number counts as equal to itself. -/
def same (a b : Number) : Bool :=
  match a.toInt?, b.toInt?, a, b with
  | some m, some n, _, _ => m == n
  | none, none, float x, float y => x == y || (x.isNaN && y.isNaN)
  | _, _, _, _ => false

end Number

namespace Json

/-- The value of a key, if this is an object that has it. -/
def get? : Json → String → Option Json
  | object members, key => members.lookup key
  | _, _ => none

/-- The number that a value counts as: truth values count as one and zero. -/
def asNumber? : Json → Option Number
  | number n => some n
  | bool b => some (.int (if b then 1 else 0))
  | _ => none

mutual

/-- Equal as data: numbers by value, truth values as numbers, objects without order. -/
def same : Json → Json → Bool
  | null, null => true
  | string s, string t => s == t
  | array xs, array ys => sameItems xs ys
  | object ms, object ns => ms.length == ns.length && sameMembers ms ns
  | bool a, other => sameNumber (.int (if a then 1 else 0)) other
  | number a, other => sameNumber a other
  | _, _ => false

/-- Equal items, one by one. -/
def sameItems : List Json → List Json → Bool
  | [], [] => true
  | x :: xs, y :: ys => same x y && sameItems xs ys
  | _, _ => false

/-- Every member has an equal one under the same key among the others. -/
def sameMembers : List (String × Json) → List (String × Json) → Bool
  | [], _ => true
  | (key, value) :: rest, others =>
    (match others.lookup key with
      | some other => same value other
      | none => false) && sameMembers rest others

/-- A value that counts as the given number. -/
def sameNumber (a : Number) : Json → Bool
  | bool b => a.same (.int (if b then 1 else 0))
  | number b => a.same b
  | _ => false

end

mutual

/-- The value as it is written out: a number without a finite value becomes null. -/
def writable : Json → Json
  | number n => if n.isNonFinite then null else number n
  | array items => array (writableItems items)
  | object members => object (writableMembers members)
  | other => other

def writableItems : List Json → List Json
  | [] => []
  | item :: rest => writable item :: writableItems rest

def writableMembers : List (String × Json) → List (String × Json)
  | [] => []
  | (key, value) :: rest => (key, writable value) :: writableMembers rest

end

mutual

/-- Whether a number without a finite value occurs anywhere. -/
def hasNonFinite : Json → Bool
  | number n => n.isNonFinite
  | array items => anyNonFinite items
  | object members => anyMemberNonFinite members
  | _ => false

def anyNonFinite : List Json → Bool
  | [] => false
  | item :: rest => hasNonFinite item || anyNonFinite rest

def anyMemberNonFinite : List (String × Json) → Bool
  | [] => false
  | (_, value) :: rest => hasNonFinite value || anyMemberNonFinite rest

end

end Json

end ShotRecorder
