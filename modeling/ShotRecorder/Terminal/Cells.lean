import ShotRecorder.Terminal.Cells.Table

/-!
# Cells

How many cells of a terminal a text takes, and texts made as wide as told. A joiner makes one
picture of the characters on both sides of it, as wide as the one before it; a selector makes a
picture of the sign before it, which is wider than the sign. A text is cut between its pictures, not
within.
-/

namespace ShotRecorder.Cells

/-- The joiner of pictures. -/
def joiner : Char := Char.ofNat 0x200D

/-- The selector that makes a picture of a sign. -/
def selector : Char := Char.ofNat 0xFE0F

/-! ### Measuring -/

/-- A text while it is measured. -/
structure Measuring where
  cells : Nat := 0
  /-- The last character that was seen, unless it was made a picture. -/
  last : Option Char := none
  /-- Whether a joiner stands before what follows. -/
  isJoined : Bool := false

namespace Measuring

/-- The cells that a selector adds. -/
def growth (m : Measuring) : Nat := if m.last.any isSign then 1 else 0

/-- One more character. -/
def step (m : Measuring) (c : Char) : Measuring :=
  if m.isJoined then { m with isJoined := false }
  else if c = joiner then { m with isJoined := true }
  else if c = selector then { m with cells := m.cells + m.growth, last := none }
  else if ofChar c = 0 then m
  else { m with cells := m.cells + ofChar c, last := some c }

end Measuring

/-- The cells of a text. -/
def ofList (cs : List Char) : Nat := (cs.foldl Measuring.step {}).cells

/-! ### Cutting -/

/-- Characters that are shown as one, and their cells. -/
structure Cluster where
  chars : List Char
  cells : Nat

/-- A text while it is divided into clusters, the last of them in front. -/
structure Dividing where
  clusters : List Cluster := []
  last : Option Char := none
  isJoined : Bool := false

namespace Dividing

/-- A cluster of its own behind the others. -/
def start (d : Dividing) (c : Char) (cells : Nat) : Dividing :=
  { d with clusters := ⟨[c], cells⟩ :: d.clusters }

/-- A character put to the last cluster, which it makes wider; a first one stands alone. -/
def extend (d : Dividing) (c : Char) (growth : Nat) : Dividing :=
  match d.clusters with
  | [] => d.start c 0
  | cluster :: rest =>
    { d with clusters := ⟨cluster.chars ++ [c], cluster.cells + growth⟩ :: rest }

/-- One more character. -/
def step (d : Dividing) (c : Char) : Dividing :=
  if d.isJoined then { d.extend c 0 with isJoined := false }
  else if c = joiner then { d.extend c 0 with isJoined := !d.clusters.isEmpty }
  else if c = selector then
    if d.last.any isSign then { d.extend c 1 with last := none } else d.extend c 0
  else if ofChar c = 0 then d.extend c 0
  else { d.start c (ofChar c) with last := some c }

end Dividing

/-- The clusters of a text. -/
def clusters (cs : List Char) : List Cluster := (cs.foldl Dividing.step {}).clusters.reverse

/-- The front of clusters that fits into a number of cells; half of a wide cluster is left blank. -/
def front : (width : Nat) → List Cluster → List Char
  | 0, _ => []
  | _, [] => []
  | width, c :: rest =>
    if c.cells ≤ width then c.chars ++ front (width - c.cells) rest else [' ']

/-- A text made as wide as told: cut, or filled with blanks. -/
def fit (width : Nat) (cs : List Char) : List Char :=
  if ofList cs ≤ width then cs ++ List.replicate (width - ofList cs) ' '
  else front width (clusters cs)

/-- A text cut to a width where it is wider. -/
def crop (width : Nat) (cs : List Char) : List Char :=
  if width < ofList cs then fit width cs else cs

end ShotRecorder.Cells
