/-!
# Capital letters

The capital form of the letters whose capitals are all within `A` to `Z`: the small ASCII letters,
and a few others such as dotless i and the ligatures. Every other character has a capital form with
a character outside that range, and is kept.
-/

namespace ShotRecorder.Capital

/-- The letters beyond ASCII with a capital form within `A` to `Z`. -/
def beyondAscii : List (Char × List Char) :=
  [('ß', ['S', 'S']), ('ı', ['I']), ('ſ', ['S']), ('ﬀ', ['F', 'F']), ('ﬁ', ['F', 'I']),
   ('ﬂ', ['F', 'L']), ('ﬃ', ['F', 'F', 'I']), ('ﬄ', ['F', 'F', 'L']), ('ﬅ', ['S', 'T']),
   ('ﬆ', ['S', 'T'])]

/-- The capital form of a character. -/
def ofChar (c : Char) : List Char :=
  if 'a' ≤ c && c ≤ 'z' then [c.toUpper]
  else (beyondAscii.lookup c).getD [c]

/-- The capital form of a text. -/
def ofList (cs : List Char) : List Char := cs.flatMap ofChar

end ShotRecorder.Capital
