import ShotRecorder.Json.Basic

/-!
# Texts in values

The texts of a value are its strings and its keys, in the order in which they are written.
-/

namespace ShotRecorder.Json

mutual

/-- The texts of a value. -/
def texts : Json → List String
  | string s => [s]
  | array items => textsOfItems items
  | object members => textsOfMembers members
  | _ => []

def textsOfItems : List Json → List String
  | [] => []
  | item :: rest => texts item ++ textsOfItems rest

def textsOfMembers : List (String × Json) → List String
  | [] => []
  | (key, value) :: rest => key :: texts value ++ textsOfMembers rest

end

mutual

/-- A value whose texts are changed. -/
def mapTexts (change : String → String) : Json → Json
  | string s => string (change s)
  | array items => array (mapTextsOfItems change items)
  | object members => object (mapTextsOfMembers change members)
  | other => other

def mapTextsOfItems (change : String → String) : List Json → List Json
  | [] => []
  | item :: rest => mapTexts change item :: mapTextsOfItems change rest

def mapTextsOfMembers (change : String → String) : List (String × Json) → List (String × Json)
  | [] => []
  | (key, value) :: rest => (change key, mapTexts change value) :: mapTextsOfMembers change rest

end

end ShotRecorder.Json
