import ShotRecorder.Json.Writer

/-!
# Values inside messages

How a value is shown in a message for people: texts in quotes, and the words `None`, `True` and
`False`. A value that is itself the message is given plainly, a text without its quotes.
-/

namespace ShotRecorder

/-- A number inside a message. -/
def Number.shown : Number → String
  | .int n => String.ofList (Json.intText n)
  | .float x => Decimal.text x

namespace Json

mutual

/-- A value inside a message. -/
def shown : Json → String
  | null => "None"
  | bool true => "True"
  | bool false => "False"
  | number n => n.shown
  | string s => Quoted.encode s
  | array items => "[" ++ shownItems items ++ "]"
  | object members => "\x7b" ++ shownMembers members ++ "\x7d"

def shownItems : List Json → String
  | [] => ""
  | [item] => shown item
  | item :: rest => shown item ++ ", " ++ shownItems rest

def shownMembers : List (String × Json) → String
  | [] => ""
  | [(key, value)] => Quoted.encode key ++ ": " ++ shown value
  | (key, value) :: rest => Quoted.encode key ++ ": " ++ shown value ++ ", " ++ shownMembers rest

end

/-- The name of a value's type inside a message. -/
def typeName : Json → String
  | null => "NoneType"
  | bool _ => "bool"
  | number (.int _) => "int"
  | number (.float _) => "float"
  | string _ => "str"
  | array _ => "list"
  | object _ => "dict"

/-- A value as the message itself. -/
def plain : Json → String
  | string s => s
  | other => other.shown

end Json

end ShotRecorder
