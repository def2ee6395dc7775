/-!
# The words of a command line

Words are options or arguments. A long option starts with two dashes and may carry its value behind
an equals sign; short options start with one dash and may be run together, and a value may follow
without a blank. Otherwise the value of an option is the next word, whatever it looks like. After a
word of two dashes no word is an option.
-/

namespace ShotRecorder.Command

/-- What a word has in front of its first equals sign, and behind it. -/
def cut (word : String) : String × Option String :=
  let cs := word.toList
  let front := cs.takeWhile (· != '=')
  match cs.drop front.length with
  | [] => (word, none)
  | _ :: value => (String.ofList front, some (String.ofList value))

/-- The options of a command, by the keys of a type. -/
structure Options (κ : Type) where
  long : List (String × κ)
  short : List (Char × κ)
  takesValue : κ → Bool
  /-- Whether options may stand behind arguments. -/
  mixed : Bool

/-- Why words are no command. -/
inductive Misuse where
  | noOption (word : String)
  | noValue
  | idleValue (word : String)
  | noCommand (word : String)
  | commandMissing
  | argumentMissing
  | extraArgument (word : String)
  | badNumber (word : String)
  | badFile (path : String)
  deriving DecidableEq, Repr

/-- The wording of a misuse. -/
def Misuse.message : Misuse → String
  | noOption word => "no such option: " ++ word
  | noValue => "the last option lacks its value"
  | idleValue word => "an option takes no value: " ++ word
  | noCommand word => "no such command: " ++ word
  | commandMissing => "a command is missing"
  | argumentMissing => "an argument is missing"
  | extraArgument word => "one argument too many: " ++ word
  | badNumber word => "not a whole number from 0 on: " ++ word
  | badFile path => "no such file: " ++ path

/-- The options and the arguments found in words, in order. -/
structure Sorted (κ : Type) where
  options : List (κ × String) := []
  arguments : List String := []

namespace Sorted

variable {κ : Type}

/-- Options in front. -/
def withOptions (found : List (κ × String)) (s : Sorted κ) : Sorted κ :=
  { s with options := found ++ s.options }

/-- An argument in front. -/
def withArgument (word : String) (s : Sorted κ) : Sorted κ :=
  { s with arguments := word :: s.arguments }

end Sorted

/-- The options found in one word, and one more that still needs its value. -/
structure Found (κ : Type) where
  options : List (κ × String) := []
  waiting : Option κ := none

namespace Options

variable {κ : Type}

/-- The options of short letters. -/
def ofLetters (o : Options κ) (word : String) : List Char → Except Misuse (Found κ)
  | [] => .ok {}
  | c :: rest =>
    match o.short.lookup c with
    | none => .error (.noOption word)
    | some key =>
      if o.takesValue key then
        if rest.isEmpty then .ok { waiting := some key }
        else .ok { options := [(key, String.ofList rest)] }
      else (o.ofLetters word rest).map fun found =>
        { found with options := (key, "") :: found.options }

/-- The options of a word that starts with a dash. -/
def ofWord (o : Options κ) (word : String) : Except Misuse (Found κ) :=
  let (name, value) := cut word
  match o.long.lookup name with
  | some key =>
    match o.takesValue key, value with
    | true, some value => .ok { options := [(key, value)] }
    | true, none => .ok { waiting := some key }
    | false, some _ => .error (.idleValue word)
    | false, none => .ok { options := [(key, "")] }
  | none =>
    if "--".isPrefixOf word then .error (.noOption word) else o.ofLetters word (word.toList.drop 1)

/-- Whether a word is read as options. -/
def isOption (word : String) : Bool := "-".isPrefixOf word && word != "-"

/-- The words sorted. -/
def sort (o : Options κ) : List String → Except Misuse (Sorted κ)
  | [] => .ok {}
  | word :: rest =>
    if word = "--" then .ok { arguments := rest }
    else if isOption word then
      match o.ofWord word with
      | .error misuse => .error misuse
      | .ok found =>
        match found.waiting, rest with
        | none, rest => (o.sort rest).map (·.withOptions found.options)
        | some key, value :: rest =>
          (o.sort rest).map (·.withOptions (found.options ++ [(key, value)]))
        | some _, [] => .error .noValue
    else if o.mixed then (o.sort rest).map (·.withArgument word)
    else .ok { arguments := word :: rest }

end Options

end ShotRecorder.Command
