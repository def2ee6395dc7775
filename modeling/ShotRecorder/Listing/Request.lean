import ShotRecorder.Command.Words
import ShotRecorder.Text.Numeral

/-!
# Requests for listings

The words of a command line that asks for a listing: the file is named by one option, whose name may
be cut short, and there are no arguments. An argument is a misuse only if no help is asked for.
-/

namespace ShotRecorder.Listing

/-- What the words of a command line ask for. -/
inductive Request where
  | help
  | misuse
  /-- A listing of the sample. -/
  | sample
  | file (path : String)
  deriving DecidableEq, Repr

/-- The options: help, or the file that is read. -/
inductive Key where
  | help
  | file
  deriving DecidableEq, Repr

/-- The options by their full names. -/
def names : List (String × Key) :=
  [("-h", .help), ("--help", .help), ("--file", .file), ("-f", .file)]

/-- A text without the line feed at its end, if it has one. -/
def withoutLineEnd (cs : List Char) : List Char :=
  if cs.getLast? == some '\n' then cs.dropLast else cs

/-- A word that reads as a negative number; a line feed may end it. -/
def isNegativeNumber (word : String) : Bool :=
  match withoutLineEnd word.toList with
  | '-' :: rest =>
    let whole := rest.takeWhile fun c => (Numeral.digitValue? c).isSome
    match rest.drop whole.length with
    | [] => !whole.isEmpty
    | '.' :: fraction => !fraction.isEmpty && fraction.all fun c => (Numeral.digitValue? c).isSome
    | _ => false
  | _ => false

/-- How a word is read. -/
inductive Reading where
  /-- An option, and the value behind its equals sign. -/
  | option (key : Key) (value : Option String)
  /-- A short option, and the characters right behind it. -/
  | letters (key : Key) (behind : List Char)
  /-- The start of more than one name. -/
  | ambiguous
  | unknown
  | argument
  deriving DecidableEq, Repr

/-- The option that a long word is the start of. -/
def ofStart (name : String) (value : Option String) : Reading :=
  match names.filter fun (long, _) => name.isPrefixOf long with
  | [] => .unknown
  | [(_, key)] => .option key value
  | _ => .ambiguous

/-- The option that a word stands for, although it is not its full name. -/
def ofPart (word name : String) (value : Option String) : Reading :=
  if "--".isPrefixOf word then ofStart name value
  else match word.toList with
    | '-' :: c :: behind =>
      match names.lookup (String.ofList ['-', c]) with
      | some key => .letters key behind
      | none => .unknown
    | _ => .unknown

/-- How a word is read. -/
def reading (word : String) : Reading :=
  let (name, value) := Command.cut word
  if !"-".isPrefixOf word || word = "-" then .argument
  else match names.lookup name with
    | some key => .option key value
    | none =>
      match ofPart word name value with
      | .unknown =>
        if isNegativeNumber word || word.toList.contains ' ' then .argument else .unknown
      | found => found

/-- Whether the letters behind the short option for help end with one that needs a value. -/
def needsValue : List Char → Bool
  | 'h' :: rest => needsValue rest
  | ['f'] => true
  | _ => false

/-- The listing that is asked for, when a file was named or not. -/
def ofFileName (file : Option String) : Request :=
  match file with
  | some path => if path.isEmpty then .sample else .file path
  | none => .sample

/-- Whether a value for an option follows. -/
def hasValue : List String → Bool
  | [] => false
  | word :: _ => word != "--" && reading word = .argument

/-- What words ask for, after a file was named or not, and after arguments or not. -/
def ofWordsFrom (file : Option String) (arguments : Bool) : List String → Request
  | [] => if arguments then .misuse else ofFileName file
  | word :: rest =>
    if word = "--" then .misuse
    else match reading word with
      | .ambiguous => .misuse
      | .unknown | .argument => ofWordsFrom file true rest
      | .option .help none => .help
      | .option .help (some _) => .misuse
      | .letters .help behind => if needsValue behind && !hasValue rest then .misuse else .help
      | .option .file (some path) => ofWordsFrom (some path) arguments rest
      | .letters .file behind => ofWordsFrom (some (String.ofList behind)) arguments rest
      | .option .file none =>
        match rest with
        | [] => .misuse
        | path :: after =>
          if hasValue (path :: after) then ofWordsFrom (some path) arguments after else .misuse

/-- Whether a word up to two dashes is the start of more than one name. -/
def isAmbiguous (words : List String) : Bool :=
  (words.takeWhile (· != "--")).any fun word => reading word = .ambiguous

/-- What the words of a command line ask for. -/
def ofWords (words : List String) : Request :=
  if isAmbiguous words then .misuse else ofWordsFrom none false words

end ShotRecorder.Listing
