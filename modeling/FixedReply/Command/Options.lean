import FixedReply.Config.Value
import FixedReply.Text.Numeral
import FixedReply.Text.Quoted

namespace FixedReply

inductive Choice
  | help
  | count
  deriving DecidableEq, Repr

structure Program where
  name : String
  about : String
  takesCount : Bool
  deriving DecidableEq, Repr

inductive Word
  | plain
  | dashes
  | chosen (choice : Choice) (name : String) (attached : Option String)
  | unknown
  deriving DecidableEq, Repr

inductive Parse
  | run (count : Value)
  | help
  | misuse (text : String)
  deriving DecidableEq, Repr

namespace Choice

def title : Choice → String
  | help => "-h/--help"
  | count => "-worker_count/--worker-count"

def complaint (choice : Choice) (text : String) : String :=
  s!"argument {choice.title}: {text}"

end Choice

namespace Program

def options (program : Program) : List (String × Choice) :=
  [("-h", .help), ("--help", .help)] ++
    if program.takesCount then [("-worker_count", .count), ("--worker-count", .count)] else []

def usage (program : Program) : String :=
  let count := if program.takesCount then " [-worker_count N]" else ""
  s!"usage: {program.name} [-h]{count}\n"

def helpText (program : Program) : String :=
  let options :=
    if program.takesCount then
      "  -h, --help            show this help message and exit\n" ++
      "  -worker_count N, --worker-count N\n" ++
      "                        Number of workers used by the runtime. Must be a\n" ++
      "                        positive integer.\n"
    else "  -h, --help  show this help message and exit\n"
  s!"{program.usage}\n{program.about}\n\noptions:\n{options}"

def errorText (program : Program) (text : String) : String :=
  s!"{program.usage}{program.name}: error: {text}\n"

def cutValue (word : String) : String × Option String :=
  let (name, value) := Text.cut '=' word.toList
  (String.ofList name, value.map String.ofList)

/-- The options that a word that is no option may be short for, with what is attached to them. Behind
one dash a word is a prefix as a whole, or an option of one letter with something attached to it;
behind two it may have a value. -/
def candidates (program : Program) (word : String) : List (String × Choice × Option String) :=
  match word.toList with
  | '-' :: '-' :: _ =>
    let (start, value) := cutValue word
    (program.options.filter fun option => start.toList.isPrefixOf option.1.toList).map
      fun (name, choice) => (name, choice, value)
  | '-' :: letter :: rest =>
    program.options.filterMap fun (name, choice) =>
      if name.toList = ['-', letter] then some (name, choice, some (String.ofList rest))
      else if word.toList.isPrefixOf name.toList then some (name, choice, none)
      else none
  | _ => []

/-- What a word is. A word that begins with a dash is an option, unless it is the dash alone, a
negative number, or holds a space. -/
def classify (program : Program) (word : String) : Except String Word :=
  if word.toList.head? ≠ some '-' || word = "-" then .ok .plain
  else match program.options.lookup word with
    | some choice => .ok (.chosen choice word none)
    | none =>
      let (name, value) := cutValue word
      match value.bind fun value => (program.options.lookup name).map (·, value) with
      | some (choice, value) => .ok (.chosen choice name (some value))
      | none =>
        match program.candidates word with
        | [(name, choice, attached)] => .ok (.chosen choice name attached)
        | [] =>
          if Text.isNegativeNumeral word || word.toList.contains ' ' then .ok .plain
          else .ok .unknown
        | several =>
          let names := String.intercalate ", " (several.map fun (name, _, _) => name)
          .error s!"ambiguous option: {word} could match {names}"

def classifyAll (program : Program) : List String → Except String (List (String × Word))
  | [] => .ok []
  | "--" :: rest => .ok (("--", .dashes) :: rest.map (·, .plain))
  | word :: rest =>
    match program.classify word with
    | .error text => .error text
    | .ok kind =>
      match program.classifyAll rest with
      | .error text => .error text
      | .ok words => .ok ((word, kind) :: words)

/-- Looks at what is attached to the option for help: behind one dash more options of one letter may
follow, and there is only this one. -/
def helpTail (program : Program) (oneDash : Bool) (attached : List Char) : Parse :=
  let ignored : Parse := .misuse
    (Choice.help.complaint s!"ignored explicit argument {String.ofList (Text.quoted attached)}")
  match attached with
  | [] => ignored
  | letter :: rest =>
    if !oneDash then ignored
    else if (program.options.lookup (String.ofList ['-', letter])).isNone then ignored
    else if rest.isEmpty then .help
    else program.helpTail oneDash rest

/-- The count that a value stands for. Two dashes are overlooked, as they are everywhere. -/
def readCount (value : String) : Except String Value :=
  if value = "--" then .ok .emptyList
  else match Text.int? value with
    | some n => .ok (.int n)
    | none => .error (Choice.count.complaint s!"invalid int value: {Text.quote value}")

/-- Reads classified words. The last count counts, and words that are left over are refused at the
end. -/
def consume (program : Program) (count : Value) (extras : List String) :
    List (String × Word) → Parse
  | [] =>
    if extras.isEmpty then .run count
    else .misuse ("unrecognized arguments: " ++ String.intercalate " " extras)
  | (_, .chosen .help _ none) :: _ => .help
  | (_, .chosen .help name (some attached)) :: _ =>
    program.helpTail (name.toList[1]? ≠ some '-') attached.toList
  | (_, .chosen .count _ (some value)) :: rest =>
    match readCount value with
    | .ok count => program.consume count extras rest
    | .error text => .misuse text
  | (_, .chosen .count _ none) :: (value, .plain) :: rest =>
    match readCount value with
    | .ok count => program.consume count extras rest
    | .error text => .misuse text
  | (_, .chosen .count _ none) :: _ => .misuse (Choice.count.complaint "expected one argument")
  | (word, _) :: rest => program.consume count (extras ++ [word]) rest

def parse (program : Program) (arguments : List String) : Parse :=
  match program.classifyAll arguments with
  | .error text => .misuse text
  | .ok words => program.consume .nothing [] words

end Program

end FixedReply
