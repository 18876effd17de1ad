/-
This file reads the arguments of the command line. A command comes first, and its options may stand
before, between and behind its other arguments, in a long form or in a short one, with the value
attached or as the next argument. An option is given at most once. What begins with a hyphen is an
option unless it stands behind two hyphens; a hyphen alone is a value.
-/

namespace Triage

/-- What the program is asked to do. -/
inductive Command where
  | classify (message training : String) (algorithm : Option String) (format : String)
  | score (training test : String) (algorithm : Option String)
  | strategies
  | errorTypes (category : Option String)
  deriving DecidableEq, Repr

namespace Command

/-- Why there is no command to carry out. -/
inductive Stop where
  /-- The arguments make no sense. -/
  | usage
  | help
  | version
  deriving DecidableEq, Repr

/-! ### Options -/

/-- An option that takes a value. -/
structure OptionSpec where
  long : String
  short : Option Char
  /-- May the value be empty? -/
  allowsEmpty : Bool

/-- The option with the file to learn from. -/
def trainingOption : OptionSpec := ⟨"training", some 't', false⟩

/-- The option with the file to be scored on. -/
def testOption : OptionSpec := ⟨"test", none, false⟩

/-- The option with the algorithm. -/
def algorithmOption : OptionSpec := ⟨"algorithm", some 'a', true⟩

/-- The option with the form of the answer. -/
def formatOption : OptionSpec := ⟨"format", some 'f', true⟩

/-- The option with the category. -/
def categoryOption : OptionSpec := ⟨"category", some 'c', true⟩

/-- The values of options and the other arguments so far. -/
structure Given where
  options : List (String × String) := []
  others : List String := []

namespace Given

/-- Add the value of an option. -/
def add (given : Given) (option : OptionSpec) (value : String) : Except Stop Given :=
  if given.options.any (·.1 == option.long) || (value.isEmpty && !option.allowsEmpty) then
    .error .usage
  else .ok { given with options := (option.long, value) :: given.options }

/-- The value of an option. -/
def value? (given : Given) (option : OptionSpec) : Option String :=
  (given.options.find? (·.1 == option.long)).map (·.2)

/-- The value of an option that has to be given. -/
def value (given : Given) (option : OptionSpec) : Except Stop String :=
  match given.value? option with
  | some value => .ok value
  | none => .error .usage

end Given

/-! ### Single arguments -/

/-- What an argument is. -/
inductive Argument where
  /-- Two hyphens; no options follow. -/
  | separator
  | long (name : String) (attached : Option String)
  /-- A letter behind a hyphen, with what follows it. -/
  | short (letter : Char) (rest : List Char)
  | other (text : String)

/-- A name with the value behind the first equals sign. -/
def splitAtEquals (text : List Char) : String × Option String :=
  let name := text.takeWhile (· != '=')
  match text.drop name.length with
  | [] => (String.ofList name, none)
  | _ :: value => (String.ofList name, some (String.ofList value))

/-- What an argument is. -/
def Argument.of (text : String) : Argument :=
  match text.toList with
  | ['-', '-'] => .separator
  | '-' :: '-' :: rest => let (name, attached) := splitAtEquals rest; .long name attached
  | '-' :: letter :: rest => .short letter rest
  | _ => .other text

/-- Can an argument be the value of the option before it? -/
def Argument.isValue : Argument → Bool
  | other _ => true
  | _ => false

/-- The value that is attached to a short option. -/
def attachedValue? : List Char → Option String
  | [] => none
  | '=' :: value => some (String.ofList value)
  | value => some (String.ofList value)

/-! ### All arguments -/

mutual

/-- Read the arguments of a command that has the given options. -/
def readArguments (specs : List OptionSpec) (given : Given) :
    List String → Except Stop Given
  | [] => .ok given
  | text :: rest => match Argument.of text with
    | .separator => .ok { given with others := given.others ++ rest }
    | .other value => readArguments specs { given with others := given.others ++ [value] } rest
    | .long name attached =>
      if name = "help" && attached.isNone then .error .help
      else match specs.find? (·.long == name), attached with
        | none, _ => .error .usage
        | some option, some value => do readArguments specs (← given.add option value) rest
        | some option, none => readValue specs given option rest
    | .short letter more =>
      if letter = 'h' then .error .help
      else match specs.find? (·.short == some letter), attachedValue? more with
        | none, _ => .error .usage
        | some option, some value => do readArguments specs (← given.add option value) rest
        | some option, none => readValue specs given option rest

/-- Read the value of an option as the next argument, and the arguments behind it. -/
def readValue (specs : List OptionSpec) (given : Given) (option : OptionSpec) :
    List String → Except Stop Given
  | [] => .error .usage
  | value :: rest =>
    if (Argument.of value).isValue then do readArguments specs (← given.add option value) rest
    else .error .usage

end

/-- The only other argument. -/
def onlyOther (given : Given) : Except Stop String :=
  match given.others with
  | [value] => .ok value
  | _ => .error .usage

/-- Refuse other arguments. -/
def noOthers (given : Given) : Except Stop Unit :=
  if given.others.isEmpty then .ok () else .error .usage

/-- The names that help can be asked about. -/
def names : List String := ["classify", "score", "strategies", "error-types", "help"]

/-- Help about everything or about one command. -/
def help : List String → Stop
  | [] => .help
  | [name] => if names.contains name then .help else .usage
  | _ => .usage

/-- The command with a name and its arguments. -/
def ofName (name : String) (arguments : List String) : Except Stop Command :=
  match name with
  | "classify" => do
    let given ← readArguments [trainingOption, algorithmOption, formatOption] {} arguments
    let message ← onlyOther given
    let training ← given.value trainingOption
    return .classify message training (given.value? algorithmOption)
      ((given.value? formatOption).getD "text")
  | "score" => do
    let given ← readArguments [trainingOption, testOption, algorithmOption] {} arguments
    noOthers given
    return .score (← given.value trainingOption) (← given.value testOption)
      (given.value? algorithmOption)
  | "strategies" => do
    noOthers (← readArguments [] {} arguments)
    return .strategies
  | "error-types" => do
    let given ← readArguments [categoryOption] {} arguments
    noOthers given
    return .errorTypes (given.value? categoryOption)
  | "help" => .error (help arguments)
  | _ => .error .usage

/-- The command that arguments give. -/
def ofArguments : List String → Except Stop Command
  | [] => .error .usage
  | first :: rest => match Argument.of first with
    | .long "version" none => .error .version
    | .long "help" none => .error .help
    | .short 'V' _ => .error .version
    | .short 'h' _ => .error .help
    | .other name => ofName name rest
    | _ => .error .usage

end Command

end Triage
