/-!
# Command-line arguments

What a command line may hold: options with long and short names, with values or without, and plain words. Arguments are read from
left to right, and the first one that is wrong, or asks for help, decides.
-/

namespace QueueBroker

/-- An option of a command. -/
structure CommandOption where
  name : String
  /-- The letter that may stand for the name. -/
  letter : Char
  /-- Which values the option takes; none stands for an option without value. -/
  accepts : Option (String → Bool)

/-- Why a command does nothing. -/
inductive Refusal where
  /-- The arguments make no sense. -/
  | usage
  /-- Help was asked for. -/
  | help
  /-- The version was asked for. -/
  | version
deriving DecidableEq, Repr

/-- The exit code of a command that does nothing. -/
def Refusal.exitCode : Refusal → Nat
  | usage => 2
  | help => 0
  | version => 0

/-- The arguments read so far: the options by name, with their values, and the plain words. -/
structure Arguments where
  options : List (String × String)
  words : List String
deriving DecidableEq, Repr

/-- What a command accepts. -/
structure CommandShape where
  options : List CommandOption
  /-- Whether the version can be asked for. -/
  hasVersion : Bool
  /-- How many plain words there may be. -/
  maxWords : Nat
  /-- Whether the first plain word begins a command of its own, to which all that follows belongs. -/
  hasCommands : Bool

namespace Arguments

/-- No arguments. -/
def empty : Arguments := ⟨[], []⟩

/-- The value of an option. -/
def value? (a : Arguments) (name : String) : Option String :=
  a.options.lookup name

/-- Note an option, which may be given once. -/
def addOption (a : Arguments) (o : CommandOption) (value : String) : Except Refusal Arguments :=
  if (o.accepts.all fun accepts => accepts value) && (a.value? o.name).isNone then
    .ok { a with options := a.options ++ [(o.name, value)] }
  else .error .usage

/-- Note a plain word. -/
def addWord (shape : CommandShape) (a : Arguments) (word : String) : Except Refusal Arguments :=
  if a.words.length < shape.maxWords then .ok { a with words := a.words ++ [word] } else .error .usage

/-- Whether an argument stands for options and not for itself. -/
def isOption (s : String) : Bool :=
  s.startsWith "-" && s != "-"

/-- An option with a value, which is the next argument if none is attached. -/
def addValue (a : Arguments) (o : CommandOption) (attached : Option String) (rest : List String) :
    Except Refusal (Arguments × List String) :=
  match attached, rest with
  | some value, rest => (a.addOption o value).map (·, rest)
  | none, value :: rest => if isOption value then .error .usage else (a.addOption o value).map (·, rest)
  | none, [] => .error .usage

/-- An option by its long name, with an attached value after an equals sign if there is one. -/
def addLong (shape : CommandShape) (a : Arguments) (text : List Char) (rest : List String) :
    Except Refusal (Arguments × List String) :=
  let name := String.ofList (text.takeWhile (· != '='))
  let attached := match text.dropWhile (· != '=') with
    | _ :: value => some (String.ofList value)
    | [] => none
  match shape.options.find? fun o => o.name == name with
  | some o =>
    match o.accepts, attached with
    | some _, attached => a.addValue o attached rest
    | none, none => (a.addOption o "").map (·, rest)
    | none, some _ => .error .usage
  | none =>
    if attached.isSome then .error .usage
    else if name = "help" then .error .help
    else if name = "version" ∧ shape.hasVersion then .error .version
    else .error .usage

/-- Options by their letters. The rest of the letters is the value of an option that takes one. -/
def addLetters (shape : CommandShape) (rest : List String) : List Char → Arguments → Except Refusal (Arguments × List String)
  | [], a => .ok (a, rest)
  | c :: cs, a =>
    match shape.options.find? fun o => o.letter == c with
    | some o =>
      match o.accepts with
      | none => (a.addOption o "").bind (addLetters shape rest cs)
      | some _ =>
        match cs with
        | [] => a.addValue o none rest
        | '=' :: value => a.addValue o (some (String.ofList value)) rest
        | value => a.addValue o (some (String.ofList value)) rest
    | none =>
      if c = 'h' then .error .help
      else if c = 'V' ∧ shape.hasVersion then .error .version
      else .error .usage

/-- Note plain words only. -/
def addWords (shape : CommandShape) (a : Arguments) : List String → Except Refusal Arguments
  | [] => .ok a
  | word :: words => do
    let a ← a.addWord shape word
    addWords shape a words

/-- Read arguments. The fuel is their number. Returned are those of the command itself, and those of the command that the first
plain word begins. -/
def readFrom (shape : CommandShape) : (fuel : Nat) → Arguments → List String → Except Refusal (Arguments × List String)
  | 0, a, _ => .ok (a, [])
  | _, a, [] => .ok (a, [])
  | fuel + 1, a, arg :: rest =>
    if arg = "--" then (addWords shape a rest).map (·, [])
    else if isOption arg then do
      let (a, rest) ← match arg.toList with
        | '-' :: '-' :: text => a.addLong shape text rest
        | letters => addLetters shape rest (letters.drop 1) a
      readFrom shape fuel a rest
    else if shape.hasCommands then .ok (a, arg :: rest)
    else do
      let a ← a.addWord shape arg
      readFrom shape fuel a rest

/-- Read the arguments of a command. -/
def read (shape : CommandShape) (args : List String) : Except Refusal (Arguments × List String) :=
  readFrom shape args.length empty args

end Arguments

end QueueBroker
