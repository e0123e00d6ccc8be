import ClusterGraph.Text.Pieces

/-!
Arguments and options.

An argument that starts with a hyphen is an option: a long one with its name behind two hyphens, or
several short ones behind one. The value of an option stands behind an equals sign, directly behind a
short option, or in the next argument, which must then not look like an option itself. Behind two
hyphens that stand alone nothing is an option any more. All other arguments are positional.

Arguments are read from the left, and the first fault, or the first request for help, ends the
reading.
-/

namespace ClusterGraph.CommandLine

/-- Why arguments do not make a command. -/
inductive Refusal where
  /-- The arguments are wrong. -/
  | misuse
  /-- The arguments ask for help. -/
  | help
  deriving DecidableEq, Repr, Inhabited

/-- An option: its names, whether it takes a value, and whether that may be empty. -/
structure OptionSpec where
  name : String
  letter : Option Char := none
  takesValue : Bool := false
  mayBeEmpty : Bool := true
  deriving DecidableEq, Repr, Inhabited

/-- What a command understands: its options, and how many positional arguments. -/
structure Spec where
  options : List OptionSpec
  positionals : Nat
  deriving DecidableEq, Repr, Inhabited

/-- What was read: the options with their values, the positional arguments, the option whose value is
due, and whether options have ended. -/
structure Reading where
  options : List (String × String) := []
  positionals : List String := []
  due : Option OptionSpec := none
  ended : Bool := false
  deriving DecidableEq, Repr, Inhabited

/-- Whether an argument looks like an option. -/
def isOption (argument : String) : Bool :=
  match argument.toList with
  | '-' :: _ :: _ => true
  | _ => false

namespace Reading

/-- Whether an option was given. -/
def has (reading : Reading) (name : String) : Bool :=
  reading.options.any (·.1 == name)

/-- The value of an option. -/
def value? (reading : Reading) (name : String) : Option String :=
  reading.options.lookup name

/-- Adds an option, which must not have been given before. -/
def addOption (reading : Reading) (option : OptionSpec) (value : String) :
    Except Refusal Reading :=
  if reading.has option.name || (option.takesValue && value.isEmpty && !option.mayBeEmpty) then
    .error .misuse
  else .ok { reading with options := reading.options ++ [(option.name, value)], due := none }

/-- Adds a positional argument, if there is room for another one. -/
def addPositional (reading : Reading) (spec : Spec) (argument : String) : Except Refusal Reading :=
  if reading.positionals.length < spec.positionals then
    .ok { reading with positionals := reading.positionals ++ [argument] }
  else .error .misuse

/-- Reads a long option from behind its hyphens. -/
def addLong (reading : Reading) (spec : Spec) (s : List Char) : Except Refusal Reading :=
  let name := String.ofList (s.takeWhile (· != '='))
  let value := s.dropWhile (· != '=')
  if name == "help" && value.isEmpty then .error .help
  else
    match spec.options.find? (·.name == name), value with
    | none, _ => .error .misuse
    | some option, [] =>
      if option.takesValue then
        if reading.has option.name then .error .misuse else .ok { reading with due := some option }
      else reading.addOption option ""
    | some option, _ :: value =>
      if option.takesValue then reading.addOption option (String.ofList value) else .error .misuse

/-- Reads short options from behind their hyphen. -/
def addShort (reading : Reading) (spec : Spec) : List Char → Except Refusal Reading
  | [] => .ok reading
  | 'h' :: _ => .error .help
  | c :: rest =>
    match spec.options.find? (·.letter == some c) with
    | none => .error .misuse
    | some option =>
      if !option.takesValue then do addShort (← reading.addOption option "") spec rest
      else
        match rest with
        | [] =>
          if reading.has option.name then .error .misuse
          else .ok { reading with due := some option }
        | '=' :: value => reading.addOption option (String.ofList value)
        | value => reading.addOption option (String.ofList value)

/-- Reads one more argument. -/
def add (reading : Reading) (spec : Spec) (argument : String) : Except Refusal Reading :=
  if reading.ended then reading.addPositional spec argument
  else
    match reading.due with
    | some option =>
      if isOption argument then .error .misuse else reading.addOption option argument
    | none =>
      match argument.toList with
      | ['-', '-'] => .ok { reading with ended := true }
      | '-' :: '-' :: name => reading.addLong spec name
      | '-' :: c :: letters => reading.addShort spec (c :: letters)
      | _ => reading.addPositional spec argument

end Reading

/-- Reads all arguments of a command. -/
def Spec.read (spec : Spec) (arguments : List String) : Except Refusal Reading := do
  let reading ← arguments.foldlM (fun reading argument => reading.add spec argument) {}
  if reading.due.isSome then throw .misuse
  return reading

/-- Reads the options before the name of a command; the name and what follows it is left. -/
def Spec.readLeading (spec : Spec) (reading : Reading) :
    List String → Except Refusal (List String)
  | [] => .error .misuse
  | argument :: rest =>
    if isOption argument then do
      let reading ← reading.add spec argument
      if reading.ended then throw .misuse
      spec.readLeading reading rest
    else .ok (argument :: rest)

end ClusterGraph.CommandLine
