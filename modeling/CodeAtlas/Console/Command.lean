import CodeAtlas.Text.Quoted
import CodeAtlas.Text.Similarity

/-! Commands and how they are read from the arguments of a call. Options may stand
among the other arguments; two dashes end them. -/

namespace CodeAtlas.Console

inductive Command where
  /-- Take folders into both databases. -/
  | full (paths : List String) (skipLinking : Bool)
  /-- Take folders into the graph database. -/
  | graph (paths : List String) (withLinking : Bool)
  | link (projects : List String)
  | status
  | info
  deriving Repr, DecidableEq

/-- What is wrong with a call. -/
inductive UsageFault where
  | missingCommand
  | noSuchCommand (name : String)
  | missingArgument (what : String)
  | noSuchOption (name : String) (alike : List String)
  | takesNoValue (option : String)
  | extraArguments (args : List String)
  deriving Repr, DecidableEq

def UsageFault.message : UsageFault → String
  | .missingCommand => "Missing command."
  | .noSuchCommand name => "No such command " ++ Text.quoted name ++ "."
  | .missingArgument what => "Missing argument '" ++ what ++ "...'."
  | .noSuchOption name [] => "No such option: " ++ name
  | .noSuchOption name [other] => "No such option: " ++ name ++ " Did you mean " ++ other ++ "?"
  | .noSuchOption name others =>
    "No such option: " ++ name ++ " (Possible options: " ++ ", ".intercalate others ++ ")"
  | .takesNoValue option => "Option '" ++ option ++ "' does not take a value."
  | .extraArguments [arg] => "Got unexpected extra argument (" ++ arg ++ ")"
  | .extraArguments args => "Got unexpected extra arguments (" ++ " ".intercalate args ++ ")"

/-- The options that a command knows: long names, and short ones with the long name
that each stands for. -/
structure Options where
  long : List String
  short : List (Char × String)

/-- Options that were given, and what else. -/
structure Given where
  options : List String
  rest : List String
  deriving Repr, DecidableEq

def helpOption : String := "--help"

/-- A long option, perhaps with a value after an equals sign. -/
def longOption (o : Options) (arg : List Char) : Except UsageFault String :=
  let name := String.ofList (arg.takeWhile (· ≠ '='))
  if o.long.contains name then
    if arg.contains '=' then .error (.takesNoValue name) else .ok name
  else .error (.noSuchOption name (o.long.filter (Text.alike · name)))

/-- Short options behind one dash. -/
def shortOptions (o : Options) : List Char → Except UsageFault (List String)
  | [] => .ok []
  | c :: cs =>
    match o.short.lookup c with
    | none => .error (.noSuchOption (String.ofList ['-', c]) [])
    | some name => (shortOptions o cs).map (name :: ·)

/-- The options that an argument holds. -/
def optionsIn (o : Options) (arg : List Char) : Except UsageFault (List String) :=
  match arg with
  | '-' :: '-' :: _ => (longOption o arg).map fun name => [name]
  | '-' :: cs => shortOptions o cs
  | _ => .ok []

/-- Whether an argument holds options: it has a dash and something after it. -/
def isOption (arg : String) : Bool :=
  match arg.toList with
  | '-' :: _ :: _ => true
  | _ => false

/-- Read arguments. With `mixed`, options may come after other arguments. -/
def readArgs (o : Options) (mixed : Bool) : List String → Except UsageFault Given
  | [] => .ok ⟨[], []⟩
  | arg :: args =>
    if arg = "--" then .ok ⟨[], args⟩
    else if isOption arg then do
      let found ← optionsIn o arg.toList
      let g ← readArgs o mixed args
      pure ⟨found ++ g.options, g.rest⟩
    else if mixed then do
      let g ← readArgs o mixed args
      pure ⟨g.options, arg :: g.rest⟩
    else .ok ⟨[], arg :: args⟩

/-- Arguments of a command with one option besides help; `none` asks for help. -/
def readCommand (option : String) (short : List (Char × String)) (what : String)
    (make : List String → Bool → Command) (args : List String) :
    Except UsageFault (Option Command) := do
  let g ← readArgs ⟨[option, helpOption], short⟩ true args
  if g.options.contains helpOption then pure none
  else if g.rest.isEmpty then .error (.missingArgument what)
  else pure (some (make g.rest (g.options.contains option)))

/-- Arguments of a command that takes none. -/
def readPlain (c : Command) (args : List String) : Except UsageFault (Option Command) := do
  let g ← readArgs ⟨[helpOption], []⟩ true args
  if g.options.contains helpOption then pure none
  else if g.rest.isEmpty then pure (some c)
  else .error (.extraArguments g.rest)

/-- Arguments of the linking command. -/
def readLink (args : List String) : Except UsageFault (Option Command) := do
  let g ← readArgs ⟨[helpOption], []⟩ true args
  if g.options.contains helpOption then pure none
  else if g.rest.isEmpty then .error (.missingArgument "PROJECTS")
  else pure (some (.link g.rest))

/-- The command of a call; `none` asks for help. -/
def Command.parse (args : List String) : Except UsageFault (Option Command) := do
  let g ← readArgs ⟨[helpOption], []⟩ false args
  if g.options.contains helpOption then pure none
  else
    match g.rest with
    | [] => .error .missingCommand
    | "full" :: args => readCommand "--skip-semantic-linking" [] "PATHS" .full args
    | "graph" :: args =>
      readCommand "--with-semantic-linking" [('s', "--with-semantic-linking")] "PATHS" .graph args
    | "link" :: args => readLink args
    | "status" :: args => readPlain .status args
    | "info" :: args => readPlain .info args
    | name :: _ => .error (.noSuchCommand name)

end CodeAtlas.Console
