import LintReview.CommandLine

/-! Reading a command line. The arguments before the name of the command are options of the run,
those after it are options of the command. A long option may have its value behind an equals sign,
and short ones may stand together behind one dash. The value of an option is looked at when the next
option comes, so of two faults the first in this order is reported. -/

namespace LintReview.CommandLine

/-! ## Options -/

/-- An option. -/
inductive Key where
  | verbose
  | config
  | help
  | version
  | input
  | format
  | pattern
  | levels
  | toolName
  | analysisPath
  | output
  | rooted
  | repo
  | pr
  deriving DecidableEq, Repr

namespace Key

/-- The name behind two dashes. -/
def long : Key → String
  | verbose => "verbose"
  | config => "config"
  | help => "help"
  | version => "version"
  | input => "input"
  | format => "format"
  | pattern => "pattern"
  | levels => "level-map"
  | toolName => "tool-name"
  | analysisPath => "analysis-path"
  | output => "output"
  | rooted => "rooted-uris"
  | repo => "repo"
  | pr => "pr"

/-- The letter behind one dash. -/
def short? : Key → Option Char
  | verbose => some 'v'
  | config => some 'c'
  | help => some 'h'
  | version => some 'V'
  | input => some 'i'
  | format => some 'f'
  | output => some 'o'
  | _ => none

def isFlag : Key → Bool
  | verbose | help | version | rooted => true
  | _ => false

/-- Why a value is refused, if it is: a path is not empty, and the number of a pull request is a
number. -/
def refuses (value : String) : Key → Option Refusal
  | config | input | output => if value.isEmpty then some .noValue else none
  | pr => if (Decimal.readUInt64? value.toList).isNone then some .invalidValue else none
  | _ => none

end Key

inductive CommandName where
  | sarif
  | comment
  | summary
  | formats
  | schema
  deriving DecidableEq, Repr

namespace CommandName

def ofWord? : String → Option CommandName
  | "sarif" => some sarif
  | "comment" => some comment
  | "summary" => some summary
  | "formats" => some formats
  | "schema" => some schema
  | _ => none

def helpWord : String := "help"

/-- Whether a word may stand in the place of a command. -/
def isName (word : String) : Bool := word = helpWord || (ofWord? word).isSome

/-- The options that say how linter output is read. -/
def inputKeys : List Key := [.input, .format, .pattern, .levels, .toolName, .analysisPath]

/-- The options after the name of a command, or before it. -/
def keys : Option CommandName → List Key
  | none => [.verbose, .config, .help, .version]
  | some sarif => [.verbose, .config, .help] ++ inputKeys ++ [.output, .rooted]
  | some comment => [.verbose, .config, .help] ++ inputKeys ++ [.repo, .pr]
  | some summary => [.verbose, .config, .help] ++ inputKeys
  | some _ => [.verbose, .config, .help]

end CommandName

/-! ## Arguments -/

/-- The options that have been given. -/
structure Given where
  values : List (Key × String) := []
  /-- The last option, as long as its value has not come or has not been looked at. -/
  pending : Option (Key × Option String) := none

namespace Given

def value? (g : Given) (k : Key) : Option String := g.values.lookup k

def has (g : Given) (k : Key) : Bool := (g.value? k).isSome

def give (g : Given) (k : Key) (value : String) : Except Refusal Given :=
  if g.has k then .error .repeatedArgument
  else
    match k.refuses value with
    | some refusal => .error refusal
    | none => .ok { g with values := g.values ++ [(k, value)] }

/-- Looks at the value of the last option. -/
def settle (g : Given) : Except Refusal Given :=
  match g.pending with
  | none => .ok g
  | some (_, none) => .error .noValue
  | some (k, some value) => give { g with pending := none } k value

/-- The option that still waits for its value. -/
def awaiting? (g : Given) : Option Key :=
  match g.pending with
  | some (k, none) => some k
  | _ => none

def giveFlag (g : Given) (k : Key) : Except Refusal Given := do
  let g ← g.settle
  match k with
  | .help => .error .help
  | .version => .error .version
  | _ => g.give k ""

/-- Starts an option that has a value, which may be attached to it. -/
def start (g : Given) (k : Key) (attached : Option String) : Except Refusal Given := do
  let g ← g.settle
  match attached with
  | some value => g.give k value
  | none => .ok { g with pending := some (k, none) }

/-- Reads a long option, behind its dashes. -/
def long (g : Given) (keys : List Key) (text : List Char) : Except Refusal Given :=
  let name := text.takeWhile (· ≠ '=')
  let value := text.dropWhile (· ≠ '=')
  match keys.find? fun k => k.long.toList = name with
  | none => .error .unknownArgument
  | some k =>
    if !k.isFlag then g.start k (if value.isEmpty then none else some (String.ofList value.tail))
    else if value.isEmpty then g.giveFlag k
    else .error .unwantedValue

/-- Reads short options, behind their dash. -/
def short (g : Given) (keys : List Key) : List Char → Except Refusal Given
  | [] => .ok g
  | c :: rest =>
    match keys.find? fun k => k.short? = some c with
    | none => .error .unknownArgument
    | some k =>
      if k.isFlag then do
        let g ← g.giveFlag k
        g.short keys rest
      else
        match rest with
        | [] => g.start k none
        | '=' :: value => g.start k (some (String.ofList value))
        | value => g.start k (some (String.ofList value))

end Given

/-- Why a word is refused that is neither an option nor the value of one. -/
def stray (name : Option CommandName) (afterDashes : Bool) (word : String) : Refusal :=
  if name.isSome || (afterDashes && CommandName.isName word) then .unknownArgument
  else .unknownCommand

/-- Why the words behind a call for help are refused: they may name one command. -/
def helpRefusal : List String → Refusal
  | [] => .help
  | [word] => if CommandName.isName word then .help else .unknownCommand
  | _ => .unknownCommand

/-- Reads the arguments before or after the name of a command. Before it, the name and what follows
it are answered as well. -/
def readArgs (name : Option CommandName) :
    Given → List String → Except Refusal (Given × Option (CommandName × List String))
  | g, [] => .ok (g, none)
  | g, arg :: rest =>
    let names := name.isNone && g.awaiting?.isNone
    if names && arg = CommandName.helpWord then .error (helpRefusal rest)
    else
      match if names then CommandName.ofWord? arg else none with
      | some command => .ok (g, some (command, rest))
      | none =>
        match arg.toList with
        | ['-', '-'] =>
          match rest with
          | [] => .ok (g, none)
          | word :: _ => .error (stray name true word)
        | '-' :: '-' :: text => do readArgs name (← g.long (CommandName.keys name) text) rest
        | '-' :: c :: text => do readArgs name (← g.short (CommandName.keys name) (c :: text)) rest
        | _ =>
          match g.awaiting? with
          | some k => readArgs name { g with pending := some (k, some arg) } rest
          | none => .error (stray name false arg)

/-! ## Commands -/

/-- The options that say how linter output is read; the input itself is required. -/
def inputOptions (g : Given) : Except Refusal InputOptions :=
  match g.value? .input with
  | none => .error .missingArgument
  | some input =>
    .ok
      { input
        format := g.value? .format
        pattern := g.value? .pattern
        levels := g.value? .levels
        toolName := g.value? .toolName
        analysisPath := g.value? .analysisPath }

/-- The command with a name and options. The repository may also come from the environment. -/
def commandOf (repository : Option String) (g : Given) : CommandName → Except Refusal Command
  | .sarif => do return .sarif (← inputOptions g) (g.value? .output) (g.has .rooted)
  | .comment => do
    let input ← inputOptions g
    match (g.value? .pr).bind fun pr => Decimal.readUInt64? pr.toList with
    | some pr => return .comment input ((g.value? .repo).or repository) pr
    | none => .error .missingArgument
  | .summary => do return .summary (← inputOptions g)
  | .formats => .ok .formats
  | .schema => .ok .schema

/-- Reads a command line, given the repository that the environment names. -/
def read (repository : Option String) (args : List String) : Except Refusal CommandLine := do
  let (outer, found) ← readArgs none {} args
  match found with
  | none =>
    let outer ← outer.settle
    .error (if outer.values.isEmpty then .nothing else .noCommand)
  | some (name, rest) =>
    let (inner, _) ← readArgs (some name) {} rest
    let inner ← inner.settle
    let command ← commandOf repository inner name
    let outer ← outer.settle
    return {
      verbose := inner.has .verbose || outer.has .verbose
      configFile := (inner.value? .config).or (outer.value? .config)
      command }

end LintReview.CommandLine
