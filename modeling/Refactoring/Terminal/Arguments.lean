/-!
# Arguments of the command line

What the user wants, from the words behind the name of the program: options that hold for every
command, the name of a command, and the options and operands of that command.
-/

namespace Refactoring.CommandLine

/-- An option; each has a value. -/
inductive Setting where
  | workspace
  | server
  | context
  | info
  deriving Repr, DecidableEq

/-- What is to be done. -/
inductive Job where
  /-- Starts a rename at an offset into a document. -/
  | rename (document : String) (offset : Nat)
  /-- Carries out a refactoring for a selection. -/
  | apply (kind : String) (context : String) (info : Option String)
  /-- Moves files to another package. -/
  | moveFiles (files : List String)
  deriving Repr, DecidableEq

/-- What the user wants. -/
structure Invocation where
  workspace : Option String
  server : Option String
  job : Job
  deriving Repr, DecidableEq

/-- Why nothing is to be done. -/
inductive Refusal where
  /-- The words make no sense. -/
  | misuse
  /-- The user asks how to use the program. -/
  | help
  deriving Repr, DecidableEq

/-- How to use the program. -/
def usage : String :=
  "Run language server refactorings from the terminal\n\n" ++
  "Usage: refactor-cli [OPTIONS] <COMMAND>\n\n" ++
  "Commands:\n" ++
  "  rename     Start an interactive rename at a character offset\n" ++
  "  apply      Apply a refactoring offered by a code action\n" ++
  "  move-file  Move files to another package\n" ++
  "  help       Print this message or the help of the given subcommand(s)\n\n" ++
  "Options:\n" ++
  "  -w, --workspace <WORKSPACE>  Workspace root (defaults to the current directory)\n" ++
  "  -s, --server <SERVER>        Language server command, overriding the configured one\n" ++
  "  -h, --help                   Print help\n"

/-! ### Words -/

/-- The long name of an option. -/
def Setting.long : Setting → String
  | workspace => "workspace"
  | server => "server"
  | context => "context"
  | info => "info"

/-- The short name of an option. -/
def Setting.short? : Setting → Option Char
  | workspace => some 'w'
  | server => some 's'
  | context => none
  | info => none

/-- Paths must not be empty. -/
def Setting.accepts (setting : Setting) (value : String) : Bool :=
  setting ≠ .workspace || value ≠ ""

/-- The options that hold for every command. -/
def commonSettings : List Setting := [.workspace, .server]

/-- A word of the command line. -/
inductive Word where
  /-- Only operands follow. -/
  | separator
  /-- A long option, perhaps with its value. -/
  | long (name : String) (value : Option String)
  /-- A short option with what is attached to it. -/
  | short (name : Char) (attached : List Char)
  | plain (text : String)
  deriving Repr, DecidableEq

/-- The part in front of the first equals sign, and the part behind it. -/
def cutAtEquals (text : List Char) : String × Option String :=
  (String.ofList (text.takeWhile (· ≠ '=')),
    match text.dropWhile (· ≠ '=') with
    | [] => none
    | _ :: value => some (String.ofList value))

/-- The kind of a word; a single dash is an operand. -/
def Word.of (text : String) : Word :=
  match text.toList with
  | ['-', '-'] => .separator
  | '-' :: '-' :: rest => .long (cutAtEquals rest).1 (cutAtEquals rest).2
  | '-' :: name :: attached => .short name attached
  | _ => .plain text

/-! ### Options -/

/-- Options with their values. -/
abbrev Given := List (Setting × String)

/-- An option, its value and the words behind it. -/
abbrev SettingRead := Setting × String × List String

/-- An option with the value that is attached to it, or else with the next word, which must be an
operand. -/
def withValue (setting : Setting) (attached : Option String) (rest : List String) :
    Except Refusal SettingRead :=
  let checked (value : String) (rest : List String) : Except Refusal SettingRead :=
    if setting.accepts value then .ok (setting, value, rest) else .error .misuse
  match attached, rest with
  | some value, rest => checked value rest
  | none, [] => .error .misuse
  | none, next :: rest =>
    match Word.of next with
    | .plain value => checked value rest
    | _ => .error .misuse

/-- The value that is attached to a short option; an equals sign in front does not count. -/
def attachedValue : List Char → Option String
  | [] => none
  | '=' :: value => some (String.ofList value)
  | value => some (String.ofList value)

/-- Reads a long option. -/
def readLong (known : List Setting) (name : String) (value : Option String) (rest : List String) :
    Except Refusal SettingRead :=
  match known.find? (·.long == name) with
  | some setting => withValue setting value rest
  | none => .error (if name = "help" ∧ value = none then .help else .misuse)

/-- Reads a short option. -/
def readShort (known : List Setting) (name : Char) (attached : List Char) (rest : List String) :
    Except Refusal SettingRead :=
  match known.find? (·.short? == some name) with
  | some setting => withValue setting (attachedValue attached) rest
  | none => .error (if name = 'h' then .help else .misuse)

/-- Adds an option, which must not have been given yet. -/
def addSetting (given : Given) (setting : Setting) (value : String) : Except Refusal Given :=
  if given.any (·.1 == setting) then .error .misuse else .ok (given ++ [(setting, value)])

/-- Reads the options in front of the first operand.  `limit` bounds the number of words. -/
def readLeading (known : List Setting) :
    Nat → Given → List String → Except Refusal (Given × List String)
  | 0, given, words => .ok (given, words)
  | _, given, [] => .ok (given, [])
  | limit + 1, given, word :: rest => do
    match Word.of word with
    | .separator => throw .misuse
    | .plain _ => return (given, word :: rest)
    | .long name value =>
      let (setting, value, rest) ← readLong known name value rest
      readLeading known limit (← addSetting given setting value) rest
    | .short name attached =>
      let (setting, value, rest) ← readShort known name attached rest
      readLeading known limit (← addSetting given setting value) rest

/-- Reads options and operands in any order.  `limit` bounds the number of words. -/
def readMixed (known : List Setting) :
    Nat → Given → List String → List String → Except Refusal (Given × List String)
  | 0, given, operands, words => .ok (given, operands ++ words)
  | _, given, operands, [] => .ok (given, operands)
  | limit + 1, given, operands, word :: rest => do
    match Word.of word with
    | .separator => return (given, operands ++ rest)
    | .plain text => readMixed known limit given (operands ++ [text]) rest
    | .long name value =>
      let (setting, value, rest) ← readLong known name value rest
      readMixed known limit (← addSetting given setting value) operands rest
    | .short name attached =>
      let (setting, value, rest) ← readShort known name attached rest
      readMixed known limit (← addSetting given setting value) operands rest

/-! ### Commands -/

/-- The value of decimal digits, if there is at least one and nothing else. -/
def digits? (text : List Char) : Option Nat :=
  if text.isEmpty || text.any (fun c => c < '0' || '9' < c) then none
  else some (text.foldl (fun n c => 10 * n + (c.toNat - 48)) 0)

/-- An offset: a number of 32 bits, perhaps with a sign. -/
def offset? (text : String) : Option Nat :=
  match text.toList with
  | '+' :: digits => (digits? digits).filter (· < UInt32.size)
  | '-' :: digits => (digits? digits).filter (· = 0)
  | digits => (digits? digits).filter (· < UInt32.size)

/-- The options that a command has besides the common ones. -/
def settingsOf (command : String) : Option (List Setting) :=
  match command with
  | "rename" => some []
  | "apply" => some [.context, .info]
  | "move-file" => some []
  | _ => none

/-- The job of a command with its options and operands. -/
def jobOf (command : String) (given : Given) (operands : List String) : Except Refusal Job :=
  match command, operands, given.lookup .context with
  | "rename", [document, offset], _ =>
    match offset? offset with
    | some offset => .ok (.rename document offset)
    | none => .error .misuse
  | "apply", [kind], some context => .ok (.apply kind context (given.lookup .info))
  | "move-file", file :: files, _ =>
    if (file :: files).contains "" then .error .misuse else .ok (.moveFiles (file :: files))
  | _, _, _ => .error .misuse

/-- What a request for help about these commands comes to. -/
def helpOn : List String → Refusal
  | [] => .help
  | [command] => if (settingsOf command).isSome || command = "help" then .help else .misuse
  | _ => .misuse

/-- Reads the command line.  A common option may stand on either side of the name of the command;
of two the one behind it counts. -/
def parse (words : List String) : Except Refusal Invocation := do
  let (common, rest) ← readLeading commonSettings words.length [] words
  match rest with
  | [] => throw .misuse
  | command :: rest =>
    if command = "help" then throw (helpOn rest)
    let some settings := settingsOf command | throw .misuse
    let (given, operands) ← readMixed (commonSettings ++ settings) rest.length [] [] rest
    let job ← jobOf command given operands
    let value (setting : Setting) := (given.lookup setting).or (common.lookup setting)
    return ⟨value .workspace, value .server, job⟩

end Refactoring.CommandLine
