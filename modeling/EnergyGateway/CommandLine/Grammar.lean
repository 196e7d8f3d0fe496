import EnergyGateway.Text.Ascii

/-!
# The grammar of a command line

A command line names a command, step by step through groups of commands.  Options belong to the command where
they stand, apart from a few that may stand anywhere; each may be given once at a place, and where one is given
at several places the innermost counts.  A value follows its option or is joined to it by an equals sign; only a
joined value may start with a dash.

Words are read from left to right, and the first that cannot be right decides what the answer is.
-/

namespace EnergyGateway.CommandLine

/-- Why no command is run. -/
inductive Refusal where
  | usage
  | help
  | version
  deriving DecidableEq, Repr

/-- What an option expects behind it. -/
inductive Expected where
  | nothing
  /-- A value that passes a test. -/
  | value (accepts : String → Bool)

/-- An option.  Only an option with a value may have a letter besides its name. -/
structure OptionRule where
  name : String
  letter : Option Char := none
  expected : Expected
  required : Bool := false

/-- A command of its own, or a group of commands. -/
inductive CommandRule where
  | group (commands : List (String × CommandRule))
  /-- A command with options, and an operand that passes a test if it has one. -/
  | command (options : List OptionRule) (operand : Option (String → Bool))

/-- What a command line says. -/
structure Arguments where
  /-- The names of the groups and of the command. -/
  path : List String := []
  /-- The options with their values, the innermost first. -/
  options : List (String × String) := []
  operand : Option String := none
  deriving DecidableEq, Repr

namespace Arguments

def value? (a : Arguments) (name : String) : Option String := a.options.lookup name

def has (a : Arguments) (name : String) : Bool := (a.value? name).isSome

end Arguments

/-- How a word reads by its dashes. -/
inductive Word where
  | long (name : String) (value : Option String)
  | letter (c : Char) (behind : List Char)
  /-- Two dashes alone: all words behind are operands. -/
  | separator
  | plain
  deriving DecidableEq, Repr

def Word.of (s : String) : Word :=
  match s.toList with
  | ['-', '-'] => .separator
  | '-' :: '-' :: rest =>
    match Text.cut? '=' rest with
    | some (name, value) => .long (String.ofList name) (some (String.ofList value))
    | none => .long (String.ofList rest) none
  | '-' :: c :: rest => .letter c rest
  | _ => .plain

/-- An option as it stands in a word. -/
inductive Found where
  | refused (r : Refusal)
  | flag (name : String)
  /-- An option whose value is joined to it. -/
  | joined (name : String) (accepts : String → Bool) (value : String)
  /-- An option whose value is the next word. -/
  | pending (name : String) (accepts : String → Bool)

/-- The option that a word with a name is.  Help may be asked for anywhere, the version only in front of the
command. -/
def findLong (rules : List OptionRule) (outermost : Bool) (name : String) (value : Option String) : Found :=
  match rules.find? (·.name == name), value with
  | some ⟨_, _, .nothing, _⟩, none => .flag name
  | some ⟨_, _, .value accepts, _⟩, none => .pending name accepts
  | some ⟨_, _, .value accepts, _⟩, some v => .joined name accepts v
  | some ⟨_, _, .nothing, _⟩, some _ => .refused .usage
  | none, some _ => .refused .usage
  | none, none =>
    if name = "help" then .refused .help
    else if outermost && name = "version" then .refused .version
    else .refused .usage

/-- The option that a word with a letter is. -/
def findLetter (rules : List OptionRule) (outermost : Bool) (c : Char) (behind : List Char) : Found :=
  match rules.find? (·.letter == some c) with
  | some ⟨name, _, .value accepts, _⟩ =>
    match behind with
    | [] => .pending name accepts
    | '=' :: value | value => .joined name accepts (String.ofList value)
  | _ =>
    if c = 'h' then .refused .help
    else if outermost && c = 'V' then .refused .version
    else .refused .usage

/-- Note an option, which must not have been given at this place yet. -/
def note (a : Arguments) (name value : String) : Except Refusal Arguments :=
  if a.has name then .error .usage else .ok { a with options := a.options ++ [(name, value)] }

/-- Note an option with a value that must pass a test. -/
def noteValue (a : Arguments) (name : String) (accepts : String → Bool) (value : String) :
    Except Refusal Arguments :=
  if accepts value then note a name value else .error .usage

/-- Note the operand of a command. -/
def noteOperand (rule : CommandRule) (a : Arguments) (word : String) : Except Refusal Arguments :=
  match rule, a.operand with
  | .command _ (some accepts), none => if accepts word then .ok { a with operand := some word } else .error .usage
  | _, _ => .error .usage

/-- What asking for help on a command by name comes to. -/
def helpOn : CommandRule → List String → Refusal
  | _, [] => .help
  | .group commands, word :: rest =>
    match commands.lookup word with
    | some rule => helpOn rule rest
    | none => if word = "help" ∧ rest = [] then .help else .usage
  | .command _ _, _ :: _ => .usage

/-- The end of the words: a command must be there, with all it requires. -/
def finish (rule : CommandRule) (a : Arguments) : Except Refusal Arguments :=
  match rule with
  | .group _ => .error .usage
  | .command options operand =>
    if options.all (fun o => !o.required || a.has o.name) && (operand.isNone || a.operand.isSome) then .ok a
    else .error .usage

/-- The options that may be given for a rule. -/
def optionsOf (everywhere : List OptionRule) : CommandRule → List OptionRule
  | .group _ => everywhere
  | .command options _ => options ++ everywhere

/-- Read the words behind those that were noted.  Whether an option whose value is a word of its own is refused is
looked at with the next option or operand, or at the end, so behind an inner command. -/
def readWords (everywhere : List OptionRule) (outermost : Bool) (rule : CommandRule)
    (noted : Except Refusal Arguments) : List String → Except Refusal Arguments
  | [] => do finish rule (← noted)
  | word :: rest =>
    let found : Option Found := match Word.of word with
      | .long name value => some (findLong (optionsOf everywhere rule) outermost name value)
      | .letter c behind => some (findLetter (optionsOf everywhere rule) outermost c behind)
      | _ => none
    match found with
    | some (.refused r) => do
      let _ ← noted
      throw r
    | some (.flag name) => do readWords everywhere outermost rule (.ok (← note (← noted) name "")) rest
    | some (.joined name accepts value) => do
      readWords everywhere outermost rule (.ok (← noteValue (← noted) name accepts value)) rest
    | some (.pending name accepts) => do
      let a ← noted
      match rest with
      | [] => throw .usage
      | value :: rest =>
        if Word.of value = .plain then readWords everywhere outermost rule (noteValue a name accepts value) rest
        else throw .usage
    | none =>
      if Word.of word = .separator then do finish rule (← rest.foldlM (noteOperand rule) (← noted))
      else
        match rule with
        | .command _ _ => do readWords everywhere outermost rule (.ok (← noteOperand rule (← noted) word)) rest
        | .group commands =>
          match commands.lookup word with
          | some inner => do
            let b ← readWords everywhere false inner (.ok {}) rest
            let a ← noted
            return { b with path := word :: b.path, options := b.options ++ a.options }
          | none => .error (if word = "help" then helpOn rule rest else .usage)

/-- What the words of a command line say. -/
def read (everywhere : List OptionRule) (rule : CommandRule) (words : List String) : Except Refusal Arguments :=
  readWords everywhere true rule (.ok {}) words

end EnergyGateway.CommandLine
