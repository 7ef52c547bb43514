import MeshControl.Text.Split

/-!
Grammars of command lines. A command line is a list of words: options with a value (`--name
value` or `--name=value`), switches (`--name` or, for some, `-n`), positional words, and at most
one command, which takes all words after it. After the word `--` all words are plain.

A word that belongs to an option or a position is kept aside and takes effect only when the next
option, switch or position comes, or at the end. So of two errors the one about the structure of
the line may come first.
-/
namespace MeshControl.CommandLine

/-- Why a command line was refused. Two constructors are requests that end its reading. -/
inductive UsageError where
  | unknownArgument
  | unknownCommand
  | missingCommand
  | missingArgument
  | repeatedArgument
  /-- A switch with a value. -/
  | excessValue
  /-- A value is missing, empty or none of those that are possible. -/
  | impossibleValue
  /-- A value is not of the right form. -/
  | malformedValue
  /-- A duration does not fit. -/
  | durationRange
  /-- There are no words at all, so the usage is to be shown. -/
  | usage
  | version
deriving DecidableEq, Repr, Inhabited

/-- The name under which an error of usage is known. -/
def UsageError.name : UsageError → String
  | unknownArgument => "UnknownArgument"
  | unknownCommand => "InvalidSubcommand"
  | missingCommand => "MissingSubcommand"
  | missingArgument => "MissingRequiredArgument"
  | repeatedArgument => "ArgumentConflict"
  | excessValue => "TooManyValues"
  | impossibleValue => "InvalidValue"
  | malformedValue => "ValueValidation"
  | durationRange => "Panic"
  | usage => "DisplayHelpOnMissingArgumentOrSubcommand"
  | version => "DisplayVersion"

def UsageError.text : UsageError → String
  | unknownArgument => "unexpected argument"
  | unknownCommand => "unrecognized subcommand"
  | missingCommand => "a subcommand is required"
  | missingArgument => "a required argument was not provided"
  | repeatedArgument => "an argument was used more than once"
  | excessValue => "a switch takes no value"
  | impossibleValue => "a value is missing or not possible"
  | malformedValue => "a value is not of the right form"
  | durationRange => "a duration is out of range"
  | usage => "usage: pilot [options] discovery|proxy [options]"
  | version => "the version was asked for"

/-- Puts a value into the settings read so far. -/
abbrev Setter (α : Type) := String → α → Except UsageError α

/-- An option with a value, or a position. Its value may be looked up in the environment if the
command line does not give it. -/
structure Parameter (α : Type) where
  name : String
  set : Setter α
  /-- The name in the environment. -/
  env? : Option String := none

structure Switch (α : Type) where
  name : String
  letter? : Option Char
  set : α → Except UsageError α

structure Grammar (α : Type) where
  options : List (Parameter α)
  switches : List (Switch α)
  positions : List (Parameter α)
  /-- The commands with the readers of the words after them. -/
  commands : List (String × (List String → α → Except UsageError α))
  /-- What is wrong with a word that has no position. -/
  misplaced : UsageError

/-- A parameter that has been met, with its value as soon as that has been met too. -/
structure Pending (α : Type) where
  parameter : Parameter α
  value : Option String

/-- How far a command line has been read. -/
structure Progress (α : Type) where
  settings : α
  /-- The names of what has taken effect. -/
  given : List String
  pending : Option (Pending α)
  positions : List (Parameter α)

namespace Progress

variable {α : Type}

def effect (p : Progress α) (name : String) (set : α → Except UsageError α) :
    Except UsageError (Progress α) :=
  if p.given.contains name then .error .repeatedArgument
  else (set p.settings).map fun settings => { p with settings, given := name :: p.given }

/-- Lets the pending parameter take effect. -/
def resolve (p : Progress α) : Except UsageError (Progress α) :=
  match p.pending with
  | none => .ok p
  | some ⟨_, none⟩ => .error .impossibleValue
  | some ⟨parameter, some value⟩ =>
    { p with pending := none }.effect parameter.name (parameter.set value)

/-- The parameter that waits for its value. -/
def waiting? (p : Progress α) : Option (Parameter α) :=
  match p.pending with
  | some ⟨parameter, none⟩ => some parameter
  | _ => none

def switch (p : Progress α) (s : Switch α) : Except UsageError (Progress α) := do
  (← p.resolve).effect s.name s.set

end Progress

namespace Grammar

variable {α : Type}

/-- Reads the text of an option or switch after its two dashes. -/
def long (g : Grammar α) (p : Progress α) (text : List Char) :
    Except UsageError (Progress α) := do
  let (name, value) := Text.cutFirst '=' text
  let name := String.ofList name
  match g.options.find? (·.name == name), g.switches.find? (·.name == name), value with
  | some o, _, some v => (← p.resolve).effect o.name (o.set (String.ofList v))
  | some o, _, none => return { ← p.resolve with pending := some ⟨o, none⟩ }
  | none, some s, none => p.switch s
  | none, some _, some _ => throw .excessValue
  | none, none, _ => throw .unknownArgument

/-- Reads the letters after one dash. -/
def short (g : Grammar α) : Progress α → List Char → Except UsageError (Progress α)
  | p, [] => .ok p
  | p, c :: cs =>
    match g.switches.find? (·.letter? == some c) with
    | none => .error .unknownArgument
    | some s =>
      match p.switch s with
      | .error e => .error e
      | .ok p => short g p cs

/-- Reads a word that is a value or has a position. -/
def plain (g : Grammar α) (trailing : Bool) (p : Progress α) (word : String) :
    Except UsageError (Progress α) :=
  match p.waiting?, p.positions with
  | some parameter, _ => .ok { p with pending := some ⟨parameter, some word⟩ }
  | none, position :: positions =>
    p.resolve.map fun p => { p with pending := some ⟨position, some word⟩, positions }
  | none, [] =>
    .error (if trailing && g.commands.any (·.1 == word) then .unknownArgument else g.misplaced)

/-- The command that a word names, if it can be one at this place. -/
def command? (g : Grammar α) (p : Progress α) (word : String) :
    Option (List String → α → Except UsageError α) :=
  if p.waiting?.isSome then none else (g.commands.find? (·.1 == word)).map (·.2)

def words (g : Grammar α) (trailing : Bool) (p : Progress α) :
    List String → Except UsageError (Progress α)
  | [] => p.resolve
  | word :: rest =>
    if trailing then (g.plain true p word).bind fun p => words g true p rest
    else
      match g.command? p word, word.toList with
      | some read, _ => do
        let settings ← read rest p.settings
        { p with settings }.resolve
      | none, ['-', '-'] => words g true p rest
      | none, '-' :: '-' :: text => (g.long p text).bind fun p => words g false p rest
      | none, '-' :: c :: cs => (g.short p (c :: cs)).bind fun p => words g false p rest
      | none, _ => (g.plain false p word).bind fun p => words g false p rest

/-- Lets the values of the environment take effect where the words gave none. -/
def environment (lookUp : String → Option String) (p : Progress α) :
    List (Parameter α) → Except UsageError (Progress α)
  | [] => .ok p
  | o :: rest =>
    match o.env?.bind lookUp with
    | none => environment lookUp p rest
    | some value =>
      if p.given.contains o.name then environment lookUp p rest
      else (p.effect o.name (o.set value)).bind fun p => environment lookUp p rest

/-- Reads a command line over some settings. The result holds the names of what was given. -/
def read (g : Grammar α) (lookUp : String → Option String) (settings : α)
    (line : List String) : Except UsageError (α × List String) := do
  let p ← g.words false ⟨settings, [], none, g.positions⟩ line
  let p ← environment lookUp p g.options
  return (p.settings, p.given)

end Grammar

end MeshControl.CommandLine
