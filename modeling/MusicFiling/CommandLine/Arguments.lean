/-!
# Command-line arguments

Options are written as `--name value`, `--name=value`, `-n value` or `-nvalue`; short options
without a value may be grouped. Two hyphens end the options. What is no option is a positional
argument.
-/

namespace MusicFiling.CommandLine

/-- Arguments that do not fit what a command takes. -/
inductive UsageError where
  | noSuchOption
  | badOptionUsage
  | missingParameter
  /-- A path with a null byte, or one that must lead to something else than it does. -/
  | badPath
  /-- No command, an unknown one, or an argument too many. -/
  | misuse
  deriving DecidableEq, Repr

/-- An option that a command takes, under its names. -/
structure OptionForm (κ : Type) where
  key : κ
  names : List String
  takesValue : Bool

/-- The options in the order given, an option without a value having the empty one, and the
    positional arguments. -/
structure Arguments (κ : Type) where
  given : List (κ × String)
  positional : List String

namespace Arguments

variable {κ : Type}

/-- Puts options before the arguments. -/
def prepend (given : List (κ × String)) (a : Arguments κ) : Arguments κ :=
  { a with given := given ++ a.given }

/-- The last value given for an option. -/
def value? [BEq κ] (a : Arguments κ) (key : κ) : Option String :=
  a.given.reverse.lookup key

/-- All values given for an option. -/
def values [BEq κ] (a : Arguments κ) (key : κ) : List String :=
  (a.given.filter (·.1 == key)).map Prod.snd

/-- Whether an option is given. -/
def has [BEq κ] (a : Arguments κ) (key : κ) : Bool :=
  a.given.any (·.1 == key)

end Arguments

variable {κ : Type}

/-- The option with the given name. -/
def findForm? (forms : List (OptionForm κ)) (name : String) : Option (OptionForm κ) :=
  forms.find? (·.names.contains name)

/-- Whether an argument is written as an option. -/
def looksLikeOption (arg : String) : Bool :=
  match arg.toList with
  | '-' :: _ :: _ => true
  | _ => false

/-- A long option's name and the value after its equals sign. -/
def splitValue (arg : String) : String × Option String :=
  let name := arg.toList.takeWhile (· ≠ '=')
  match arg.toList.drop name.length with
  | [] => (arg, none)
  | _ :: value => (String.ofList name, some (String.ofList value))

/-- What one argument gives: options, and the option whose value is the next argument. -/
abbrev Given (κ : Type) := List (κ × String) × Option κ

/-- Reads grouped short options. One that takes a value takes the rest of the group, or else the
    next argument. -/
def readGroup (forms : List (OptionForm κ)) : List Char → Except UsageError (Given κ)
  | [] => .ok ([], none)
  | c :: rest =>
    match findForm? forms (String.ofList ['-', c]) with
    | none => .error .noSuchOption
    | some form =>
      if form.takesValue then
        if rest.isEmpty then .ok ([], some form.key)
        else .ok ([(form.key, String.ofList rest)], none)
      else do
        let (given, open?) ← readGroup forms rest
        return ((form.key, "") :: given, open?)

/-- Reads an argument that is written as an option. -/
def readOption (forms : List (OptionForm κ)) (arg : String) : Except UsageError (Given κ) :=
  let (name, value) := splitValue arg
  if arg.startsWith "--" then
    match findForm? forms name, value with
    | none, _ => .error .noSuchOption
    | some form, some value =>
      if form.takesValue then .ok ([(form.key, value)], none) else .error .badOptionUsage
    | some form, none =>
      if form.takesValue then .ok ([], some form.key) else .ok ([(form.key, "")], none)
  else readGroup forms (arg.toList.drop 1)

/-- Reads arguments. Unless options may be `mixed` with positional arguments, the first of these
    ends the options. -/
def readArguments (forms : List (OptionForm κ)) (mixed : Bool) :
    List String → Except UsageError (Arguments κ)
  | [] => .ok ⟨[], []⟩
  | arg :: rest =>
    if arg = "--" then .ok ⟨[], rest⟩
    else if looksLikeOption arg then do
      match ← readOption forms arg with
      | (given, none) => return (← readArguments forms mixed rest).prepend given
      | (given, some key) =>
        match rest with
        | [] => .error .badOptionUsage
        | value :: rest =>
          return (← readArguments forms mixed rest).prepend (given ++ [(key, value)])
    else if mixed then do
      let more ← readArguments forms mixed rest
      return { more with positional := arg :: more.positional }
    else .ok ⟨[], arg :: rest⟩

end MusicFiling.CommandLine
