import SecretScan.CommandLine.Misuse

/-!
# The words of a command line

Words are options, values of options, and arguments. An option begins with two dashes,
or with one dash and a letter; letters behind one dash may stand together. A value is
the next word, or what follows an equals sign or the letter of its option. Two dashes by
themselves make all words behind them arguments.
-/

namespace SecretScan.CommandLine

/-- An option: its name, its letter if it has one, and whether a value belongs to it. -/
structure OptionForm where
  name : String
  letter : Option Char := none
  takesValue : Bool := false
deriving DecidableEq, Repr

/-- An option as it was given. An option without a value has the empty one. -/
structure Given where
  name : String
  value : String := ""
deriving DecidableEq, Repr

/-- The words of a command line, told apart. -/
structure Words where
  options : List Given := []
  arguments : List String := []
deriving DecidableEq, Repr

namespace Words

/-- What a word with options amounts to: the options in it, and whether the last one
still needs a value, with the way in which it was spelled. -/
structure Opened where
  options : List Given := []
  waiting : Option (OptionForm × String) := none

/-- The options behind one dash. -/
def letters (forms : List OptionForm) : List Char → Except Misuse Opened
  | [] => .ok {}
  | c :: rest =>
    let spelling := String.ofList ['-', c]
    match forms.find? (·.letter = some c) with
    | none => .error (.unknownOption spelling)
    | some form =>
      if form.takesValue then
        if rest.isEmpty then .ok { waiting := some (form, spelling) }
        else .ok { options := [⟨form.name, String.ofList rest⟩] }
      else do
        let more ← letters forms rest
        return { more with options := ⟨form.name, ""⟩ :: more.options }

/-- A name, and the value behind an equals sign. -/
def splitValue (word : List Char) : String × Option String :=
  (String.ofList (word.takeWhile (· ≠ '=')),
    match word.dropWhile (· ≠ '=') with
    | _ :: value => some (String.ofList value)
    | [] => none)

/-- The options in a word that begins with a dash. -/
def opened (forms : List OptionForm) (word : String) : Except Misuse Opened :=
  let (name, value) := splitValue word.toList
  match forms.find? (·.name = name), word.toList with
  | some form, _ =>
    match form.takesValue, value with
    | true, some value => .ok { options := [⟨form.name, value⟩] }
    | true, none => .ok { waiting := some (form, name) }
    | false, some _ => .error (.unwantedValue name)
    | false, none => .ok { options := [⟨form.name, ""⟩] }
  | none, '-' :: '-' :: _ => .error (.unknownOption name)
  | none, _ :: rest => letters forms rest
  | none, [] => .ok {}

/-- Whether a word is made of options. -/
def isOption (word : String) : Bool :=
  match word.toList with
  | '-' :: _ :: _ => true
  | _ => false

/-- Options before other words. -/
def withOptions (options : List Given) (w : Words) : Words :=
  { w with options := options ++ w.options }

/-- Tells words apart. Unless options may come after arguments, the first argument makes
all words behind it arguments too. -/
def read (forms : List OptionForm) (anywhere : Bool) : List String → Except Misuse Words
  | [] => .ok {}
  | word :: rest =>
    if word = "--" then .ok { arguments := rest }
    else if !isOption word then
      if anywhere then do
        let w ← read forms anywhere rest
        return { w with arguments := word :: w.arguments }
      else .ok { arguments := word :: rest }
    else
      match opened forms word with
      | .error m => .error m
      | .ok { options, waiting := none } => (read forms anywhere rest).map (withOptions options)
      | .ok { options, waiting := some (form, spelling) } =>
        match rest with
        | [] => .error (.missingValue spelling)
        | value :: rest =>
          (read forms anywhere rest).map (withOptions (options ++ [⟨form.name, value⟩]))

/-- Whether an option was given. -/
def has (w : Words) (name : String) : Bool := w.options.any (·.name = name)

/-- The value of an option, which is the last one that was given. -/
def value? (w : Words) (name : String) : Option String :=
  (w.options.reverse.find? (·.name = name)).map (·.value)

/-- The names of the options that were given, in the order in which each came first. -/
def names (w : Words) : List String := (w.options.map (·.name)).eraseDups

end Words

end SecretScan.CommandLine
