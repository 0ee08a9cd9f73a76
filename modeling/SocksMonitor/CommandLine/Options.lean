/-!
# Options

Arguments are read from left to right: `--name value`, `--name=value`, `-n value`, `-nvalue`,
`-n=value`, and flags, which may share a dash. The first argument that does not fit ends the
reading, and so does an option that asks for help. No command takes arguments other than options.
-/

namespace SocksMonitor.CommandLine

/-- Why reading ends without a command. -/
inductive Halt where
  | help
  | version
  /-- An argument that does not fit, or a missing one. -/
  | usage
deriving Repr, DecidableEq

inductive OptionKind where
  | flag
  | value (accepts : String → Bool)
  | halt (reason : Halt)

structure OptionForm where
  name : String
  letter : Option Char := none
  kind : OptionKind

/-- The options that were given, the latest first. A flag has the value `""`. -/
abbrev Given := List (String × String)

/-- Takes up an option, which must not have been given before and needs a fitting value. -/
def Given.add (given : Given) (option : OptionForm) (value : String) : Except Halt Given :=
  if (given.lookup option.name).isSome then .error .usage
  else
    match option.kind with
    | .value accepts =>
      if accepts value then .ok ((option.name, value) :: given) else .error .usage
    | _ => .ok ((option.name, value) :: given)

/-- What an argument is by its dashes. -/
inductive Shape where
  | word
  | separator
  | long (name : String) (value : Option String)
  | letters (cs : List Char)
deriving Repr, DecidableEq

/-- The name and the value around an equals sign. -/
def splitLong (cs : List Char) : Shape :=
  let name := String.ofList (cs.takeWhile (· != '='))
  match cs.dropWhile (· != '=') with
  | _ :: value => .long name (some (String.ofList value))
  | [] => .long name none

/-- The shape of an argument. A dash alone is a word. -/
def shape (arg : String) : Shape :=
  match arg.toList with
  | ['-', '-'] => .separator
  | '-' :: '-' :: cs => splitLong cs
  | '-' :: c :: cs => .letters (c :: cs)
  | _ => .word

/-- What came of an argument: it is done with, or it needs the next one as its value. -/
inductive Progress where
  | done (given : Given)
  | pending (option : OptionForm)

def attached : List Char → String
  | '=' :: cs => String.ofList cs
  | cs => String.ofList cs

/-- Takes up letters that share a dash. -/
def readLetters (options : List OptionForm) (given : Given) : List Char → Except Halt Progress
  | [] => .ok (.done given)
  | c :: cs =>
    match options.find? (·.letter == some c) with
    | none => .error .usage
    | some option =>
      match option.kind with
      | .halt reason => .error reason
      | .flag =>
        match given.add option "" with
        | .ok given => readLetters options given cs
        | .error halt => .error halt
      | .value _ =>
        if cs.isEmpty then .ok (.pending option)
        else (given.add option (attached cs)).map .done

def readLong (options : List OptionForm) (given : Given) (name : String) (value : Option String) :
    Except Halt Progress :=
  match options.find? (·.name == name) with
  | none => .error .usage
  | some option =>
    match option.kind, value with
    | .halt reason, none => .error reason
    | .flag, none => (given.add option "").map .done
    | .halt _, some _ | .flag, some _ => .error .usage
    | .value _, some value => (given.add option value).map .done
    | .value _, none => .ok (.pending option)

def readArgument (options : List OptionForm) (given : Given) (arg : String) :
    Except Halt Progress :=
  match shape arg with
  | .word | .separator => .error .usage
  | .long name value => readLong options given name value
  | .letters cs => readLetters options given cs

/-- Reads arguments that are all options. Nothing may follow a separator. The value of an option may
not look like an option itself. -/
def readOptions (options : List OptionForm) (given : Given) : List String → Except Halt Given
  | [] => .ok given
  | arg :: rest =>
    if shape arg = .separator then if rest.isEmpty then .ok given else .error .usage
    else
      match readArgument options given arg with
      | .error halt => .error halt
      | .ok (.done given) => readOptions options given rest
      | .ok (.pending option) =>
        match rest with
        | [] => .error .usage
        | value :: rest =>
          if shape value = .word then
            match given.add option value with
            | .ok given => readOptions options given rest
            | .error halt => .error halt
          else .error .usage

end SocksMonitor.CommandLine
