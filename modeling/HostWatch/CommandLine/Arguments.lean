/-!
# Arguments

The common grammar of command lines: an option with a value, a subcommand, and the
operands of the subcommand. The value of an option follows as the next argument, or
in the same one, after an equals sign or right behind a one-letter name. Arguments
that begin with a dash are options, a single dash apart; behind `--` there are only
operands. Arguments are read from left to right, and the first that is wrong ends
the reading, as does a request for help.
-/

namespace HostWatch.Arguments

/-- Why a command line asks for nothing that could be done. -/
inductive Stop where
  /-- Help is asked for. -/
  | help
  /-- The arguments are wrong. -/
  | usage
  deriving DecidableEq, Repr

/-- An option with a value. -/
structure ValueOption where
  /-- The long name, without its dashes. -/
  long : String
  /-- The one-letter name. -/
  short : Char
  /-- Whether the value may be empty. -/
  mayBeEmpty : Bool
  deriving DecidableEq, Repr

/-- The form of an argument. -/
inductive Form where
  /-- Two dashes alone. -/
  | escape
  /-- A long name, perhaps with a value behind an equals sign. -/
  | long (name : List Char) (value : Option (List Char))
  /-- One-letter names behind a dash. -/
  | short (first : Char) (rest : List Char)
  /-- Anything else. -/
  | operand (text : List Char)
  deriving DecidableEq, Repr

/-- The form of an argument. -/
def Form.of : List Char → Form
  | ['-', '-'] => .escape
  | '-' :: '-' :: cs =>
    match cs.dropWhile (· ≠ '=') with
    | [] => .long cs none
    | _ :: value => .long (cs.takeWhile (· ≠ '=')) (some value)
  | '-' :: c :: cs => .short c cs
  | cs => .operand cs

/-- What a dashed argument means where an option with a value can stand. -/
inductive Meaning where
  /-- The option with its value. -/
  | value (text : List Char)
  /-- The option, whose value is to follow. -/
  | valueFollows
  /-- Nothing can follow. -/
  | stop (reason : Stop)
  deriving DecidableEq, Repr

/-- What a dashed argument means. -/
def meaning (o : Option ValueOption) : Form → Meaning
  | .long name value =>
    if name = "help".toList ∧ value = none then .stop .help
    else if o.any fun o => name = o.long.toList then
      match value with
      | some text => .value text
      | none => .valueFollows
    else .stop .usage
  | .short c rest =>
    if c = 'h' then .stop .help
    else if o.any fun o => c = o.short then
      match rest with
      | [] => .valueFollows
      | '=' :: text => .value text
      | text => .value text
    else .stop .usage
  | _ => .stop .usage

/-- Take the value of an option, which must not have one yet. -/
def accept (o : ValueOption) (seen : Option String) (text : List Char) :
    Except Stop (Option String) :=
  if seen.isSome ∨ (text = [] ∧ !o.mayBeEmpty) then .error .usage
  else .ok (some (String.ofList text))

/-- Read arguments up to the subcommand: the option's value, the subcommand, and what follows. -/
def readCommand (o : ValueOption) (seen : Option String) :
    List String → Except Stop (Option String × String × List String)
  | [] => .error .usage
  | a :: rest =>
    match Form.of a.toList with
    | .operand _ => .ok (seen, a, rest)
    | form =>
      match meaning (some o) form with
      | .stop reason => .error reason
      | .value text =>
        match accept o seen text with
        | .ok seen => readCommand o seen rest
        | .error e => .error e
      | .valueFollows =>
        match rest with
        | b :: rest =>
          match Form.of b.toList with
          | .operand text =>
            match accept o seen text with
            | .ok seen => readCommand o seen rest
            | .error e => .error e
          | _ => .error .usage
        | [] => .error .usage

/-- Read the operands of a subcommand; `fits` says which text can stand as which operand. -/
def readOperands (fits : Nat → String → Bool) (escaped : Bool) (found : List String) :
    List String → Except Stop (List String)
  | [] => .ok found
  | a :: rest =>
    let operand :=
      if fits found.length a then readOperands fits escaped (found ++ [a]) rest
      else .error .usage
    if escaped then operand
    else
      match Form.of a.toList with
      | .operand _ => operand
      | .escape => readOperands fits true found rest
      | form =>
        match meaning none form with
        | .stop reason => .error reason
        | _ => .error .usage

/-- The help that a subcommand `help` asks for, of one of some subcommands or of none. -/
def helpOn (commands : List String) : List String → Stop
  | [] => .help
  | [c] => if c ∈ "help" :: commands then .help else .usage
  | _ => .usage

end HostWatch.Arguments
