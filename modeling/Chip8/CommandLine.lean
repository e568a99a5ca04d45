import Chip8.Profile
import Chip8.Text.Escape
import Chip8.Text.Integer
import Chip8.Text.Numeral

/-!
# The command line

The program takes the path of a ROM and a few options. Arguments are read from left to right.

* A long option `--name` may have its value behind an equals sign or in the next argument; a short one
  `-n` may have it right behind, behind an equals sign or in the next argument. Short flags can be
  joined.
* Behind a lone `--` every argument is a path. A lone `-` is never an option.
* A value that comes in an argument of its own is looked at only when the next argument is, and an
  argument that looks like an option is never taken for a value.

The first problem found decides. An argument that is not known is reported at once, even if a value
before it still waits to be looked at; any other argument has the waiting value looked at first.
-/

namespace Chip8.CommandLine

/-! ## What can be asked for -/

/-- The options that take a number. -/
inductive RateOption
  /-- Instructions a second. -/
  | ips
  /-- Timer ticks a second. -/
  | timerHz
deriving DecidableEq, Repr

/-- The settings of a session as they were asked for. -/
structure Options where
  /-- Instructions a second, if given. -/
  ips : Option UInt32
  /-- Timer ticks a second, if given. -/
  timerHz : Option UInt32
  /-- Whether to start paused. -/
  paused : Bool
  /-- The path of the ROM. -/
  rom : List Char
deriving DecidableEq, Repr

/-- The profile that the options ask for. -/
def Options.profile (o : Options) : Profile :=
  .ofRates (o.ips.getD Profile.defaultIps) (o.timerHz.getD Profile.defaultTimerHz) o.paused

/-- What the program is asked to do. -/
inductive Request
  /-- Show the help. -/
  | help
  /-- Show the version. -/
  | version
  /-- Run a session. -/
  | run (options : Options)
deriving DecidableEq, Repr

/-! ## What can be wrong -/

/-- The things that have a name in messages. -/
inductive Subject
  /-- An option that takes a number. -/
  | rate (option : RateOption)
  /-- The flag that has a session start paused. -/
  | paused
  /-- The flag that asks for help. -/
  | help
  /-- The flag that asks for the version. -/
  | version
  /-- The path. -/
  | rom
deriving DecidableEq, Repr

/-- The name of a subject in messages. -/
def Subject.name : Subject → String
  | .rate .ips => "--ips <IPS>"
  | .rate .timerHz => "--timer-hz <TIMER_HZ>"
  | .paused => "--paused"
  | .help => "--help"
  | .version => "--version"
  | .rom => "<ROM>"

/-- Why a text is not a rate. -/
inductive RateError
  /-- The text is not an integer. -/
  | notInteger (cause : Text.IntegerError)
  /-- The integer is not the value of a rate. -/
  | outOfRange (value : Int)
deriving DecidableEq, Repr

/-- A decimal number with its sign. -/
def signedDecimal : Int → String
  | .ofNat n => Numeral.decimal n
  | .negSucc n => "-" ++ Numeral.decimal (n + 1)

/-- The greatest rate. -/
def maxRate : Nat := 4294967295

/-- The text of a rate error. -/
def RateError.message : RateError → String
  | .notInteger cause => cause.message
  | .outOfRange value => signedDecimal value ++ " is not in 0..=" ++ Numeral.decimal maxRate

/-- Why the arguments make no request. -/
inductive UsageError
  /-- An argument is not known or too much. -/
  | unexpectedArgument (argument : List Char)
  /-- A flag has a value. -/
  | unexpectedValue (value : List Char) (subject : Subject)
  /-- A value is missing. -/
  | valueRequired (subject : Subject)
  /-- Something was given twice. -/
  | repeated (subject : Subject)
  /-- A value is not a rate. -/
  | invalidRate (value : List Char) (option : RateOption) (cause : RateError)
  /-- The path is missing. -/
  | romRequired
deriving DecidableEq, Repr

/-- Text between single quotes. -/
def singleQuoted (text : String) : String := "'" ++ text ++ "'"

/-- Text from the command line between single quotes, without what a terminal would interpret. -/
def shown (text : List Char) : String :=
  singleQuoted (String.ofList (Text.Escape.visible text))

/-- The text of a usage error. -/
def UsageError.message : UsageError → String
  | .unexpectedArgument argument => "unexpected argument " ++ shown argument ++ " found"
  | .unexpectedValue value subject =>
    "unexpected value " ++ shown value ++ " for " ++
      singleQuoted subject.name ++ " found; no more were expected"
  | .valueRequired subject =>
    "a value is required for " ++ singleQuoted subject.name ++ " but none was supplied"
  | .repeated subject =>
    "the argument " ++ singleQuoted subject.name ++ " cannot be used multiple times"
  | .invalidRate value option cause =>
    "invalid value " ++ shown value ++ " for " ++ singleQuoted (Subject.rate option).name ++ ": " ++
      cause.message
  | .romRequired => "the following required arguments were not provided:\n  <ROM>"

/-! ## Reading arguments -/

/-- Reads a rate: a 64-bit integer that has to lie within 32 bits. -/
def readRate (value : List Char) : Except RateError UInt32 :=
  match Text.readInteger 10 0x7FFFFFFFFFFFFFFF value with
  | .error cause => .error (.notInteger cause)
  | .ok n => if 0 ≤ n ∧ n ≤ maxRate then .ok n.toNat.toUInt32 else .error (.outOfRange n)

/-- Something that was given and has not been looked at yet. -/
inductive Pending
  /-- Nothing. -/
  | nothing
  /-- A rate option, with its value if that was given. -/
  | rate (option : RateOption) (value : Option (List Char))
  /-- A path. -/
  | rom (path : List Char)
deriving DecidableEq, Repr

/-- How far the arguments were read. -/
structure State where
  /-- Instructions a second, if given. -/
  ips : Option UInt32
  /-- Timer ticks a second, if given. -/
  timerHz : Option UInt32
  /-- Whether to start paused. -/
  paused : Bool
  /-- The path, if given. -/
  rom : Option (List Char)
  /-- What has not been looked at yet. -/
  pending : Pending
  /-- Whether a lone `--` has come by. -/
  onlyPaths : Bool
deriving DecidableEq, Repr

/-- Why reading ended before the last argument. -/
inductive Early
  /-- Something is wrong. -/
  | usage (cause : UsageError)
  /-- Something was asked for that makes the rest irrelevant. -/
  | request (request : Request)
deriving DecidableEq, Repr

namespace State

/-- Nothing was given. -/
def initial : State := ⟨none, none, false, none, .nothing, false⟩

/-- The rate that was given for an option. -/
def rate? (s : State) : RateOption → Option UInt32
  | .ips => s.ips
  | .timerHz => s.timerHz

/-- Takes over a rate. -/
def setRate (s : State) (rate : UInt32) : RateOption → State
  | .ips => { s with ips := some rate }
  | .timerHz => { s with timerHz := some rate }

/-- Looks at the value of a rate option. -/
def assign (s : State) (option : RateOption) (value : List Char) : Except Early State :=
  if (s.rate? option).isSome then .error (.usage (.repeated (.rate option)))
  else match readRate value with
    | .error cause => .error (.usage (.invalidRate value option cause))
    | .ok rate => .ok (s.setRate rate option)

/-- Looks at what is pending. -/
def settle (s : State) : Except Early State :=
  let rest := { s with pending := .nothing }
  match s.pending with
  | .nothing => .ok rest
  | .rate option none => .error (.usage (.valueRequired (.rate option)))
  | .rate option (some value) => rest.assign option value
  | .rom path =>
    if path = [] then .error (.usage (.valueRequired .rom)) else .ok { rest with rom := some path }

/-- Meets a rate option, with the value that stands in the same argument if there is one. -/
def meetRate (s : State) (option : RateOption) (value : Option (List Char)) : Except Early State := do
  let s ← s.settle
  match value with
  | some value => s.assign option value
  | none => return { s with pending := .rate option none }

/-- Meets the flag that has a session start paused. -/
def meetPaused (s : State) : Except Early State := do
  let s ← s.settle
  if s.paused then throw (.usage (.repeated .paused))
  return { s with paused := true }

/-- Meets a flag that makes the rest irrelevant. -/
def meetRequest (s : State) (request : Request) : Except Early State := do
  let _ ← s.settle
  throw (.request request)

/-- Meets a path. There is room for one. -/
def meetPath (s : State) (path : List Char) : Except Early State :=
  match s.rom, s.pending with
  | some _, _ => .error (.usage (.unexpectedArgument path))
  | none, .rom _ => .error (.usage (.unexpectedArgument path))
  | none, _ => do
    let s ← s.settle
    return { s with pending := .rom path }

/-- A flag that must not have a value. -/
def withoutValue (subject : Subject) (value : Option (List Char)) (next : Except Early State) :
    Except Early State :=
  match value with
  | some value => .error (.usage (.unexpectedValue value subject))
  | none => next

/-- Meets a long option: the text behind the dashes. -/
def meetLong (s : State) (text : List Char) : Except Early State :=
  let name := text.takeWhile (· ≠ '=')
  let value := match text.dropWhile (· ≠ '=') with
    | [] => none
    | _ :: value => some value
  match String.ofList name with
  | "ips" => s.meetRate .ips value
  | "timer-hz" => s.meetRate .timerHz value
  | "paused" => withoutValue .paused value s.meetPaused
  | "help" => withoutValue .help value (s.meetRequest .help)
  | "version" => withoutValue .version value (s.meetRequest .version)
  | _ => .error (.usage (.unexpectedArgument ('-' :: '-' :: name)))

/-- The value that stands right behind a short option. -/
def attached : List Char → Option (List Char)
  | [] => none
  | '=' :: value => some value
  | value => some value

/-- Meets joined short options: the text behind the dash. -/
def meetShorts (s : State) : List Char → Except Early State
  | [] => .ok s
  | 'p' :: rest => do
    let s ← s.meetPaused
    s.meetShorts rest
  | 'h' :: _ => s.meetRequest .help
  | 'V' :: _ => s.meetRequest .version
  | 'i' :: rest => s.meetRate .ips (attached rest)
  | 't' :: rest => s.meetRate .timerHz (attached rest)
  | c :: _ => .error (.usage (.unexpectedArgument ['-', c]))

/-- Meets an argument that does not look like an option: the value that is waited for, or a path. -/
def meetPlain (s : State) (argument : List Char) : Except Early State :=
  match s.pending with
  | .rate option none => .ok { s with pending := .rate option (some argument) }
  | _ => s.meetPath argument

/-- Meets an argument. -/
def meet (s : State) (argument : List Char) : Except Early State :=
  if s.onlyPaths then s.meetPath argument
  else match argument with
    | ['-', '-'] => .ok { s with onlyPaths := true }
    | '-' :: '-' :: text => s.meetLong text
    | ['-'] => s.meetPlain argument
    | '-' :: text => s.meetShorts text
    | _ => s.meetPlain argument

/-- Makes a request of what was given. -/
def conclude (s : State) : Except Early Request := do
  let s ← s.settle
  match s.rom with
  | some rom => return .run ⟨s.ips, s.timerHz, s.paused, rom⟩
  | none => throw (.usage .romRequired)

end State

/-- Reads arguments from a state on. -/
def readFrom (s : State) : List (List Char) → Except Early Request
  | [] => s.conclude
  | argument :: rest => do
    let s ← s.meet argument
    readFrom s rest

/-- What the arguments ask for. -/
def parse (arguments : List (List Char)) : Except UsageError Request :=
  match readFrom .initial arguments with
  | .ok request => .ok request
  | .error (.request request) => .ok request
  | .error (.usage cause) => .error cause

/-! ## Texts -/

/-- The name of the program and its version. -/
def versionText : String := "chip8run 0.1.0\n"

/-- How the program is called. -/
def usageText : String := "Usage: chip8run [OPTIONS] <ROM>\n"

/-- The help. -/
def helpText : String :=
  "A CHIP-8 virtual machine with a threaded execution scheduler\n\n" ++ usageText ++
  "\nArguments:\n  <ROM>  ROM filename to load\n\nOptions:\n" ++
  "  -i, --ips <IPS>            Instructions per second [default: 1000]\n" ++
  "  -t, --timer-hz <TIMER_HZ>  Timer rate in Hz [default: 60]\n" ++
  "  -p, --paused               Start paused\n" ++
  "  -h, --help                 Print help\n" ++
  "  -V, --version              Print version\n"

/-- What is shown about arguments that make no request. -/
def usageReport (cause : UsageError) : String :=
  "error: " ++ cause.message ++ "\n\n" ++ usageText ++ "\nFor more information, try '--help'.\n"

end Chip8.CommandLine
