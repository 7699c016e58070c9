import RoundTrip.CommandLine.Method
import RoundTrip.CommandLine.Words
import RoundTrip.Text.Plain
import RoundTrip.Text.Utf8

/-! # Options

The arguments that the program knows, the options that a command line settles, and the reasons for
which a command line is refused.
-/
namespace RoundTrip

/-- Arguments without a value. -/
inductive Flag where
  | all
  | verify
  | statistics
  | list
  | help
  | version
  deriving DecidableEq

/-- Arguments with a value. -/
inductive Valued where
  | method
  | iterations
  | memory
  | verbosity
  | libraryDir
  | label
  deriving DecidableEq

inductive Argument where
  | flag (flag : Flag)
  | valued (valued : Valued)
  | input
  deriving DecidableEq

namespace Argument

/-- The argument of a letter after one hyphen. -/
def ofLetter? (letter : UInt8) : Option Argument :=
  match Char.ofNat letter.toNat with
  | 'a' => some (.flag .all)
  | 't' => some (.flag .verify)
  | 'p' => some (.flag .statistics)
  | 'l' => some (.flag .list)
  | 'h' => some (.flag .help)
  | 'V' => some (.flag .version)
  | 'e' => some (.valued .method)
  | 'i' => some (.valued .iterations)
  | 'm' => some (.valued .memory)
  | 'v' => some (.valued .verbosity)
  | _ => none

/-- The argument of a name after two hyphens. -/
def ofLongName? (name : Word) : Option Argument :=
  if name = ascii "help" then some (.flag .help)
  else if name = ascii "version" then some (.flag .version)
  else if name = ascii "libdir" then some (.valued .libraryDir)
  else if name = ascii "label" then some (.valued .label)
  else none

/-- The argument as refusals name it. -/
def title : Argument → String
  | .flag .all => "-a"
  | .flag .verify => "-t"
  | .flag .statistics => "-p"
  | .flag .list => "-l"
  | .flag .help => "--help"
  | .flag .version => "--version"
  | .valued .method => "-e <NAME[:LEVEL[:EXTRA]]>"
  | .valued .iterations => "-i <N>"
  | .valued .memory => "-m <MB>"
  | .valued .verbosity => "-v <LEVEL>"
  | .valued .libraryDir => "--libdir <DIR>"
  | .valued .label => "--label <TEXT>"
  | .input => "[INPUT]"

end Argument

/-- Why no options came of a command line. -/
inductive Refusal where
  | help
  | version
  | unknownArgument (word : String)
  | invalidValue (value : String) (argument : Argument) (reason : String)
  | missingValue (argument : Argument)
  | repeated (argument : Argument)
  | conflict (first second : Argument)
  | missingInput
  | notUtf8
  | surplusValue (value : String) (argument : Argument)
  deriving DecidableEq

namespace Refusal

def about : String := "Benchmark native LZ4, LZ4HC, ZLIB and BZIP2 shared libraries"

/-- A value of the command line, in the colour of what is wrong. -/
def coloured (value : String) : String := "\x1b[33m" ++ value ++ "\x1b[0m"

/-- What follows, on a line of its own, where a value could not be read. -/
def hint : String := "\n\nFor more information, try '\x1b[1m--help\x1b[0m'.\n"

/-- What a terminal with colours is sent. -/
def text : Refusal → String
  | .help => about
  | .version => s!"{programName} {programVersion}"
  | .unknownArgument word => "error: unexpected argument '" ++ coloured word ++ "' found"
  | .invalidValue value argument reason =>
      "error: invalid value '" ++ coloured value ++ s!"' for '{argument.title}': {reason}" ++ hint
  | .missingValue argument =>
      s!"error: a value is required for '{argument.title}' but none was supplied"
  | .repeated argument => s!"error: the argument '{argument.title}' cannot be used multiple times"
  | .conflict first second =>
      s!"error: the argument '{first.title}' cannot be used with '{second.title}'"
  | .missingInput => "error: the following required arguments were not provided:"
  | .notUtf8 => "error: invalid UTF-8 was detected in one or more arguments"
  | .surplusValue value argument =>
      "error: unexpected value '" ++ coloured value ++
        s!"' for '{argument.title}' found; no more were expected"

/-- The first line of what is shown without colours. -/
def firstLine (interruption : Text.Interruption) (r : Refusal) : List Char :=
  Text.firstLine (Text.plain interruption r.text.toList)

/-- The line by which a refusal is reported. -/
def message (r : Refusal) : String := String.ofList (Text.dropReturn (r.firstLine .ends))

/-- Help and version are asked for; everything else is an error of usage. -/
def isRequest : Refusal → Bool
  | .help | .version => true
  | _ => false

end Refusal

structure Options where
  all : Bool
  method : Option Method
  iterations : UInt32
  memoryMegabytes : Option Nat
  verify : Bool
  statistics : Bool
  verbosity : Option Nat
  list : Bool
  libraryDir : String
  label : String
  input : Option Word

namespace Options

/-- What holds where nothing is given. -/
def default : Options where
  all := false
  method := none
  iterations := Settings.defaultIterations
  memoryMegabytes := none
  verify := false
  statistics := false
  verbosity := none
  list := false
  libraryDir := ""
  label := Settings.defaultLabel
  input := none

/-- The display level that was asked for. -/
def displayLevel? (o : Options) : Option Nat := o.verbosity.map Console.clampVerbosity

/-- The memory limit in bytes; the fault is a number of megabytes that 64 bits do not hold as
bytes. -/
def memoryLimit (o : Options) : Except Nat Nat :=
  match o.memoryMegabytes with
  | none => .ok Settings.defaultMemoryLimit
  | some megabytes =>
      if megabytes * 0x100000 < 0x10000000000000000 then .ok (megabytes * 0x100000)
      else .error megabytes

/-- The text about a memory limit that is no number of bytes. -/
def memoryTooLarge (megabytes : Nat) : String :=
  s!"memory limit of {megabytes} MB is too large"

/-- The settings of the run that the options ask for. -/
def settings (o : Options) : Except Nat Settings := do
  let memoryLimit ← o.memoryLimit
  return {
    selection := match o.method with
      | none => .all
      | some method => .single method.codec
    level := (o.method.map Method.level).getD notGiven
    extra := (o.method.map Method.extra).getD notGiven
    iterations := o.iterations
    memoryLimit := memoryLimit
    verify := o.verify
    statistics := o.statistics
    libraryDir := o.libraryDir
    label := o.label }

end Options
end RoundTrip
