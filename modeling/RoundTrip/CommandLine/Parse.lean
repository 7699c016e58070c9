import RoundTrip.CommandLine.Options

/-! # Reading a command line

Words are read from the left. A value in a word of its own, and the operand, are looked at only when
the next known argument or the end is reached; a word that is no argument at all is refused at once.
Conflicts and a missing operand are found after all words.
-/
namespace RoundTrip.CommandLine

/-- What was begun and is not settled yet. -/
inductive Pending where
  | nothing
  | awaiting (valued : Valued)
  | holding (valued : Valued) (word : Word)
  | input (word : Word)

structure Progress where
  options : Options
  /-- The arguments that are settled, the last one first. -/
  given : List Argument
  pending : Pending
  /-- The end of the options has been passed. -/
  operandsOnly : Bool
  /-- The operand has been met. -/
  inputMet : Bool

def Progress.start : Progress := ⟨.default, [], .nothing, false, false⟩

/-- A value as text. -/
def textValue (word : Word) : Except Refusal String :=
  match Text.utf8Text? word with
  | none => .error .notUtf8
  | some text => .ok text

/-- A value as a number; the fault shows the value. -/
def numberValue (argument : Argument) (read : List Char → Except Text.NumberFault Int)
    (word : Word) : Except Refusal Int := do
  let text ← textValue word
  match read text.toList with
  | .ok n => return n
  | .error fault => throw (.invalidValue text argument fault.message)

/-- A value as an unsigned 32-bit number, read as a 64-bit one and then held to its range. -/
def word32Value (argument : Argument) (word : Word) : Except Refusal Nat := do
  let n ← numberValue argument Text.readInt64 word
  if 0 ≤ n ∧ n < 0x100000000 then return n.toNat
  else
    let text ← textValue word
    throw (.invalidValue text argument s!"{n} is not in 0..=4294967295")

/-- The options with one value put in. -/
def store (options : Options) (valued : Valued) (word : Word) : Except Refusal Options :=
  let argument := Argument.valued valued
  match valued with
  | .method => do
      let text ← textValue word
      match Method.ofText? text with
      | .ok method => return { options with method := some method }
      | .error fault => throw (.invalidValue text argument fault.message)
  | .iterations => do
      let n ← word32Value argument word
      return { options with iterations := n.toUInt32 }
  | .memory => do
      let n ← numberValue argument (fun cs => (Text.readUInt64 cs).map Int.ofNat) word
      return { options with memoryMegabytes := some n.toNat }
  | .verbosity => do
      let n ← word32Value argument word
      return { options with verbosity := some n }
  | .libraryDir => do
      let text ← textValue word
      return { options with libraryDir := text }
  | .label => do
      let text ← textValue word
      return { options with label := text }

/-- Settles a value for an argument that was not given before. -/
def assign (p : Progress) (valued : Valued) (word : Word) : Except Refusal Progress :=
  let argument := Argument.valued valued
  if argument ∈ p.given then .error (.repeated argument)
  else do
    let options ← store p.options valued word
    return { p with options := options, given := argument :: p.given, pending := .nothing }

/-- Settles what was begun. -/
def settle (p : Progress) : Except Refusal Progress :=
  match p.pending with
  | .nothing => .ok p
  | .awaiting valued => .error (.missingValue (.valued valued))
  | .holding valued word => assign p valued word
  | .input word =>
      if word.isEmpty then .error (.missingValue .input)
      else
        .ok { p with
          options := { p.options with input := some word }
          given := .input :: p.given
          pending := .nothing }

/-- The options with one flag raised. -/
def raise (options : Options) : Flag → Except Refusal Options
  | .all => .ok { options with all := true }
  | .verify => .ok { options with verify := true }
  | .statistics => .ok { options with statistics := true }
  | .list => .ok { options with list := true }
  | .help => .error .help
  | .version => .error .version

def takeFlag (p : Progress) (flag : Flag) : Except Refusal Progress := do
  let p ← settle p
  let argument := Argument.flag flag
  if argument ∈ p.given then throw (.repeated argument)
  else
    let options ← raise p.options flag
    return { p with options := options, given := argument :: p.given }

/-- Takes an argument with the value that came in its own word, if one did. -/
def takeValued (p : Progress) (valued : Valued) (value : Option Word) :
    Except Refusal Progress := do
  let p ← settle p
  match value with
  | none => return { p with pending := .awaiting valued }
  | some word => assign p valued word

/-- The byte of the equals sign. -/
def equalsSign : UInt8 := 0x3D

/-- The value in what is left of a word after a letter; one equals sign before it does not count. -/
def attached : Word → Option Word
  | [] => none
  | byte :: rest => some (if byte = equalsSign then rest else byte :: rest)

/-- The first character of a word, or all of the word where no character begins it. -/
def firstCharacter (word : Word) : String :=
  match [1, 2, 3, 4].findSome? fun n => Text.utf8Text? (word.take n) with
  | some text => text
  | none => Text.lossyText word

/-- Reads the letters after one hyphen. -/
def takeLetters (p : Progress) : Word → Except Refusal Progress
  | [] => .ok p
  | letter :: rest =>
      match Argument.ofLetter? letter with
      | some (.flag flag) => do
          let p ← takeFlag p flag
          takeLetters p rest
      | some (.valued valued) => takeValued p valued (attached rest)
      | _ => .error (.unknownArgument ("-" ++ firstCharacter (letter :: rest)))

/-- Reads what follows two hyphens: a name, and a value after an equals sign. -/
def takeLong (p : Progress) (text : Word) : Except Refusal Progress :=
  let name := text.takeWhile (· != equalsSign)
  let value := ((text.dropWhile (· != equalsSign)).head?).map fun _ =>
    (text.dropWhile (· != equalsSign)).tail
  match Argument.ofLongName? name with
  | some (.flag flag) =>
      match value with
      | none => takeFlag p flag
      | some word => .error (.surplusValue (Text.lossyText word) (.flag flag))
  | some (.valued valued) => takeValued p valued value
  | _ => .error (.unknownArgument ("--" ++ Text.lossyText name))

/-- Reads the operand; there is only one. -/
def takeOperand (p : Progress) (word : Word) : Except Refusal Progress := do
  if p.inputMet then throw (.unknownArgument (Text.lossyText word))
  else
    let p ← settle p
    return { p with pending := .input word, inputMet := true }

/-- The byte of the hyphen. -/
def hyphen : UInt8 := 0x2D

/-- A word that neither begins an option nor ends the options. -/
def takePlain (p : Progress) (word : Word) : Except Refusal Progress :=
  match p.pending with
  | .awaiting valued => .ok { p with pending := .holding valued word }
  | _ => takeOperand p word

def takeWord (p : Progress) (word : Word) : Except Refusal Progress :=
  if p.operandsOnly then takeOperand p word
  else if word = endOfOptions then .ok { p with operandsOnly := true }
  else
    match word with
    | first :: second :: rest =>
        if first = hyphen then
          if second = hyphen then takeLong p rest else takeLetters p (second :: rest)
        else takePlain p word
    | _ => takePlain p word

/-- What no single word shows: arguments that exclude each other, and a missing operand. -/
def check (p : Progress) : Except Refusal Options :=
  let all := Argument.flag .all
  let method := Argument.valued .method
  match p.given.reverse.filter fun a => a = all || a = method with
  | first :: second :: _ => .error (.conflict first second)
  | _ =>
      if p.options.input.isNone && !p.options.list then .error .missingInput else .ok p.options

/-- Reads the words after the program's name. -/
def parseWords (words : List Word) : Except Refusal Options := do
  let p ← words.foldlM takeWord .start
  let p ← settle p
  check p

/-- Reads a command line, the program's name first. -/
def parse (words : List Word) : Except Refusal Options := parseWords (attachVerbosity words).tail

end RoundTrip.CommandLine
