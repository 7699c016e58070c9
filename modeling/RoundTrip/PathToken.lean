/-! # Tokens in library paths

A path with a slash may name directories by what they are: a dollar sign and a name, with or without
braces, stand for a text. A name without braces must not go on. All else stands for itself; main
statement: a path without a dollar sign is left alone.
-/
namespace RoundTrip

inductive PathToken where
  /-- The directory of the program. -/
  | origin
  /-- The kind of processor. -/
  | platform
  /-- The directory of libraries for that processor. -/
  | libraries
  deriving DecidableEq

namespace PathToken

def all : List PathToken := [.origin, .platform, .libraries]

def name : PathToken → List Char
  | .origin => "ORIGIN".toList
  | .platform => "PLATFORM".toList
  | .libraries => "LIB".toList

/-- What a token stands for. -/
def value (programDirectory : String) : PathToken → List Char
  | .origin => programDirectory.toList
  | .platform => "x86_64".toList
  | .libraries => "lib/x86_64-linux-gnu".toList

/-- A name goes on with letters, digits and underscores. -/
def isNameChar (c : Char) : Bool := c.isAlphanum || c = '_'

/-- How many characters after a dollar sign name the token, if they do. -/
def length? (token : PathToken) : List Char → Option Nat
  | '\x7b' :: rest =>
      if (token.name ++ ['\x7d']).isPrefixOf rest then some (token.name.length + 2) else none
  | rest =>
      if token.name.isPrefixOf rest && !(rest.drop token.name.length).head?.any isNameChar then
        some token.name.length
      else none

/-- The token named after a dollar sign, with the length of its name. -/
def read? (rest : List Char) : Option (PathToken × Nat) :=
  all.findSome? fun token => (token.length? rest).map fun length => (token, length)

/-- Puts the values of tokens in their place, after so many characters that belong to the token
before. -/
def expandFrom (value : PathToken → List Char) : Nat → List Char → List Char
  | _, [] => []
  | passed + 1, _ :: rest => expandFrom value passed rest
  | 0, c :: rest =>
      if c = '$' then
        match read? rest with
        | some (token, length) => value token ++ expandFrom value length rest
        | none => c :: expandFrom value 0 rest
      else c :: expandFrom value 0 rest

/-- The path with the values of its tokens. -/
def expand (programDirectory : String) (path : String) : String :=
  String.ofList (expandFrom (value programDirectory) 0 path.toList)

theorem expandFrom_eq_self {value : PathToken → List Char} {cs : List Char} (h : '$' ∉ cs) :
    expandFrom value 0 cs = cs := by
  induction cs with
  | nil => rfl
  | cons c rest ih =>
      simp only [List.mem_cons, not_or] at h
      simp [expandFrom, Ne.symm h.1, ih h.2]

/-- A path without a dollar sign is left alone. -/
theorem expand_eq_self {programDirectory path : String} (h : '$' ∉ path.toList) :
    expand programDirectory path = path := by
  simp [expand, expandFrom_eq_self h]

end PathToken
end RoundTrip
