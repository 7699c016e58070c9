/-! # The words of a command line

A word is a byte string, which need not be text. The option for the verbosity never takes the word
after it, so a bare `-v` is completed before the words are read.
-/
namespace RoundTrip

abbrev Word := List UInt8

/-- The word of an ASCII text. -/
def ascii (text : String) : Word := text.toList.map fun c => UInt8.ofNat c.toNat

/-- The word after which all words are operands. -/
def endOfOptions : Word := ascii "--"

/-- Completes every bare `-v` before the end of the options to `-v1`. -/
def attachVerbosity : List Word → List Word
  | [] => []
  | word :: rest =>
      if word = endOfOptions then word :: rest
      else if word = ascii "-v" then ascii "-v1" :: attachVerbosity rest
      else word :: attachVerbosity rest

theorem length_attachVerbosity (words : List Word) :
    (attachVerbosity words).length = words.length := by
  induction words with
  | nil => rfl
  | cons word rest ih =>
      unfold attachVerbosity
      split
      · rfl
      · split <;> simp [ih]

end RoundTrip
