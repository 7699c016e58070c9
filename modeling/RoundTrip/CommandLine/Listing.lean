import RoundTrip.Codec

/-! # The listing of codecs

A table of all codecs with their lowest and highest level, and the names of those that a reference
library serves.
-/
namespace RoundTrip.CommandLine

def rule : String := "===========================================\n"

/-- The line of one codec; one without levels shows none. -/
def listingLine (codec : Codec) : String :=
  let d := codec.descriptor
  if d.hasLevels then s!"{d.name}\t\t {d.lowest}\t\t{d.highest}\n"
  else s!"{d.name}\t\t NA\t\tNA\n"

def listing : String :=
  "\nSupported compression/decompression methods along with their supported levels are:\n\n" ++
    rule ++ "Method Name\tLower Level\tUpper Level\n" ++ rule ++
    String.join (Codec.all.map listingLine) ++
    s!"\nMethods with a reference library: {Codec.supportedNames}\n\n"

end RoundTrip.CommandLine
