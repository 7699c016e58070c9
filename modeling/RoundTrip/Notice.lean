import RoundTrip.Fault
import RoundTrip.Report.Event

/-! # Notices

The messages for the person who runs the program. Each has a level of its own, one to four, and one
text, which ends in a line break.
-/
namespace RoundTrip

inductive Level where
  | error
  | info
  | debug
  | trace
  deriving DecidableEq

def Level.rank : Level → Nat
  | .error => 1
  | .info => 2
  | .debug => 3
  | .trace => 4

/-- The name and version that the program announces. -/
def programName : String := "codec_bench"

def programVersion : String := "0.3.0"

/-- The activities whose beginning and end are traced. -/
inductive Activity where
  | fileRun
  | cell
  | sweep
  deriving DecidableEq

def Activity.path : Activity → String
  | .fileRun => "codec_bench::bench"
  | .cell => "codec_bench::bench::driver"
  | .sweep => "codec_bench::bench::sweep"

inductive Notice where
  | directoryTooLong (limit : Nat)
  | directoryWithSlashTooLong (limit : Nat)
  | levelOutsideRange (codec : Codec) (level : Int)
  | onlySupported
  | opening (path : String) (codec : Codec)
  | openedFrom (file path : String)
  | missingSymbol (reason : String)
  | sharing (codec : Codec) (path : String)
  | closed (path : String)
  | closeFailed (path reason : String)
  | released (count : Nat)
  | inputRefused (path : String)
  | input (fileName : String) (size chunk : Nat) (iterations : UInt32)
  | starting (cell : CellId) (iterations : UInt32)
  | chunkDone (cell : CellId) (pass length compressed decompressed : Nat)
      (compressTime decompressTime : Span)
  | fault (fault : Fault)
  | enter (activity : Activity)
  | exit (activity : Activity)
  | banner
  | complaint (program message : String)

namespace Notice

def level : Notice → Level
  | .directoryTooLong _ | .directoryWithSlashTooLong _ | .levelOutsideRange .. | .onlySupported
  | .missingSymbol _ | .closeFailed .. | .inputRefused _ | .fault _ | .complaint .. => .error
  | .openedFrom .. | .input .. => .info
  | .opening .. | .sharing .. | .closed _ | .released _ | .starting .. | .banner => .debug
  | .chunkDone .. | .enter _ | .exit _ => .trace

def text : Notice → String
  | .directoryTooLong limit => s!"library directory name longer than {limit} characters\n"
  | .directoryWithSlashTooLong limit =>
      s!"library directory name with trailing slash longer than {limit} characters\n"
  | .levelOutsideRange codec level =>
      s!"warning: level {level} is outside {codec.name}'s range {codec.descriptor.lowest}.." ++
        s!"={codec.descriptor.highest}\n"
  | .onlySupported => s!"Only supported compression methods are: {Codec.supportedNames}\n"
  | .opening path codec => s!"opening [{path}] for {codec.name}\n"
  | .openedFrom file path => s!"Library [{file}] opened from path: [{path}]\n"
  | .missingSymbol reason => s!"Error in loading symbols from dynamic library: [{reason}]\n"
  | .sharing codec path => s!"{codec.name} shares [{path}]\n"
  | .closed path => s!"closed [{path}]\n"
  | .closeFailed path reason => s!"error closing [{path}]: {reason}\n"
  | .released count => s!"released {count} native libraries\n"
  | .inputRefused path => s!"Error in opening input file [{path}].\n"
  | .input fileName size chunk iterations =>
      s!"[{fileName}] {size} bytes, chunk {chunk} bytes, {iterations} iteration(s)\n"
  | .starting cell iterations => s!"{cell.text} starting ({iterations} iterations)\n"
  | .chunkDone cell pass length compressed decompressed compressTime decompressTime =>
      s!"{cell.text} iter {pass}: {length} -> {compressed} -> {decompressed} bytes " ++
        s!"({compressTime} / {decompressTime} ns)\n"
  | .fault f => f.message ++ "\n"
  | .enter activity => s!"[trace] {activity.path}: Enter\n"
  | .exit activity => s!"[trace] {activity.path}: Exit\n"
  | .banner => s!"*** {programName} v{programVersion} 64-bit ***\n"
  | .complaint program message => s!"{program}: {message}\n"

end Notice
end RoundTrip
