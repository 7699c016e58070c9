/-! # Input and output faults

The kinds of failure that an input, an output or a file system reports, each with a text of its own.
-/
namespace RoundTrip

inductive IoKind where
  | notFound
  | permissionDenied
  | connectionRefused
  | connectionReset
  | hostUnreachable
  | networkUnreachable
  | connectionAborted
  | notConnected
  | addressInUse
  | addressNotAvailable
  | networkDown
  | brokenPipe
  | alreadyExists
  | wouldBlock
  | notADirectory
  | isADirectory
  | directoryNotEmpty
  | readOnlyFilesystem
  | staleFileHandle
  | invalidInput
  | invalidData
  | timedOut
  | writeZero
  | storageFull
  | notSeekable
  | quotaExceeded
  | fileTooLarge
  | resourceBusy
  | executableFileBusy
  | deadlock
  | crossesDevices
  | tooManyLinks
  | invalidFilename
  | argumentListTooLong
  | interrupted
  | unsupported
  | unexpectedEof
  | outOfMemory
  | other
  deriving DecidableEq

structure IoFault where
  kind : IoKind
  message : String
  deriving DecidableEq

namespace IoFault

/-- The input ended before everything wanted was read. -/
def endOfInput : IoFault := ⟨.unexpectedEof, "failed to fill whole buffer"⟩

/-- A bounded output that takes no more. -/
def sinkFull : IoFault := ⟨.other, "sink full"⟩

end IoFault
end RoundTrip
