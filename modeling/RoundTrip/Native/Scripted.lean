import RoundTrip.Native.Algorithm
import RoundTrip.Native.Call

/-! # Scripted engines

Engines in the process image whose calls follow a script: for each direction a list of behaviours,
of which the last one stays in force. Each engine counts its own calls.
-/
namespace RoundTrip

/-- How one call behaves; what is left out follows from the algorithm. -/
structure Behaviour where
  algorithm : Option Algorithm
  /-- Places in the output whose byte is complemented. -/
  flips : List Nat
  elapsed : Int
  /-- Added to the count that is reported. -/
  delta : Int
  returned : Option Int
  length : Option Int

namespace Behaviour

def plain : Behaviour := ⟨none, [], 0, 0, none, none⟩

/-- Complements the bytes at the places that lie within the output. -/
def flip (bytes : List UInt8) (places : List Nat) : List UInt8 :=
  places.foldl (fun bs place => bs.modify place fun b => b ^^^ 0xFF) bytes

/-- The reply to a call of an engine. -/
def reply (b : Behaviour) (call : NativeCall) : Reply :=
  let engine := call.entry.engine
  let direction := call.request.direction
  let product :=
    (b.algorithm.getD (.ofEngine engine)).run direction call.source call.capacity
  let written := if product.complete then flip product.written b.flips else product.written
  let reported := product.written.length + b.delta
  let failure := Algorithm.failureCode engine direction
  match engine.convention with
  | .returnsLength =>
      { returned := Int32.ofInt (b.returned.getD (if product.complete then reported else failure))
        length := call.capacity.toUInt64
        writes := [(0, written)]
        elapsed := b.elapsed }
  | .statusWithLength =>
      { returned := Int32.ofInt (b.returned.getD (if product.complete then 0 else failure))
        length := UInt64.ofInt
          (b.length.getD (if product.complete then reported else call.capacity))
        writes := [(0, written)]
        elapsed := b.elapsed }

end Behaviour

/-- The behaviours of one engine and how many calls it has had. -/
structure Script where
  compress : List Behaviour
  decompress : List Behaviour
  compressCalls : Nat
  decompressCalls : Nat

namespace Script

def ofBehaviours (compress decompress : List Behaviour) : Script := ⟨compress, decompress, 0, 0⟩

def plain : Script := ofBehaviours [] []

/-- The behaviour of call number `n`, counted from zero. -/
def behaviourAt (behaviours : List Behaviour) (n : Nat) : Behaviour :=
  (behaviours[min n (behaviours.length - 1)]?).getD .plain

/-- Serves one call. -/
def serve (script : Script) (call : NativeCall) : Reply × Script :=
  match call.request.direction with
  | .compress =>
      ((behaviourAt script.compress script.compressCalls).reply call,
        { script with compressCalls := script.compressCalls + 1 })
  | .decompress =>
      ((behaviourAt script.decompress script.decompressCalls).reply call,
        { script with decompressCalls := script.decompressCalls + 1 })

end Script

/-- A script for each engine. -/
abbrev Scripts := EngineTable Script

namespace Scripts

def plain : Scripts := .replicate .plain

/-- Serves calls by the script of their engine. -/
def native : Native Scripts := fun call scripts =>
  let engine := call.entry.engine
  let (reply, script) := (scripts.get engine).serve call
  (reply, scripts.set engine script)

end Scripts
end RoundTrip
