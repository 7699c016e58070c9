import RoundTrip.IoFault
import RoundTrip.Report.Event
import RoundTrip.Text.Utf8

/-! # Where reports go

A sink takes the events of a run one by one and may fail. One sink keeps the events themselves; the
other writes their texts and takes no more bytes than it has room for.
-/
namespace RoundTrip

structure Sink (τ : Type) where
  emit : CellId → Event → EStateM IoFault τ Unit

/-- Keeps every event with its cell, the last one first. -/
abbrev EventLog := List (CellId × Event)

namespace EventLog

/-- The events in the order in which they came. -/
def events (log : EventLog) : List (CellId × Event) := log.reverse

def sink : Sink EventLog := ⟨fun cell event log => .ok () ((cell, event) :: log)⟩

end EventLog

/-- Bytes written so far, of at most `limit`, and how often they were flushed. -/
structure Page where
  written : List UInt8
  limit : Option Nat
  flushes : Nat

namespace Page

def blank (limit : Option Nat) : Page := ⟨[], limit, 0⟩

/-- The bytes that still fit, of so many. -/
def room (p : Page) (wanted : Nat) : Nat :=
  match p.limit with
  | none => wanted
  | some limit => min wanted (limit - p.written.length)

/-- Writes a text; where it does not fit, its first bytes are kept. -/
def write (text : String) : EStateM IoFault Page Unit := fun p =>
  let bytes := Text.utf8 text
  let room := p.room bytes.length
  let p := { p with written := p.written ++ bytes.take room }
  if room < bytes.length then .error .sinkFull p else .ok () p

def flush : EStateM IoFault Page Unit := fun p => .ok () { p with flushes := p.flushes + 1 }

/-- Writes the text of each event and flushes after it. -/
def sink : Sink Page :=
  ⟨fun cell event => do
    write (event.text cell)
    flush⟩

/-- The text on the page. -/
def text (p : Page) : String := Text.lossyText p.written

theorem room_le (p : Page) (wanted : Nat) : p.room wanted ≤ wanted := by
  unfold room
  split
  · exact Nat.le_refl _
  · exact Nat.min_le_left ..

end Page
end RoundTrip
