import Mathlib.Algebra.Group.Action.Defs
import Mathlib.Algebra.Order.BigOperators.Group.List
import Mathlib.Algebra.Order.Ring.Nat
import Mathlib.Data.List.Induction
import RoundTrip.Codec
import RoundTrip.Tally

/-!
# What totals say of their history

A tally is made by recording chunks and ending passes, in any order.  The history
of a tally is the passes that were ended, each with its chunks, and the chunks
since.  It keeps three figures for each direction beside the totals: the sum of
the pass that is under way, the least sum so far, and how many passes there were.
The invariant says what each of them is of the history.
-/

namespace RoundTrip

/-! ## Chunks and their sums -/

/-- The round trip of one chunk, as it is recorded. -/
structure Trip where
  packed : Nat
  compressTime : Span
  decoded : Nat
  decompressTime : Span

namespace Trip

def bytes (trip : Trip) : Direction → Nat
  | .compress => trip.packed
  | .decompress => trip.decoded

def time (trip : Trip) : Direction → Span
  | .compress => trip.compressTime
  | .decompress => trip.decompressTime

def totalBytes (d : Direction) (trips : List Trip) : Nat := (trips.map (·.bytes d)).sum

/-- The exact sum of the times, however great it is. -/
def totalTime (d : Direction) (trips : List Trip) : Nat :=
  (trips.map fun trip => (trip.time d).toNat).sum

/-- The sum of the times as far as a span can hold it. -/
def heldTime (d : Direction) (trips : List Trip) : Nat := min 0xFFFFFFFFFFFFFFFF (totalTime d trips)

variable (d : Direction) (trips more : List Trip) (trip : Trip)

theorem totalBytes_concat : totalBytes d (trips ++ [trip]) = totalBytes d trips + trip.bytes d := by
  rw [totalBytes, List.map_append, List.sum_append, List.map_singleton, List.sum_singleton]
  rfl

theorem totalTime_append : totalTime d (trips ++ more) = totalTime d trips + totalTime d more := by
  rw [totalTime, List.map_append, List.sum_append]
  rfl

theorem totalTime_singleton : totalTime d [trip] = (trip.time d).toNat := List.sum_singleton

/-- One more chunk is added to what is held so far. -/
theorem heldTime_concat :
    heldTime d (trips ++ [trip]) =
      min (heldTime d trips + (trip.time d).toNat) 0xFFFFFFFFFFFFFFFF := by
  rw [heldTime, heldTime, totalTime_append, totalTime_singleton]
  omega

end Trip

/-! ## Histories -/

/-- The passes that were ended, with the chunks of each, and the chunks since. -/
structure History where
  finished : List (List Trip)
  pending : List Trip

namespace Tally

/-- What can be done to a tally. -/
inductive Operation where
  | record (trip : Trip)
  | finish

def perform (t : Tally) : Operation → Tally
  | .record trip =>
      t.recordChunk trip.packed trip.compressTime trip.decoded trip.decompressTime
  | .finish => t.finishPass

/-- The tally that a sequence of operations makes of the empty one. -/
def after (operations : List Operation) : Tally := operations.foldl perform .empty

end Tally

namespace History

def add (h : History) : Tally.Operation → History
  | .record trip => { h with pending := h.pending ++ [trip] }
  | .finish => ⟨h.finished ++ [h.pending], []⟩

/-- The history that a sequence of operations makes. -/
def of (operations : List Tally.Operation) : History := operations.foldl add ⟨[], []⟩

/-- All chunks, in the order in which they were recorded. -/
def trips (h : History) : List Trip := h.finished.flatten ++ h.pending

/-- The operations that a history stands for. -/
def operations (h : History) : List Tally.Operation :=
  (h.finished.flatMap fun pass => pass.map Tally.Operation.record ++ [.finish]) ++
    h.pending.map .record

theorem operations_add (h : History) (operation : Tally.Operation) :
    (h.add operation).operations = h.operations ++ [operation] := by
  cases operation with
  | record trip =>
      simp only [add, operations, List.map_append, List.map_singleton, List.append_assoc]
  | finish =>
      simp only [add, operations, List.flatMap_append, List.flatMap_singleton, List.map_nil,
        List.append_nil, List.append_assoc]

/-- A history keeps all that there is to know of a sequence of operations. -/
theorem operations_of (operations : List Tally.Operation) :
    (of operations).operations = operations := by
  induction operations using List.reverseRecOn with
  | nil => rfl
  | append_singleton past operation ih =>
      rw [of, List.foldl_concat, operations_add]
      exact congrArg (· ++ [operation]) ih

theorem trips_record (h : History) (trip : Trip) :
    (h.add (.record trip)).trips = h.trips ++ [trip] := by
  rw [trips, trips, List.append_assoc]
  rfl

theorem trips_finish (h : History) : (h.add .finish).trips = h.trips := by
  simp only [trips, add, List.flatten_append, List.flatten_singleton, List.append_nil]

theorem totalTime_trips (h : History) (d : Direction) :
    Trip.totalTime d h.trips =
      (h.finished.map (Trip.totalTime d)).sum + Trip.totalTime d h.pending := by
  have hended : Trip.totalTime d h.finished.flatten = (h.finished.map (Trip.totalTime d)).sum := by
    rw [Trip.totalTime, List.map_flatten, List.sum_flatten, List.map_map]
    rfl
  rw [trips, Trip.totalTime_append, hended]

theorem heldTime_le_of_mem (h : History) (d : Direction) {pass : List Trip}
    (hpass : pass ∈ h.finished) : Trip.heldTime d pass ≤ Trip.heldTime d h.trips := by
  obtain ⟨before, rest, hsplit⟩ := List.append_of_mem hpass
  have hle : Trip.totalTime d pass ≤ Trip.totalTime d h.trips := by
    rw [totalTime_trips, hsplit, List.map_append, List.map_cons, List.sum_append, List.sum_cons]
    omega
  rw [Trip.heldTime, Trip.heldTime]
  omega

end History

/-! ## The figures of a tally -/

namespace Tally

def bytes (t : Tally) : Direction → UInt64
  | .compress => t.compressedBytes
  | .decompress => t.decompressedBytes

def time (t : Tally) : Direction → Span
  | .compress => t.compressTime
  | .decompress => t.decompressTime

def passTime (t : Tally) : Direction → Span
  | .compress => t.passCompressTime
  | .decompress => t.passDecompressTime

def best (t : Tally) : Direction → Span
  | .compress => t.bestCompressTime
  | .decompress => t.bestDecompressTime

def best? (t : Tally) : Direction → Option Span
  | .compress => t.bestCompress?
  | .decompress => t.bestDecompress?

/-- What every figure of one direction is of the history, and the count of the passes.  Counts go
around where they leave their type. -/
structure Keeps (t : Tally) (h : History) (d : Direction) : Prop where
  bytes : t.bytes d = (Trip.totalBytes d h.trips).toUInt64
  time : (t.time d).toNat = Trip.heldTime d h.trips
  passTime : (t.passTime d).toNat = Trip.heldTime d h.pending
  /-- The least sum is taken from the greatest span on. -/
  best : (t.best d).toNat = (h.finished.map (Trip.heldTime d)).foldl min 0xFFFFFFFFFFFFFFFF
  passes : t.passes = h.finished.length.toUInt32

theorem keeps_empty (d : Direction) : empty.Keeps ⟨[], []⟩ d := by
  cases d with
  | compress => exact ⟨rfl, rfl, rfl, rfl, rfl⟩
  | decompress => exact ⟨rfl, rfl, rfl, rfl, rfl⟩

section Steps

variable {t : Tally} {h : History} {d : Direction}

/-- A chunk is added to the totals and to the pass under way. -/
theorem Keeps.record (hkeeps : t.Keeps h d) (trip : Trip) :
    (t.perform (.record trip)).Keeps (h.add (.record trip)) d := by
  obtain ⟨hbytes, htime, hpass, hbest, hpasses⟩ := hkeeps
  have hadded : (t.perform (.record trip)).bytes d = t.bytes d + (trip.bytes d).toUInt64 ∧
      (t.perform (.record trip)).time d = addSpan (t.time d) (trip.time d) ∧
      (t.perform (.record trip)).passTime d = addSpan (t.passTime d) (trip.time d) ∧
      (t.perform (.record trip)).best d = t.best d := by
    cases d with
    | compress => exact ⟨rfl, rfl, rfl, rfl⟩
    | decompress => exact ⟨rfl, rfl, rfl, rfl⟩
  obtain ⟨hbytes', htime', hpass', hbest'⟩ := hadded
  constructor
  · rw [hbytes', hbytes, History.trips_record, Trip.totalBytes_concat]
    exact (UInt64.ofNat_add _ _).symm
  · rw [htime', toNat_addSpan, htime, History.trips_record, Trip.heldTime_concat]
  · rw [hpass', toNat_addSpan, hpass]
    exact (Trip.heldTime_concat d h.pending trip).symm
  · rw [hbest']
    exact hbest
  · exact hpasses

/-- The pass under way is folded into the least sum, and the next one starts from nothing. -/
theorem Keeps.finish (hkeeps : t.Keeps h d) : (t.perform .finish).Keeps (h.add .finish) d := by
  obtain ⟨hbytes, htime, hpass, hbest, hpasses⟩ := hkeeps
  have hended : (t.perform .finish).bytes d = t.bytes d ∧
      (t.perform .finish).time d = t.time d ∧ (t.perform .finish).passTime d = 0 ∧
      (t.perform .finish).best d = min (t.best d) (t.passTime d) := by
    cases d with
    | compress => exact ⟨rfl, rfl, rfl, rfl⟩
    | decompress => exact ⟨rfl, rfl, rfl, rfl⟩
  obtain ⟨hbytes', htime', hpass', hbest'⟩ := hended
  constructor
  · rw [hbytes', hbytes, History.trips_finish]
  · rw [htime', htime, History.trips_finish]
  · rw [hpass']
    rfl
  · rw [hbest', UInt64.toNat_min, hbest, hpass]
    simp only [History.add, List.map_append, List.map_singleton, List.foldl_append,
      List.foldl_cons, List.foldl_nil]
  · simp only [History.add, List.length_append, List.length_singleton]
    exact (congrArg (· + 1) hpasses).trans (UInt32.ofNat_add _ 1).symm

end Steps

/-- Every sequence of operations keeps the figures and the history together. -/
theorem keeps_after (operations : List Operation) (d : Direction) :
    (after operations).Keeps (.of operations) d := by
  induction operations using List.reverseRecOn with
  | nil => exact keeps_empty d
  | append_singleton past operation ih =>
      rw [after, List.foldl_concat, History.of, List.foldl_concat]
      cases operation with
      | record trip => exact ih.record trip
      | finish => exact ih.finish

/-! ## What is read off a tally -/

/-- What a tally says of one direction of its history. -/
structure Accounts (t : Tally) (h : History) (d : Direction) : Prop where
  bytes : (t.bytes d).toNat = Trip.totalBytes d h.trips
  time : (t.time d).toNat = Trip.heldTime d h.trips
  passes : t.passes.toNat = h.finished.length
  none_iff : t.best? d = none ↔ h.finished = []
  /-- The best time is the least among the sums of the passes that were ended. -/
  best : (t.best? d).map UInt64.toNat = (h.finished.map (Trip.heldTime d)).min?
  le_total : ∀ best, t.best? d = some best → best ≤ t.time d
  /-- It is not beyond the average, unless the total could not be held. -/
  le_average : Trip.totalTime d h.trips < 2 ^ 64 → ∀ best, t.best? d = some best →
    best.toNat * t.passes.toNat ≤ (t.time d).toNat

theorem best?_eq (t : Tally) (d : Direction) :
    t.best? d = if 0 < t.passes then some (t.best d) else none := by
  cases d with
  | compress => rfl
  | decompress => rfl

/-- From a bound that no value exceeds, the least found is the least of the values. -/
theorem min?_eq_foldl_min {bound : Nat} {values : List Nat} (hsome : values ≠ [])
    (hbound : ∀ value ∈ values, value ≤ bound) :
    values.min? = some (values.foldl min bound) := by
  cases values with
  | nil => contradiction
  | cons value rest =>
      rw [List.min?_cons', List.foldl_cons, Nat.min_eq_right (hbound value List.mem_cons_self)]

section Reading

variable {t : Tally} {h : History} {d : Direction}

theorem Keeps.min?_eq (hkeeps : t.Keeps h d) (hsome : h.finished ≠ []) :
    (h.finished.map (Trip.heldTime d)).min? = some (t.best d).toNat := by
  rw [hkeeps.best]
  refine min?_eq_foldl_min (fun hnone => hsome (List.map_eq_nil_iff.mp hnone)) ?_
  intro value hvalue
  obtain ⟨pass, -, rfl⟩ := List.mem_map.mp hvalue
  exact Nat.min_le_left _ _

/-- No pass that was ended took less than the best. -/
theorem Keeps.best_le (hkeeps : t.Keeps h d) {pass : List Trip} (hpass : pass ∈ h.finished) :
    (t.best d).toNat ≤ Trip.heldTime d pass := by
  have hleast := hkeeps.min?_eq (List.ne_nil_of_mem hpass)
  exact (List.min?_eq_some_iff.mp hleast).2 _ (List.mem_map_of_mem hpass)

theorem Keeps.best_le_total (hkeeps : t.Keeps h d) (hsome : h.finished ≠ []) :
    t.best d ≤ t.time d := by
  obtain ⟨pass, hpass⟩ := List.exists_mem_of_ne_nil h.finished hsome
  have hle := hkeeps.best_le hpass
  rw [UInt64.le_iff_toNat_le, hkeeps.time]
  exact Nat.le_trans hle (h.heldTime_le_of_mem d hpass)

/-- As often as there were passes, the best is within the exact sum of all times. -/
theorem Keeps.mul_best_le (hkeeps : t.Keeps h d) :
    (t.best d).toNat * h.finished.length ≤ Trip.totalTime d h.trips := by
  have hsum : (h.finished.map (Trip.totalTime d)).length • (t.best d).toNat ≤
      (h.finished.map (Trip.totalTime d)).sum := by
    refine List.card_nsmul_le_sum _ _ fun total htotal => ?_
    obtain ⟨pass, hpass, rfl⟩ := List.mem_map.mp htotal
    exact Nat.le_trans (hkeeps.best_le hpass) (Nat.min_le_right _ _)
  rw [List.length_map, smul_eq_mul, Nat.mul_comm] at hsum
  rw [h.totalTime_trips]
  exact Nat.le_trans hsum (Nat.le_add_right _ _)

theorem Keeps.accounts (hkeeps : t.Keeps h d) (hbytes : Trip.totalBytes d h.trips < 2 ^ 64)
    (hpasses : h.finished.length < 2 ^ 32) : t.Accounts h d := by
  have hcount : t.passes.toNat = h.finished.length := by
    rw [hkeeps.passes]
    exact UInt32.toNat_ofNat_of_lt' hpasses
  have hended : 0 < t.passes ↔ h.finished ≠ [] := by
    rw [UInt32.lt_iff_toNat_lt, hcount]
    exact List.length_pos_iff
  have hbest (best : Span) (hread : t.best? d = some best) :
      h.finished ≠ [] ∧ best = t.best d := by
    rw [best?_eq] at hread
    split at hread
    · exact ⟨hended.mp ‹_›, (Option.some.inj hread).symm⟩
    · contradiction
  refine ⟨?_, hkeeps.time, hcount, ?_, ?_, ?_, ?_⟩
  · rw [hkeeps.bytes]
    exact UInt64.toNat_ofNat_of_lt' hbytes
  · rw [best?_eq, ite_eq_right_iff]
    simp only [reduceCtorEq, imp_false, hended, not_not]
  · rw [best?_eq]
    split
    · exact (hkeeps.min?_eq (hended.mp ‹_›)).symm
    · have hnone : h.finished = [] := not_not.mp fun hsome => ‹¬ _› (hended.mpr hsome)
      rw [hnone]
      rfl
  · intro best hread
    obtain ⟨hsome, rfl⟩ := hbest best hread
    exact hkeeps.best_le_total hsome
  · intro hexact best hread
    obtain ⟨-, rfl⟩ := hbest best hread
    have htime : (t.time d).toNat = Trip.totalTime d h.trips := by
      rw [hkeeps.time, Trip.heldTime]
      omega
    rw [hcount, htime]
    exact hkeeps.mul_best_le

end Reading

/-- Whatever is done to the empty tally, its figures are those of the history: totals of all chunks,
and the best times of the passes that were ended. -/
theorem accounts_of_operations (operations : List Operation)
    (hbytes : ∀ d, Trip.totalBytes d (History.of operations).trips < 2 ^ 64)
    (hpasses : (History.of operations).finished.length < 2 ^ 32) :
    (History.of operations).operations = operations ∧
      ∀ d, (after operations).Accounts (.of operations) d := by
  refine ⟨History.operations_of operations, fun d => ?_⟩
  exact (keeps_after operations d).accounts (hbytes d) hpasses

/-- A pass of two chunks, one without a chunk, and a chunk after the last pass, with times that
cannot be held together. -/
theorem accounts_of_operations_spilling :
    let operations : List Operation :=
      [.record ⟨10, 0xFFFFFFFFFFFFFFFF, 20, 7⟩, .record ⟨5, 1, 20, 0⟩, .finish, .finish,
        .record ⟨1, 2, 3, 4⟩]
    (∀ d, Trip.totalBytes d (History.of operations).trips < 2 ^ 64) ∧
      (History.of operations).finished.length < 2 ^ 32 ∧
      (History.of operations).operations = operations ∧
      ∀ d, (after operations).Accounts (.of operations) d := by
  intro operations
  have hbytes : ∀ d, Trip.totalBytes d (History.of operations).trips < 2 ^ 64 := by
    intro d
    cases d <;> decide
  have hpasses : (History.of operations).finished.length < 2 ^ 32 := by decide
  exact ⟨hbytes, hpasses, accounts_of_operations operations hbytes hpasses⟩

end Tally
end RoundTrip
