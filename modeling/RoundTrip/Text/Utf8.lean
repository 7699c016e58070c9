/-! # UTF-8

Decoding one byte at a time. A byte sequence that no character has is cut into its longest parts
that could have begun one, and each such part stands for one fault.
-/
namespace RoundTrip.Text

/-- The bytes of a text. -/
def utf8 (text : String) : List UInt8 := text.toUTF8.data.toList

/-- A character whose last bytes are still to come: the next must lie in `low..=high`. -/
structure Unfinished where
  wanted : Nat
  value : Nat
  low : Nat
  high : Nat

/-- What a byte means where a character may start. -/
inductive Lead where
  | complete (c : Char)
  | unfinished (u : Unfinished)
  | fault

def Lead.ofByte (byte : UInt8) : Lead :=
  let b := byte.toNat
  if b < 0x80 then .complete (Char.ofNat b)
  else if b < 0xC2 then .fault
  else if b < 0xE0 then .unfinished ⟨1, b - 0xC0, 0x80, 0xBF⟩
  else if b = 0xE0 then .unfinished ⟨2, 0, 0xA0, 0xBF⟩
  else if b = 0xED then .unfinished ⟨2, 0xD, 0x80, 0x9F⟩
  else if b < 0xF0 then .unfinished ⟨2, b - 0xE0, 0x80, 0xBF⟩
  else if b = 0xF0 then .unfinished ⟨3, 0, 0x90, 0xBF⟩
  else if b < 0xF4 then .unfinished ⟨3, b - 0xF0, 0x80, 0xBF⟩
  else if b = 0xF4 then .unfinished ⟨3, 4, 0x80, 0x8F⟩
  else .fault

/-- Characters read so far, the last one first; `none` stands for a fault. -/
structure Decoder where
  done : List (Option Char)
  unfinished : Option Unfinished

def Decoder.lead (d : List (Option Char)) (byte : UInt8) : Decoder :=
  match Lead.ofByte byte with
  | .complete c => ⟨some c :: d, none⟩
  | .unfinished u => ⟨d, some u⟩
  | .fault => ⟨none :: d, none⟩

def Decoder.feed (d : Decoder) (byte : UInt8) : Decoder :=
  match d.unfinished with
  | none => .lead d.done byte
  | some u =>
      if u.low ≤ byte.toNat ∧ byte.toNat ≤ u.high then
        let value := u.value * 64 + (byte.toNat - 0x80)
        if u.wanted ≤ 1 then ⟨some (Char.ofNat value) :: d.done, none⟩
        else ⟨d.done, some ⟨u.wanted - 1, value, 0x80, 0xBF⟩⟩
      else .lead (none :: d.done) byte

/-- The characters and faults of a byte sequence, in order. -/
def decode (bytes : List UInt8) : List (Option Char) :=
  let d := bytes.foldl Decoder.feed ⟨[], none⟩
  (if d.unfinished.isSome then none :: d.done else d.done).reverse

/-- The text of well-formed bytes. -/
def utf8Text? (bytes : List UInt8) : Option String :=
  let parts := decode bytes
  if parts.all Option.isSome then some (String.ofList (parts.filterMap id)) else none

/-- The text with U+FFFD for every fault. -/
def lossyText (bytes : List UInt8) : String :=
  String.ofList ((decode bytes).map (·.getD '\uFFFD'))

end RoundTrip.Text
