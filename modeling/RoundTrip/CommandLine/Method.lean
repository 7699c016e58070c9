import RoundTrip.Settings
import RoundTrip.Text.Blank
import RoundTrip.Text.Number

/-! # Method texts

A method is written `name[:level[:extra]]`. The name is taken in any letter case and as it stands;
blanks around the numbers do not count. The leftmost faulty field is the one reported, and fields
after the third only when the first three are fine.
-/
namespace RoundTrip

structure Method where
  codec : Codec
  level : Int
  extra : Int
  deriving DecidableEq

inductive MethodFault where
  | unknownName (name : String)
  | badLevel (text : String) (codec : Codec) (cause : Text.NumberFault)
  | badExtra (text : String) (codec : Codec) (cause : Text.NumberFault)
  | surplusField (text : String)
  deriving DecidableEq

namespace MethodFault

/-- What went wrong, without the cause behind it. -/
def headline : MethodFault → String
  | .unknownName name => s!"unknown compression method '{name}'; use -l to list methods"
  | .badLevel text codec _ => s!"invalid level '{text}' for {codec.name}"
  | .badExtra text codec _ => s!"invalid additional parameter '{text}' for {codec.name}"
  | .surplusField text =>
      s!"too many ':' fields in '{text}'; expected name[:level[:extra]]"

def message (f : MethodFault) : String :=
  match f with
  | .badLevel _ _ cause | .badExtra _ _ cause => f.headline ++ ": " ++ cause.message
  | .unknownName _ | .surplusField _ => f.headline

end MethodFault

namespace Method

/-- The fields between colons; there is always one. -/
def fields : List Char → List (List Char)
  | [] => [[]]
  | c :: rest =>
      if c = ':' then [] :: fields rest
      else
        match fields rest with
        | [] => [[c]]
        | field :: others => (c :: field) :: others

theorem fields_ne_nil (cs : List Char) : fields cs ≠ [] := by
  cases cs with
  | nil => simp [fields]
  | cons c rest =>
      unfold fields
      split
      · simp
      · split <;> simp

/-- A number field, or the given fault of its text. -/
def number (fault : Text.NumberFault → MethodFault) (field : List Char) :
    Except MethodFault Int :=
  (Text.readInt32 (Text.trim field)).mapError fault

def ofText? (text : String) : Except MethodFault Method :=
  let name := String.ofList ((fields text.toList).headD [])
  match Codec.ofName? name with
  | none => .error (.unknownName name)
  | some codec =>
      let level (field : List Char) := number (.badLevel (String.ofList field) codec) field
      let extra (field : List Char) := number (.badExtra (String.ofList field) codec) field
      match (fields text.toList).tail with
      | [] => .ok ⟨codec, notGiven, notGiven⟩
      | [l] => do return ⟨codec, ← level l, notGiven⟩
      | [l, x] => do return ⟨codec, ← level l, ← extra x⟩
      | l :: x :: _ => do
          let _ ← level l
          let _ ← extra x
          throw (.surplusField text)

end Method
end RoundTrip
