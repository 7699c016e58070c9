import RoundTrip.Settings

/-! # The plan of a sweep

The cells that settings ask for, in the order in which they are run: codecs in table order, and the
levels of each from the lowest to the highest.
-/
namespace RoundTrip

/-- One planned cell. -/
structure Cell where
  engine : Engine
  level : Int
  extra : Int
  deriving DecidableEq

def Cell.codec (cell : Cell) : Codec := cell.engine.codec

namespace Plan

/-- The cells of one engine, lowest level first. -/
def cellsOf (s : Settings) (engine : Engine) : List Cell :=
  let (low, high) := s.levelRange engine.codec
  (levelsFrom low high).map fun level => ⟨engine, level, s.extraFor engine.codec⟩

/-- All cells; a codec without an engine has none. -/
def cells (s : Settings) : List Cell :=
  (s.selected.filterMap Codec.engine?).flatMap (cellsOf s)

/-- A level outside the range of the only codec, which is run nevertheless. -/
def oddLevel? (s : Settings) : Option Notice :=
  match s.selection with
  | .all => none
  | .single codec =>
      let level := (s.levelRange codec).1
      if codec.descriptor.contains level then none else some (.levelOutsideRange codec level)

/-- The cells, after a warning where there is cause for one. -/
def announce (s : Settings) (console : Console) : List Cell × Console :=
  (cells s, match oddLevel? s with
    | none => console
    | some notice => console.say notice)

end Plan
end RoundTrip
