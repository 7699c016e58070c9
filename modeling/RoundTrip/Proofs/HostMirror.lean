import RoundTrip.Context
import RoundTrip.Proofs.StepLogic

/-!
# Two runs of one setup

Two hosts with one context go the same way through a setup, if opening a library
answers alike on both.  What else the relation between them keeps, the steps that
touch the console, the loader and the slots have to keep, and no others.
-/

namespace RoundTrip.Host

/-- The primitive steps of a setup answer alike on two hosts, and keep a relation. -/
structure Mirrors (R : Host → Host → Prop) : Prop where
  context : ∀ {h h'}, R h h' → h.context = h'.context
  say : ∀ notice, Simulates R (say notice) (say notice) (Alike R) R
  load : ∀ path, Simulates R
    (onPart Host.loader (fun l h => { h with loader := l }) (Loader.openLibrary path))
    (onPart Host.loader (fun l h => { h with loader := l }) (Loader.openLibrary path)) (Alike R) R
  release : ∀ library, Simulates R (release library) (release library) (Alike R) R
  put : ∀ {h h'} handle, R h h' →
    R { h with context := h.context.put handle } { h' with context := h'.context.put handle }

namespace Mirrors

variable {R : Host → Host → Prop}

theorem throw {α : Type} (fault : Fault) :
    Simulates R (MonadExcept.throw fault : EStateM Fault Host α) (MonadExcept.throw fault)
      (Alike R) R :=
  fun _ _ hstates => .error fault hstates

theorem pure {α : Type} (a : α) :
    Simulates R (Pure.pure a : EStateM Fault Host α) (Pure.pure a) (Alike R) R :=
  Simulates.pure fun _ _ hstates => ⟨rfl, hstates⟩

/-- A step that first looks at its context goes on from the same one. -/
theorem get_bind {α : Type} (hmirrors : Mirrors R) {next : Host → EStateM Fault Host α}
    (hnext : ∀ h h' : Host, h.context = h'.context →
      Simulates R (next h) (next h') (Alike R) R) :
    Simulates R (get >>= next) (get >>= next) (Alike R) R :=
  fun h h' hstates => hnext h h' (hmirrors.context hstates) hstates

theorem openLibrary (hmirrors : Mirrors R) (dir : LibraryDir) (codec : Codec) :
    Simulates R (openLibrary dir codec) (openLibrary dir codec) (Alike R) R := by
  unfold Host.openLibrary
  cases codec.engine? with
  | none => exact Simulates.bind_alike (hmirrors.say _) fun _ => throw _
  | some engine =>
      refine Simulates.bind_alike (hmirrors.say _) fun _ => ?_
      refine Simulates.bind_alike (hmirrors.load _).attempt fun outcome => ?_
      cases outcome with
      | error fault => exact Simulates.bind_alike (hmirrors.say _) fun _ => throw fault
      | ok library =>
          dsimp only
          cases library.resolvedPath? (engine.symbol .decompress) with
          | none => exact pure library
          | some resolved => exact Simulates.bind_alike (hmirrors.say _) fun _ => pure library

theorem findSymbol (hmirrors : Mirrors R) (library : Library) (engine : Engine)
    (direction : Direction) :
    Simulates R (findSymbol library engine direction) (findSymbol library engine direction)
      (Alike R) R := by
  unfold Host.findSymbol
  cases library.symbol (engine.symbol direction) with
  | ok _ => exact pure ()
  | error reason => exact Simulates.bind_alike (hmirrors.say _) fun _ => throw _

theorem findSymbols (hmirrors : Mirrors R) (library : Library) (engine : Engine) :
    Simulates R (findSymbols library engine) (findSymbols library engine) (Alike R) R :=
  Simulates.bind_alike (hmirrors.findSymbol _ _ _) fun _ => hmirrors.findSymbol _ _ _

theorem obtain (hmirrors : Mirrors R) (engine : Engine) :
    Simulates R (obtain engine) (obtain engine) (Alike R) R := by
  refine hmirrors.get_bind fun h h' hcontext => ?_
  rw [hcontext]
  cases h'.context.shared? engine with
  | none => exact hmirrors.openLibrary _ _
  | some library => exact Simulates.bind_alike (hmirrors.say _) fun _ => pure library

theorem setupEngine (hmirrors : Mirrors R) (engine : Engine) :
    Simulates R (setupEngine engine) (setupEngine engine) (Alike R) R := by
  refine Simulates.bind_alike (hmirrors.obtain engine) fun library => ?_
  refine Simulates.bind_alike (hmirrors.findSymbols library engine).attempt fun outcome => ?_
  cases outcome with
  | ok _ => exact fun _ _ hstates => .ok ⟨rfl, hmirrors.put ⟨engine, .library library⟩ hstates⟩
  | error fault => exact Simulates.bind_alike (hmirrors.release library) fun _ => throw fault

theorem setupCodec (hmirrors : Mirrors R) (codec : Codec) :
    Simulates R (setupCodec codec) (setupCodec codec) (Alike R) R := by
  unfold Host.setupCodec
  cases codec.engine? with
  | none =>
      refine hmirrors.get_bind fun h h' hcontext => ?_
      rw [hcontext]
      exact Simulates.bind_alike (hmirrors.openLibrary _ _) fun _ => pure ()
  | some engine =>
      refine hmirrors.get_bind fun h h' hcontext => ?_
      rw [hcontext]
      split
      · exact pure ()
      · exact hmirrors.setupEngine engine

theorem setup (hmirrors : Mirrors R) (codecs : List Codec) :
    Simulates R (setup codecs) (setup codecs) (Alike R) R := by
  induction codecs with
  | nil => exact pure ()
  | cons codec rest ih => exact Simulates.bind_alike (hmirrors.setupCodec codec) fun _ => ih

end Mirrors
end RoundTrip.Host
