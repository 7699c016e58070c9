import RoundTrip.Proofs.HostMirror
import RoundTrip.Proofs.Ownership
import RoundTrip.Proofs.SessionMirror

/-!
# The ledger through a run

On its host a run does no more than a setup, notices apart.  So whatever a setup
keeps and no console has to do with, a run keeps: that the slots hold all that is
open beside the libraries of others, and that the ledger of the loader goes on
where it was.
-/

namespace RoundTrip

namespace Loader

/-- The ledger has gone on since. -/
structure Later (start loader : Loader) : Prop where
  opened : start.opened ≤ loader.opened
  closed : start.closed <:+ loader.closed

namespace Later

variable {start loader : Loader}

theorem refl (loader : Loader) : loader.Later loader := ⟨Nat.le_refl _, List.suffix_rfl⟩

theorem close (hlater : start.Later loader) (library : Library) :
    start.Later (loader.close library) :=
  ⟨hlater.opened, hlater.closed.trans (List.suffix_cons ..)⟩

theorem foldl_close (hlater : start.Later loader) (libraries : List Library) :
    start.Later (libraries.foldl Loader.close loader) := by
  induction libraries generalizing loader with
  | nil => exact hlater
  | cons l rest ih => exact ih (hlater.close l)

theorem openLibrary (path : String) :
    Ensures start.Later (Loader.openLibrary path) (fun _ => start.Later)
      (fun _ => start.Later) := by
  intro loader hlater
  rw [Loader.openLibrary]
  cases find loader.files path with
  | error reason => exact ⟨hlater.opened, hlater.closed⟩
  | ok found => exact ⟨Nat.le_succ_of_le hlater.opened, hlater.closed⟩

end Later
end Loader

/-! ## Hosts -/

namespace Host

theorem later_drop {start : Loader} {h : Host} (hlater : start.Later h.loader) (library : Library) :
    start.Later (h.drop library).loader := by
  unfold drop
  split
  · exact hlater
  · exact hlater.close library

/-- A setup only opens and closes libraries. -/
theorem mirrors_later (start : Loader) :
    Mirrors fun h h' => h = h' ∧ start.Later h.loader where
  context hstates := congrArg Host.context hstates.1
  say notice := by
    rintro h _ ⟨rfl, hlater⟩
    exact .ok ⟨rfl, rfl, hlater⟩
  load path := by
    rintro h _ ⟨rfl, hlater⟩
    have hopen : Ensures start.Later (Loader.openLibrary path) _ _ := Loader.Later.openLibrary path
    have hresult := hopen h.loader hlater
    unfold onPart
    generalize Loader.openLibrary path h.loader = result at hresult
    cases result with
    | ok library after => exact .ok ⟨rfl, rfl, hresult⟩
    | error fault after => exact .error fault ⟨rfl, hresult⟩
  release library := by
    rintro h _ ⟨rfl, hlater⟩
    exact .ok ⟨rfl, rfl, later_drop hlater library⟩
  put handle := by
    rintro ⟨rfl, hlater⟩
    exact ⟨rfl, hlater⟩

theorem setup_later (start : Loader) (codecs : List Codec) :
    Ensures (fun h => start.Later h.loader) (setup codecs) (fun _ h => start.Later h.loader)
      (fun _ h => start.Later h.loader) := by
  intro h hlater
  have hrelated := (mirrors_later start).setup codecs ⟨rfl, hlater⟩
  generalize setup codecs h = result at hrelated
  cases hrelated with
  | ok hanswers => exact hanswers.2.2
  | error fault hstates => exact hstates.2

theorem later_teardown {start : Loader} {h : Host} (hlater : start.Later h.loader) :
    start.Later h.teardown.2.loader := by
  rw [h.closedAll_teardown.loader]
  exact hlater.foldl_close _

end Host

/-! ## Runs over an input -/

namespace Session

variable {σ τ : Type}

theorem onHost_keeps {α : Type} {inv : Host → Prop} {step : EStateM Fault Host α}
    (hstep : Ensures inv step (fun _ => inv) (fun _ => inv)) :
    Ensures (fun s : Session σ τ => inv s.host) (onHost step) (fun _ s => inv s.host)
      (fun _ s => inv s.host) :=
  hstep.onPart (fun _ hinv => hinv) (fun _ _ _ _ hinv => hinv) fun _ _ _ _ hinv => hinv

/-- What a setup keeps of a host, and no console has to do with, a run keeps. -/
theorem run_keeps {inv : Host → Prop} (hconsole : ∀ c h, inv h → inv { h with console := c })
    (hsetup : ∀ codecs, Ensures inv (Host.setup codecs) (fun _ => inv) (fun _ => inv))
    (runner : Runner σ τ) (settings : Settings) (fileSize : Nat) (fileName : String) :
    Ensures (fun s => inv s.host) (run runner settings fileSize fileName)
      (fun _ s => inv s.host) (fun _ s => inv s.host) := by
  have hvalidate : Ensures inv
      (onPart Host.console (fun c h => { h with console := c }) settings.validate)
      (fun _ => inv) (fun _ => inv) := by
    intro h hinv
    unfold onPart
    cases settings.validate h.console with
    | ok dir after => exact hconsole after h hinv
    | error fault after => exact hconsole after h hinv
  refine Ensures.bind (onHost_keeps hvalidate) fun _ => ?_
  refine Ensures.bind (onHost_keeps (hsetup _)) fun _ => ?_
  refine Ensures.bind (onHost_keeps fun h hinv => hconsole _ h hinv) fun _ => ?_
  intro s hinv
  rw [sweep_eq]
  cases (runner.sweepRun s.host.context settings fileSize fileName).execute _ with
  | ok done after => exact hconsole _ s.host hinv
  | error fault after => exact hconsole _ s.host hinv

/-- Whatever others hold, a run opens libraries for its slots only. -/
theorem run_beside (runner : Runner σ τ) (settings : Settings) (fileSize : Nat)
    (fileName : String) (others : Library → Prop) :
    Ensures (fun s => s.host.OwnedBeside others) (run runner settings fileSize fileName)
      (fun _ s => s.host.OwnedBeside others) (fun _ s => s.host.OwnedBeside others) :=
  run_keeps (fun _ _ howned => ⟨howned.served, howned.apart, howned.ledger⟩) Host.setup_beside
    runner settings fileSize fileName

theorem run_later (runner : Runner σ τ) (settings : Settings) (fileSize : Nat)
    (fileName : String) (start : Loader) :
    Ensures (fun s => start.Later s.host.loader) (run runner settings fileSize fileName)
      (fun _ s => start.Later s.host.loader) (fun _ s => start.Later s.host.loader) :=
  run_keeps (fun _ _ hlater => hlater) (Host.setup_later start) runner settings fileSize fileName

end Session
end RoundTrip
