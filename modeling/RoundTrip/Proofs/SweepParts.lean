import RoundTrip.Proofs.ConfigurationFaults
import RoundTrip.Proofs.StandInStateless
import RoundTrip.Proofs.SweepCourses
import RoundTrip.Proofs.VerificationSound

/-!
# Runs in parts

Where engines have no memory, the input is steady and the sink takes every
report, cells are independent of each other.  So a run over all codecs takes the
course of the runs over each of them in turn, a run over all levels of a codec
that of the runs at each level, and a run that is made again its own.
-/

namespace RoundTrip

/-! ## Parts of settings -/

namespace Settings

/-- The settings for one codec alone, with all its levels and its own extra parameter. -/
def forCodec (s : Settings) (codec : Codec) : Settings :=
  { s with selection := .single codec, level := notGiven, extra := notGiven }

def atLevel (s : Settings) (level : Int) : Settings := { s with level := level }

variable {s : Settings}

theorem objection?_forCodec (hall : s.selection = .all) {codec : Codec}
    (hsupported : codec ∈ Codec.supported) : (s.forCodec codec).objection? = s.objection? := by
  have hcodec : codec.isSupported = true := (List.mem_filter.mp hsupported).2
  have hsame : (s.forCodec codec).codecFault? = s.codecFault? := by
    simp only [codecFault?, forCodec, hall, hcodec, if_true]
  rw [objection?, objection?, hsame]
  rfl

end Settings

namespace Codec

theorem levels_ne_nil (codec : Codec) : codec.descriptor.levels ≠ [] := by
  cases codec <;> decide

theorem ne_notGiven_of_mem_levels (codec : Codec) :
    ∀ level ∈ codec.descriptor.levels, level ≠ notGiven := by
  cases codec <;> decide

end Codec

namespace Plan

variable {s : Settings}

/-- The cells of a codec that was named are those of its engine, if it has one. -/
theorem cells_of_named {codec : Codec} (hsingle : s.selection = .single codec) :
    cells s = codec.engine?.toList.flatMap (cellsOf s) := by
  simp only [cells, Settings.selected, hsingle, List.filterMap_cons, List.filterMap_nil]
  cases codec.engine? with
  | none => rfl
  | some engine => rfl

/-- The cells of all codecs are those of each codec, in table order. -/
theorem cells_of_all (hall : s.selection = .all) :
    cells s = Codec.supported.flatMap fun codec => cells (s.forCodec codec) := by
  have hengines : s.selected.filterMap Codec.engine? = Engine.all := by
    simp only [Settings.selected, hall]
    rfl
  rw [cells, hengines, Codec.supported_eq, List.flatMap_map]
  refine List.flatMap_congr fun engine _ => ?_
  rw [cells_of_named rfl, Codec.engine?_codec, Option.toList_some, List.flatMap_singleton, cellsOf,
    cellsOf]
  simp only [Settings.forCodec, Settings.levelRange, Settings.extraFor, hall, if_true]

/-- The cells of all levels are those of each level, from the lowest to the highest. -/
theorem cells_of_levels {codec : Codec} (hsingle : s.selection = .single codec)
    (hlevel : s.level = notGiven) :
    cells s = codec.descriptor.levels.flatMap fun level => cells (s.atLevel level) := by
  have hnamed (level : Int) : cells (s.atLevel level) =
      codec.engine?.toList.flatMap (cellsOf (s.atLevel level)) := cells_of_named hsingle
  simp only [cells_of_named hsingle, hnamed]
  cases hengine : codec.engine? with
  | none => exact (List.flatMap_eq_nil_iff.mpr fun _ _ => rfl).symm
  | some engine =>
      obtain rfl := Codec.codec_of_engine? hengine
      simp only [Option.toList_some, List.flatMap_singleton]
      rw [cellsOf, Settings.levelRange, hsingle]
      simp only [hlevel, if_true]
      rw [← Descriptor.levels, List.map_eq_flatMap]
      refine List.flatMap_congr fun level hmem => ?_
      have hgiven := engine.codec.ne_notGiven_of_mem_levels level hmem
      simp only [cellsOf, Settings.levelRange, Settings.extraFor, Settings.atLevel, hsingle,
        if_neg hgiven, levelsFrom_self, List.map_cons, List.map_nil]

end Plan

/-! ## Runs of settled sessions -/

namespace Session

variable {σ τ : Type}

/-- What a run reports and how it ends. -/
def course (runner : Runner σ τ) (settings : Settings) (fileSize : Nat) (fileName : String)
    (s : Session σ τ) : Course :=
  ⟨(observe runner settings fileSize fileName s).sink.2,
    answer (run runner settings fileSize fileName) s⟩

/-- Every engine is set up and has no memory, no read or seek fails, and the sink takes every
report. -/
structure Settled (runner : Runner σ τ) (good : σ → Prop) (s : Session σ τ) : Prop where
  set_up : ∀ engine, s.host.context.isOpen engine = true
  stateless : ∀ engine entry, s.host.context.entry? engine = some entry →
    runner.native.Stateless good entry
  native : good s.native
  input : s.input.Steady
  sink : SweepRun.Reliable runner.sink

/-- The second session has the same context and the same bytes to read as the first. -/
structure Resembles (good : σ → Prop) (s t : Session σ τ) : Prop where
  context : t.host.context = s.host.context
  native : good t.native
  input : t.input.Holds s.input.deliverable

section Settled

variable {runner : Runner σ τ} {good : σ → Prop} {s t : Session σ τ}

theorem Settled.resembles (hsettled : s.Settled runner good) : s.Resembles good s :=
  ⟨rfl, hsettled.native, hsettled.input, rfl⟩

/-- What the cells of a run work on, when each is run by itself. -/
def startRig (s : Session σ τ) (settings : Settings) (fileSize : Nat) : Rig (σ × List Exchange) :=
  ⟨(s.native, []), s.input, .ofChunkSize (settings.chunkSize fileSize)⟩

/-- The course of one planned cell. -/
def cellCourse (runner : Runner σ τ) (settings : Settings) (fileSize : Nat) (fileName : String)
    (s : Session σ τ) (cell : Cell) : Course :=
  (runner.sweepRun s.host.context settings fileSize fileName).recorded.cellCourse cell
    (s.startRig settings fileSize)

/-- The course of a run from its settings, its plan and its cells. -/
def planned (runner : Runner σ τ) (settings : Settings) (fileSize : Nat) (fileName : String)
    (s : Session σ τ) : Course :=
  match settings.objection? with
  | some fault => .refused fault
  | none => .inTurn ((Plan.cells settings).map (s.cellCourse runner settings fileSize fileName))

/-- A run that takes its planned course, and leaves a session that resembles the one before it. -/
structure TakesCourse (runner : Runner σ τ) (good : σ → Prop) (settings : Settings)
    (fileSize : Nat) (fileName : String) (s t : Session σ τ) : Prop where
  ends : answer (run runner.observed settings fileSize fileName) (t.observed ([], [])) =
    (s.planned runner settings fileSize fileName).result
  reports : (observe runner settings fileSize fileName t).sink.2 =
    (s.planned runner settings fileSize fileName).events
  resembles : (s.observed ([], [])).Resembles (fun t => good t.1)
    (observe runner settings fileSize fileName t)

theorem takesCourse_of_refused {settings : Settings} {fault : Fault}
    (hobjection : settings.objection? = some fault) (fileSize : Nat) (fileName : String)
    (hsame : s.Resembles good t) : TakesCourse runner good settings fileSize fileName s t := by
  have hanswer := settings.answer_validate t.host.console
  rw [hobjection] at hanswer
  have hrun := run_of_refused runner.observed fileSize fileName (s := t.observed ([], []))
    (eq_of_answer_error hanswer)
  constructor
  · rw [planned, hobjection, answer, hrun]
    rfl
  · rw [planned, hobjection, observe, leaves, hrun]
    rfl
  · rw [observe, leaves, hrun]
    exact ⟨hsame.context, hsame.native, hsame.input⟩

/-- What stays as it is through every run from here. -/
def stock (s : Session σ τ) (settings : Settings) (fileSize : Nat) : Stock :=
  ⟨s.input.deliverable, settings.chunkSize fileSize⟩

theorem Resembles.stocked (hsame : s.Resembles good t) (settings : Settings) (fileSize : Nat) :
    (t.startRig settings fileSize).bench.Stocked (fun t => good t.1) (s.stock settings fileSize) :=
  ⟨hsame.input, rfl, hsame.native⟩

theorem Settled.forgetful (hsettled : s.Settled runner good) (settings : Settings) (fileSize : Nat)
    (fileName : String) (cell : Cell) :
    (runner.sweepRun s.host.context settings fileSize fileName).recorded.Forgetful
      (fun t => good t.1) cell := by
  obtain ⟨entry, hentry⟩ := Context.exists_entry (hsettled.set_up cell.engine)
  exact ⟨entry, hentry, (hsettled.stateless cell.engine entry hentry).recorded⟩

/-- A run with settings that are accepted is a sweep, before which nothing is reported. -/
theorem Settled.exists_sweep (hsettled : s.Settled runner good) {settings : Settings}
    {dir : LibraryDir} {after : Console} (hvalid : settings.validate t.host.console = .ok dir after)
    (fileSize : Nat) (fileName : String) (hsame : s.Resembles good t) :
    ∃ (ready : Session (σ × List Exchange) (τ × List (CellId × Event)))
      (start : SweepState (σ × List Exchange) (τ × List (CellId × Event))),
      run runner.observed settings fileSize fileName (t.observed ([], [])) =
        mapState ready.resumed ((runner.sweepRun s.host.context settings fileSize
          fileName).recorded.logged.execute start) ∧
      ready.host.context = s.host.context ∧ start.bench.rig = t.startRig settings fileSize ∧
      start.sink.2 = [] := by
  have hset (engine : Engine) (_ : engine.codec ∈ settings.selected) :
      t.host.context.isOpen engine = true := by
    rw [hsame.context]
    exact hsettled.set_up engine
  obtain ⟨ready, hprepare, hcontext, hnative, hinput, hsink⟩ :=
    prepare_of_open (s := t.observed ([], [])) hvalid hset fileSize fileName
  have hcontext' : ready.host.context = s.host.context := hcontext.trans hsame.context
  refine ⟨ready, ready.sweepState (.ofChunkSize (settings.chunkSize fileSize)), ?_, hcontext', ?_,
    congrArg Prod.snd hsink⟩
  · rw [run_of_prepare _ hprepare, sweep_eq, Runner.sweepRun_observed, hcontext']
  · simp only [sweepState, Workbench.rig, hnative, hinput]
    rfl

theorem Settled.takesCourse_of_accepted (hsettled : s.Settled runner good) {settings : Settings}
    (haccepted : settings.objection? = none) (fileSize : Nat) (fileName : String)
    (hsame : s.Resembles good t) : TakesCourse runner good settings fileSize fileName s t := by
  obtain ⟨dir, after, hvalid⟩ := Settings.validate_of_accepted haccepted t.host.console
  obtain ⟨ready, start, hrun, hcontext, hrig, hnone⟩ :=
    hsettled.exists_sweep hvalid fileSize fileName hsame
  have hpasses : 0 < settings.effectiveIterations.toNat :=
    Settings.effectiveIterations_pos (Settings.positive_of_validate_ok hvalid).1
  have hstart : start.bench.rig.bench.Stocked (fun t => good t.1) (s.stock settings fileSize) := by
    rw [hrig]
    exact hsame.stocked settings fileSize
  obtain ⟨hends, hreports, hleft⟩ :=
    (runner.sweepRun s.host.context settings fileSize fileName).recorded.execute_takes
      hsettled.sink hpasses (hsettled.resembles.stocked settings fileSize)
      (fun cell _ => hsettled.forgetful settings fileSize fileName cell) hstart
  have hplanned : s.planned runner settings fileSize fileName = .inTurn
      ((Plan.cells settings).map (s.cellCourse runner settings fileSize fileName)) := by
    rw [planned, haccepted]
  have hobserved : observe runner settings fileSize fileName t = ready.resumed _ :=
    leaves_eq_of_mapState hrun
  constructor
  · rw [hplanned]
    exact (answer_eq_of_mapState hrun).trans hends
  · rw [hplanned, hobserved]
    rw [hnone, List.nil_append] at hreports
    exact hreports
  · rw [hobserved]
    exact ⟨hcontext, hleft.native, hleft.input⟩

/-- A run in a session that resembles a settled one takes the course that is planned there. -/
theorem Settled.course_eq (hsettled : s.Settled runner good) (settings : Settings) (fileSize : Nat)
    (fileName : String) (hsame : s.Resembles good t) :
    course runner settings fileSize fileName t = s.planned runner settings fileSize fileName ∧
      s.Resembles good (leaves (run runner settings fileSize fileName) t) := by
  have htakes : TakesCourse runner good settings fileSize fileName s t := by
    cases hobjection : settings.objection? with
    | some fault => exact takesCourse_of_refused hobjection fileSize fileName hsame
    | none => exact hsettled.takesCourse_of_accepted hobjection fileSize fileName hsame
  obtain ⟨hends, hreports, hcontext, hnative, hinput⟩ := htakes
  obtain ⟨_, hrun⟩ := run_observed runner settings fileSize fileName t
  obtain ⟨records, hobserved⟩ := observe_eq runner settings fileSize fileName t
  rw [answer_eq_of_mapState hrun] at hends
  rw [hobserved] at hcontext hnative hinput
  constructor
  · rw [course, hreports, hends]
  · exact ⟨hcontext, hnative, hinput⟩

/-! ## Decomposition -/

/-- Where a plan falls into parts with the same cells, its course is theirs in turn. -/
theorem planned_of_parts {α : Type} {parts : List α} {settings : Settings} {part : α → Settings}
    {fileSize : Nat} {fileName : String} (hsome : parts ≠ [])
    (hobjection : ∀ p ∈ parts, (part p).objection? = settings.objection?)
    (hcells : Plan.cells settings = parts.flatMap fun p => Plan.cells (part p))
    (hcourse : ∀ p ∈ parts, s.cellCourse runner (part p) fileSize fileName =
      s.cellCourse runner settings fileSize fileName) :
    s.planned runner settings fileSize fileName =
      .inTurn (parts.map fun p => s.planned runner (part p) fileSize fileName) := by
  cases haccepted : settings.objection? with
  | some fault =>
      have hrefused : ∀ p ∈ parts, s.planned runner (part p) fileSize fileName =
          .refused fault := by
        intro p hp
        rw [planned, hobjection p hp, haccepted]
      rw [planned, haccepted, List.map_congr_left hrefused, Course.inTurn_map_refused hsome]
  | none =>
      have hparts : ∀ p ∈ parts, s.planned runner (part p) fileSize fileName =
          .inTurn ((Plan.cells (part p)).map
            (s.cellCourse runner settings fileSize fileName)) := by
        intro p hp
        rw [planned, hobjection p hp, haccepted, hcourse p hp]
      rw [planned, haccepted, List.map_congr_left hparts, hcells, List.map_flatMap]
      exact Course.inTurn_flatMap _ _

/-- In a settled session the run over all codecs takes the course of the runs over each of them in
turn, the run over all levels of a codec that of the runs at each level, and a second run that of
the first.  The runs of the parts may start from any sessions that resemble this one. -/
theorem course_of_parts (hsettled : s.Settled runner good) (settings : Settings) (fileSize : Nat)
    (fileName : String) :
    (settings.selection = .all → ∀ start : Codec → Session σ τ,
      (∀ codec ∈ Codec.supported, s.Resembles good (start codec)) →
      course runner settings fileSize fileName s = .inTurn (Codec.supported.map fun codec =>
        course runner (settings.forCodec codec) fileSize fileName (start codec))) ∧
    (∀ codec, settings.selection = .single codec → settings.level = notGiven →
      ∀ start : Int → Session σ τ,
      (∀ level ∈ codec.descriptor.levels, s.Resembles good (start level)) →
      course runner settings fileSize fileName s = .inTurn (codec.descriptor.levels.map fun level =>
        course runner (settings.atLevel level) fileSize fileName (start level))) ∧
    course runner settings fileSize fileName
        (leaves (run runner settings fileSize fileName) s) =
      course runner settings fileSize fileName s := by
  obtain ⟨hcourse, hleft⟩ := hsettled.course_eq settings fileSize fileName hsettled.resembles
  refine ⟨?_, ?_, ?_⟩
  · intro hall start hstart
    have hpart : ∀ codec ∈ Codec.supported,
        course runner (settings.forCodec codec) fileSize fileName (start codec) =
          s.planned runner (settings.forCodec codec) fileSize fileName := fun codec hcodec =>
      (hsettled.course_eq _ fileSize fileName (hstart codec hcodec)).1
    rw [hcourse, List.map_congr_left hpart]
    refine planned_of_parts (by decide) ?_ (Plan.cells_of_all hall) fun _ _ => rfl
    exact fun codec hcodec => Settings.objection?_forCodec hall hcodec
  · intro codec hsingle hlevel start hstart
    have hpart : ∀ level ∈ codec.descriptor.levels,
        course runner (settings.atLevel level) fileSize fileName (start level) =
          s.planned runner (settings.atLevel level) fileSize fileName := fun level hmem =>
      (hsettled.course_eq _ fileSize fileName (hstart level hmem)).1
    rw [hcourse, List.map_congr_left hpart]
    refine planned_of_parts codec.levels_ne_nil ?_ (Plan.cells_of_levels hsingle hlevel)
      fun _ _ => rfl
    exact fun _ _ => rfl
  · exact (hsettled.course_eq settings fileSize fileName hleft).1.trans hcourse.symm

end Settled

/-- Stand-in engines over three bytes, from an input that delivers one byte at a time and is
interrupted once; each part starts from a session that has read before. -/
theorem course_of_parts_standIn :
    let runner : Runner Unit EventLog := ⟨StandIn.native, EventLog.sink⟩
    let settings := { Settings.default with memoryLimit := 2, verify := true, statistics := true }
    let single := { settings with selection := .single .lz4hc, extra := 4 }
    let s : Session Unit EventLog :=
      ⟨⟨.ofThreshold 0, .ofFiles ⟨[], [], ""⟩, .inProcess .searchPath⟩, (),
        .ofDelivery ⟨fun _ => some 1, [(2, ⟨.interrupted, "signal"⟩)], []⟩ [1, 2, 3], []⟩
    let start : Session Unit EventLog :=
      { s with input := { s.input with position := 2, reads := 5 } }
    s.Settled runner (fun _ => True) ∧ s.Resembles (fun _ => True) start ∧
      course runner settings 3 "input" s = .inTurn (Codec.supported.map fun codec =>
        course runner (settings.forCodec codec) 3 "input" start) ∧
      course runner single 3 "input" s = .inTurn (Codec.lz4hc.descriptor.levels.map fun level =>
        course runner (single.atLevel level) 3 "input" start) ∧
      course runner settings 3 "input" (leaves (run runner settings 3 "input") s) =
        course runner settings 3 "input" s := by
  intro runner settings single s start
  have hsettled : s.Settled runner (fun _ => True) := by
    constructor
    · intro engine
      cases engine <;> rfl
    · exact fun _ entry _ => StandIn.stateless entry
    · trivial
    · refine ⟨nofun, ?_, fun _ _ => Iff.rfl⟩
      intro fault hfault
      obtain rfl := List.mem_singleton.mp hfault
      exact .inr rfl
    · exact fun id event t => ⟨(id, event) :: t, rfl⟩
  have hstart : s.Resembles (fun _ => True) start := by
    constructor
    · rfl
    · trivial
    · refine ⟨⟨nofun, ?_, fun _ _ => Iff.rfl⟩, rfl⟩
      intro fault hfault
      obtain rfl := List.mem_singleton.mp hfault
      exact .inr rfl
  obtain ⟨hall, -, hagain⟩ := course_of_parts hsettled settings 3 "input"
  obtain ⟨-, hlevels, -⟩ := course_of_parts hsettled single 3 "input"
  exact ⟨hsettled, hstart, hall rfl (fun _ => start) fun _ _ => hstart,
    hlevels .lz4hc rfl rfl (fun _ => start) fun _ _ => hstart, hagain⟩

end Session
end RoundTrip
