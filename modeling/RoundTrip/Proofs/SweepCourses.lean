import RoundTrip.Proofs.BriefSweeps
import RoundTrip.Proofs.StatelessCells

/-!
# Courses of sweeps

The course of a run is what it reported and how it ended.  Runs that are made in
turn, of which one that fails is the last, have a course again.  On engines
without a memory and a steady input a sweep takes the course of its cells in
turn, each run by itself on a rig of its own.
-/

namespace RoundTrip

/-- What a run reported, and how it ended: with a fault, or with so many cells completed. -/
structure Course where
  events : List (CellId × Event)
  result : Except Fault Nat

namespace Course

/-- Nothing was run. -/
def blank : Course := ⟨[], .ok 0⟩

/-- A run that was refused before its first cell. -/
def refused (fault : Fault) : Course := ⟨[], .error fault⟩

/-- The second run is made where the first one was completed. -/
def followedBy (first second : Course) : Course :=
  match first.result with
  | .error fault => ⟨first.events, .error fault⟩
  | .ok done => ⟨first.events ++ second.events, second.result.map (done + ·)⟩

/-- Runs in turn, up to the first that fails. -/
def inTurn (runs : List Course) : Course := runs.foldr followedBy blank

theorem inTurn_cons (run : Course) (rest : List Course) :
    inTurn (run :: rest) = run.followedBy (inTurn rest) := rfl

theorem followedBy_of_error {first : Course} {fault : Fault} (second : Course)
    (hfails : first.result = .error fault) :
    first.followedBy second = ⟨first.events, .error fault⟩ := by
  rw [followedBy, hfails]

theorem followedBy_of_ok {first : Course} {done : Nat} (second : Course)
    (hcompletes : first.result = .ok done) :
    first.followedBy second =
      ⟨first.events ++ second.events, second.result.map (done + ·)⟩ := by
  rw [followedBy, hcompletes]

theorem blank_followedBy (run : Course) : blank.followedBy run = run := by
  obtain ⟨events, result⟩ := run
  cases result with
  | error fault => rfl
  | ok done => simp only [followedBy, blank, Except.map, Nat.zero_add, List.nil_append]

theorem followedBy_assoc (first second third : Course) :
    (first.followedBy second).followedBy third = first.followedBy (second.followedBy third) := by
  obtain ⟨events, result⟩ := first
  obtain ⟨events', result'⟩ := second
  obtain ⟨events'', result''⟩ := third
  cases result with
  | error fault => rfl
  | ok done =>
      cases result' with
      | error fault => rfl
      | ok done' =>
          cases result'' with
          | error fault => simp only [followedBy, Except.map, List.append_assoc]
          | ok done'' => simp only [followedBy, Except.map, List.append_assoc, Nat.add_assoc]

theorem inTurn_append (first second : List Course) :
    inTurn (first ++ second) = (inTurn first).followedBy (inTurn second) := by
  induction first with
  | nil => exact (blank_followedBy _).symm
  | cons run rest ih =>
      rw [List.cons_append, inTurn_cons, inTurn_cons, ih, followedBy_assoc]

/-- Parts of a plan in turn are the plan. -/
theorem inTurn_flatMap {α : Type} (parts : List α) (runs : α → List Course) :
    inTurn (parts.flatMap runs) = inTurn (parts.map fun part => inTurn (runs part)) := by
  induction parts with
  | nil => rfl
  | cons part rest ih =>
      rw [List.flatMap_cons, inTurn_append, ih, List.map_cons, inTurn_cons]

/-- Where every run is refused, so is the first. -/
theorem inTurn_map_refused {α : Type} {parts : List α} (hsome : parts ≠ []) (fault : Fault) :
    inTurn (parts.map fun _ => refused fault) = refused fault := by
  cases parts with
  | nil => contradiction
  | cons part rest => rfl

end Course

namespace SweepRun

variable {σ τ : Type}

/-- The course of a cell that is run by itself. -/
def cellCourse (run : SweepRun σ τ) (cell : Cell) (rig : Rig σ) : Course :=
  ⟨run.reports cell rig, (answer (run.alone cell) rig).map fun _ => 1⟩

/-- The engine of a cell is set up and has no memory. -/
def Forgetful (run : SweepRun σ τ) (good : σ → Prop) (cell : Cell) : Prop :=
  ∃ entry, run.context.entry? cell.engine = some entry ∧ run.native.Stateless good entry

section Course

variable {run : SweepRun σ τ} {good : σ → Prop} {stock : Stock} {cell : Cell} {rig rig' : Rig σ}

/-! ## One cell -/

theorem alone_stocked (hcell : run.Forgetful good cell)
    (hpasses : 0 < run.settings.effectiveIterations.toNat) (hrig : rig.bench.Stocked good stock)
    (hrig' : rig'.bench.Stocked good stock) :
    Related (Alike fun rig rig' => rig.bench.Stocked good stock ∧ rig'.bench.Stocked good stock)
      (fun rig rig' => rig.bench.Stocked good stock ∧ rig'.bench.Stocked good stock)
      (run.alone cell rig) (run.alone cell rig') := by
  obtain ⟨entry, hentry, hstateless⟩ := hcell
  have hquiet {w : Workbench σ} (hstocked : w.Stocked good stock) :
      w.rig.bench.Stocked good stock :=
    ⟨hstocked.input, hstocked.chunkSize, hstocked.native⟩
  have hengine : (run.cellRun cell entry).native.Stateless good (run.cellRun cell entry).entry :=
    hstateless
  have hrelated := CellRun.execute_stocked hengine hpasses run.fileSize ⟨hrig, hrig'⟩
  simp only [alone, hentry]
  exact hrelated.map
    (fun _ _ _ _ hanswers => ⟨hanswers.1, hquiet hanswers.2.1, hquiet hanswers.2.2⟩)
    fun _ _ hstates => ⟨hquiet hstates.1, hquiet hstates.2⟩

/-- The course of a cell is the same on every rig with this stock. -/
theorem cellCourse_eq (hcell : run.Forgetful good cell)
    (hpasses : 0 < run.settings.effectiveIterations.toNat) (hrig : rig.bench.Stocked good stock)
    (hrig' : rig'.bench.Stocked good stock) :
    run.cellCourse cell rig = run.cellCourse cell rig' := by
  have hrelated := alone_stocked hcell hpasses hrig hrig'
  simp only [cellCourse, reports, answer]
  generalize run.alone cell rig = one at *
  generalize run.alone cell rig' = two at *
  cases hrelated with
  | ok hanswers => rw [hanswers.1]
  | error fault hstates => rfl

/-! ## Cells in turn -/

/-- A sink that takes every report has kept them all. -/
theorem forM_hand_logged (hsink : Reliable run.sink) (given : List (CellId × Event)) (rig : Rig σ)
    (t : τ) (events : List (CellId × Event)) :
    ∃ t', forM given run.logged.hand (rig, (t, events)) =
      .ok () (rig, (t', events ++ given)) := by
  induction given generalizing t events with
  | nil => exact ⟨t, by rw [List.append_nil]; rfl⟩
  | cons report rest ih =>
      obtain ⟨mid, hmid⟩ := hsink report.1 report.2 t
      obtain ⟨t', hrest⟩ := ih mid (events ++ [report])
      have hhand : run.logged.hand report (rig, (t, events)) =
          .ok () (rig, (mid, events ++ [report])) := by
        simp only [hand, EStateM.adaptExcept, onPart, logged, Sink.recorded, hmid]
      rw [List.append_assoc] at hrest
      refine ⟨t', ?_⟩
      simp only [List.forM_cons, Bind.bind, EStateM.bind, hhand]
      exact hrest

/-- Where every report is taken, a cell ends as it does alone. -/
theorem briefCell_logged (hsink : Reliable run.sink) (cell : Cell)
    (s : Rig σ × (τ × List (CellId × Event))) :
    ∃ after, after.1 = leaves (run.alone cell) s.1 ∧
      after.2.2 = s.2.2 ++ run.reports cell s.1 ∧
      (∀ tally, answer (run.alone cell) s.1 = .ok tally →
        run.logged.briefCell cell s = .ok () after) ∧
      ∀ fault, answer (run.alone cell) s.1 = .error fault →
        run.logged.briefCell cell s = .error fault after := by
  obtain ⟨rig, t, events⟩ := s
  obtain ⟨t', hgiven⟩ := forM_hand_logged hsink (run.reports cell rig)
    (leaves (run.alone cell) rig) t events
  have hbrief := run.logged.briefCell_of_given hgiven
  refine ⟨(leaves (run.alone cell) rig, (t', events ++ run.reports cell rig)), rfl, rfl, ?_, ?_⟩
  · intro tally hok
    have halone : run.logged.alone cell rig = _ := eq_of_answer_ok hok
    rw [hbrief, halone]
  · intro fault hfails
    have halone : run.logged.alone cell rig = _ := eq_of_answer_error hfails
    rw [hbrief, halone]

/-- A step takes a course: its answer counts on from `done`, its reports come after those before,
and it leaves the stock as it was. -/
structure Takes (good : σ → Prop) (stock : Stock)
    (step : EStateM Fault (Rig σ × (τ × List (CellId × Event))) Nat)
    (s : Rig σ × (τ × List (CellId × Event))) (course : Course) (done : Nat) : Prop where
  ends : answer step s = course.result.map (done + ·)
  reports : (leaves step s).2.2 = s.2.2 ++ course.events
  stocked : (leaves step s).1.bench.Stocked good stock

section Takes

variable {step next : EStateM Fault (Rig σ × (τ × List (CellId × Event))) Nat}
  {s mid : Rig σ × (τ × List (CellId × Event))} {events : List (CellId × Event)} {later : Course}
  {done : Nat}

theorem Takes.of_failed {fault : Fault} (hrun : step s = .error fault mid)
    (hevents : mid.2.2 = s.2.2 ++ events) (hmid : mid.1.bench.Stocked good stock) :
    Takes good stock step s ⟨events, .error fault⟩ done := by
  constructor
  · rw [answer, hrun]
    rfl
  · rw [leaves, hrun]
    exact hevents
  · rw [leaves, hrun]
    exact hmid

theorem Takes.of_completed (hrun : step s = next mid) (hevents : mid.2.2 = s.2.2 ++ events)
    (hnext : Takes good stock next mid later (done + 1)) :
    Takes good stock step s ⟨events ++ later.events, later.result.map (1 + ·)⟩ done := by
  obtain ⟨hanswer, hlater, hstocked⟩ := hnext
  have hsame : answer step s = answer next mid := by rw [answer, answer, hrun]
  have hleaves : leaves step s = leaves next mid := by rw [leaves, leaves, hrun]
  constructor
  · rw [hsame, hanswer]
    cases later.result with
    | error fault => rfl
    | ok more => exact congrArg Except.ok (Nat.add_assoc done 1 more)
  · rw [hleaves, hlater, hevents, List.append_assoc]
  · rw [hleaves]
    exact hstocked

end Takes

theorem briefCells_takes (hsink : Reliable run.sink)
    (hpasses : 0 < run.settings.effectiveIterations.toNat) (hrig : rig.bench.Stocked good stock)
    {cells : List Cell} (hcells : ∀ cell ∈ cells, run.Forgetful good cell) (done : Nat)
    {s : Rig σ × (τ × List (CellId × Event))} (hs : s.1.bench.Stocked good stock) :
    Takes good stock (run.logged.briefCells cells done) s
      (.inTurn (cells.map (run.cellCourse · rig))) done := by
  induction cells generalizing s done with
  | nil => exact ⟨rfl, (List.append_nil _).symm, hs⟩
  | cons cell rest ih =>
      have hcell := hcells cell List.mem_cons_self
      have hkept := (alone_stocked hcell hpasses hs hs).leaves.1
      obtain ⟨after, hafter, hevents, hcompleted, hfailed⟩ := briefCell_logged hsink cell s
      rw [← hafter] at hkept
      rw [List.map_cons, Course.inTurn_cons, cellCourse_eq hcell hpasses hrig hs]
      cases hends : answer (run.alone cell) s.1 with
      | error fault =>
          have hfails : (run.cellCourse cell s.1).result = .error fault :=
            congrArg (Except.map fun _ => 1) hends
          rw [Course.followedBy_of_error _ hfails]
          refine Takes.of_failed ?_ hevents hkept
          simp only [briefCells, Bind.bind, EStateM.bind, hfailed fault hends]
      | ok tally =>
          have hcompletes : (run.cellCourse cell s.1).result = .ok 1 :=
            congrArg (Except.map fun _ => 1) hends
          have hrest := ih (fun next hnext => hcells next (List.mem_cons_of_mem cell hnext))
            (done + 1) hkept
          rw [Course.followedBy_of_ok _ hcompletes]
          refine Takes.of_completed ?_ hevents hrest
          simp only [briefCells, Bind.bind, EStateM.bind, hcompleted tally hends]

variable (run) in
/-- A sweep takes the course of its cells in turn, each of them run by itself. -/
theorem execute_takes (hsink : Reliable run.sink)
    (hpasses : 0 < run.settings.effectiveIterations.toNat) (hrig : rig.bench.Stocked good stock)
    (hcells : ∀ cell ∈ Plan.cells run.settings, run.Forgetful good cell)
    {s : SweepState σ (τ × List (CellId × Event))} (hs : s.bench.rig.bench.Stocked good stock) :
    answer run.logged.execute s =
        (Course.inTurn ((Plan.cells run.settings).map (run.cellCourse · rig))).result ∧
      (leaves run.logged.execute s).sink.2 = s.sink.2 ++
        (Course.inTurn ((Plan.cells run.settings).map (run.cellCourse · rig))).events ∧
      (leaves run.logged.execute s).bench.rig.bench.Stocked good stock := by
  obtain ⟨hends, hreports, hstocked⟩ :=
    briefCells_takes hsink hpasses hrig hcells 0 (s := (s.bench.rig, s.sink)) hs
  obtain ⟨hrig', hsink'⟩ := run.logged.leaves_execute_brief s
  refine ⟨(run.logged.answer_execute_brief s).trans (hends.trans ?_), ?_, ?_⟩
  · cases (Course.inTurn ((Plan.cells run.settings).map (run.cellCourse · rig))).result with
    | error fault => rfl
    | ok done => exact congrArg Except.ok (Nat.zero_add done)
  · rw [hsink']
    exact hreports
  · rw [hrig']
    exact hstocked

end Course
end SweepRun
end RoundTrip
