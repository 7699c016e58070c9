import RoundTrip.Proofs.BriefSweeps
import RoundTrip.Proofs.SweepFailure

/-!
# Reports on a page

A page without a limit holds the texts of all reports.  A page that has room for
less keeps what fits of the first text that does not, and the sweep ends there:
the page shows the beginning of what it would have shown, and nothing is run or
written after the report it refused.
-/

namespace RoundTrip

namespace Text

@[simp]
theorem utf8_append (a b : String) : utf8 (a ++ b) = utf8 a ++ utf8 b := by
  simp only [utf8, String.toUTF8_eq_toByteArray, String.toByteArray_append, ByteArray.data_append,
    Array.toList_append]

end Text

/-- The texts of reports, one after another. -/
def reportBytes (events : List (CellId × Event)) : List UInt8 :=
  events.flatMap fun report => Text.utf8 (report.2.text report.1)

@[simp]
theorem reportBytes_append (events events' : List (CellId × Event)) :
    reportBytes (events ++ events') = reportBytes events ++ reportBytes events' :=
  List.flatMap_append

@[simp]
theorem reportBytes_singleton (id : CellId) (event : Event) :
    reportBytes [(id, event)] = Text.utf8 (event.text id) :=
  List.flatMap_singleton ..

theorem length_reportBytes_le {events events' : List (CellId × Event)} (h : events <+: events') :
    (reportBytes events).length ≤ (reportBytes events').length := by
  obtain ⟨rest, rfl⟩ := h
  rw [reportBytes_append, List.length_append]
  exact Nat.le_add_right ..

/-! ## Writing on a page -/

namespace Page

theorem write_none (text : String) (written : List UInt8) (flushes : Nat) :
    write text ⟨written, none, flushes⟩ = .ok () ⟨written ++ Text.utf8 text, none, flushes⟩ := by
  simp only [write, room, Nat.lt_irrefl, if_false, List.take_length]

theorem write_some (text : String) (written : List UInt8) (limit flushes : Nat) :
    write text ⟨written, some limit, flushes⟩ =
      if limit - written.length < (Text.utf8 text).length then
        .error .sinkFull
          ⟨written ++ (Text.utf8 text).take (limit - written.length), some limit, flushes⟩
      else .ok () ⟨written ++ Text.utf8 text, some limit, flushes⟩ := by
  simp only [write, room]
  by_cases hshort : limit - written.length < (Text.utf8 text).length
  · simp only [Nat.min_eq_right (Nat.le_of_lt hshort), hshort, if_true]
  · simp only [Nat.min_eq_left (Nat.le_of_not_lt hshort), hshort, Nat.lt_irrefl, if_false,
      List.take_length]

/-- A text may be written in parts: the page ends with the same bytes, and the same part of the
text is refused. -/
theorem write_append (first second : String) :
    write (first ++ second) = (do write first; write second) := by
  funext ⟨written, limit, flushes⟩
  cases limit with
  | none => simp only [Bind.bind, EStateM.bind, write_none, Text.utf8_append, List.append_assoc]
  | some limit =>
      simp only [Bind.bind, EStateM.bind, write_some, Text.utf8_append, List.length_append]
      by_cases hfirst : limit - written.length < (Text.utf8 first).length
      · have hboth : limit - written.length <
            (Text.utf8 first).length + (Text.utf8 second).length := by omega
        simp only [hfirst, hboth, if_true,
          List.take_append_of_le_length (Nat.le_of_lt hfirst)]
      · -- what is left for the second part is what is left of the whole
        have hleft : limit - (written.length + (Text.utf8 first).length) =
            limit - written.length - (Text.utf8 first).length := by omega
        have hboth : limit - written.length <
              (Text.utf8 first).length + (Text.utf8 second).length ↔
            limit - written.length - (Text.utf8 first).length < (Text.utf8 second).length := by
          omega
        simp only [hfirst, hboth, hleft, if_false, write_some, List.length_append, List.take_append,
          List.take_of_length_le (Nat.le_of_not_lt hfirst), List.append_assoc]

/-- So the block of a completed cell may be written line by line. -/
theorem emit_statistics (cell : CellId) (summary : Summary) :
    sink.emit cell (.statistics summary) = (do
      write (cell.text ++ " -------------------------------------\n")
      write (Event.directionLine .compress summary.compress)
      write (Event.directionLine .decompress summary.decompress)
      write (Event.ratioLine summary.ratio)
      flush) := by
  simp only [sink, Event.text, write_append, bind_assoc]

/-! ## Pages that hold whole reports, and pages that are full -/

/-- A page that took these reports. -/
def showing (limit : Option Nat) (events : List (CellId × Event)) : Page :=
  ⟨reportBytes events, limit, events.length⟩

/-- An empty page has room for these reports. -/
def Fits (limit : Option Nat) (events : List (CellId × Event)) : Prop :=
  ∀ n, limit = some n → (reportBytes events).length ≤ n

/-- A page that took the reports before this one and had no room for it. -/
inductive Refused (limit : Option Nat) (accepted : List (CellId × Event))
    (refused : CellId × Event) : Page → Prop where
  | full {n : Nat} (hlimit : limit = some n) (haccepted : (reportBytes accepted).length ≤ n)
      (hrefused : n < (reportBytes (accepted ++ [refused])).length) :
      Refused limit accepted refused
        ⟨(reportBytes (accepted ++ [refused])).take n, limit, accepted.length⟩

theorem Fits.mono {limit : Option Nat} {events events' : List (CellId × Event)}
    (hfits : Fits limit events') (h : events <+: events') : Fits limit events :=
  fun n hlimit => Nat.le_trans (length_reportBytes_le h) (hfits n hlimit)

theorem Fits.nil (limit : Option Nat) : Fits limit [] :=
  fun n _ => Nat.zero_le n

theorem Fits.length_le {limit : Option Nat} {events : List (CellId × Event)}
    (hfits : Fits limit events) :
    (reportBytes events).length ≤ limit.getD (reportBytes events).length := by
  cases limit with
  | none => exact Nat.le_refl _
  | some n => exact hfits n rfl

/-- A page that has room for a report too takes it. -/
theorem emit_of_fits {limit : Option Nat} {events : List (CellId × Event)} {id : CellId}
    {event : Event} (hfits : Fits limit (events ++ [(id, event)])) :
    sink.emit id event (showing limit events) =
      .ok () (showing limit (events ++ [(id, event)])) := by
  simp only [sink, showing, Bind.bind, EStateM.bind, reportBytes_append, reportBytes_singleton,
    List.length_append, List.length_singleton]
  cases limit with
  | none => simp only [write_none, flush]
  | some n =>
      have hall := hfits n rfl
      rw [reportBytes_append, reportBytes_singleton, List.length_append] at hall
      have hroom : ¬ n - (reportBytes events).length < (Text.utf8 (event.text id)).length := by
        omega
      simp only [write_some, hroom, if_false, flush]

/-- A page that has not keeps what fits of it. -/
theorem emit_of_not_fits {limit : Option Nat} {events : List (CellId × Event)} {id : CellId}
    {event : Event} (hfits : Fits limit events) (hfull : ¬ Fits limit (events ++ [(id, event)])) :
    ∃ p, sink.emit id event (showing limit events) = .error .sinkFull p ∧
      Refused limit events (id, event) p := by
  simp only [Fits, not_forall] at hfull
  obtain ⟨n, rfl, hfull⟩ := hfull
  have hbefore := hfits n rfl
  refine ⟨_, ?_, .full rfl hbefore (Nat.lt_of_not_le hfull)⟩
  rw [reportBytes_append, reportBytes_singleton, List.length_append] at hfull
  have hroom : n - (reportBytes events).length < (Text.utf8 (event.text id)).length := by omega
  simp only [sink, showing, Bind.bind, EStateM.bind, write_some, hroom, if_true,
    reportBytes_append, reportBytes_singleton, List.take_append, List.take_of_length_le hbefore]

end Page

/-! ## Where a page is full -/

namespace SweepRun

variable {σ τ τ' : Type}

/-- The same sweep with another sink. -/
def withSink (run : SweepRun σ τ) (sink : Sink τ') : SweepRun σ τ' :=
  ⟨run.native, sink, run.context, run.settings, run.fileSize, run.fileName⟩

/-- A sweep that ended with a refused report: the cells before are completed and reported, and the
cell that it is about was run to its own end. -/
inductive Halted (run : SweepRun σ τ) (rig : Rig σ) (cells : List Cell) :
    List (CellId × Event) → CellId × Event → Rig σ → Prop where
  | at {before rest : List Cell} {cell : Cell} {mid : Rig σ}
      {events early late : List (CellId × Event)} {refused : CellId × Event}
      (hsplit : cells = before ++ cell :: rest) (hbefore : Completed run rig before events mid)
      (hreports : run.reports cell mid = early ++ refused :: late) :
      Halted run rig cells (events ++ early) refused (leaves (run.alone cell) mid)

section Page

variable {run : SweepRun σ τ} {cell : Cell} {rig mid : Rig σ} {limit : Option Nat}

/-- A log takes all reports. -/
theorem forM_hand_log (run : SweepRun σ τ) (reports : List (CellId × Event)) (rig : Rig σ)
    (log : EventLog) :
    forM reports (run.withSink EventLog.sink).hand (rig, log) =
      .ok () (rig, reports.reverse ++ log) := by
  induction reports generalizing log with
  | nil => rfl
  | cons report rest ih =>
      rw [List.forM_cons, List.reverse_cons, List.append_assoc]
      exact ih (report :: log)

/-- A page takes the reports that fit. -/
theorem forM_hand_page (run : SweepRun σ τ) {events reports : List (CellId × Event)}
    (hfits : Page.Fits limit (events ++ reports)) (rig : Rig σ) :
    forM reports (run.withSink Page.sink).hand (rig, .showing limit events) =
      .ok () (rig, .showing limit (events ++ reports)) := by
  induction reports generalizing events with
  | nil =>
      rw [List.append_nil]
      rfl
  | cons report rest ih =>
      rw [List.append_cons] at hfits ⊢
      have hemit := Page.emit_of_fits (hfits.mono (List.prefix_append ..))
      simp only [List.forM_cons, Bind.bind, EStateM.bind, hand, EStateM.adaptExcept, onPart,
        withSink, hemit]
      exact ih hfits

/-- The first that does not fit is refused. -/
theorem forM_hand_page_of_not_fits (run : SweepRun σ τ) {events reports : List (CellId × Event)}
    (hfits : Page.Fits limit events) (hfull : ¬ Page.Fits limit (events ++ reports))
    (rig : Rig σ) :
    ∃ early refused late p, reports = early ++ refused :: late ∧
      Page.Refused limit (events ++ early) refused p ∧
      forM reports (run.withSink Page.sink).hand (rig, .showing limit events) =
        .error (.io .sinkFull) (rig, p) := by
  induction reports generalizing events with
  | nil =>
      rw [List.append_nil] at hfull
      contradiction
  | cons report rest ih =>
      by_cases hfirst : Page.Fits limit (events ++ [report])
      · rw [List.append_cons] at hfull
        obtain ⟨early, refused, late, p, rfl, hrefused, hrest⟩ := ih hfirst hfull
        have hemit := Page.emit_of_fits hfirst
        refine ⟨report :: early, refused, late, p, rfl, ?_, ?_⟩
        · rwa [List.append_cons]
        · simp only [List.forM_cons, Bind.bind, EStateM.bind, hand, EStateM.adaptExcept, onPart,
            withSink, hemit]
          exact hrest
      · obtain ⟨p, hemit, hrefused⟩ := Page.emit_of_not_fits hfits hfirst
        refine ⟨[], report, rest, p, rfl, ?_, ?_⟩
        · rwa [List.append_nil]
        · simp only [List.forM_cons, Bind.bind, EStateM.bind, hand, EStateM.adaptExcept, onPart,
            withSink, hemit]

@[simp]
theorem events_append (reports : List (CellId × Event)) (log : EventLog) :
    EventLog.events (reports.reverse ++ log) = log.events ++ reports := by
  rw [EventLog.events, EventLog.events, List.reverse_append, List.reverse_reverse]

theorem briefCell_log (run : SweepRun σ τ) (cell : Cell) (rig : Rig σ) (log : EventLog) :
    (run.withSink EventLog.sink).briefCell cell (rig, log) =
      match run.alone cell rig with
      | .ok _ _ => .ok () (leaves (run.alone cell) rig, (run.reports cell rig).reverse ++ log)
      | .error fault _ =>
          .error fault (leaves (run.alone cell) rig, (run.reports cell rig).reverse ++ log) :=
  (run.withSink EventLog.sink).briefCell_of_given (run.forM_hand_log ..)

/-- A log that only grows holds the reports of the first cell. -/
theorem prefix_briefCells_cons (cell : Cell) {rest : List Cell}
    (hrest : ∀ done rig log, EventLog.events log <+:
      (leaves ((run.withSink EventLog.sink).briefCells rest done) (rig, log)).2.events)
    (done : Nat) (rig : Rig σ) (log : EventLog) :
    log.events ++ run.reports cell rig <+: (leaves
      ((run.withSink EventLog.sink).briefCells (cell :: rest) done) (rig, log)).2.events := by
  have hcell := run.briefCell_log cell rig log
  rw [← events_append]
  cases halone : run.alone cell rig with
  | ok tally mid =>
      simp only [halone] at hcell
      simp only [leaves, briefCells, Bind.bind, EStateM.bind, hcell]
      exact hrest ..
  | error fault left =>
      simp only [halone] at hcell
      simp only [leaves, briefCells, Bind.bind, EStateM.bind, hcell]
      exact List.prefix_rfl

theorem prefix_briefCells (run : SweepRun σ τ) (cells : List Cell) (done : Nat) (rig : Rig σ)
    (log : EventLog) :
    log.events <+:
      (leaves ((run.withSink EventLog.sink).briefCells cells done) (rig, log)).2.events := by
  induction cells generalizing done rig log with
  | nil => exact List.prefix_rfl
  | cons cell rest ih =>
      exact (List.prefix_append ..).trans (prefix_briefCells_cons cell ih ..)

/-- Where all its reports fit, a cell ends on a page as it does alone. -/
theorem briefCell_page (run : SweepRun σ τ) {cell : Cell} {rig : Rig σ}
    {events : List (CellId × Event)} (hfits : Page.Fits limit (events ++ run.reports cell rig)) :
    (run.withSink Page.sink).briefCell cell (rig, .showing limit events) =
      match run.alone cell rig with
      | .ok _ _ =>
          .ok () (leaves (run.alone cell) rig, .showing limit (events ++ run.reports cell rig))
      | .error fault _ =>
          .error fault
            (leaves (run.alone cell) rig, .showing limit (events ++ run.reports cell rig)) :=
  (run.withSink Page.sink).briefCell_of_given (run.forM_hand_page hfits _)

/-- The page shows what the log holds. -/
structure Synced (limit : Option Nat) (s : Rig σ × Page) (t : Rig σ × EventLog) : Prop where
  rig : s.1 = t.1
  page : s.2 = .showing limit t.2.events
  fits : Page.Fits limit t.2.events

theorem Halted.later {cells : List Cell} {accepted : List (CellId × Event)}
    {refused : CellId × Event} {left : Rig σ} {tally : Tally}
    (halone : run.alone cell rig = .ok tally mid)
    (hhalted : Halted run mid cells accepted refused left) :
    Halted run rig (cell :: cells) (run.reports cell rig ++ accepted) refused left := by
  obtain ⟨hsplit, hbefore, hreports⟩ := hhalted
  have hfirst : run.reports cell rig = run.successEvents cell tally := by
    simp only [reports, halone]
  rw [hfirst, ← List.append_assoc]
  exact .at (congrArg (cell :: ·) hsplit) (.cons halone hbefore) hreports

/-- A sweep on a page goes as it goes on a log, up to the report that is refused. -/
theorem briefCells_page (run : SweepRun σ τ) (cells : List Cell) (done : Nat) (rig : Rig σ)
    (log : EventLog) (hfits : Page.Fits limit log.events) :
    Related (Alike (Synced limit)) (Synced limit)
        ((run.withSink Page.sink).briefCells cells done (rig, .showing limit log.events))
        ((run.withSink EventLog.sink).briefCells cells done (rig, log)) ∨
      ∃ accepted refused left p,
        (run.withSink Page.sink).briefCells cells done (rig, .showing limit log.events) =
            .error (.io .sinkFull) (left, p) ∧
          Page.Refused limit (log.events ++ accepted) refused p ∧
          run.Halted rig cells accepted refused left ∧
          log.events ++ accepted ++ [refused] <+:
            (leaves ((run.withSink EventLog.sink).briefCells cells done) (rig, log)).2.events := by
  induction cells generalizing done rig log with
  | nil => exact .inl (.ok ⟨rfl, rfl, rfl, hfits⟩)
  | cons cell rest ih =>
      by_cases hall : Page.Fits limit (log.events ++ run.reports cell rig)
      · have hpage := run.briefCell_page hall
        have hlog := run.briefCell_log cell rig log
        rw [← events_append] at hall hpage
        cases halone : run.alone cell rig with
        | ok tally mid =>
            simp only [halone, leaves] at hlog hpage
            simp only [leaves, briefCells, Bind.bind, EStateM.bind, hlog, hpage]
            rcases ih (done + 1) mid _ hall with
              htogether | ⟨accepted, refused, left, p, hrun, hrefused, hhalted, hprefix⟩
            · exact .inl htogether
            · refine .inr ⟨_, refused, left, p, hrun, ?_, hhalted.later halone, ?_⟩
              · rwa [← List.append_assoc, ← events_append]
              · rwa [← List.append_assoc, ← events_append]
        | error fault left =>
            simp only [halone, leaves] at hlog hpage
            simp only [leaves, briefCells, Bind.bind, EStateM.bind, hlog, hpage]
            exact .inl (.error fault ⟨rfl, rfl, hall⟩)
      · obtain ⟨early, refused, late, p, hreports, hrefused, hgiven⟩ :=
          run.forM_hand_page_of_not_fits hfits hall (leaves (run.alone cell) rig)
        have hpage := (run.withSink Page.sink).briefCell_of_refused hgiven
        have hprefix := prefix_briefCells_cons cell (run.prefix_briefCells rest) done rig log
        rw [hreports, List.append_cons, ← List.append_assoc, ← List.append_assoc] at hprefix
        have hsplit : cell :: rest = [] ++ cell :: rest := rfl
        refine .inr ⟨early, refused, _, p, ?_, hrefused, .at hsplit (.nil rig) hreports,
          (List.prefix_append ..).trans hprefix⟩
        simp only [briefCells, Bind.bind, EStateM.bind, hpage]

/-- Either an empty page takes all that the log holds, or it refuses the first report that does not
fit and nothing is run after that. -/
theorem execute_page (run : SweepRun σ τ) (bench : Workbench σ) (limit : Option Nat) :
    let onLog := (run.withSink EventLog.sink).execute
    let onPage := (run.withSink Page.sink).execute
    let log := leaves onLog ⟨bench, []⟩
    let page := leaves onPage ⟨bench, .blank limit⟩
    (answer onPage ⟨bench, .blank limit⟩ = answer onLog ⟨bench, []⟩ ∧
        page.bench.rig = log.bench.rig ∧ page.sink = .showing limit log.sink.events ∧
        Page.Fits limit log.sink.events) ∨
      (answer onPage ⟨bench, .blank limit⟩ = .error (.io .sinkFull) ∧
        ∃ accepted refused rest, log.sink.events = accepted ++ refused :: rest ∧
          Page.Refused limit accepted refused page.sink ∧
          run.Halted bench.rig (Plan.cells run.settings) accepted refused page.bench.rig) := by
  intro onLog onPage log page
  have hlog : Brief log _ := (run.withSink EventLog.sink).leaves_execute_brief ⟨bench, []⟩
  have hpage : Brief page _ := (run.withSink Page.sink).leaves_execute_brief ⟨bench, .blank limit⟩
  have hlogAnswer : answer onLog _ = _ :=
    (run.withSink EventLog.sink).answer_execute_brief ⟨bench, []⟩
  have hpageAnswer : answer onPage _ = _ :=
    (run.withSink Page.sink).answer_execute_brief ⟨bench, .blank limit⟩
  rw [hlogAnswer, hpageAnswer, hpage.rig, hpage.sink, hlog.rig, hlog.sink]
  rcases run.briefCells_page (Plan.cells run.settings) 0 bench.rig [] (Page.Fits.nil limit) with
    htogether | ⟨accepted, refused, left, p, hrun, hrefused, hhalted, rest, hrest⟩
  · have hsynced := htogether.leaves
    exact .inl ⟨htogether.answer_eq, hsynced.rig, hsynced.page, hsynced.fits⟩
  · change (run.withSink Page.sink).briefCells _ _ (bench.rig, .blank limit) = _ at hrun
    have hanswer : answer ((run.withSink Page.sink).briefCells (Plan.cells run.settings) 0)
        (bench.rig, .blank limit) = .error (.io .sinkFull) := by
      rw [answer, hrun]
    have hleft : leaves ((run.withSink Page.sink).briefCells (Plan.cells run.settings) 0)
        (bench.rig, .blank limit) = (left, p) := by
      rw [leaves, hrun]
    refine .inr ⟨hanswer, accepted, refused, rest, ?_, ?_, ?_⟩
    · refine hrest.symm.trans ?_
      rw [List.append_assoc]
      rfl
    · exact (congrArg Prod.snd hleft).symm ▸ hrefused
    · exact (congrArg Prod.fst hleft).symm ▸ hhalted

/-- A sweep on a page writes the first bytes of what its reports would be on a log, as many as the
page has room for.  If that is all of them, the sweep ends as on the log.  If not, it fails with the
refusal: of the reports on the log, the page took those before the first that does not fit, and
the cell which that one is about was the last to run. -/
theorem page_agrees_with_log (run : SweepRun σ τ) (bench : Workbench σ) (limit : Option Nat) :
    let onLog := (run.withSink EventLog.sink).execute
    let onPage := (run.withSink Page.sink).execute
    let log := leaves onLog ⟨bench, []⟩
    let page := leaves onPage ⟨bench, .blank limit⟩
    let text := reportBytes log.sink.events
    page.sink.written = text.take (limit.getD text.length) ∧
      (text.length ≤ limit.getD text.length →
        answer onPage ⟨bench, .blank limit⟩ = answer onLog ⟨bench, []⟩ ∧
          page.bench.rig = log.bench.rig) ∧
      (limit.getD text.length < text.length →
        answer onPage ⟨bench, .blank limit⟩ = .error (.io .sinkFull) ∧
          ∃ accepted refused rest, log.sink.events = accepted ++ refused :: rest ∧
            (reportBytes accepted).length ≤ limit.getD text.length ∧
            limit.getD text.length < (reportBytes (accepted ++ [refused])).length ∧
            page.sink.flushes = accepted.length ∧
            run.Halted bench.rig (Plan.cells run.settings) accepted refused page.bench.rig) := by
  intro onLog onPage log page text
  rcases run.execute_page bench limit with
    ⟨hanswer, hrig, hshowing, hfits⟩ |
      ⟨hanswer, accepted, refused, rest, hevents, hrefused, hhalted⟩
  · have hall : text.length ≤ limit.getD text.length := hfits.length_le
    refine ⟨?_, fun _ => ⟨hanswer, hrig⟩, fun hfull => absurd hall (Nat.not_le.mpr hfull)⟩
    rw [List.take_of_length_le hall]
    exact congrArg Page.written hshowing
  · generalize page.sink = paper at hrefused ⊢
    obtain ⟨hlimit, haccepted, hfull⟩ := hrefused
    have htext : text = reportBytes (accepted ++ [refused]) ++ reportBytes rest := by
      rw [← reportBytes_append, ← List.append_cons, ← hevents]
    have hlonger : limit.getD text.length < text.length := by
      rw [hlimit, Option.getD_some, htext, List.length_append]
      exact Nat.lt_add_right _ hfull
    refine ⟨?_, fun hall => absurd hlonger (Nat.not_lt.mpr hall),
      fun _ => ⟨hanswer, accepted, refused, rest, hevents, ?_, ?_, rfl, hhalted⟩⟩
    · rw [hlimit, Option.getD_some, htext, List.take_append_of_le_length (Nat.le_of_lt hfull)]
    · rwa [hlimit]
    · rwa [hlimit]

/-- A page with room for five bytes, on which the only cell fails. -/
theorem page_agrees_with_log_cramped :
    5 < (reportBytes (leaves (onPage.withSink EventLog.sink).execute
        ⟨cramped.bench, []⟩).sink.events).length ∧
      answer onPage.execute cramped = .error (.io .sinkFull) := by
  have hlong : 5 < (reportBytes (leaves (onPage.withSink EventLog.sink).execute
      ⟨cramped.bench, []⟩).sink.events).length := by decide +kernel
  exact ⟨hlong, ((page_agrees_with_log onPage cramped.bench (some 5)).2.2 hlong).1⟩

/-! ## Pages without a limit -/

/-- How cells in turn end, what they report and what they leave: all of them succeed, or one fails
after those before it. -/
inductive Ends (run : SweepRun σ τ) (rig : Rig σ) (cells : List Cell) :
    Except Fault Nat → List (CellId × Event) → Rig σ → Prop where
  | completed {events : List (CellId × Event)} {after : Rig σ}
      (hall : Completed run rig cells events after) :
      Ends run rig cells (.ok cells.length) events after
  | failed {before rest : List Cell} {cell : Cell} {mid left : Rig σ} {fault : Fault}
      {events : List (CellId × Event)} (hsplit : cells = before ++ cell :: rest)
      (hbefore : Completed run rig before events mid)
      (hfails : run.alone cell mid = .error fault left) :
      Ends run rig cells (.error fault) (events ++ run.lastReports cell fault) left

theorem Ends.cons {rest : List Cell} {tally : Tally} {outcome : Except Fault Nat}
    {events : List (CellId × Event)} {left : Rig σ} (halone : run.alone cell rig = .ok tally mid)
    (hends : Ends run mid rest outcome events left) :
    Ends run rig (cell :: rest) (outcome.map (· + 1)) (run.successEvents cell tally ++ events)
      left := by
  cases hends with
  | completed hall => exact .completed (.cons halone hall)
  | failed hsplit hbefore hfails =>
      rw [← List.append_assoc]
      exact .failed (congrArg (cell :: ·) hsplit) (.cons halone hbefore) hfails

/-- A page without a limit takes all reports. -/
theorem briefCells_unlimited (run : SweepRun σ τ) (cells : List Cell) (done : Nat) (rig : Rig σ)
    (events : List (CellId × Event)) :
    ∃ outcome reports left, Ends run rig cells outcome reports left ∧
      (run.withSink Page.sink).briefCells cells done (rig, .showing none events) =
        match outcome with
        | .ok n => .ok (done + n) (left, .showing none (events ++ reports))
        | .error fault => .error fault (left, .showing none (events ++ reports)) := by
  induction cells generalizing done rig events with
  | nil =>
      refine ⟨_, _, _, .completed (.nil rig), ?_⟩
      rw [List.append_nil]
      rfl
  | cons cell rest ih =>
      have hfits : Page.Fits none (events ++ run.reports cell rig) := nofun
      have hcell := run.briefCell_page hfits
      simp only [briefCells, Bind.bind, EStateM.bind]
      cases halone : run.alone cell rig with
      | ok tally mid =>
          simp only [halone, leaves, reports] at hcell
          obtain ⟨outcome, later, left, hends, hrest⟩ :=
            ih (done + 1) mid (events ++ run.successEvents cell tally)
          refine ⟨_, _, left, hends.cons halone, ?_⟩
          simp only [hcell, hrest, List.append_assoc]
          cases outcome with
          | ok n => simp only [Except.map, Nat.add_assoc, Nat.add_comm 1 n]
          | error fault => rfl
      | error fault left =>
          simp only [halone, leaves, reports] at hcell
          refine ⟨_, _, left, .failed (List.nil_append _).symm (.nil rig) halone, ?_⟩
          simp only [hcell, List.nil_append]

/-- So a sweep on such a page reports its cells in order, up to the first that fails. -/
theorem execute_unlimited (run : SweepRun σ τ) (bench : Workbench σ) :
    let onPage := (run.withSink Page.sink).execute
    ∃ outcome reports left, Ends run bench.rig (Plan.cells run.settings) outcome reports left ∧
      answer onPage ⟨bench, .blank none⟩ = outcome ∧
      (leaves onPage ⟨bench, .blank none⟩).sink = .showing none reports := by
  intro onPage
  have hanswer : answer onPage _ = _ :=
    (run.withSink Page.sink).answer_execute_brief ⟨bench, .blank none⟩
  have hleaves : Brief (leaves onPage _) _ :=
    (run.withSink Page.sink).leaves_execute_brief ⟨bench, .blank none⟩
  obtain ⟨outcome, reports, left, hends, hrun⟩ :=
    run.briefCells_unlimited (Plan.cells run.settings) 0 bench.rig []
  change (run.withSink Page.sink).briefCells _ _ (bench.rig, .blank none) = _ at hrun
  have hbrief : answer ((run.withSink Page.sink).briefCells (Plan.cells run.settings) 0)
      (bench.rig, .blank none) = outcome := by
    rw [answer, hrun]
    cases outcome with
    | ok n => exact congrArg Except.ok (Nat.zero_add n)
    | error fault => rfl
  have hpage : (leaves ((run.withSink Page.sink).briefCells (Plan.cells run.settings) 0)
      (bench.rig, .blank none)).2 = .showing none reports := by
    rw [leaves, hrun]
    cases outcome with
    | ok n => rfl
    | error fault => rfl
  exact ⟨outcome, reports, left, hends, hanswer.trans hbrief, hleaves.sink.trans hpage⟩

end Page

end SweepRun
end RoundTrip
