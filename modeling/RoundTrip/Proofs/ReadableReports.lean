import Mathlib
import RoundTrip.Proofs.PageReports

/-!
# Reports can be read back

The label and the file name of a report may be any text, but they are the same on
all lines of a run.  Between them a line holds words that end at a character they
cannot contain: a codec's name at the dash, a level at the bracket, a figure at
the space, a size at the comma.  So a reader who knows the label and the file
name tells from the beginning of a text what was reported first, and where the
next report starts.
-/

namespace RoundTrip

variable {α β : Type}

/-! ## Texts that can be read back -/

namespace Text

/-- Whatever follows what was written, it shows what it was written from, up to `Same`, and where
it ends. -/
def Legible (write : α → List Char) (Same : α → α → Prop) : Prop :=
  ∀ a b rest rest', write a ++ rest = write b ++ rest' ↔ Same a b ∧ rest = rest'

/-- Where a word ends at a character that it cannot contain, the word and the rest are plain. -/
theorem append_cons_inj_of_not_mem {x : α} {front front' rest rest' : List α} (h : x ∉ front)
    (h' : x ∉ front') :
    front ++ x :: rest = front' ++ x :: rest' ↔ front = front' ∧ rest = rest' := by
  constructor
  · intro heq
    -- If one word were longer, the character at which the other ends would be in it.
    rcases List.append_eq_append_iff.mp heq with ⟨between, hfront, hrest⟩ | ⟨between, hfront, hrest⟩
    · cases between with
      | nil =>
          rw [List.append_nil] at hfront
          exact ⟨hfront.symm, (List.cons.inj hrest).2⟩
      | cons y between =>
          obtain rfl := (List.cons.inj hrest).1
          exact absurd (hfront ▸ List.mem_append_right _ List.mem_cons_self) h'
    · cases between with
      | nil =>
          rw [List.append_nil] at hfront
          exact ⟨hfront, (List.cons.inj hrest).2.symm⟩
      | cons y between =>
          obtain rfl := (List.cons.inj hrest).1
          exact absurd (hfront ▸ List.mem_append_right _ List.mem_cons_self) h
  · rintro ⟨rfl, rfl⟩
    rfl

namespace Legible

variable {write write' : α → List Char} {Same Same' : α → α → Prop}

/-- A fixed text in front shows nothing. -/
theorem behind (text : List Char) (hwrite : Legible write Same) :
    Legible (fun a => text ++ write a) Same := by
  intro a b rest rest'
  rw [List.append_assoc, List.append_assoc, List.append_right_inj, hwrite]

/-- Nor does one at the end. -/
theorem before (hwrite : Legible write Same) (text : List Char) :
    Legible (fun a => write a ++ text) Same := by
  intro a b rest rest'
  rw [List.append_assoc, List.append_assoc, hwrite, List.append_right_inj]

/-- A word shows itself where it ends at a character that it cannot contain. -/
theorem endingAt {word : α → List Char} {stop : Char} (hfree : ∀ a, stop ∉ word a) :
    Legible (fun a => word a ++ [stop]) fun a b => word a = word b := by
  intro a b rest rest'
  rw [List.append_assoc, List.append_assoc]
  exact append_cons_inj_of_not_mem (hfree a) (hfree b)

/-- One text after another shows what both show. -/
theorem append (hfirst : Legible write Same) (hsecond : Legible write' Same') :
    Legible (fun a => write a ++ write' a) fun a b => Same a b ∧ Same' a b := by
  intro a b rest rest'
  rw [List.append_assoc, List.append_assoc, hfirst, hsecond, and_assoc]

theorem congr (hwrite : Legible write Same) (htext : ∀ a, write' a = write a)
    (hsame : ∀ a b, Same' a b ↔ Same a b) : Legible write' Same' := by
  intro a b rest rest'
  rw [htext, htext, hsame, hwrite]

/-- A part that is written shows that part. -/
theorem comap (hwrite : Legible write Same) (part : β → α) :
    Legible (fun b => write (part b)) fun a b => Same (part a) (part b) :=
  fun a b => hwrite (part a) (part b)

/-- Of texts in a row, none of them empty, each one shows what it shows alone. -/
theorem flatMap_eq_iff (hwrite : Legible write Same) (hsome : ∀ a, write a ≠ []) (as bs : List α) :
    as.flatMap write = bs.flatMap write ↔ List.Forall₂ Same as bs := by
  induction as generalizing bs with
  | nil =>
      cases bs with
      | nil => simp
      | cons b bs => simp [hsome]
  | cons a as ih =>
      cases bs with
      | nil => simp [hsome]
      | cons b bs => rw [List.flatMap_cons, List.flatMap_cons, hwrite, ih, List.forall₂_cons]

end Legible

theorem utf8_inj {a b : String} : utf8 a = utf8 b ↔ a = b := by
  rw [utf8, utf8, Array.toList_inj, ByteArray.ext_iff.symm, String.toUTF8_eq_toByteArray,
    String.toUTF8_eq_toByteArray, String.toByteArray_inj]

end Text

/-! ## Words -/

section Words

variable {c : Char}

theorem Codec.dash_not_mem_name (codec : Codec) : '-' ∉ codec.name.toList := by
  cases codec <;> decide

theorem Codec.name_inj {codec codec' : Codec} : codec.name = codec'.name ↔ codec = codec' := by
  cases codec <;> cases codec' <;> decide

theorem isDigit_of_mem_repr {n : Nat} (hc : c ∈ (toString n).toList) : c.isDigit = true := by
  rw [Nat.toString_eq_repr, Nat.toList_repr] at hc
  exact Nat.isDigit_of_mem_toDigits (by omega) (by omega) hc

theorem isDigit_or_dash_of_mem_repr {level : Int} (hc : c ∈ (toString level).toList) :
    c.isDigit = true ∨ c = '-' := by
  cases level with
  | ofNat n => exact .inl (isDigit_of_mem_repr hc)
  | negSucc n =>
      change c ∈ ("-" ++ (n + 1).repr).toList at hc
      rw [String.toList_append, List.mem_append] at hc
      rcases hc with hdash | hdigit
      · exact .inr (by simpa using hdash)
      · exact .inl (isDigit_of_mem_repr (n := n + 1) hdigit)

namespace Figure

/-- What a figure is written with. -/
def IsMark (c : Char) : Prop := c.isDigit = true ∨ c ∈ ['-', '.', 'i', 'n', 'f', 'N', 'a']

theorem isMark_of_mem_decimals {f : Figure} (hc : c ∈ f.decimals.toList) : IsMark c := by
  simp only [decimals, String.toList_append, List.mem_append] at hc
  rcases hc with ((hwhole | hpoint) | hpad) | hcents
  · exact .inl (isDigit_of_mem_repr hwhole)
  · obtain rfl : c = '.' := by simpa [toString] using hpoint
    exact .inr (by simp)
  · left
    split at hpad <;> simp_all
  · exact .inl (isDigit_of_mem_repr hcents)

theorem isMark_of_mem_text {f : Figure} (hc : c ∈ f.text.toList) : IsMark c := by
  have hsign (hc : c ∈ (if f.negative then "-" else "").toList) : IsMark c := by
    right
    split at hc <;> simp_all
  simp only [text] at hc
  by_cases hexponent : f.exponent = 2047
  · rw [if_pos hexponent] at hc
    by_cases hfraction : f.fraction = 0
    · rw [if_pos hfraction, String.toList_append, List.mem_append] at hc
      rcases hc with hminus | hinf
      · exact hsign hminus
      · right
        simp only [String.reduceToList, List.mem_cons] at hinf ⊢
        grind
    · rw [if_neg hfraction] at hc
      right
      simp only [String.reduceToList, List.mem_cons] at hc ⊢
      grind
  · rw [if_neg hexponent, String.toList_append, List.mem_append] at hc
    rcases hc with hminus | hdecimals
    · exact hsign hminus
    · exact isMark_of_mem_decimals hdecimals

/-- So it ends where a space, a comma or a line break follows it. -/
theorem not_mem_text {f : Figure} (hstop : c = ' ' ∨ c = ',' ∨ c = '\n') : c ∉ f.text.toList := by
  intro hc
  have hmark := isMark_of_mem_text hc
  rcases hstop with rfl | rfl | rfl <;> simp [IsMark] at hmark

end Figure
end Words

/-! ## Lines -/

open Text

/-- Nothing that is printed tells the two apart. -/
structure DirectionSummary.SamePrint (s t : DirectionSummary) : Prop where
  averageSpeed : s.averageSpeed.text = t.averageSpeed.text
  averageTime : s.averageTime.text = t.averageTime.text
  size : s.size = t.size
  bestSpeed : s.bestSpeed.text = t.bestSpeed.text
  bestTime : s.bestTime.text = t.bestTime.text

structure Summary.SamePrint (s t : Summary) : Prop where
  compress : s.compress.SamePrint t.compress
  decompress : s.decompress.SamePrint t.decompress
  ratio : s.ratio.text = t.ratio.text

namespace Event

/-- The same outcome, with the same figures where it has any. -/
def SamePrint : Event → Event → Prop
  | .verification passed, .verification passed' => passed = passed'
  | .failure direction, .failure direction' => direction = direction'
  | .statistics summary, .statistics summary' => summary.SamePrint summary'
  | _, _ => False

/-- What a text says after the name of its cell. -/
def outcome : Event → String
  | .verification passed => " verification: " ++ (if passed then "passed" else "failed") ++ "\n"
  | .failure direction => " " ++ direction.title ++ ": failed\n"
  | .statistics summary =>
      " -------------------------------------\n" ++ directionLine .compress summary.compress ++
        directionLine .decompress summary.decompress ++ ratioLine summary.ratio

@[simp]
theorem outcome_verification (passed : Bool) :
    (verification passed).outcome =
      " verification: " ++ (if passed then "passed" else "failed") ++ "\n" := rfl

@[simp]
theorem outcome_failure (direction : Direction) :
    (failure direction).outcome = " " ++ direction.title ++ ": failed\n" := rfl

@[simp]
theorem outcome_statistics (summary : Summary) :
    (statistics summary).outcome =
      " -------------------------------------\n" ++ directionLine .compress summary.compress ++
        directionLine .decompress summary.decompress ++ ratioLine summary.ratio := rfl

theorem text_eq (cell : CellId) (event : Event) :
    event.text cell = cell.text ++ event.outcome := by
  cases event with
  | verification passed => simp only [text, outcome_verification, String.append_assoc]
  | failure direction => simp only [text, outcome_failure, String.append_assoc]
  | statistics summary => simp only [text, outcome_statistics, String.append_assoc]

end Event

theorem legible_figure (stop : Char) (hstop : stop = ' ' ∨ stop = ',' ∨ stop = '\n') :
    Legible (fun f : Figure => f.text.toList ++ [stop]) fun f g => f.text = g.text :=
  (Legible.endingAt fun _ => Figure.not_mem_text hstop).congr (fun _ => rfl) fun _ _ =>
    String.toList_inj.symm

theorem legible_size :
    Legible (fun n : Nat => (toString n).toList ++ [',']) fun n m => n = m := by
  refine (Legible.endingAt fun n hcomma => ?_).congr (fun _ => rfl) fun n m => ?_
  · have hdigit := isDigit_of_mem_repr hcomma
    contradiction
  · rw [String.toList_inj, Nat.toString_eq_repr, Nat.toString_eq_repr, Nat.repr_inj]

theorem legible_level :
    Legible (fun level : Int => (toString level).toList ++ [']']) fun level level' =>
      level = level' := by
  refine (Legible.endingAt fun level hbracket => ?_).congr (fun _ => rfl) fun level level' => ?_
  · rcases isDigit_or_dash_of_mem_repr hbracket with hdigit | hdash <;> contradiction
  · rw [String.toList_inj]
    exact Int.repr_inj.symm

theorem legible_codec :
    Legible (fun codec : Codec => codec.name.toList ++ ['-']) fun codec codec' => codec = codec' :=
  (Legible.endingAt Codec.dash_not_mem_name).congr (fun _ => rfl) fun _ _ => by
    rw [String.toList_inj, Codec.name_inj]

theorem legible_directionLine (direction : Direction) :
    Legible (fun s => (Event.directionLine direction s).toList) DirectionSummary.SamePrint := by
  have hfigure (part : DirectionSummary → Figure) :=
    (legible_figure ' ' (.inl rfl)).comap part
  have hbest := ((hfigure DirectionSummary.bestSpeed).before "MB/s, time(best) ".toList).append
    ((hfigure DirectionSummary.bestTime).before "ms\n".toList)
  have hsize := ((legible_size.comap DirectionSummary.size).before " speed(best) ".toList).append
    hbest
  have haverage := ((hfigure DirectionSummary.averageSpeed).before "MB/s, time(avg) ".toList).append
    (((hfigure DirectionSummary.averageTime).before "ms, size ".toList).append hsize)
  refine (haverage.behind (Event.heading direction.title ++ "speed(avg) ").toList).congr
    (fun s => ?_) fun s t => ?_
  · simp [Event.directionLine, toString]
  · exact ⟨fun ⟨hspeed, htime, hsize, hbestSpeed, hbestTime⟩ =>
      ⟨hspeed, htime, hsize, hbestSpeed, hbestTime⟩,
      fun ⟨hspeed, htime, hsize, hbestSpeed, hbestTime⟩ =>
      ⟨hspeed, htime, hsize, hbestSpeed, hbestTime⟩⟩

theorem legible_ratioLine :
    Legible (fun f => (Event.ratioLine f).toList) fun f g => f.text = g.text := by
  refine ((legible_figure '\n' (.inr (.inr rfl))).behind
    (Event.heading "Ratio").toList).congr (fun f => ?_) fun _ _ => Iff.rfl
  simp [Event.ratioLine]

theorem legible_statistics :
    Legible (fun s => (Event.statistics s).outcome.toList) Summary.SamePrint := by
  have hlines := ((legible_directionLine .compress).comap Summary.compress).append
    (((legible_directionLine .decompress).comap Summary.decompress).append
      (legible_ratioLine.comap Summary.ratio))
  refine (hlines.behind " -------------------------------------\n".toList).congr (fun s => ?_)
    fun s t => ?_
  · simp only [Event.outcome_statistics, String.toList_append, List.append_assoc]
  · exact ⟨fun ⟨hcompress, hdecompress, hratio⟩ => ⟨hcompress, hdecompress, hratio⟩,
      fun ⟨hcompress, hdecompress, hratio⟩ => ⟨hcompress, hdecompress, hratio⟩⟩

/-- The second character tells the kinds of outcome apart, and the first letter the directions. -/
theorem legible_outcome : Legible (fun event => event.outcome.toList) Event.SamePrint := by
  intro event event' rest rest'
  cases event with
  | verification passed =>
      cases event' with
      | verification passed' => cases passed <;> cases passed' <;> simp [Event.SamePrint]
      | failure direction => cases direction <;> simp [Event.SamePrint, Direction.title]
      | statistics summary => simp [Event.SamePrint]
  | failure direction =>
      cases event' with
      | verification passed => cases direction <;> simp [Event.SamePrint, Direction.title]
      | failure direction' =>
          cases direction <;> cases direction' <;> simp [Event.SamePrint, Direction.title]
      | statistics summary => cases direction <;> simp [Event.SamePrint, Direction.title]
  | statistics summary =>
      cases event' with
      | verification passed => simp [Event.SamePrint]
      | failure direction => cases direction <;> simp [Event.SamePrint, Direction.title]
      | statistics summary' => exact legible_statistics summary summary' rest rest'

/-! ## Pages -/

/-- A report of a run, whose label and file name are those of all its reports. -/
structure Report where
  codec : Codec
  level : Int
  event : Event

namespace Report

def cell (label fileName : String) (r : Report) : CellId := ⟨label, r.codec, r.level, fileName⟩

/-- The same cell, and an outcome that is printed alike. -/
structure SamePrint (r r' : Report) : Prop where
  codec : r.codec = r'.codec
  level : r.level = r'.level
  event : r.event.SamePrint r'.event

/-- What the reports of a run leave on a page without a limit. -/
def written (label fileName : String) (reports : List Report) : List UInt8 :=
  (leaves (forM reports fun r => Page.sink.emit (r.cell label fileName) r.event)
    (Page.blank none)).written

end Report

theorem legible_report (label fileName : String) :
    Legible (fun r : Report => (r.event.text (r.cell label fileName)).toList)
      Report.SamePrint := by
  have hcell := ((legible_codec.comap Report.codec).append
    ((legible_level.comap Report.level).before s!" [Filename:{fileName}]".toList)).behind
      (label ++ " [").toList
  refine (hcell.append (legible_outcome.comap Report.event)).congr (fun r => ?_) fun r r' => ?_
  · simp [Event.text_eq, Report.cell, CellId.text, toString]
  · exact ⟨fun ⟨hcodec, hlevel, hevent⟩ => ⟨⟨hcodec, hlevel⟩, hevent⟩,
      fun ⟨⟨hcodec, hlevel⟩, hevent⟩ => ⟨hcodec, hlevel, hevent⟩⟩

theorem Event.text_ne_nil (cell : CellId) (event : Event) : (event.text cell).toList ≠ [] := by
  rw [text_eq]
  cases event <;> simp

theorem reportBytes_eq (events : List (CellId × Event)) :
    reportBytes events =
      utf8 (String.ofList (events.flatMap fun e => (e.2.text e.1).toList)) := by
  induction events with
  | nil => rfl
  | cons e rest ih =>
      rw [List.flatMap_cons, String.ofList_append, utf8_append, String.ofList_toList, ← ih]
      rfl

namespace Report

/-- The report as a sink is given it. -/
def given (label fileName : String) (r : Report) : CellId × Event :=
  (r.cell label fileName, r.event)

/-- A page without a limit takes every report. -/
theorem forM_emit (label fileName : String) (reports : List Report)
    (events : List (CellId × Event)) :
    forM reports (fun r => Page.sink.emit (r.cell label fileName) r.event)
        (.showing none events) =
      .ok () (Page.showing none (events ++ reports.map (given label fileName))) := by
  induction reports generalizing events with
  | nil =>
      rw [List.map_nil, List.append_nil]
      rfl
  | cons r rest ih =>
      have hemit : Page.sink.emit (r.cell label fileName) r.event (.showing none events) =
          .ok () (.showing none (events ++ [given label fileName r])) := Page.emit_of_fits nofun
      simp only [List.forM_cons, Bind.bind, EStateM.bind, hemit]
      rw [ih, List.map_cons, List.append_assoc]
      rfl

/-- It holds their texts, one after another. -/
theorem written_eq (label fileName : String) (reports : List Report) :
    written label fileName reports = utf8 (String.ofList
      (reports.flatMap fun r => (r.event.text (r.cell label fileName)).toList)) := by
  have hall := forM_emit label fileName reports []
  rw [List.nil_append] at hall
  have hbytes : written label fileName reports =
      reportBytes (reports.map (given label fileName)) := by
    rw [written, leaves, show Page.blank none = .showing none [] from rfl, hall]
    rfl
  rw [hbytes, reportBytes_eq, List.flatMap_map]
  rfl

/-- Whatever the label and the file name of a run are, what it wrote shows its reports: two
sequences of reports leave the same bytes on a page exactly where they are of one length and, one by
one, of the same codec, level and outcome, with the same sizes and the same figures in print. -/
theorem written_eq_iff (label fileName : String) (reports reports' : List Report) :
    written label fileName reports = written label fileName reports' ↔
      List.Forall₂ SamePrint reports reports' := by
  rw [written_eq, written_eq, utf8_inj, String.ofList_inj]
  exact (legible_report label fileName).flatMap_eq_iff
    (fun r => r.event.text_ne_nil (r.cell label fileName)) reports reports'

end Report

end RoundTrip
