import RoundTrip.Proofs.ConfigurationFaults

/-!
# Directory names

A file name can follow a directory's name that is empty or ends in a slash.  Any
other name is closed with a slash, and a name is taken exactly if its closed form
leaves room for a terminator.  A closed name closes as itself, so a name that was
taken is taken again as it stands.
-/

namespace RoundTrip

namespace LibraryDir

/-- A file name can follow: there is no directory, or a slash after it. -/
def Closed (name : String) : Prop := name = "" ∨ ∃ stem, name = stem ++ "/"

theorem endsInSlash_iff {name : String} : endsInSlash name ↔ ∃ stem, name = stem ++ "/" := by
  rw [endsInSlash, beq_iff_eq, List.getLast?_eq_some_iff]
  constructor
  · rintro ⟨stem, hstem⟩
    refine ⟨.ofList stem, String.toList_inj.mp ?_⟩
    rw [hstem, String.toList_append, String.toList_ofList]
    rfl
  · rintro ⟨stem, rfl⟩
    exact ⟨stem.toList, String.toList_append⟩

theorem closed_iff {name : String} : Closed name ↔ (name.isEmpty || endsInSlash name) = true := by
  rw [Closed, Bool.or_eq_true, String.isEmpty_iff, endsInSlash_iff]

instance (name : String) : Decidable (Closed name) := decidable_of_iff _ closed_iff.symm

/-- The form of a name that a file name can follow. -/
def closedForm (name : String) : String := if Closed name then name else name ++ "/"

theorem withSlash_eq_closedForm (name : String) : withSlash name = closedForm name := by
  rw [withSlash, closedForm]
  simp only [closed_iff]

theorem closedForm_of_closed {name : String} (hclosed : Closed name) : closedForm name = name :=
  if_pos hclosed

theorem closedForm_of_open {name : String} (hopen : ¬ Closed name) :
    closedForm name = name ++ "/" :=
  if_neg hopen

theorem closed_append (stem : String) : Closed (stem ++ "/") := .inr ⟨stem, rfl⟩

theorem closed_closedForm (name : String) : Closed (closedForm name) := by
  rw [closedForm]
  split
  · assumption
  · exact closed_append name

theorem closedForm_idem (name : String) : closedForm (closedForm name) = closedForm name :=
  closedForm_of_closed (closed_closedForm name)

/-- A slash that is missing may as well be given. -/
theorem closedForm_append {name : String} (hopen : ¬ Closed name) :
    closedForm (name ++ "/") = closedForm name := by
  rw [closedForm_of_closed (closed_append name), closedForm_of_open hopen]

theorem closedForm_eq_empty_iff {name : String} : closedForm name = "" ↔ name = "" := by
  rw [closedForm]
  split
  · exact Iff.rfl
  · rename_i hopen
    exact ⟨fun hempty => absurd (String.append_eq_empty_iff.mp hempty).2 (by decide),
      fun hempty => absurd (.inl hempty) hopen⟩

theorem fits_iff_closedForm {name : String} :
    Fits name ↔ (closedForm name).utf8ByteSize + 1 ≤ 128 := by
  rw [Fits, withSlash_eq_closedForm, maxDirectoryName]

theorem answer_ofName_closedForm (name : String) (console : Console) :
    answer (ofName name) console =
      if (closedForm name).utf8ByteSize + 1 ≤ 128 then .ok ⟨closedForm name⟩
      else .error (.libraryDirTooLong name.utf8ByteSize 128) := by
  rw [answer_ofName, withSlash_eq_closedForm, maxDirectoryName]
  simp only [fits_iff_closedForm]

theorem answer_ofName_eq_ok_iff {name : String} {console : Console} {dir : LibraryDir} :
    answer (ofName name) console = .ok dir ↔
      (closedForm name).utf8ByteSize + 1 ≤ 128 ∧ ⟨closedForm name⟩ = dir := by
  rw [answer_ofName_closedForm]
  split
  · rename_i hfits
    rw [Except.ok.injEq, and_iff_right hfits]
  · rename_i hlong
    exact ⟨nofun, fun htaken => absurd htaken.1 hlong⟩

/-- Whether a name is taken, and as what, depends on its closed form alone. -/
theorem answer_ofName_congr {name other : String} (hform : closedForm name = closedForm other)
    {console later : Console} {dir : LibraryDir} :
    answer (ofName name) console = .ok dir ↔ answer (ofName other) later = .ok dir := by
  rw [answer_ofName_eq_ok_iff, answer_ofName_eq_ok_iff, hform]

/-- A name is taken in its closed form if that leaves room for a terminator, and is
refused with its own length otherwise.  What was taken is taken again, it is the
default search path only where no name was given, and a missing slash may be given. -/
theorem ofName_closes (name : String) (console : Console) :
    (answer (ofName name) console =
      if (closedForm name).utf8ByteSize + 1 ≤ 128 then .ok ⟨closedForm name⟩
      else .error (.libraryDirTooLong name.utf8ByteSize 128)) ∧
    (∀ dir, answer (ofName name) console = .ok dir →
      ∀ later, answer (ofName dir.path) later = .ok dir) ∧
    (answer (ofName name) console = .ok searchPath ↔ name = "") ∧
    (¬ Closed name → ∀ dir later,
      answer (ofName (name ++ "/")) later = .ok dir ↔ answer (ofName name) console = .ok dir) := by
  refine ⟨answer_ofName_closedForm name console, ?_, ?_, ?_⟩
  · intro dir htaken later
    obtain ⟨-, rfl⟩ := answer_ofName_eq_ok_iff.mp htaken
    exact (answer_ofName_congr (closedForm_idem name).symm).mp htaken
  · rw [answer_ofName_eq_ok_iff, searchPath, LibraryDir.mk.injEq, closedForm_eq_empty_iff]
    constructor
    · exact And.right
    · rintro rfl
      exact ⟨by decide, rfl⟩
  · intro hopen dir later
    exact answer_ofName_congr (closedForm_append hopen)

/-- Sixty-three characters of two bytes each are the longest name that has no slash yet. -/
theorem ofName_closes_accents :
    let name := String.ofList (List.replicate 63 'é')
    let console := Console.ofThreshold 1
    (¬ Closed name ∧ answer (ofName name) console = .ok ⟨name ++ "/"⟩) ∧
      answer (ofName (name ++ "/")) console = .ok ⟨name ++ "/"⟩ := by
  intro name console
  obtain ⟨-, -, -, hgiven⟩ := ofName_closes name console
  have hopen : ¬ Closed name := by decide +kernel
  have htaken : answer (ofName name) console = .ok ⟨name ++ "/"⟩ := by decide +kernel
  exact ⟨⟨hopen, htaken⟩, (hgiven hopen _ console).mpr htaken⟩

end LibraryDir

end RoundTrip
