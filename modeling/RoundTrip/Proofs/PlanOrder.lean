import RoundTrip.Plan

/-!
# The order of a plan

The levels of each engine ascend, and no engine comes back once another one has
followed it.  So a planned cell is known by its codec and its level.
-/

namespace RoundTrip

theorem levelsFrom_pairwise (low high : Int) : (levelsFrom low high).Pairwise (· < ·) := by
  rw [levelsFrom, List.pairwise_map]
  refine List.pairwise_lt_range.imp ?_
  intro a b hlt
  omega

theorem mem_levelsFrom {low high level : Int} :
    level ∈ levelsFrom low high ↔ low ≤ level ∧ level ≤ high := by
  rw [levelsFrom, List.mem_map]
  constructor
  · rintro ⟨n, hn, rfl⟩
    have hn := List.mem_range.mp hn
    omega
  · rintro ⟨hlow, hhigh⟩
    exact ⟨(level - low).toNat, List.mem_range.mpr (by omega), by omega⟩

theorem Engine.codec_injective {a b : Engine} (hcodec : a.codec = b.codec) : a = b := by
  have hsome := Codec.engine?_codec a
  rw [hcodec, Codec.engine?_codec] at hsome
  exact (Option.some.inj hsome).symm

namespace Plan

theorem engine_of_mem_cellsOf {s : Settings} {engine : Engine} {cell : Cell}
    (hcell : cell ∈ cellsOf s engine) : cell.engine = engine := by
  obtain ⟨level, -, rfl⟩ := List.mem_map.mp hcell
  rfl

theorem engines_nodup (s : Settings) : (s.selected.filterMap Codec.engine?).Nodup := by
  cases hselection : s.selection with
  | all =>
      rw [Settings.selected, hselection]
      decide
  | single codec =>
      rw [Settings.selected, hselection]
      cases codec <;> decide

/-- A cell is planned for every level in the range of a selected codec, with the extra parameter
for that codec. -/
theorem mem_cells {s : Settings} {cell : Cell} :
    cell ∈ cells s ↔ cell.codec ∈ s.selected ∧
      ((s.levelRange cell.codec).1 ≤ cell.level ∧ cell.level ≤ (s.levelRange cell.codec).2) ∧
      cell.extra = s.extraFor cell.codec := by
  constructor
  · intro hcell
    obtain ⟨engine, hengine, hlevel⟩ := List.mem_flatMap.mp hcell
    obtain ⟨codec, hselected, hsome⟩ := List.mem_filterMap.mp hengine
    obtain ⟨level, hrange, rfl⟩ := List.mem_map.mp hlevel
    obtain rfl := Codec.codec_of_engine? hsome
    exact ⟨hselected, mem_levelsFrom.mp hrange, rfl⟩
  · rintro ⟨hselected, hrange, hextra⟩
    have hengine : cell.engine ∈ s.selected.filterMap Codec.engine? :=
      List.mem_filterMap.mpr ⟨_, hselected, Codec.engine?_codec cell.engine⟩
    refine List.mem_flatMap.mpr ⟨cell.engine, hengine, List.mem_map.mpr
      ⟨cell.level, mem_levelsFrom.mpr hrange, ?_⟩⟩
    exact congrArg (Cell.mk cell.engine cell.level) hextra.symm

/-- Of two cells with one engine, the earlier one has the lower level. -/
theorem cells_pairwise (s : Settings) :
    (cells s).Pairwise fun a b => a.engine = b.engine → a.level < b.level := by
  rw [cells, List.pairwise_flatMap]
  refine ⟨fun engine _ => ?_, (engines_nodup s).imp ?_⟩
  · rw [cellsOf, List.pairwise_map]
    refine (levelsFrom_pairwise _ _).imp ?_
    intro low high hlt _
    exact hlt
  · intro first second hne a ha b hb hengine
    rw [engine_of_mem_cellsOf ha, engine_of_mem_cellsOf hb] at hengine
    exact absurd hengine hne

/-- No two planned cells have the same codec and the same level. -/
theorem eq_of_same {s : Settings} {i j : Nat} {a b : Cell} (ha : (cells s)[i]? = some a)
    (hb : (cells s)[j]? = some b) (hcodec : a.codec = b.codec) (hlevel : a.level = b.level) :
    i = j := by
  have hengine : a.engine = b.engine := Engine.codec_injective hcodec
  obtain ⟨hi, rfl⟩ := List.getElem?_eq_some_iff.mp ha
  obtain ⟨hj, rfl⟩ := List.getElem?_eq_some_iff.mp hb
  have hordered := List.pairwise_iff_getElem.mp (cells_pairwise s)
  rcases Nat.lt_trichotomy i j with hlt | heq | hgt
  · have := hordered i j hi hj hlt hengine
    omega
  · exact heq
  · have := hordered j i hj hi hgt hengine.symm
    omega

end Plan
end RoundTrip
