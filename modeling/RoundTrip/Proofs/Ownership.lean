import Mathlib.Data.List.Nodup
import RoundTrip.Context
import RoundTrip.Proofs.StepLogic

/-!
# Who owns an open library

A library is opened for a slot, shared by the slots of engines that live in one
file, and closed when the last of them lets it go.  The loader's ledger is kept
against the set of the libraries that are held: what was opened is closed, once,
or held.  Between two operations the slots hold them all; inside one there may be
a library that is open and in no slot yet.
-/

namespace RoundTrip

/-! ## The ledger of the loader -/

namespace Loader

/-- Every library that was opened is closed, once, or one of those held. -/
structure Ledger (loader : Loader) (held : Library → Prop) : Prop where
  closed_once : loader.closed.Nodup
  /-- Two libraries that are held differ in their numbers. -/
  apart : ∀ l k, held l → held k → l.id = k.id → l = k
  opened_iff : ∀ i, i < loader.opened ↔ i ∈ loader.closed ∨ ∃ l, held l ∧ l.id = i
  not_closed : ∀ l, held l → l.id ∉ loader.closed
  mem_current : ∀ l, l ∈ loader.current ↔ held l

namespace Ledger

variable {loader : Loader} {held held' : Library → Prop}

theorem fresh (files : FileSystem) : (Loader.ofFiles files).Ledger fun _ => False where
  closed_once := List.nodup_nil
  apart := nofun
  opened_iff := by simp [ofFiles]
  not_closed := nofun
  mem_current := by simp [ofFiles]

theorem congr (hledger : loader.Ledger held) (hsame : ∀ l, held l ↔ held' l) :
    loader.Ledger held' := by
  rwa [show held' = held from funext fun l => propext (hsame l).symm]

theorem id_lt (hledger : loader.Ledger held) {l : Library} (hheld : held l) :
    l.id < loader.opened :=
  (hledger.opened_iff l.id).mpr (.inr ⟨l, hheld, rfl⟩)

/-- What is opened is held besides the rest; where nothing is, nothing changes. -/
theorem openLibrary (path : String) :
    Ensures (fun loader => loader.Ledger held) (Loader.openLibrary path)
      (fun l loader => l.path = path ∧ ¬ held l ∧ loader.Ledger fun k => k = l ∨ held k)
      (fun _ loader => loader.Ledger held) := by
  intro loader hledger
  have hbelow {l : Library} (hheld : held l) := hledger.id_lt hheld
  obtain ⟨honce, hapart, hopened, hnot, hcurrent⟩ := hledger
  rw [Loader.openLibrary]
  cases hfind : find loader.files path with
  | error reason => exact ⟨honce, hapart, hopened, hnot, hcurrent⟩
  | ok found =>
      obtain ⟨place, symbols⟩ := found
      refine ⟨rfl, fun hheld => Nat.lt_irrefl _ (hbelow hheld), honce, ?_, ?_, ?_, ?_⟩
      · rintro l k (rfl | hl) (rfl | hk) hid
        · rfl
        · exact absurd hid.symm (Nat.ne_of_lt (hbelow hk))
        · exact absurd hid (Nat.ne_of_lt (hbelow hl))
        · exact hapart l k hl hk hid
      · intro i
        have hbefore := hopened i
        constructor
        · intro hi
          rcases Nat.lt_succ_iff_lt_or_eq.mp hi with hlt | heq
          · rcases hbefore.mp hlt with hclosed | ⟨l, hl, hid⟩
            · exact .inl hclosed
            · exact .inr ⟨l, .inr hl, hid⟩
          · exact .inr ⟨_, .inl rfl, heq.symm⟩
        · rintro (hclosed | ⟨l, rfl | hl, rfl⟩)
          · exact Nat.lt_succ_of_lt (hbefore.mpr (.inl hclosed))
          · exact Nat.lt_succ_self _
          · exact Nat.lt_succ_of_lt (hbelow hl)
      · rintro l (rfl | hl) hclosed
        · exact Nat.lt_irrefl _ ((hopened _).mpr (.inl hclosed))
        · exact hnot l hl hclosed
      · intro l
        rw [List.mem_cons, hcurrent]

/-- What is closed is held no more. -/
theorem close (hledger : loader.Ledger held) {l : Library} (hheld : held l) :
    (loader.close l).Ledger fun k => held k ∧ k ≠ l := by
  constructor
  · exact List.nodup_cons.mpr ⟨hledger.not_closed l hheld, hledger.closed_once⟩
  · exact fun k k' hk hk' => hledger.apart k k' hk.1 hk'.1
  · intro i
    rw [Loader.close, List.mem_cons, hledger.opened_iff]
    constructor
    · rintro (hclosed | ⟨k, hk, rfl⟩)
      · exact .inl (.inr hclosed)
      · by_cases heq : k = l
        · exact .inl (.inl (congrArg Library.id heq))
        · exact .inr ⟨k, ⟨hk, heq⟩, rfl⟩
    · rintro ((rfl | hclosed) | ⟨k, hk, rfl⟩)
      · exact .inr ⟨l, hheld, rfl⟩
      · exact .inl hclosed
      · exact .inr ⟨k, hk.1, rfl⟩
  · rintro k ⟨hk, hne⟩ hclosed
    rcases List.mem_cons.mp hclosed with hid | hclosed
    · exact hne (hledger.apart k l hk hheld hid)
    · exact hledger.not_closed k hk hclosed
  · intro k
    simp only [Loader.close, List.mem_filter, hledger.mem_current, bne_iff_ne]
    refine and_congr_right fun hk => not_congr ⟨hledger.apart k l hk hheld, ?_⟩
    exact congrArg Library.id

/-- Closing libraries in turn, each once, leaves those that are not among them. -/
theorem foldl_close {libraries : List Library} (hnodup : libraries.Nodup)
    (hledger : loader.Ledger held) (hheld : ∀ l ∈ libraries, held l) :
    (libraries.foldl Loader.close loader).Ledger (fun l => held l ∧ l ∉ libraries) ∧
      (libraries.foldl Loader.close loader).closed =
        (libraries.map Library.id).reverse ++ loader.closed := by
  induction libraries generalizing loader held with
  | nil => exact ⟨hledger.congr fun l => by simp, rfl⟩
  | cons l rest ih =>
      obtain ⟨hfirst, hrest⟩ := List.nodup_cons.mp hnodup
      have hremaining : ∀ k ∈ rest, held k ∧ k ≠ l := by
        intro k hk
        refine ⟨hheld k (List.mem_cons_of_mem _ hk), ?_⟩
        rintro rfl
        exact hfirst hk
      obtain ⟨hafter, hids⟩ := ih hrest (hledger.close (hheld l List.mem_cons_self)) hremaining
      refine ⟨hafter.congr fun k => ?_, ?_⟩
      · rw [List.mem_cons, not_or, and_assoc]
      · rw [List.foldl_cons, hids, List.map_cons, List.reverse_cons, List.append_assoc]
        rfl

/-- Closed libraries and held ones are together those that were opened. -/
theorem perm_range (hledger : loader.Ledger held) {libraries : List Library}
    (hnodup : libraries.Nodup) (hmem : ∀ l, l ∈ libraries ↔ held l) :
    (loader.closed ++ libraries.map Library.id).Perm (List.range loader.opened) := by
  have hids : (libraries.map Library.id).Nodup :=
    List.Nodup.map_on
      (fun l hl k hk => hledger.apart l k ((hmem l).mp hl) ((hmem k).mp hk)) hnodup
  have hdisjoint : loader.closed.Disjoint (libraries.map Library.id) := by
    intro i hclosed hi
    obtain ⟨l, hl, rfl⟩ := List.mem_map.mp hi
    exact hledger.not_closed l ((hmem l).mp hl) hclosed
  have happend : (loader.closed ++ libraries.map Library.id).Nodup :=
    List.Nodup.append hledger.closed_once hids hdisjoint
  refine (List.perm_ext_iff_of_nodup happend List.nodup_range).mpr fun i => ?_
  rw [List.mem_range, hledger.opened_iff, List.mem_append, List.mem_map]
  simp only [hmem]

/-- Between two times at which the same libraries are held, what was opened was closed. -/
theorem perm_between {after : Loader} (hbefore : loader.Ledger held) (hafter : after.Ledger held)
    (hopened : loader.opened ≤ after.opened) {ids : List Nat}
    (hclosed : after.closed = ids ++ loader.closed) :
    ids.Perm (List.range' loader.opened (after.opened - loader.opened)) := by
  have honce := hafter.closed_once
  rw [hclosed] at honce
  obtain ⟨hids, -, hapart⟩ := List.nodup_append'.mp honce
  refine (List.perm_ext_iff_of_nodup hids List.nodup_range').mpr fun i => ?_
  rw [List.mem_range'_1, Nat.add_sub_cancel' hopened]
  constructor
  · intro hi
    have hlater : i ∈ after.closed := hclosed ▸ List.mem_append_left _ hi
    refine ⟨Nat.le_of_not_lt fun hearlier => ?_, (hafter.opened_iff i).mpr (.inl hlater)⟩
    rcases (hbefore.opened_iff i).mp hearlier with hold | ⟨l, hl, rfl⟩
    · exact hapart hi hold
    · exact hafter.not_closed l hl hlater
  · rintro ⟨hnew, hi⟩
    rcases (hafter.opened_iff i).mp hi with hlater | ⟨l, hl, rfl⟩
    · rcases List.mem_append.mp (hclosed ▸ hlater) with hi | hold
      · exact hi
      · exact absurd ((hbefore.opened_iff i).mpr (.inl hold)) (Nat.not_lt.mpr hnew)
    · exact absurd (hbefore.id_lt hl) (Nat.not_lt.mpr hnew)

end Ledger
end Loader

/-! ## The slots -/

theorem Engine.mem_all (e : Engine) : e ∈ all := by cases e <;> decide

namespace Context

variable {c : Context} {e f : Engine} {b : Backing}

theorem handles_eq (c : Context) : c.handles = Engine.all.filterMap c.slots.get := by
  rw [handles, EngineTable.toList_eq_map, List.filterMap_map]
  rfl

@[simp] theorem slots_put_self : (c.put ⟨e, b⟩).slots.get e = some ⟨e, b⟩ :=
  EngineTable.get_set_self ..

theorem slots_put_of_ne (h : f ≠ e) : (c.put ⟨e, b⟩).slots.get f = c.slots.get f :=
  EngineTable.get_set_of_ne _ _ h

@[simp] theorem library?_put_self : (c.put ⟨e, b⟩).library? e = b.library? := by
  rw [library?, slots_put_self]
  rfl

theorem library?_put_of_ne (h : f ≠ e) : (c.put ⟨e, b⟩).library? f = c.library? f := by
  rw [library?, slots_put_of_ne h, library?]

theorem isOpen_put_self : (c.put ⟨e, b⟩).isOpen e = true := by
  rw [isOpen, slots_put_self]
  rfl

theorem isOpen_put (hopen : c.isOpen f = true) : (c.put ⟨e, b⟩).isOpen f = true := by
  by_cases heq : f = e
  · rw [heq]
    exact isOpen_put_self
  · rwa [isOpen, slots_put_of_ne heq]

theorem slots_eq_none (hclosed : c.isOpen e = false) : c.slots.get e = none :=
  Option.isNone_iff_eq_none.mp (Option.isSome_eq_false_iff.mp hclosed)

theorem library?_eq_none (hclosed : c.isOpen e = false) : c.library? e = none := by
  rw [library?, slots_eq_none hclosed]
  rfl

/-- Some slot holds the library. -/
def Holds (c : Context) (l : Library) : Prop := ∃ e, c.library? e = some l

/-- The libraries that others hold, and those in the slots. -/
def HeldBeside (c : Context) (others : Library → Prop) (l : Library) : Prop :=
  others l ∨ c.Holds l

@[simp] theorem not_holds_ofDir (dir : LibraryDir) (l : Library) : ¬ (ofDir dir).Holds l := by
  rintro ⟨e, he⟩
  simp [ofDir, library?] at he

/-- Elements are put behind the others unless they are there. -/
theorem mem_foldl_distinct {l : Library} (rest seen : List Library) :
    l ∈ rest.foldl (fun seen k => if k ∈ seen then seen else seen ++ [k]) seen ↔
      l ∈ seen ∨ l ∈ rest := by
  induction rest generalizing seen with
  | nil => simp
  | cons k rest ih =>
      rw [List.foldl_cons, ih]
      split
      · rename_i hseen
        simp only [List.mem_cons]
        constructor
        · exact Or.imp_right Or.inr
        · rintro (hl | rfl | hl)
          · exact .inl hl
          · exact .inl hseen
          · exact .inr hl
      · simp [or_assoc]

theorem nodup_foldl_distinct {seen : List Library} (hseen : seen.Nodup) (rest : List Library) :
    (rest.foldl (fun seen k => if k ∈ seen then seen else seen ++ [k]) seen).Nodup := by
  induction rest generalizing seen with
  | nil => exact hseen
  | cons k rest ih =>
      rw [List.foldl_cons]
      split
      · exact ih hseen
      · rename_i hnew
        exact ih (List.Nodup.append hseen (List.nodup_singleton k) (by simpa using hnew))

theorem mem_libraries {l : Library} : l ∈ c.libraries ↔ c.Holds l := by
  have hslots : c.handles.filterMap Handle.library? = Engine.all.filterMap c.library? := by
    rw [handles_eq, List.filterMap_filterMap]
    rfl
  rw [libraries, mem_foldl_distinct, hslots]
  simp [Holds, Engine.mem_all]

theorem nodup_libraries (c : Context) : c.libraries.Nodup :=
  nodup_foldl_distinct List.nodup_nil _

theorem refersTo_iff {l : Library} : c.refersTo l = true ↔ ∃ k, c.Holds k ∧ k.id = l.id := by
  simp [refersTo, mem_libraries]

theorem refersTo_ofDir (dir : LibraryDir) (l : Library) : (ofDir dir).refersTo l = false := rfl

/-- Since handles stand in the slots of their engines, a library is sought in the slots of those
engines that are of one file. -/
theorem shared?_eq (c : Context) (e : Engine) :
    c.shared? e =
      (Engine.all.filter fun f => f.libraryFile == e.libraryFile).findSome? c.library? := by
  rw [shared?, handles_eq]
  generalize Engine.all = engines
  induction engines with
  | nil => rfl
  | cons f rest ih =>
      cases hslot : c.slots.get f with
      | none =>
          have hnone : c.library? f = none := by rw [library?, hslot, Option.bind_none]
          rw [List.filterMap_cons_none hslot, ih, List.filter_cons]
          split
          · rw [List.findSome?_cons, hnone]
          · rfl
      | some handle =>
          have hlibrary : c.library? f = handle.library? := by
            rw [library?, hslot, Option.bind_some]
          have hengine : handle.engine = f := c.own f handle hslot
          rw [List.filterMap_cons_some hslot, List.filter_cons, List.filter_cons, hengine]
          split
          · rw [List.findSome?_cons, List.findSome?_cons, ih, hlibrary]
          · exact ih

/-- What the libraries in the slots are to their engines. -/
structure Served (c : Context) : Prop where
  /-- Both functions of the engine were found in the library. -/
  resolved : ∀ e l, c.library? e = some l → ∀ direction, l.symbol (e.symbol direction) = .ok ()
  /-- The library was asked for by the engine's file. -/
  placed : ∀ e l, c.library? e = some l → l.path = c.dir.join e.libraryFile
  /-- Engines of one file are served by one library. -/
  unique : ∀ e f l k, c.library? e = some l → c.library? f = some k →
    e.libraryFile = f.libraryFile → l = k

namespace Served

theorem ofDir (dir : LibraryDir) : (Context.ofDir dir).Served where
  resolved e l he := absurd ⟨e, he⟩ (not_holds_ofDir dir l)
  placed e l he := absurd ⟨e, he⟩ (not_holds_ofDir dir l)
  unique e _ l _ he := absurd ⟨e, he⟩ (not_holds_ofDir dir l)

/-- A slot may be filled with a library of its file that serves all other engines of it. -/
theorem put_library (hserved : c.Served) {l : Library}
    (hresolved : ∀ direction, l.symbol (e.symbol direction) = .ok ())
    (hplaced : l.path = c.dir.join e.libraryFile)
    (hshared : ∀ f k, c.library? f = some k → f.libraryFile = e.libraryFile → k = l) :
    (c.put ⟨e, .library l⟩).Served := by
  have hcases {f : Engine} {k : Library} (hf : (c.put ⟨e, .library l⟩).library? f = some k) :
      f = e ∧ k = l ∨ c.library? f = some k := by
    by_cases heq : f = e
    · subst heq
      rw [library?_put_self] at hf
      exact .inl ⟨rfl, (Option.some.inj hf).symm⟩
    · exact .inr (library?_put_of_ne heq ▸ hf)
  constructor
  · intro f k hf
    rcases hcases hf with ⟨rfl, rfl⟩ | hf
    · exact hresolved
    · exact hserved.resolved f k hf
  · intro f k hf
    rcases hcases hf with ⟨rfl, rfl⟩ | hf
    · exact hplaced
    · exact hserved.placed f k hf
  · intro f g k m hf hg hfile
    rcases hcases hf with ⟨rfl, rfl⟩ | hkept
    · rcases hcases hg with ⟨-, rfl⟩ | hkept
      · rfl
      · exact (hshared g m hkept hfile.symm).symm
    · rcases hcases hg with ⟨rfl, rfl⟩ | hkept'
      · exact hshared f k hkept hfile
      · exact hserved.unique f g k m hkept hkept' hfile

/-- Code of the process image may take any slot. -/
theorem put_process (hserved : c.Served) : (c.put ⟨e, .process⟩).Served := by
  have hkept {f : Engine} {k : Library} (hf : (c.put ⟨e, .process⟩).library? f = some k) :
      c.library? f = some k := by
    by_cases heq : f = e
    · subst heq
      rw [library?_put_self] at hf
      contradiction
    · rwa [library?_put_of_ne heq] at hf
  constructor
  · exact fun f k hf => hserved.resolved f k (hkept hf)
  · exact fun f k hf => hserved.placed f k (hkept hf)
  · exact fun f g k m hf hg => hserved.unique f g k m (hkept hf) (hkept hg)

/-- Engines are served by one library if and only if they are of one file. -/
theorem eq_iff (hserved : c.Served) {l k : Library} (he : c.library? e = some l)
    (hf : c.library? f = some k) : l = k ↔ e.libraryFile = f.libraryFile := by
  constructor
  · rintro rfl
    have hpath := (hserved.placed e l he).symm.trans (hserved.placed f l hf)
    exact (String.append_right_inj _).mp hpath
  · exact hserved.unique e f l k he hf

/-- A library is shared with an engine where an engine of the same file has it. -/
theorem shared?_eq_some_iff (hserved : c.Served) {l : Library} :
    c.shared? e = some l ↔ ∃ f, f.libraryFile = e.libraryFile ∧ c.library? f = some l := by
  rw [shared?_eq]
  constructor
  · intro hshared
    obtain ⟨f, hf, hfl⟩ := List.exists_of_findSome?_eq_some hshared
    exact ⟨f, by simpa [Engine.mem_all] using hf, hfl⟩
  · rintro ⟨f, hfile, hfl⟩
    cases hshared : (Engine.all.filter fun f => f.libraryFile == e.libraryFile).findSome?
        c.library? with
    | none =>
        have hgone :=
          List.findSome?_eq_none_iff.mp hshared f (by simpa [Engine.mem_all] using hfile)
        rw [hgone] at hfl
        contradiction
    | some k =>
        obtain ⟨g, hg, hgk⟩ := List.exists_of_findSome?_eq_some hshared
        have hsame : g.libraryFile = e.libraryFile := by simpa [Engine.mem_all] using hg
        exact congrArg some (hserved.unique g f k l hgk hfl (hsame.trans hfile.symm))

end Served

theorem holds_put_library {l k : Library} (hempty : c.library? e = none) :
    (c.put ⟨e, .library l⟩).Holds k ↔ k = l ∨ c.Holds k := by
  constructor
  · rintro ⟨f, hf⟩
    by_cases heq : f = e
    · subst heq
      rw [library?_put_self] at hf
      exact .inl (Option.some.inj hf).symm
    · exact .inr ⟨f, library?_put_of_ne heq ▸ hf⟩
  · rintro (rfl | ⟨f, hf⟩)
    · exact ⟨e, library?_put_self⟩
    · have hne : f ≠ e := by
        rintro rfl
        rw [hempty] at hf
        contradiction
      exact ⟨f, (library?_put_of_ne hne).trans hf⟩

/-- A library in another slot stays where code of the process image takes one. -/
theorem Holds.of_put_process {k : Library} (h : (c.put ⟨e, .process⟩).Holds k) : c.Holds k := by
  obtain ⟨f, hf⟩ := h
  by_cases heq : f = e
  · subst heq
    rw [library?_put_self] at hf
    contradiction
  · exact ⟨f, library?_put_of_ne heq ▸ hf⟩

theorem Holds.put_process {k : Library} (h : c.Holds k) (hne : c.library? e ≠ some k) :
    (c.put ⟨e, .process⟩).Holds k := by
  obtain ⟨f, hf⟩ := h
  have hfe : f ≠ e := fun heq => hne (heq ▸ hf)
  exact ⟨f, (library?_put_of_ne hfe).trans hf⟩

end Context

/-! ## One operation -/

namespace Context

/-- The library may be put into the slot of the engine, which is empty. -/
structure Awaits (c : Context) (e : Engine) (l : Library) : Prop where
  empty : c.library? e = none
  placed : l.path = c.dir.join e.libraryFile
  shared : ∀ f k, c.library? f = some k → f.libraryFile = e.libraryFile → k = l

end Context

namespace Host

variable {c : Context} {held others : Library → Prop} {e : Engine} {l : Library}

/-- The context is `c`, and these libraries are held. -/
def Keeps (c : Context) (held : Library → Prop) (h : Host) : Prop :=
  h.context = c ∧ h.loader.Ledger held

/-- The slots serve their engines and hold whatever is open. -/
def Owned (h : Host) : Prop := h.context.Served ∧ h.loader.Ledger h.context.Holds

/-- The slots serve their engines and hold whatever is open, but for the libraries of others. -/
structure OwnedBeside (others : Library → Prop) (h : Host) : Prop where
  served : h.context.Served
  apart : ∀ l, others l → ¬ h.context.Holds l
  ledger : h.loader.Ledger (h.context.HeldBeside others)

theorem owned_iff {h : Host} : h.Owned ↔ h.OwnedBeside fun _ => False := by
  have hsame (l : Library) : h.context.HeldBeside (fun _ => False) l ↔ h.context.Holds l :=
    iff_of_eq (false_or _)
  exact ⟨fun howned => ⟨howned.1, fun _ => False.elim, howned.2.congr fun l => (hsame l).symm⟩,
    fun howned => ⟨howned.served, howned.ledger.congr hsame⟩⟩

theorem Keeps.owned {h : Host} (hkeeps : Keeps c (c.HeldBeside others) h) (hserved : c.Served)
    (hapart : ∀ l, others l → ¬ c.Holds l) : h.OwnedBeside others := by
  obtain ⟨rfl, hledger⟩ := hkeeps
  exact ⟨hserved, hapart, hledger⟩

theorem say_keeps (notice : Notice) :
    Ensures (Keeps c held) (say notice) (fun _ => Keeps c held) (fun _ => Keeps c held) :=
  fun _ hkeeps => hkeeps

theorem say_throw_keeps {α : Type} (notice : Notice) (fault : Fault) {post : α → Host → Prop} :
    Ensures (Keeps c held) (do say notice; throw fault) post (fun _ => Keeps c held) :=
  Ensures.bind (say_keeps notice) fun _ _ hkeeps => hkeeps

/-- But for what it says, the opening of an engine's library is the loader's. -/
theorem openLibrary_ensures {dir : LibraryDir} {codec : Codec} (hengine : codec.engine? = some e)
    {pre : Host → Prop} {post : Library → Host → Prop} {fail : Fault → Host → Prop}
    (hpre : ∀ notice h, pre h → pre { h with console := h.console.say notice })
    (hpost : ∀ l notice h, post l h → post l { h with console := h.console.say notice })
    (hfail : ∀ e notice h, fail e h → fail e { h with console := h.console.say notice })
    (hopen : Ensures pre (onPart Host.loader (fun l h => { h with loader := l })
      (Loader.openLibrary (dir.join e.libraryFile))) post fail) :
    Ensures pre (openLibrary dir codec) post fail := by
  unfold openLibrary
  rw [hengine]
  have hsay : Ensures pre (say (.opening (dir.join e.libraryFile) codec)) (fun _ => pre) fail :=
    fun h => hpre _ h
  refine Ensures.bind hsay fun _ => Ensures.bind hopen.attempt fun outcome => ?_
  cases outcome with
  | error fault =>
      rintro h (_ | hfault)
      exact hfail fault (.fault fault) h hfault
  | ok l =>
      rintro h (hopened | _)
      dsimp only
      cases l.resolvedPath? (e.symbol .decompress) with
      | none => exact hopened
      | some resolved => exact hpost l (.openedFrom e.libraryFile resolved) h hopened

theorem openLibrary_keeps (dir : LibraryDir) (codec : Codec) :
    Ensures (Keeps c held) (openLibrary dir codec)
      (fun l h => (∃ e, codec.engine? = some e ∧ l.path = dir.join e.libraryFile) ∧ ¬ held l ∧
        Keeps c (fun k => k = l ∨ held k) h)
      (fun _ => Keeps c held) := by
  cases hengine : codec.engine? with
  | none =>
      unfold openLibrary
      rw [hengine]
      exact say_throw_keeps _ _
  | some engine =>
      refine openLibrary_ensures hengine (fun _ _ hkeeps => hkeeps) (fun _ _ _ hopened => hopened)
        (fun _ _ _ hkeeps => hkeeps) ?_
      exact (Loader.Ledger.openLibrary _).onPart (fun _ hkeeps => hkeeps.2)
        (fun _ _ _ hkeeps hopened =>
          ⟨⟨engine, rfl, hopened.1⟩, hopened.2.1, hkeeps.1, hopened.2.2⟩)
        fun _ _ _ hkeeps hledger => ⟨hkeeps.1, hledger⟩

theorem obtain_keeps (hserved : c.Served) (hapart : ∀ l, others l → ¬ c.Holds l)
    (hempty : c.isOpen e = false) :
    Ensures (Keeps c (c.HeldBeside others)) (obtain e)
      (fun l h => c.Awaits e l ∧ ¬ others l ∧ Keeps c (fun k => k = l ∨ c.HeldBeside others k) h)
      (fun _ => Keeps c (c.HeldBeside others)) := by
  have hlibrary := Context.library?_eq_none hempty
  refine Ensures.bind Ensures.get fun h => ?_
  rintro _ ⟨rfl, rfl, hledger⟩
  cases hsought : h.context.shared? e with
  | some l =>
      obtain ⟨f, hfile, hfl⟩ := hserved.shared?_eq_some_iff.mp hsought
      have hholds : h.context.Holds l := ⟨f, hfl⟩
      refine ⟨⟨hlibrary, hfile ▸ hserved.placed f l hfl, ?_⟩, ?_, rfl, ?_⟩
      · exact fun g k hg hsame => hserved.unique g f k l hg hfl (hsame.trans hfile.symm)
      · exact fun hothers => hapart l hothers hholds
      · refine hledger.congr fun k => (or_iff_right_of_imp ?_).symm
        rintro rfl
        exact .inr hholds
  | none =>
      have hfree (f : Engine) (k : Library) (hf : h.context.library? f = some k)
          (hfile : f.libraryFile = e.libraryFile) : False := by
        have hshared := hserved.shared?_eq_some_iff.mpr ⟨f, hfile, hf⟩
        rw [hsought] at hshared
        contradiction
      refine (openLibrary_keeps h.context.dir e.codec).mono (fun _ hkeeps => hkeeps) ?_
        (fun _ _ hkeeps => hkeeps) h ⟨rfl, hledger⟩
      rintro l after ⟨⟨f, hf, hpath⟩, hnew, hkeeps⟩
      obtain rfl := Codec.engine?_codec_iff.mp hf
      exact ⟨⟨hlibrary, hpath, fun f k hf hfile => (hfree f k hf hfile).elim⟩,
        fun hothers => hnew (.inl hothers), hkeeps⟩

theorem findSymbol_keeps (direction : Direction) :
    Ensures (Keeps c held) (findSymbol l e direction)
      (fun _ h => l.symbol (e.symbol direction) = .ok () ∧ Keeps c held h)
      (fun _ => Keeps c held) := by
  rw [findSymbol]
  split
  · rename_i hfound
    exact Ensures.pure fun _ hkeeps => ⟨hfound, hkeeps⟩
  · exact say_throw_keeps _ _

theorem findSymbols_keeps :
    Ensures (Keeps c held) (findSymbols l e)
      (fun _ h => (∀ direction, l.symbol (e.symbol direction) = .ok ()) ∧ Keeps c held h)
      (fun _ => Keeps c held) := by
  refine Ensures.bind (findSymbol_keeps .compress) fun _ => ?_
  rintro h ⟨hcompress, hkeeps⟩
  refine (findSymbol_keeps .decompress).mono (fun _ hkeeps => hkeeps) ?_
    (fun _ _ hkeeps => hkeeps) h hkeeps
  rintro - after ⟨hdecompress, hkeeps⟩
  refine ⟨fun direction => ?_, hkeeps⟩
  cases direction with
  | compress => exact hcompress
  | decompress => exact hdecompress

/-- The library in hand is let go, so that the slots hold all libraries again. -/
theorem drop_keeps {h : Host} (hown : ¬ others l)
    (hledger : h.loader.Ledger fun k => k = l ∨ h.context.HeldBeside others k) :
    Keeps h.context (h.context.HeldBeside others) (h.drop l) := by
  by_cases hheld : h.context.refersTo l = true
  · rw [drop, if_pos hheld]
    obtain ⟨k, hk, hid⟩ := Context.refersTo_iff.mp hheld
    obtain rfl : k = l := hledger.apart k l (.inr (.inr hk)) (.inl rfl) hid
    refine ⟨rfl, hledger.congr fun m => or_iff_right_of_imp ?_⟩
    rintro rfl
    exact .inr hk
  · rw [drop, if_neg hheld]
    have hfree : ¬ h.context.HeldBeside others l := by
      rintro (hothers | hl)
      · exact hown hothers
      · exact hheld (Context.refersTo_iff.mpr ⟨l, hl, rfl⟩)
    refine ⟨rfl, (hledger.close (.inl rfl)).congr fun k => ⟨?_, ?_⟩⟩
    · rintro ⟨rfl | hk, hne⟩
      · exact absurd rfl hne
      · exact hk
    · intro hk
      exact ⟨.inr hk, fun heq => hfree (heq ▸ hk)⟩

theorem release_keeps (hown : ¬ others l) :
    Ensures (Keeps c fun k => k = l ∨ c.HeldBeside others k) (release l)
      (fun _ => Keeps c (c.HeldBeside others)) (fun _ => Keeps c (c.HeldBeside others)) := by
  rintro h ⟨rfl, hledger⟩
  exact drop_keeps hown hledger

theorem setupEngine_beside (hserved : c.Served) (hapart : ∀ l, others l → ¬ c.Holds l)
    (hempty : c.isOpen e = false) :
    Ensures (Keeps c (c.HeldBeside others)) (setupEngine e) (fun _ => OwnedBeside others)
      (fun _ => OwnedBeside others) := by
  have howned {h : Host} (hkeeps : Keeps c (c.HeldBeside others) h) : h.OwnedBeside others :=
    hkeeps.owned hserved hapart
  refine Ensures.bind ((obtain_keeps hserved hapart hempty).mono (fun _ hkeeps => hkeeps)
    (fun _ _ hpost => hpost) fun _ _ => howned) fun l => ?_
  rintro h ⟨hawaits, hown, hkeeps⟩
  refine Ensures.bind findSymbols_keeps.attempt (fun outcome => ?_) h hkeeps
  cases outcome with
  | ok _ =>
      rintro h (hfound | _)
      obtain ⟨hresolved, rfl, hledger⟩ := hfound
      have hholds (k : Library) := Context.holds_put_library (l := l) (k := k) hawaits.empty
      refine ⟨hserved.put_library hresolved hawaits.placed hawaits.shared, ?_, ?_⟩
      · intro k hothers hk
        rcases (hholds k).mp hk with rfl | hk
        · exact hown hothers
        · exact hapart k hothers hk
      · refine hledger.congr fun k => ?_
        rw [Context.HeldBeside, Context.HeldBeside, hholds, or_left_comm]
  | error fault =>
      refine (Ensures.bind ((release_keeps hown).mono (fun _ hkeeps => hkeeps)
        (fun _ _ => howned) fun _ _ => howned) fun _ _ hkeeps => hkeeps).mono ?_
        (fun _ _ hpost => hpost) fun _ _ hfail => hfail
      rintro h (_ | hkeeps)
      exact hkeeps

theorem setupCodec_beside (codec : Codec) :
    Ensures (OwnedBeside others) (setupCodec codec) (fun _ => OwnedBeside others)
      (fun _ => OwnedBeside others) := by
  rw [setupCodec]
  split
  · rename_i hnone
    refine Ensures.bind Ensures.get fun h => ?_
    rintro _ ⟨rfl, hserved, hapart, hledger⟩
    have hopen : Ensures (Keeps h.context (h.context.HeldBeside others))
        (openLibrary h.context.dir codec) (fun _ _ => False) (fun _ => OwnedBeside others) := by
      refine (openLibrary_keeps h.context.dir codec).mono (fun _ hkeeps => hkeeps) ?_
        fun _ _ hkeeps => hkeeps.owned hserved hapart
      rintro _ _ ⟨⟨e, he, -⟩, -⟩
      rw [hnone] at he
      contradiction
    exact Ensures.bind hopen (fun _ _ himpossible => himpossible.elim) h ⟨rfl, hledger⟩
  · rename_i engine hengine
    refine Ensures.bind Ensures.get fun h => ?_
    rintro _ ⟨rfl, howned⟩
    cases hopen : h.context.isOpen engine with
    | true => exact howned
    | false => exact setupEngine_beside howned.served howned.apart hopen h ⟨rfl, howned.ledger⟩

/-- Whatever others hold, a setup opens libraries for its slots only. -/
theorem setup_beside (codecs : List Codec) :
    Ensures (OwnedBeside others) (setup codecs) (fun _ => OwnedBeside others)
      (fun _ => OwnedBeside others) := by
  induction codecs with
  | nil => exact Ensures.pure fun _ howned => howned
  | cons codec rest ih => exact Ensures.bind (setupCodec_beside codec) fun _ => ih

theorem setup_owned (codecs : List Codec) :
    Ensures Owned (setup codecs) (fun _ => Owned) (fun _ => Owned) :=
  (setup_beside codecs).mono (fun _ => owned_iff.mp) (fun _ _ => owned_iff.mpr)
    fun _ _ => owned_iff.mpr

theorem install_of_none {h : Host} {handle : Handle}
    (hbefore : h.context.library? handle.engine = none) :
    h.install handle = { h with context := h.context.put handle } := by
  simp only [install, hbefore]

theorem install_of_some {h : Host} {handle : Handle}
    (hbefore : h.context.library? handle.engine = some l) :
    h.install handle = drop { h with context := h.context.put handle } l := by
  simp only [install, hbefore]

theorem install_owned {h : Host} (howned : h.Owned) (engine : Engine) :
    (h.install (.inProcess engine)).Owned := by
  obtain ⟨hserved, hledger⟩ := howned
  have hput : (h.context.put (.inProcess engine)).Served := hserved.put_process
  cases hbefore : h.context.library? engine with
  | none =>
      rw [install_of_none hbefore]
      refine ⟨hput, hledger.congr fun k => ⟨fun hk => hk.put_process ?_, .of_put_process⟩⟩
      rw [hbefore]
      exact nofun
  | some l =>
      rw [install_of_some hbefore]
      -- The library that was there is open and in no slot until it is dropped.
      suffices hbeside : h.loader.Ledger fun k =>
          k = l ∨ (h.context.put (.inProcess engine)).HeldBeside (fun _ => False) k from
        owned_iff.mpr ((drop_keeps not_false hbeside).owned hput fun _ => False.elim)
      refine hledger.congr fun k => ?_
      constructor
      · intro hk
        by_cases heq : k = l
        · exact .inl heq
        · exact .inr (.inr (hk.put_process fun hsome =>
            heq (Option.some.inj (hbefore.symm.trans hsome)).symm))
      · rintro (rfl | hothers | hk)
        · exact ⟨engine, hbefore⟩
        · exact hothers.elim
        · exact hk.of_put_process

/-! ## Closing libraries -/

theorem context_closeLoudly (h : Host) (l : Library) : (h.closeLoudly l).2.context = h.context := by
  rw [closeLoudly]
  split
  · rw [drop]
    split <;> rfl
  · cases h.loader.closeFault? l.id <;> rfl

theorem context_closeAll (libraries : List Library) (h : Host) :
    (h.closeAll libraries).2.context = h.context := by
  induction libraries generalizing h with
  | nil => rfl
  | cons l rest ih => exact (ih _).trans (h.context_closeLoudly l)

/-- After a teardown no slot is filled. -/
theorem context_teardown (h : Host) : h.teardown.2.context = .ofDir h.context.dir :=
  context_closeAll _ _

/-- The libraries were closed in turn, and those counted that closed without a fault. -/
structure ClosedAll (h : Host) (libraries : List Library) (result : Nat × Host) : Prop where
  loader : result.2.loader = libraries.foldl Loader.close h.loader
  count : result.1 = libraries.countP fun l => (h.loader.closeFault? l.id).isNone

theorem closeLoudly_of_free {h : Host} (hfree : h.context.refersTo l = false) :
    ClosedAll h [l] (h.closeLoudly l) := by
  rw [closeLoudly, hfree, if_neg Bool.false_ne_true]
  cases hfault : h.loader.closeFault? l.id with
  | none => exact ⟨rfl, by rw [List.countP_singleton, hfault]; rfl⟩
  | some reason => exact ⟨rfl, by rw [List.countP_singleton, hfault]; rfl⟩

/-- To libraries that no handle refers to, nothing else can happen. -/
theorem closeAll_of_free (libraries : List Library) {h : Host}
    (hfree : ∀ l, h.context.refersTo l = false) :
    ClosedAll h libraries (h.closeAll libraries) := by
  induction libraries generalizing h with
  | nil => exact ⟨rfl, rfl⟩
  | cons l rest ih =>
      obtain ⟨hloader, hone⟩ := closeLoudly_of_free (hfree l)
      have hfree' (k : Library) : (h.closeLoudly l).2.context.refersTo k = false := by
        rw [context_closeLoudly]
        exact hfree k
      obtain ⟨hafter, hothers⟩ := ih hfree'
      constructor
      · exact hafter.trans (by rw [hloader]; rfl)
      · have hsame (k : Library) : (h.closeLoudly l).2.loader.closeFault? k.id =
            h.loader.closeFault? k.id := by
          rw [hloader]
          rfl
        simp only [hsame] at hothers
        refine (congrArg₂ (· + ·) hone hothers).trans ?_
        rw [← List.countP_append, List.singleton_append]

/-- A handle is out of its slot before its library is closed, so that nothing refers to it then. -/
theorem closedAll_teardown (h : Host) : ClosedAll h h.context.libraries h.teardown := by
  obtain ⟨hloader, hcount⟩ := closeAll_of_free h.context.libraries
    (h := { h with context := .ofDir h.context.dir }) (Context.refersTo_ofDir h.context.dir)
  exact ⟨hloader, hcount⟩

theorem opened_foldl_close (libraries : List Library) (loader : Loader) :
    (libraries.foldl Loader.close loader).opened = loader.opened := by
  induction libraries generalizing loader with
  | nil => rfl
  | cons l rest ih => exact (ih _).trans (loader.opened_close l)

/-- A teardown leaves the libraries of others open, and no more. -/
theorem teardown_beside {h : Host} (howned : h.OwnedBeside others) :
    h.teardown.2.loader.Ledger others ∧
      h.teardown.2.loader.closed =
        (h.context.libraries.map Library.id).reverse ++ h.loader.closed := by
  obtain ⟨hledger, hclosed⟩ := howned.ledger.foldl_close (Context.nodup_libraries h.context)
    fun l hl => .inr (Context.mem_libraries.mp hl)
  rw [h.closedAll_teardown.loader]
  refine ⟨hledger.congr fun l => ?_, hclosed⟩
  rw [Context.mem_libraries, Context.HeldBeside, or_and_right, and_not_self_iff, or_false,
    and_iff_left_of_imp (howned.apart l)]

theorem teardown_closed {h : Host} (howned : h.Owned) :
    h.teardown.2.loader.Ledger (fun _ => False) ∧
      h.teardown.2.loader.closed =
        (h.context.libraries.map Library.id).reverse ++ h.loader.closed :=
  teardown_beside (owned_iff.mp howned)

theorem teardown_owned {h : Host} (howned : h.Owned) : h.teardown.2.Owned := by
  rw [Owned, context_teardown]
  refine ⟨.ofDir _, (teardown_closed howned).1.congr fun l => ?_⟩
  exact (iff_false_intro (Context.not_holds_ofDir _ l)).symm

/-! ## Whole histories -/

/-- What can be done to a host between runs of its cells. -/
inductive Operation where
  | setup (codecs : List Codec)
  | install (engine : Engine)
  | teardown
  /-- Files appear, change or go: other libraries are present, or export other symbols. -/
  | files (files : FileSystem)
  /-- From now on the loader fails to close these libraries, and no others. -/
  | closing (closeFault? : Nat → Option String)

/-- Carries out an operation, whether it fails or not. -/
def perform (h : Host) : Operation → Host
  | .setup codecs => leaves (setup codecs) h
  | .install engine => h.install (.inProcess engine)
  | .teardown => h.teardown.2
  | .files files => { h with loader := { h.loader with files := files } }
  | .closing closeFault? => { h with loader := { h.loader with closeFault? := closeFault? } }

/-- A host on which nothing was done yet. -/
def fresh (console : Console) (files : FileSystem) (dir : LibraryDir) : Host :=
  ⟨console, .ofFiles files, .ofDir dir⟩

theorem fresh_owned (console : Console) (files : FileSystem) (dir : LibraryDir) :
    (fresh console files dir).Owned :=
  ⟨.ofDir dir, (Loader.Ledger.fresh files).congr fun l =>
    (iff_false_intro (Context.not_holds_ofDir dir l)).symm⟩

theorem perform_owned {h : Host} (howned : h.Owned) (operation : Operation) :
    (h.perform operation).Owned := by
  cases operation with
  | setup codecs => exact (setup_owned codecs).leaves howned
  | install engine => exact install_owned howned engine
  | teardown => exact teardown_owned howned
  | files files =>
      obtain ⟨hserved, ⟨honce, hapart, hopened, hnot, hcurrent⟩⟩ := howned
      exact ⟨hserved, honce, hapart, hopened, hnot, hcurrent⟩
  | closing closeFault? =>
      obtain ⟨hserved, ⟨honce, hapart, hopened, hnot, hcurrent⟩⟩ := howned
      exact ⟨hserved, honce, hapart, hopened, hnot, hcurrent⟩

theorem foldl_perform_owned {h : Host} (howned : h.Owned) (operations : List Operation) :
    (operations.foldl perform h).Owned := by
  induction operations generalizing h with
  | nil => exact howned
  | cons operation rest ih => exact ih (perform_owned howned operation)

/-- What the slots of a host are, and how the libraries in them are accounted for. -/
structure Accounted (h : Host) : Prop where
  /-- A slot is empty or has a handle of its engine, whose functions are those of the engine. -/
  handle : ∀ e, h.context.slots.get e = none ∨ ∃ handle, h.context.slots.get e = some handle ∧
    handle.engine = e ∧ handle.entry = ⟨e, handle.backing.image⟩
  /-- Where a library is behind the handle, both functions were found in it. -/
  resolved : ∀ e l, h.context.library? e = some l →
    ∀ direction, l.symbol (e.symbol direction) = .ok ()
  /-- Two handles share one library exactly where their engines are of one file. -/
  shared_iff : ∀ e f l k, h.context.library? e = some l → h.context.library? f = some k →
    (l.id = k.id ↔ e.libraryFile = f.libraryFile)
  /-- The distinct libraries of the slots, each once. -/
  mem_libraries : ∀ l, l ∈ h.context.libraries ↔ ∃ e, h.context.library? e = some l
  ids_nodup : (h.context.libraries.map Library.id).Nodup
  /-- What was opened is closed or in a slot: as many as that, -/
  opened_eq : h.loader.opened = h.loader.closed.length + h.context.libraries.length
  /-- and, number by number, none of them twice. -/
  perm_range : (h.loader.closed ++ h.context.libraries.map Library.id).Perm
    (List.range h.loader.opened)
  mem_current : ∀ l, l ∈ h.loader.current ↔ l ∈ h.context.libraries

/-- What a teardown of the host answers and leaves. -/
structure TornDown (h : Host) : Prop where
  /-- The answer counts the libraries that closed without a fault, -/
  answer : h.teardown.1 =
    h.context.libraries.countP fun l => (h.loader.closeFault? l.id).isNone
  /-- and these are all, where the loader does not fail. -/
  answer_all : (∀ l ∈ h.context.libraries, h.loader.closeFault? l.id = none) →
    h.teardown.1 = h.context.libraries.length
  empty : ∀ e, h.teardown.2.context.slots.get e = none
  /-- Each library that was held is closed, on top of what was closed before. -/
  closed : h.teardown.2.loader.closed =
    (h.context.libraries.map Library.id).reverse ++ h.loader.closed
  opened : h.teardown.2.loader.opened = h.loader.opened
  /-- All that was ever opened is closed now, once. -/
  perm_range : h.teardown.2.loader.closed.Perm (List.range h.loader.opened)
  none_current : h.teardown.2.loader.current = []
  /-- Another teardown has nothing to do. -/
  again : h.teardown.2.teardown = (0, h.teardown.2)

theorem Owned.accounted {h : Host} (howned : h.Owned) : h.Accounted := by
  obtain ⟨hserved, hledger⟩ := howned
  have hperm := hledger.perm_range (Context.nodup_libraries h.context)
    fun l => Context.mem_libraries
  have hnodup : (h.loader.closed ++ h.context.libraries.map Library.id).Nodup :=
    hperm.nodup_iff.mpr List.nodup_range
  have hlength := hperm.length_eq
  rw [List.length_append, List.length_map, List.length_range] at hlength
  refine ⟨fun e => ?_, hserved.resolved, ?_, fun l => Context.mem_libraries,
    (List.nodup_append'.mp hnodup).2.1, hlength.symm, hperm, fun l => ?_⟩
  · cases hslot : h.context.slots.get e with
    | none => exact .inl rfl
    | some handle =>
        have hengine := h.context.own e handle hslot
        exact .inr ⟨handle, rfl, hengine, congrArg (EntryPoints.mk · handle.backing.image) hengine⟩
  · intro e f l k he hf
    rw [← hserved.eq_iff he hf]
    exact ⟨hledger.apart l k ⟨e, he⟩ ⟨f, hf⟩, congrArg Library.id⟩
  · rw [hledger.mem_current, Context.mem_libraries]

theorem Owned.tornDown {h : Host} (howned : h.Owned) : h.TornDown := by
  obtain ⟨hledger, hclosed⟩ := teardown_closed howned
  have hcount := h.closedAll_teardown.count
  have hopened : h.teardown.2.loader.opened = h.loader.opened := by
    rw [h.closedAll_teardown.loader, opened_foldl_close]
  have hperm := hledger.perm_range List.nodup_nil fun l => List.mem_nil_iff l
  rw [List.map_nil, List.append_nil, hopened] at hperm
  refine ⟨hcount, fun hnone => ?_, fun e => ?_, hclosed, hopened, hperm, ?_, ?_⟩
  · rw [hcount, List.countP_eq_length]
    exact fun l hl => Option.isNone_iff_eq_none.mpr (hnone l hl)
  · rw [context_teardown]
    exact EngineTable.get_replicate none e
  · exact List.eq_nil_iff_forall_not_mem.mpr fun l hl => (hledger.mem_current l).mp hl
  · have hcontext := context_teardown h
    generalize h.teardown.2 = after at hcontext
    obtain ⟨console, loader, context⟩ := after
    obtain rfl : context = .ofDir h.context.dir := hcontext
    rfl

/-- Whatever was set up, installed and torn down before, and whichever libraries and symbols were
there at the time, the libraries in the slots are all that is open. -/
theorem accounted_of_operations (console : Console) (files : FileSystem) (dir : LibraryDir)
    (operations : List Operation) :
    (operations.foldl perform (fresh console files dir)).Accounted ∧
      (operations.foldl perform (fresh console files dir)).TornDown := by
  have howned := foldl_perform_owned (fresh_owned console files dir) operations
  exact ⟨howned.accounted, howned.tornDown⟩

/-- LZ4 and LZ4HC share the one library there is; it is closed when the second lets it go. -/
example :
    let files := FileSystem.fresh.put [ascii "work", ascii "liblz4.so"]
      (.library ["LZ4_compress_default", "LZ4_decompress_safe", "LZ4_compress_HC"] (.ofBytes []))
    let h := (fresh (.ofThreshold 0) files .searchPath).perform (.setup [.lz4, .lz4hc])
    h.context.shares .lz4 .lz4hc = true ∧ (h.install (.inProcess .lz4)).loader.closed = [] ∧
      ((h.install (.inProcess .lz4)).install (.inProcess .lz4hc)).loader.closed = [0] := by
  decide +kernel

end Host
end RoundTrip
