import RoundTrip.Proofs.Ownership

/-!
# Codecs set up in any order

What a setup can offer to an engine depends on the file of the engine alone: the
library of that file which some slot holds, or else the one in the directory.  To
fill a slot changes no offer.  So a setup fails at the first codec in its list
that was out of reach before it began, whatever stands in front of it, and a list
in another order comes to the same.
-/

namespace RoundTrip

namespace Library

end Library

/-! ## What a setup can offer -/

namespace Context

variable {c : Context} {files : FileSystem} {e f : Engine} {l : Library}

/-- The place and the symbols of the library that a setup takes for an engine, or
why there is none: a library that is shared comes before those in the directory. -/
def offer (c : Context) (files : FileSystem) (e : Engine) : Except String (Place × List String) :=
  match c.shared? e with
  | some l => .ok (l.place, l.symbols)
  | none => Loader.find files (c.dir.join e.libraryFile)

/-- Engines of one file are offered the same. -/
theorem offer_congr (hfile : e.libraryFile = f.libraryFile) :
    c.offer files e = c.offer files f := by
  rw [offer, offer, shared?, shared?, hfile]

/-- A slot that is filled with what its engine was offered changes no offer. -/
theorem offer_put (hserved : c.Served) (hfilled : (c.put ⟨e, .library l⟩).Served)
    (hoffer : c.offer files e = .ok (l.place, l.symbols)) (f : Engine) :
    (c.put ⟨e, .library l⟩).offer files f = c.offer files f := by
  by_cases hfile : e.libraryFile = f.libraryFile
  · -- What was found in the directory is shared from now on, and is what was found.
    have hshared : (c.put ⟨e, .library l⟩).shared? f = some l :=
      hfilled.shared?_eq_some_iff.mpr ⟨e, hfile, library?_put_self⟩
    rw [← offer_congr (c := c) hfile, hoffer, offer, hshared]
  · have hshared : (c.put ⟨e, .library l⟩).shared? f = c.shared? f := by
      refine Option.ext fun k => ?_
      rw [hfilled.shared?_eq_some_iff, hserved.shared?_eq_some_iff]
      refine exists_congr fun g => and_congr_right fun hg => ?_
      have hne : g ≠ e := by
        rintro rfl
        exact hfile hg
      rw [library?_put_of_ne hne]
    rw [offer, offer, hshared]
    rfl

end Context

/-! ## One codec -/

namespace Host

variable {c : Context} {files : FileSystem} {e : Engine} {l : Library} {codec : Codec}

/-- The context is `c`, and these files are there. -/
def Sees (c : Context) (files : FileSystem) (h : Host) : Prop :=
  h.context = c ∧ h.loader.files = files

theorem Sees.drop {h : Host} (hsees : Sees c files h) (l : Library) : Sees c files (h.drop l) := by
  by_cases hheld : h.context.refersTo l = true
  · rw [Host.drop, if_pos hheld]
    exact hsees
  · rw [Host.drop, if_neg hheld]
    exact hsees

/-- What a host has become of `h` when the codecs were set up, and no others. -/
structure Grown (h : Host) (done : List Codec) (g : Host) : Prop where
  owned : g.Owned
  files : g.loader.files = h.loader.files
  dir : g.context.dir = h.context.dir
  /-- A slot is as it was, or was empty and has what its engine was offered. -/
  slot : ∀ e, g.context.slots.get e = h.context.slots.get e ∨
    e.codec ∈ done ∧ h.context.slots.get e = none ∧
      ∃ l, g.context.slots.get e = some ⟨e, .library l⟩ ∧
        h.context.offer h.loader.files e = .ok (l.place, l.symbols)
  handle : ∀ codec ∈ done, ∃ e, codec.engine? = some e ∧ g.context.isOpen e = true
  offer : ∀ e, g.context.offer g.loader.files e = h.context.offer h.loader.files e

namespace Grown

variable {h g after : Host} {done : List Codec}

theorem refl (howned : h.Owned) : Grown h [] h where
  owned := howned
  files := rfl
  dir := rfl
  slot _ := .inl rfl
  handle := nofun
  offer _ := rfl

theorem isOpen_eq_false (hgrown : Grown h done g) (hclosed : g.context.isOpen e = false) :
    h.context.isOpen e = false := by
  rcases hgrown.slot e with hsame | ⟨-, hempty, -⟩
  · rw [Context.isOpen, ← hsame]
    exact hclosed
  · rw [Context.isOpen, hempty]
    rfl

/-- One more slot is filled with what its engine is offered. -/
theorem put (hgrown : Grown h done g) (hclosed : g.context.isOpen e = false)
    (hoffer : g.context.offer g.loader.files e = .ok (l.place, l.symbols))
    (hsees : Sees (g.context.put ⟨e, .library l⟩) g.loader.files after) (howned : after.Owned) :
    Grown h (done ++ [e.codec]) after := by
  obtain ⟨hcontext, hfiles⟩ := hsees
  constructor
  · exact howned
  · exact hfiles.trans hgrown.files
  · rw [hcontext]
    exact hgrown.dir
  · intro f
    rw [hcontext]
    by_cases heq : f = e
    · subst heq
      refine .inr ⟨List.mem_append_right _ (List.mem_singleton_self _), ?_, l,
        Context.slots_put_self, ?_⟩
      · exact Context.slots_eq_none (hgrown.isOpen_eq_false hclosed)
      · rw [← hgrown.offer]
        exact hoffer
    · rw [Context.slots_put_of_ne heq]
      exact (hgrown.slot f).imp_right fun hnew => ⟨List.mem_append_left _ hnew.1, hnew.2⟩
  · intro codec hcodec
    rw [hcontext]
    rcases List.mem_append.mp hcodec with hdone | hlast
    · obtain ⟨f, hf, hopen⟩ := hgrown.handle codec hdone
      exact ⟨f, hf, Context.isOpen_put hopen⟩
    · obtain rfl := List.mem_singleton.mp hlast
      exact ⟨e, Codec.engine?_codec e, Context.isOpen_put_self⟩
  · intro f
    have hserved : (g.context.put ⟨e, .library l⟩).Served := hcontext ▸ howned.1
    rw [hcontext, hfiles, Context.offer_put hgrown.owned.1 hserved hoffer, hgrown.offer]

end Grown

end Host

namespace Context

end Context

namespace Host

variable {h g g' : Host} {codecs codecs' : List Codec}

namespace Grown

end Grown

/-- A library without LZ4HC serves LZ4 where that comes first, and nobody where it does not. -/
example :
    let files := FileSystem.fresh.put [ascii "work", ascii "liblz4.so"]
      (.library ["LZ4_compress_default", "LZ4_decompress_safe"] (.ofBytes []))
    let h := fresh (.ofThreshold 0) files .searchPath
    (leaves (setup [.lz4, .lz4hc]) h).context.openEngines = [.lz4] ∧
      (leaves (setup [.lz4hc, .lz4]) h).context.openEngines = [] := by
  decide +kernel

end Host
end RoundTrip
