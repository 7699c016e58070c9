import RoundTrip.Native.StandIn
import RoundTrip.Proofs.Lossless

/-!
# Stand-in engines that are lossless

The stand-ins for LZ4 and LZ4HC put the length of a block in front of its bytes.
Four bytes more are well within the room that is offered, and the length is read
back as it was written, so these two engines are lossless at every level.
-/

namespace RoundTrip

namespace Algorithm

variable {source block : Region} {capacity : Nat} {bytes : List UInt8}

theorem length_lengthBytes (n : Nat) : (lengthBytes n).length = 4 := rfl

theorem copyCompress_eq (hpos : 0 < source.size) (hroom : source.size + 4 ≤ capacity) :
    copyCompress source capacity = ⟨lengthBytes source.size ++ source.toList, true⟩ := by
  rw [copyCompress, if_neg]
  rintro (hempty | hsmall)
  · exact Nat.ne_of_gt hpos hempty
  · exact Nat.not_lt_of_le hroom hsmall

theorem copyDecompress_eq (hblock : block.toList = lengthBytes bytes.length ++ bytes)
    (hlength : bytes.length < 0x100000000) (hroom : bytes.length ≤ capacity) :
    copyDecompress block capacity = ⟨bytes, true⟩ := by
  have hsize : block.size = 4 + bytes.length := by
    rw [← block.length_toList, hblock, List.length_append, length_lengthBytes]
  have hfront : (block.take 4).toList = lengthBytes bytes.length ++ [] := by
    rw [Region.toList_take, hblock, List.append_nil]
    exact List.take_left' (length_lengthBytes _)
  have hfits : ¬ (capacity < bytes.length ∨ block.size < 4 + bytes.length) := by omega
  simp only [copyDecompress, hfront, readLength?_lengthBytes hlength, if_neg hfits]
  congr
  rw [Region.toList_take, List.take_of_length_le (by rw [block.length_toList, hsize]), hblock]
  exact List.drop_left' (length_lengthBytes _)

end Algorithm

namespace StandIn

/-- The engines that copy count in 32 bits with a sign, and report by a returned length. -/
theorem conventions_of_copies {e : Engine} (hcopies : Algorithm.ofEngine e = .copy) :
    e.convention = .returnsLength ∧ e.lengthLimit = 0x7FFFFFFF := by
  cases e with
  | lz4 | lz4hc => exact ⟨rfl, rfl⟩
  | bzip2 | zlib => contradiction

theorem acceptable_of_copies {e : Engine} (hcopies : Algorithm.ofEngine e = .copy)
    (level extra : Int) :
    acceptable (.compress e level extra) = true ∧ acceptable (.decompress e) = true := by
  cases e with
  | lz4 | lz4hc => exact ⟨rfl, rfl⟩
  | bzip2 | zlib => contradiction

/-- A complete product is written at the start of the destination, and its length reported. -/
theorem reply_of_product (call : NativeCall) {written : List UInt8}
    (hcopies : Algorithm.ofEngine call.entry.engine = .copy)
    (haccepted : acceptable call.request = true)
    (hproduct : Algorithm.copy.run call.request.direction call.source call.capacity =
      ⟨written, true⟩)
    (hsome : 0 < written.length) (hfits : written.length ≤ call.capacity)
    (hlimit : call.capacity ≤ 0x7FFFFFFF) :
    call.entry.engine.interpret (reply call) call.capacity = .ok written.length ∧
      ∀ room : Region, call.capacity ≤ room.size →
        ((reply call).apply call.capacity room).toList.take written.length = written := by
  have hconvention := (conventions_of_copies hcopies).1
  have hreturned : (reply call).returned = Int32.ofInt written.length := by
    simp only [reply, haccepted, if_true, Behaviour.reply, Behaviour.plain, hcopies, hproduct,
      Option.getD_none, hconvention, Behaviour.flip, List.foldl_nil, Int.add_zero]
  have hwrites : (reply call).writes = [(0, written)] := by
    simp only [reply, haccepted, if_true, Behaviour.reply, Behaviour.plain, hcopies, hproduct,
      Option.getD_none, hconvention, Behaviour.flip, List.foldl_nil]
  have hreads : (reply call).returned.toInt = written.length := by
    rw [hreturned]
    exact Int32.toInt_ofInt_of_le (by omega) (by omega)
  constructor
  · have hpositive : ¬ (written.length : Int) ≤ 0 := by omega
    have hwithin : ¬ call.capacity < written.length := Nat.not_lt_of_le hfits
    simp only [Engine.interpret, hconvention, hreads, if_neg hpositive, Int.toNat_natCast,
      if_neg hwithin]
  · intro room hroom
    have hput := room.toList_take_write written
    rw [Region.toList_take, List.take_of_length_le (Nat.le_trans hfits hroom)] at hput
    simp only [Reply.apply, hwrites, List.foldl_cons, List.foldl_nil, upTo_eq_take, Nat.sub_zero,
      List.take_of_length_le hfits, hput]

section Engines

variable {σ : Type} {good : σ → Prop} {entry : EntryPoints}

theorem restores (hcopies : Algorithm.ofEngine entry.engine = .copy) {bytes : List UInt8}
    (hsome : 0 < bytes.length) (hlength : bytes.length ≤ 0x7FFFFFFF) :
    (native : Native σ).Restores good entry bytes
      (Algorithm.lengthBytes bytes.length ++ bytes) := by
  intro s hs block hblock
  have hproduct : Algorithm.copy.run (Request.decompress entry.engine).direction block
      bytes.length = ⟨bytes, true⟩ := by
    rw [Request.direction_decompress]
    exact Algorithm.copyDecompress_eq hblock (by omega) (Nat.le_refl _)
  obtain ⟨hreported, hput⟩ :=
    reply_of_product ⟨entry, .decompress entry.engine, block, bytes.length⟩ hcopies
      (acceptable_of_copies hcopies 0 0).2 hproduct hsome (Nat.le_refl _) hlength
  exact ⟨_, s, rfl, hs, hreported, hput⟩

theorem lossless (hcopies : Algorithm.ofEngine entry.engine = .copy) (level extra : Int) :
    (native : Native σ).Lossless good entry level extra := by
  intro s hs source capacity hpos hroom hlimit
  rw [(conventions_of_copies hcopies).2] at hlimit
  have hfour : source.size + 4 ≤ capacity := by
    rw [minPad] at hroom
    omega
  have hlength : (Algorithm.lengthBytes source.size ++ source.toList).length = 4 + source.size := by
    rw [List.length_append, Algorithm.length_lengthBytes, source.length_toList]
  have hfits : (Algorithm.lengthBytes source.size ++ source.toList).length ≤ capacity := by omega
  have hproduct : Algorithm.copy.run (Request.compress entry.engine level extra).direction source
      capacity = ⟨Algorithm.lengthBytes source.size ++ source.toList, true⟩ := by
    rw [Request.direction_compress]
    exact Algorithm.copyCompress_eq hpos hfour
  obtain ⟨hreported, hput⟩ :=
    reply_of_product ⟨entry, .compress entry.engine level extra, source, capacity⟩ hcopies
      (acceptable_of_copies hcopies level extra).1 hproduct (by omega) hfits hlimit
  refine ⟨_, s, _, rfl, hs, hreported, by omega, fun room hle => ?_⟩
  have hrestores : (native : Native σ).Restores good entry source.toList
      (Algorithm.lengthBytes source.toList.length ++ source.toList) :=
    restores hcopies (by rwa [source.length_toList]) (by rw [source.length_toList]; omega)
  rw [hput room hle]
  rwa [source.length_toList] at hrestores

end Engines

end StandIn

end RoundTrip
