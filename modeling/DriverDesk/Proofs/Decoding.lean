import DriverDesk.Proofs.Utf8
import DriverDesk.Text.Encoding

/-!
# Decoding

The octets of a file and its text, for each way of reading them.
-/

namespace DriverDesk.Text

/-- The octets of a byte order mark. -/
def mark : List UInt8 := [0xEF, 0xBB, 0xBF]

/-- The octets of a file without one byte order mark at their front. -/
inductive Unmarked : List UInt8 → List UInt8 → Prop where
  | marked (rest : List UInt8) : Unmarked (mark ++ rest) rest
  | plain {bs : List UInt8} : ¬ mark <+: bs → Unmarked bs bs

theorem Unmarked.dropMark {bs rest : List UInt8} (h : Unmarked bs rest) : dropMark bs = rest := by
  cases h with
  | marked => rfl
  | plain h =>
    unfold Text.dropMark
    split
    next r => exact absurd (List.prefix_append mark r) h
    next => rfl

theorem exists_unmarked (bs : List UInt8) : ∃ rest, Unmarked bs rest := by
  by_cases h : mark <+: bs
  · obtain ⟨rest, rfl⟩ := h
    exact ⟨rest, .marked rest⟩
  · exact ⟨bs, .plain h⟩

/-- The octets of a text begin with a byte order mark only if the text begins with U+FEFF. -/
theorem head?_of_marked {cs : List Char} (h : mark <+: Utf8.encode cs) :
    cs.head? = some '\ufeff' := by
  have hmark : String.utf8EncodeChar '\ufeff' = mark := by decide
  obtain ⟨rest, hrest⟩ := h
  cases cs with
  | nil => cases hrest
  | cons c cs =>
    rw [← hmark, Utf8.encode_cons] at hrest
    obtain ⟨rfl, -⟩ := Utf8.encodeChar_prefix_free hrest
    rfl

namespace Encoding

variable {bs rest : List UInt8}

theorem toList_decode_auto (h : Unmarked bs rest) :
    (auto.decode bs).toList = (Utf8.read? rest).getD (readLatin1 rest) := by
  rw [decode, h.dropMark, String.toList_ofList]

theorem toList_decode_utf8 (h : Unmarked bs rest) :
    (utf8.decode bs).toList = Utf8.readLossy rest := by
  rw [decode, h.dropMark, String.toList_ofList]

theorem toList_decode_latin1 (h : Unmarked bs rest) :
    (latin1.decode bs).toList = readLatin1 rest := by
  rw [decode, h.dropMark, String.toList_ofList]

/-- Decoding gives back the text whose octets are left without the mark. -/
theorem decode_of_unmarked {s : String} (h : Unmarked bs s.toUTF8.data.toList) :
    auto.decode bs = s ∧ utf8.decode bs = s := by
  rw [Utf8.toList_toUTF8] at h
  have hread : Utf8.read? (Utf8.encode s.toList) = some s.toList := Utf8.read?_eq_some_iff.mpr rfl
  constructor
  · rw [← String.toList_inj, toList_decode_auto h, hread, Option.getD_some]
  · rw [← String.toList_inj, toList_decode_utf8 h, Utf8.readLossy_encode]

/-- What no text is encoded as has one character for each octet. -/
theorem decode_auto_eq (h : Unmarked bs rest) :
    (Utf8.WellFormed rest → auto.decode bs = utf8.decode bs) ∧
      (¬ Utf8.WellFormed rest → auto.decode bs = latin1.decode bs) := by
  simp only [← String.toList_inj, toList_decode_auto h, toList_decode_utf8 h,
    toList_decode_latin1 h, Utf8.wellFormed_iff]
  constructor
  · rintro ⟨cs, hcs⟩
    rw [hcs, Option.getD_some, Utf8.readLossy_of_read? hcs]
  · intro hnone
    rw [Option.eq_none_iff_forall_ne_some.mpr fun cs hcs => hnone ⟨cs, hcs⟩, Option.getD_none]

theorem map_toNat_readLatin1 (bs : List UInt8) :
    (readLatin1 bs).map Char.toNat = bs.map UInt8.toNat := by
  unfold readLatin1
  rw [List.map_map]
  refine List.map_congr_left fun b _ => ?_
  have hb : b.toNat < 256 := b.toNat_lt
  exact Utf8.toNat_ofNat_of_scalar (by omega)

theorem readLatin1_injective {bs bs' : List UInt8} (h : readLatin1 bs = readLatin1 bs') :
    bs = bs' := by
  have hvalues := congrArg (List.map Char.toNat) h
  rw [map_toNat_readLatin1, map_toNat_readLatin1] at hvalues
  exact List.map_injective_iff.mpr (fun _ _ => UInt8.toNat_inj.mp) hvalues

/-- Decoding undoes encoding, with a mark or without; and whatever the octets are, one of the
other two readings is what `auto` gives. -/
theorem decode_undoes_encoding :
    (∀ s : String,
      (auto.decode (mark ++ s.toUTF8.data.toList) = s ∧
        utf8.decode (mark ++ s.toUTF8.data.toList) = s) ∧
      (s.toList.head? ≠ some '\ufeff' →
        auto.decode s.toUTF8.data.toList = s ∧ utf8.decode s.toUTF8.data.toList = s)) ∧
    (∀ bs, ∃ rest, Unmarked bs rest ∧
      (Utf8.WellFormed rest → auto.decode bs = utf8.decode bs) ∧
      (¬ Utf8.WellFormed rest → auto.decode bs = latin1.decode bs) ∧
      (latin1.decode bs).toList.map Char.toNat = rest.map UInt8.toNat ∧
      ((utf8.decode bs).toUTF8.data.toList = rest ↔ Utf8.WellFormed rest) ∧
      ∀ s : String, utf8.decode bs = s ↔ Utf8.Reads rest s.toList) ∧
    ∀ bs bs', ¬ mark <+: bs → ¬ mark <+: bs' → latin1.decode bs = latin1.decode bs' →
      bs = bs' := by
  refine ⟨fun s => ⟨decode_of_unmarked (.marked _), fun hhead => decode_of_unmarked (.plain ?_)⟩,
    fun bs => ?_, fun bs bs' h h' heq => ?_⟩
  · rw [Utf8.toList_toUTF8]
    exact fun hmark => hhead (head?_of_marked hmark)
  · obtain ⟨rest, h⟩ := exists_unmarked bs
    obtain ⟨hvalid, hinvalid⟩ := decode_auto_eq h
    refine ⟨rest, h, hvalid, hinvalid, ?_, ?_, fun s => ?_⟩
    · rw [toList_decode_latin1 h, map_toNat_readLatin1]
    · rw [Utf8.toList_toUTF8, toList_decode_utf8 h, Utf8.encode_readLossy_iff]
    · rw [← String.toList_inj, toList_decode_utf8 h, Utf8.reads_iff]
  · have hlists := congrArg String.toList heq
    rw [toList_decode_latin1 (.plain h), toList_decode_latin1 (.plain h')] at hlists
    exact readLatin1_injective hlists

end Encoding

end DriverDesk.Text
