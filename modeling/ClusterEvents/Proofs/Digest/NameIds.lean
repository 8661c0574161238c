import ClusterEvents.Digest.NameId
import ClusterEvents.Proofs.Text.Pieces

/-!
# Identifiers and collisions

The groups of hexadecimal digits show all sixteen bytes of an identifier (`grouped_inj`). So two
names have one identifier only if their bytes are the same, or if the digest of different bytes
comes to the same identifier (`ofName_eq_ofName_iff`).
-/

namespace ClusterEvents

namespace Text

theorem hexDigit?_digitChar {n : Nat} (h : n < 16) : hexDigit? (Nat.digitChar n) = some n := by
  revert n
  decide

theorem unhex?_flatMap_hexByte (bytes : Bytes) : unhex? (bytes.flatMap hexByte) = some bytes := by
  induction bytes with
  | nil => rfl
  | cons b bytes ih =>
      have hb := b.toNat_lt
      have hdigits : b.toNat / 16 * 16 + b.toNat % 16 = b.toNat := by omega
      rw [List.flatMap_cons, hexByte, List.cons_append, List.cons_append, List.nil_append, unhex?,
        hexDigit?_digitChar (by omega), hexDigit?_digitChar (by omega), ih]
      simp only [Option.bind_eq_bind, Option.bind_some, hdigits, UInt8.ofNat_toNat]

theorem hex_inj {bytes bytes' : Bytes} : hex bytes = hex bytes' ↔ bytes = bytes' := by
  refine ⟨fun h => ?_, congrArg hex⟩
  have hread := congrArg unhex? (String.ofList_injective h)
  rw [unhex?_flatMap_hexByte, unhex?_flatMap_hexByte] at hread
  exact Option.some.inj hread

theorem hyphen_not_mem_hex (bytes : Bytes) : '-' ∉ (hex bytes).toList := by
  have hdigit : ∀ n < 16, Nat.digitChar n ≠ '-' := by decide
  intro hmem
  rw [hex, String.toList_ofList, List.mem_flatMap] at hmem
  obtain ⟨b, -, hb⟩ := hmem
  have hlt := b.toNat_lt
  simp only [hexByte, List.mem_cons, List.not_mem_nil, or_false] at hb
  rcases hb with heq | heq
  · exact hdigit (b.toNat / 16) (by omega) heq.symm
  · exact hdigit (b.toNat % 16) (by omega) heq.symm

end Text

namespace Digest.NameId

/-- The groups that an identifier is written in. -/
def parts (bytes : Bytes) : List Bytes :=
  [(bytes.drop 0).take 4, (bytes.drop 4).take 2, (bytes.drop 6).take 2, (bytes.drop 8).take 2,
    (bytes.drop 10).take 6]

/-- Different bytes that come to the same identifier. -/
def Collide (name name' : Bytes) : Prop :=
  name ≠ name' ∧ stamp ((Sha1.digest name).take 16) = stamp ((Sha1.digest name').take 16)

variable {bytes bytes' : Bytes}

theorem grouped_eq (bytes : Bytes) :
    grouped bytes = String.intercalate "-" ((parts bytes).map Text.hex) := rfl

theorem take_append_drop (bytes : Bytes) (start count : Nat) :
    (bytes.drop start).take count ++ bytes.drop (start + count) = bytes.drop start := by
  rw [← List.drop_drop, List.take_append_drop]

theorem flatten_parts (h : bytes.length ≤ 16) : (parts bytes).flatten = bytes := by
  have hlast : (bytes.drop 10).take 6 = bytes.drop 10 := by
    refine List.take_of_length_le ?_
    rw [List.length_drop]
    omega
  simp only [parts, hlast, List.flatten_cons, List.flatten_nil, List.append_nil]
  rw [take_append_drop bytes 8 2, take_append_drop bytes 6 2, take_append_drop bytes 4 2,
    take_append_drop bytes 0 4, List.drop_zero]

theorem parts_eq_of_grouped_eq (h : grouped bytes = grouped bytes') :
    parts bytes = parts bytes' := by
  have hcut (bytes : Bytes) : Text.splitOn '-' (grouped bytes).toList =
      ((parts bytes).map Text.hex).map String.toList := by
    have hhyphen : "-".toList = ['-'] := rfl
    rw [grouped_eq, String.toList_intercalate, hhyphen]
    refine Text.splitOn_intercalate (by simp [parts]) fun piece hpiece => ?_
    simp only [List.map_map, List.mem_map, Function.comp_apply] at hpiece
    obtain ⟨part, -, rfl⟩ := hpiece
    exact Text.hyphen_not_mem_hex part
  have hpieces := (hcut bytes).symm.trans (h ▸ hcut bytes')
  have hhex := (List.map_inj_right fun _ _ => String.toList_inj.1).1 hpieces
  exact (List.map_inj_right fun _ _ => Text.hex_inj.1).1 hhex

theorem grouped_inj (h : bytes.length ≤ 16) (h' : bytes'.length ≤ 16) :
    grouped bytes = grouped bytes' ↔ bytes = bytes' := by
  refine ⟨fun heq => ?_, congrArg grouped⟩
  rw [← flatten_parts h, parts_eq_of_grouped_eq heq, flatten_parts h']

theorem length_stamp_le (bytes : Bytes) : (stamp (bytes.take 16)).length ≤ 16 := by
  rw [stamp, List.length_map, List.length_zipIdx]
  exact List.length_take_le 16 bytes

theorem ofName_eq_ofName_iff (space name space' name' : Bytes) :
    ofName space name = ofName space' name' ↔
      space ++ name = space' ++ name' ∨ Collide (space ++ name) (space' ++ name') := by
  rw [ofName, ofName, grouped_inj (length_stamp_le _) (length_stamp_le _), Collide]
  by_cases heq : space ++ name = space' ++ name'
  · simp [heq]
  · simp [heq]

end Digest.NameId

end ClusterEvents
