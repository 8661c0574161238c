import ClusterEvents.Text.Glyph

/-!
# Strings and the order of their bytes

Strings are compared character by character. Their UTF-8 bytes, compared byte by byte,
give the same order (`ofString_lt_ofString_iff`): no character's bytes begin those of
another, and the bytes of a character are its digits to the base sixty-four, behind a
mark that grows with their number. Read as glyphs, they are the characters again.
-/

namespace ClusterEvents

namespace Bytes

theorem ofNat_cons_lt_iff {a b : Nat} (ha : a < 256) (hb : b < 256) (l l' : Bytes) :
    UInt8.ofNat a :: l < UInt8.ofNat b :: l' ↔ a < b ∨ a = b ∧ l < l' := by
  rw [List.cons_lt_cons_iff, UInt8.lt_iff_toNat_lt, ← UInt8.toNat_inj, UInt8.toNat_ofNat',
    UInt8.toNat_ofNat', Nat.mod_eq_of_lt ha, Nat.mod_eq_of_lt hb]

theorem utf8EncodeChar_append_lt {c d : Char} (h : c < d) (l l' : Bytes) :
    String.utf8EncodeChar c ++ l < String.utf8EncodeChar d ++ l' := by
  have hlt : c.val.toNat < d.val.toNat := h
  have hd : d.val.toNat < 1114112 := by
    rcases d.valid with hd | ⟨-, hd⟩
    · exact Nat.lt_trans hd (by decide)
    · exact hd
  simp only [String.utf8EncodeChar]
  generalize c.val.toNat = v at *
  generalize d.val.toNat = w at *
  have hdigits : v / 4096 < w / 4096 ∨ v / 4096 = w / 4096 ∧
      (v / 64 % 64 < w / 64 % 64 ∨ v / 64 % 64 = w / 64 % 64 ∧ v % 64 < w % 64) := by
    omega
  -- One case for each pair of lengths.
  repeat' split
  all_goals simp (disch := omega) only [List.cons_append, List.nil_append, ofNat_cons_lt_iff]
  case isFalse.isFalse.isFalse.isFalse =>
    rcases hdigits with h | ⟨h, h'⟩
    · omega
    · omega
  all_goals omega

theorem append_lt_append_iff (l m m' : Bytes) : l ++ m < l ++ m' ↔ m < m' := by
  induction l with
  | nil => rfl
  | cons b l ih => simp [ih]

theorem nil_lt_utf8EncodeChar_append (c : Char) (l : Bytes) :
    [] < String.utf8EncodeChar c ++ l := by
  rw [String.utf8EncodeChar]
  repeat' split
  all_goals exact List.nil_lt_cons ..

theorem flatMap_utf8EncodeChar_lt_iff (cs ds : List Char) :
    cs.flatMap String.utf8EncodeChar < ds.flatMap String.utf8EncodeChar ↔ cs < ds := by
  induction cs generalizing ds with
  | nil =>
      cases ds with
      | nil => simp
      | cons d ds => simp [nil_lt_utf8EncodeChar_append]
  | cons c cs ih =>
      cases ds with
      | nil => simp
      | cons d ds =>
          rw [List.flatMap_cons, List.flatMap_cons, List.cons_lt_cons_iff]
          rcases Std.lt_trichotomy c d with hlt | rfl | hgt
          · simp [hlt, utf8EncodeChar_append_lt hlt]
          · simp [append_lt_append_iff, ih]
          · have hbytes := List.lt_asymm (utf8EncodeChar_append_lt hgt
              (ds.flatMap String.utf8EncodeChar) (cs.flatMap String.utf8EncodeChar))
            have hnlt : ¬ c < d := fun hlt => Char.lt_irrefl c (Char.lt_trans hlt hgt)
            have hne : c ≠ d := fun heq => Char.lt_irrefl c (heq ▸ hgt)
            simp [hbytes, hnlt, hne]

theorem ofString_eq_flatMap (s : String) :
    ofString s = s.toList.flatMap String.utf8EncodeChar := by
  have hbytes : s.toByteArray = s.toList.utf8Encode := by
    rw [← String.toByteArray_ofList, String.ofList_toList]
  rw [ofString, String.toUTF8, hbytes, List.utf8Encode]
  simp

theorem ofString_lt_ofString_iff (s t : String) : ofString s < ofString t ↔ s < t := by
  rw [ofString_eq_flatMap, ofString_eq_flatMap, flatMap_utf8EncodeChar_lt_iff, String.lt_iff]

theorem toString?_ofString (s : String) : (ofString s).toString? = some s := by
  have hbytes : (⟨(ofString s).toArray⟩ : ByteArray) = s.toByteArray := by
    rw [ofString, String.toUTF8, Array.toArray_toList]
  rw [toString?, hbytes, String.fromUTF8?, dif_pos s.isValidUTF8]
  rfl

end Bytes

theorem Glyphs.ofBytes_ofString (s : String) : ofBytes (Bytes.ofString s) = ofString s := by
  rw [ofBytes, Bytes.toString?_ofString]

end ClusterEvents
