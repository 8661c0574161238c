import ClusterEvents.Json.Printer
import ClusterEvents.Json.Reader

/-!
# Reading strings and integers back

A string that is written escaped is read as itself (`readString_written`), whatever
characters it has, and an integer of sixty-four bits that is written in digits is read as
that integer (`readNumber_integer`). A string ends with its quote. Digits have no mark of
their end, so what stands behind them must not go on with the number: `Closes` says that
nothing follows, or one of the marks between and behind values.
-/

namespace ClusterEvents.Json

-- Powers are those that numbers bring along, whatever else is imported.
attribute [local instance (high)] instPowNat instNatPowNat

/-- The text is at its end, or goes on with a mark that stands between or behind values. -/
def Closes (rest : Glyphs) : Prop :=
  ∀ g ∈ rest.head?, g = some ',' ∨ g = some ']' ∨ g = some '}'

theorem closes_nil : Closes [] := by
  intro g hg
  cases hg

theorem closes_comma (rest : Glyphs) : Closes (some ',' :: rest) := by
  intro g hg
  exact .inl (Option.some.inj hg).symm

theorem closes_bracket (rest : Glyphs) : Closes (some ']' :: rest) := by
  intro g hg
  exact .inr (.inl (Option.some.inj hg).symm)

theorem closes_brace (rest : Glyphs) : Closes (some '}' :: rest) := by
  intro g hg
  exact .inr (.inr (Option.some.inj hg).symm)

/-! ## Strings -/

theorem hexDigit?_hexDigit {n : Nat} (h : n < 16) : Text.hexDigit? (hexDigit n) = some n := by
  revert n
  decide

theorem readUnicode_control {n : Nat} (h : n < 0x20) (rest : Glyphs) :
    readUnicode (some '0' :: some '0' :: some (hexDigit (n / 16)) :: some (hexDigit n) :: rest) =
      .ok (Char.ofNat n, rest) := by
  have hzero : Text.hexDigit? '0' = some 0 := rfl
  have hhigh : Text.hexDigit? (hexDigit (n / 16)) = some (n / 16) :=
    hexDigit?_hexDigit (by omega)
  have hlow : Text.hexDigit? (hexDigit n) = some (n % 16) := by
    have hmod : hexDigit n = hexDigit (n % 16) := by simp [hexDigit]
    rw [hmod]
    exact hexDigit?_hexDigit (by omega)
  have hunit : n / 16 * 16 + n % 16 = n := by omega
  have hnotLow : isLowSurrogate n = false := by
    simp only [isLowSurrogate, Bool.and_eq_false_iff, decide_eq_false_iff_not]
    omega
  have hnotHigh : isHighSurrogate n = false := by
    simp only [isHighSurrogate, Bool.and_eq_false_iff, decide_eq_false_iff_not]
    omega
  simp [readUnicode, readCodeUnit, hexValue?, hzero, hhigh, hlow, hunit, hnotLow, hnotHigh,
    bind, Except.bind]

/-- However a character is written, one step reads it. -/
theorem readChar_escape (c : Char) (rest : Glyphs) :
    readChar ((escape c).map some ++ rest) = .ok (some (some c), rest) := by
  rw [escape.eq_def]
  split
  case h_8 hquote hbackslash _ _ _ _ _ =>
    by_cases hcontrol : c.toNat < 0x20
    · rw [if_pos hcontrol]
      have hread := readUnicode_control hcontrol rest
      rw [Char.ofNat_toNat] at hread
      simp [readChar, hread, bind, Except.bind]
    · rw [if_neg hcontrol]
      rw [List.map_singleton, List.singleton_append, readChar.eq_def]
      split <;> simp_all
  all_goals rfl

theorem readGlyphs_written (cs : List Char) (rest : Glyphs) {fuel : Nat}
    (hfuel : cs.length < fuel) :
    readGlyphs fuel ((cs.flatMap escape).map some ++ some '"' :: rest) =
      .ok (cs.map some, rest) := by
  induction cs generalizing fuel with
  | nil =>
      obtain ⟨fuel, rfl⟩ := Nat.exists_eq_add_one.2 hfuel
      rfl
  | cons c cs ih =>
      obtain ⟨fuel, rfl⟩ := Nat.exists_eq_add_one.2 (Nat.zero_lt_of_lt hfuel)
      rw [List.flatMap_cons, List.map_append, List.append_assoc, readGlyphs, readChar_escape]
      simp only [bind, Except.bind, ih (Nat.lt_of_succ_lt_succ hfuel), List.map_cons]

theorem characters?_map_some (cs : List Char) : characters? (cs.map some) = some cs := by
  induction cs with
  | nil => rfl
  | cons c cs ih => simp [characters?, ih]

theorem length_le_length_flatMap_escape (cs : List Char) :
    cs.length ≤ (cs.flatMap escape).length := by
  have hescape (c : Char) : 0 < (escape c).length := by
    rw [escape.eq_def]
    repeat' split
    all_goals exact Nat.succ_pos _
  induction cs with
  | nil => exact Nat.le_refl 0
  | cons c cs ih =>
      have hc := hescape c
      rw [List.flatMap_cons, List.length_append, List.length_cons]
      omega

/-- The text of a string behind its opening quote, which is read as the string. -/
theorem readString_written (s : String) (rest : Glyphs) :
    readString ((s.toList.flatMap escape).map some ++ some '"' :: rest) = .ok (s, rest) := by
  have hlength := length_le_length_flatMap_escape s.toList
  have hfuel : s.toList.length <
      ((s.toList.flatMap escape).map some ++ some '"' :: rest).length + 1 := by
    simp only [List.length_append, List.length_map]
    omega
  rw [readString, readGlyphs_written s.toList rest hfuel]
  simp [bind, Except.bind, characters?_map_some]

/-! ## Integers -/

theorem digitValue?_eq_none_of_closes {rest : Glyphs} (h : Closes rest) :
    ∀ g ∈ rest.head?, digitValue? g = none := by
  intro g hg
  rcases h g hg with rfl | rfl | rfl <;> rfl

theorem digitValue?_of_isDigit {c : Char} (h : c.isDigit = true) :
    digitValue? (some c) = some (c.toNat - 48) := by
  have hrange : '0' ≤ c ∧ c ≤ '9' := by
    simpa [Char.isDigit, Char.le_def] using h
  rw [digitValue?, if_pos hrange]

theorem readDigits_append {digits : List Char} (hdigits : ∀ c ∈ digits, c.isDigit = true)
    {rest : Glyphs} (hrest : ∀ g ∈ rest.head?, digitValue? g = none) :
    readDigits (digits.map some ++ rest) = (digits.map fun c => c.toNat - 48, rest) := by
  induction digits with
  | nil =>
      cases rest with
      | nil => rfl
      | cons g rest => simp [readDigits, hrest g rfl]
  | cons c digits ih =>
      have hc := digitValue?_of_isDigit (hdigits c List.mem_cons_self)
      have htail := ih fun d hd => hdigits d (List.mem_cons_of_mem c hd)
      simp [readDigits, hc, htail]

theorem ofDigits_map (digits : List Char) :
    ofDigits (digits.map fun c => c.toNat - 48) = Nat.ofDigitChars 10 digits 0 := by
  rw [ofDigits, List.foldl_map, Nat.ofDigitChars_eq_foldl]
  simp only [Nat.mul_comm]
  rfl

/-- Only zero itself is written with a zero in front. -/
theorem toDigits_eq_zero_cons {n : Nat} {more : List Char}
    (h : Nat.toDigits 10 n = '0' :: more) : more = [] := by
  induction n using Nat.strongRecOn generalizing more with
  | ind n ih =>
      rw [Nat.toDigits_eq_if (by decide)] at h
      split at h
      · exact (List.cons.inj h).2.symm
      · rename_i hlarge
        cases hfront : Nat.toDigits 10 (n / 10) with
        | nil => exact absurd hfront Nat.toDigits_ne_nil
        | cons c front =>
            rw [hfront] at h
            obtain ⟨rfl, -⟩ := List.cons.inj h
            -- The digits in front are those of the tenth, so the tenth is zero itself.
            obtain rfl := ih (n / 10) (by omega) hfront
            have hzero := congrArg (fun digits => Nat.ofDigitChars 10 digits 0) hfront
            rw [Nat.ofDigitChars_ten_toDigits] at hzero
            have : n / 10 = 0 := hzero
            omega

theorem eq_zero_of_digit {c : Char} (h : c.isDigit = true) (hzero : c.toNat - 48 = 0) :
    c = '0' := by
  have hlow : 48 ≤ c.toNat := (Char.isDigit_iff_toNat.1 h).1
  have heq : c.toNat = 48 := by omega
  exact Char.toNat_inj.1 heq

theorem readWhole_toDigits (n : Nat) {rest : Glyphs}
    (hrest : ∀ g ∈ rest.head?, digitValue? g = none) :
    readWhole ((Nat.toDigits 10 n).map some ++ rest) =
      .ok ((Nat.toDigits 10 n).map fun c => c.toNat - 48, rest) := by
  have hdigits : ∀ c ∈ Nat.toDigits 10 n, c.isDigit = true :=
    fun c hc => Nat.isDigit_of_mem_toDigits (by decide) (by decide) hc
  rw [readWhole, readDigits1, readDigits_append hdigits hrest]
  cases h : Nat.toDigits 10 n with
  | nil => exact absurd h Nat.toDigits_ne_nil
  | cons c more =>
      simp only [List.map_cons, bind, Except.bind]
      split
      · rename_i hzero
        obtain ⟨hc, hmore⟩ := List.cons.inj hzero
        obtain rfl := eq_zero_of_digit (hdigits c (h ▸ List.mem_cons_self)) hc
        obtain rfl := toDigits_eq_zero_cons h
        cases hmore
      · rfl

theorem readFraction_of_closes {rest : Glyphs} (h : Closes rest) :
    readFraction rest = .ok (none, rest) := by
  cases rest with
  | nil => rfl
  | cons g rest => rcases h g rfl with rfl | rfl | rfl <;> rfl

theorem readExponent_of_closes {rest : Glyphs} (h : Closes rest) :
    readExponent rest = .ok (none, rest) := by
  cases rest with
  | nil => rfl
  | cons g rest => rcases h g rfl with rfl | rfl | rfl <;> rfl

/-- What an integer is read as before its range is looked at. -/
def Numeral.ofInt (n : Int) : Numeral where
  negative := decide (n < 0)
  whole := (Nat.toDigits 10 n.natAbs).map fun c => c.toNat - 48
  fraction := none
  exponent := none

theorem readNumeral_integer (n : Int) {rest : Glyphs} (hrest : Closes rest) :
    readNumeral ((integer n).map some ++ rest) = .ok (.ofInt n, rest) := by
  have hwhole := readWhole_toDigits n.natAbs (digitValue?_eq_none_of_closes hrest)
  unfold integer readNumeral
  by_cases hneg : n < 0
  · simp [hneg, hwhole, readFraction_of_closes hrest, readExponent_of_closes hrest, bind,
      Except.bind, Numeral.ofInt]
  · rw [if_neg hneg]
    cases h : Nat.toDigits 10 n.natAbs with
    | nil => exact absurd h Nat.toDigits_ne_nil
    | cons c more =>
        have hc : c.isDigit = true :=
          Nat.isDigit_of_mem_toDigits (by decide) (by decide) (h ▸ List.mem_cons_self)
        have hsign : c ≠ '-' := by
          rintro rfl
          cases hc
        rw [h] at hwhole
        simp only [List.map_cons, List.cons_append] at hwhole
        simp [hneg, hwhole, hsign, h, readFraction_of_closes hrest, readExponent_of_closes hrest,
          bind, Except.bind, Numeral.ofInt]

/-- The integer fits the signed or the unsigned range of sixty-four bits. -/
def FitsWord (n : Int) : Prop :=
  -(2 ^ (63 : Nat) : Nat) ≤ n ∧ n < (2 ^ (64 : Nat) : Nat)

instance (n : Int) : Decidable (FitsWord n) :=
  inferInstanceAs (Decidable (_ ∧ _))

theorem value?_ofInt {n : Int} (h : FitsWord n) : (Numeral.ofInt n).value? = some (.int n) := by
  obtain ⟨hlow, hhigh⟩ := h
  have hmagnitude : ofDigits (Numeral.ofInt n).whole = n.natAbs := by
    rw [Numeral.ofInt, ofDigits_map, Nat.ofDigitChars_ten_toDigits]
  rw [Numeral.value?, hmagnitude]
  by_cases hneg : n < 0
  · have hpos : 0 < n.natAbs := by omega
    have hfits : n.natAbs ≤ 2 ^ (63 : Nat) := by omega
    have habs : -(n.natAbs : Int) = n := by omega
    rw [if_neg (by simp [Numeral.ofInt, hneg]),
      if_pos (by simp [Numeral.ofInt, hneg, hpos, hfits]), habs]
  · have hfits : n.natAbs < 2 ^ (64 : Nat) := by omega
    have habs : (n.natAbs : Int) = n := by omega
    rw [if_pos (by simp [Numeral.ofInt, hneg, hfits]), habs]

theorem readNumber_integer {n : Int} (h : FitsWord n) {rest : Glyphs} (hrest : Closes rest) :
    readNumber ((integer n).map some ++ rest) = .ok (.int n, rest) := by
  simp [readNumber, readNumeral_integer n hrest, value?_ofInt h, bind, Except.bind]

/-- The text of an integer begins like a number. -/
theorem exists_integer_eq_cons (n : Int) :
    ∃ c more, integer n = c :: more ∧ startsNumber (some c) = true := by
  rw [integer]
  split
  · exact ⟨'-', _, rfl, rfl⟩
  · cases h : Nat.toDigits 10 n.natAbs with
    | nil => exact absurd h Nat.toDigits_ne_nil
    | cons c more =>
        have hc : c.isDigit = true :=
          Nat.isDigit_of_mem_toDigits (by decide) (by decide) (h ▸ List.mem_cons_self)
        exact ⟨c, more, rfl, by simp [startsNumber, digitValue?_of_isDigit hc]⟩

end ClusterEvents.Json
