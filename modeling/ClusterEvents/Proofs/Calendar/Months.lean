import ClusterEvents.Calendar.Date
import ClusterEvents.Proofs.Text.Pieces

/-!
# Texts of months

Every month has a text of its own (`Month.text_inj`). Zeros in front of a number do not
change what it reads as, and the digits behind the last hyphen are the month, whether or
not the year has a sign.

The years from zero to 9999 are written in four digits, so the texts of their months are in
the order of the months (`Month.text_lt_text`).
-/

namespace ClusterEvents.Calendar.Month

theorem ofDigitChars_replicate_append (k : Nat) (digits : List Char) :
    Nat.ofDigitChars 10 (List.replicate k '0' ++ digits) 0 = Nat.ofDigitChars 10 digits 0 := by
  induction k with
  | zero => rfl
  | succ k ih => exact ih

theorem padded_inj {width n n' : Nat} : padded width n = padded width n' ↔ n = n' := by
  refine ⟨fun h => ?_, congrArg _⟩
  have hread := congrArg (fun digits => Nat.ofDigitChars 10 digits 0) h
  simpa only [padded, ofDigitChars_replicate_append, Nat.ofDigitChars_ten_toDigits] using hread

theorem isDigit_of_mem_padded {width n : Nat} {c : Char} (h : c ∈ padded width n) :
    c.isDigit = true := by
  rcases List.mem_append.1 h with hzero | hdigit
  · rw [(List.mem_replicate.1 hzero).2]
    rfl
  · exact Nat.isDigit_of_mem_toDigits (by decide) (by decide) hdigit

/-- Digits do not begin with a sign. -/
theorem cons_ne_padded {c : Char} (hc : c.isDigit = false) {digits : List Char} {width n : Nat} :
    c :: digits ≠ padded width n := by
  intro h
  have hdigit := isDigit_of_mem_padded (h ▸ List.mem_cons_self)
  rw [hc] at hdigit
  cases hdigit

theorem yearText_inj {year year' : Int} : yearText year = yearText year' ↔ year = year' := by
  refine ⟨fun h => ?_, congrArg _⟩
  have hsign (year : Int) : (if year < 0 then '-' else '+').isDigit = false := by
    split <;> rfl
  rw [yearText, yearText] at h
  by_cases hplain : 0 ≤ year ∧ year ≤ 9999
  · by_cases hplain' : 0 ≤ year' ∧ year' ≤ 9999
    · rw [if_pos hplain, if_pos hplain'] at h
      have hnat := padded_inj.1 h
      omega
    · rw [if_pos hplain, if_neg hplain'] at h
      exact absurd h.symm (cons_ne_padded (hsign year'))
  · by_cases hplain' : 0 ≤ year' ∧ year' ≤ 9999
    · rw [if_neg hplain, if_pos hplain'] at h
      exact absurd h (cons_ne_padded (hsign year))
    · rw [if_neg hplain, if_neg hplain'] at h
      obtain ⟨hsigns, hdigits⟩ := List.cons.inj h
      have habs := padded_inj.1 hdigits
      have hneg : year < 0 ↔ year' < 0 := by
        by_cases hlt : year < 0 <;> by_cases hlt' : year' < 0 <;> simp [hlt, hlt'] at hsigns ⊢
      omega

theorem text_inj {m m' : Month} : m.text = m'.text ↔ m = m' := by
  refine ⟨fun h => ?_, congrArg _⟩
  have hnone (n : Nat) : ∀ c ∈ padded 2 n, ¬ c = '-' := by
    rintro c hc rfl
    cases isDigit_of_mem_padded hc
  obtain ⟨hyear, -, hmonth⟩ := Text.append_cons_inj (p := (· = '-')) rfl rfl (hnone m.month)
    (hnone m'.month) (String.ofList_injective h)
  obtain ⟨year, month⟩ := m
  obtain ⟨year', month'⟩ := m'
  obtain rfl : year = year' := yearText_inj.1 hyear
  obtain rfl : month = month' := padded_inj.1 hmonth
  rfl

/-! ## Digits -/

/-- How a year is spelled: in four digits or, where these do not suffice, behind its sign. -/
inductive SpellsYear : Int → List Char → Prop
  | plain {year : Nat} {digits : List Char} (hdigits : ∀ c ∈ digits, c.isDigit = true)
      (hlength : digits.length = 4) (hreads : Nat.ofDigitChars 10 digits 0 = year) :
      SpellsYear year digits
  | signed {year : Int} {digits : List Char} (hyear : year < 0 ∨ 9999 < year)
      (hdigits : ∀ c ∈ digits, c.isDigit = true) (hlength : 4 ≤ digits.length)
      (hreads : Nat.ofDigitChars 10 digits 0 = year.natAbs) :
      SpellsYear year ((if year < 0 then '-' else '+') :: digits)

variable {width n n' : Nat}

theorem ofDigitChars_padded (width n : Nat) : Nat.ofDigitChars 10 (padded width n) 0 = n := by
  rw [padded, ofDigitChars_replicate_append, Nat.ofDigitChars_ten_toDigits]

theorem length_padded (width n : Nat) :
    (padded width n).length = max width (Nat.toDigits 10 n).length := by
  simp only [padded, List.length_append, List.length_replicate]
  omega

theorem length_padded_four (h : n ≤ 9999) : (padded 4 n).length = 4 := by
  rw [length_padded, Nat.max_eq_left]
  exact (Nat.length_toDigits_le_iff (by decide) (by decide)).2 (Nat.lt_succ_of_le h)

theorem padded_two (h : n < 100) : padded 2 n = [(n / 10).digitChar, (n % 10).digitChar] := by
  revert n
  decide

theorem spellsYear_yearText (year : Int) : SpellsYear year (yearText year) := by
  rw [yearText]
  split
  case isTrue h =>
    obtain ⟨n, rfl⟩ := Int.eq_ofNat_of_zero_le h.1
    exact .plain (fun _ => isDigit_of_mem_padded) (length_padded_four (by omega))
      (ofDigitChars_padded 4 n)
  case isFalse h =>
    refine .signed (by omega) (fun _ => isDigit_of_mem_padded) ?_ (ofDigitChars_padded 4 _)
    rw [length_padded]
    exact Nat.le_max_left ..

/-! ## Order -/

theorem toNat_bounds {c : Char} (h : c.isDigit = true) : 48 ≤ c.toNat ∧ c.toNat ≤ 57 := by
  simp only [Char.isDigit, Bool.and_eq_true, decide_eq_true_eq] at h
  exact h

/-- The digits in front decide. -/
theorem ofDigitChars_lt_ofDigitChars {l l' : List Char} (hlength : l.length = l'.length)
    (hl : ∀ c ∈ l, c.isDigit = true) {acc acc' : Nat} (h : acc < acc') :
    Nat.ofDigitChars 10 l acc < Nat.ofDigitChars 10 l' acc' := by
  induction l generalizing l' acc acc' with
  | nil =>
      obtain rfl := List.length_eq_zero_iff.1 hlength.symm
      exact h
  | cons c l ih =>
      cases l' with
      | nil => cases hlength
      | cons c' l' =>
          have hzero : '0'.toNat = 48 := rfl
          obtain ⟨-, hnine⟩ := toNat_bounds (hl c List.mem_cons_self)
          rw [Nat.ofDigitChars_cons, Nat.ofDigitChars_cons, hzero]
          refine ih (Nat.succ.inj hlength) (fun d hd => hl d (List.mem_cons_of_mem c hd)) ?_
          omega

/-- Digits of one length are in the order of the numbers that they read as. -/
theorem lt_of_ofDigitChars_lt {l l' : List Char} (hlength : l.length = l'.length)
    (hl : ∀ c ∈ l, c.isDigit = true) (hl' : ∀ c ∈ l', c.isDigit = true) (acc : Nat)
    (h : Nat.ofDigitChars 10 l acc < Nat.ofDigitChars 10 l' acc) : l < l' := by
  induction l generalizing l' acc with
  | nil =>
      obtain rfl := List.length_eq_zero_iff.1 hlength.symm
      exact absurd h (Nat.lt_irrefl acc)
  | cons c l ih =>
      cases l' with
      | nil => cases hlength
      | cons c' l' =>
          rw [List.forall_mem_cons] at hl hl'
          rw [List.cons_lt_cons_iff]
          rcases Std.lt_trichotomy c c' with hlt | rfl | hgt
          · exact .inl hlt
          · exact .inr ⟨rfl, ih (Nat.succ.inj hlength) hl.2 hl'.2 _ h⟩
          · have hvalue : c'.toNat < c.toNat := hgt
            have hzero : '0'.toNat = 48 := rfl
            obtain ⟨hle, -⟩ := toNat_bounds hl'.1
            have hback : Nat.ofDigitChars 10 (c' :: l') acc < Nat.ofDigitChars 10 (c :: l) acc := by
              rw [Nat.ofDigitChars_cons, Nat.ofDigitChars_cons, hzero]
              exact ofDigitChars_lt_ofDigitChars (Nat.succ.inj hlength).symm hl'.2 (by omega)
            exact absurd h (Nat.lt_asymm hback)

theorem append_lt_append {l l' : List Char} (hlength : l.length = l'.length) (h : l < l')
    (r r' : List Char) : l ++ r < l' ++ r' := by
  induction l generalizing l' with
  | nil =>
      obtain rfl := List.length_eq_zero_iff.1 hlength.symm
      exact absurd h (List.lt_irrefl [])
  | cons c l ih =>
      cases l' with
      | nil => cases hlength
      | cons c' l' =>
          rw [List.cons_lt_cons_iff] at h
          rw [List.cons_append, List.cons_append, List.cons_lt_cons_iff]
          exact h.imp_right fun ⟨heq, hlt⟩ => ⟨heq, ih (Nat.succ.inj hlength) hlt⟩

theorem padded_lt_padded (hlength : (padded width n).length = (padded width n').length)
    (h : n < n') : padded width n < padded width n' := by
  refine lt_of_ofDigitChars_lt hlength (fun _ => isDigit_of_mem_padded)
    (fun _ => isDigit_of_mem_padded) 0 ?_
  rwa [ofDigitChars_padded, ofDigitChars_padded]

variable {m m' : Month}

/-- The texts of months in years of four digits are in the order of the months. -/
theorem text_lt_text (hyear : 0 ≤ m.year) (hyear' : m'.year ≤ 9999) (hmonth' : m'.month < 100)
    (h : m.year < m'.year ∨ m.year = m'.year ∧ m.month < m'.month) : m.text < m'.text := by
  obtain ⟨year, hn⟩ := Int.eq_ofNat_of_zero_le hyear
  obtain ⟨year', hn'⟩ : ∃ year' : Nat, m'.year = year' := Int.eq_ofNat_of_zero_le (by omega)
  have hplain : yearText m.year = padded 4 year := by
    rw [yearText, if_pos ⟨hyear, by omega⟩, hn]
    rfl
  have hplain' : yearText m'.year = padded 4 year' := by
    rw [yearText, if_pos ⟨by omega, hyear'⟩, hn']
    rfl
  have hlength : (padded 4 year).length = (padded 4 year').length := by
    rw [length_padded_four (by omega), length_padded_four (by omega)]
  rw [text, text, String.lt_iff, String.toList_ofList, String.toList_ofList, hplain, hplain']
  rcases h with hlt | ⟨heq, hlt⟩
  · exact append_lt_append hlength (padded_lt_padded hlength (by omega)) _ _
  · obtain rfl : year = year' := by omega
    have hmonths : (padded 2 m.month).length = (padded 2 m'.month).length := by
      rw [padded_two (Nat.lt_trans hlt hmonth'), padded_two hmonth']
      rfl
    refine List.append_left_lt (List.cons_lt_cons_iff.2 (.inr ⟨rfl, ?_⟩))
    exact padded_lt_padded hmonths hlt

end ClusterEvents.Calendar.Month
