import Mathlib.Data.Nat.Digits.Defs
import ClusterEvents.Proofs.Text.Ends
import ClusterEvents.Settings.Words

/-!
# How lengths of time are written

A length of time is written as digits with the symbol of a unit directly behind them, and blanks
may stand around the two (`TimeUnit.IsWritten`). Just the texts of this kind are read, provided that
the number fits (`TimeUnit.Fits`), and what is read is that number of units to the millisecond
(`duration?_eq_some_iff`).

The digits are the longest stretch of them that the trimmed text begins with. As no symbol begins
with a digit, and neither digits nor symbols have blanks at their ends, a text can be taken apart in
one way only.
-/

namespace ClusterEvents

-- Powers are those that numbers bring along, whatever else is imported.
attribute [local instance (high)] instPowNat instNatPowNat

theorem Text.isBlank_of_isDigit {c : Char} (h : c.isDigit = true) : isBlank c = false := by
  have hbounds : 48 ≤ c.toNat ∧ c.toNat ≤ 57 := Char.isDigit_iff_toNat.1 h
  simp only [isBlank, Bool.or_eq_false_iff, decide_eq_false_iff_not, beq_eq_false_iff_ne]
  omega

/-- The units that lengths of time are given in. -/
inductive TimeUnit where
  | millisecond
  | second
  | minute
  | hour

namespace TimeUnit

def symbol : TimeUnit → List Char
  | millisecond => ['m', 's']
  | second => ['s']
  | minute => ['m']
  | hour => ['h']

/-- The number of milliseconds in a unit. -/
def millis : TimeUnit → Nat
  | millisecond => 1
  | second => 1000
  | minute => 60 * 1000
  | hour => 3600 * 1000

/-- Numbers have sixty-four bits, and so have the numbers of seconds that minutes and hours come
to. -/
def Fits (n : Nat) : TimeUnit → Prop
  | millisecond => n < 2 ^ (64 : Nat)
  | second => n < 2 ^ (64 : Nat)
  | minute => n < 2 ^ (64 : Nat) ∧ n * 60 < 2 ^ (64 : Nat)
  | hour => n < 2 ^ (64 : Nat) ∧ n * 3600 < 2 ^ (64 : Nat)

/-- A text is decimal digits, directly followed by the symbol of a unit, between blanks. -/
structure IsWritten (unit : TimeUnit) (digits : List Char) (raw : String) : Prop where
  nonempty : digits ≠ []
  decimal : ∀ c ∈ digits, c.isDigit = true
  between_blanks : ∃ front back, raw.toList = front ++ (digits ++ unit.symbol) ++ back ∧
    (∀ c ∈ front, Text.isBlank c = true) ∧ ∀ c ∈ back, Text.isBlank c = true

variable {unit : TimeUnit} {digits : List Char} {raw : String}

theorem isDigit_of_mem_head?_symbol (unit : TimeUnit) :
    ∀ c ∈ unit.symbol.head?, c.isDigit = false := by
  cases unit <;> simp [symbol]

theorem isBlank_of_mem_getLast?_symbol (unit : TimeUnit) :
    ∀ c ∈ unit.symbol.getLast?, Text.isBlank c = false := by
  cases unit <;> simp [symbol] <;> decide

theorem symbol_ne_nil (unit : TimeUnit) : unit.symbol ≠ [] := by
  cases unit <;> simp [symbol]

theorem trimBy_eq_iff_isWritten (hne : digits ≠ []) (hdigits : ∀ c ∈ digits, c.isDigit = true) :
    Text.trimBy Text.isBlank raw.toList = digits ++ unit.symbol ↔ unit.IsWritten digits raw := by
  have hhead : ∀ c ∈ (digits ++ unit.symbol).head?, Text.isBlank c = false := by
    rw [List.head?_append_of_ne_nil digits hne]
    exact fun c hc => Text.isBlank_of_isDigit (hdigits c (List.mem_of_mem_head? hc))
  have hlast : ∀ c ∈ (digits ++ unit.symbol).getLast?, Text.isBlank c = false := by
    rw [List.getLast?_append_of_ne_nil digits unit.symbol_ne_nil]
    exact unit.isBlank_of_mem_getLast?_symbol
  rw [Text.trimBy_eq_iff hhead hlast]
  exact ⟨fun h => ⟨hne, hdigits, h⟩, IsWritten.between_blanks⟩

end TimeUnit

namespace Duration

variable {n : Nat} {symbol : List Char} {d : Duration}

theorem ofUnits?_symbol_eq_some_iff (unit : TimeUnit) :
    ofUnits? n unit.symbol = some d ↔ unit.Fits n ∧ d = ⟨n * unit.millis⟩ := by
  have hbound : numberBound = 2 ^ (64 : Nat) := rfl
  cases unit <;>
    simp only [ofUnits?, ofMillis, ofSeconds, hbound, TimeUnit.symbol, TimeUnit.Fits,
      TimeUnit.millis, Option.ite_none_right_eq_some, Option.some.injEq, Nat.mul_one, Nat.mul_assoc,
      and_self_left, and_assoc, @eq_comm _ d]

theorem exists_symbol_of_ofUnits? (h : ofUnits? n symbol = some d) :
    ∃ unit : TimeUnit, symbol = unit.symbol := by
  simp only [ofUnits?, Option.ite_none_right_eq_some] at h
  obtain ⟨-, h⟩ := h
  split at h
  · exact ⟨.millisecond, rfl⟩
  · exact ⟨.second, rfl⟩
  · exact ⟨.minute, rfl⟩
  · exact ⟨.hour, rfl⟩
  · cases h

end Duration

namespace Words

variable {raw : String} {digits : List Char} {d : Duration}

/-- The number that decimal digits denote, the last of which counts ones. -/
def denoted (digits : List Char) : Nat :=
  Nat.ofDigits 10 (digits.reverse.map fun c => c.toNat - '0'.toNat)

theorem numberOf_eq_denoted (digits : List Char) : numberOf digits = denoted digits := by
  induction digits using List.reverseRecOn with
  | nil => rfl
  | append_singleton digits c ih =>
      have hnext : numberOf (digits ++ [c]) = numberOf digits * 10 + (c.toNat - '0'.toNat) :=
        List.foldl_append
      rw [hnext, ih, denoted, denoted, List.reverse_concat, List.map_cons, Nat.ofDigits_cons,
        Nat.mul_comm, Nat.add_comm]

theorem isDigit_eq : isDigit = Char.isDigit := by
  funext c
  simp [isDigit, Char.isDigit, Char.le_def]

/-- Digits are read up to the symbol, which is all that is left then. -/
theorem duration?_of_isWritten {unit : TimeUnit} (h : unit.IsWritten digits raw) :
    duration? raw = Duration.ofUnits? (denoted digits) unit.symbol := by
  have htrim := (TimeUnit.trimBy_eq_iff_isWritten h.nonempty h.decimal).2 h
  have hsymbol := unit.isDigit_of_mem_head?_symbol
  rw [duration?, htrim, isDigit_eq, takeWhile_append_eq h.decimal hsymbol,
    dropWhile_append_eq h.decimal hsymbol, List.isEmpty_eq_false_iff.2 h.nonempty,
    if_neg Bool.false_ne_true, numberOf_eq_denoted]

/-- Nothing is read but digits with a symbol behind them. -/
theorem exists_isWritten_of_duration? (h : duration? raw = some d) :
    ∃ (digits : List Char) (unit : TimeUnit), unit.IsWritten digits raw := by
  rw [duration?, isDigit_eq] at h
  generalize htrim : Text.trimBy Text.isBlank raw.toList = text at h
  obtain ⟨hne, h⟩ := Option.ite_none_left_eq_some.1 h
  rw [List.isEmpty_iff] at hne
  obtain ⟨unit, hsymbol⟩ := Duration.exists_symbol_of_ofUnits? h
  rw [← List.takeWhile_append_dropWhile (p := Char.isDigit) (l := text), hsymbol] at htrim
  have hdigits : ∀ c ∈ text.takeWhile Char.isDigit, c.isDigit = true :=
    fun _ => List.mem_takeWhile_imp
  exact ⟨_, unit, (TimeUnit.trimBy_eq_iff_isWritten hne hdigits).1 htrim⟩

/-- A text is read as a length of time just if it is digits directly followed by a unit, between
blanks, and the number that the digits denote fits; the length is that number of units. -/
theorem duration?_eq_some_iff (raw : String) (d : Duration) :
    duration? raw = some d ↔
      ∃ (digits : List Char) (unit : TimeUnit), unit.IsWritten digits raw ∧
        unit.Fits (denoted digits) ∧ d = ⟨denoted digits * unit.millis⟩ := by
  constructor
  · intro h
    obtain ⟨digits, unit, hwritten⟩ := exists_isWritten_of_duration? h
    rw [duration?_of_isWritten hwritten, Duration.ofUnits?_symbol_eq_some_iff] at h
    exact ⟨digits, unit, hwritten, h⟩
  · rintro ⟨digits, unit, hwritten, hfits⟩
    rwa [duration?_of_isWritten hwritten, Duration.ofUnits?_symbol_eq_some_iff]

/-- The last number of minutes that fits and the first that does not, a number with zeros in front
between other blanks, a digit of another script, and a blank between the two. -/
example :
    duration? "307445734561825860m" = some ⟨18446744073709551600000⟩ ∧
      duration? "307445734561825861m" = none ∧
      duration? "\u3000007h\n" = some ⟨25200000⟩ ∧ duration? "٣h" = none ∧
      duration? "7 h" = none := by
  decide +kernel

end Words

end ClusterEvents
