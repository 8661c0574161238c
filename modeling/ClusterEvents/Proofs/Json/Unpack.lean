import ClusterEvents.Json.Path
import ClusterEvents.Proofs.Stretches

/-!
# Texts that hold JSON

Every edit unpacks the text it meets: a text that holds an object or a list stands for
what it holds. `unpack_str` says so without the look at the first character that comes
before the reading, for a text that is read as an object or a list begins with a brace or
a bracket. Texts without these two characters stand for themselves.
-/

namespace ClusterEvents.Json

theorem unpack_of_isContainer {v : Json} (h : v.isContainer = true) : unpack v = v := by
  cases v with
  | str s => cases h
  | _ => rfl

/-! ## What a container is read from -/

theorem isContainer_of_value? {n : Numeral} {v : Json} (h : n.value? = some v) :
    v.isContainer = false := by
  rw [Numeral.value?] at h
  split at h
  · cases h
    rfl
  · split at h
    · cases h
      rfl
    · obtain ⟨d, -, rfl⟩ := Option.map_eq_some_iff.1 h
      rfl

theorem isContainer_of_readNumber {text rest : Glyphs} {v : Json}
    (h : readNumber text = .ok (v, rest)) : v.isContainer = false := by
  rw [readNumber] at h
  cases hnumeral : readNumeral text with
  | error e =>
      rw [hnumeral] at h
      cases h
  | ok read =>
      obtain ⟨numeral, rest'⟩ := read
      simp only [hnumeral, bind, Except.bind] at h
      split at h
      · rename_i hvalue
        cases h
        exact isContainer_of_value? hvalue
      · cases h

/-- The characters that open an object or a list. -/
def opensContainer (c : Char) : Bool :=
  c == '{' || c == '['

theorem opensContainer_of_readWith {list : Glyphs → Except ReadError (List Json × Glyphs)}
    {object : Glyphs → Except ReadError (Object × Glyphs)} {text rest : Glyphs} {v : Json}
    (h : readWith list object text = .ok (v, rest)) (hv : v.isContainer = true) :
    ∃ c more, skipBlanks text = some c :: more ∧ opensContainer c = true := by
  rw [readWith] at h
  split at h
  case h_1 => cases h
  case h_6 more hskip => exact ⟨'[', more, hskip, rfl⟩
  case h_7 more hskip => exact ⟨'{', more, hskip, rfl⟩
  case h_8 =>
    split at h
    · rw [isContainer_of_readNumber h] at hv
      cases hv
    · cases h
  all_goals
    simp only [bind, Except.bind] at h
    split at h
    · cases h
    · cases h
      cases hv

theorem opensContainer_of_readValue {depth : Nat} {text rest : Glyphs} {v : Json}
    (h : readValue depth text = .ok (v, rest)) (hv : v.isContainer = true) :
    ∃ c more, skipBlanks text = some c :: more ∧ opensContainer c = true := by
  cases depth with
  | zero => exact opensContainer_of_readWith h hv
  | succ depth => exact opensContainer_of_readWith h hv

theorem textIsBlank_of_isBlank {c : Char} (h : isBlank (some c) = true) :
    Text.isBlank c = true := by
  simp only [isBlank, Bool.or_eq_true, beq_iff_eq, Option.some.injEq] at h
  rcases h with ((rfl | rfl) | rfl) | rfl <;> rfl

theorem opensContainer_of_ofText {s : String} {v : Json} (h : ofText s = .ok v)
    (hv : v.isContainer = true) :
    ∃ c more, s.toList.dropWhile Text.isBlank = c :: more ∧ opensContainer c = true := by
  rw [ofText, readText] at h
  cases hread : readValue depthLimit (Glyphs.ofString s) with
  | error e =>
      rw [hread] at h
      cases h
  | ok read =>
      obtain ⟨w, rest⟩ := read
      have hwv : w = v := by
        simp only [hread, bind, Except.bind] at h
        split at h <;> cases h
        rfl
      subst hwv
      obtain ⟨c, more, hskip, hopens⟩ := opensContainer_of_readValue hread hv
      rw [skipBlanks, Glyphs.ofString, List.dropWhile_map] at hskip
      obtain ⟨c', more', hdrop, hc, -⟩ := List.map_eq_cons_iff.1 hskip
      obtain rfl := Option.some.inj hc
      have hblank : Text.isBlank c' = false := by
        simp only [opensContainer, Bool.or_eq_true, beq_iff_eq] at hopens
        rcases hopens with rfl | rfl <;> rfl
      have hwider : ∀ d, (isBlank ∘ some) d = true → Text.isBlank d = true :=
        fun _ => textIsBlank_of_isBlank
      refine ⟨c', more', ?_, hopens⟩
      rw [← dropWhile_of_imp hwider, hdrop, List.dropWhile_cons, hblank,
        if_neg Bool.false_ne_true]

/-! ## Unpacking -/

/-- The object or the list that a text holds, if it holds one. -/
def held? (s : String) : Option Json :=
  match ofText s with
  | .ok v => if v.isContainer then some v else none
  | .error _ => none

theorem held?_eq_some_iff {s : String} {v : Json} :
    held? s = some v ↔ ofText s = .ok v ∧ v.isContainer = true := by
  rw [held?]
  cases ofText s with
  | error e => simp
  | ok w =>
      simp only [Option.ite_none_right_eq_some, Option.some.injEq, Except.ok.injEq]
      constructor
      · rintro ⟨hw, rfl⟩
        exact ⟨rfl, hw⟩
      · rintro ⟨rfl, hw⟩
        exact ⟨hw, rfl⟩

theorem held?_eq_none_of_forall {s : String}
    (h : ∀ c ∈ s.toList, opensContainer c = false) : held? s = none := by
  cases hheld : held? s with
  | none => rfl
  | some v =>
      obtain ⟨hread, hv⟩ := held?_eq_some_iff.1 hheld
      obtain ⟨c, more, hdrop, hopens⟩ := opensContainer_of_ofText hread hv
      have hmem : c ∈ s.toList :=
        (List.dropWhile_sublist Text.isBlank).subset (hdrop ▸ List.mem_cons_self)
      rw [h c hmem] at hopens
      cases hopens

theorem unpack_str (s : String) : unpack (.str s) = (held? s).getD (.str s) := by
  rw [unpack, held?]
  cases h : ofText s with
  | error e => split <;> rfl
  | ok v =>
      cases hv : v.isContainer with
      | false =>
          cases v with
          | obj o => cases hv
          | arr items => cases hv
          | _ => split <;> rfl
      | true =>
          obtain ⟨c, more, hdrop, hopens⟩ := opensContainer_of_ofText h hv
          simp only [opensContainer, Bool.or_eq_true, beq_iff_eq] at hopens
          cases v with
          | obj o => rcases hopens with rfl | rfl <;> simp [hdrop, isContainer]
          | arr items => rcases hopens with rfl | rfl <;> simp [hdrop, isContainer]
          | _ => cases hv

theorem unpack_eq_arr_iff {v : Json} {items : List Json} :
    unpack v = .arr items ↔ v = .arr items ∨ ∃ s, v = .str s ∧ held? s = some (.arr items) := by
  cases v with
  | str s =>
      rw [unpack_str]
      cases hs : held? s <;> simp [hs]
  | _ => simp [unpack]

/-- All values but the texts that hold something stand for themselves. -/
theorem unpack_eq_self_iff {v : Json} : unpack v = v ↔ ∀ s, v = .str s → held? s = none := by
  cases v with
  | str s =>
      rw [unpack_str]
      cases hs : held? s with
      | none => simp [hs]
      | some c =>
          obtain ⟨-, hc⟩ := held?_eq_some_iff.1 hs
          have hne : c ≠ .str s := by
            rintro rfl
            cases hc
          simp [hs, hne]
  | _ => simp [unpack]

theorem unpack_unpack (v : Json) : unpack (unpack v) = unpack v := by
  cases v with
  | str s =>
      rw [unpack_str]
      cases h : held? s with
      | none => rw [Option.getD_none, unpack_str, h, Option.getD_none]
      | some v => exact unpack_of_isContainer (held?_eq_some_iff.1 h).2
  | _ => rfl

end ClusterEvents.Json
