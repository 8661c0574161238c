import ClusterEvents.Json.Printer

/-!
# Printed JSON is one line

Nothing that is printed has a control character in it: in strings they are escaped, and
numbers and marks have none. So a printed value or record, whatever it holds, is one line of
a text (`singleLine_render`).
-/

namespace ClusterEvents

/-- The text has no control characters, and no end of a line among them. -/
def SingleLine (text : List Char) : Prop :=
  ∀ c ∈ text, 0x20 ≤ c.toNat

namespace SingleLine

@[simp] theorem nil : SingleLine [] := by
  intro c hc
  cases hc

@[simp] theorem cons_iff {c : Char} {text : List Char} :
    SingleLine (c :: text) ↔ 0x20 ≤ c.toNat ∧ SingleLine text :=
  List.forall_mem_cons

@[simp] theorem append_iff {l r : List Char} :
    SingleLine (l ++ r) ↔ SingleLine l ∧ SingleLine r :=
  List.forall_mem_append

theorem subset {l r : List Char} (h : SingleLine r) (hsub : l ⊆ r) : SingleLine l := by
  intro c hc
  exact h c (hsub hc)

theorem not_mem {text : List Char} (h : SingleLine text) {c : Char} (hc : c.toNat < 0x20) :
    c ∉ text := by
  intro hmem
  exact absurd (h c hmem) (Nat.not_le.2 hc)

theorem toDigits (n : Nat) : SingleLine (Nat.toDigits 10 n) := by
  intro c hc
  have hdigit := Nat.isDigit_of_mem_toDigits (by decide) (by decide) hc
  exact Nat.le_trans (by decide) (Char.isDigit_iff_toNat.1 hdigit).1

theorem replicate {c : Char} (hc : 0x20 ≤ c.toNat) (n : Nat) :
    SingleLine (List.replicate n c) := by
  intro d hd
  rw [List.eq_of_mem_replicate hd]
  exact hc

end SingleLine

/-! ## Doubles -/

namespace Binary64

theorem singleLine_positional {digits : List Char} (h : SingleLine digits) (k : Int) :
    SingleLine (positional digits k) := by
  have hzeros (n : Nat) := SingleLine.replicate (c := '0') (by decide) n
  rw [positional]
  split
  · simp [h, hzeros]
  · dsimp only
    split
    · simp [h.subset (List.take_subset _ _), h.subset (List.drop_subset _ _)]
    · simp [h, hzeros]

theorem singleLine_scientific {digits : List Char} (h : SingleLine digits) (leading : Int) :
    SingleLine (scientific digits leading) := by
  have hsign : 0x20 ≤ (if leading < 0 then '-' else '+').toNat := by
    split <;> decide
  unfold scientific
  rw [SingleLine.append_iff]
  refine ⟨?_, by simp [hsign, SingleLine.toDigits]⟩
  split
  · simpa using h
  · exact h

theorem singleLine_stripZeros {digits : List Char} (h : SingleLine digits) :
    SingleLine (stripZeros digits).1 := by
  refine h.subset fun c hc => ?_
  have hkept := (List.dropWhile_sublist _).subset (List.mem_reverse.1 hc)
  exact List.mem_reverse.1 hkept

theorem singleLine_render (style : DecimalStyle) (d : Binary64) :
    SingleLine (d.render style).toList := by
  have hdigits : SingleLine (stripZeros (Nat.toDigits 10 d.shortest.1)).1 :=
    singleLine_stripZeros (SingleLine.toDigits _)
  have hpositional := singleLine_positional hdigits
  have hscientific := singleLine_scientific hdigits
  rw [render, String.toList_ofList]
  dsimp only
  repeat' split
  all_goals simp [hpositional, hscientific]

end Binary64

/-! ## Values and records -/

namespace Json

theorem le_toNat_hexDigit (n : Nat) : 0x20 ≤ (hexDigit n).toNat := by
  have hall : ∀ m < 16, 0x20 ≤ (Nat.digitChar m).toNat := by decide
  exact hall (n % 16) (Nat.mod_lt n (by decide))

theorem singleLine_escape (c : Char) : SingleLine (escape c) := by
  rw [escape.eq_def]
  split
  case h_8 =>
    split
    · simp [le_toNat_hexDigit]
    · rename_i hcontrol
      simpa using Nat.not_lt.1 hcontrol
  all_goals simp

theorem singleLine_quoted (s : String) : SingleLine (quoted s) := by
  have hescaped : SingleLine (s.toList.flatMap escape) := by
    intro c hc
    obtain ⟨d, -, hd⟩ := List.mem_flatMap.1 hc
    exact singleLine_escape d c hd
  simp [quoted, hescaped]

theorem singleLine_integer (n : Int) : SingleLine (integer n) := by
  rw [integer]
  split <;> simp [SingleLine.toDigits]

theorem singleLine_commaSeparated {parts : List (List Char)}
    (h : ∀ part ∈ parts, SingleLine part) : SingleLine (commaSeparated parts) := by
  fun_induction commaSeparated parts with
  | case1 => exact SingleLine.nil
  | case2 part => exact h part List.mem_cons_self
  | case3 part rest _ ih =>
      have hpart := h part List.mem_cons_self
      have hrest := ih fun other hother => h other (List.mem_cons_of_mem part hother)
      simp [hpart, hrest]

theorem singleLine_written (key : String) {text : List Char} (h : SingleLine text) :
    SingleLine (written key text) := by
  simp [written, singleLine_quoted, h]

end Json

mutual

theorem Json.singleLine_render : (v : Json) → SingleLine v.render
  | .null => by simp [Json.render]
  | .bool true => by simp [Json.render]
  | .bool false => by simp [Json.render]
  | .int n => Json.singleLine_integer n
  | .double d => Binary64.singleLine_render Json.doubleStyle d
  | .str s => Json.singleLine_quoted s
  | .arr items => by
      have hitems := Json.singleLine_commaSeparated (Json.singleLine_renderItems items)
      simp [Json.render, hitems]
  | .obj members => by
      have hmembers := Json.singleLine_commaSeparated members.singleLine_render
      simp [Json.render, hmembers]

theorem Json.singleLine_renderItems :
    (items : List Json) → ∀ part ∈ Json.renderItems items, SingleLine part
  | [] => by simp [Json.renderItems]
  | v :: rest => by
      rw [Json.renderItems, List.forall_mem_cons]
      exact ⟨v.singleLine_render, Json.singleLine_renderItems rest⟩

theorem Members.singleLine_render :
    {b : Option String} → (m : Members b) → ∀ part ∈ m.render, SingleLine part
  | _, .nil => by simp [Members.render]
  | _, .cons key _ value rest => by
      rw [Members.render, List.forall_mem_cons]
      exact ⟨Json.singleLine_written key value.singleLine_render, rest.singleLine_render⟩

end

namespace Document

mutual

theorem singleLine_render : (d : Document) → SingleLine d.render
  | .value v => v.singleLine_render
  | .record fields => by
      have hfields := Json.singleLine_commaSeparated (singleLine_renderFields fields)
      simp [render, hfields]

theorem singleLine_renderFields :
    (fields : List (String × Document)) → ∀ part ∈ renderFields fields, SingleLine part
  | [] => by simp [renderFields]
  | (name, field) :: rest => by
      rw [renderFields, List.forall_mem_cons]
      exact ⟨Json.singleLine_written name field.singleLine_render, singleLine_renderFields rest⟩

end

end Document

end ClusterEvents
