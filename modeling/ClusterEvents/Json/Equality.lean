import ClusterEvents.Json.Basic

/-!
# Two equalities of JSON values

Equality of values can be decided. Beside it stands `Json.same`, the equality used
to compare identifiers: it differs only on doubles, where it takes the two zeros for
one number. An integer is never the same as a double.
-/

namespace ClusterEvents

mutual

/-- Equality of values, decided by walking both. -/
def Json.decEq : (v w : Json) → Decidable (v = w)
  | .null, .null => .isTrue rfl
  | .bool a, .bool b =>
    if h : a = b then .isTrue (h ▸ rfl) else .isFalse fun e => h (Json.bool.inj e)
  | .int a, .int b =>
    if h : a = b then .isTrue (h ▸ rfl) else .isFalse fun e => h (Json.int.inj e)
  | .double a, .double b =>
    if h : a = b then .isTrue (h ▸ rfl) else .isFalse fun e => h (Json.double.inj e)
  | .str a, .str b =>
    if h : a = b then .isTrue (h ▸ rfl) else .isFalse fun e => h (Json.str.inj e)
  | .arr a, .arr b =>
    match Json.decEqList a b with
    | .isTrue h => .isTrue (h ▸ rfl)
    | .isFalse h => .isFalse fun e => h (Json.arr.inj e)
  | .obj a, .obj b =>
    match Members.decEq a b with
    | .isTrue h => .isTrue (h ▸ rfl)
    | .isFalse h => .isFalse fun e => h (Json.obj.inj e)
  | .null, .bool _ | .null, .int _ | .null, .double _ | .null, .str _ | .null, .arr _
  | .null, .obj _ | .bool _, .null | .bool _, .int _ | .bool _, .double _ | .bool _, .str _
  | .bool _, .arr _ | .bool _, .obj _ | .int _, .null | .int _, .bool _ | .int _, .double _
  | .int _, .str _ | .int _, .arr _ | .int _, .obj _ | .double _, .null | .double _, .bool _
  | .double _, .int _ | .double _, .str _ | .double _, .arr _ | .double _, .obj _
  | .str _, .null | .str _, .bool _ | .str _, .int _ | .str _, .double _ | .str _, .arr _
  | .str _, .obj _ | .arr _, .null | .arr _, .bool _ | .arr _, .int _ | .arr _, .double _
  | .arr _, .str _ | .arr _, .obj _ | .obj _, .null | .obj _, .bool _ | .obj _, .int _
  | .obj _, .double _ | .obj _, .str _ | .obj _, .arr _ => .isFalse nofun

/-- Equality of lists of values. -/
def Json.decEqList : (v w : List Json) → Decidable (v = w)
  | [], [] => .isTrue rfl
  | [], _ :: _ | _ :: _, [] => .isFalse nofun
  | v :: vs, w :: ws =>
    match Json.decEq v w, Json.decEqList vs ws with
    | .isTrue h, .isTrue hs => .isTrue (h ▸ hs ▸ rfl)
    | .isFalse h, _ => .isFalse fun e => h (List.cons.inj e).1
    | _, .isFalse hs => .isFalse fun e => hs (List.cons.inj e).2

/-- Equality of objects. -/
def Members.decEq : {b : Option String} → (m n : Members b) → Decidable (m = n)
  | _, .nil, .nil => .isTrue rfl
  | _, .nil, .cons .. | _, .cons .., .nil => .isFalse nofun
  | _, .cons k _ v m, .cons l _ w n =>
    if hk : k = l then
      match Json.decEq v w, Members.decEq m (hk ▸ n) with
      | .isTrue hv, .isTrue hm => .isTrue (by subst hk; subst hv; subst hm; rfl)
      | .isFalse hv, _ => .isFalse fun e => by cases e; exact hv rfl
      | _, .isFalse hm => .isFalse fun e => by cases e; exact hm rfl
    else .isFalse fun e => by cases e; exact hk rfl

end

instance : DecidableEq Json := Json.decEq

instance {b : Option String} : DecidableEq (Members b) := Members.decEq

mutual

/-- Whether two values are the same, the two zeros counting as one number. -/
def Json.same : Json → Json → Bool
  | .null, .null => true
  | .bool a, .bool b => a == b
  | .int a, .int b => a == b
  | .double a, .double b => a.same b
  | .str a, .str b => a == b
  | .arr a, .arr b => Json.sameList a b
  | .obj a, .obj b => Members.same a b
  | _, _ => false

/-- Whether two lists have the same values in the same order. -/
def Json.sameList : List Json → List Json → Bool
  | [], [] => true
  | v :: vs, w :: ws => v.same w && Json.sameList vs ws
  | _, _ => false

/-- Whether two objects have the same keys with the same values under them. -/
def Members.same : {b c : Option String} → Members b → Members c → Bool
  | _, _, .nil, .nil => true
  | _, _, .cons k _ v m, .cons l _ w n => k == l && v.same w && Members.same m n
  | _, _, _, _ => false

end

end ClusterEvents
