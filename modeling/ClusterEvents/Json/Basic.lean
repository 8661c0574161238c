import ClusterEvents.Binary64.Basic

/-!
# JSON values

A JSON value keeps integers and doubles apart, and the members of an object in
strictly ascending key order. The order is part of the type: `Members b` lists
members whose keys all lie above the bound `b`, so an object has one form only, and
two objects with the same members are equal. Keys are ordered by code point, which
is also the order of their UTF-8 bytes.

Main statement: `Members.ext`, an object is determined by its lookups.
-/

namespace ClusterEvents

/-- A key lies above a bound: always when there is no bound, and otherwise when it
comes later in the order of strings. -/
def Above : Option String → String → Prop
  | none, _ => True
  | some bound, key => bound < key

instance (b : Option String) (k : String) : Decidable (Above b k) :=
  match b with
  | none => .isTrue trivial
  | some bound => inferInstanceAs (Decidable (bound < k))

theorem Above.of_lt {k l : String} (h : k < l) : Above (some k) l := h

theorem Above.trans {b : Option String} {k l : String} (h : Above b k) (hkl : k < l) :
    Above b l := by
  cases b with
  | none => trivial
  | some bound => exact String.lt_trans h hkl

/-- Of two different strings, the one that is not smaller is greater. -/
theorem lt_of_not_lt_of_ne {a b : String} (h : ¬ a < b) (hne : a ≠ b) : b < a := by
  rcases Decidable.em (b < a) with hlt | hge
  · exact hlt
  · exact absurd (String.le_antisymm (String.not_lt.1 hge) (String.not_lt.1 h)) hne

mutual

/-- A JSON value. -/
inductive Json where
  | null
  | bool (b : Bool)
  /-- A number written without fraction and exponent. -/
  | int (n : Int)
  /-- Any other number. -/
  | double (d : Binary64)
  | str (s : String)
  | arr (items : List Json)
  | obj (members : Members none)

/-- Members of an object, in ascending order of keys that all lie above a bound. -/
inductive Members : Option String → Type where
  | nil {b : Option String} : Members b
  | cons {b : Option String} (key : String) (above : Above b key) (value : Json)
      (rest : Members (some key)) : Members b

end

/-- The members of a JSON object. -/
abbrev Object := Members none

instance : Inhabited Json := ⟨.null⟩

instance {b : Option String} : Inhabited (Members b) := ⟨.nil⟩

namespace Members

variable {b : Option String}

/-- Induction along the members of an object. -/
theorem induct {motive : (b : Option String) → Members b → Prop}
    (nil : ∀ b, motive b .nil)
    (cons : ∀ b key (above : Above b key) value (rest : Members (some key)),
      motive (some key) rest → motive b (.cons key above value rest)) :
    ∀ {b : Option String} (m : Members b), motive b m
  | b, .nil => nil b
  | b, .cons key above value rest => cons b key above value rest (induct nil cons rest)

/-- The value under a key. -/
def get? (key : String) : {b : Option String} → Members b → Option Json
  | _, .nil => none
  | _, .cons k _ v rest => if key = k then some v else rest.get? key

/-- The members in order. -/
def toList : {b : Option String} → Members b → List (String × Json)
  | _, .nil => []
  | _, .cons k _ v rest => (k, v) :: rest.toList

/-- The keys in order. -/
def keys (m : Members b) : List String :=
  m.toList.map Prod.fst

/-- The values in the order of their keys. -/
def values (m : Members b) : List Json :=
  m.toList.map Prod.snd

/-- Whether there are no members. -/
def isEmpty : {b : Option String} → Members b → Bool
  | _, .nil => true
  | _, .cons .. => false

/-- Puts a value under a key, in place of the one that was there. -/
def put (key : String) (value : Json) :
    {b : Option String} → (above : Above b key) → Members b → Members b
  | _, above, .nil => .cons key above value .nil
  | _, above, .cons k hk v rest =>
    if hlt : key < k then .cons key above value (.cons k (.of_lt hlt) v rest)
    else if heq : key = k then .cons k hk value rest
    else .cons k hk v (put key value (.of_lt (lt_of_not_lt_of_ne hlt heq)) rest)

/-- The same members under a weaker bound. -/
def weaken {k : String} (h : Above b k) : Members (some k) → Members b
  | .nil => .nil
  | .cons l hl v rest => .cons l (h.trans hl) v rest

/-- The members without the one under a key. -/
def erase (key : String) : {b : Option String} → Members b → Members b
  | _, .nil => .nil
  | _, .cons k hk v rest =>
    if key = k then rest.weaken hk else .cons k hk v (rest.erase key)

@[simp] theorem get?_nil (key : String) : (Members.nil : Members b).get? key = none := rfl

theorem get?_cons (key k : String) (hk : Above b k) (v : Json) (rest : Members (some k)) :
    (Members.cons k hk v rest).get? key = if key = k then some v else rest.get? key := rfl

/-- Nothing is found under a key that does not lie above the bound. -/
theorem get?_eq_none_of_not_above {key : String} (m : Members b) (h : ¬ Above b key) :
    m.get? key = none := by
  induction m using induct with
  | nil b => rfl
  | cons b k hk v rest ih =>
    have hne : key ≠ k := fun e => h (e ▸ hk)
    have hge : ¬ Above (some k) key := fun hlt => h (hk.trans hlt)
    simp [get?_cons, hne, ih hge]

@[simp] theorem get?_weaken {k : String} (h : Above b k) (m : Members (some k))
    (key : String) : (m.weaken h).get? key = m.get? key := by
  cases m <;> rfl

theorem get?_put (key : String) (value : Json) (above : Above b key) (m : Members b)
    (other : String) :
    (m.put key value above).get? other = if other = key then some value else m.get? other := by
  induction m using induct with
  | nil b => simp [put, get?_cons]
  | cons b k hk v rest ih =>
    rw [put]
    split
    · simp only [get?_cons]
    · split
      · rename_i heq
        subst heq
        by_cases h : other = key <;> simp [get?_cons, h]
      · rename_i hge hne
        by_cases h : other = k
        · have hne' : k ≠ key := fun e => hne e.symm
          simp [get?_cons, h, hne']
        · rw [get?_cons, get?_cons, if_neg h, if_neg h]
          exact ih _

theorem get?_erase (key : String) (m : Members b) (other : String) :
    (m.erase key).get? other = if other = key then none else m.get? other := by
  induction m using induct with
  | nil b => simp [erase]
  | cons b k hk v rest ih =>
    rw [erase]
    by_cases hkk : key = k
    · subst hkk
      have hnone : rest.get? key = none :=
        get?_eq_none_of_not_above rest (String.lt_irrefl key)
      by_cases h : other = key
      · subst h
        simp [hnone]
      · simp [get?_cons, h]
    · by_cases h : other = k
      · have hne : k ≠ key := fun e => hkk e.symm
        simp [get?_cons, h, hkk, hne]
      · simp [get?_cons, h, hkk, ih]

/-- Puts a value under a key of an object, in place of the one that was there. -/
def insert (o : Object) (key : String) (value : Json) : Object :=
  Members.put key value (b := none) trivial o

theorem get?_insert (o : Object) (key : String) (value : Json) (other : String) :
    (o.insert key value).get? other = if other = key then some value else o.get? other :=
  get?_put key value (b := none) trivial o other

/-- An object is determined by its lookups. -/
theorem ext : ∀ {b : Option String} (m n : Members b),
    (∀ key, m.get? key = n.get? key) → m = n
  | _, .nil, .nil, _ => rfl
  | _, .nil, .cons k _ v _, h => by simpa [get?_cons] using h k
  | _, .cons k _ v _, .nil, h => by simpa [get?_cons] using h k
  | _, .cons k hk v m, .cons l hl w n, h => by
    have hkl : k = l := by
      by_cases hlt : k < l
      · have hne : k ≠ l := fun e => String.lt_irrefl l (e ▸ hlt)
        have hnone : n.get? k = none :=
          get?_eq_none_of_not_above n (String.lt_asymm hlt)
        simpa [get?_cons, hne, hnone] using h k
      · by_cases heq : k = l
        · exact heq
        · have hnone : m.get? l = none :=
            get?_eq_none_of_not_above m (String.lt_asymm (lt_of_not_lt_of_ne hlt heq))
          simpa [get?_cons, Ne.symm heq, hnone] using h l
    subst hkl
    have hv : v = w := by simpa [get?_cons] using h k
    have hmn : m = n := ext m n fun key => by
      by_cases hk' : key = k
      · subst hk'
        rw [get?_eq_none_of_not_above m (String.lt_irrefl key),
          get?_eq_none_of_not_above n (String.lt_irrefl key)]
      · simpa [get?_cons, hk'] using h key
    rw [hv, hmn]

end Members

namespace Object

/-- The object without members. -/
def empty : Object := .nil

/-- The object with the given members; of several under one key the last counts. -/
def ofList (members : List (String × Json)) : Object :=
  members.foldl (fun o member => o.insert member.1 member.2) empty

end Object

namespace Json

/-- The member under a key, when the value is an object that has it. -/
def member? (key : String) : Json → Option Json
  | .obj o => o.get? key
  | _ => none

/-- The text of a string value. -/
def text? : Json → Option String
  | .str s => some s
  | _ => none

/-- The members of an object value. -/
def object? : Json → Option Object
  | .obj o => some o
  | _ => none

/-- The elements of a list value. -/
def items? : Json → Option (List Json)
  | .arr items => some items
  | _ => none

theorem text?_eq_some_iff {v : Json} {s : String} : v.text? = some s ↔ v = .str s := by
  cases v <;> simp [text?]

theorem object?_eq_some_iff {v : Json} {o : Object} : v.object? = some o ↔ v = .obj o := by
  cases v <;> simp [object?]

theorem items?_eq_some_iff {v : Json} {items : List Json} :
    v.items? = some items ↔ v = .arr items := by
  cases v <;> simp [items?]

/-- Whether a value is an object or a list. -/
def isContainer : Json → Bool
  | .obj _ | .arr _ => true
  | _ => false

end Json

end ClusterEvents
