import Flowchart.Binary64.Shortest

/-!
# JSON values

Objects keep their fields in order, and a key occurs in them once. Null, false, zero and whatever
is empty count as void: a void value says no more than an absent one.
-/

namespace Flowchart

inductive Json where
  | null
  | bool (value : Bool)
  | int (value : Int)
  | float (value : Binary64)
  | str (value : Text)
  | arr (items : List Json)
  | obj (fields : List (Text × Json))
  deriving Repr, Inhabited

abbrev Fields := List (Text × Json)

namespace Json

mutual

def same : Json → Json → Bool
  | .null, .null => true
  | .bool a, .bool b => a == b
  | .int a, .int b => a == b
  | .float a, .float b => a == b
  | .str a, .str b => a == b
  | .arr a, .arr b => sameItems a b
  | .obj a, .obj b => sameFields a b
  | _, _ => false

def sameItems : List Json → List Json → Bool
  | [], [] => true
  | a :: as, b :: bs => same a b && sameItems as bs
  | _, _ => false

def sameFields : Fields → Fields → Bool
  | [], [] => true
  | (k, a) :: as, (l, b) :: bs => k == l && same a b && sameFields as bs
  | _, _ => false

end

mutual

theorem same_self : ∀ a : Json, same a a = true
  | .null => rfl
  | .bool _ => by simp [same]
  | .int _ => by simp [same]
  | .float _ => by simp [same]
  | .str _ => by simp [same]
  | .arr items => by simp [same, sameItems_self items]
  | .obj fields => by simp [same, sameFields_self fields]

theorem sameItems_self : ∀ as : List Json, sameItems as as = true
  | [] => rfl
  | a :: as => by simp [sameItems, same_self a, sameItems_self as]

theorem sameFields_self : ∀ as : Fields, sameFields as as = true
  | [] => rfl
  | (_, a) :: as => by simp [sameFields, same_self a, sameFields_self as]

end

mutual

theorem eq_of_same : ∀ a b : Json, same a b = true → a = b
  | .null, b, h => by cases b <;> simp_all [same]
  | .bool _, b, h => by cases b <;> simp_all [same]
  | .int _, b, h => by cases b <;> simp_all [same]
  | .float _, b, h => by cases b <;> simp_all [same]
  | .str _, b, h => by cases b <;> simp_all [same]
  | .arr as, b, h => by
    cases b <;> simp only [same, Bool.false_eq_true] at h
    rw [eq_of_sameItems as _ h]
  | .obj as, b, h => by
    cases b <;> simp only [same, Bool.false_eq_true] at h
    rw [eq_of_sameFields as _ h]

theorem eq_of_sameItems : ∀ as bs : List Json, sameItems as bs = true → as = bs
  | [], bs, h => by cases bs <;> simp_all [sameItems]
  | a :: as, bs, h => by
    cases bs with
    | nil => simp [sameItems] at h
    | cons b bs =>
      simp only [sameItems, Bool.and_eq_true] at h
      rw [eq_of_same a b h.1, eq_of_sameItems as bs h.2]

theorem eq_of_sameFields : ∀ as bs : Fields, sameFields as bs = true → as = bs
  | [], bs, h => by cases bs <;> simp_all [sameFields]
  | (k, a) :: as, bs, h => by
    cases bs with
    | nil => simp [sameFields] at h
    | cons b bs =>
      simp only [sameFields, Bool.and_eq_true, beq_iff_eq] at h
      rw [h.1.1, eq_of_same a b.2 h.1.2, eq_of_sameFields as bs h.2]

end

theorem same_iff {a b : Json} : same a b = true ↔ a = b :=
  ⟨eq_of_same a b, fun h => h ▸ same_self a⟩

instance : DecidableEq Json := fun _ _ => decidable_of_iff _ same_iff

def text? : Json → Option Text
  | .str s => some s
  | _ => none

def items? : Json → Option (List Json)
  | .arr items => some items
  | _ => none

def fields? : Json → Option Fields
  | .obj fields => some fields
  | _ => none

def itemsOf (value : Json) : List Json := value.items?.getD []

def fieldsOf (value : Json) : Fields := value.fields?.getD []

def bool? : Json → Option Bool
  | .bool b => some b
  | _ => none

def isVoid : Json → Bool
  | .null => true
  | .bool b => !b
  | .int n => n == 0
  | .float x => x.isZero
  | .str s => s.isEmpty
  | .arr items => items.isEmpty
  | .obj fields => fields.isEmpty

def orElse (value other : Json) : Json := if value.isVoid then other else value

def name? : Json → Option Text
  | .str s => if s.isEmpty then none else some s
  | _ => none

def ofText? : Option Text → Json
  | none => .null
  | some s => .str s

end Json

namespace Fields

def get? (key : Text) (fields : Fields) : Option Json := fields.lookup key

def get (key : Text) (fields : Fields) : Json := (fields.get? key).getD .null

/-- Gives a key its value: in the key's place if it has one, else at the end. -/
def put (key : Text) (value : Json) : Fields → Fields
  | [] => [(key, value)]
  | (k, v) :: rest => if k == key then (k, value) :: rest else (k, v) :: put key value rest

def keys (fields : Fields) : List Text := fields.map Prod.fst

def unlessVoid (key : Text) (value : Json) : Fields := if value.isVoid then [] else [(key, value)]

end Fields

end Flowchart
