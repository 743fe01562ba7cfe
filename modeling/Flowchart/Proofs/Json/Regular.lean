import Flowchart.Proofs.Json.Order
import Flowchart.Proofs.Outcome
import Mathlib.Tactic.Ring

/-!
# Values as they are read

Every value that is read is regular: the keys of an object differ, since a key that comes again
takes its old place, and a whole number has no more digits than it was written with. A regular
value without floating-point numbers is written without loss.
-/

namespace Flowchart

namespace Json

mutual

def Regular : Json → Prop
  | .int n => FewDigits n
  | .arr items => RegularItems items
  | .obj fields => (Fields.keys fields).Nodup ∧ RegularFields fields
  | _ => True

def RegularItems : List Json → Prop
  | [] => True
  | item :: items => Regular item ∧ RegularItems items

def RegularFields : Fields → Prop
  | [] => True
  | (_, value) :: fields => Regular value ∧ RegularFields fields

end

mutual

def Floatless : Json → Prop
  | .float _ => False
  | .arr items => FloatlessItems items
  | .obj fields => FloatlessFields fields
  | _ => True

def FloatlessItems : List Json → Prop
  | [] => True
  | item :: items => Floatless item ∧ FloatlessItems items

def FloatlessFields : Fields → Prop
  | [] => True
  | (_, value) :: fields => Floatless value ∧ FloatlessFields fields

end

mutual

theorem Regular.exact : ∀ {value : Json}, Regular value → Floatless value → Exact value
  | .null, _, _ => trivial
  | .bool _, _, _ => trivial
  | .int _, h, _ => h
  | .float _, _, h => h
  | .str _, _, _ => trivial
  | .arr _, h, h' => RegularItems.exact h h'
  | .obj _, h, h' => ⟨h.1, RegularFields.exact h.2 h'⟩

theorem RegularItems.exact : ∀ {items : List Json}, RegularItems items → FloatlessItems items →
    ExactItems items
  | [], _, _ => trivial
  | _ :: _, h, h' => ⟨Regular.exact h.1 h'.1, RegularItems.exact h.2 h'.2⟩

theorem RegularFields.exact : ∀ {fields : Fields}, RegularFields fields →
    FloatlessFields fields → ExactFields fields
  | [], _, _ => trivial
  | _ :: _, h, h' => ⟨Regular.exact h.1 h'.1, RegularFields.exact h.2 h'.2⟩

end

theorem regularItems_iff {items : List Json} :
    RegularItems items ↔ ∀ item ∈ items, Regular item := by
  induction items with
  | nil => simp [RegularItems]
  | cons item items ih => simp [RegularItems, ih]

theorem regularFields_iff {fields : Fields} :
    RegularFields fields ↔ ∀ field ∈ fields, Regular field.2 := by
  induction fields with
  | nil => simp [RegularFields]
  | cons field fields ih => simp [RegularFields, ih]

theorem mem_put {key : Text} {value : Json} {fields : Fields} {field : Text × Json}
    (h : field ∈ fields.put key value) : field = (key, value) ∨ field ∈ fields := by
  induction fields with
  | nil => simpa [Fields.put] using h
  | cons known fields ih =>
      unfold Fields.put at h
      split at h
      · rename_i hkey
        rcases List.mem_cons.1 h with rfl | h
        · exact .inl (by rw [beq_iff_eq.1 hkey])
        · exact .inr (List.mem_cons_of_mem _ h)
      · rcases List.mem_cons.1 h with rfl | h
        · exact .inr List.mem_cons_self
        · exact (ih h).imp_right (List.mem_cons_of_mem _)

theorem nodup_put {fields : Fields} (h : fields.keys.Nodup) (key : Text) (value : Json) :
    (Fields.keys (fields.put key value)).Nodup := by
  induction fields with
  | nil => simp [Fields.put, Fields.keys]
  | cons known fields ih =>
      obtain ⟨hknown, hnodup⟩ := List.nodup_cons.1 h
      unfold Fields.put
      split
      · exact h
      · rename_i hkey
        refine List.nodup_cons.2 ⟨fun hmem => ?_, ih hnodup⟩
        obtain ⟨field, hfield, heq⟩ := List.mem_map.1 hmem
        rcases mem_put hfield with rfl | hfield
        · exact hkey (by simpa using heq.symm)
        · exact hknown (List.mem_map.2 ⟨field, hfield, heq⟩)

theorem regularFields_put {fields : Fields} {key : Text} {value : Json}
    (h : RegularFields fields) (hvalue : Regular value) :
    RegularFields (fields.put key value) := by
  rw [regularFields_iff] at h ⊢
  intro field hfield
  rcases mem_put hfield with rfl | hfield
  · exact hvalue
  · exact h field hfield

theorem ofDigitChars_lt {digits : Text} (h : ∀ c ∈ digits, Text.isAsciiDigit c = true) (n : Nat) :
    Nat.ofDigitChars 10 digits n < (n + 1) * 10 ^ digits.length := by
  induction digits generalizing n with
  | nil => simp [Nat.ofDigitChars]
  | cons c digits ih =>
      have hc := h c List.mem_cons_self
      simp only [Text.isAsciiDigit, Bool.and_eq_true, decide_eq_true_eq] at hc
      have hzero : '0'.toNat = 48 := rfl
      have hstep : 10 * n + (c.toNat - '0'.toNat) + 1 ≤ 10 * (n + 1) := by omega
      calc Nat.ofDigitChars 10 (c :: digits) n
          = Nat.ofDigitChars 10 digits (10 * n + (c.toNat - '0'.toNat)) := rfl
        _ < (10 * n + (c.toNat - '0'.toNat) + 1) * 10 ^ digits.length :=
            ih (fun d hd => h d (List.mem_cons_of_mem _ hd)) _
        _ ≤ 10 * (n + 1) * 10 ^ digits.length := Nat.mul_le_mul_right _ hstep
        _ = (n + 1) * 10 ^ (c :: digits).length := by
            rw [List.length_cons, Nat.pow_succ]
            ring

theorem digits_of_wholePart? {s whole rest : Text} (h : wholePart? s = some (whole, rest)) :
    whole ≠ [] ∧ ∀ c ∈ whole, Text.isAsciiDigit c = true := by
  unfold wholePart? at h
  split at h
  · cases h
    simp [Text.isAsciiDigit]
  · rename_i c s _
    split at h
    · rename_i hc
      cases h
      refine ⟨by simp [hc], fun d hd => ?_⟩
      exact List.all_eq_true.1 List.all_takeWhile d hd
    · cases h
  · cases h

theorem fewDigits_of_wholePart? {s whole rest : Text} (h : wholePart? s = some (whole, rest))
    (hfew : whole.length ≤ Text.maxDigits) (negative : Bool) :
    FewDigits (signed negative (Text.natOfDigits whole)) := by
  obtain ⟨hne, hdigits⟩ := digits_of_wholePart? h
  have hlt : Text.natOfDigits whole < 10 ^ whole.length := by
    simpa [Text.natOfDigits] using ofDigitChars_lt hdigits 0
  have hlength : (Text.ofNat (Text.natOfDigits whole)).length ≤ whole.length :=
    (Nat.length_toDigits_le_iff (by decide) (List.length_pos_iff.2 hne)).2 hlt
  have habs : (signed negative (Text.natOfDigits whole)).natAbs = Text.natOfDigits whole := by
    cases negative <;> simp [signed]
  rw [FewDigits, habs]
  exact Nat.le_trans hlength hfew

theorem regular_of_readNumber {s rest : Text} {value : Json}
    (h : readNumber s = .ok (value, rest)) : Regular value := by
  unfold readNumber at h
  simp only at h
  split at h
  · cases h
  · rename_i whole more hwhole
    split at h
    · cases h
      trivial
    · split at h
      · split at h
        · cases h
        · rename_i hfew
          cases h
          exact fewDigits_of_wholePart? hwhole (Nat.not_lt.1 hfew) _
      · cases h
        trivial

theorem regular_of_readScalar {s rest : Text} {value : Json}
    (h : readScalar s = .ok (value, rest)) : Regular value := by
  unfold readScalar at h
  split at h
  · rename_i found hfound
    obtain ⟨word, hword, hrest⟩ := List.exists_of_findSome?_eq_some hfound
    obtain ⟨_, -, rfl⟩ := Option.map_eq_some_iff.1 hrest
    have hregular : ∀ word ∈ wordValues, Regular word.2 := by
      simp [wordValues, Regular]
    cases h
    exact hregular word hword
  · exact regular_of_readNumber h

structure Careful (fuel : Nat) : Prop where
  value : ∀ {s rest : Text} {value : Json}, readValue fuel s = .ok (value, rest) → Regular value
  items : ∀ {s rest : Text} {items : List Json}, readItems fuel s = .ok (items, rest) →
    RegularItems items
  fields : ∀ {s rest : Text} {known fields : Fields}, readFields fuel s known = .ok (fields, rest) →
    Regular (.obj known) → Regular (.obj fields)

theorem careful_zero : Careful 0 where
  value h := by simp [readValue] at h
  items h := by simp [readItems] at h
  fields h := by simp [readFields] at h

theorem Careful.value_succ {fuel : Nat} (ih : Careful fuel) {s rest : Text} {value : Json}
    (h : readValue (fuel + 1) s = .ok (value, rest)) : Regular value := by
  unfold readValue at h
  split at h
  · obtain ⟨_, _, h⟩ := Except.exists_of_bind_eq_ok h
    cases h
    trivial
  · split at h
    · cases h
      exact ⟨List.nodup_nil, trivial⟩
    · obtain ⟨_, hfields, h⟩ := Except.exists_of_bind_eq_ok h
      cases h
      exact ih.fields hfields ⟨List.nodup_nil, trivial⟩
  · split at h
    · cases h
      trivial
    · obtain ⟨_, hitems, h⟩ := Except.exists_of_bind_eq_ok h
      cases h
      exact ih.items hitems
  · exact regular_of_readScalar h

theorem Careful.items_succ {fuel : Nat} (ih : Careful fuel) {s rest : Text} {items : List Json}
    (h : readItems (fuel + 1) s = .ok (items, rest)) : RegularItems items := by
  unfold readItems at h
  obtain ⟨⟨item, _⟩, hitem, h⟩ := Except.exists_of_bind_eq_ok h
  simp only at h
  split at h
  · cases h
    exact ⟨ih.value hitem, trivial⟩
  · obtain ⟨_, hitems, h⟩ := Except.exists_of_bind_eq_ok h
    cases h
    exact ⟨ih.value hitem, ih.items hitems⟩
  · cases h

theorem Careful.fields_succ {fuel : Nat} (ih : Careful fuel) {s rest : Text}
    {known fields : Fields} (h : readFields (fuel + 1) s known = .ok (fields, rest))
    (hknown : Regular (.obj known)) : Regular (.obj fields) := by
  unfold readFields at h
  split at h
  · obtain ⟨⟨key, _⟩, _, h⟩ := Except.exists_of_bind_eq_ok h
    simp only at h
    split at h
    · obtain ⟨⟨value, _⟩, hvalue, h⟩ := Except.exists_of_bind_eq_ok h
      have hput : Regular (.obj (known.put key value)) :=
        ⟨nodup_put hknown.1 key value, regularFields_put hknown.2 (ih.value hvalue)⟩
      simp only at h
      split at h
      · cases h
        exact hput
      · exact ih.fields h hput
      · cases h
    · cases h
  · cases h

theorem careful (fuel : Nat) : Careful fuel := by
  induction fuel with
  | zero => exact careful_zero
  | succ fuel ih => exact ⟨ih.value_succ, ih.items_succ, ih.fields_succ⟩

theorem regular_of_read {s : Text} {value : Json} (h : read s = .ok value) : Regular value := by
  unfold read at h
  split at h
  · cases h
  · obtain ⟨⟨value, rest⟩, hvalue, h⟩ := Except.exists_of_bind_eq_ok h
    simp only at h
    split at h
    · cases h
      exact (careful _).value hvalue
    · cases h

end Json

end Flowchart
