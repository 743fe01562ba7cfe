import Flowchart.Proofs.Json.Written
import Mathlib.Data.List.Perm.Basic

/-!
# The order of keys

A value whose keys are sorted on the way out is written like the value with sorted keys. Sorting
changes no more than the order of keys, and finds the same value under every key.
-/

namespace Flowchart

namespace Fields

theorem get?_eq_some_iff {fields : Fields} (h : fields.keys.Nodup) {key : Text} {value : Json} :
    fields.get? key = some value ↔ (key, value) ∈ fields := by
  induction fields with
  | nil => simp [get?]
  | cons field fields ih =>
      obtain ⟨name, found⟩ := field
      obtain ⟨hname, hnodup⟩ := List.nodup_cons.1 h
      by_cases hkey : key = name
      · subst hkey
        have hnew : (key, value) ∉ fields := fun hmem => hname (List.mem_map.2 ⟨_, hmem, rfl⟩)
        simp [get?, hnew, eq_comm]
      · have hbeq : (key == name) = false := by simpa using hkey
        simpa [get?, List.lookup_cons, hbeq, hkey] using ih hnodup

theorem get?_perm {fields fields' : Fields} (hperm : fields.Perm fields')
    (h : fields.keys.Nodup) (key : Text) : fields.get? key = fields'.get? key := by
  have h' : fields'.keys.Nodup := (hperm.map Prod.fst).nodup_iff.1 h
  ext value
  rw [get?_eq_some_iff h, get?_eq_some_iff h', hperm.mem_iff]

theorem get?_map (f : Json → Json) (fields : Fields) (key : Text) :
    get? key (fields.map fun field => (field.1, f field.2)) = (fields.get? key).map f := by
  induction fields with
  | nil => rfl
  | cons field fields ih =>
      obtain ⟨name, value⟩ := field
      by_cases hkey : key = name
      · simp [get?, hkey]
      · have hbeq : (key == name) = false := by simpa using hkey
        simpa [get?, List.lookup_cons, hbeq] using ih

end Fields

namespace Json

mutual

inductive Alike : Json → Json → Prop
  | same (value : Json) : Alike value value
  | arr {items items' : List Json} : AlikeItems items items' → Alike (.arr items) (.arr items')
  | obj {fields fields' fields'' : Fields} : AlikeFields fields fields' →
      fields'.Perm fields'' → Alike (.obj fields) (.obj fields'')

inductive AlikeItems : List Json → List Json → Prop
  | nil : AlikeItems [] []
  | cons {item item' : Json} {items items' : List Json} : Alike item item' →
      AlikeItems items items' → AlikeItems (item :: items) (item' :: items')

inductive AlikeFields : Fields → Fields → Prop
  | nil : AlikeFields [] []
  | cons {key : Text} {value value' : Json} {fields fields' : Fields} : Alike value value' →
      AlikeFields fields fields' → AlikeFields ((key, value) :: fields) ((key, value') :: fields')

end

def sortKeys (fields : Fields) : Fields := fields.mergeSort fun a b => Text.notAfter a.1 b.1

mutual

def sorted : Json → Json
  | .arr items => .arr (sortedItems items)
  | .obj fields => .obj (sortKeys (sortedFields fields))
  | value => value

def sortedItems : List Json → List Json
  | [] => []
  | item :: items => sorted item :: sortedItems items

def sortedFields : Fields → Fields
  | [] => []
  | (key, value) :: fields => (key, sorted value) :: sortedFields fields

end

theorem sortKeys_perm (fields : Fields) : (sortKeys fields).Perm fields :=
  List.mergeSort_perm fields _

mutual

theorem alike_sorted : ∀ value : Json, Alike value (sorted value)
  | .null => .same _
  | .bool _ => .same _
  | .int _ => .same _
  | .float _ => .same _
  | .str _ => .same _
  | .arr items => by
      rw [sorted]
      exact .arr (alikeItems_sorted items)
  | .obj fields => by
      rw [sorted]
      exact .obj (alikeFields_sorted fields) (sortKeys_perm _).symm

theorem alikeItems_sorted : ∀ items : List Json, AlikeItems items (sortedItems items)
  | [] => .nil
  | item :: items => .cons (alike_sorted item) (alikeItems_sorted items)

theorem alikeFields_sorted : ∀ fields : Fields, AlikeFields fields (sortedFields fields)
  | [] => .nil
  | (_, value) :: fields => .cons (alike_sorted value) (alikeFields_sorted fields)

end

theorem keys_sortedFields (fields : Fields) :
    Fields.keys (sortedFields fields) = Fields.keys fields := by
  induction fields with
  | nil => rfl
  | cons field fields ih => simpa [sortedFields, Fields.keys] using ih

theorem exactFields_iff {fields : Fields} :
    ExactFields fields ↔ ∀ field ∈ fields, Exact field.2 := by
  induction fields with
  | nil => simp [ExactFields]
  | cons field fields ih => simp [ExactFields, ih]

mutual

theorem exact_sorted : ∀ value : Json, Exact value → Exact (sorted value)
  | .null, h => h
  | .bool _, h => h
  | .int _, h => h
  | .float _, h => h
  | .str _, h => h
  | .arr items, h => by
      rw [sorted]
      exact exactItems_sorted items h
  | .obj fields, h => by
      have hperm := sortKeys_perm (sortedFields fields)
      rw [sorted]
      refine ⟨(hperm.map Prod.fst).nodup_iff.2 ?_, exactFields_iff.2 fun field hfield => ?_⟩
      · change (Fields.keys (sortedFields fields)).Nodup
        rw [keys_sortedFields]
        exact h.1
      · exact exactFields_iff.1 (exactFields_sorted fields h.2) field (hperm.mem_iff.1 hfield)

theorem exactItems_sorted : ∀ items : List Json, ExactItems items → ExactItems (sortedItems items)
  | [], h => h
  | item :: items, h => ⟨exact_sorted item h.1, exactItems_sorted items h.2⟩

theorem exactFields_sorted : ∀ fields : Fields, ExactFields fields →
    ExactFields (sortedFields fields)
  | [], h => h
  | (_, value) :: fields, h => ⟨exact_sorted value h.1, exactFields_sorted fields h.2⟩

end

def Style.unsorted (style : Style) : Style := { style with sortKeys := false }

theorem writeFields_eq_map (style : Style) (depth : Nat) (fields : Fields) :
    writeFields style depth fields =
      fields.map fun field => (field.1, writeAt style depth field.2) := by
  induction fields with
  | nil => rfl
  | cons field fields ih => simp [writeFields, ih]

theorem sortFields_writeFields (style : Style) (depth : Nat) (fields : Fields) :
    sortFields (writeFields style depth fields) = writeFields style depth (sortKeys fields) := by
  -- The keys are sorted after the values are written, which is as good as before.
  rw [writeFields_eq_map, writeFields_eq_map, sortFields, sortKeys]
  let written := fun field : Text × Json => (field.1, writeAt style depth field.2)
  exact (List.map_mergeSort (f := written) fun _ _ _ _ => rfl).symm

mutual

theorem writeAt_sorted {style : Style} (h : style.sortKeys = true) : ∀ (value : Json) (depth : Nat),
    writeAt style depth value = writeAt style.unsorted depth (sorted value)
  | .null, _ => rfl
  | .bool _, _ => rfl
  | .int _, _ => rfl
  | .float _, _ => rfl
  | .str _, _ => rfl
  | .arr items, depth => by
      rw [sorted, writeAt, writeAt, writeItems_sorted h items]
      rfl
  | .obj fields, depth => by
      rw [sorted, writeAt, writeAt, writeFields_sorted h fields, h, if_pos rfl,
        sortFields_writeFields]
      rfl

theorem writeItems_sorted {style : Style} (h : style.sortKeys = true) : ∀ (items : List Json) (depth : Nat),
    writeItems style depth items = writeItems style.unsorted depth (sortedItems items)
  | [], _ => rfl
  | item :: items, depth => by
      rw [sortedItems, writeItems, writeItems, writeAt_sorted h item, writeItems_sorted h items]

theorem writeFields_sorted {style : Style} (h : style.sortKeys = true) : ∀ (fields : Fields) (depth : Nat),
    writeFields style depth fields = writeFields style.unsorted depth (sortedFields fields)
  | [], _ => rfl
  | (_, value) :: fields, depth => by
      rw [sortedFields, writeFields, writeFields, writeAt_sorted h value,
        writeFields_sorted h fields]

end

def arranged (style : Style) (value : Json) : Json :=
  if style.sortKeys then value.sorted else value

theorem arranged_of_unsorted {style : Style} (h : style.sortKeys = false) (value : Json) :
    value.arranged style = value := by
  simp [arranged, h]

theorem read_write_exact {style : Style} (hstyle : style.Spaced) {value : Json} (h : Exact value) :
    read (write style value) = .ok (value.arranged style) := by
  unfold arranged
  cases hsort : style.sortKeys with
  | false => exact read_write_unsorted hstyle hsort h
  | true =>
      rw [write, writeAt_sorted hsort value 0]
      have hunsorted : style.unsorted.Spaced := hstyle
      exact read_write_unsorted hunsorted rfl (exact_sorted value h)

theorem alike_arranged (style : Style) (value : Json) : Alike value (value.arranged style) := by
  unfold arranged
  split
  · exact alike_sorted value
  · exact .same value

@[simp] theorem arranged_null (style : Style) : arranged style .null = .null := by
  simp [arranged, sorted]

@[simp] theorem arranged_bool (style : Style) (b : Bool) :
    arranged style (.bool b) = .bool b := by
  simp [arranged, sorted]

@[simp] theorem arranged_str (style : Style) (s : Text) : arranged style (.str s) = .str s := by
  simp [arranged, sorted]

theorem sortedItems_eq_map (items : List Json) : sortedItems items = items.map sorted := by
  induction items with
  | nil => rfl
  | cons item items ih => rw [sortedItems, ih, List.map_cons]

theorem sortedFields_eq_map (fields : Fields) :
    sortedFields fields = fields.map fun field => (field.1, field.2.sorted) := by
  induction fields with
  | nil => rfl
  | cons field fields ih => rw [sortedFields, ih, List.map_cons]

theorem arranged_arr (style : Style) (items : List Json) :
    arranged style (.arr items) = .arr (items.map (arranged style)) := by
  cases hsort : style.sortKeys with
  | false =>
      have hitems : items.map (arranged style) = items :=
        List.map_id'' (arranged_of_unsorted hsort) items
      rw [arranged_of_unsorted hsort, hitems]
  | true =>
      have hsorted : arranged style = sorted := by
        funext value
        simp [arranged, hsort]
      rw [hsorted, sorted, sortedItems_eq_map]

@[simp] theorem isVoid_arranged (style : Style) (value : Json) :
    (value.arranged style).isVoid = value.isVoid := by
  unfold arranged
  split
  · cases value with
    | arr items => cases items <;> simp [sorted, sortedItems, isVoid]
    | obj fields =>
        rw [sorted, isVoid, isVoid, (sortKeys_perm (sortedFields fields)).isEmpty_eq,
          sortedFields_eq_map, List.isEmpty_map]
    | _ => rfl
  · rfl

theorem arranged_orElse (style : Style) (value other : Json) :
    (value.orElse other).arranged style = (value.arranged style).orElse (other.arranged style) := by
  unfold orElse
  rw [isVoid_arranged]
  split <;> rfl

end Json

namespace Fields

def arranged (style : Json.Style) (fields : Fields) : Fields :=
  ((Json.obj fields).arranged style).fieldsOf

theorem obj_arranged (style : Json.Style) (fields : Fields) :
    (Json.obj fields).arranged style = .obj (fields.arranged style) := by
  unfold arranged Json.arranged
  split
  · simp [Json.sorted, Json.fieldsOf, Json.fields?]
  · rfl

theorem get?_arranged (style : Json.Style) {fields : Fields} (h : fields.keys.Nodup) (key : Text) :
    (fields.arranged style).get? key = (fields.get? key).map (·.arranged style) := by
  cases hsort : style.sortKeys with
  | false => simp [arranged, Json.arranged_of_unsorted hsort, Json.fieldsOf, Json.fields?]
  | true =>
      have hfields : fields.arranged style = Json.sortKeys (Json.sortedFields fields) := by
        simp [arranged, Json.arranged, hsort, Json.sorted, Json.fieldsOf, Json.fields?]
      have hvalue : (fun value : Json => value.arranged style) = Json.sorted := by
        funext value
        simp [Json.arranged, hsort]
      have hkeys := Json.keys_sortedFields fields
      rw [hfields, hvalue, ← get?_perm (Json.sortKeys_perm _).symm (hkeys.symm ▸ h),
        Json.sortedFields_eq_map, get?_map]

theorem get_arranged (style : Json.Style) {fields : Fields} (h : fields.keys.Nodup) (key : Text) :
    (fields.arranged style).get key = (fields.get key).arranged style := by
  rw [get, get, get?_arranged style h]
  cases fields.get? key <;> simp

end Fields

end Flowchart
