import Flowchart.Flow.Fields
import Flowchart.Proofs.Flow.Settled

/-!
# The fields of a flow

Fields are written from entries that may hold no value. What is void is left out, and a lookup makes
null of an absent field: but for what was void, every key leads back to the value that it was written
for.
-/

namespace Flowchart

abbrev Entries := List (Text × Option Json)

namespace Entries

def fields (entries : Entries) : Fields :=
  entries.flatMap fun entry => (entry.2.map fun value => (entry.1, value)).toList

def keys (entries : Entries) : List Text := entries.map Prod.fst

theorem keys_fields_sublist (entries : Entries) : entries.fields.keys.Sublist entries.keys := by
  induction entries with
  | nil => exact List.Sublist.slnil
  | cons entry entries ih =>
      obtain ⟨key, value⟩ := entry
      cases value with
      | none => exact ih.cons key
      | some value => exact ih.cons_cons key

theorem get?_fields {entries : Entries} (h : entries.keys.Nodup) (key : Text) :
    entries.fields.get? key = (entries.lookup key).join := by
  induction entries with
  | nil => rfl
  | cons entry entries ih =>
      obtain ⟨name, value⟩ := entry
      obtain ⟨hname, hnodup⟩ := List.nodup_cons.1 h
      have hfields : Entries.fields ((name, value) :: entries) =
          (value.map fun v => (name, v)).toList ++ Entries.fields entries := rfl
      by_cases hkey : key = name
      · subst hkey
        cases value with
        | some value => simp [hfields, Fields.get?]
        | none =>
            have hnone : entries.lookup key = none := by
              rw [List.lookup_eq_none_iff]
              intro other hother
              have hne : key ≠ other.1 :=
                fun heq => hname (List.mem_map.2 ⟨other, hother, heq.symm⟩)
              simpa using hne
            simpa [hfields, hnone] using ih hnodup
      · have hbeq : (key == name) = false := by simpa using hkey
        cases value <;> simpa [hfields, Fields.get?, List.lookup_cons, hbeq] using ih hnodup

end Entries

namespace Json

def unlessVoid? (value : Json) : Option Json := if value.isVoid then none else some value

def unlessNull? (value : Json) : Option Json := if value = .null then none else some value

theorem getD_unlessVoid? (value : Json) : value.unlessVoid?.getD .null = value.orElse .null := by
  unfold unlessVoid? orElse
  split <;> rfl

theorem getD_unlessNull? (value : Json) : value.unlessNull?.getD .null = value := by
  unfold unlessNull?
  split
  · rename_i hnull
    exact hnull.symm
  · rfl

theorem getD_unlessVoid?_arr (items : List Json) :
    (Json.arr items).unlessVoid?.getD .null = if items = [] then .null else .arr items := by
  cases items <;> rfl

end Json

theorem Fields.unlessVoid_eq (key : Text) (value : Json) :
    unlessVoid key value = (value.unlessVoid?.map fun v => (key, v)).toList := by
  unfold unlessVoid Json.unlessVoid?
  split <;> rfl

theorem Fields.unlessNull_eq (key : Text) (value : Json) :
    (if value = .null then [] else [(key, value)]) =
      (value.unlessNull?.map fun v => (key, v)).toList := by
  unfold Json.unlessNull?
  split <;> rfl

theorem Fields.require_of_get {fields : Fields} {key s : Text} (h : fields.get key = .str s) :
    fields.require key = .ok s := by
  cases hfound : fields.get? key with
  | none => simp [get, hfound] at h
  | some value =>
      obtain rfl : value = .str s := by simpa [get, hfound] using h
      simp [require, hfound, Json.display]

namespace Outlet

def entries (outlet : Outlet) : Entries :=
  [("id".toList, some outlet.id), ("to".toList, some (.str outlet.target)),
    ("label".toList, outlet.label.unlessVoid?), ("condition".toList, outlet.condition.unlessVoid?),
    ("actions".toList, outlet.actions.unlessVoid?),
    ("metadata".toList, outlet.metadata.unlessVoid?)]

theorem nodup_keys_entries (outlet : Outlet) : outlet.entries.keys.Nodup :=
  show (["id", "to", "label", "condition", "actions", "metadata"].map String.toList).Nodup by decide

theorem toFields_eq (outlet : Outlet) : outlet.toFields = outlet.entries.fields := by
  simp only [toFields, Fields.unlessVoid_eq, List.append_assoc]
  simp [entries, Entries.fields]

theorem nodup_keys_toFields (outlet : Outlet) : outlet.toFields.keys.Nodup :=
  outlet.toFields_eq ▸ outlet.entries.keys_fields_sublist.nodup outlet.nodup_keys_entries

theorem target_toFields (outlet : Outlet) :
    outlet.toFields.get "to".toList = .str outlet.target := by
  simp only [Fields.get, toFields_eq, Entries.get?_fields outlet.nodup_keys_entries]
  rfl

theorem get_toFields (outlet : Outlet) :
    outlet.toFields.get "id".toList = outlet.id ∧
      outlet.toFields.get "label".toList = outlet.label.orElse .null ∧
      outlet.toFields.get "condition".toList = outlet.condition.orElse .null ∧
      outlet.toFields.get "actions".toList = outlet.actions.orElse .null ∧
      outlet.toFields.get "metadata".toList = outlet.metadata.orElse .null := by
  simp only [Fields.get, toFields_eq, Entries.get?_fields outlet.nodup_keys_entries]
  exact ⟨rfl, outlet.label.getD_unlessVoid?, outlet.condition.getD_unlessVoid?,
    outlet.actions.getD_unlessVoid?, outlet.metadata.getD_unlessVoid?⟩

end Outlet

namespace Node

def entries (node : Node) : Entries :=
  [("id".toList, some (.str node.id)), ("title".toList, some node.title),
    ("content".toList, node.content.unlessNull?),
    ("outlets".toList, (Json.arr (node.outlets.map fun o => .obj o.toFields)).unlessVoid?),
    ("actions".toList, node.actions.unlessVoid?),
    ("autoAdvance".toList, node.autoAdvance.map .bool),
    ("metadata".toList, node.metadata.unlessVoid?)]

theorem nodup_keys_entries (node : Node) : node.entries.keys.Nodup :=
  show (["id", "title", "content", "outlets", "actions", "autoAdvance", "metadata"].map
    String.toList).Nodup by decide

theorem toFields_eq (node : Node) : node.toFields = node.entries.fields := by
  simp only [toFields, Fields.unlessVoid_eq, Fields.unlessNull_eq, List.append_assoc]
  simp [entries, Entries.fields, Function.comp_def]

theorem nodup_keys_toFields (node : Node) : node.toFields.keys.Nodup :=
  node.toFields_eq ▸ node.entries.keys_fields_sublist.nodup node.nodup_keys_entries

theorem id_toFields (node : Node) : node.toFields.get "id".toList = .str node.id := by
  simp only [Fields.get, toFields_eq, Entries.get?_fields node.nodup_keys_entries]
  rfl

theorem get_toFields (node : Node) :
    node.toFields.get "title".toList = node.title ∧
      node.toFields.get "content".toList = node.content ∧
      node.toFields.get "actions".toList = node.actions.orElse .null ∧
      node.toFields.get "metadata".toList = node.metadata.orElse .null := by
  simp only [Fields.get, toFields_eq, Entries.get?_fields node.nodup_keys_entries]
  exact ⟨rfl, node.content.getD_unlessNull?, node.actions.getD_unlessVoid?,
    node.metadata.getD_unlessVoid?⟩

theorem outlets_toFields (node : Node) :
    node.toFields.get "outlets".toList =
      if node.outlets = [] then .null else .arr (node.outlets.map fun o => .obj o.toFields) := by
  simp only [Fields.get, toFields_eq, Entries.get?_fields node.nodup_keys_entries]
  exact (Json.getD_unlessVoid?_arr _).trans (by simp only [List.map_eq_nil_iff])

theorem outlets_arranged (node : Node) (style : Json.Style) :
    Fields.get "outlets".toList (node.toFields.arranged style) =
      if node.outlets = [] then .null
      else .arr (node.outlets.map fun o => .obj (o.toFields.arranged style)) := by
  rw [Fields.get_arranged style node.nodup_keys_toFields, node.outlets_toFields]
  split
  · exact Json.arranged_null style
  · rw [Json.arranged_arr, List.map_map]
    exact congrArg _ (List.map_congr_left fun o _ => Fields.obj_arranged style o.toFields)

theorem autoAdvance_toFields (node : Node) :
    node.toFields.get? "autoAdvance".toList = node.autoAdvance.map .bool ∧
      node.toFields.get? "isAutoAdvance".toList = none := by
  simp only [toFields_eq, Entries.get?_fields node.nodup_keys_entries]
  exact ⟨rfl, rfl⟩

end Node

namespace Flow

def entries (flow : Flow) : Entries :=
  [("id".toList, some (.str flow.id)), ("title".toList, some flow.title),
    ("description".toList, flow.description.unlessVoid?),
    ("startNodeId".toList, some (.str flow.start)),
    ("nodes".toList, some (.arr (flow.nodes.map fun node => .obj node.toFields))),
    ("globalState".toList, flow.globalState.unlessNull?),
    ("metadata".toList, flow.metadata.unlessVoid?)]

theorem nodup_keys_entries (flow : Flow) : flow.entries.keys.Nodup :=
  show (["id", "title", "description", "startNodeId", "nodes", "globalState", "metadata"].map
    String.toList).Nodup by decide

theorem toFields_eq (flow : Flow) : flow.toFields = flow.entries.fields := by
  simp only [toFields, Fields.unlessVoid_eq, Fields.unlessNull_eq, List.append_assoc]
  simp [entries, Entries.fields]

theorem nodup_keys_toFields (flow : Flow) : flow.toFields.keys.Nodup :=
  flow.toFields_eq ▸ flow.entries.keys_fields_sublist.nodup flow.nodup_keys_entries

theorem get_toFields (flow : Flow) :
    flow.toFields.get "id".toList = .str flow.id ∧
      flow.toFields.get "startNodeId".toList = .str flow.start ∧
      flow.toFields.get "nodes".toList = .arr (flow.nodes.map fun node => .obj node.toFields) := by
  simp only [Fields.get, toFields_eq, Entries.get?_fields flow.nodup_keys_entries]
  exact ⟨rfl, rfl, rfl⟩

theorem payload_toFields (flow : Flow) :
    flow.toFields.get "title".toList = flow.title ∧
      flow.toFields.get "description".toList = flow.description.orElse .null ∧
      flow.toFields.get "globalState".toList = flow.globalState ∧
      flow.toFields.get "metadata".toList = flow.metadata.orElse .null := by
  simp only [Fields.get, toFields_eq, Entries.get?_fields flow.nodup_keys_entries]
  exact ⟨rfl, flow.description.getD_unlessVoid?, flow.globalState.getD_unlessNull?,
    flow.metadata.getD_unlessVoid?⟩

theorem nodes_arranged (flow : Flow) (style : Json.Style) :
    Fields.get "nodes".toList (flow.toFields.arranged style) =
      .arr (flow.nodes.map fun node => .obj (node.toFields.arranged style)) := by
  obtain ⟨-, -, hnodes⟩ := flow.get_toFields
  rw [Fields.get_arranged style flow.nodup_keys_toFields, hnodes, Json.arranged_arr, List.map_map]
  exact congrArg _ (List.map_congr_left fun node _ => Fields.obj_arranged style node.toFields)

end Flow

end Flowchart
