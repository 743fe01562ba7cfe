import Flowchart.Proofs.Flow.ReadBack
import Flowchart.Proofs.Record.Rules
import Flowchart.Proofs.Text.Lines
import Flowchart.Record.Writer

/-!
# Records read back

A settled and sound flow is read back from its record, whatever the layout. Sorting keys on the way
out changes no more than the order of keys inside its values. Other flows may come back changed, but
they come back exactly if they have no violations.
-/

namespace Flowchart

theorem Json.eq_of_unlessVoid? {value kept : Json} (h : value.unlessVoid? = some kept) :
    kept = value := by
  unfold unlessVoid? at h
  split at h
  · cases h
  · exact (Option.some.inj h).symm

theorem Json.eq_of_unlessNull? {value kept : Json} (h : value.unlessNull? = some kept) :
    kept = value := by
  unfold unlessNull? at h
  split at h
  · cases h
  · exact (Option.some.inj h).symm

theorem Entries.exact_fields {entries : Entries} (hnodup : entries.keys.Nodup)
    (h : ∀ entry ∈ entries, ∀ value, entry.2 = some value → value.Exact) :
    Json.Exact (.obj entries.fields) := by
  refine ⟨entries.keys_fields_sublist.nodup hnodup, Json.exactFields_iff.2 fun field hfield => ?_⟩
  obtain ⟨entry, hentry, hfield⟩ := List.mem_flatMap.1 hfield
  obtain ⟨value, hvalue, rfl⟩ := Option.map_eq_some_iff.1 (Option.mem_toList.1 hfield)
  exact h entry hentry value hvalue

theorem Json.exact_arr_map {α : Type} {f : α → Json} {as : List α} (h : ∀ a ∈ as, (f a).Exact) :
    Exact (.arr (as.map f)) := by
  induction as with
  | nil => trivial
  | cons a as ih =>
      obtain ⟨ha, has⟩ := List.forall_mem_cons.1 h
      exact ⟨ha, ih has⟩

theorem Outlet.exact_toFields {outlet : Outlet} (h : ∀ value ∈ outlet.payload, value.Exact) :
    Json.Exact (.obj outlet.toFields) := by
  simp only [payload, List.forall_mem_cons] at h
  obtain ⟨hid, hlabel, hcondition, hactions, hmetadata, -⟩ := h
  rw [toFields_eq]
  refine Entries.exact_fields outlet.nodup_keys_entries ?_
  simp only [entries, List.forall_mem_cons]
  refine ⟨?_, ?_, ?_, ?_, ?_, ?_, by simp⟩
  · rintro value ⟨⟩
    exact hid
  · rintro value ⟨⟩
    trivial
  all_goals
    intro value hvalue
    rw [Json.eq_of_unlessVoid? hvalue]
    assumption

theorem Node.exact_toFields {node : Node} (h : ∀ value ∈ node.payload, value.Exact) :
    Json.Exact (.obj node.toFields) := by
  have houtlets : ∀ outlet ∈ node.outlets, Json.Exact (.obj outlet.toFields) :=
    fun outlet houtlet => Outlet.exact_toFields fun value hvalue =>
      h value (List.mem_append_right _ (List.mem_flatMap.2 ⟨outlet, houtlet, hvalue⟩))
  have hown := fun value hvalue => h value (List.mem_append_left _ hvalue)
  simp only [List.forall_mem_cons] at hown
  obtain ⟨htitle, hcontent, hactions, hmetadata, -⟩ := hown
  rw [toFields_eq]
  refine Entries.exact_fields node.nodup_keys_entries ?_
  simp only [entries, List.forall_mem_cons]
  refine ⟨?_, ?_, ?_, ?_, ?_, ?_, ?_, by simp⟩
  · rintro value ⟨⟩
    trivial
  · rintro value ⟨⟩
    exact htitle
  · intro value hvalue
    exact Json.eq_of_unlessNull? hvalue ▸ hcontent
  · intro value hvalue
    exact Json.eq_of_unlessVoid? hvalue ▸ Json.exact_arr_map houtlets
  · intro value hvalue
    exact Json.eq_of_unlessVoid? hvalue ▸ hactions
  · intro value hvalue
    obtain ⟨b, -, rfl⟩ := Option.map_eq_some_iff.1 hvalue
    trivial
  · intro value hvalue
    exact Json.eq_of_unlessVoid? hvalue ▸ hmetadata

theorem Flow.exact_toFields {flow : Flow} (h : ∀ value ∈ flow.payload, value.Exact) :
    Json.Exact (.obj flow.toFields) := by
  have hnodes : ∀ node ∈ flow.nodes, Json.Exact (.obj node.toFields) :=
    fun node hnode => Node.exact_toFields fun value hvalue =>
      h value (List.mem_append_right _ (List.mem_flatMap.2 ⟨node, hnode, hvalue⟩))
  have hown := fun value hvalue => h value (List.mem_append_left _ hvalue)
  simp only [List.forall_mem_cons] at hown
  obtain ⟨htitle, hdescription, hstate, hmetadata, -⟩ := hown
  rw [toFields_eq]
  refine Entries.exact_fields flow.nodup_keys_entries ?_
  simp only [entries, List.forall_mem_cons]
  refine ⟨?_, ?_, ?_, ?_, ?_, ?_, ?_, by simp⟩
  · rintro value ⟨⟩
    trivial
  · rintro value ⟨⟩
    exact htitle
  · intro value hvalue
    exact Json.eq_of_unlessVoid? hvalue ▸ hdescription
  · rintro value ⟨⟩
    trivial
  · rintro value ⟨⟩
    exact Json.exact_arr_map hnodes
  · intro value hvalue
    exact Json.eq_of_unlessNull? hvalue ▸ hstate
  · intro value hvalue
    exact Json.eq_of_unlessVoid? hvalue ▸ hmetadata

namespace Record

theorem trim_write (style : Json.Style) (flow : Flow) :
    Text.trim (write style flow) = write style flow := by
  have hends : ∀ (depth : Nat) (parts : List Text), ∃ inside,
      Json.enclose style depth '{' '}' parts = '{' :: (inside ++ ['}']) := by
    intro depth parts
    unfold Json.enclose
    split
    · exact ⟨[], rfl⟩
    · split <;> exact ⟨_, rfl⟩
  obtain ⟨inside, hinside⟩ := hends 0 _
  have htext : write style flow = '{' :: (inside ++ ['}']) := hinside
  apply Text.trim_eq_self
  · rw [htext]
    rintro c ⟨⟩
    decide
  · rw [htext, ← List.cons_append, List.getLast?_concat]
    rintro c ⟨⟩
    decide

theorem filled_of_settled {flow : Flow} (h : flow.Settled) (hsound : flow.Sound) :
    flow.Filled where
  named := h.named
  nodes node hnode := (h.nodes node hnode).named
  targets node hnode outlet houtlet := by
    obtain ⟨other, hother, hid⟩ := List.mem_map.1 (hsound.resolved node hnode outlet houtlet)
    exact hid ▸ (h.nodes other hother).named

theorem toJson_of_settled {flow : Flow} (h : flow.Settled) : toJson flow = .obj flow.toFields := by
  rw [toJson, Json.orElse_of_not_void h.titled]

theorem ofJson_arranged {flow : Flow} (h : flow.Settled) (hsound : flow.Sound)
    (hne : flow.nodes ≠ []) (style : Json.Style) :
    ofJson ((toJson flow).arranged style) = .ok (flow.arranged style) := by
  have htitled : (flow.title.arranged style).isVoid = false := by
    rw [Json.isVoid_arranged, h.titled]
  have hcheck := (check_eq_ok_iff (filled_of_settled h hsound) hne style).2 hsound.violations_eq_nil
  rw [toJson_of_settled h, Fields.obj_arranged, ofJson, hcheck]
  simp only [flow.ofFields_arranged style, Flow.tidied_eq_self_iff.2 h.tidy]
  rw [show (flow.arranged style).title = flow.title.arranged style from rfl,
    Json.orElse_of_not_void htitled]
  rfl

theorem exact_toJson {flow : Flow} (h : ∀ value ∈ flow.payload, value.Exact) :
    (toJson flow).Exact := by
  refine Flow.exact_toFields fun value hvalue => ?_
  rcases List.mem_cons.1 hvalue with rfl | hvalue
  · unfold Json.orElse
    split
    · trivial
    · exact h flow.title List.mem_cons_self
  · exact h value (List.mem_cons_of_mem _ hvalue)

theorem read_write_eq_ofJson {flow : Flow} (h : ∀ value ∈ flow.payload, value.Exact) {style : Json.Style}
    (hstyle : style.Spaced) : read (write style flow) = ofJson ((toJson flow).arranged style) := by
  rw [read, trim_write, write, Json.read_write_exact hstyle (exact_toJson h)]

theorem read_write_settled {flow : Flow} (h : flow.Settled) (hsound : flow.Sound)
    (hne : flow.nodes ≠ []) (hfloat : ∀ value ∈ flow.payload, value.Floatless)
    {style : Json.Style} (hstyle : style.Spaced) :
    read (write style flow) = .ok (flow.arranged style) := by
  have hexact := fun value hvalue => (h.regular value hvalue).exact (hfloat value hvalue)
  rw [read_write_eq_ofJson hexact hstyle]
  exact ofJson_arranged h hsound hne style

def styleOf (indent : Option Int) (sortKeys : Bool) : Json.Style where
  indent := indent.map fun n => Text.spaces n.toNat
  sortKeys := sortKeys

theorem spaced_styleOf (indent : Option Int) (sortKeys : Bool) :
    (styleOf indent sortKeys).Spaced := by
  intro unit hunit c hc
  obtain ⟨n, -, rfl⟩ := Option.map_eq_some_iff.1 hunit
  rw [List.eq_of_mem_replicate hc]
  rfl

theorem exists_flow_of_check {fields : Fields} (h : check fields = .ok ()) :
    ∃ flow, ofJson (.obj fields) = .ok flow := by
  obtain ⟨id, start, checked, hchecked⟩ := exists_checked h
  obtain ⟨flow, hflow, -⟩ := hchecked.exists_flow
  rw [ofJson, h]
  simp only [hflow]
  exact ⟨_, rfl⟩

/-- A flow with nodes, and with ids and targets that are not empty, is read back from its record
exactly if it has no violations. Otherwise the rule that the record breaks tells one of them. -/
theorem read_write_iff {flow : Flow} (h : flow.Filled) (hne : flow.nodes ≠ [])
    (hregular : ∀ value ∈ flow.payload, value.Regular)
    (hfloat : ∀ value ∈ flow.payload, value.Floatless) (indent : Option Int) (sortKeys : Bool) :
    ((∃ again, read (write (styleOf indent sortKeys) flow) = .ok again) ↔ flow.violations = []) ∧
      (flow.violations ≠ [] → ∃ breach,
        read (write (styleOf indent sortKeys) flow) = .error (.breach breach) ∧
          ∃ violation ∈ flow.violations, breach.Tells violation) := by
  have hexact := fun value hvalue => (hregular value hvalue).exact (hfloat value hvalue)
  -- The default title stands in for a void one, which changes no rule and no violation.
  let titled : Flow := { flow with title := flow.title.orElse defaultTitle }
  have htitled : titled.Filled := ⟨h.named, h.nodes, h.targets⟩
  have hread : read (write (styleOf indent sortKeys) flow) =
      ofJson (.obj (titled.toFields.arranged (styleOf indent sortKeys))) := by
    rw [read_write_eq_ofJson hexact (spaced_styleOf indent sortKeys), ← Fields.obj_arranged]
    rfl
  rw [hread]
  rcases check_arranged htitled hne (styleOf indent sortKeys) with
    ⟨hnone, hcheck⟩ | ⟨breach, hcheck, violation, hmem, htells⟩
  · exact ⟨iff_of_true (exists_flow_of_check hcheck) hnone, fun hsome => absurd hnone hsome⟩
  · have herror : ofJson (.obj (titled.toFields.arranged (styleOf indent sortKeys))) =
        .error (.breach breach) := by
      rw [ofJson, hcheck]
    refine ⟨iff_of_false ?_ (List.ne_nil_of_mem hmem), fun _ => ⟨breach, herror, violation, hmem,
      htells⟩⟩
    rintro ⟨again, hagain⟩
    rw [herror] at hagain
    cases hagain

/-- The outlet of the one node leads to the node itself, or to none. -/
theorem read_write_loop :
    let flow (target : Text) : Flow :=
      { id := ['f'], title := .null, start := ['a']
        nodes := [{ id := ['a'], title := .int 7, outlets := [{ id := .null, target := target }] }]
        globalState := .obj [(['k'], .arr [.bool true, .str ['v']])] }
    (∃ again, read (write (styleOf (some 2) false) (flow ['a'])) = .ok again) ∧
      ∃ breach, read (write (styleOf (some 2) false) (flow ['b'])) = .error (.breach breach) := by
  intro flow
  have hfilled : ∀ target, target ≠ [] → (flow target).Filled := fun target htarget =>
    { named := List.cons_ne_nil _ _
      nodes := by simp [flow]
      targets := by simpa [flow] using htarget }
  have hne : ∀ target, (flow target).nodes ≠ [] := fun _ => List.cons_ne_nil _ _
  have hregular : ∀ target, ∀ value ∈ (flow target).payload, value.Regular := by
    simp [flow, Flow.payload, Node.payload, Outlet.payload, Json.Regular, Json.RegularItems,
      Json.RegularFields, Fields.keys, Json.FewDigits]
    decide
  have hfloat : ∀ target, ∀ value ∈ (flow target).payload, value.Floatless := by
    simp [flow, Flow.payload, Node.payload, Outlet.payload, Json.Floatless, Json.FloatlessItems,
      Json.FloatlessFields]
  have hagree := fun target htarget => read_write_iff (hfilled target htarget) (hne target)
    (hregular target) (hfloat target) (some 2) false
  obtain ⟨breach, hbreach, -⟩ := (hagree ['b'] (by decide)).2 (by decide)
  exact ⟨(hagree ['a'] (by decide)).1.2 (by decide), breach, hbreach⟩

end Record

end Flowchart
