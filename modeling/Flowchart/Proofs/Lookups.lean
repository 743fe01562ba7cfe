import Flowchart.Proofs.Chart.Ident

/-!
# Looking up unique ids

Names are looked up one after another in a growing table.  Every lookup ends, the same name is
always answered by the same id, and different names by different ids: a new name gets its clean form
or, where that is taken, the clean form with the least number from two on that makes it free.
-/

namespace Flowchart.UniqueIds

/-- A search from the `n`-th candidate on: a taken candidate sends it to the next one, a free one
ends it. -/
inductive Search (taken : List Text) (base : Text) : Nat → Text → Prop
  | free {n : Nat} (h : candidate base n ∉ taken) : Search taken base n (candidate base n)
  | taken {n : Nat} {id : Text} (h : candidate base n ∈ taken)
      (later : Search taken base (n + 1) id) : Search taken base n id

namespace Search

variable {taken : List Text} {base id other : Text} {n : Nat}

theorem unique (h : Search taken base n id) (h' : Search taken base n other) : id = other := by
  induction h with
  | free hfree =>
      cases h' with
      | free => rfl
      | taken htaken => exact absurd htaken hfree
  | taken htaken _ ih =>
      cases h' with
      | free hfree => exact absurd htaken hfree
      | taken _ hlater => exact ih hlater

theorem of_taken {steps : Nat} (hfree : candidate base (n + steps) ∉ taken)
    (htaken : ∀ m, n ≤ m → m < n + steps → candidate base m ∈ taken) :
    Search taken base n (candidate base (n + steps)) := by
  induction steps generalizing n with
  | zero => exact .free hfree
  | succ steps ih =>
      have hshift : n + (steps + 1) = n + 1 + steps := by omega
      rw [hshift] at hfree htaken ⊢
      exact .taken (htaken n (Nat.le_refl n) (by omega))
        (ih hfree fun m hle hlt => htaken m (Nat.le_of_succ_le hle) hlt)

end Search

/-- What a new name is given while other ids are taken: its search has one end, at the first
candidate that is free. -/
structure Fresh (clean : Text → Text) (taken : List Text) (name id : Text) : Prop where
  found : ∀ other, Search taken (clean name) 0 other ↔ other = id
  free : id ∉ taken
  plain : clean name ∉ taken → id = clean name
  numbered : clean name ∈ taken → ∃ k, 2 ≤ k ∧ id = clean name ++ '_' :: Text.ofNat k ∧
    ∀ j, 2 ≤ j → j < k → clean name ++ '_' :: Text.ofNat j ∈ taken

theorem Fresh.of_first {clean : Text → Text} {taken : List Text} {name : Text} {n : Nat}
    (hfree : candidate (clean name) n ∉ taken)
    (hbefore : ∀ m < n, candidate (clean name) m ∈ taken) :
    Fresh clean taken name (candidate (clean name) n) where
  found other := by
    have hsearch : Search taken (clean name) 0 (candidate (clean name) n) := by
      rw [← Nat.zero_add n]
      refine Search.of_taken ?_ fun m _ hm => hbefore m ?_
      · rwa [Nat.zero_add]
      · rwa [Nat.zero_add] at hm
    constructor
    · exact fun hother => hother.unique hsearch
    · rintro rfl
      exact hsearch
  free := hfree
  plain hclean := by
    cases n with
    | zero => rfl
    | succ n => exact absurd (hbefore 0 (Nat.succ_pos n)) hclean
  numbered htaken := by
    cases n with
    | zero => exact absurd htaken hfree
    | succ n =>
        refine ⟨n + 2, Nat.le_add_left 2 n, rfl, fun j hj hlt => ?_⟩
        obtain ⟨m, rfl⟩ := Nat.exists_eq_add_of_le' hj
        exact hbefore (m + 1) (by omega)

def served (clean : Text → Text) : UniqueIds → List Text → List (Text × Text)
  | _, [] => []
  | ids, name :: names =>
    (name, (add clean ids name).idOf name) :: served clean (add clean ids name) names

section Served

variable {clean : Text → Text} {ids : UniqueIds} {names more : List Text} {name id : Text}

theorem names_served (clean : Text → Text) (ids : UniqueIds) (names : List Text) :
    (served clean ids names).map Prod.fst = names := by
  induction names generalizing ids with
  | nil => rfl
  | cons name names ih => rw [served, List.map_cons, ih]

theorem served_append (clean : Text → Text) (ids : UniqueIds) (names more : List Text) :
    served clean ids (names ++ more) =
      served clean ids names ++ served clean (names.foldl (add clean) ids) more := by
  induction names generalizing ids with
  | nil => rfl
  | cons name names ih =>
      rw [List.cons_append, served, served, ih, List.foldl_cons, List.cons_append]

theorem exists_id_add (clean : Text → Text) (ids : UniqueIds) (name : Text) :
    ∃ id, (add clean ids name).id? name = some id := by
  cases h : ids.id? name with
  | some id => exact ⟨id, id?_add_of_given h name⟩
  | none => exact ⟨_, id?_add_of_new h⟩

theorem served_eq (clean : Text → Text) (ids : UniqueIds) (names : List Text) :
    served clean ids names =
      names.map fun name => (name, (names.foldl (add clean) ids).idOf name) := by
  induction names generalizing ids with
  | nil => rfl
  | cons name names ih =>
      obtain ⟨id, hid⟩ := exists_id_add clean ids name
      have hstays : (names.foldl (add clean) (add clean ids name)).id? name = some id :=
        id?_foldl_add_of_given hid names
      rw [served, ih, List.map_cons, List.foldl_cons, idOf, idOf, hid, hstays]

theorem served_addAll (clean : Text → Text) (names : List Text) :
    served clean [] names = names.map fun name => (name, (addAll clean names).idOf name) :=
  served_eq clean [] names

theorem mem_served : (name, id) ∈ served clean [] names ↔ (name, id) ∈ addAll clean names := by
  rw [served_addAll, List.mem_map]
  constructor
  · rintro ⟨other, hother, heq⟩
    obtain ⟨rfl, rfl⟩ := Prod.mk.inj heq
    obtain ⟨given, hgiven⟩ := exists_id_addAll clean hother
    rw [idOf, hgiven]
    exact mem_of_id? hgiven
  · intro hentry
    have hname : name ∈ names := mem_names_addAll.1 (List.mem_map_of_mem hentry)
    obtain ⟨given, hgiven⟩ := exists_id_addAll clean hname
    have hsame := List.inj_on_of_nodup_map distinct_addAll.names (mem_of_id? hgiven) hentry rfl
    refine ⟨name, hname, ?_⟩
    rw [idOf, hgiven]
    exact hsame

theorem mem_ids_served :
    id ∈ (served clean [] names).map Prod.snd ↔ id ∈ (addAll clean names).map Prod.snd := by
  simp only [List.mem_map, Prod.exists, exists_eq_right, mem_served]

theorem served_new (h : name ∉ names) :
    served clean [] (names ++ [name]) = served clean [] names ++
      [(name, firstFree ((addAll clean names).map Prod.snd) (clean name))] := by
  have hnew : (addAll clean names).id? name = none := by
    rw [← Option.not_isSome_iff_eq_none, Option.isSome_iff_exists, ← mem_names_iff,
      mem_names_addAll]
    exact h
  rw [served_append]
  change _ ++ served clean (addAll clean names) [name] = _
  rw [served, served, idOf, id?_add_of_new hnew]
  rfl

/-- A name that comes up for the first time is given the first free candidate. -/
theorem fresh_of_served {before after : List (Text × Text)}
    (h : served clean [] names = before ++ (name, id) :: after) (hnew : name ∉ before.map Prod.fst) :
    Fresh clean (before.map Prod.snd) name id := by
  have hnames : names = (before.map Prod.fst ++ [name]) ++ after.map Prod.fst := by
    rw [← names_served clean [] names, h]
    simp
  have hserved : served clean [] names = served clean [] (before.map Prod.fst) ++
      (name, firstFree ((addAll clean (before.map Prod.fst)).map Prod.snd) (clean name)) ::
        served clean (addAll clean (before.map Prod.fst ++ [name])) (after.map Prod.fst) := by
    conv_lhs => rw [hnames, served_append, served_new hnew, List.append_assoc]
    rfl
  have hlength : before.length = (served clean [] (before.map Prod.fst)).length := by
    rw [← List.length_map Prod.fst, ← List.length_map Prod.fst, names_served]
  obtain ⟨hbefore, hhere⟩ := List.append_inj (h.symm.trans hserved) hlength
  obtain ⟨n, hn, hfree, hleast⟩ := exists_least_firstFree
    ((addAll clean (before.map Prod.fst)).map Prod.snd) (clean name)
  have htaken : ∀ other, other ∈ before.map Prod.snd ↔
      other ∈ (addAll clean (before.map Prod.fst)).map Prod.snd := by
    intro other
    rw [← mem_ids_served, ← hbefore]
  have hid : id = candidate (clean name) n :=
    (Prod.mk.inj (List.cons.inj hhere).1).2.trans hn
  rw [hid]
  exact Fresh.of_first (by rwa [htaken]) fun m hm => (htaken _).2 (hleast m hm)

end Served

/-- Lookups answer in turn. What was answered stands whatever is looked up later, equal names have
equal ids and only they do, and every new name is given the first candidate that is free. The ids
keep to the characters of clean names. -/
theorem served_stable (clean : Text → Text) (names more : List Text) :
    (served clean [] names).map Prod.fst = names ∧
    served clean [] names <+: served clean [] (names ++ more) ∧
    (∀ first ∈ served clean [] names, ∀ second ∈ served clean [] names,
      first.2 = second.2 ↔ first.1 = second.1) ∧
    (∀ before name id after, served clean [] names = before ++ (name, id) :: after →
      name ∉ before.map Prod.fst → Fresh clean (before.map Prod.snd) name id) ∧
    (∀ entry ∈ served sanitize [] names,
      entry.2 ≠ [] ∧ ∀ c ∈ entry.2, isPlain c = true) ∧
    ∀ entry ∈ served Chart.safeId [] names,
      entry.2 ≠ [] ∧ (∀ c ∈ entry.2, Chart.isSafe c = true) ∧ entry.2 ≠ "end".toList := by
  refine ⟨names_served clean [] names, ?_, ?_, fun _ _ _ _ => fresh_of_served, ?_, ?_⟩
  case refine_1 => exact ⟨_, (served_append clean [] names more).symm⟩
  case refine_2 =>
    rw [served_addAll, List.forall_mem_map]
    intro name hname
    rw [List.forall_mem_map]
    intro other hother
    exact ⟨idOf_addAll_injective hname hother, congrArg (addAll clean names).idOf⟩
  case refine_3 =>
    rw [served_addAll, List.forall_mem_map]
    exact fun name hname => ⟨idOf_ne_nil sanitize_ne_nil hname,
      class_of_mem_idOf (fun _ _ => isPlain_of_mem_sanitize) (by decide)
        (fun c hdigit => by simp [isPlain, Char.isAlphanum, hdigit]) hname⟩
  case refine_4 =>
    rw [served_addAll, List.forall_mem_map]
    exact fun name hname =>
      ⟨Chart.idOf_ne_nil hname, Chart.safe_idOf hname, Chart.idOf_ne_end hname⟩

/-- Names whose clean forms meet the numbered ids of others, and one of them looked up again. -/
def crossingNames : List Text := ["a b", "a_b", "a_b_2", "a b"].map String.toList

theorem served_crossing :
    (served sanitize [] crossingNames).map Prod.snd =
      ["a_b", "a_b_2", "a_b_2_2", "a_b"].map String.toList ∧
    Fresh sanitize (["a_b", "a_b_2"].map String.toList) "a_b_2".toList "a_b_2_2".toList ∧
    ∀ entry ∈ served sanitize [] crossingNames, ∀ c ∈ entry.2, isPlain c = true := by
  obtain ⟨-, -, -, hfresh, hplain, -⟩ := served_stable sanitize crossingNames []
  have hserved : served sanitize [] crossingNames =
      [("a b".toList, "a_b".toList), ("a_b".toList, "a_b_2".toList)] ++
        ("a_b_2".toList, "a_b_2_2".toList) :: [("a b".toList, "a_b".toList)] := by
    decide
  exact ⟨by rw [hserved]; rfl, hfresh _ _ _ _ hserved (by decide),
    fun entry hentry => (hplain entry hentry).2⟩

end Flowchart.UniqueIds
