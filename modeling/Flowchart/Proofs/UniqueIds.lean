import Flowchart.Proofs.Roll
import Flowchart.Proofs.Text.Lines
import Flowchart.UniqueIds
import Mathlib.Data.List.Perm.Subperm

/-!
# Unique ids

Sanitized names are made of plain characters.  Whatever names are added, each of them gets an id,
and different names get different ids.
-/

namespace Flowchart.UniqueIds

theorem isPlain_of_mem_sanitize {name : Text} {c : Char} (h : c ∈ sanitize name) :
    isPlain c = true := by
  unfold sanitize at h
  split at h
  · rw [List.mem_singleton.1 h]
    decide
  · obtain ⟨d, -, rfl⟩ := List.mem_map.1 h
    split
    · assumption
    · decide

theorem sanitize_ne_nil (name : Text) : sanitize name ≠ [] := by
  unfold sanitize
  split
  · simp
  · assumption

theorem toNat_of_isPlain {c : Char} (h : isPlain c = true) :
    65 ≤ c.toNat ∧ c.toNat ≤ 90 ∨ 97 ≤ c.toNat ∧ c.toNat ≤ 122 ∨ 48 ≤ c.toNat ∧ c.toNat ≤ 57 ∨
      c.toNat = 95 ∨ c.toNat = 45 := by
  change ((((decide (65 ≤ c.val ∧ c.val ≤ 90)) || (97 ≤ c.val && c.val ≤ 122)) ||
    (48 ≤ c.val && c.val ≤ 57)) || c == '_' || c == '-') = true at h
  simp only [Bool.or_eq_true, Bool.and_eq_true, decide_eq_true_eq, beq_iff_eq,
    UInt32.le_iff_toNat_le, UInt32.reduceToNat] at h
  rcases h with ((h | h) | rfl) | rfl
  · simp only [Char.toNat]
    omega
  · simp only [Char.toNat]
    omega
  · decide
  · decide

theorem not_blank_of_isPlain {c : Char} (h : isPlain c = true) : Text.isBlank c = false := by
  have hcode := toNat_of_isPlain h
  cases hblank : Text.isBlank c with
  | false => rfl
  | true =>
      simp only [Text.isBlank, Bool.or_eq_true, Bool.and_eq_true, decide_eq_true_eq,
        beq_iff_eq] at hblank
      omega

theorem candidate_injective {base : Text} {m n : Nat} (h : candidate base m = candidate base n) :
    m = n := by
  cases m with
  | zero =>
      cases n with
      | zero => rfl
      | succ n => simp [candidate] at h
  | succ m =>
      cases n with
      | zero => simp [candidate] at h
      | succ n =>
          have hnumeral : '_' :: Text.ofNat (m + 2) = '_' :: Text.ofNat (n + 2) :=
            List.append_cancel_left h
          have := Text.ofNat_injective (List.cons.inj hnumeral).2
          omega

theorem mem_candidate {base : Text} {n : Nat} {c : Char} (h : c ∈ candidate base n) :
    c ∈ base ∨ c = '_' ∨ c.isDigit = true := by
  cases n with
  | zero => exact .inl h
  | succ n =>
      rcases List.mem_append.1 h with h | h
      · exact .inl h
      · rcases List.mem_cons.1 h with rfl | h
        · exact .inr (.inl rfl)
        · exact .inr (.inr (Nat.isDigit_of_mem_toDigits (by decide) (by decide) h))

/-- There is one more candidate than there are taken ids, so one of them is free, and the first of
these is given. -/
theorem exists_least_firstFree (taken : List Text) (base : Text) :
    ∃ n, firstFree taken base = candidate base n ∧ candidate base n ∉ taken ∧
      ∀ m < n, candidate base m ∈ taken := by
  have hfree : ∃ n ∈ List.range (taken.length + 1), (!taken.contains (candidate base n)) = true := by
    -- Otherwise the candidates, which all differ, would fit into fewer taken ids.
    by_contra hnone
    have hsub : (List.range (taken.length + 1)).map (candidate base) ⊆ taken := by
      intro id hid
      obtain ⟨n, hn, rfl⟩ := List.mem_map.1 hid
      by_contra hfree
      exact hnone ⟨n, hn, by simpa using hfree⟩
    have hnodup : ((List.range (taken.length + 1)).map (candidate base)).Nodup :=
      List.nodup_range.map fun _ _ => candidate_injective
    have := (hnodup.subperm hsub).length_le
    rw [List.length_map, List.length_range] at this
    omega
  obtain ⟨n, hfound⟩ := Option.isSome_iff_exists.1 (List.find?_isSome.2 hfree)
  obtain ⟨hn, -, hbefore⟩ := List.find?_range_eq_some.1 hfound
  refine ⟨n, ?_, by simpa using hn, by simpa using hbefore⟩
  rw [firstFree, List.find?_map]
  exact congrArg (fun found : Option Nat => (found.map (candidate base)).getD base) hfound

theorem exists_firstFree (taken : List Text) (base : Text) :
    ∃ n, firstFree taken base = candidate base n ∧ candidate base n ∉ taken := by
  obtain ⟨n, hn, hfree, -⟩ := exists_least_firstFree taken base
  exact ⟨n, hn, hfree⟩

structure Distinct (ids : UniqueIds) : Prop where
  names : (ids.map Prod.fst).Nodup
  given : (ids.map Prod.snd).Nodup

section Add

variable {clean : Text → Text} {ids : UniqueIds} {name other : Text}

theorem mem_names_iff : name ∈ ids.map Prod.fst ↔ ∃ id, ids.id? name = some id := by
  rw [id?]
  cases hlookup : ids.lookup name with
  | none =>
      have := List.lookup_eq_none_iff.1 hlookup
      simp only [List.mem_map, reduceCtorEq, exists_false, iff_false, not_exists, not_and]
      rintro entry hentry rfl
      simpa using this entry hentry
  | some id =>
      obtain ⟨before, after, heq, -⟩ := List.lookup_eq_some_iff.1 hlookup
      simp [heq]

theorem mem_of_id? {id : Text} (h : ids.id? name = some id) : (name, id) ∈ ids := by
  obtain ⟨before, after, heq, -⟩ := List.lookup_eq_some_iff.1 h
  simp [heq]

theorem names_add (clean : Text → Text) (ids : UniqueIds) (name : Text) :
    (add clean ids name).map Prod.fst = enroll (ids.map Prod.fst) name := by
  unfold add enroll
  split
  · rename_i id hid
    rw [if_pos (mem_names_iff.2 ⟨id, hid⟩)]
  · rename_i hnone
    have hnew : name ∉ ids.map Prod.fst := by
      intro hname
      obtain ⟨id, hid⟩ := mem_names_iff.1 hname
      simp [hid] at hnone
    rw [if_neg hnew, List.map_append]
    rfl

theorem id?_add_of_given {id : Text} (h : ids.id? name = some id) (other : Text) :
    (add clean ids other).id? name = some id := by
  unfold add
  split
  · exact h
  · obtain ⟨before, after, rfl, hbefore⟩ := List.lookup_eq_some_iff.1 h
    exact List.lookup_eq_some_iff.2 ⟨before, after ++ _, by rw [List.append_assoc]; rfl, hbefore⟩

theorem id?_foldl_add_of_given {id : Text} (h : ids.id? name = some id) (names : List Text) :
    (names.foldl (add clean) ids).id? name = some id :=
  List.foldlRecOn (motive := fun ids : UniqueIds => ids.id? name = some id) names (add clean) h
    fun _ hgiven other _ => id?_add_of_given hgiven other

theorem id?_add_of_new (h : ids.id? name = none) :
    (add clean ids name).id? name = some (firstFree (ids.map Prod.snd) (clean name)) := by
  have hnew := List.lookup_eq_none_iff.1 h
  rw [add, h]
  exact List.lookup_eq_some_iff.2 ⟨ids, [], rfl, hnew⟩

theorem Distinct.add (h : ids.Distinct) : (add clean ids name).Distinct where
  names := by
    rw [names_add]
    exact nodup_enroll h.names
  given := by
    unfold UniqueIds.add
    split
    · exact h.given
    · obtain ⟨n, hn, hfree⟩ := exists_firstFree (ids.map Prod.snd) (clean name)
      rw [List.map_append]
      refine List.nodup_append.2 ⟨h.given, List.nodup_singleton _, ?_⟩
      rintro known hknown new hnew rfl
      obtain rfl : known = candidate (clean name) n := by simpa [hn] using hnew
      exact hfree hknown

end Add

section AddAll

variable {clean : Text → Text} {names : List Text} {name other : Text}

theorem names_addAll (clean : Text → Text) (names : List Text) :
    (addAll clean names).map Prod.fst = names.foldl enroll [] := by
  rw [addAll, foldl_enroll (names_add clean), List.map_id']
  rfl

theorem mem_names_addAll : name ∈ (addAll clean names).map Prod.fst ↔ name ∈ names := by
  simp [names_addAll, mem_foldl_enroll]

theorem distinct_addAll : (addAll clean names).Distinct :=
  List.foldlRecOn names (add clean) ⟨List.nodup_nil, List.nodup_nil⟩ fun _ h _ _ => h.add

theorem exists_id_addAll (clean : Text → Text) (h : name ∈ names) :
    ∃ id, (addAll clean names).id? name = some id :=
  mem_names_iff.1 (mem_names_addAll.2 h)

theorem idOf_injective {ids : UniqueIds} (h : ids.Distinct) (hname : name ∈ ids.map Prod.fst)
    (hother : other ∈ ids.map Prod.fst) (heq : ids.idOf name = ids.idOf other) :
    name = other := by
  obtain ⟨id, hid⟩ := mem_names_iff.1 hname
  obtain ⟨id', hid'⟩ := mem_names_iff.1 hother
  obtain rfl : id = id' := by simpa [idOf, hid, hid'] using heq
  have hgiven := List.inj_on_of_nodup_map h.given (mem_of_id? hid) (mem_of_id? hid') rfl
  exact (Prod.mk.inj hgiven).1

theorem idOf_addAll_injective (hname : name ∈ names) (hother : other ∈ names)
    (heq : (addAll clean names).idOf name = (addAll clean names).idOf other) : name = other :=
  idOf_injective distinct_addAll (mem_names_addAll.2 hname) (mem_names_addAll.2 hother) heq

theorem exists_candidate_of_mem {id : Text} (h : (name, id) ∈ addAll clean names) :
    ∃ n, id = candidate (clean name) n := by
  have hall : ∀ entry ∈ addAll clean names, ∃ n, entry.2 = candidate (clean entry.1) n := by
    refine List.foldlRecOn (motive := fun ids : UniqueIds =>
      ∀ entry ∈ ids, ∃ n, entry.2 = candidate (clean entry.1) n) names (add clean)
      (fun _ h => absurd h List.not_mem_nil) fun ids hids name _ => ?_
    unfold add
    split
    · exact hids
    · intro entry hentry
      rcases List.mem_append.1 hentry with hentry | hentry
      · exact hids entry hentry
      · obtain ⟨n, hn, -⟩ := exists_firstFree (ids.map Prod.snd) (clean name)
        rw [List.mem_singleton.1 hentry]
        exact ⟨n, hn⟩
  exact hall (name, id) h

theorem exists_candidate (clean : Text → Text) (h : name ∈ names) :
    ∃ n, (addAll clean names).idOf name = candidate (clean name) n := by
  obtain ⟨id, hid⟩ := exists_id_addAll clean h
  obtain ⟨n, hn⟩ := exists_candidate_of_mem (mem_of_id? hid)
  exact ⟨n, by rw [idOf, hid, ← hn]; rfl⟩

theorem candidate_ne_nil {base : Text} (h : base ≠ []) (n : Nat) : candidate base n ≠ [] := by
  cases n with
  | zero => exact h
  | succ n => simp [candidate]

theorem idOf_ne_nil (hclean : ∀ name, clean name ≠ []) (h : name ∈ names) :
    (addAll clean names).idOf name ≠ [] := by
  obtain ⟨n, hn⟩ := exists_candidate clean h
  rw [hn]
  exact candidate_ne_nil (hclean name) n

theorem class_of_mem_idOf {p : Char → Bool}
    (hclean : ∀ name, ∀ c ∈ clean name, p c = true) (hunderscore : p '_' = true)
    (hdigit : ∀ c : Char, c.isDigit = true → p c = true) (h : name ∈ names) :
    ∀ c ∈ (addAll clean names).idOf name, p c = true := by
  obtain ⟨n, hn⟩ := exists_candidate clean h
  intro c hc
  rw [hn] at hc
  rcases mem_candidate hc with hc | rfl | hc
  · exact hclean name c hc
  · exact hunderscore
  · exact hdigit c hc

end AddAll

theorem firstFree_eq_self {taken : List Text} {base : Text} (h : base ∉ taken) :
    firstFree taken base = base := by
  rw [firstFree, List.range_succ_eq_map, List.map_cons, List.find?_cons]
  simp [candidate, h]

theorem clean_mem_given {clean : Text → Text} {names : List Text} {name : Text} (h : name ∈ names) :
    clean name ∈ (addAll clean names).map Prod.snd := by
  -- The clean form of each name is given to some name: it was free, or taken before.
  have hall : ∀ entry ∈ addAll clean names,
      clean entry.1 ∈ (addAll clean names).map Prod.snd := by
    refine List.foldlRecOn (motive := fun ids : UniqueIds =>
      ∀ entry ∈ ids, clean entry.1 ∈ ids.map Prod.snd) names (add clean)
      (fun _ h => absurd h List.not_mem_nil) fun ids hids name _ => ?_
    unfold add
    split
    · exact hids
    · intro entry hentry
      rw [List.map_append, List.mem_append]
      rcases List.mem_append.1 hentry with hentry | hentry
      · exact .inl (hids entry hentry)
      · rw [List.mem_singleton.1 hentry]
        by_cases htaken : clean name ∈ ids.map Prod.snd
        · exact .inl htaken
        · exact .inr (by simp [firstFree_eq_self htaken])
  obtain ⟨id, hid⟩ := exists_id_addAll clean h
  exact hall (name, id) (mem_of_id? hid)

/-- A name whose clean form is no candidate for another name has that form as its id. -/
theorem idOf_addAll_eq_clean {clean : Text → Text} {names : List Text} {name : Text}
    (h : name ∈ names)
    (hown : ∀ other ∈ names, ∀ n, candidate (clean other) n = clean name → other = name) :
    (addAll clean names).idOf name = clean name := by
  obtain ⟨⟨other, id⟩, hentry, rfl⟩ := List.mem_map.1 (clean_mem_given h)
  obtain ⟨n, hn⟩ := exists_candidate_of_mem hentry
  have hother : other ∈ names := mem_names_addAll.1 (List.mem_map_of_mem hentry)
  obtain rfl := hown other hother n hn.symm
  obtain ⟨given, hgiven⟩ := exists_id_addAll clean h
  have hsame := List.inj_on_of_nodup_map distinct_addAll.names (mem_of_id? hgiven) hentry rfl
  rw [idOf, hgiven]
  exact (Prod.mk.inj hsame).2

theorem addAll_eq_self {clean : Text → Text} {names : List Text} (hnames : names.Nodup)
    (hclean : ∀ name ∈ names, clean name = name) :
    addAll clean names = names.map fun name => (name, name) := by
  have hfold : ∀ known : List Text, (∀ name ∈ names, name ∉ known) →
      names.foldl (add clean) (known.map fun name => (name, name)) =
        (known ++ names).map fun name => (name, name) := by
    induction names with
    | nil => simp
    | cons name names ih =>
        intro known hfresh
        obtain ⟨hname, hrest⟩ := List.nodup_cons.1 hnames
        obtain ⟨hnew, hother⟩ := List.forall_mem_cons.1 hfresh
        have hids : (known.map fun name => (name, name)).map Prod.snd = known := by
          simp [Function.comp_def]
        have hlookup : id? (known.map fun name => (name, name)) name = none := by
          rw [id?, List.lookup_eq_none_iff]
          intro entry hentry
          obtain ⟨other, hmem, rfl⟩ := List.mem_map.1 hentry
          have hne : name ≠ other := fun heq => hnew (heq ▸ hmem)
          simpa using hne
        have hadd : add clean (known.map fun name => (name, name)) name =
            (known ++ [name]).map fun name => (name, name) := by
          rw [add, hlookup, hids, hclean name List.mem_cons_self, firstFree_eq_self hnew]
          simp
        rw [List.foldl_cons, hadd, ih hrest (fun n hn => hclean n (List.mem_cons_of_mem _ hn)),
          List.append_assoc, List.singleton_append]
        intro other hmem
        rw [List.mem_append, List.mem_singleton, not_or]
        exact ⟨hother other hmem, fun heq => hname (heq ▸ hmem)⟩
  exact hfold [] fun _ _ => List.not_mem_nil

theorem idOf_self {names : List Text} {name : Text} (h : name ∈ names) :
    idOf (names.map fun name => (name, name)) name = name := by
  induction names with
  | nil => exact absurd h List.not_mem_nil
  | cons other names ih =>
      rw [idOf, id?, List.map_cons, List.lookup_cons]
      by_cases heq : name = other
      · simp [heq]
      · rw [beq_eq_false_iff_ne.2 heq]
        exact ih (List.mem_of_ne_of_mem heq h)

theorem sanitize_eq_self {name : Text} (hne : name ≠ []) (h : ∀ c ∈ name, isPlain c = true) :
    sanitize name = name := by
  have htrim : Text.trim name = name :=
    Text.trim_eq_self (fun c hc => not_blank_of_isPlain (h c (List.mem_of_mem_head? hc)))
      fun c hc => not_blank_of_isPlain (h c (List.mem_of_getLast? hc))
  have hmap : (name.map fun c => if isPlain c then c else '_') = name :=
    (List.map_congr_left fun c hc => if_pos (h c hc)).trans (List.map_id' _)
  unfold sanitize
  rw [htrim, hmap]
  split
  · exact absurd rfl hne
  · rfl

end Flowchart.UniqueIds
