import Flowchart.Proofs.Chart.Decoding

/-!
# Literal texts

A text in which nothing is taken for an escape comes back from what is written for it.
-/

namespace Flowchart.Chart

theorem nodeChar_cases (c : Char) :
    nodeChar c = [c] ∨ ∃ mark rest, nodeChar c = mark :: rest ∧ (mark = '<' ∨ mark = '&') := by
  unfold nodeChar
  split
  · exact .inr ⟨'<', _, rfl, .inl rfl⟩
  · split
    · exact .inr ⟨'&', _, rfl, .inr rfl⟩
    · split
      · exact .inr ⟨'&', _, rfl, .inr rfl⟩
      · exact .inl rfl

theorem prefix_of_prefix_oneLine {p s : Text} (hp : ∀ c ∈ p, c ≠ '<' ∧ c ≠ '&')
    (h : p <+: oneLine s) : p <+: s := by
  -- What a reference or a tag cannot begin was there before.
  induction p generalizing s with
  | nil => exact List.nil_prefix
  | cons d p ih =>
      obtain ⟨⟨hangle, hamp⟩, hp⟩ := List.forall_mem_cons.1 hp
      cases s with
      | nil => exact absurd (List.prefix_nil.1 h) (List.cons_ne_nil d p)
      | cons c s =>
          rw [oneLine_cons] at h
          rcases nodeChar_cases c with hc | ⟨mark, rest, hc, hmark⟩
          · rw [hc] at h
            obtain ⟨hd, hrest⟩ := List.cons_prefix_cons.1 h
            exact List.cons_prefix_cons.2 ⟨hd, ih hp hrest⟩
          · rw [hc] at h
            obtain rfl := (List.cons_prefix_cons.1 h).1
            exact (hmark.elim hangle hamp).elim

theorem exists_prefix_of_beginsNumber {s : Text} (h : Reference.beginsNumber s = true) :
    ∃ p, p <+: s ∧ (∀ c ∈ p, c ≠ '<' ∧ c ≠ '&') ∧
      ∀ t, p <+: t → Reference.beginsNumber t = true := by
  unfold Reference.beginsNumber at h
  split at h
  · rename_i x rest
    split at h
    · rename_i hx
      obtain ⟨c, hc, hhex⟩ := Option.any_eq_true _ _ |>.1 h
      obtain ⟨rest, rfl⟩ := List.head?_eq_some_iff.1 hc
      have hne : (c ≠ '<' ∧ c ≠ '&') ∧ x ≠ '<' ∧ x ≠ '&' :=
        ⟨⟨Text.ne_of_class (p := fun c => (Text.hexValue? c).isSome) hhex (by decide),
            Text.ne_of_class (p := fun c => (Text.hexValue? c).isSome) hhex (by decide)⟩,
          Text.ne_of_class (p := fun x => x == 'x' || x == 'X') hx (by decide),
          Text.ne_of_class (p := fun x => x == 'x' || x == 'X') hx (by decide)⟩
      refine ⟨['#', x, c], ⟨rest, rfl⟩, by simp [hne], ?_⟩
      rintro t ⟨more, rfl⟩
      simp [Reference.beginsNumber, hx, hhex]
    · rename_i hx
      have hne : x ≠ '<' ∧ x ≠ '&' :=
        ⟨Text.ne_of_class h (by decide), Text.ne_of_class h (by decide)⟩
      refine ⟨['#', x], ⟨rest, rfl⟩, by simp [hne], ?_⟩
      rintro t ⟨more, rfl⟩
      simp [Reference.beginsNumber, hx, h]
  · cases h

theorem quiet_oneLine {s : Text} (h : Reference.Quiet s) : Reference.Quiet (oneLine s) where
  unnumbered := by
    rw [Bool.eq_false_iff]
    intro hnumber
    obtain ⟨p, hinitial, hplain, hbegins⟩ := exists_prefix_of_beginsNumber hnumber
    have := hbegins s (prefix_of_prefix_oneLine hplain hinitial)
    rw [h.unnumbered] at this
    cases this
  unnamed := by
    intro name hname hne
    by_cases hplain : ∀ c ∈ name, c ≠ '<' ∧ c ≠ '&'
    · exact h.unnamed name (prefix_of_prefix_oneLine hplain hname) hne
    · simp only [not_forall, not_and_or, not_not] at hplain
      obtain ⟨c, hc, hmark⟩ := hplain
      refine Reference.named?_of_mem hc (Reference.foreign_of_code ?_)
      rcases hmark with rfl | rfl <;> rfl

theorem hashName?_eq_some_iff {s name : Text} : hashName? ('#' :: s) = some name ↔
    name ≠ [] ∧ (∀ c ∈ name, Text.isWord c = true) ∧ name ++ [';'] <+: s := by
  constructor
  · intro h
    unfold hashName? at h
    split at h
    · rename_i rest heq
      obtain ⟨-, rfl⟩ := List.cons.inj heq
      split at h
      · cases h
      · rename_i tail hdrop hne
        obtain rfl := Option.some.inj h
        refine ⟨hne, fun c hc => List.all_eq_true.1 List.all_takeWhile c hc, tail, ?_⟩
        rw [List.append_assoc, List.singleton_append, ← hdrop, List.takeWhile_append_dropWhile]
      · cases h
    · cases h
  · rintro ⟨hne, hword, rest, rfl⟩
    have hends : ∀ c, (';' :: rest).head? = some c → Text.isWord c = false :=
      fun c hc => Option.some.inj hc ▸ rfl
    obtain ⟨htake, hdrop⟩ := Text.run_append hword hends
    rw [List.append_assoc, List.singleton_append]
    unfold hashName?
    simp only [htake, hdrop]

theorem hashName?_of_oneLine {s name : Text} (h : hashName? ('#' :: oneLine s) = some name) :
    hashName? ('#' :: s) = some name := by
  obtain ⟨hne, hword, hinitial⟩ := hashName?_eq_some_iff.1 h
  refine hashName?_eq_some_iff.2 ⟨hne, hword, prefix_of_prefix_oneLine ?_ hinitial⟩
  refine List.forall_mem_append.2 ⟨fun c hc => ?_, by decide⟩
  exact ⟨Text.ne_of_class (hword c hc) (by decide), Text.ne_of_class (hword c hc) (by decide)⟩

/-- Each name between a number sign and a semicolon is unknown. -/
def Unhashed : Text → Prop
  | [] => True
  | c :: s => (∀ name, hashName? (c :: s) = some name →
      hashMeaning name = .ok ('#' :: name ++ [';'])) ∧ Unhashed s

theorem unhashed_of_none {s : Text} (h : ∀ t ∈ s.tails, hashName? t = none) : Unhashed s := by
  induction s with
  | nil => exact trivial
  | cons c s ih =>
      rw [List.tails_cons, List.forall_mem_cons] at h
      exact ⟨fun name hname => absurd hname (by simp [h.1]), ih h.2⟩

theorem decodeHashes_of_unhashed {s : Text} (h : Unhashed s) (skip : Nat) :
    decodeHashes skip s = .ok (s.drop skip) := by
  induction s generalizing skip with
  | nil => cases skip <;> rfl
  | cons c s ih =>
      cases skip with
      | succ skip => exact ih h.2 skip
      | zero =>
          cases hname : hashName? (c :: s) with
          | none =>
              rw [decodeHashes_of_none hname, ih h.2 0]
              rfl
          | some name =>
              -- What is put in the place of the name is what stands there.
              have hhash : c = '#' := by
                by_contra hne
                rw [hashName?_of_ne hne] at hname
                cases hname
              obtain ⟨-, -, rest, rfl⟩ := hashName?_eq_some_iff.1 (hhash ▸ hname)
              have hdrop : (name ++ [';'] ++ rest).drop (name.length + 1) = rest :=
                List.drop_left' (by simp)
              have hstep : decodeHashes 0 (c :: (name ++ [';'] ++ rest)) =
                  .ok (('#' :: name ++ [';']) ++ rest) := by
                rw [decodeHashes, hname]
                simp only [h.1 name hname, ih h.2, hdrop]
                rfl
              rw [hstep, hhash]
              simp

theorem Unhashed.append_of_not_mem {s t : Text} (ht : Unhashed t) (hs : '#' ∉ s) :
    Unhashed (s ++ t) := by
  induction s with
  | nil => exact ht
  | cons c s ih =>
      rw [List.mem_cons, not_or] at hs
      exact ⟨fun name hname => absurd hname (by simp [hashName?_of_ne (Ne.symm hs.1)]), ih hs.2⟩

def Silent : Text → Prop
  | [] => True
  | c :: s => (c = '&' → Reference.Quiet s) ∧ Silent s

/-- No quotes around the text, no tag, no reference and no bar, which has one written for it. -/
structure Literal (s : Text) : Prop where
  barless : '|' ∉ s
  unwrapped : ¬ IsWrapped s
  tagless : replaceBreakTags s = s
  unhashed : Unhashed s
  silent : Silent s

section Literal

variable {s : Text}

theorem unhashed_oneLine (hbar : '|' ∉ s) (h : Unhashed s) : Unhashed (oneLine s) := by
  induction s with
  | nil => exact trivial
  | cons c s ih =>
      rw [List.mem_cons, not_or] at hbar
      have hrest := ih hbar.2 h.2
      rw [oneLine_cons]
      by_cases hhash : c = '#'
      · rw [hhash] at h ⊢
        exact ⟨fun name hname => h.1 name (hashName?_of_oneLine hname), hrest⟩
      · exact hrest.append_of_not_mem (hash_not_mem_nodeChar (Ne.symm hbar.1) hhash)

theorem decode_silent (hbar : '|' ∉ s) (hfeed : '\n' ∉ s) (h : Silent s) :
    Reference.decode (oneLine s) = .ok s := by
  induction s with
  | nil => rfl
  | cons c s ih =>
      rw [List.mem_cons, not_or] at hbar hfeed
      have hrest := ih hbar.2 hfeed.2 h.2
      rw [oneLine_cons, nodeChar, if_neg (Ne.symm hfeed.1), if_neg (Ne.symm hbar.1)]
      split
      · rename_i hquote
        rw [Reference.decode_quot, hrest, hquote]
        rfl
      · by_cases hamp : c = '&'
        · rw [hamp, List.singleton_append,
            Reference.decode_ampersand (quiet_oneLine (h.1 hamp)), hrest]
          rfl
        · rw [List.singleton_append, Reference.decode_cons_of_ne hamp, hrest]
          rfl

theorem Literal.decode_oneLine (h : Literal s) (htrim : Text.trim s = s) (hfeed : '\n' ∉ s) :
    decode (oneLine s) = .ok s := by
  have hunquoted : unquoted s = s := if_neg h.unwrapped
  rw [decode_eq_inner (trim_oneLine htrim) (unwrap_oneLine s), hunquoted,
    decodeInner_of_hashes (decodeHashes_of_unhashed (unhashed_oneLine h.barless h.unhashed) 0)
      (decode_silent h.barless hfeed h.silent), htrim]

end Literal

end Flowchart.Chart
