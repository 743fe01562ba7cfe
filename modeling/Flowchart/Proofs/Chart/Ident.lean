import Flowchart.Chart.Label
import Flowchart.Proofs.Chart.Dashed
import Flowchart.Proofs.UniqueIds

/-!
# Ids of charts

Every id that is given out is a run of letters, digits and underscores.  It is one word, and none
that has a meaning of its own.
-/

namespace Flowchart.Chart

section Safe

variable {c : Char}

theorem isPlain_of_isSafe (h : isSafe c = true) : UniqueIds.isPlain c = true := by
  rw [UniqueIds.isPlain]
  exact Bool.or_eq_true_iff.2 (.inl h)

theorem isWord_of_isSafe (h : isSafe c = true) : Text.isWord c = true := by
  have hcode : c.toNat < 128 := by
    have := UniqueIds.toNat_of_isPlain (isPlain_of_isSafe h)
    omega
  simp only [isSafe, Bool.or_eq_true, beq_iff_eq] at h
  rcases h with h | rfl
  · rw [Char.isAlphanum, Bool.or_eq_true] at h
    rcases h with h | h
    · simp [Text.isWord, Text.isLetter, hcode, h]
    · simp [Text.isWord, Text.isDigit, Text.isDecimal, Text.decimalValue?, hcode, h]
  · rfl

end Safe

def reservedWords : List Text := "end".toList :: skippedWords

structure Ident (id : Text) : Prop where
  nonempty : id ≠ []
  safe : ∀ c ∈ id, isSafe c = true
  ordinary : id ∉ reservedWords

theorem safe_of_mem_safeId {name : Text} {c : Char} (h : c ∈ safeId name) : isSafe c = true := by
  have hmapped : ∀ d ∈ name.map fun c => if isSafe c then c else '_', isSafe d = true := by
    intro d hd
    obtain ⟨e, -, rfl⟩ := List.mem_map.1 hd
    split
    · assumption
    · decide
  unfold safeId at h
  split at h
  · rw [List.mem_singleton.1 h]
    decide
  · split at h
    · have hall : ("end_".toList.all isSafe) = true := by decide
      exact List.all_eq_true.1 hall c h
    · exact hmapped c h

theorem safeId_ne_nil (name : Text) : safeId name ≠ [] := by
  unfold safeId
  split
  · simp
  · split
    · decide
    · assumption

theorem safeId_ne_end (name : Text) : safeId name ≠ "end".toList := by
  unfold safeId
  split
  · decide
  · split
    · decide
    · assumption

theorem eq_of_safeId_eq {name word : Text} (h : safeId name = word) (hword : '_' ∉ word) :
    name = word := by
  unfold safeId at h
  split at h
  · exact absurd (h ▸ List.mem_cons_self) hword
  · split at h
    · exact absurd (h ▸ by decide) hword
    · rw [← h] at hword ⊢
      refine ((List.map_congr_left fun c hc => ?_).trans (List.map_id' _)).symm
      by_contra hunsafe
      exact hword (List.mem_map.2 ⟨c, hc, if_neg fun hsafe => hunsafe (if_pos hsafe)⟩)

theorem safeId_mem_skippedWords_iff {name : Text} :
    safeId name ∈ skippedWords ↔ name ∈ skippedWords := by
  have hwords : ∀ word ∈ skippedWords, '_' ∉ word ∧ safeId word = word := by decide
  constructor
  · exact fun h => eq_of_safeId_eq rfl (hwords _ h).1 ▸ h
  · exact fun h => (hwords name h).2.symm ▸ h

theorem eq_of_candidate_eq {name word : Text} {n : Nat} (hword : word ∈ skippedWords)
    (h : UniqueIds.candidate (safeId name) n = word) : name = word := by
  have hwords : ∀ word ∈ skippedWords, '_' ∉ word := by decide
  cases n with
  | zero => exact eq_of_safeId_eq h (hwords word hword)
  | succ n => exact absurd (h ▸ List.mem_append_right _ List.mem_cons_self) (hwords word hword)

section Given

variable {names : List Text} {name : Text} (h : name ∈ names)

include h

theorem idOf_ne_nil : (UniqueIds.addAll safeId names).idOf name ≠ [] :=
  UniqueIds.idOf_ne_nil safeId_ne_nil h

theorem safe_idOf : ∀ c ∈ (UniqueIds.addAll safeId names).idOf name, isSafe c = true :=
  UniqueIds.class_of_mem_idOf (fun _ _ => safe_of_mem_safeId) (by decide)
    (fun c hdigit => by simp [isSafe, Char.isAlphanum, hdigit]) h

theorem idOf_ne_end : (UniqueIds.addAll safeId names).idOf name ≠ "end".toList := by
  obtain ⟨n, hn⟩ := UniqueIds.exists_candidate safeId h
  rw [hn]
  cases n with
  | zero => exact safeId_ne_end name
  | succ n =>
      have hword : '_' ∉ "end".toList := by decide
      exact fun heq => hword (heq ▸ List.mem_append_right _ List.mem_cons_self)

/-- A name that is a word of the notation keeps it as its id, and no other name gets it. -/
theorem idOf_mem_skippedWords_iff :
    (UniqueIds.addAll safeId names).idOf name ∈ skippedWords ↔ name ∈ skippedWords := by
  constructor
  · intro hword
    obtain ⟨n, hn⟩ := UniqueIds.exists_candidate safeId h
    rw [hn] at hword
    exact eq_of_candidate_eq hword rfl ▸ hword
  · intro hword
    have hsafe := (eq_of_candidate_eq (n := 0) (safeId_mem_skippedWords_iff.2 hword) rfl).symm
    rw [UniqueIds.idOf_addAll_eq_clean h fun other _ n hn =>
      eq_of_candidate_eq hword (hn.trans hsafe), hsafe]
    exact hword

theorem ident_idOf (hordinary : safeId name ∉ skippedWords) :
    Ident ((UniqueIds.addAll safeId names).idOf name) where
  nonempty := idOf_ne_nil h
  safe := safe_idOf h
  ordinary := by
    rw [reservedWords, List.mem_cons, not_or, idOf_mem_skippedWords_iff h,
      ← safeId_mem_skippedWords_iff]
    exact ⟨idOf_ne_end h, hordinary⟩

end Given

theorem split_of_safe {id : Text} (h : ∀ c ∈ id, isSafe c = true) : Text.split '-' id = [id] :=
  Text.splitWhere_of_none fun c hc => by
    rw [beq_eq_false_iff_ne]
    exact Text.ne_of_class (h c hc) (by decide)

theorem dashed_of_safe {id : Text} (hne : id ≠ []) (h : ∀ c ∈ id, isSafe c = true) :
    IsDashed id := by
  rw [IsDashed, split_of_safe h, List.forall_mem_singleton]
  exact ⟨hne, fun c hc => isWord_of_isSafe (h c hc)⟩

theorem dashed_idOf {names : List Text} {name : Text} (h : name ∈ names) :
    IsDashed ((UniqueIds.addAll safeId names).idOf name) :=
  dashed_of_safe (idOf_ne_nil h) (safe_idOf h)

namespace Ident

variable {id rest : Text} (h : Ident id)

include h

theorem dashed : IsDashed id := dashed_of_safe h.nonempty h.safe

theorem not_reserved : ¬ IsReserved id := by
  have hordinary := h.ordinary
  rw [reservedWords, List.mem_cons, not_or] at hordinary
  rw [IsReserved, split_of_safe h.safe, not_or]
  exact hordinary

end Ident

end Flowchart.Chart
