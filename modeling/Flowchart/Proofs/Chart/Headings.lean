import Flowchart.Proofs.Chart.Detached
import Flowchart.Proofs.Chart.Sheets

/-!
# Headings

The first line that holds more than gaps or a comment is a heading, or the chart has none.  A
heading is the same whatever a separator parts from it.
-/

namespace Flowchart.Chart

namespace Direction

def words : List Text := ["TB".toList, "LR".toList, "RL".toList, "TD".toList, "BT".toList]

theorem upper_of_known {word : Text} (h : (ofWord? word).isSome) : Text.upper word ∈ words := by
  rw [ofWord?] at h
  split at h
  · rename_i heq
    exact heq ▸ List.mem_cons_self
  · obtain ⟨direction, hfind⟩ := Option.isSome_iff_exists.1 h
    have heq : direction.name = Text.upper word := by simpa using List.find?_some hfind
    rw [← heq]
    cases direction <;> decide

theorem ofWord?_singleton (c : Char) : ofWord? [c] = none := by
  have hentries : ∀ entry ∈ Text.upperExpansions, entry.2.map Char.ofNat ∉ words := by
    decide +kernel
  have hpairs : ∀ word ∈ words, word.length = 2 := by decide
  by_contra hknown
  have hupper := upper_of_known (Option.isSome_iff_ne_none.2 hknown)
  rw [Text.upper, List.flatMap_singleton, Text.upperChar] at hupper
  split at hupper
  · exact absurd (hpairs _ hupper) (by simp)
  · split at hupper
    · rename_i codes hcodes
      obtain ⟨before, after, heq, -⟩ := List.lookup_eq_some_iff.1 hcodes
      exact hentries (c.toNat, codes) (heq ▸ List.mem_append_right _ List.mem_cons_self) hupper
    · exact absurd (hpairs _ hupper) (by simp)

end Direction

section Detached

variable {u : Text} (hu : Detached u)

include hu

theorem Detached.skipHeaderGaps_append {s : Text} (h : skipHeaderGaps s ≠ []) :
    skipHeaderGaps (s ++ u) = skipHeaderGaps s ++ u := by
  have hgaps : s.dropWhile (fun c => Text.isGap c || c == '\r') ≠ [] := by
    intro hempty
    rw [skipHeaderGaps, hempty] at h
    exact h rfl
  have hdrop : (s ++ u).dropWhile (fun c => Text.isGap c || c == '\r') =
      s.dropWhile (fun c => Text.isGap c || c == '\r') ++ u := by
    rw [List.dropWhile_append, if_neg (by simpa using hgaps)]
  rw [skipHeaderGaps, skipHeaderGaps, hdrop, hu.startsWith_append (by decide)]
  rw [skipHeaderGaps] at h
  split at h
  · exact absurd rfl h
  · rw [if_neg ‹_›, if_neg ‹_›]

theorem Detached.afterWord?_append {word : Text} (hword : ∀ c ∈ terminators, c.toLower ∉ word)
    (s : Text) : afterWord? word (s ++ u) = (afterWord? word s).map (· ++ u) := by
  rw [afterWord?, afterWord?]
  by_cases hlength : word.length ≤ s.length
  · rw [List.take_append_of_le_length hlength, List.drop_append_of_le_length hlength]
    split <;> rfl
  · rw [if_neg, if_neg]
    · rfl
    · intro heq
      have := congrArg List.length heq
      simp at this
      omega
    · intro heq
      cases u with
      | nil =>
        have := congrArg List.length heq
        simp at this
        omega
      | cons c u =>
        refine hword c (hu c rfl) (heq ▸ List.mem_map.2 ⟨c, ?_, rfl⟩)
        obtain ⟨n, hn⟩ := Nat.exists_eq_add_of_lt (Nat.lt_of_not_le hlength)
        rw [hn, Nat.add_assoc, List.take_length_add_append, List.take_succ_cons]
        simp

theorem Detached.ofWord?_take_append (s : Text) :
    Direction.ofWord? ((s ++ u).take 2) = Direction.ofWord? (s.take 2) := by
  have hnone : ∀ word c, c ∈ word → c ∈ terminators → Direction.ofWord? word = none := by
    intro word c hmem hc
    have hplain : ∀ c ∈ terminators,
        Text.upperChar c = [c] ∧ c ∉ ['T', 'B', 'L', 'R', 'D'] := by decide
    by_contra hknown
    exact Direction.not_mem_of_known (Option.isSome_iff_ne_none.2 hknown) (hplain c hc).1
      (hplain c hc).2 hmem
  cases u with
  | nil => rw [List.append_nil]
  | cons d u =>
      have hd := hu d rfl
      match s with
      | [] =>
          rw [hnone _ d (by simp) hd]
          rfl
      | [a] =>
          rw [hnone _ d (by simp) hd]
          exact (Direction.ofWord?_singleton a).symm
      | a :: b :: s => rfl

theorem Detached.header?_append (s : Text) : header? (s ++ u) = header? s := by
  have hword : ∀ word, (∀ c ∈ terminators, c.toLower ∉ word) →
      (afterWord? word (s ++ u)).filter endsWord =
        ((afterWord? word s).filter endsWord).map (· ++ u) := by
    intro word hword
    rw [hu.afterWord?_append hword]
    cases afterWord? word s with
    | none => rfl
    | some rest =>
        rw [Option.map_some, Option.filter_some, Option.filter_some, hu.endsWord_append]
        split <;> rfl
  rw [header?, header?, hword _ (by decide), hword _ (by decide), ← Option.map_or]
  cases ((afterWord? "flowchart".toList s).filter endsWord).or
    ((afterWord? "graph".toList s).filter endsWord) with
  | none => rfl
  | some rest =>
      change some _ = some _
      rw [hu.skipGaps_append, hu.ofWord?_take_append]

end Detached

/-- A line that says where a chart runs. -/
structure Heads (heading : Text) (direction : Direction) : Prop where
  feedless : '\n' ∉ heading
  header : header? (skipHeaderGaps heading) = some direction

theorem splitHeader?_of_blank {line : Text} (h : skipHeaderGaps line = []) (lines : List Text) :
    splitHeader? (line :: lines) = splitHeader? lines := by
  rw [splitHeader?, h]

theorem splitHeader?_of_ne {line : Text} (h : skipHeaderGaps line ≠ []) (lines : List Text) :
    splitHeader? (line :: lines) = (header? (skipHeaderGaps line)).map (·, lines) := by
  rw [splitHeader?]
  split
  · contradiction
  · rfl

theorem suffix_skipHeaderGaps (s : Text) : skipHeaderGaps s <:+ s := by
  simp only [skipHeaderGaps]
  split
  · exact List.nil_suffix
  · exact List.dropWhile_suffix _

theorem suffix_of_splitHeader? {lines rest : List Text} {direction : Direction}
    (h : splitHeader? lines = some (direction, rest)) : rest <:+ lines := by
  induction lines with
  | nil => cases h
  | cons line lines ih =>
      by_cases hgaps : skipHeaderGaps line = []
      · rw [splitHeader?_of_blank hgaps] at h
        exact (ih h).trans (List.suffix_cons line lines)
      · rw [splitHeader?_of_ne hgaps] at h
        obtain ⟨found, -, heq⟩ := Option.map_eq_some_iff.1 h
        obtain ⟨-, rfl⟩ := Prod.mk.inj heq
        exact List.suffix_cons line lines

namespace Heads

variable {heading : Text} {direction : Direction} (h : Heads heading direction)

include h

theorem gapless : skipHeaderGaps heading ≠ [] := by
  intro hgaps
  have hheader := h.header
  rw [hgaps] at hheader
  cases hheader

theorem splitHeader?_cons (lines : List Text) :
    splitHeader? (heading :: lines) = some (direction, lines) := by
  rw [splitHeader?_of_ne h.gapless, h.header]
  rfl

theorem append {u : Text} (hu : Detached u) (hfeed : '\n' ∉ u) :
    Heads (heading ++ u) direction where
  feedless := by
    rw [List.mem_append, not_or]
    exact ⟨h.feedless, hfeed⟩
  header := by rw [hu.skipHeaderGaps_append h.gapless, hu.header?_append, h.header]

theorem read_join {lines : List Text} (hlines : ∀ line ∈ lines, '\n' ∉ line)
    {statements : List Statement}
    (hstatements : ∀ number, statementsOf number lines = .ok statements) :
    Sheet.read (Text.join ['\n'] (heading :: lines)) =
      .ok (Sheet.ofStatements direction statements) := by
  have hsplit : Text.split '\n' (Text.join ['\n'] (heading :: lines)) = heading :: lines :=
    Text.split_join (List.cons_ne_nil _ _) (List.forall_mem_cons.2 ⟨h.feedless, hlines⟩)
  rw [Sheet.read, layout, hsplit, h.splitHeader?_cons]
  simp only [hstatements, Except.map]

end Heads

end Flowchart.Chart
