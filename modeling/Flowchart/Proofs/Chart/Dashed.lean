import Flowchart.Chart.Line
import Flowchart.Proofs.Text.Lines

/-!
# Ids that are read

An id is made of words that single dashes join, and is read up to what cannot go on with it. Where
it begins a line, the word before its first dash must not be one that begins a skipped statement.
-/

namespace Flowchart.Chart

def IsDashed (id : Text) : Prop :=
  ∀ word ∈ Text.split '-' id, word ≠ [] ∧ ∀ c ∈ word, Text.isWord c = true

instance (id : Text) : Decidable (IsDashed id) :=
  decidable_of_iff
    (((Text.split '-' id).all fun word => !word.isEmpty && word.all Text.isWord) = true)
    (by simp [IsDashed])

/-- The word `end`, or an id with a word before its first dash that begins a skipped statement. -/
def IsReserved (id : Text) : Prop :=
  id = "end".toList ∨ (Text.split '-' id).headD [] ∈ skippedWords

instance (id : Text) : Decidable (IsReserved id) :=
  inferInstanceAs (Decidable (id = "end".toList ∨ (Text.split '-' id).headD [] ∈ skippedWords))

/-- What ends an id: nothing, or a character that cannot go on with it. -/
def Stops (rest : Text) : Prop := ∀ c, rest.head? = some c → Text.isWord c = false ∧ c ≠ '-'

theorem stops_nil : Stops [] := by simp [Stops]

theorem stops_cons {c : Char} (hword : Text.isWord c = false) (hdash : c ≠ '-') (rest : Text) :
    Stops (c :: rest) := by
  simp [Stops, hword, hdash]

theorem nodeId_stops {rest : Text} (h : Stops rest) : nodeId rest = ([], rest) := by
  cases rest with
  | nil => rfl
  | cons c rest =>
      obtain ⟨hword, hdash⟩ := h c rfl
      rw [nodeId.eq_3 c rest fun d s heq _ => hdash heq, if_neg (by simp [hword])]

theorem nodeId_word {word : Text} (h : ∀ c ∈ word, Text.isWord c = true) (s : Text) :
    nodeId (word ++ s) = (word ++ (nodeId s).1, (nodeId s).2) := by
  induction word with
  | nil => rfl
  | cons c word ih =>
      have hc := h c List.mem_cons_self
      have hdash : c ≠ '-' := Text.ne_of_class hc (by decide)
      rw [List.cons_append, nodeId.eq_3 c _ fun d t heq _ => hdash heq, if_pos hc,
        ih fun d hd => h d (List.mem_cons_of_mem _ hd)]
      rfl

theorem nodeId_join {words : List Text} (hne : words ≠ [])
    (h : ∀ word ∈ words, word ≠ [] ∧ ∀ c ∈ word, Text.isWord c = true) {rest : Text}
    (hrest : Stops rest) :
    nodeId (Text.join ['-'] words ++ rest) = (Text.join ['-'] words, rest) := by
  induction words with
  | nil => exact absurd rfl hne
  | cons word words ih =>
      obtain ⟨⟨-, hword⟩, hwords⟩ := List.forall_mem_cons.1 h
      cases words with
      | nil => rw [Text.join_singleton, nodeId_word hword, nodeId_stops hrest, List.append_nil]
      | cons next words =>
          obtain ⟨hnext, hchars⟩ := hwords next List.mem_cons_self
          obtain ⟨c, tail, rfl⟩ := List.exists_cons_of_ne_nil hnext
          have hmore := ih (List.cons_ne_nil _ _) hwords
          -- A dash belongs to the id where a word goes on behind it.
          have hfirst : (Text.join ['-'] ((c :: tail) :: words)).head? = some c :=
            (Text.head?_join hnext words).trans rfl
          obtain ⟨joined, hjoined⟩ := List.head?_eq_some_iff.1 hfirst
          have hdash : nodeId ('-' :: (Text.join ['-'] ((c :: tail) :: words) ++ rest)) =
              ('-' :: Text.join ['-'] ((c :: tail) :: words), rest) := by
            rw [hjoined, List.cons_append] at hmore ⊢
            rw [nodeId, if_pos (hchars c List.mem_cons_self), hmore]
          rw [Text.join_cons_cons, List.append_assoc, List.append_assoc, nodeId_word hword,
            List.singleton_append, hdash]
          simp

theorem eq_of_append_eq {p : Char → Bool} {s t s' t' : Text} (hs : ∀ c ∈ s, p c = true)
    (ht : ∀ c ∈ t, p c = true) (hs' : ∀ c, s'.head? = some c → p c = false)
    (ht' : ∀ c, t'.head? = some c → p c = false) (heq : s ++ s' = t ++ t') : s = t := by
  rw [← (Text.run_append hs hs').1, heq, (Text.run_append ht ht').1]

theorem isSkipped_append {word rest : Text} (hword : word ∈ skippedWords) (hrest : Stops rest) :
    isSkipped (word ++ rest) = true := by
  have hends : endsWord rest = true := by
    cases rest with
    | nil => rfl
    | cons c rest => simp [endsWord, (hrest c rfl).1]
  rw [isSkipped, List.any_eq_true]
  exact ⟨word, hword, by rw [Text.after?_append, Option.any_some, hends]⟩

namespace IsDashed

variable {id rest : Text} (h : IsDashed id)

include h

theorem exists_first :
    ∃ word more, (Text.split '-' id).headD [] = word ∧ id = word ++ more ∧ word ≠ [] ∧
      (∀ c ∈ word, Text.isWord c = true) ∧ (more = [] ∨ more.head? = some '-') := by
  have hjoin := Text.join_split '-' id
  unfold IsDashed at h
  cases hsplit : Text.split '-' id with
  | nil => exact absurd hsplit (Text.split_ne_nil '-' id)
  | cons word words =>
      rw [hsplit] at h hjoin
      obtain ⟨hne, hword⟩ := h word List.mem_cons_self
      cases words with
      | nil =>
          rw [Text.join_singleton] at hjoin
          exact ⟨word, [], rfl, by rw [hjoin, List.append_nil], hne, hword, .inl rfl⟩
      | cons next words =>
          rw [Text.join_cons_cons, List.append_assoc] at hjoin
          exact ⟨word, _, rfl, hjoin.symm, hne, hword, .inr rfl⟩

theorem head : ∃ c s, id = c :: s ∧ Text.isWord c = true := by
  obtain ⟨word, more, -, hid, hne, hword, -⟩ := h.exists_first
  obtain ⟨c, s, rfl⟩ := List.exists_cons_of_ne_nil hne
  exact ⟨c, s ++ more, hid, hword c List.mem_cons_self⟩

theorem mem {c : Char} (hc : c ∈ id) : Text.isWord c = true ∨ c = '-' := by
  rw [← Text.join_split '-' id] at hc
  rcases Text.mem_join hc with hc | ⟨word, hword, hc⟩
  · exact .inr (List.mem_singleton.1 hc)
  · exact .inl ((h word hword).2 c hc)

variable (hrest : Stops rest)

include hrest

theorem nodeId_append : nodeId (id ++ rest) = (id, rest) := by
  have hread := nodeId_join (Text.split_ne_nil '-' id) h hrest
  rwa [Text.join_split] at hread

theorem not_skipped (hordinary : ¬ IsReserved id) : isSkipped (id ++ rest) = false := by
  obtain ⟨first, more, hfirst, hid, -, hword, hmore⟩ := h.exists_first
  have hwords : (skippedWords.all fun word => word.all Text.isWord) = true := by decide
  have hends : ∀ c, (more ++ rest).head? = some c → Text.isWord c = false := by
    intro c hc
    rcases hmore with rfl | hdash
    · exact (hrest c hc).1
    · rw [List.head?_append, hdash] at hc
      exact Option.some.inj hc ▸ rfl
  rw [isSkipped, List.any_eq_false]
  intro word hmem
  cases hafter : Text.after? word (id ++ rest) with
  | none => simp
  | some after =>
      -- Both words would end where the first other character stands.
      suffices hends : endsWord after = false by simp [hends]
      rw [Bool.eq_false_iff]
      intro hends'
      have heq := Text.eq_append_of_after? hafter
      rw [hid, List.append_assoc] at heq
      have hsame : first = word := by
        refine eq_of_append_eq hword ?_ hends ?_ heq
        · exact List.all_eq_true.1 (List.all_eq_true.1 hwords word hmem)
        · intro c hc
          simpa [endsWord, hc] using hends'
      exact hordinary (.inr (hfirst ▸ hsame ▸ hmem))

theorem not_end (hne : id ≠ "end".toList) : afterEnd? (id ++ rest) = none := by
  -- What follows the word `end` goes on with an id, unless the id is that word.
  unfold afterEnd?
  cases hafter : Text.after? "end".toList (id ++ rest) with
  | none => rfl
  | some after =>
      rw [Option.filter_some, if_neg]
      intro hends
      have hstops : Stops after := by
        intro c hc
        simpa [endsWord, hc] using hends
      have hdashed : IsDashed "end".toList := by decide
      have hend := hdashed.nodeId_append hstops
      rw [← Text.eq_append_of_after? hafter, h.nodeId_append hrest] at hend
      exact hne (congrArg Prod.fst hend)

end IsDashed

end Flowchart.Chart
