import Flowchart.Caption
import Flowchart.Proofs.Text.Lines

/-!
# Captions

A text of trimmed lines that are not empty, without break tags, is its own caption.
-/

namespace Flowchart

namespace Text

section Substitute

variable {find : Text → Option (Nat × Text)} {c : Char} {s : Text}

theorem substitute_of_none (h : find (c :: s) = none) :
    substitute find 0 (c :: s) = c :: substitute find 0 s := by
  rw [substitute, h]

theorem substitute_of_some {length : Nat} {new : Text} (h : find (c :: s) = some (length, new)) :
    substitute find 0 (c :: s) = new ++ substitute find (length - 1) s := by
  rw [substitute, h]

theorem substitute_skip (skipped rest : Text) :
    substitute find skipped.length (skipped ++ rest) = substitute find 0 rest := by
  induction skipped with
  | nil => rfl
  | cons c skipped ih => exact ih

theorem substitute_eq_self (h : ∀ c ∈ s, ∀ rest, find (c :: rest) = none) :
    substitute find 0 s = s := by
  induction s with
  | nil => rfl
  | cons c s ih =>
      rw [substitute_of_none (h c List.mem_cons_self s),
        ih fun d hd => h d (List.mem_cons_of_mem _ hd)]

end Substitute

def Lined (s : Text) : Prop := ∀ line ∈ split '\n' s, line ≠ [] ∧ trim line = line

instance (s : Text) : Decidable s.Lined :=
  inferInstanceAs (Decidable (∀ line ∈ split '\n' s, line ≠ [] ∧ trim line = line))

theorem Lined.lines_eq {s : Text} (h : s.Lined) :
    ((split '\n' s).map trim).filter (fun line => !line.isEmpty) = split '\n' s := by
  have htrim : (split '\n' s).map trim = split '\n' s :=
    (List.map_congr_left fun line hline => (h line hline).2).trans (List.map_id' _)
  rw [htrim, List.filter_eq_self]
  intro line hline
  simpa using (h line hline).1

end Text

theorem breakTag?_append (s : Text) : breakTag? ("<br/>".toList ++ s) = some 5 := by
  have hlength : ("<br/>".toList ++ s).length - s.length = 5 := by
    rw [List.length_append, Nat.add_sub_cancel]
    rfl
  exact congrArg some hlength

theorem breakTag?_of_ne {c : Char} (h : c ≠ '<') (s : Text) : breakTag? (c :: s) = none := by
  unfold breakTag?
  split
  · rename_i heq
    exact absurd (List.cons.inj heq).1 h
  · rfl

namespace Caption

theorem ofText_of_replaced {s t : Text} (h : replaceBreakTags s = t) (ht : t.Lined) :
    ofText s = ⟨(Text.split '\n' t).headD [], t⟩ := by
  rw [ofText, h, ht.lines_eq, ofLines, Text.join_split]

theorem ofText_of_lined {s : Text} (h : s.Lined) (hopen : '<' ∉ s) :
    ofText s = ⟨(Text.split '\n' s).headD [], s⟩ := by
  refine ofText_of_replaced (Text.substitute_eq_self fun c hc rest => ?_) h
  rw [breakTag?_of_ne fun heq => hopen (heq ▸ hc)]
  rfl

end Caption

end Flowchart
