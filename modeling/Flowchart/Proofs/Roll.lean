import Flowchart.Text
import Mathlib.Data.List.Induction
import Mathlib.Data.List.Nodup

/-!
# Rolls

Lists of names to which a name is only added if it is new.  Mentions, drafted nodes and given ids
are all kept in such a list, each under a name of its own.
-/

namespace Flowchart

def enroll (roll : List Text) (name : Text) : List Text :=
  if name ∈ roll then roll else roll ++ [name]

section Roll

variable {roll names : List Text} {name other : Text}

theorem mem_enroll : other ∈ enroll roll name ↔ other ∈ roll ∨ other = name := by
  unfold enroll
  split
  · rename_i hname
    constructor
    · exact .inl
    · rintro (hother | rfl)
      · exact hother
      · exact hname
  · simp

theorem enroll_cons_self (name : Text) (roll : List Text) :
    enroll (name :: roll) name = name :: roll :=
  if_pos List.mem_cons_self

theorem enroll_cons_of_ne (roll : List Text) (h : other ≠ name) :
    enroll (other :: roll) name = other :: enroll roll name := by
  unfold enroll
  by_cases hname : name ∈ roll
  · rw [if_pos hname, if_pos (List.mem_cons_of_mem _ hname)]
  · have hnew : name ∉ other :: roll := by
      rw [List.mem_cons, not_or]
      exact ⟨h.symm, hname⟩
    rw [if_neg hname, if_neg hnew, List.cons_append]

theorem nodup_enroll (h : roll.Nodup) : (enroll roll name).Nodup := by
  unfold enroll
  split
  · exact h
  · rename_i hname
    refine List.nodup_append.2 ⟨h, List.nodup_singleton _, ?_⟩
    rintro known hknown new hnew rfl
    exact hname (List.mem_singleton.1 hnew ▸ hknown)

theorem mem_foldl_enroll : other ∈ names.foldl enroll roll ↔ other ∈ roll ∨ other ∈ names := by
  induction names generalizing roll with
  | nil => simp
  | cons name names ih => rw [List.foldl_cons, ih, mem_enroll, List.mem_cons, or_assoc]

theorem nodup_foldl_enroll (h : roll.Nodup) : (names.foldl enroll roll).Nodup :=
  List.foldlRecOn names enroll h fun _ hroll _ _ => nodup_enroll hroll

theorem sublist_enroll (roll : List Text) (name : Text) : roll.Sublist (enroll roll name) := by
  unfold enroll
  split
  · exact List.Sublist.refl _
  · exact List.sublist_append_left _ _

theorem sublist_foldl_enroll (names roll : List Text) : roll.Sublist (names.foldl enroll roll) := by
  induction names generalizing roll with
  | nil => exact List.Sublist.refl _
  | cons name names ih => exact (sublist_enroll roll name).trans (ih _)

theorem eraseDups_append_singleton (names : List Text) (name : Text) :
    (names ++ [name]).eraseDups = enroll names.eraseDups name := by
  rw [List.eraseDups_append, enroll]
  by_cases hname : name ∈ names <;>
    simp [List.removeAll, List.mem_eraseDups, hname, List.eraseDups_cons]

theorem nodup_eraseDups (names : List Text) : names.eraseDups.Nodup := by
  induction names using List.reverseRecOn with
  | nil => exact List.nodup_nil
  | append_singleton names name ih =>
      rw [eraseDups_append_singleton]
      exact nodup_enroll ih

end Roll

theorem eraseDups_eq_self {α : Type} [BEq α] [LawfulBEq α] {as : List α} (h : as.Nodup) :
    as.eraseDups = as := by
  induction as with
  | nil => rfl
  | cons a as ih =>
      obtain ⟨hhead, htail⟩ := List.nodup_cons.1 h
      have hfilter : as.filter (fun b => !b == a) = as := by
        rw [List.filter_eq_self]
        rintro b hb
        simpa using fun heq : b = a => hhead (heq ▸ hb)
      rw [List.eraseDups_cons, hfilter, ih htail]

theorem foldl_enroll {α β : Type} {add : β → α → β} {roll : β → List Text} {name : α → Text}
    (hadd : ∀ b a, roll (add b a) = enroll (roll b) (name a)) (as : List α) (b : β) :
    roll (as.foldl add b) = (as.map name).foldl enroll (roll b) := by
  induction as generalizing b with
  | nil => rfl
  | cons a as ih => rw [List.foldl_cons, ih, hadd, List.map_cons, List.foldl_cons]

end Flowchart
