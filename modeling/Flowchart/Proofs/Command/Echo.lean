import Flowchart.Command.Run
import Flowchart.Proofs.Caption
import Flowchart.Proofs.Json.Strings

/-!
# What is echoed

A text is echoed as it is exactly if no style sequence stands in it.  Such a sequence begins with a
control character, and no written value holds any but the line feeds between its lines: strings are
written with escapes in the place of their own.
-/

namespace Flowchart.Json

def Visible (s : Text) : Prop := ∀ c ∈ s, c.toNat < 0x20 → c = '\n'

instance (s : Text) : Decidable (Visible s) :=
  inferInstanceAs (Decidable (∀ c ∈ s, c.toNat < 0x20 → c = '\n'))

namespace Visible

variable {s t : Text}

theorem append (h : Visible s) (ht : Visible t) : Visible (s ++ t) :=
  List.forall_mem_append.2 ⟨h, ht⟩

theorem cons {c : Char} (hc : Visible [c]) (h : Visible s) : Visible (c :: s) := append hc h

theorem flatten {parts : List Text} (h : ∀ part ∈ parts, Visible part) : Visible parts.flatten := by
  intro c hc
  obtain ⟨part, hpart, hmem⟩ := List.mem_flatten.1 hc
  exact h part hpart c hmem

theorem join {sep : Text} {parts : List Text} (hsep : Visible sep)
    (h : ∀ part ∈ parts, Visible part) : Visible (Text.join sep parts) := by
  intro c hc
  rcases Text.mem_join hc with hc | ⟨part, hpart, hc⟩
  · exact hsep c hc
  · exact h part hpart c hc

end Visible

theorem visible_escapeChar (c : Char) : Visible (escapeChar c) := by
  have hhexadecimal : ∀ n < 0x20, Visible (Text.hexadecimal 4 n) := by decide
  unfold escapeChar
  split_ifs with _ _ _ _ _ _ _ hcontrol
  case pos => decide
  case pos => decide
  case pos => decide
  case pos => decide
  case pos => decide
  case pos => decide
  case pos => decide
  case pos => exact .append (by decide) (hhexadecimal c.toNat hcontrol)
  case neg => exact List.forall_mem_singleton.2 fun h => absurd h hcontrol

theorem visible_writeString (s : Text) : Visible (writeString s) := by
  refine .append (.cons (by decide) ?_) (by decide)
  intro c hc
  obtain ⟨d, -, hd⟩ := List.mem_flatMap.1 hc
  exact visible_escapeChar d c hd

theorem visible_of_subset {s : Text} (h : s ⊆ numeralChars) : Visible s := by
  have hall : Visible numeralChars := by decide
  exact fun c hc => hall c (h hc)

theorem visible_float (x : Binary64) : Visible (Binary64.toText numberLayout x) := by
  unfold Binary64.toText
  split
  · decide
  · refine .append ?_ ?_
    · split <;> decide
    · split
      · decide
      · exact visible_of_subset (finiteText_subset numberLayout x)

theorem visible_newline {unit : Text} (h : Visible unit) (depth : Nat) :
    Visible (newline unit depth) :=
  .cons (by decide) (.flatten fun _ hpart => List.eq_of_mem_replicate hpart ▸ h)

def Style.Visible (style : Style) : Prop := ∀ unit, style.indent = some unit → Json.Visible unit

theorem visible_enclose {style : Style} (hstyle : style.Visible) (depth : Nat)
    {opening closing : Char} (hopening : Visible [opening]) (hclosing : Visible [closing])
    {parts : List Text} (h : ∀ part ∈ parts, Visible part) :
    Visible (enclose style depth opening closing parts) := by
  unfold enclose
  split
  · exact .cons hopening hclosing
  · split
    · exact .cons hopening (.append (.join (by decide) h) hclosing)
    · rename_i unit hunit
      have hnewline := visible_newline (hstyle unit hunit)
      exact .append (.append (.append (.cons hopening (hnewline _))
        (.join (.cons (by decide) (hnewline _)) h)) (hnewline _)) hclosing

mutual

theorem visible_writeAt {style : Style} (h : style.Visible) : ∀ (value : Json) (depth : Nat),
    Visible (writeAt style depth value)
  | .null, _ => (by decide : Visible "null".toList)
  | .bool true, _ => (by decide : Visible "true".toList)
  | .bool false, _ => (by decide : Visible "false".toList)
  | .int n, _ => visible_of_subset (ofInt_subset n)
  | .float x, _ => visible_float x
  | .str s, _ => visible_writeString s
  | .arr items, depth =>
    visible_enclose h depth (by decide) (by decide) (visible_writeItems h items (depth + 1))
  | .obj fields, depth => by
    refine visible_enclose h depth (by decide) (by decide)
      (List.forall_mem_map.2 fun field hfield => ?_)
    have hmem : field ∈ writeFields style (depth + 1) fields := by
      revert hfield
      split
      · exact (List.mergeSort_perm _ _).mem_iff.1
      · exact id
    exact .append (.append (visible_writeString field.1) (by decide))
      (visible_writeFields h fields (depth + 1) field hmem)

theorem visible_writeItems {style : Style} (h : style.Visible) :
    ∀ (items : List Json) (depth : Nat), ∀ part ∈ writeItems style depth items, Visible part
  | [], _ => List.forall_mem_nil _
  | item :: items, depth =>
    List.forall_mem_cons.2 ⟨visible_writeAt h item depth, visible_writeItems h items depth⟩

theorem visible_writeFields {style : Style} (h : style.Visible) :
    ∀ (fields : Fields) (depth : Nat), ∀ field ∈ writeFields style depth fields, Visible field.2
  | [], _ => List.forall_mem_nil _
  | (_, value) :: fields, depth =>
    List.forall_mem_cons.2 ⟨visible_writeAt h value depth, visible_writeFields h fields depth⟩

end

/-- Whatever a value holds, its written form is visible where its indentation is. -/
theorem visible_write {style : Style} (h : style.Visible) (value : Json) :
    Visible (write style value) := visible_writeAt h value 0

end Flowchart.Json

namespace Flowchart.Command

def Unstyled (s : Text) : Prop := ∀ tail, tail <:+ s → styleSequence? tail = none

theorem unstyled_cons_iff {c : Char} {s : Text} :
    Unstyled (c :: s) ↔ styleSequence? (c :: s) = none ∧ Unstyled s := by
  simp only [Unstyled, List.suffix_cons_iff, forall_eq_or_imp]

theorem echoed_of_unstyled {s : Text} (h : Unstyled s) : echoed s = s := by
  induction s with
  | nil => rfl
  | cons c s ih =>
      obtain ⟨hnone, hrest⟩ := unstyled_cons_iff.1 h
      rw [echoed, Text.substitute_of_none (by rw [hnone]; rfl)]
      exact congrArg (c :: ·) (ih hrest)

theorem length_echoed_le (skip : Nat) (s : Text) :
    (Text.substitute (fun s => (styleSequence? s).map (·, [])) skip s).length ≤ s.length := by
  induction s generalizing skip with
  | nil => exact Nat.le_refl 0
  | cons c s ih =>
      cases skip with
      | succ skip => exact Nat.le_succ_of_le (ih skip)
      | zero =>
          cases hfound : styleSequence? (c :: s) with
          | none =>
              rw [Text.substitute_of_none (by rw [hfound]; rfl)]
              exact Nat.succ_le_succ (ih 0)
          | some n =>
              rw [Text.substitute_of_some (by rw [hfound]; rfl)]
              exact Nat.le_succ_of_le (ih (n - 1))

theorem length_echoed_lt {s : Text} (h : ¬ Unstyled s) : (echoed s).length < s.length := by
  induction s with
  | nil => exact absurd (fun tail htail => by rw [List.suffix_nil.1 htail]; rfl) h
  | cons c s ih =>
      cases hfound : styleSequence? (c :: s) with
      | none =>
          have hrest : ¬ Unstyled s := fun hrest => h (unstyled_cons_iff.2 ⟨hfound, hrest⟩)
          rw [echoed, Text.substitute_of_none (by rw [hfound]; rfl)]
          exact Nat.succ_lt_succ (ih hrest)
      | some n =>
          rw [echoed, Text.substitute_of_some (by rw [hfound]; rfl)]
          exact Nat.lt_succ_of_le (length_echoed_le (n - 1) s)

theorem echoed_eq_self_iff {s : Text} : echoed s = s ↔ Unstyled s := by
  refine ⟨fun heq => Classical.byContradiction fun hstyled => ?_, echoed_of_unstyled⟩
  have hlength := length_echoed_lt hstyled
  rw [heq] at hlength
  exact Nat.lt_irrefl _ hlength

theorem unstyled_of_visible {s : Text} (h : Json.Visible s) : Unstyled s := by
  intro tail htail
  rw [Option.eq_none_iff_forall_not_mem]
  intro n hn
  obtain ⟨rest, hrest, -⟩ := Option.bind_eq_some_iff.1 hn
  have hescape : '\x1b' ∈ tail := Text.eq_append_of_after? hrest ▸ List.mem_cons_self
  exact absurd (h '\x1b' (htail.subset hescape) (by decide)) (by decide)

theorem visible_spaces (n : Nat) : Json.Visible (Text.spaces n) := by
  intro c hc hcontrol
  rw [List.eq_of_mem_replicate hc] at hcontrol
  exact absurd hcontrol (by decide)

theorem unstyled_record (sortKeys : Bool) (n : Nat) (flow : Flow) :
    Unstyled (Record.write ⟨some (Text.spaces n), sortKeys⟩ flow) := by
  refine unstyled_of_visible (Json.visible_write (fun unit hunit => ?_) _)
  rw [← Option.some.inj hunit]
  exact visible_spaces n

end Flowchart.Command
