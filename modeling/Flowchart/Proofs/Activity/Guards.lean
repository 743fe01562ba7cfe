import Flowchart.Proofs.Activity.Phrases
import Mathlib.Algebra.Ring.Parity
import Mathlib.Data.List.DropRight

/-!
# Guards

A backslash guards what it stands before, if it is not guarded itself.  Escaping puts a guard before
each character that would end or open something, so the end of an activity is the one semicolon in
its line that is not guarded.
-/

namespace Flowchart.Activity

/-- Backslashes are replaced first, so that no backslash of a later step is doubled. -/
def escapeInSteps (s : Text) : Text :=
  Text.replace ':' ['\\', ':'] (Text.replace ';' ['\\', ';']
    (Text.replace '\n' ['\\', 'n'] (Text.replace '\\' ['\\', '\\'] s)))

theorem escapeChar_eq_steps (c : Char) : escapeChar c = escapeInSteps [c] := by
  by_cases hslash : c = '\\'
  · subst hslash
    rfl
  · by_cases hfeed : c = '\n'
    · subst hfeed
      rfl
    · by_cases hsemicolon : c = ';'
      · subst hsemicolon
        rfl
      · by_cases hcolon : c = ':'
        · subst hcolon
          rfl
        · simp [escapeChar, escapeInSteps, Text.replace, hslash, hfeed, hsemicolon, hcolon]

theorem escapeInSteps_append (s t : Text) :
    escapeInSteps (s ++ t) = escapeInSteps s ++ escapeInSteps t := by
  simp only [escapeInSteps, Text.replace, List.flatMap_append]

theorem escape_eq_steps (s : Text) : escape s = escapeInSteps s := by
  induction s with
  | nil => rfl
  | cons c s ih =>
      rw [escape_cons, escapeChar_eq_steps, ih, ← escapeInSteps_append, List.singleton_append]

/-- The number of backslashes at the very end. -/
def slashes (s : Text) : Nat := (s.rtakeWhile (· == '\\')).length

/-- Whether what follows a character is guarded, if it is known whether the character is. -/
def guardBehind (guarded : Bool) (c : Char) : Bool := !guarded && c == '\\'

/-- Backslashes guard each other in pairs. -/
theorem odd_slashes_iff (s : Text) : Odd (slashes s) ↔ s.foldl guardBehind false = true := by
  induction s using List.reverseRecOn with
  | nil => simp [slashes]
  | append_singleton s c ih =>
      rw [slashes, List.rtakeWhile_concat, List.foldl_append, List.foldl_cons, List.foldl_nil]
      by_cases hc : c = '\\'
      · subst hc
        rw [if_pos (beq_self_eq_true _), List.length_append, List.length_singleton,
          Nat.odd_add_one, ← slashes, ih]
        cases s.foldl guardBehind false <;> decide
      · rw [if_neg (by simpa using hc)]
        simp [guardBehind, hc]

def Shielded : Bool → Text → Prop
  | _, [] => True
  | guarded, c :: s =>
    (c = ';' ∨ c = ':' → guarded = true) ∧ Shielded (guardBehind guarded c) s

theorem Shielded.append {guarded : Bool} {s t : Text} (hs : Shielded guarded s)
    (ht : Shielded (s.foldl guardBehind guarded) t) : Shielded guarded (s ++ t) := by
  induction s generalizing guarded with
  | nil => exact ht
  | cons c s ih => exact ⟨hs.1, ih hs.2 ht⟩

theorem Shielded.guarded {guarded : Bool} {before after : Text} {c : Char}
    (h : Shielded guarded (before ++ c :: after)) (hc : c = ';' ∨ c = ':') :
    before.foldl guardBehind guarded = true := by
  induction before generalizing guarded with
  | nil => exact h.1 hc
  | cons d before ih => exact ih h.2

theorem shielded_escapeChar (c : Char) :
    Shielded false (escapeChar c) ∧ (escapeChar c).foldl guardBehind false = false := by
  by_cases hslash : c = '\\'
  · subst hslash
    simp [escapeChar, Shielded, guardBehind]
  · by_cases hfeed : c = '\n'
    · subst hfeed
      simp [escapeChar, Shielded, guardBehind]
    · by_cases hsemicolon : c = ';'
      · subst hsemicolon
        simp [escapeChar, Shielded, guardBehind]
      · by_cases hcolon : c = ':'
        · subst hcolon
          simp [escapeChar, Shielded, guardBehind]
        · simp [escapeChar, Shielded, guardBehind, hslash, hfeed, hsemicolon, hcolon]

theorem shielded_escape (s : Text) :
    Shielded false (escape s) ∧ (escape s).foldl guardBehind false = false := by
  induction s with
  | nil => exact ⟨trivial, rfl⟩
  | cons c s ih =>
      obtain ⟨hc, hbehind⟩ := shielded_escapeChar c
      rw [escape_cons, List.foldl_append, hbehind]
      refine ⟨hc.append ?_, ih.2⟩
      rw [hbehind]
      exact ih.1

theorem feed_not_mem_escape (s : Text) : '\n' ∉ escape s := by
  intro hfeed
  rcases mem_escape hfeed with ⟨-, hne⟩ | hslash | hn
  · exact hne rfl
  · exact absurd hslash (by decide)
  · exact absurd hn (by decide)

/-- A single line, in which the last character is the one semicolon that is not guarded. -/
structure EndsOnce (line : Text) : Prop where
  feedless : '\n' ∉ line
  closed : line.getLast? = some ';'
  ends : ∀ before after, line = before ++ ';' :: after → (Even (slashes before) ↔ after = [])

theorem endsOnce_activity (s : Text) : EndsOnce (':' :: escape s ++ [';']) where
  feedless := by simp [feed_not_mem_escape]
  closed := List.getLast?_concat
  ends := by
    intro before after hline
    obtain ⟨hshielded, hopen⟩ := shielded_escape s
    rw [← Nat.not_odd_iff_even, odd_slashes_iff]
    -- The first character is the colon that opens the activity.
    obtain ⟨rest, rfl⟩ : ∃ rest, before = ':' :: rest := by
      cases before with
      | nil => simp at hline
      | cons c rest =>
          rw [List.cons_append, List.cons_append, List.cons.injEq] at hline
          exact ⟨rest, by rw [hline.1]⟩
    have hinside : escape s ++ [';'] = rest ++ ';' :: after := List.tail_eq_of_cons_eq hline
    have hcolon : (':' :: rest).foldl guardBehind false = rest.foldl guardBehind false := rfl
    rw [hcolon]
    rcases List.eq_nil_or_concat' after with rfl | ⟨tail, last, rfl⟩
    · obtain ⟨hescape, -⟩ := List.append_inj' hinside rfl
      rw [← hescape, hopen]
      simp
    · have hassoc : rest ++ ';' :: (tail ++ [last]) = (rest ++ ';' :: tail) ++ [last] := by simp
      obtain ⟨hescape, -⟩ := List.append_inj' (hinside.trans hassoc) rfl
      rw [hescape] at hshielded
      simp [hshielded.guarded (.inl rfl)]

theorem read?_activity (s : Text) :
    Statement.read? (':' :: escape s ++ [';']) = some (.activity (Text.trim s)) := by
  have hbefore : Text.before? [';'] (escape s ++ [';']) = some (escape s) :=
    before?_append [';'] (escape s)
  have hactivity : activity? (':' :: escape s ++ [';']) = some (.activity (Text.trim s)) := by
    change (Text.before? [';'] (escape s ++ [';'])).map _ = _
    rw [hbefore, Option.map_some, plainText, unescape_escape]
  have hstop : terminators.contains (':' :: escape s ++ [';']) = false := by
    simp [terminators]
  rw [Statement.read?, if_neg (by simp), hstop, hactivity]
  rfl

theorem joinActivities_activity (s : Text) (lines : List Text) :
    joinActivities [] ((':' :: escape s ++ [';']) :: lines) =
      (joinActivities [] lines).map ((':' :: escape s ++ [';']) :: ·) := by
  have hends : Text.endsWith (':' :: escape s ++ [';']) [';'] = true := by
    rw [Text.endsWith, before?_append [';'] (':' :: escape s)]
    rfl
  rw [joinActivities, hends, Bool.not_true, Bool.and_false, if_neg Bool.false_ne_true]

/-- Escaping can be undone, leaves no line feed and no semicolon or colon without a guard. The line
of an activity ends at its own semicolon: it is read up to there, and nothing is joined to it. -/
theorem escape_guarded (s : Text) :
    escape s = escapeInSteps s ∧ unescape (escape s) = s ∧ '\n' ∉ escape s ∧
      (∀ before c after, escape s = before ++ c :: after → c = ';' ∨ c = ':' →
        Odd (slashes before)) ∧
      ∃ line, (Phrase.activity (.str s)).text = .ok line ∧ line = ':' :: escape s ++ [';'] ∧
        EndsOnce line ∧ Statement.read? line = some (.activity (Text.trim s)) ∧
        ∀ lines, joinActivities [] (line :: lines) = (joinActivities [] lines).map (line :: ·) := by
  refine ⟨escape_eq_steps s, unescape_escape s, feed_not_mem_escape s, ?_,
    _, rfl, rfl, endsOnce_activity s, read?_activity s, joinActivities_activity s⟩
  intro before c after hsplit hc
  have hshielded := (shielded_escape s).1
  rw [hsplit] at hshielded
  exact (odd_slashes_iff before).2 (hshielded.guarded hc)

end Flowchart.Activity
