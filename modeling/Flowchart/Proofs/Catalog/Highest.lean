import Flowchart.Catalog.Detection
import Flowchart.Proofs.Catalog.Registration
import Mathlib.Order.Lattice
import Mathlib.Order.Nat

/-!
# The highest score

Detection finds the format that scores highest, the first one registered among equals, provided that
it scores above the threshold. Formats without a score of a text have no part in it.
-/

namespace Flowchart

namespace Catalog

variable {κ : Type} [LinearOrder κ]

section Highest

variable {first best : Text × κ} {others before after : List (Text × κ)}

theorem highest_of_le (h : ∀ other ∈ others, other.2 ≤ first.2) : highest first others = first := by
  induction others with
  | nil => rfl
  | cons next others ih =>
      obtain ⟨hnext, hothers⟩ := List.forall_mem_cons.1 h
      rw [highest, List.foldl_cons, if_neg (not_lt_of_ge hnext)]
      exact ih hothers

theorem highest_append (first : Text × κ) (before : List (Text × κ)) (best : Text × κ)
    (after : List (Text × κ)) :
    highest first (before ++ best :: after) =
      highest (if (highest first before).2 < best.2 then best else highest first before) after := by
  rw [highest, List.foldl_append, List.foldl_cons]
  rfl

theorem highest_mem (first : Text × κ) (others : List (Text × κ)) :
    highest first others ∈ first :: others := by
  induction others generalizing first with
  | nil => exact List.mem_singleton_self first
  | cons next others ih =>
      rw [highest, List.foldl_cons]
      split
      · exact List.mem_cons_of_mem _ (ih next)
      · exact (List.cons_subset_cons first (List.subset_cons_self next others)) (ih first)

theorem highest_eq (hsplit : first :: others = before ++ best :: after)
    (hbefore : ∀ other ∈ before, other.2 < best.2) (hafter : ∀ other ∈ after, other.2 ≤ best.2) :
    highest first others = best := by
  cases before with
  | nil =>
      obtain ⟨rfl, rfl⟩ := List.cons.inj hsplit
      exact highest_of_le hafter
  | cons head before =>
      obtain ⟨rfl, rfl⟩ := List.cons.inj hsplit
      have hlt : (highest first before).2 < best.2 := hbefore _ (highest_mem first before)
      calc highest first (before ++ best :: after)
          = highest best after := by rw [highest_append, if_pos hlt]
        _ = best := highest_of_le hafter

theorem exists_first_highest (first : Text × κ) (others : List (Text × κ)) :
    ∃ before best after, first :: others = before ++ best :: after ∧
      (∀ other ∈ before, other.2 < best.2) ∧ ∀ other ∈ after, other.2 ≤ best.2 := by
  induction others generalizing first with
  | nil => exact ⟨[], first, [], rfl, by simp, by simp⟩
  | cons next others ih =>
      obtain ⟨before, best, after, hsplit, hbefore, hafter⟩ := ih next
      rcases lt_or_ge first.2 best.2 with hlt | hle
      · refine ⟨first :: before, best, after, by rw [hsplit]; rfl, ?_, hafter⟩
        exact List.forall_mem_cons.2 ⟨hlt, hbefore⟩
      · refine ⟨[], first, next :: others, rfl, by simp, fun other hother => ?_⟩
        rw [hsplit, List.mem_append, List.mem_cons] at hother
        rcases hother with hother | rfl | hother
        · exact (hbefore other hother).le.trans hle
        · exact hle
        · exact (hafter other hother).trans hle

theorem le_highest {other : Text × κ} (h : other ∈ first :: others) :
    other.2 ≤ (highest first others).2 := by
  obtain ⟨before, best, after, hsplit, hbefore, hafter⟩ := exists_first_highest first others
  rw [highest_eq hsplit hbefore hafter]
  rw [hsplit, List.mem_append, List.mem_cons] at h
  rcases h with hmem | rfl | hmem
  · exact (hbefore other hmem).le
  · exact le_rfl
  · exact hafter other hmem

end Highest

end Catalog

theorem Entry.scored?_eq_some_iff {κ : Type} {text id : Text} {score : κ} {entry : Entry κ} :
    entry.scored? text = some (id, score) ↔
      entry.format.foundId text = id ∧ entry.format.score text = some score := by
  simp [Entry.scored?, and_comm]

namespace Catalog

variable {κ : Type}

def scorers (catalog : Catalog κ) (text : Text) : List (Entry κ) :=
  catalog.entries.filter fun entry => (entry.format.score text).isSome

theorem scores_eq_scorers (catalog : Catalog κ) (text : Text) :
    catalog.scores text = (catalog.scorers text).filterMap (Entry.scored? text) := by
  rw [scores, scorers, List.filterMap_filter]
  refine List.filterMap_congr fun entry _ => ?_
  cases hscore : entry.format.score text <;> simp [Entry.scored?, hscore]

theorem forall_mem_scored {text : Text} {entries : List (Entry κ)} {p : κ → Prop}
    (h : ∀ entry ∈ entries, ∀ score, entry.format.score text = some score → p score) :
    ∀ other ∈ entries.filterMap (Entry.scored? text), p other.2 := by
  rw [List.forall_mem_filterMap]
  rintro entry hentry ⟨id, score⟩ hscored
  exact h entry hentry score (Entry.scored?_eq_some_iff.1 hscored).2

/-- An entry that scores above the threshold, above all entries before it and not below those after
it. Entries without a score do not count. -/
structure Wins [LT κ] [LE κ] (catalog : Catalog κ) (text : Text) (before : List (Entry κ))
    (entry : Entry κ) (after : List (Entry κ)) (score : κ) : Prop where
  entries : catalog.entries = before ++ entry :: after
  scored : entry.format.score text = some score
  clear : catalog.settings.threshold < score
  above : ∀ other ∈ before, ∀ lower, other.format.score text = some lower → lower < score
  highest : ∀ other ∈ after, ∀ lower, other.format.score text = some lower → lower ≤ score

section Detect

variable [LinearOrder κ] {catalog : Catalog κ} {text : Text}

theorem detect_of_scores (h : ¬Blank text) {first : Text × κ} {others : List (Text × κ)}
    (hscores : catalog.scores text = first :: others) :
    catalog.detect text =
      if catalog.settings.threshold < (Catalog.highest first others).2 then
        .found (Catalog.highest first others).1 (Catalog.highest first others).2
      else .unknown .unclear := by
  rw [detect, if_neg (by rwa [Text.trim_isEmpty_iff]), hscores]

theorem detect_of_no_scores (h : ¬Blank text) (hscores : catalog.scores text = []) :
    catalog.detect text = .unknown .noScores := by
  rw [detect, if_neg (by rwa [Text.trim_isEmpty_iff]), hscores]

theorem Wins.detect {before after : List (Entry κ)} {entry : Entry κ} {score : κ}
    (h : ¬Blank text) (hwins : catalog.Wins text before entry after score) :
    catalog.detect text = .found (entry.format.foundId text) score := by
  have hscored : entry.scored? text = some (entry.format.foundId text, score) :=
    Entry.scored?_eq_some_iff.2 ⟨rfl, hwins.scored⟩
  have hscores : catalog.scores text = before.filterMap (Entry.scored? text) ++
      (entry.format.foundId text, score) :: after.filterMap (Entry.scored? text) := by
    rw [scores, hwins.entries, List.filterMap_append, List.filterMap_cons_some hscored]
  cases hfirst : catalog.scores text with
  | nil => simp [hfirst] at hscores
  | cons first others =>
      have hbest : Catalog.highest first others = (entry.format.foundId text, score) :=
        highest_eq (hfirst.symm.trans hscores) (forall_mem_scored hwins.above)
          (forall_mem_scored hwins.highest)
      rw [detect_of_scores h hfirst, hbest, if_pos hwins.clear]

theorem exists_wins {first : Text × κ} {others : List (Text × κ)}
    (hscores : catalog.scores text = first :: others)
    (hclear : catalog.settings.threshold < (Catalog.highest first others).2) :
    ∃ before entry after,
      catalog.Wins text before entry after (Catalog.highest first others).2 ∧
        entry.format.foundId text = (Catalog.highest first others).1 := by
  obtain ⟨lower, best, rest, hsplit, hlower, hrest⟩ := exists_first_highest first others
  rw [highest_eq hsplit hlower hrest] at hclear ⊢
  obtain ⟨losers, winners, hentries, rfl, hwinners⟩ :=
    List.filterMap_eq_append_iff.1 (hscores.trans hsplit)
  obtain ⟨mutes, entry, after, rfl, hmutes, hscored, rfl⟩ := List.filterMap_eq_cons_iff.1 hwinners
  obtain ⟨hid, hscore⟩ := Entry.scored?_eq_some_iff.1 hscored
  refine ⟨losers ++ mutes, entry, after, ⟨by simp [hentries], hscore, hclear, ?_, ?_⟩, hid⟩
  · intro other hother score hother_score
    have hother_scored := Entry.scored?_eq_some_iff.2 ⟨rfl, hother_score⟩
    rcases List.mem_append.1 hother with hmem | hmem
    · exact hlower _ (List.mem_filterMap.2 ⟨other, hmem, hother_scored⟩)
    · rw [hmutes other hmem] at hother_scored
      cases hother_scored
  · intro other hother score hother_score
    exact hrest _ (List.mem_filterMap.2
      ⟨other, hother, Entry.scored?_eq_some_iff.2 ⟨rfl, hother_score⟩⟩)

theorem detect_found_iff (h : ¬Blank text) {id : Text} {score : κ} :
    catalog.detect text = .found id score ↔
      ∃ before entry after, catalog.Wins text before entry after score ∧
        entry.format.foundId text = id := by
  refine ⟨fun hdetect => ?_, ?_⟩
  · cases hscores : catalog.scores text with
    | nil => simp [detect_of_no_scores h hscores] at hdetect
    | cons first others =>
        rw [detect_of_scores h hscores] at hdetect
        split at hdetect
        · rename_i hclear
          obtain ⟨hid, hscore⟩ := Detection.found.inj hdetect
          rw [← hid, ← hscore]
          exact exists_wins hscores hclear
        · cases hdetect
  · rintro ⟨before, entry, after, hwins, rfl⟩
    exact hwins.detect h

theorem exists_found (h : ¬Blank text) {entry : Entry κ} (hentry : entry ∈ catalog.entries)
    {score : κ} (hscore : entry.format.score text = some score)
    (hclear : catalog.settings.threshold < score) :
    ∃ id score, catalog.detect text = .found id score := by
  have hmem : (entry.format.foundId text, score) ∈ catalog.scores text :=
    List.mem_filterMap.2 ⟨entry, hentry, Entry.scored?_eq_some_iff.2 ⟨rfl, hscore⟩⟩
  cases hscores : catalog.scores text with
  | nil => simp [hscores] at hmem
  | cons first others =>
      rw [hscores] at hmem
      rw [detect_of_scores h hscores, if_pos (hclear.trans_le (le_highest hmem))]
      exact ⟨_, _, rfl⟩

theorem exists_unknown (h : ¬Blank text)
    (hlow : ∀ entry ∈ catalog.entries, ∀ score, entry.format.score text = some score →
      score ≤ catalog.settings.threshold) :
    ∃ reason, catalog.detect text = .unknown reason := by
  cases hdetect : catalog.detect text with
  | unknown reason => exact ⟨reason, rfl⟩
  | found id score =>
      obtain ⟨before, entry, after, hwins, -⟩ := (detect_found_iff h).1 hdetect
      have hentry : entry ∈ catalog.entries := by simp [hwins.entries]
      exact absurd hwins.clear (not_lt_of_ge (hlow entry hentry score hwins.scored))

/-- A text that is not blank is found to have the format that scores it highest, the first one among
equals, if any scores it above the threshold, and no format otherwise. Entries that cannot score it
make no difference, wherever they stand. -/
theorem detect_first_highest [Zero κ] (catalog : Catalog κ) {text : Text} (h : ¬Blank text) :
    (∀ id score, catalog.detect text = .found id score ↔
      ∃ before entry after, catalog.Wins text before entry after score ∧
        entry.format.foundId text = id) ∧
    ((∃ entry ∈ catalog.entries, ∃ score,
        entry.format.score text = some score ∧ catalog.settings.threshold < score) →
      ∃ id score, catalog.detect text = .found id score) ∧
    ((¬∃ entry ∈ catalog.entries, ∃ score,
        entry.format.score text = some score ∧ catalog.settings.threshold < score) →
      ∃ reason, catalog.detect text = .unknown reason ∧
        (catalog.detect text).confidence = 0) ∧
    ∀ other : Catalog κ, other.settings.threshold = catalog.settings.threshold →
      other.scorers text = catalog.scorers text → other.detect text = catalog.detect text := by
  refine ⟨fun id score => detect_found_iff h, ?_, fun hlow => ?_,
    fun other hthreshold hscorers => ?_⟩
  · rintro ⟨entry, hentry, score, hscore, hclear⟩
    exact exists_found h hentry hscore hclear
  · push Not at hlow
    obtain ⟨reason, hdetect⟩ := exists_unknown h hlow
    exact ⟨reason, hdetect, by rw [hdetect, Detection.confidence]⟩
  · have hscores : other.scores text = catalog.scores text := by
      rw [scores_eq_scorers, scores_eq_scorers, hscorers]
    rw [detect, detect, hscores, hthreshold]

/-- Of two highest scores the first one wins, and it does not matter where the entry without a score
stands. -/
theorem detect_first_of_equals :
    let entry (id : String) (score : Option Nat) : Entry Nat :=
      ⟨{ id := id.toList, name := [], scoreId := none, score := fun _ => score,
         read := fun _ => .error (.custom []) }, none⟩
    let catalog : Catalog Nat :=
      ⟨⟨30, true⟩, [entry "none" none, entry "low" (some 40), entry "first" (some 70),
        entry "second" (some 70)]⟩
    let moved : Catalog Nat :=
      ⟨⟨30, true⟩, [entry "low" (some 40), entry "first" (some 70), entry "none" none,
        entry "second" (some 70)]⟩
    ¬Blank ['x'] ∧ catalog.detect ['x'] = .found "first".toList 70 ∧
      moved.detect ['x'] = catalog.detect ['x'] := by
  intro entry catalog moved
  have hblank : ¬Blank ['x'] := by unfold Blank; decide
  obtain ⟨hfound, -, -, hmoved⟩ := detect_first_highest catalog hblank
  refine ⟨hblank, (hfound _ _).2 ?_, hmoved moved rfl rfl⟩
  refine ⟨[entry "none" none, entry "low" (some 40)], entry "first" (some 70),
    [entry "second" (some 70)], ⟨rfl, rfl, by decide, ?_, ?_⟩, rfl⟩
  · simp only [List.forall_mem_cons]
    exact ⟨fun _ h => by simp [entry] at h, fun _ h => by simp [entry] at h; omega, by simp⟩
  · simp only [List.forall_mem_cons]
    exact ⟨fun _ h => by simp [entry] at h; omega, by simp⟩

end Detect

end Catalog

end Flowchart
