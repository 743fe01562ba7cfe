import Flowchart.Catalog
import Flowchart.Proofs.Text.Lines
import Mathlib.Data.List.Nodup
import Mathlib.Data.List.TakeWhile
import Mathlib.Tactic.Push

/-!
# Registration

A ledger lists what is registered, oldest first. Its rules say what becomes of it with each call
that changes a catalog, and how the call is answered. A catalog that starts empty follows the rules
through any calls: after each of them it shows the one ledger that the rules lead to.
-/

namespace Flowchart

inductive Call (κ : Type) where
  | register (format : Format κ) (source : Option Text)
  | unregister (id : Text)

inductive Outcome where
  | done
  | refused (fault : RegisterFault)
  | removed (present : Bool)
  deriving DecidableEq, Repr

namespace Catalog

variable {κ : Type}

/-- A refused call leaves the catalog as it was. -/
def perform (catalog : Catalog κ) : Call κ → Outcome × Catalog κ
  | .register format source =>
    match catalog.register format source with
    | .ok later => (.done, later)
    | .error fault => (.refused fault, catalog)
  | .unregister id => (.removed (catalog.has id), catalog.unregister id)

def performAll (catalog : Catalog κ) : List (Call κ) → List Outcome × Catalog κ
  | [] => ([], catalog)
  | call :: calls =>
    let next := catalog.perform call
    let last := next.2.performAll calls
    (next.1 :: last.1, last.2)

end Catalog

structure Posting (κ : Type) where
  id : Text
  format : Format κ
  source : Option Text

abbrev Ledger (κ : Type) := List (Posting κ)

def Blank (id : Text) : Prop := ∀ c ∈ id, Text.isBlank c = true

/-- A format that may be registered: its id is not blank, and its scores go by no other one. -/
structure Format.Fit {κ : Type} (format : Format κ) : Prop where
  named : ¬Blank format.id
  agreed : ∀ scoreId, format.scoreId = some scoreId → scoreId = format.id

namespace Ledger

variable {κ : Type}

/-- What a call does to a ledger, and its answer. -/
inductive Step (ledger : Ledger κ) : Call κ → Outcome → Ledger κ → Prop
  | blank {format : Format κ} {source : Option Text} (h : Blank format.id) :
      Step ledger (.register format source) (.refused .blankId) ledger
  | misnamed {format : Format κ} {source : Option Text} {scoreId : Text}
      (h : ¬Blank format.id) (hscore : format.scoreId = some scoreId) (hne : scoreId ≠ format.id) :
      Step ledger (.register format source) (.refused (.otherScores scoreId format.id)) ledger
  | foreign {format : Format κ} {source : Option Text} {posting : Posting κ} (h : format.Fit)
      (hmem : posting ∈ ledger) (hid : posting.id = format.id) (hne : posting.source ≠ source) :
      Step ledger (.register format source)
        (.refused (.duplicate format.id posting.source)) ledger
  | again {format : Format κ} {posting : Posting κ} (h : format.Fit) (hmem : posting ∈ ledger)
      (hid : posting.id = format.id) : Step ledger (.register format posting.source) .done ledger
  | new {format : Format κ} {source : Option Text} (h : format.Fit)
      (hnew : ∀ posting ∈ ledger, posting.id ≠ format.id) :
      Step ledger (.register format source) .done (ledger ++ [⟨format.id, format, source⟩])
  | removed {before after : Ledger κ} {posting : Posting κ}
      (hledger : ledger = before ++ posting :: after)
      (hothers : ∀ other ∈ before ++ after, other.id ≠ posting.id) :
      Step ledger (.unregister posting.id) (.removed true) (before ++ after)
  | absent {id : Text} (hnew : ∀ posting ∈ ledger, posting.id ≠ id) :
      Step ledger (.unregister id) (.removed false) ledger

inductive Run : Ledger κ → List (Call κ) → List Outcome → Ledger κ → Prop
  | nil (ledger : Ledger κ) : Run ledger [] [] ledger
  | cons {ledger next last : Ledger κ} {call : Call κ} {calls : List (Call κ)} {outcome : Outcome}
      {outcomes : List Outcome} (first : Step ledger call outcome next)
      (rest : Run next calls outcomes last) : Run ledger (call :: calls) (outcome :: outcomes) last

/-- Ids occur once, are not blank, and are those that the formats and their scores go by. -/
structure Lawful (ledger : Ledger κ) : Prop where
  distinct : (ledger.map Posting.id).Nodup
  own : ∀ posting ∈ ledger, posting.id = posting.format.id
  fit : ∀ posting ∈ ledger, posting.format.Fit

theorem lawful_nil : Lawful ([] : Ledger κ) where
  distinct := List.nodup_nil
  own := by simp
  fit := by simp

/-- Every call keeps a ledger lawful, whatever it asks for. -/
theorem Step.lawful {ledger later : Ledger κ} {call : Call κ} {outcome : Outcome}
    (step : Step ledger call outcome later) (h : Lawful ledger) : Lawful later := by
  cases step with
  | blank | misnamed | foreign | again | absent => exact h
  | @new format source hfit hnew =>
      refine ⟨?_, ?_, ?_⟩
      · rw [List.map_append, List.nodup_append]
        refine ⟨h.distinct, List.nodup_singleton _, ?_⟩
        rintro known hknown other hother rfl
        obtain ⟨posting, hposting, hid⟩ := List.mem_map.1 hknown
        exact hnew posting hposting (hid.trans (List.mem_singleton.1 hother))
      · exact List.forall_mem_append.2 ⟨h.own, List.forall_mem_singleton.2 rfl⟩
      · exact List.forall_mem_append.2 ⟨h.fit, List.forall_mem_singleton.2 hfit⟩
  | @removed before after posting hledger hothers =>
      subst hledger
      have hsub : (before ++ after).Sublist (before ++ posting :: after) :=
        (List.Sublist.refl before).append (List.sublist_cons_self posting after)
      exact ⟨h.distinct.sublist (hsub.map _), fun other hother => h.own other (hsub.subset hother),
        fun other hother => h.fit other (hsub.subset hother)⟩

end Ledger

def Entry.posting {κ : Type} (entry : Entry κ) : Posting κ := ⟨entry.id, entry.format, entry.source⟩

theorem Text.trim_isEmpty_iff (s : Text) : (Text.trim s).isEmpty = true ↔ Blank s := by
  rw [List.isEmpty_iff]
  constructor
  · intro h
    have hleft : Text.trimLeft s = [] := by
      cases hcons : Text.trimLeft s with
      | nil => rfl
      | cons c rest =>
          -- The first character that is left is no blank, so trimming on the right keeps it.
          have hc : Text.isBlank c = false := by
            have hnot := List.head?_dropWhile_not Text.isBlank s
            rw [show s.dropWhile Text.isBlank = c :: rest from hcons] at hnot
            simpa using hnot
          rw [← Text.trimLeft_cons hc rest] at hcons
          rw [Text.trim, hcons] at h
          exact absurd ((Text.trim_cons hc rest).symm.trans h) (List.cons_ne_nil _ _)
    exact List.dropWhile_eq_nil_iff.1 hleft
  · intro h
    have hleft : Text.trimLeft s = [] := List.dropWhile_eq_nil_iff.2 h
    rw [Text.trim, hleft]
    rfl

namespace Catalog

variable {κ : Type} {catalog : Catalog κ}

def ledger (catalog : Catalog κ) : Ledger κ := catalog.entries.map Entry.posting

theorem mem_ledger {posting : Posting κ} :
    posting ∈ catalog.ledger ↔ ∃ entry ∈ catalog.entries, entry.posting = posting := List.mem_map

theorem ids_eq_ledger (catalog : Catalog κ) : catalog.ids = catalog.ledger.map Posting.id := by
  rw [ids, ledger, List.map_map]
  rfl

theorem has_iff {id : Text} :
    catalog.has id = true ↔ ∃ posting ∈ catalog.ledger, posting.id = id := by
  rw [has, List.contains_iff_mem, ids_eq_ledger, List.mem_map]

theorem not_held_iff {id : Text} :
    catalog.entry? id = none ↔ ∀ posting ∈ catalog.ledger, posting.id ≠ id := by
  simp [ entry?, ledger, Entry.posting]

theorem entry?_of_mem (h : catalog.ids.Nodup) {entry : Entry κ} (hentry : entry ∈ catalog.entries) :
    catalog.entry? entry.id = some entry := by
  cases hfound : catalog.entry? entry.id with
  | none => exact absurd rfl (not_held_iff.1 hfound _ (mem_ledger.2 ⟨entry, hentry, rfl⟩))
  | some found =>
      have hid : found.id = entry.id := by simpa using List.find?_some hfound
      rw [List.inj_on_of_nodup_map h (List.mem_of_find?_eq_some hfound) hentry hid]

theorem held_of_mem (h : catalog.ledger.Lawful) {entry : Entry κ}
    (hentry : entry ∈ catalog.entries) : catalog.entry? entry.id = some entry := by
  have hids : catalog.ids.Nodup := by
    rw [ids_eq_ledger]
    exact h.distinct
  exact entry?_of_mem hids hentry

theorem format?_iff (h : catalog.ledger.Lawful) {id : Text} {format : Format κ} :
    catalog.format? id = some format ↔
      ∃ posting ∈ catalog.ledger, posting.id = id ∧ posting.format = format := by
  constructor
  · intro hformat
    obtain ⟨entry, hentry, rfl⟩ := Option.map_eq_some_iff.1 hformat
    exact ⟨entry.posting, mem_ledger.2 ⟨entry, List.mem_of_find?_eq_some hentry, rfl⟩,
      by simpa [Entry.posting] using List.find?_some hentry, rfl⟩
  · rintro ⟨posting, hposting, rfl, rfl⟩
    obtain ⟨entry, hentry, rfl⟩ := mem_ledger.1 hposting
    exact congrArg (Option.map Entry.format) (held_of_mem h hentry)

theorem format?_eq_none_iff {id : Text} :
    catalog.format? id = none ↔ ∀ posting ∈ catalog.ledger, posting.id ≠ id := by
  rw [format?, Option.map_eq_none_iff, not_held_iff]

theorem formatFault?_of_fit {format : Format κ} (h : format.Fit) : formatFault? format = none := by
  have hnamed : (Text.trim format.id).isEmpty = false := by
    rw [Bool.eq_false_iff, ne_eq, Text.trim_isEmpty_iff]
    exact h.named
  cases hscore : format.scoreId with
  | none => simp [formatFault?, hnamed, hscore]
  | some scoreId => simp [formatFault?, hnamed, hscore, h.agreed scoreId hscore]

theorem ledger_unregister (catalog : Catalog κ) (id : Text) :
    (catalog.unregister id).ledger = catalog.ledger.filter (·.id != id) := by
  rw [unregister, ledger, ledger, List.filter_map]
  rfl

theorem perform_of_step (h : catalog.ledger.Lawful) {call : Call κ} {outcome : Outcome}
    {later : Ledger κ} (step : catalog.ledger.Step call outcome later) :
    (catalog.perform call).1 = outcome ∧ (catalog.perform call).2.ledger = later := by
  cases step with
  | @blank format source hblank =>
      have hfault : formatFault? format = some .blankId :=
        if_pos ((Text.trim_isEmpty_iff _).2 hblank)
      simp [perform, register, hfault]
  | @misnamed format source scoreId hnamed hscore hne =>
      have hempty : (Text.trim format.id).isEmpty = false := by
        rwa [Bool.eq_false_iff, ne_eq, Text.trim_isEmpty_iff]
      have hfault : formatFault? format = some (.otherScores scoreId format.id) := by
        simp [formatFault?, hempty, hscore, hne]
      simp [perform, register, hfault]
  | @foreign format source posting hfit hmem hid hne =>
      obtain ⟨entry, hentry, rfl⟩ := mem_ledger.1 hmem
      have hknown : catalog.entry? format.id = some entry := hid ▸ held_of_mem h hentry
      have hsource : entry.source ≠ source := hne
      simp [perform, register, formatFault?_of_fit hfit, hknown, hsource, Entry.posting]
  | @again format posting hfit hmem hid =>
      obtain ⟨entry, hentry, rfl⟩ := mem_ledger.1 hmem
      have hknown : catalog.entry? format.id = some entry := hid ▸ held_of_mem h hentry
      simp [perform, register, formatFault?_of_fit hfit, hknown, Entry.posting]
  | @new format source hfit hnew =>
      have hnone : catalog.entry? format.id = none := not_held_iff.2 hnew
      simp [perform, register, formatFault?_of_fit hfit, hnone, ledger, Entry.posting, Entry.id]
  | @removed before after posting hledger hothers =>
      have hhas : catalog.has posting.id = true :=
        has_iff.2 ⟨posting, by simp [hledger], rfl⟩
      have hkept : (before ++ after).filter (·.id != posting.id) = before ++ after :=
        List.filter_eq_self.2 fun other hother => bne_iff_ne.2 (hothers other hother)
      refine ⟨by simp [perform, hhas], ?_⟩
      change (catalog.unregister posting.id).ledger = _
      rw [ledger_unregister, hledger, ← hkept]
      simp
  | @absent id hnew =>
      have hhas : catalog.has id = false := by
        rw [Bool.eq_false_iff, ne_eq, has_iff]
        rintro ⟨posting, hposting, hid⟩
        exact hnew posting hposting hid
      refine ⟨by simp [perform, hhas], ?_⟩
      change (catalog.unregister id).ledger = _
      rw [ledger_unregister]
      exact List.filter_eq_self.2 fun posting hposting => bne_iff_ne.2 (hnew posting hposting)

end Catalog

namespace Ledger

variable {κ : Type}

theorem step_register (ledger : Ledger κ) (format : Format κ) (source : Option Text) :
    ∃ outcome later, Step ledger (.register format source) outcome later := by
  by_cases hblank : Blank format.id
  · exact ⟨_, _, .blank hblank⟩
  by_cases hagreed : ∀ scoreId, format.scoreId = some scoreId → scoreId = format.id
  · have hfit : format.Fit := ⟨hblank, hagreed⟩
    by_cases hnew : ∀ posting ∈ ledger, posting.id ≠ format.id
    · exact ⟨_, _, .new hfit hnew⟩
    · push Not at hnew
      obtain ⟨posting, hmem, hid⟩ := hnew
      by_cases hsource : posting.source = source
      · exact hsource ▸ ⟨_, _, .again hfit hmem hid⟩
      · exact ⟨_, _, .foreign hfit hmem hid hsource⟩
  · push Not at hagreed
    obtain ⟨scoreId, hscore, hne⟩ := hagreed
    exact ⟨_, _, .misnamed hblank hscore hne⟩

theorem Lawful.exists_step {ledger : Ledger κ} (h : Lawful ledger) (call : Call κ) :
    ∃ outcome later, Step ledger call outcome later := by
  cases call with
  | register format source => exact step_register ledger format source
  | unregister id =>
      by_cases hnew : ∀ posting ∈ ledger, posting.id ≠ id
      · exact ⟨_, _, .absent hnew⟩
      · push Not at hnew
        obtain ⟨posting, hmem, rfl⟩ := hnew
        obtain ⟨before, after, hledger⟩ := List.append_of_mem hmem
        refine ⟨_, _, .removed hledger fun other hother hid => ?_⟩
        have hdistinct := h.distinct
        rw [hledger, List.map_append, List.map_cons, List.nodup_middle, ← List.map_append,
          List.nodup_cons] at hdistinct
        exact hdistinct.1 (hid ▸ List.mem_map_of_mem hother)

end Ledger

namespace Catalog

variable {κ : Type}

theorem performAll_of_run {catalog : Catalog κ} (h : catalog.ledger.Lawful)
    {calls : List (Call κ)} {outcomes : List Outcome} {later : Ledger κ}
    (run : Ledger.Run catalog.ledger calls outcomes later) :
    (catalog.performAll calls).1 = outcomes ∧ (catalog.performAll calls).2.ledger = later := by
  induction calls generalizing catalog outcomes with
  | nil =>
      cases run
      exact ⟨rfl, rfl⟩
  | cons call calls ih =>
      cases run with
      | cons first rest =>
          obtain ⟨houtcome, hledger⟩ := perform_of_step h first
          have hlawful := first.lawful h
          rw [← hledger] at rest hlawful
          obtain ⟨houtcomes, hlast⟩ := ih hlawful rest
          exact ⟨congrArg₂ List.cons houtcome houtcomes, hlast⟩

/-- A lawful catalog follows the rules through any calls, and stays lawful. -/
theorem run_performAll {catalog : Catalog κ} (h : catalog.ledger.Lawful) (calls : List (Call κ)) :
    Ledger.Run catalog.ledger calls (catalog.performAll calls).1
        (catalog.performAll calls).2.ledger ∧
      (catalog.performAll calls).2.ledger.Lawful := by
  induction calls generalizing catalog with
  | nil => exact ⟨.nil _, h⟩
  | cons call calls ih =>
      obtain ⟨outcome, later, step⟩ := h.exists_step call
      obtain ⟨rfl, rfl⟩ := perform_of_step h step
      obtain ⟨hrun, hlawful⟩ := ih (step.lawful h)
      exact ⟨.cons step hrun, hlawful⟩

theorem ids_reregister (catalog : Catalog κ) {format : Format κ}
    (hfit : format.Fit) (source : Option Text) :
    ((catalog.performAll [.unregister format.id, .register format source]).2).ids =
      catalog.ids.filter (· != format.id) ++ [format.id] := by
  have hnone : Catalog.entry? (catalog.unregister format.id) format.id = none := by
    rw [not_held_iff, ledger_unregister]
    exact fun posting hposting => bne_iff_ne.1 (List.mem_filter.1 hposting).2
  have hids : (catalog.unregister format.id).ids = catalog.ids.filter (· != format.id) := by
    rw [ids_eq_ledger, ledger_unregister, ids_eq_ledger, List.filter_map]
    rfl
  rw [← hids]
  simp [performAll, perform, register, formatFault?_of_fit hfit, hnone, ids, Entry.id]

/-- A catalog that starts empty follows the rules of a ledger through any calls: its answers and
what it shows are those of the one run that the rules allow. The ids that it shows differ, are not
blank and are the ids of their scores, and an id that comes back comes last. -/
theorem performAll_follows (settings : Settings κ) (calls : List (Call κ)) :
    let result := (⟨settings, []⟩ : Catalog κ).performAll calls
    ∃ ledger : Ledger κ, Ledger.Run [] calls result.1 ledger ∧
      (∀ outcomes other, Ledger.Run [] calls outcomes other →
        outcomes = result.1 ∧ other = ledger) ∧
      result.2.ids = ledger.map Posting.id ∧
      result.2.entries.map (fun entry => ⟨entry.id, entry.format, entry.source⟩) = ledger ∧
      (∀ id, result.2.has id = true ↔ ∃ posting ∈ ledger, posting.id = id) ∧
      (∀ id format, result.2.format? id = some format ↔
        ∃ posting ∈ ledger, posting.id = id ∧ posting.format = format) ∧
      (∀ id, result.2.format? id = none ↔ ∀ posting ∈ ledger, posting.id ≠ id) ∧
      (ledger.map Posting.id).Nodup ∧
      (∀ posting ∈ ledger, posting.id = posting.format.id ∧ ¬Blank posting.id ∧
        ∀ scoreId, posting.format.scoreId = some scoreId → scoreId = posting.id) ∧
      ∀ format : Format κ, format.Fit → ∀ source,
        (result.2.performAll [.unregister format.id, .register format source]).2.ids =
          (ledger.map Posting.id).filter (· != format.id) ++ [format.id] := by
  intro result
  have hempty : (⟨settings, []⟩ : Catalog κ).ledger.Lawful := Ledger.lawful_nil
  obtain ⟨hrun, hlawful⟩ := run_performAll hempty calls
  refine ⟨result.2.ledger, hrun, ?_, ids_eq_ledger _, rfl, fun _ => has_iff,
    fun _ _ => format?_iff hlawful, fun _ => format?_eq_none_iff, hlawful.distinct, ?_, ?_⟩
  · intro outcomes other hother
    obtain ⟨houtcomes, hledger⟩ := performAll_of_run hempty hother
    exact ⟨houtcomes.symm, hledger.symm⟩
  · intro posting hposting
    have hown := hlawful.own posting hposting
    have hfit := hlawful.fit posting hposting
    exact ⟨hown, hown ▸ hfit.named, fun scoreId hscore => hown ▸ hfit.agreed scoreId hscore⟩
  · intro format hfit source
    rw [← ids_eq_ledger]
    exact ids_reregister _ hfit source

end Catalog

end Flowchart
