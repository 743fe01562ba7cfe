import Flowchart.Catalog.Reading
import Flowchart.Proofs.Catalog.Registration

/-!
# Dispatch

A text whose format was detected is settled by its own format, if that reads it. Otherwise the first
other format that makes a flow with nodes of it stands in, where that is allowed, and the fault of
its own format is told where none does.
-/

namespace Flowchart

/-- What comes of a text in the format of an id: what the reader of that format makes of it, or the
fault that there is no such format. -/
inductive Catalog.Own {κ : Type} (catalog : Catalog κ) (id text : Text) :
    Except ReadFault Flow → Prop
  | registered {entry : Entry κ} (h : entry ∈ catalog.entries) (hid : entry.id = id) :
      Own catalog id text (entry.format.read text)
  | unregistered (h : ∀ entry ∈ catalog.entries, entry.id ≠ id) :
      Own catalog id text (.error (.unregistered id))

/-- An entry other than the detected one that makes a flow with nodes of a text. -/
structure Entry.StandsIn {κ : Type} (detected text : Text) (entry : Entry κ) (flow : Flow) :
    Prop where
  other : entry.id ≠ detected
  reads : entry.format.read text = .ok flow
  nodes : flow.nodes ≠ []

/-- How a text is settled that was detected to have the format of an id. -/
inductive Catalog.Settles {κ : Type} (catalog : Catalog κ) (detected text : Text) : Reading → Prop
  | own {flow : Flow} {warnings : List Json} (h : catalog.Own detected text (.ok flow))
      (hwarnings : flow.warnings = .ok warnings) :
      Settles catalog detected text (.done detected flow warnings)
  | fallback {fault : ReadFault} {before after : List (Entry κ)} {entry : Entry κ} {flow : Flow}
      {warnings : List Json} (h : catalog.Own detected text (.error fault))
      (hallowed : catalog.settings.fallback = true)
      (hentries : catalog.entries = before ++ entry :: after)
      (hbefore : ∀ earlier ∈ before, ∀ other, ¬earlier.StandsIn detected text other)
      (hentry : entry.StandsIn detected text flow) (hwarnings : flow.warnings = .ok warnings) :
      Settles catalog detected text
        (.done entry.id flow (warnings ++ [.str (Reading.fallbackWarning entry.id detected)]))
  | failed {fault : ReadFault} (h : catalog.Own detected text (.error fault))
      (hnone : catalog.settings.fallback = true →
        ∀ entry ∈ catalog.entries, ∀ flow, ¬entry.StandsIn detected text flow) :
      Settles catalog detected text
        (.failed (some detected) (Reading.failureMessage detected fault))

namespace Catalog

variable {κ : Type} {catalog : Catalog κ} {id detected text : Text}

theorem own_read (catalog : Catalog κ) (id text : Text) :
    catalog.Own id text (catalog.read id text) := by
  rw [read, format?]
  cases hentry : catalog.entry? id with
  | none =>
      have hnew := not_held_iff.1 hentry
      exact .unregistered fun entry hmem => hnew _ (mem_ledger.2 ⟨entry, hmem, rfl⟩)
  | some entry =>
      exact .registered (List.mem_of_find?_eq_some hentry) (by simpa using List.find?_some hentry)

theorem read_of_own (h : catalog.ids.Nodup) {result : Except ReadFault Flow}
    (hown : catalog.Own id text result) : catalog.read id text = result := by
  cases hown with
  | registered hmem hid =>
      subst hid
      rw [read, format?, entry?_of_mem h hmem]
      rfl
  | unregistered hnew =>
      have hnone : catalog.entry? id = none := by
        rw [not_held_iff]
        intro posting hposting
        obtain ⟨entry, hmem, rfl⟩ := mem_ledger.1 hposting
        exact hnew entry hmem
      rw [read, format?, hnone]
      rfl

def standIn? (detected text : Text) (entry : Entry κ) : Option (Text × Flow) :=
  if entry.id != detected then usableFlow? text entry else none

theorem standIn?_eq_some_iff {entry : Entry κ} {flow : Flow} :
    standIn? detected text entry = some (id, flow) ↔
      entry.StandsIn detected text flow ∧ entry.id = id := by
  constructor
  · intro h
    obtain ⟨hother, husable⟩ := Option.ite_none_right_eq_some.1 h
    rw [bne_iff_ne] at hother
    unfold usableFlow? at husable
    split at husable
    · rename_i read hread
      obtain ⟨hnodes, hsame⟩ := Option.ite_none_left_eq_some.1 husable
      obtain ⟨rfl, rfl⟩ := Prod.mk.inj (Option.some.inj hsame)
      exact ⟨⟨hother, hread, by simpa using hnodes⟩, rfl⟩
    · cases husable
  · rintro ⟨⟨hother, hread, hnodes⟩, rfl⟩
    simp [standIn?, usableFlow?, hother, hread, hnodes]

theorem standIn?_eq_none_iff {entry : Entry κ} :
    standIn? detected text entry = none ↔ ∀ flow, ¬entry.StandsIn detected text flow := by
  constructor
  · intro h flow hstands
    rw [standIn?_eq_some_iff.2 ⟨hstands, rfl⟩] at h
    cases h
  · intro h
    cases hoffer : standIn? detected text entry with
    | none => rfl
    | some offer => exact absurd (standIn?_eq_some_iff.1 hoffer).1 (h _)

theorem fallback?_of_on (h : catalog.settings.fallback = true) :
    catalog.fallback? detected text = catalog.entries.findSome? (standIn? detected text) := by
  rw [fallback?, if_pos h, ← List.head?_filterMap, List.filterMap_filter, List.head?_filterMap]
  rfl

theorem fallback?_eq_some_iff {flow : Flow} :
    catalog.fallback? detected text = some (id, flow) ↔
      catalog.settings.fallback = true ∧ ∃ before entry after,
        catalog.entries = before ++ entry :: after ∧
          (∀ earlier ∈ before, ∀ other, ¬earlier.StandsIn detected text other) ∧
            entry.StandsIn detected text flow ∧ entry.id = id := by
  cases hallowed : catalog.settings.fallback with
  | false => simp [fallback?, hallowed]
  | true =>
      rw [fallback?_of_on hallowed, List.findSome?_eq_some_iff]
      simp only [standIn?_eq_some_iff, standIn?_eq_none_iff, true_and]
      constructor
      · rintro ⟨before, entry, after, hentries, hentry, hbefore⟩
        exact ⟨before, entry, after, hentries, hbefore, hentry⟩
      · rintro ⟨before, entry, after, hentries, hbefore, hentry⟩
        exact ⟨before, entry, after, hentries, hentry, hbefore⟩

theorem fallback?_eq_none_iff :
    catalog.fallback? detected text = none ↔ (catalog.settings.fallback = true →
      ∀ entry ∈ catalog.entries, ∀ flow, ¬entry.StandsIn detected text flow) := by
  cases hallowed : catalog.settings.fallback with
  | false => simp [fallback?, hallowed]
  | true =>
      rw [fallback?_of_on hallowed, List.findSome?_eq_none_iff]
      simp only [standIn?_eq_none_iff, true_implies]

theorem fallback?_unregister (catalog : Catalog κ) (detected text : Text) :
    (catalog.unregister detected).fallback? detected text = catalog.fallback? detected text := by
  simp [fallback?, unregister, List.filter_filter]

theorem parseDetected_of_settles (h : catalog.ids.Nodup) {reading : Reading}
    (hsettles : catalog.Settles detected text reading) :
    catalog.parseDetected detected text = .ok reading := by
  cases hsettles with
  | own hown hwarnings =>
      rw [parseDetected, read_of_own h hown]
      simp [Reading.ofFlow, hwarnings, Except.map]
  | fallback hown hallowed hentries hbefore hentry hwarnings =>
      have hfallback := fallback?_eq_some_iff.2
        ⟨hallowed, _, _, _, hentries, hbefore, hentry, rfl⟩
      rw [parseDetected, read_of_own h hown, hfallback]
      simp [Reading.ofFlow, hwarnings, Except.map]
  | failed hown hnone =>
      rw [parseDetected, read_of_own h hown, fallback?_eq_none_iff.2 hnone]

theorem Own.flow {flow : Flow} (h : catalog.Own id text (.ok flow)) :
    ∃ entry ∈ catalog.entries, entry.format.read text = .ok flow := by
  generalize hresult : (Except.ok flow : Except ReadFault Flow) = result at h
  cases h with
  | registered hmem hid => exact ⟨_, hmem, rfl⟩
  | unregistered hnew => cases hresult

theorem exists_settles (hflows : ∀ entry ∈ catalog.entries, ∀ flow,
      entry.format.read text = .ok flow → ∃ warnings, flow.warnings = .ok warnings) :
    ∃ reading, catalog.Settles detected text reading := by
  have hown := catalog.own_read detected text
  cases hread : catalog.read detected text with
  | ok flow =>
      rw [hread] at hown
      obtain ⟨entry, hentry, hflow⟩ := hown.flow
      obtain ⟨warnings, hwarnings⟩ := hflows entry hentry flow hflow
      exact ⟨_, .own hown hwarnings⟩
  | error fault =>
      rw [hread] at hown
      cases hfallback : catalog.fallback? detected text with
      | none => exact ⟨_, .failed hown (fallback?_eq_none_iff.1 hfallback)⟩
      | some offer =>
          obtain ⟨hallowed, before, entry, after, hentries, hbefore, hentry, -⟩ :=
            fallback?_eq_some_iff.1 hfallback
          have hmem : entry ∈ catalog.entries := by simp [hentries]
          obtain ⟨warnings, hwarnings⟩ := hflows entry hmem _ hentry.reads
          exact ⟨_, .fallback hown hallowed hentries hbefore hentry hwarnings⟩

/-- A text whose format was detected is always settled, in the one way that the rules allow: by its
own format, by the first stand-in, or by the fault of its own format. No flow without nodes stands
in, and the detected format itself plays no part among the stand-ins. -/
theorem parse_eq_ok_iff_settles [LT κ] [DecidableLT κ] (h : catalog.ids.Nodup) {score : κ}
    (hdetect : catalog.detect text = .found detected score) (hknown : detected ≠ unknownId)
    (hflows : ∀ entry ∈ catalog.entries, ∀ flow,
      entry.format.read text = .ok flow → ∃ warnings, flow.warnings = .ok warnings) :
    (∃ reading, catalog.parse text = .ok reading) ∧
      (∀ reading, catalog.parse text = .ok reading ↔ catalog.Settles detected text reading) ∧
      (∀ id flow, catalog.fallback? detected text = some (id, flow) →
        id ≠ detected ∧ flow.nodes ≠ []) ∧
      (catalog.unregister detected).fallback? detected text =
        catalog.fallback? detected text := by
  have hparse : catalog.parse text = catalog.parseDetected detected text := by
    rw [parse, hdetect, Detection.id?, if_neg hknown]
  obtain ⟨reading, hsettles⟩ : ∃ reading, catalog.Settles detected text reading :=
    exists_settles hflows
  have hreading := parseDetected_of_settles h hsettles
  rw [hparse]
  refine ⟨⟨reading, hreading⟩, fun other => ⟨fun hother => ?_, parseDetected_of_settles h⟩, ?_,
    fallback?_unregister catalog detected text⟩
  · obtain rfl := Except.ok.inj (hreading.symm.trans hother)
    exact hsettles
  · intro id flow hfallback
    obtain ⟨-, -, entry, -, -, -, hentry, rfl⟩ := fallback?_eq_some_iff.1 hfallback
    exact ⟨hentry.other, hentry.nodes⟩

/-- Scores may name a format that is not registered. Of the others, one that fails and one that
makes a flow without nodes are passed over. -/
theorem parse_with_stand_in :
    let flow : Flow :=
      { id := ['f'], title := .str ['F'], nodes := [{ id := ['a'], title := .str ['A'] }]
        metadata := .obj [("warnings".toList, .arr [.str "unsure".toList])] }
    let entry (id : String) (score : Option Nat) (result : Except ReadFault Flow) : Entry Nat :=
      ⟨{ id := id.toList, name := [], scoreId := none, score := fun _ => score,
         foundId := fun _ => "missing".toList, read := fun _ => result }, none⟩
    let catalog : Catalog Nat :=
      ⟨⟨30, true⟩, [entry "broken" (some 90) (.error (.custom "broken".toList)),
        entry "empty" none (.ok { flow with nodes := [] }), entry "good" none (.ok flow)]⟩
    catalog.parse ['x'] = .ok (.done "good".toList flow [.str "unsure".toList,
      .str "Parsed as good instead of detected missing".toList]) := by
  intro flow entry catalog
  have hdetect : catalog.detect ['x'] = .found "missing".toList 90 := rfl
  have hflows : ∀ entry ∈ catalog.entries, ∀ flow, entry.format.read ['x'] = .ok flow →
      ∃ warnings, flow.warnings = .ok warnings := by
    simp only [catalog, List.forall_mem_cons]
    refine ⟨?_, ?_, ?_, by simp⟩
    · rintro _ ⟨⟩
    · rintro _ ⟨⟩
      exact ⟨_, rfl⟩
    · rintro _ ⟨⟩
      exact ⟨_, rfl⟩
  obtain ⟨-, hsettles, -⟩ := parse_eq_ok_iff_settles (by decide) hdetect (by decide) hflows
  have hown : catalog.Own "missing".toList ['x'] (.error (.unregistered "missing".toList)) :=
    .unregistered (by decide)
  have hbefore : ∀ earlier ∈ catalog.entries.take 2, ∀ other,
      ¬earlier.StandsIn "missing".toList ['x'] other := by
    simp only [catalog, List.take, List.forall_mem_cons]
    refine ⟨?_, ?_, by simp⟩
    · rintro _ ⟨-, ⟨⟩, -⟩
    · rintro _ ⟨-, ⟨⟩, hnodes⟩
      exact hnodes rfl
  have hentry : (entry "good" none (.ok flow)).StandsIn "missing".toList ['x'] flow :=
    ⟨by decide, rfl, by simp [flow]⟩
  have hmessage : Reading.fallbackWarning "good".toList "missing".toList =
      "Parsed as good instead of detected missing".toList := by decide
  rw [hsettles, ← hmessage]
  exact .fallback hown rfl rfl hbefore hentry rfl

end Catalog

end Flowchart
