import Flowchart.Catalog.Builtin
import Flowchart.Catalog.Reading
import Flowchart.Proofs.Catalog.Highest
import Flowchart.Proofs.Catalog.Soundness
import Flowchart.Proofs.Json.Layout

/-!
# Detection of records

A record scores high as a record, and low as anything else: its lines begin with blanks and tokens,
so neither a header nor a title is found at the beginning of one, whatever its strings hold. Scores
are taken for what they stand for, whole numbers of hundredths.
-/

namespace Flowchart

def Format.rescored {κ κ' : Type} (format : Format κ) (score : Text → κ') : Format κ' where
  id := format.id
  name := format.name
  description := format.description
  scoreId := format.scoreId
  score := fun text => some (score text)
  read := format.read
  write := format.write
  readRemarks := format.readRemarks

namespace Catalog

/-- The built-in formats as they are by default, with the exact values of their scores. -/
def exact : Catalog Nat where
  settings := ⟨30, true⟩
  entries :=
    [(Format.digraph, Digraph.evidence), (Format.chart, Chart.evidence),
      (Format.activity, Activity.evidence), (Format.record, Record.evidence)].map
      fun (format, evidence) =>
        ⟨format.rescored fun text => (evidence text).exact, some builtinSource⟩

end Catalog

namespace Json

theorem not_opens {c d : Char} (hblank : Text.isBlank c = false) (hmark : c ∉ tokenMarks)
    (hdigit : Text.isAsciiDigit c = false)
    (hword : ∀ w ∈ wordValues.map Prod.fst, w.take 2 ≠ [c, d]) (t : Text) :
    ¬Opens (c :: d :: t) := by
  intro h
  generalize hs : c :: d :: t = s at h
  cases h with
  | nil => cases hs
  | blank h =>
      cases hs
      rw [hblank] at h
      cases h
  | mark h =>
      cases hs
      exact hmark h
  | digit h =>
      cases hs
      rw [hdigit] at h
      cases h
  | @word w rest h =>
      have hlong : ∀ w ∈ wordValues.map Prod.fst, 2 ≤ w.length := by decide
      apply hword w h
      have htake : (w ++ rest).take 2 = w.take 2 := List.take_append_of_le_length (hlong w h)
      rw [← htake, ← hs]
      rfl

end Json

namespace Chart

theorem not_opens_header {s : Text} (h : isHeader s = true) : ¬Json.Opens s := by
  obtain ⟨word, hword, hheader⟩ := List.any_eq_true.1 h
  obtain ⟨rest, hrest, -⟩ := (Option.any_eq_true _ _).1 hheader
  obtain rfl := Text.eq_append_of_after? hrest
  simp only [headerWords, List.mem_cons, List.not_mem_nil, or_false] at hword
  rcases hword with rfl | rfl <;>
    exact Json.not_opens (by decide) (by decide) (by decide) (by decide) _

theorem exact_evidence_le {text : Text} (hheader : Text.anyLineStart isHeader text = false)
    (hfront : hasFront text = false) : (evidence text).exact ≤ 80 := by
  simp only [evidence, hheader, hfront, Evidence.exact, Finding.exact, Finding.once,
    Bool.false_eq_true, if_false, List.foldl_cons, List.foldl_nil]
  omega

end Chart

namespace Activity

theorem not_opens_title {s : Text} (h : isTitle s = true) : ¬Json.Opens s := by
  obtain ⟨rest, hrest, -⟩ := (Option.any_eq_true _ _).1 h
  obtain rfl := Text.eq_append_of_after? hrest
  exact Json.not_opens (by decide) (by decide) (by decide) (by decide) _

theorem not_opens_terminal {word : Text} (h : word ∈ terminalWords) (more : Text) :
    ¬Json.Opens (word ++ more) := by
  simp only [terminalWords, List.mem_cons, List.not_mem_nil, or_false] at h
  rcases h with rfl | rfl | rfl <;>
    exact Json.not_opens (by decide) (by decide) (by decide) (by decide) _

theorem exact_evidence_le {text : Text}
    (hterminal : (Text.split '\n' (Text.trim text)).any terminalWords.contains = false)
    (htitle : Text.anyLineStart isTitle (Text.trim text) = false) :
    (evidence text).exact ≤ 80 := by
  simp only [evidence, hterminal, htitle, Evidence.exact, Finding.exact, Finding.once,
    Bool.false_eq_true, if_false, List.foldl_cons, List.foldl_nil]
  omega

end Activity

namespace Digraph

theorem not_declaresGraph_brace (s : Text) : declaresGraph ('\x7b' :: s) = false := rfl

theorem exact_evidence_le {text : Text} (h : declaresGraph (Text.trim text) = false) :
    (evidence text).exact ≤ 80 := by
  simp only [evidence, h, Evidence.exact, Finding.exact, Finding.once,
    Bool.false_eq_true, if_false, List.foldl_cons, List.foldl_nil]
  omega

end Digraph

namespace Record

theorem exists_fields_of_read {text : Text} {flow : Flow} (h : read text = .ok flow) :
    ∃ fields, Json.read (Text.trim text) = .ok (.obj fields) ∧ check fields = .ok () := by
  unfold read at h
  split at h
  · cases h
  · rename_i value hvalue
    unfold ofJson at h
    split at h
    · rename_i fields
      split at h
      · cases h
      · rename_i hcheck
        exact ⟨fields, hvalue, hcheck⟩
    · cases h

theorem coreWeight_of_check {fields : Fields} (h : check fields = .ok ()) :
    coreWeight fields = 90 := by
  obtain ⟨id, start, checked, hchecked⟩ := exists_checked h
  obtain ⟨values, hvalues, -⟩ := hchecked.wired
  simp only [coreWeight, hchecked.named, hchecked.started, hvalues, Json.items?, Option.isSome_some,
    Bool.and_self, if_true]

theorem le_exact_evidence {text : Text} {fields : Fields}
    (hread : Json.read (Text.trim text) = .ok (.obj fields)) (hcheck : check fields = .ok ()) :
    90 ≤ (evidence text).exact := by
  obtain ⟨hhead, hlast⟩ := Json.braces_of_read hread (Text.trim_trim text)
  simp only [evidence, hhead, hlast, hread, beq_self_eq_true, Bool.and_self, if_true,
    fieldEvidence, coreWeight_of_check hcheck, Evidence.exact, Finding.exact, Finding.once,
    List.foldl_cons, List.foldl_nil]
  omega

theorem spans_of_object {text : Text} {fields : Fields}
    (h : Json.read (Text.trim text) = .ok (.obj fields)) :
    Json.Spans text [] ∧ Json.Opens text := by
  obtain ⟨before, after, htext, hbefore, hafter⟩ := Text.exists_trim text
  obtain ⟨hspans, hopens⟩ := Json.spans_of_read h
  have hend : Json.Spans after [] ∧ Json.Opens after := by
    simpa using Json.spans_blanks hafter .nil
  have hmiddle : Json.Spans (Text.trim text ++ after) after := hspans.append hend.2
  obtain ⟨hstart, htextOpens⟩ := Json.spans_blanks hbefore (hopens.append hend.2)
  rw [← htext] at hstart htextOpens
  exact ⟨hstart.trans (hmiddle.trans hend.1), htextOpens⟩

theorem no_front_of_object {text : Text} {fields : Fields}
    (h : Json.read (Text.trim text) = .ok (.obj fields)) : Chart.hasFront text = false := by
  have hhead : ∀ rest, text ≠ '-' :: rest := by
    rintro rest rfl
    obtain ⟨before, after, htext, hbefore, -⟩ := Text.exists_trim ('-' :: rest)
    obtain ⟨hopening, -⟩ := Json.braces_of_read h (Text.trim_trim _)
    cases before with
    | nil =>
        cases htrim : Text.trim ('-' :: rest) with
        | nil => simp [htrim] at hopening
        | cons c trimmed =>
            rw [htrim] at hopening htext
            cases hopening
            cases htext
    | cons c before =>
        obtain ⟨rfl, -⟩ := List.cons.inj htext
        exact absurd (hbefore '-' List.mem_cons_self) (by decide)
  rw [Chart.hasFront, Bool.and_eq_false_iff]
  left
  cases hdashes : Text.after? "---".toList text with
  | none => rw [Text.startsWith, hdashes, Option.isSome_none]
  | some rest => exact absurd (Text.eq_append_of_after? hdashes) (hhead _)

/-- Whatever diagrams the strings of a record hold, it scores low as one of them. -/
theorem exact_scores {text : Text} {fields : Fields}
    (h : Json.read (Text.trim text) = .ok (.obj fields)) :
    (Digraph.evidence text).exact ≤ 80 ∧ (Chart.evidence text).exact ≤ 80 ∧
      (Activity.evidence text).exact ≤ 80 := by
  obtain ⟨hspans, hopens⟩ := spans_of_object h
  obtain ⟨htrimmed, htrimmedOpens⟩ := Json.spans_of_read h
  refine ⟨Digraph.exact_evidence_le ?_, Chart.exact_evidence_le ?_ (no_front_of_object h),
    Activity.exact_evidence_le ?_ ?_⟩
  · obtain ⟨hhead, -⟩ := Json.braces_of_read h (Text.trim_trim text)
    cases htrim : Text.trim text with
    | nil => simp [htrim] at hhead
    | cons c s =>
        rw [htrim] at hhead
        cases hhead
        exact Digraph.not_declaresGraph_brace s
  · exact hspans.no_line_start
      (fun t ht => Bool.eq_false_iff.2 fun hheader => Chart.not_opens_header hheader ht) hopens
  · rw [List.any_eq_false]
    intro line hline hword
    obtain ⟨more, hmore⟩ := htrimmed.opens_split htrimmedOpens line hline
    exact Activity.not_opens_terminal (by simpa using hword) more hmore
  · exact htrimmed.no_line_start
      (fun t ht => Bool.eq_false_iff.2 fun htitle => Activity.not_opens_title htitle ht)
      htrimmedOpens

end Record

namespace Catalog

theorem detect_exact {text : Text} (hblank : ¬Blank text)
    (hrecord : 90 ≤ (Record.evidence text).exact) (hdigraph : (Digraph.evidence text).exact ≤ 80)
    (hchart : (Chart.evidence text).exact ≤ 80) (hactivity : (Activity.evidence text).exact ≤ 80) :
    exact.detect text = .found "json".toList (Record.evidence text).exact := by
  have hlower : ∀ {score : Nat}, score ≤ 80 → ∀ lower, some score = some lower →
      lower < (Record.evidence text).exact := by
    rintro score hscore lower ⟨⟩
    omega
  have hwins : exact.Wins text (exact.entries.take 3)
      ⟨Format.record.rescored fun text => (Record.evidence text).exact, some builtinSource⟩ []
      (Record.evidence text).exact :=
    { entries := rfl
      scored := rfl
      clear := show 30 < _ by omega
      above := List.forall_mem_cons.2 ⟨hlower hdigraph, List.forall_mem_cons.2
        ⟨hlower hchart, List.forall_mem_singleton.2 (hlower hactivity)⟩⟩
      highest := by simp }
  exact hwins.detect hblank

/-- Every text that is read as a record is detected as one, whatever its strings hold: the scores
are far apart, so reading it by its detected format is reading it as a record. -/
theorem detect_record {text : Text} {flow : Flow} (h : Record.read text = .ok flow) :
    90 ≤ (Record.evidence text).exact ∧ (Digraph.evidence text).exact ≤ 80 ∧
      (Chart.evidence text).exact ≤ 80 ∧ (Activity.evidence text).exact ≤ 80 ∧
      exact.detect text = .found "json".toList (Record.evidence text).exact ∧
      exact.parse text = exact.parseAs "json".toList text := by
  obtain ⟨fields, hfields, hcheck⟩ := Record.exists_fields_of_read h
  have hrecord := Record.le_exact_evidence hfields hcheck
  obtain ⟨hdigraph, hchart, hactivity⟩ := Record.exact_scores hfields
  have hblank : ¬Blank text := by
    rw [← Text.trim_isEmpty_iff]
    obtain ⟨hhead, -⟩ := Json.braces_of_read hfields (Text.trim_trim text)
    cases htrim : Text.trim text with
    | nil => simp [htrim] at hhead
    | cons c s => simp
  have hdetect := detect_exact hblank hrecord hdigraph hchart hactivity
  have hread : exact.read "json".toList text = .ok flow := Except.mapError_eq_ok_iff.2 h
  refine ⟨hrecord, hdigraph, hchart, hactivity, hdetect, ?_⟩
  have hid : (exact.detect text).id? = some "json".toList := by
    rw [hdetect]
    rfl
  rw [parse, hid]
  simp only [parseDetected, parseAs, hread]

/-- A record whose strings hold the lines of diagrams in three notations. -/
theorem detect_record_diagrams :
    ∃ text flow, Record.read text = .ok flow ∧ 90 ≤ (Record.evidence text).exact ∧
      (Digraph.evidence text).exact ≤ 80 ∧ (Chart.evidence text).exact ≤ 80 ∧
      (Activity.evidence text).exact ≤ 80 ∧
      exact.detect text = .found "json".toList (Record.evidence text).exact ∧
      exact.parse text = exact.parseAs "json".toList text := by
  let text := ("\n\x7b\"id\": \"digraph G \x7b\u2028a -- b\u2028\x7d\", \"startNodeId\": \"a\",\n" ++
    "\"nodes\": [\x7b\"id\": \"a\", \"title\": \"@startuml\u2028start\u2028:b;\u2028stop\"\x7d],\n" ++
    "\"title\": \"\u2028graph TD\u2028a[b] --> c[d]\u2028%%\"\x7d\n").toList
  have hread : (Record.read text).toOption.isSome = true := by decide +kernel
  cases hflow : Record.read text with
  | error fault => simp [hflow, Except.toOption] at hread
  | ok flow => exact ⟨text, flow, hflow, detect_record hflow⟩

end Catalog

end Flowchart
