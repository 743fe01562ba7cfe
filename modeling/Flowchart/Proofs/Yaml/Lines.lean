import Flowchart.Proofs.Json.Strings
import Flowchart.Proofs.Text.Lines
import Flowchart.Yaml.Writer
import Mathlib.Data.List.SplitBy

/-!
# Lines of written YAML

Behind each line break of a written mapping stands a blank, another break or a single dash.  So no
line but the first can be taken for the end of a document.
-/

namespace Flowchart.Yaml

/-- Something begins here that is not two dashes. -/
def Opened (s : Text) : Prop :=
  ∃ c rest, s = c :: rest ∧ (c = '-' → ∃ d more, rest = d :: more ∧ d ≠ '-')

def Sheltered : Text → Prop
  | [] => True
  | c :: s => (Text.isBreak c = true → Opened s) ∧ Sheltered s

theorem opened_cons {c : Char} (h : c ≠ '-') (rest : Text) : Opened (c :: rest) :=
  ⟨c, rest, rfl, fun heq => absurd heq h⟩

theorem Opened.append {s : Text} (h : Opened s) (t : Text) : Opened (s ++ t) := by
  obtain ⟨c, rest, rfl, hdash⟩ := h
  refine ⟨c, rest ++ t, rfl, fun heq => ?_⟩
  obtain ⟨d, more, rfl, hne⟩ := hdash heq
  exact ⟨d, more ++ t, rfl, hne⟩

theorem Opened.not_dashes {s : Text} (h : Opened s) : ¬ "---".toList <+: s := by
  rintro ⟨rest, rfl⟩
  obtain ⟨c, rest', heq, hdash⟩ := h
  obtain ⟨rfl, hrest⟩ := List.cons.inj heq
  obtain ⟨d, more, rfl, hne⟩ := hdash rfl
  exact hne (List.cons.inj hrest).1.symm

theorem Sheltered.append {s t : Text} (hs : Sheltered s) (ht : Sheltered t) :
    Sheltered (s ++ t) := by
  induction s with
  | nil => exact ht
  | cons c s ih => exact ⟨fun h => (hs.1 h).append t, ih hs.2⟩

theorem sheltered_cons {c : Char} {s : Text} (hc : Text.isBreak c = false) (hs : Sheltered s) :
    Sheltered (c :: s) :=
  ⟨fun h => absurd h (by simp [hc]), hs⟩

theorem sheltered_of_unbroken {s : Text} (h : ∀ c ∈ s, Text.isBreak c = false) : Sheltered s := by
  induction s with
  | nil => exact trivial
  | cons c s ih =>
      obtain ⟨hc, hs⟩ := List.forall_mem_cons.1 h
      exact sheltered_cons hc (ih hs)

theorem Sheltered.not_dashes {before after : Text} {c : Char} (h : Sheltered (before ++ c :: after))
    (hc : Text.isBreak c = true) : ¬ "---".toList <+: after := by
  induction before with
  | nil => exact (h.1 hc).not_dashes
  | cons d before ih => exact ih h.2

theorem replicate_unbroken (n : Nat) {c : Char} (h : Text.isBreak c = false) :
    ∀ d ∈ List.replicate n c, Text.isBreak d = false := by
  intro d hd
  rwa [List.eq_of_mem_replicate hd]

theorem spaces_unbroken (n : Nat) : ∀ c ∈ Text.spaces n, Text.isBreak c = false :=
  replicate_unbroken n (by decide)

theorem opened_spaces {indent : Nat} (h : 0 < indent) (rest : Text) :
    Opened (Text.spaces indent ++ rest) := by
  obtain ⟨n, rfl⟩ := Nat.exists_eq_succ_of_ne_zero h.ne'
  exact opened_cons (by decide) _

theorem sheltered_breakAt_append (indent : Nat) {rest : Text} (hopened : Opened rest)
    (hrest : Sheltered rest) : Sheltered (breakAt indent ++ rest) := by
  refine ⟨fun _ => ?_, (sheltered_of_unbroken (spaces_unbroken indent)).append hrest⟩
  rcases Nat.eq_zero_or_pos indent with rfl | hpos
  · exact hopened
  · exact opened_spaces hpos rest

theorem sheltered_breakAt {indent : Nat} (h : 0 < indent) : Sheltered (breakAt indent) := by
  have hopened := opened_spaces h []
  rw [List.append_nil] at hopened
  exact ⟨fun _ => hopened, sheltered_of_unbroken (spaces_unbroken indent)⟩

theorem isWrittenBreak_or_isSpecial {c : Char} (h : Text.isBreak c = true) :
    isWrittenBreak c = true ∨ isSpecial c = true := by
  have heq : ∀ d : Char, c = d ↔ c.toNat = d.toNat := fun d => Char.toNat_inj.symm
  simp only [Text.isBreak, isWrittenBreak, isSpecial, Bool.or_eq_true, Bool.and_eq_true,
    Bool.not_eq_true', Bool.or_eq_false_iff, Bool.and_eq_false_iff, decide_eq_true_eq,
    decide_eq_false_iff_not, beq_iff_eq, beq_eq_false_iff_ne, ne_eq, heq, Char.reduceToNat] at h ⊢
  omega

theorem isBreak_of_isWrittenBreak {c : Char} (h : isWrittenBreak c = true) :
    Text.isBreak c = true ∧ c ≠ '-' := by
  simp only [isWrittenBreak, Bool.or_eq_true, beq_iff_eq] at h
  rcases h with ((rfl | rfl) | rfl) | rfl <;> decide

theorem runKind_of_mem_runs {s run : Text} (h : run ∈ runs s) :
    ∃ c rest, run = c :: rest ∧ ∀ d ∈ run, runKind d = runKind c ∧ d ∈ s := by
  obtain ⟨c, rest, rfl⟩ := List.exists_cons_of_ne_nil (List.ne_nil_of_mem_splitBy h)
  have hchain := List.isChain_of_mem_splitBy h
  have hmem : ∀ d ∈ c :: rest, d ∈ s := fun d hd => by
    rw [← List.flatten_splitBy (fun a b => runKind a == runKind b) s]
    exact List.mem_flatten.2 ⟨_, h, hd⟩
  have hkinds : (c :: rest).Pairwise fun a b => runKind a = runKind b := by
    have : Trans (fun a b : Char => runKind a = runKind b) (fun a b => runKind a = runKind b)
        (fun a b => runKind a = runKind b) := ⟨fun h₁ h₂ => h₁.trans h₂⟩
    exact List.isChain_iff_pairwise.1 (hchain.imp fun a b hab => by simpa using hab)
  refine ⟨c, rest, rfl, fun d hd => ⟨?_, hmem d hd⟩⟩
  rcases List.mem_cons.1 hd with rfl | hd
  · rfl
  · exact (List.rel_of_pairwise_cons hkinds hd).symm

section Written

variable {indent : Nat} (hindent : 0 < indent)

include hindent

theorem sheltered_writtenBreaks {run : Text} (h : ∀ c ∈ run, isWrittenBreak c = true) :
    Sheltered (writtenBreaks indent run) := by
  have hrun : Sheltered (run ++ Text.spaces indent) ∧ Opened (run ++ Text.spaces indent) := by
    induction run with
    | nil =>
        have hopened := opened_spaces hindent []
        rw [List.append_nil] at hopened
        exact ⟨sheltered_of_unbroken (spaces_unbroken indent), hopened⟩
    | cons c run ih =>
        obtain ⟨hc, hrun⟩ := List.forall_mem_cons.1 h
        obtain ⟨hsheltered, hopened⟩ := ih hrun
        exact ⟨⟨fun _ => hopened, hsheltered⟩, opened_cons (isBreak_of_isWrittenBreak hc).2 _⟩
  unfold writtenBreaks
  split
  · exact ⟨fun _ => hrun.2, hrun.1⟩
  · exact hrun.1

theorem sheltered_writePlain (fold : Bool) (column : Nat) {pieces : List Text}
    (h : ∀ run ∈ pieces, ∀ c ∈ run, Text.isBreak c = false) :
    Sheltered (writePlain fold indent column pieces) := by
  induction pieces generalizing column with
  | nil => exact trivial
  | cons run pieces ih =>
      obtain ⟨hrun, hpieces⟩ := List.forall_mem_cons.1 h
      unfold writePlain
      split
      · exact (sheltered_breakAt hindent).append (ih indent hpieces)
      · exact (sheltered_of_unbroken hrun).append (ih _ hpieces)

/-- A run of one kind, none of whose characters needs an escape. -/
def Kept (run : Text) : Prop :=
  ∃ c rest, run = c :: rest ∧ ∀ d ∈ run, runKind d = runKind c ∧ isSpecial d = false

theorem sheltered_writeRuns (fold : Bool) (column : Nat) (first : Bool) {pieces : List Text}
    (h : ∀ run ∈ pieces, Kept run) : Sheltered (writeRuns fold indent column first pieces) := by
  induction pieces generalizing column first with
  | nil => exact trivial
  | cons run pieces ih =>
      obtain ⟨⟨c, rest, rfl, hkept⟩, hpieces⟩ := List.forall_mem_cons.1 h
      have hhead : (c :: rest).head?.map runKind = some (runKind c) := rfl
      have hbreaks : ∀ d, runKind d = .breaks ↔ isSpace d = false ∧ isWrittenBreak d = true := by
        intro d
        unfold runKind
        cases isSpace d <;> cases isWrittenBreak d <;> decide
      -- Other breaks than the written ones are special, and special characters are not kept.
      have hunbroken : runKind c ≠ .breaks → ∀ d ∈ c :: rest, Text.isBreak d = false := by
        intro hc d hd
        obtain ⟨hkind, hspecial⟩ := hkept d hd
        cases hbreak : Text.isBreak d with
        | false => rfl
        | true =>
            have hwritten := (isWrittenBreak_or_isSpecial hbreak).resolve_right (by simp [hspecial])
            have hspace : isSpace d = false := by
              cases hd : isSpace d with
              | false => rfl
              | true =>
                  rw [eq_of_beq hd] at hbreak
                  cases hbreak
            exact absurd (hkind ▸ (hbreaks d).2 ⟨hspace, hwritten⟩) hc
      unfold writeRuns
      rw [hhead]
      cases hkind : runKind c with
      | breaks =>
          have hall : ∀ d ∈ c :: rest, isWrittenBreak d = true := fun d hd =>
            ((hbreaks d).1 (((hkept d hd).1).trans hkind)).2
          exact (sheltered_writtenBreaks hindent hall).append (ih indent false hpieces)
      | spaces =>
          dsimp only
          split
          · exact (sheltered_breakAt hindent).append (ih indent false hpieces)
          · exact (sheltered_of_unbroken (hunbroken (by simp [hkind]))).append (ih _ false hpieces)
      | word =>
          have hword := hunbroken (by simp [hkind])
          refine (sheltered_of_unbroken fun d hd => ?_).append (ih _ false hpieces)
          obtain ⟨e, he, hde⟩ := List.mem_flatMap.1 hd
          split at hde
          · have hquotes : ∀ d ∈ "''".toList, Text.isBreak d = false := by decide
            exact hquotes d hde
          · rw [List.mem_singleton.1 hde]
            exact hword e he

end Written

theorem exists_digit_of_mem_toDigits {base n : Nat} (hbase : 1 < base) {c : Char}
    (h : c ∈ Nat.toDigits base n) : ∃ d < base, c = Nat.digitChar d := by
  induction n using Nat.strongRecOn with
  | _ n ih =>
      rw [Nat.toDigits_eq_if hbase] at h
      split at h
      · exact ⟨n, ‹_›, List.mem_singleton.1 h⟩
      · rename_i hlarge
        rcases List.mem_append.1 h with h | h
        · exact ih (n / base) (Nat.div_lt_self (by omega) hbase) h
        · exact ⟨n % base, Nat.mod_lt n (by omega), List.mem_singleton.1 h⟩

theorem upperHex_unbroken (width n : Nat) : ∀ c ∈ upperHex width n, Text.isBreak c = false := by
  intro c hc
  obtain ⟨d, hd, rfl⟩ := List.mem_map.1 hc
  have hdigits : ∀ d < 16, Text.isBreak (Nat.digitChar d).toUpper = false := by decide
  rcases List.mem_append.1 hd with hd | hd
  · rw [List.eq_of_mem_replicate hd]
    decide
  · obtain ⟨k, hk, rfl⟩ := exists_digit_of_mem_toDigits (by decide) hd
    exact hdigits k hk

theorem unbroken_of_subset {s : Text} (h : s ⊆ Json.numeralChars) :
    ∀ c ∈ s, Text.isBreak c = false := by
  have hall : ∀ c ∈ Json.numeralChars, Text.isBreak c = false := by decide
  exact fun c hc => hall c (h hc)

theorem writeFloat_unbroken (x : Binary64) : ∀ c ∈ writeFloat x, Text.isBreak c = false := by
  have htext : ∀ c ∈ x.toText ⟨".nan".toList, ".inf".toList, -4, 16⟩, Text.isBreak c = false := by
    unfold Binary64.toText
    split
    · decide
    · refine List.forall_mem_append.2 ⟨?_, ?_⟩
      · split <;> decide
      · split
        · decide
        · exact unbroken_of_subset (Json.finiteText_subset _ x)
  unfold writeFloat
  dsimp only
  split
  · exact htext
  · intro c hc
    obtain ⟨d, hd, hcd⟩ := List.mem_flatMap.1 hc
    split at hcd
    · have hpoint : ∀ c ∈ ".0e".toList, Text.isBreak c = false := by decide
      exact hpoint c hcd
    · exact List.mem_singleton.1 hcd ▸ htext d hd

theorem escapeDouble_unbroken (c : Char) : ∀ d ∈ escapeDouble c, Text.isBreak d = false := by
  have hletters : ∀ letter, escapeLetter? c = some letter → Text.isBreak letter = false := by
    intro letter h
    unfold escapeLetter? at h
    split at h <;> cases h <;> decide
  have hmarks : ∀ mark ∈ ["\\x".toList, "\\u".toList, "\\U".toList],
      ∀ d ∈ mark, Text.isBreak d = false := by decide
  intro d hd
  unfold escapeDouble at hd
  split at hd
  · rename_i letter hletter
    simp only [List.mem_cons, List.not_mem_nil, or_false] at hd
    rcases hd with rfl | rfl
    · decide
    · exact hletters _ hletter
  · split at hd
    · rcases List.mem_append.1 hd with hd | hd
      · exact hmarks _ (by decide) d hd
      · exact upperHex_unbroken 2 _ d hd
    · split at hd
      · rcases List.mem_append.1 hd with hd | hd
        · exact hmarks _ (by decide) d hd
        · exact upperHex_unbroken 4 _ d hd
      · rcases List.mem_append.1 hd with hd | hd
        · exact hmarks _ (by decide) d hd
        · exact upperHex_unbroken 8 _ d hd

theorem not_break_of_standsInDouble {c : Char} (h : standsInDouble c = true) :
    Text.isBreak c = false := by
  cases hbreak : Text.isBreak c with
  | false => rfl
  | true =>
      simp only [standsInDouble, Text.isBreak, Bool.or_eq_true, Bool.and_eq_true,
        decide_eq_true_eq, beq_iff_eq, bne_iff_ne, ne_eq] at h hbreak
      omega

section Texts

variable {indent : Nat} (hindent : 0 < indent)

include hindent

theorem sheltered_doubleBreak (next : Option Char) : Sheltered (doubleBreak indent next) := by
  refine sheltered_cons (by decide) ((sheltered_breakAt hindent).append ?_)
  split
  · exact sheltered_cons (by decide) trivial
  · exact trivial

theorem sheltered_writeDouble (fold first : Bool) (column : Nat) {pending : Text} (s : Text)
    (hpending : ∀ c ∈ pending, Text.isBreak c = false) :
    Sheltered (writeDouble fold indent first column pending s) := by
  induction s generalizing first column pending with
  | nil => exact sheltered_of_unbroken hpending
  | cons c s ih =>
      have hnone : ∀ c ∈ ([] : Text), Text.isBreak c = false := List.forall_mem_nil _
      unfold writeDouble
      dsimp only
      split
      · have hc := not_break_of_standsInDouble ‹_›
        split
        · exact ((sheltered_of_unbroken hpending).append (sheltered_doubleBreak hindent _)).append
            (ih false _ (List.forall_mem_singleton.2 hc))
        · exact ih false column
            (List.forall_mem_append.2 ⟨hpending, List.forall_mem_singleton.2 hc⟩)
      · have hwritten : Sheltered (pending ++ escapeDouble c) :=
          sheltered_of_unbroken (List.forall_mem_append.2 ⟨hpending, escapeDouble_unbroken c⟩)
        split
        · exact (hwritten.append (sheltered_doubleBreak hindent _)).append (ih false _ hnone)
        · exact hwritten.append (ih false _ hnone)

theorem sheltered_writeText (key : Bool) (column : Nat) (s : Text) :
    Sheltered (writeText key indent column s) := by
  unfold writeText
  cases hstyle : styleOf key s with
  | plain =>
      apply sheltered_writePlain hindent
      intro run hrun c hc
      obtain ⟨d, rest, rfl, hall⟩ := runKind_of_mem_runs hrun
      have hplain : allowsPlain s = true := by
        unfold styleOf at hstyle
        split at hstyle
        · exact (Bool.and_eq_true_iff.1 ‹_›).2
        · split at hstyle <;> cases hstyle
      simp only [allowsPlain, Bool.and_eq_true, Bool.not_eq_true', List.any_eq_false] at hplain
      cases hbreak : Text.isBreak c with
      | false => rfl
      | true =>
          rcases isWrittenBreak_or_isSpecial hbreak with hwritten | hspecial
          · exact absurd hwritten (hplain.1.1.1.2 c (hall c hc).2)
          · exact absurd hspecial (hplain.2 c (hall c hc).2)
  | single =>
      have hsingle : allowsSingle s = true := by
        unfold styleOf at hstyle
        split at hstyle
        · cases hstyle
        · split at hstyle
          · exact (Bool.and_eq_true_iff.1 ‹_›).1
          · cases hstyle
      simp only [allowsSingle, Bool.and_eq_true, Bool.not_eq_true', List.any_eq_false] at hsingle
      have hruns : Sheltered (writeRuns (!key) indent (column + 1) true (runs s)) := by
        apply sheltered_writeRuns hindent
        intro run hrun
        obtain ⟨d, rest, rfl, hall⟩ := runKind_of_mem_runs hrun
        exact ⟨d, rest, rfl, fun c hc =>
          ⟨(hall c hc).1, by simpa using hsingle.1.1 c (hall c hc).2⟩⟩
      exact (sheltered_cons (by decide) hruns).append (sheltered_cons (by decide) trivial)
  | double =>
      have hdouble := sheltered_writeDouble hindent (!key) true (column + 1) s
        (List.forall_mem_nil _)
      exact (sheltered_cons (by decide) hdouble).append (sheltered_cons (by decide) trivial)

theorem sheltered_writeScalar (column : Nat) (value : Json) :
    Sheltered (writeScalar indent column value) := by
  have hwords : ∀ word ∈ ["null".toList, "true".toList, "false".toList, "[]".toList,
      "\x7b\x7d".toList], ∀ c ∈ word, Text.isBreak c = false := by decide
  cases value with
  | null => exact sheltered_of_unbroken (hwords _ (by simp [writeScalar]))
  | bool b => exact sheltered_of_unbroken (hwords _ (by cases b <;> simp [writeScalar]))
  | int n => exact sheltered_of_unbroken (unbroken_of_subset (Json.ofInt_subset n))
  | float x => exact sheltered_of_unbroken (writeFloat_unbroken x)
  | str s => exact sheltered_writeText hindent false column s
  | arr items => exact sheltered_of_unbroken (hwords _ (by simp [writeScalar]))
  | obj fields => exact sheltered_of_unbroken (hwords _ (by simp [writeScalar]))

end Texts

theorem opened_writeItems {indent : Nat} (item : Json) (items : List Json) :
    Opened (writeItems indent (item :: items)) := by
  have hitem : ∃ rest, writeItem indent item = ' ' :: rest := by
    unfold writeItem
    split <;> exact ⟨_, rfl⟩
  obtain ⟨rest, hrest⟩ := hitem
  rw [writeItems, hrest]
  exact ⟨'-', _, rfl, fun _ => ⟨' ', _, rfl, by decide⟩⟩

mutual

theorem sheltered_writeValue (indent column : Nat) :
    ∀ value : Json, Sheltered (writeValue indent column value)
  | .null | .bool _ | .int _ | .float _ | .str _ | .arr [] | .obj [] =>
      sheltered_cons (by decide) (sheltered_writeScalar (Nat.succ_pos _) column _)
  | .arr (item :: items) =>
      sheltered_breakAt_append indent (opened_writeItems item items)
        (sheltered_writeItems indent (item :: items))
  | .obj (field :: fields) =>
      (sheltered_breakAt (Nat.succ_pos _)).append
        (sheltered_writeFields (Nat.succ_pos _) (field :: fields))

theorem sheltered_writeItem (indent : Nat) : ∀ value : Json, Sheltered (writeItem indent value)
  | .null | .bool _ | .int _ | .float _ | .str _ | .arr [] | .obj [] =>
      sheltered_cons (by decide) (sheltered_writeScalar (Nat.succ_pos _) _ _)
  | .arr (item :: items) =>
      sheltered_cons (by decide) (sheltered_writeItems (indent + 2) (item :: items))
  | .obj (field :: fields) =>
      sheltered_cons (by decide) (sheltered_writeFields (Nat.succ_pos _) (field :: fields))

theorem sheltered_writeItems (indent : Nat) :
    ∀ items : List Json, Sheltered (writeItems indent items)
  | [] => trivial
  | [item] => by
      rw [writeItems]
      exact sheltered_cons (by decide) ((sheltered_writeItem indent item).append trivial)
  | item :: next :: items => by
      rw [writeItems]
      exact sheltered_cons (by decide) ((sheltered_writeItem indent item).append
        (sheltered_breakAt_append indent (opened_writeItems next items)
          (sheltered_writeItems indent (next :: items))))

theorem sheltered_writeFields {indent : Nat} (hindent : 0 < indent) :
    ∀ fields : Fields, Sheltered (writeFields indent fields)
  | [] => trivial
  | (key, value) :: fields => by
      rw [writeFields]
      refine Sheltered.append ?_ ?_
      · split
        · exact (sheltered_writeText hindent true indent key).append
            (sheltered_cons (by decide) (sheltered_writeValue indent _ value))
        · exact sheltered_cons (by decide) (sheltered_cons (by decide)
            (((sheltered_writeText (Nat.succ_pos _) false _ key).append
              (sheltered_breakAt hindent)).append
                (sheltered_cons (by decide) (sheltered_writeItem indent value))))
      · split
        · exact trivial
        · exact (sheltered_breakAt hindent).append (sheltered_writeFields hindent fields)

end

theorem sheltered_write {fields : Fields}
    (h : ∀ field ∈ fields, isShortKey field.1 = true ∧ Opened (writeText true 0 0 field.1) ∧
      Sheltered (writeText true 0 0 field.1)) : Sheltered (write fields) := by
  unfold write
  induction fields with
  | nil => exact trivial
  | cons field fields ih =>
      obtain ⟨key, value⟩ := field
      obtain ⟨⟨hshort, -, hkey⟩, hfields⟩ := List.forall_mem_cons.1 h
      rw [writeFields, if_pos hshort]
      refine (hkey.append (sheltered_cons (by decide) (sheltered_writeValue 0 _ value))).append ?_
      cases fields with
      | nil => exact trivial
      | cons next fields =>
          obtain ⟨⟨hnext, hopened, -⟩, -⟩ := List.forall_mem_cons.1 hfields
          refine sheltered_breakAt_append 0 ?_ (ih hfields)
          rw [writeFields, if_pos hnext, List.append_assoc]
          exact hopened.append _

end Flowchart.Yaml
