import Flowchart.Proofs.Activity.Framing
import Flowchart.Proofs.Caption
import Flowchart.Proofs.Reference

/-!
# Asides

Comments, directives and notes between the lines of a script say nothing: the script is the same
without them.  A block comment counts wherever it begins, so what a line is shows once its block
comments are gone, and none of them may reach beyond the line.
-/

namespace Flowchart.Text

theorem startsWith_iff {s part : Text} : startsWith s part = true ↔ part <+: s := by
  rw [startsWith, Option.isSome_iff_exists]
  constructor
  · rintro ⟨rest, h⟩
    exact ⟨rest, (eq_append_of_after? h).symm⟩
  · rintro ⟨rest, rfl⟩
    exact ⟨rest, after?_append part rest⟩

theorem startsWith_append {s part : Text} (h : part.length ≤ s.length) (rest : Text) :
    startsWith (s ++ rest) part = startsWith s part := by
  rw [Bool.eq_iff_iff, startsWith_iff, startsWith_iff]
  constructor
  · exact fun hprefix => List.prefix_of_prefix_length_le hprefix (List.prefix_append s rest) h
  · exact fun hprefix => hprefix.trans (List.prefix_append s rest)

theorem startsWith_append_of_not_mem {part : Text} {c : Char} (h : c ∉ part) (s rest : Text) :
    startsWith (s ++ c :: rest) part = startsWith s part := by
  rw [Bool.eq_iff_iff, startsWith_iff, startsWith_iff]
  refine ⟨fun hprefix => ?_, fun hprefix => hprefix.trans (List.prefix_append _ _)⟩
  rcases List.prefix_or_prefix_of_prefix hprefix (List.prefix_append s (c :: rest)) with hs | ⟨t, rfl⟩
  · exact hs
  · cases t with
    | nil => exact ⟨[], by simp⟩
    | cons d t =>
        have hhead := (List.prefix_append_right_inj s).1 hprefix
        obtain ⟨rfl, -⟩ := List.cons_prefix_cons.1 hhead
        exact absurd (List.mem_append_right s List.mem_cons_self) h

theorem indexOf?_append {part s : Text} {n : Nat} (h : indexOf? part s = some n) (rest : Text) :
    n + part.length ≤ s.length ∧ indexOf? part (s ++ rest) = some n := by
  induction s generalizing n with
  | nil =>
      cases part with
      | nil =>
          obtain rfl : 0 = n := by simpa [indexOf?] using h
          cases rest <;> simp [indexOf?, startsWith]
      | cons c part => simp [indexOf?] at h
  | cons c s ih =>
      rw [List.cons_append, indexOf?, ← List.cons_append]
      rw [indexOf?] at h
      cases hstarts : startsWith (c :: s) part with
      | true =>
          obtain rfl : 0 = n := by simpa [hstarts] using h
          have hfits : part.length ≤ (c :: s).length := (startsWith_iff.1 hstarts).length_le
          rw [startsWith_append hfits, hstarts]
          exact ⟨by simpa using hfits, rfl⟩
      | false =>
          obtain ⟨k, hk, rfl⟩ : ∃ k, indexOf? part s = some k ∧ k + 1 = n := by
            simpa [hstarts] using h
          obtain ⟨hfits, hfound⟩ := ih hk
          have hlonger : part.length ≤ (c :: s).length := by
            rw [List.length_cons]
            omega
          rw [startsWith_append hlonger, hstarts, hfound, List.length_cons]
          exact ⟨by omega, rfl⟩

theorem exists_lines_append (s rest : Text) :
    ∃ n, lines (s ++ '\n' :: rest) = lines s ++ (List.replicate n [] ++ lines rest) := by
  induction s using lines.induct with
  | case1 => exact ⟨1, rfl⟩
  | case2 s ih =>
      obtain ⟨n, hn⟩ := ih
      exact ⟨n, congrArg ([] :: ·) hn⟩
  | case3 c s hreturn hc ih =>
      obtain ⟨n, hn⟩ := ih
      rw [lines.eq_3 c s hreturn, if_pos hc]
      cases s with
      | nil =>
          -- A carriage return at the end of `s` and the line feed behind it are one break.
          by_cases hc' : c = '\r'
          · subst hc'
            exact ⟨0, rfl⟩
          · refine ⟨1, ?_⟩
            have : ∀ t, c = '\r' → '\n' :: rest = '\n' :: t → False := fun _ heq _ => hc' heq
            rw [List.cons_append, List.nil_append, lines.eq_3 c _ this, if_pos hc]
            rfl
      | cons d s =>
          refine ⟨n, ?_⟩
          have : ∀ t, c = '\r' → d :: s ++ '\n' :: rest = '\n' :: t → False := by
            rintro t rfl heq
            obtain ⟨rfl, -⟩ := List.cons.inj heq
            exact hreturn s rfl rfl
          rw [List.cons_append, lines.eq_3 c _ this, if_pos hc, hn]
          rfl
  | case4 c s hreturn hc hlines ih =>
      obtain rfl : s = [] := by
        by_contra hne
        exact lines_ne_nil hne hlines
      have hnot : isBreak c = false := by simpa using hc
      have hline : ∀ d ∈ [c], isBreak d = false := List.forall_mem_singleton.2 hnot
      refine ⟨0, ?_⟩
      rw [lines_append_newline hline, lines_of_no_break hline (List.cons_ne_nil c [])]
      rfl
  | case5 c s hreturn hc first more hlines ih =>
      obtain ⟨n, hn⟩ := ih
      refine ⟨n, ?_⟩
      have hnot : isBreak c = false := by simpa using hc
      rw [List.cons_append, lines_cons_of_not_break hnot, lines_cons_of_not_break hnot, hn, hlines]
      rfl

end Flowchart.Text

namespace Flowchart.Activity

/-- Whether a block comment begins in a text and does not end there. -/
def leavesOpen : Nat → Text → Bool
  | _, [] => false
  | skip + 1, _ :: s => leavesOpen skip s
  | 0, c :: s =>
    match blockComment? (c :: s) with
    | none => Text.startsWith (c :: s) "/'".toList || leavesOpen 0 s
    | some length => leavesOpen (length - 1) s

theorem blockComment?_eq_some_iff {s : Text} {n : Nat} :
    blockComment? s = some n ↔ ∃ inner k, s = "/'".toList ++ inner ∧
      Text.indexOf? "'/".toList inner = some k ∧ k + 4 = n := by
  have heq : blockComment? s = (Text.after? "/'".toList s).bind fun inner =>
      (Text.indexOf? "'/".toList inner).bind fun k => some (k + 4) := rfl
  rw [heq, Option.bind_eq_some_iff]
  constructor
  · rintro ⟨inner, hinner, h⟩
    obtain ⟨k, hk, hn⟩ := Option.bind_eq_some_iff.1 h
    exact ⟨inner, k, Text.eq_append_of_after? hinner, hk, Option.some.inj hn⟩
  · rintro ⟨inner, k, rfl, hk, rfl⟩
    exact ⟨inner, Text.after?_append _ _, Option.bind_eq_some_iff.2 ⟨k, hk, rfl⟩⟩

theorem blockComment?_eq_none {s : Text} (h : Text.startsWith s "/'".toList = false) :
    blockComment? s = none := by
  rw [Option.eq_none_iff_forall_not_mem]
  intro n hn
  obtain ⟨inner, k, rfl, -, -⟩ := blockComment?_eq_some_iff.1 hn
  rw [Text.startsWith_iff.2 (List.prefix_append _ _)] at h
  contradiction

theorem blockComment?_append {s : Text} {n : Nat} (h : blockComment? s = some n) (rest : Text) :
    n ≤ s.length ∧ blockComment? (s ++ rest) = some n := by
  obtain ⟨inner, k, rfl, hk, rfl⟩ := blockComment?_eq_some_iff.1 h
  obtain ⟨hfits, hfound⟩ := Text.indexOf?_append hk rest
  refine ⟨?_, blockComment?_eq_some_iff.2 ⟨inner ++ rest, k, List.append_assoc _ _ _, hfound, rfl⟩⟩
  rw [List.length_append]
  exact Nat.add_comm 2 inner.length ▸ Nat.add_le_add_right hfits 2

/-- A text in which every block comment ends leaves the next lines their own comments. -/
theorem substitute_append (skip : Nat) {s : Text} (hskip : skip ≤ s.length)
    (h : leavesOpen skip s = false) (rest : Text) :
    Text.substitute (fun s => (blockComment? s).map (·, [])) skip (s ++ '\n' :: rest) =
      Text.substitute (fun s => (blockComment? s).map (·, [])) skip s ++
        '\n' :: dropBlockComments rest := by
  -- On the text, with the characters still to be skipped: a comment may cover several of them.
  induction s generalizing skip with
  | nil =>
      obtain rfl : skip = 0 := by simpa using hskip
      exact Text.substitute_of_none rfl
  | cons c s ih =>
      cases skip with
      | succ skip => exact ih skip (by simpa using hskip) (by simpa [leavesOpen] using h)
      | zero =>
          rw [leavesOpen] at h
          cases hcomment : blockComment? (c :: s) with
          | none =>
              obtain ⟨hstarts, hrest⟩ : Text.startsWith (c :: s) "/'".toList = false ∧
                  leavesOpen 0 s = false := by
                simpa [hcomment] using h
              have hlonger : Text.startsWith (c :: s ++ '\n' :: rest) "/'".toList = false := by
                rw [Text.startsWith_append_of_not_mem (by decide), hstarts]
              rw [Text.substitute_of_none (by rw [hcomment]; rfl), List.cons_append,
                Text.substitute_of_none
                  (by rw [← List.cons_append, blockComment?_eq_none hlonger]; rfl),
                ih 0 (Nat.zero_le _) hrest]
              rfl
          | some n =>
              obtain ⟨hfits, hfound⟩ := blockComment?_append hcomment ('\n' :: rest)
              have hopen : leavesOpen (n - 1) s = false := by simpa [hcomment] using h
              have hle : n - 1 ≤ s.length := by
                rw [List.length_cons] at hfits
                omega
              rw [Text.substitute_of_some (by rw [hcomment]; rfl), List.cons_append,
                Text.substitute_of_some (by rw [← List.cons_append, hfound]; rfl), ih _ hle hopen]
              rfl

theorem leavesOpen_of_commentless {s : Text} (h : Commentless s) : leavesOpen 0 s = false := by
  induction s with
  | nil => rfl
  | cons c s ih =>
      have hstarts : Text.startsWith (c :: s) "/'".toList = false := by
        rw [Bool.eq_false_iff, ne_eq, Text.startsWith_iff]
        rintro ⟨rest, hrest⟩
        rw [← hrest] at h
        exact (List.isChain_cons_cons.1 h).1 rfl rfl
      rw [leavesOpen, blockComment?_eq_none hstarts, hstarts, ih (List.isChain_cons.1 h).2]
      rfl

theorem leavesOpen_skip (skipped rest : Text) :
    leavesOpen skipped.length (skipped ++ rest) = leavesOpen 0 rest := by
  induction skipped with
  | nil => rfl
  | cons c skipped ih => exact ih

theorem passed_append {s : Text} (h : '/' ∉ s) (rest : Text) :
    leavesOpen 0 (s ++ rest) = leavesOpen 0 rest ∧
      dropBlockComments (s ++ rest) = s ++ dropBlockComments rest := by
  induction s with
  | nil => exact ⟨rfl, rfl⟩
  | cons c s ih =>
      rw [List.mem_cons, not_or] at h
      have hstarts : Text.startsWith (c :: (s ++ rest)) "/'".toList = false := by
        simp [Text.startsWith, Text.after?, h.1]
      have hnone := blockComment?_eq_none hstarts
      obtain ⟨hopen, hdrop⟩ := ih h.2
      rw [List.cons_append, leavesOpen, hnone, hstarts, dropBlockComments,
        Text.substitute_of_none (by rw [hnone]; rfl)]
      exact ⟨hopen, congrArg (c :: ·) hdrop⟩

theorem indexOf?_closing {body : Text} (h : Text.occursIn "'/".toList body = false) (rest : Text) :
    Text.indexOf? "'/".toList (body ++ ("'/".toList ++ rest)) = some body.length := by
  induction body with
  | nil => rfl
  | cons c body ih =>
      rw [Text.occursIn, Bool.or_eq_false_iff] at h
      have hstarts : Text.startsWith (c :: (body ++ ("'/".toList ++ rest))) "'/".toList = false := by
        cases body with
        | nil =>
            by_cases hc : c = '\''
            · rw [hc]
              rfl
            · simp [Text.startsWith, Text.after?, Ne.symm hc]
        | cons d body =>
            exact (Text.startsWith_append (s := c :: d :: body) (by simp) _).trans h.1
      rw [List.cons_append, Text.indexOf?, hstarts, ih h.2]
      rfl

theorem passed_blockComment {body : Text} (h : Text.occursIn "'/".toList body = false)
    (rest : Text) :
    leavesOpen 0 ("/'".toList ++ (body ++ ("'/".toList ++ rest))) = leavesOpen 0 rest ∧
      dropBlockComments ("/'".toList ++ (body ++ ("'/".toList ++ rest))) =
        dropBlockComments rest := by
  let behind : Text := '\'' :: (body ++ "'/".toList)
  have htext : "/'".toList ++ (body ++ ("'/".toList ++ rest)) = '/' :: (behind ++ rest) := by
    simp [behind]
  have hcomment : blockComment? ('/' :: (behind ++ rest)) = some (behind.length + 1) := by
    rw [← htext, blockComment?_eq_some_iff]
    exact ⟨_, _, rfl, indexOf?_closing h rest, by simp [behind]⟩
  rw [htext, leavesOpen, hcomment, dropBlockComments,
    Text.substitute_of_some (by rw [hcomment]; rfl), Nat.add_sub_cancel]
  exact ⟨leavesOpen_skip behind rest, Text.substitute_skip behind rest⟩

def keptLines (s : Text) : List Text :=
  ((Text.lines (dropBlockComments s)).map Text.trim).filter isKept

theorem Script.read_eq (s : Text) :
    Script.read s = (joinActivities [] (dropNotes false (keptLines s))).map Script.ofLines := rfl

/-- A text with lines below it keeps its own lines, and these keep theirs. -/
theorem keptLines_append {s : Text} (h : leavesOpen 0 s = false) (rest : Text) :
    keptLines (s ++ '\n' :: rest) = keptLines s ++ keptLines rest := by
  obtain ⟨n, hlines⟩ := Text.exists_lines_append (dropBlockComments s) (dropBlockComments rest)
  have hempty : ((List.replicate n []).map Text.trim).filter isKept = [] := by
    rw [List.map_replicate, List.filter_eq_nil_iff]
    intro line hline
    rw [List.eq_of_mem_replicate hline]
    decide
  have hdrop : dropBlockComments (s ++ '\n' :: rest) =
      dropBlockComments s ++ '\n' :: dropBlockComments rest :=
    substitute_append 0 (Nat.zero_le _) h rest
  rw [keptLines, hdrop, hlines, List.map_append, List.map_append, List.filter_append,
    List.filter_append, hempty, List.nil_append]
  rfl

theorem keptLines_join {lines : List Text} (h : ∀ line ∈ lines, leavesOpen 0 line = false)
    (more : List Text) :
    keptLines (Text.join ['\n'] (lines ++ more)) =
      lines.flatMap keptLines ++ keptLines (Text.join ['\n'] more) := by
  induction lines with
  | nil => rfl
  | cons line lines ih =>
      obtain ⟨hline, hlines⟩ := List.forall_mem_cons.1 h
      have hrest := ih hlines
      rw [List.flatMap_cons, List.append_assoc, ← hrest, List.cons_append]
      cases hall : lines ++ more with
      | nil =>
          rw [Text.join_singleton]
          exact (List.append_nil _).symm
      | cons next others =>
          rw [Text.join_cons_cons, List.append_assoc, List.singleton_append,
            keptLines_append hline]

/-- Whether a note is open behind some lines. -/
def inNote : Bool → List Text → Bool
  | isOpen, [] => isOpen
  | true, line :: lines => inNote (!closesNote line) lines
  | false, line :: lines => inNote (opensNote line && !line.contains ':') lines

theorem dropNotes_append (isOpen : Bool) (lines more : List Text) :
    dropNotes isOpen (lines ++ more) =
      dropNotes isOpen lines ++ dropNotes (inNote isOpen lines) more := by
  induction lines generalizing isOpen with
  | nil => cases isOpen <;> rfl
  | cons line lines ih =>
      cases isOpen with
      | true => exact ih _
      | false =>
          rw [List.cons_append, dropNotes, dropNotes, inNote]
          cases opensNote line with
          | true => exact ih _
          | false => exact congrArg (line :: ·) (ih false)

theorem inNote_append (isOpen : Bool) (lines more : List Text) :
    inNote isOpen (lines ++ more) = inNote (inNote isOpen lines) more := by
  induction lines generalizing isOpen with
  | nil => cases isOpen <;> rfl
  | cons line lines ih => cases isOpen <;> exact ih _

theorem isKept_of_opensNote {line : Text} (h : opensNote line = true) : isKept line = true := by
  cases line with
  | nil => exact absurd h (by decide)
  | cons c line =>
      by_cases hc : c = '\'' ∨ c = '@'
      · rcases hc with rfl | rfl <;> exact absurd h (by simp [opensNote, afterWord?, Text.after?])
      · rw [not_or] at hc
        simp [isKept, hc]

theorem isKept_of_closesNote {line : Text} (h : closesNote line = true) : isKept line = true := by
  cases line with
  | nil => exact absurd h (by decide)
  | cons c line =>
      by_cases hc : c = '\'' ∨ c = '@'
      · rcases hc with rfl | rfl <;> exact absurd h (by simp [closesNote, Text.after?])
      · rw [not_or] at hc
        simp [isKept, hc]

/-- What is left of a line without its block comments, all of which end in it. -/
structure Leaves (line left : Text) : Prop where
  whole : leavesOpen 0 line = false
  left : Text.trim (dropBlockComments line) = left
  unbroken : ∀ c ∈ dropBlockComments line, Text.isBreak c = false

instance (line left : Text) : Decidable (Leaves line left) :=
  decidable_of_iff (leavesOpen 0 line = false ∧ Text.trim (dropBlockComments line) = left ∧
      ∀ c ∈ dropBlockComments line, Text.isBreak c = false)
    ⟨fun ⟨hwhole, hleft, hunbroken⟩ => ⟨hwhole, hleft, hunbroken⟩,
      fun h => ⟨h.whole, h.left, h.unbroken⟩⟩

theorem Leaves.keptLines_eq {line left : Text} (h : Leaves line left) :
    keptLines line = [left].filter isKept := by
  rw [keptLines]
  by_cases hne : dropBlockComments line = []
  · have hleft : left = [] := by
      rw [← h.left, hne]
      rfl
    rw [hne, hleft]
    rfl
  · rw [Text.lines_of_no_break h.unbroken hne, List.map_singleton, h.left]

theorem leaves_of_commentless {line : Text} (h : Commentless line)
    (hline : ∀ c ∈ line, Text.isBreak c = false) : Leaves line (Text.trim line) where
  whole := leavesOpen_of_commentless h
  left := by rw [dropBlockComments_of_commentless h]
  unbroken := by rwa [dropBlockComments_of_commentless h]

/-- Lines that say nothing: block comments, comments, directives, and notes on one line or on
several.  A note on several lines has no colon in its first one. -/
inductive Aside : List Text → Prop
  | blockComments {line : Text} (h : Leaves line []) : Aside [line]
  | comment {line rest : Text} (h : Leaves line ('\'' :: rest)) : Aside [line]
  | directive {line rest : Text} (h : Leaves line ('@' :: rest)) : Aside [line]
  | shortNote {line note : Text} (h : Leaves line note) (hopens : opensNote note = true)
      (hcolon : ':' ∈ note) : Aside [line]
  | longNote {line last header closing : Text} {inner : List Text} (h : Leaves line header)
      (hopens : opensNote header = true) (hcolon : ':' ∉ header)
      (hinner : ∀ other ∈ inner, ∃ left, Leaves other left ∧ closesNote left = false)
      (hlast : Leaves last closing) (hcloses : closesNote closing = true) :
      Aside (line :: inner ++ [last])

theorem leaves_blockComment {before body after : Text}
    (hbefore : ∀ c ∈ before, Text.isGap c = true) (hafter : ∀ c ∈ after, Text.isGap c = true)
    (hbody : Text.occursIn "'/".toList body = false) :
    Leaves (before ++ ("/'".toList ++ (body ++ ("'/".toList ++ after)))) [] := by
  have hgap : ∀ c, Text.isGap c = true → c ≠ '/' ∧ Text.isBlank c = true ∧ Text.isBreak c = false := by
    intro c hc
    have hcases : c = ' ' ∨ c = '\t' := by simpa [Text.isGap] using hc
    rcases hcases with rfl | rfl <;> decide
  have hslash : ∀ s : Text, (∀ c ∈ s, Text.isGap c = true) → '/' ∉ s :=
    fun s hs hmem => (hgap '/' (hs '/' hmem)).1 rfl
  have hdone := commentless_of_not_mem (hslash after hafter)
  have hleft : dropBlockComments (before ++ ("/'".toList ++ (body ++ ("'/".toList ++ after)))) =
      before ++ after := by
    rw [(passed_append (hslash before hbefore) _).2, (passed_blockComment hbody after).2,
      dropBlockComments_of_commentless hdone]
  have hall : ∀ c ∈ before ++ after, Text.isGap c = true :=
    List.forall_mem_append.2 ⟨hbefore, hafter⟩
  refine ⟨?_, ?_, ?_⟩
  · rw [(passed_append (hslash before hbefore) _).1, (passed_blockComment hbody after).1,
      leavesOpen_of_commentless hdone]
  · have hblank := Text.trimLeft_blanks_append (fun c hc => (hgap c (hall c hc)).2.1) []
    rw [List.append_nil] at hblank
    rw [hleft, Text.trim, hblank]
    rfl
  · rw [hleft]
    exact fun c hc => (hgap c (hall c hc)).2.2

theorem dropNotes_of_not_closed {lines : List Text} (h : ∀ line ∈ lines, closesNote line = false) :
    dropNotes true lines = [] ∧ inNote true lines = true := by
  induction lines with
  | nil => exact ⟨rfl, rfl⟩
  | cons line lines ih =>
      obtain ⟨hline, hlines⟩ := List.forall_mem_cons.1 h
      rw [dropNotes, inNote, hline]
      exact ih hlines

namespace Aside

variable {aside : List Text}

theorem whole (h : Aside aside) : ∀ line ∈ aside, leavesOpen 0 line = false := by
  cases h with
  | blockComments h | comment h | directive h | shortNote h _ _ =>
      exact List.forall_mem_singleton.2 h.whole
  | longNote h _ _ hinner hlast _ =>
      refine List.forall_mem_append.2 ⟨List.forall_mem_cons.2 ⟨h.whole, fun other hother => ?_⟩,
        List.forall_mem_singleton.2 hlast.whole⟩
      obtain ⟨left, hleft, -⟩ := hinner other hother
      exact hleft.whole

/-- The notes that are opened in an aside are closed there, and nothing else stands in it. -/
theorem silent (h : Aside aside) : dropNotes false (aside.flatMap keptLines) = [] ∧
    inNote false (aside.flatMap keptLines) = false := by
  cases h with
  | blockComments h | comment h | directive h =>
      rw [List.flatMap_singleton, h.keptLines_eq]
      exact ⟨rfl, rfl⟩
  | shortNote h hopens hcolon =>
      have hcontains := List.contains_iff_mem.2 hcolon
      rw [List.flatMap_singleton, h.keptLines_eq,
        List.filter_cons_of_pos (isKept_of_opensNote hopens), List.filter_nil, dropNotes, inNote,
        hopens, hcontains]
      exact ⟨rfl, rfl⟩
  | @longNote line last header closing inner h hopens hcolon hinner hlast hcloses =>
      have hkept : ∀ left ∈ inner.flatMap keptLines, closesNote left = false := by
        intro left hleft
        obtain ⟨other, hother, hmem⟩ := List.mem_flatMap.1 hleft
        obtain ⟨found, hfound, hopen⟩ := hinner other hother
        rw [hfound.keptLines_eq] at hmem
        rwa [List.mem_singleton.1 (List.mem_of_mem_filter hmem)]
      obtain ⟨hnone, hstays⟩ := dropNotes_of_not_closed hkept
      have hcontains : header.contains ':' = false := by simpa using hcolon
      have hlines : (line :: inner ++ [last]).flatMap keptLines =
          header :: (inner.flatMap keptLines ++ [closing]) := by
        rw [List.flatMap_append, List.flatMap_cons, List.flatMap_singleton, h.keptLines_eq,
          hlast.keptLines_eq, List.filter_cons_of_pos (isKept_of_opensNote hopens),
          List.filter_cons_of_pos (isKept_of_closesNote hcloses)]
        rfl
      rw [hlines, dropNotes, inNote, hopens, hcontains]
      change dropNotes true (inner.flatMap keptLines ++ [closing]) = [] ∧
        inNote true (inner.flatMap keptLines ++ [closing]) = false
      rw [dropNotes_append, inNote_append, hnone, hstays, inNote, hcloses]
      exact ⟨rfl, rfl⟩

end Aside

/-- Asides between the lines of a script leave it as it is, unless a note is open there.  Above them
no block comment may be open; an activity of several lines may be. -/
theorem read_withAsides {before : List Text} {asides : List (List Text)}
    (hwhole : ∀ line ∈ before, leavesOpen 0 line = false)
    (hnote : inNote false (before.flatMap keptLines) = false)
    (hasides : ∀ aside ∈ asides, Aside aside) (after : List Text) :
    Script.read (Text.join ['\n'] (before ++ asides.flatten ++ after)) =
      Script.read (Text.join ['\n'] (before ++ after)) := by
  have hall : ∀ line ∈ before ++ asides.flatten, leavesOpen 0 line = false := by
    refine List.forall_mem_append.2 ⟨hwhole, fun line hline => ?_⟩
    obtain ⟨aside, haside, hmem⟩ := List.mem_flatten.1 hline
    exact (hasides aside haside).whole line hmem
  have hsilent : ∀ more, dropNotes false (asides.flatten.flatMap keptLines ++ more) =
      dropNotes false more := by
    intro more
    clear hall
    induction asides with
    | nil => rfl
    | cons aside asides ih =>
        obtain ⟨haside, hrest⟩ := List.forall_mem_cons.1 hasides
        obtain ⟨hnone, hclosed⟩ := haside.silent
        rw [List.flatten_cons, List.flatMap_append, List.append_assoc, dropNotes_append, hnone,
          hclosed, List.nil_append, ih hrest]
  rw [Script.read_eq, Script.read_eq, keptLines_join hall, keptLines_join hwhole,
    List.flatMap_append, List.append_assoc, dropNotes_append, hnote, hsilent, dropNotes_append, hnote]

/-- The activity in the last line is not ended yet. -/
def aboveScribbles : List Text := ["title Rounds".toList, ":Knock".toList]

def scribbles : List (List Text) :=
  [["  ' it's open".toList], ["@pragma /' once '/ teoz".toList], ["note left: wait".toList],
    ["floating note right".toList, ":Ring;".toList, "end note".toList],
    ["/' :Wave;\n:Leave; '/".toList]]

def belowScribbles : List Text := ["twice;".toList, "stop".toList]

theorem aside_scribbles : ∀ aside ∈ scribbles, Aside aside := by
  have hcomment : Leaves "  ' it's open".toList ('\'' :: " it's open".toList) := by decide
  have hdirective : Leaves "@pragma /' once '/ teoz".toList ('@' :: "pragma  teoz".toList) := by
    decide
  have hshort : Leaves "note left: wait".toList "note left: wait".toList := by decide
  have hheader : Leaves "floating note right".toList "floating note right".toList := by decide
  have hclosing : Leaves "end note".toList "end note".toList := by decide
  have hinner : ∀ other ∈ [":Ring;".toList], ∃ left, Leaves other left ∧ closesNote left = false :=
    List.forall_mem_singleton.2 ⟨":Ring;".toList, by decide, by decide⟩
  have hblock : Leaves "/' :Wave;\n:Leave; '/".toList [] :=
    leaves_blockComment (List.forall_mem_nil _) (List.forall_mem_nil _)
      (show Text.occursIn "'/".toList " :Wave;\n:Leave; ".toList = false by decide)
  simp only [scribbles, List.forall_mem_cons]
  exact ⟨.comment hcomment, .directive hdirective, .shortNote hshort (by decide) (by decide),
    .longNote hheader (by decide) (by decide) hinner hclosing (by decide), .blockComments hblock,
    List.forall_mem_nil _⟩

theorem read_withAsides_scribbles :
    (∀ line ∈ aboveScribbles, leavesOpen 0 line = false) ∧
      inNote false (aboveScribbles.flatMap keptLines) = false ∧
      (∀ aside ∈ scribbles, Aside aside) ∧
      Script.read (Text.join ['\n'] (aboveScribbles ++ scribbles.flatten ++ belowScribbles)) =
        Script.read (Text.join ['\n'] (aboveScribbles ++ belowScribbles)) :=
  ⟨by decide, by decide, aside_scribbles,
    read_withAsides (by decide) (by decide) aside_scribbles belowScribbles⟩

/-- A note whose block comment begins before the colon and ends on the next line has lost its colon,
and runs on through the statements below. -/
theorem read_note_torn :
    opensNote "note left /' : once".toList = true ∧ ':' ∈ "note left /' : once".toList ∧
      Script.read ":A;\nnote left /' : once\n/' twice '/\n:B;".toList =
        .ok ⟨none, [":A;".toList]⟩ ∧
      Script.read ":A;\n:B;".toList = .ok ⟨none, [":A;".toList, ":B;".toList]⟩ := by
  decide

end Flowchart.Activity
