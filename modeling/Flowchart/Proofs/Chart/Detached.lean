import Flowchart.Proofs.Chart.Dashed

/-!
# What stands behind a separator

Semicolons and ends of lines belong to no id, bracket or stroke.  A piece that is read in front of
one is the same whatever follows there.
-/

namespace Flowchart

namespace Text

theorem dropWhile_congr {p q : Char → Bool} {s : Text} (h : ∀ c ∈ s, p c = q c) :
    s.dropWhile p = s.dropWhile q := by
  induction s with
  | nil => rfl
  | cons c s ih =>
      obtain ⟨hc, hs⟩ := List.forall_mem_cons.1 h
      rw [List.dropWhile_cons, List.dropWhile_cons, hc, ih hs]

theorem dropWhile_append_of_head {p : Char → Bool} {u : Text}
    (h : ∀ c, u.head? = some c → p c = false) (s : Text) :
    (s ++ u).dropWhile p = s.dropWhile p ++ u := by
  rw [List.dropWhile_append]
  split
  · rename_i hempty
    rw [(run_of_ends h).2, List.isEmpty_iff.1 hempty, List.nil_append]
  · rfl

theorem takeWhile_append_of_head {p : Char → Bool} {u : Text}
    (h : ∀ c, u.head? = some c → p c = false) (s : Text) :
    (s ++ u).takeWhile p = s.takeWhile p := by
  rw [List.takeWhile_append, (run_of_ends h).1]
  split
  · rename_i hwhole
    rw [List.append_nil, (List.takeWhile_prefix p).eq_of_length hwhole]
  · rfl

theorem run_append_of_cons {p : Char → Bool} {s rest : Text} {c : Char}
    (h : s.dropWhile p = c :: rest) (u : Text) :
    (s ++ u).takeWhile p = s.takeWhile p ∧ (s ++ u).dropWhile p = c :: (rest ++ u) := by
  have hwhole := List.takeWhile_append_dropWhile (p := p) (l := s)
  constructor
  · rw [List.takeWhile_append, if_neg]
    intro hlength
    rw [h] at hwhole
    have := congrArg List.length hwhole
    rw [List.length_append, hlength, List.length_cons] at this
    omega
  · rw [List.dropWhile_append, h]
    rfl

theorem after?_append_of_head {p u : Text} (h : ∀ c ∈ p, u.head? ≠ some c) (s : Text) :
    after? p (s ++ u) = (after? p s).map (· ++ u) := by
  induction p generalizing s with
  | nil => simp
  | cons c p ih =>
      obtain ⟨hc, hp⟩ := List.forall_mem_cons.1 h
      cases s with
      | nil =>
          cases u with
          | nil => rfl
          | cons d u =>
              have hne : c ≠ d := fun heq => hc (congrArg some heq.symm)
              simp [after?, hne]
      | cons d s =>
          rw [List.cons_append, after?, after?]
          split
          · exact ih hp s
          · rfl

end Text

namespace Chart

def terminators : List Char := [';', '\r', '\n']

/-- Nothing, or what one of these characters parts from the text before it. -/
def Detached (u : Text) : Prop := ∀ c, u.head? = some c → c ∈ terminators

theorem detached_cons {c : Char} (h : c ∈ terminators) (u : Text) : Detached (c :: u) := by
  simpa [Detached] using h

/-- What is read, with more text behind what is left. -/
def behind {α : Type} (u : Text) (r : α × Text) : α × Text := (r.1, r.2 ++ u)

theorem findSome?_behind {α β : Type} {f g : α → Option (β × Text)} {as : List α} {u : Text}
    (h : ∀ a ∈ as, g a = (f a).map (behind u)) :
    as.findSome? g = (as.findSome? f).map (behind u) := by
  induction as with
  | nil => rfl
  | cons a as ih =>
      obtain ⟨ha, has⟩ := List.forall_mem_cons.1 h
      rw [List.findSome?_cons, List.findSome?_cons, ha]
      cases f a with
      | none => exact ih has
      | some r => rfl

section Detached

variable {u : Text} (hu : Detached u)

include hu

theorem Detached.head_ne {c : Char} (hc : c ∉ terminators) : u.head? ≠ some c :=
  fun hhead => hc (hu c hhead)

theorem Detached.fails {p : Char → Bool} (hp : ∀ c ∈ terminators, p c = false) {c : Char}
    (hhead : u.head? = some c) : p c = false :=
  hp c (hu c hhead)

theorem Detached.after?_append {p : Text} (hp : ∀ c ∈ p, c ∉ terminators) (s : Text) :
    Text.after? p (s ++ u) = (Text.after? p s).map (· ++ u) :=
  Text.after?_append_of_head (fun c hc => hu.head_ne (hp c hc)) s

theorem Detached.startsWith_append {p : Text} (hp : ∀ c ∈ p, c ∉ terminators) (s : Text) :
    Text.startsWith (s ++ u) p = Text.startsWith s p := by
  rw [Text.startsWith, Text.startsWith, hu.after?_append hp, Option.isSome_map]

theorem Detached.stops : Stops u := fun _ hhead =>
  ⟨hu.fails (by decide) hhead, fun hdash => hu.head_ne (by decide) (hdash ▸ hhead)⟩

theorem Detached.skipGaps_append (s : Text) :
    Text.skipGaps (s ++ u) = Text.skipGaps s ++ u :=
  Text.dropWhile_append_of_head (fun _ => hu.fails (by decide)) s

def Stroke.chars (stroke : Stroke) : Text := stroke.start ++ stroke.run :: stroke.tip

theorem Detached.past?_append {stroke : Stroke} (h : ∀ c ∈ stroke.chars, c ∉ terminators)
    (s : Text) : stroke.past? (s ++ u) = (stroke.past? s).map (· ++ u) := by
  obtain ⟨hstart, hrun, htip⟩ : (∀ c ∈ stroke.start, c ∉ terminators) ∧
      stroke.run ∉ terminators ∧ ∀ c ∈ stroke.tip, c ∉ terminators := by
    simpa [Stroke.chars, or_imp, forall_and] using h
  have hends : ∀ c, u.head? = some c → (c == stroke.run) = false := by
    intro c hhead
    rw [beq_eq_false_iff_ne]
    rintro rfl
    exact hu.head_ne hrun hhead
  rw [Stroke.past?, Stroke.past?, hu.after?_append hstart]
  cases Text.after? stroke.start s with
  | none => rfl
  | some rest =>
      simp only [Option.map_some, Text.takeWhile_append_of_head hends,
        Text.dropWhile_append_of_head hends]
      split
      · exact hu.after?_append htip _
      · rfl

theorem Detached.plain?_append (s : Text) : plain? (s ++ u) = (plain? s).map (behind u) := by
  have hchars : ∀ arrow ∈ plainArrows, ∀ c ∈ arrow.2.chars, c ∉ terminators := by decide
  refine findSome?_behind fun arrow harrow => ?_
  rw [hu.past?_append (hchars arrow harrow), Option.map_map, Option.map_map]
  rfl

theorem Detached.nodeId_append (s : Text) : nodeId (s ++ u) = behind u (nodeId s) := by
  fun_induction nodeId s with
  | case1 => rw [List.nil_append, nodeId_stops hu.stops, behind, List.nil_append]
  | case2 d s hd r ih =>
      rw [List.cons_append] at ih
      rw [List.cons_append, List.cons_append, nodeId, if_pos hd, ih]
      rfl
  | case3 d s hd =>
      rw [List.cons_append, List.cons_append, nodeId, if_neg hd]
      rfl
  | case4 c s hdash hc r ih =>
      have hne : c ≠ '-' := Text.ne_of_class hc (by decide)
      rw [List.cons_append, nodeId.eq_3 _ _ fun d t heq _ => hne heq, if_pos hc, ih]
      rfl
  | case5 c s hdash hc =>
      -- A dash at the very end is followed by no word.
      rw [List.cons_append]
      by_cases hc' : c = '-'
      · subst hc'
        cases s with
        | cons d s => exact absurd rfl (hdash d s rfl)
        | nil =>
            cases u with
            | nil => simp [nodeId, behind, hc]
            | cons d u =>
                have hd : Text.isWord d = false := (hu.stops d rfl).1
                simp [nodeId, behind, hd]
      · rw [nodeId.eq_3 _ _ fun d t heq _ => hc' heq, if_neg hc]
        rfl

theorem Detached.skipClass_append (s : Text) : skipClass (s ++ u) = skipClass s ++ u := by
  have hends : ∀ c, u.head? = some c → (Text.isWord c || c == '-') = false :=
    fun c => hu.fails (p := fun c => Text.isWord c || c == '-') (by decide)
  rw [skipClass, skipClass, hu.after?_append (by decide)]
  cases Text.after? ":::".toList s with
  | none => rfl
  | some rest =>
      simp only [Option.map_some, Text.dropWhile_append_of_head hends, List.length_append,
        Nat.add_right_cancel_iff]
      split <;> rfl

theorem Detached.findShape_append (s : Text) :
    (Shape.all.findSome? fun shape => (Text.after? shape.opener (s ++ u)).map (shape, ·)) =
      (Shape.all.findSome? fun shape => (Text.after? shape.opener s).map (shape, ·)).map
        (behind u) := by
  refine findSome?_behind fun shape _ => ?_
  have hopener : ∀ c ∈ shape.opener, c ∉ terminators := by cases shape <;> decide
  rw [hu.after?_append hopener, Option.map_map, Option.map_map]
  rfl

theorem Detached.endsWord_append (s : Text) : endsWord (s ++ u) = endsWord s := by
  cases s with
  | cons c s => rfl
  | nil =>
      cases u with
      | nil => rfl
      | cons c u => simp [endsWord, (hu.stops c rfl).1]

theorem Detached.isSkipped_append (s : Text) : isSkipped (s ++ u) = isSkipped s := by
  have hwords : ∀ word ∈ skippedWords, ∀ c ∈ word, c ∉ terminators := by decide
  rw [isSkipped, isSkipped, Bool.eq_iff_iff, List.any_eq_true, List.any_eq_true]
  refine exists_congr fun word => and_congr_right fun hword => ?_
  rw [hu.after?_append (hwords word hword)]
  cases Text.after? word s with
  | none => rfl
  | some rest => rw [Option.map_some, Option.any_some, Option.any_some, hu.endsWord_append]

theorem Detached.afterEnd?_append (s : Text) :
    afterEnd? (s ++ u) = (afterEnd? s).map (· ++ u) := by
  rw [afterEnd?, afterEnd?, hu.after?_append (by decide)]
  cases Text.after? "end".toList s with
  | none => rfl
  | some rest =>
      have hkept : (endsWord (rest ++ u) && (rest ++ u).head? != some '-') =
          (endsWord rest && rest.head? != some '-') := by
        cases rest with
        | nil =>
            have hdash : (u.head? != some '-') = true := bne_iff_ne.2 (hu.head_ne (by decide))
            have hends := hu.endsWord_append []
            rw [List.nil_append] at hends ⊢
            rw [hends, hdash]
            rfl
        | cons c rest => rfl
      rw [Option.map_some, Option.filter_some, Option.filter_some, hkept]
      split <;> rfl

end Detached

end Chart

end Flowchart
