import Flowchart.Proofs.Chart.Soundness

/-!
# Mentions

An id that is mentioned for the first time gets an entry at the end. Mentioned again, it may only
get the text that it lacks.
-/

namespace Flowchart.Chart

theorem addMentions_append (mentions new more : List Mention) :
    addMentions mentions (new ++ more) = addMentions (addMentions mentions new) more :=
  List.foldl_append

theorem addMention_of_not_mem {known : List Mention} {mention : Mention}
    (h : mention.id ∉ known.map Mention.id) : addMention known mention = known ++ [mention] := by
  induction known with
  | nil => rfl
  | cons first known ih =>
      rw [List.map_cons, List.mem_cons, not_or] at h
      rw [addMention, if_neg (Ne.symm h.1), ih h.2, List.cons_append]

theorem addMention_bare {known : List Mention} {id : Text} (h : id ∈ known.map Mention.id) :
    addMention known { id := id } = known := by
  induction known with
  | nil => exact absurd h List.not_mem_nil
  | cons first known ih =>
      unfold addMention
      split
      · simp
      · rename_i hne
        rw [List.map_cons, List.mem_cons] at h
        rw [ih (h.resolve_left (Ne.symm hne))]

/-- What is known of an id after it is mentioned once more. -/
def refreshed (mention known : Mention) : Mention :=
  if known.id = mention.id ∧ known.text = none ∧ mention.text.isSome then mention else known

theorem addMention_of_mem {known : List Mention} {mention : Mention}
    (hnodup : (known.map Mention.id).Nodup) (h : mention.id ∈ known.map Mention.id) :
    addMention known mention = known.map (refreshed mention) := by
  induction known with
  | nil => exact absurd h List.not_mem_nil
  | cons first known ih =>
      rw [List.map_cons, List.nodup_cons] at hnodup
      rw [addMention]
      by_cases heq : first.id = mention.id
      · have hrest : known.map (refreshed mention) = known := by
          refine (List.map_congr_left fun other hother => if_neg ?_).trans (List.map_id' _)
          rintro ⟨hid, -⟩
          exact hnodup.1 (heq ▸ hid ▸ List.mem_map_of_mem hother)
        simp [heq, hrest, refreshed, Option.isNone_iff_eq_none]
      · rw [if_neg heq, ih hnodup.2 (List.mem_of_ne_of_mem (Ne.symm heq) h), List.map_cons,
          refreshed, if_neg fun hsame => heq hsame.1]

theorem id_refreshed (mention known : Mention) : (refreshed mention known).id = known.id := by
  unfold refreshed
  split
  · rename_i hsame
    exact hsame.1.symm
  · rfl

theorem refreshed_of_text {known : Mention} (h : known.text.isSome) (mention : Mention) :
    refreshed mention known = known :=
  if_neg fun hbare => by simp [hbare.2.1] at h

theorem mem_addMention {known : List Mention} {mention other : Mention}
    (h : other ∈ addMention known mention) : other ∈ known ∨ other = mention := by
  induction known with
  | nil => exact .inr (List.mem_singleton.1 h)
  | cons first known ih =>
      unfold addMention at h
      split at h
      · rcases List.mem_cons.1 h with rfl | h
        · split
          · exact .inr rfl
          · exact .inl List.mem_cons_self
        · exact .inl (List.mem_cons_of_mem _ h)
      · rcases List.mem_cons.1 h with rfl | h
        · exact .inl List.mem_cons_self
        · exact (ih h).imp_left (List.mem_cons_of_mem _)

theorem mem_addMentions {known new : List Mention} {other : Mention}
    (h : other ∈ addMentions known new) : other ∈ known ∨ other ∈ new := by
  induction new generalizing known with
  | nil => exact .inl h
  | cons mention new ih =>
      rcases ih h with h | h
      · rcases mem_addMention h with h | rfl
        · exact .inl h
        · exact .inr List.mem_cons_self
      · exact .inr (List.mem_cons_of_mem _ h)

/-- An id that is mentioned, and not without a text. -/
def Texted (id : Text) (known : List Mention) : Prop :=
  id ∈ known.map Mention.id ∧ ∀ mention ∈ known, mention.id = id → mention.text.isSome

section Texted

variable {id : Text} {known : List Mention} (hnodup : (known.map Mention.id).Nodup)

include hnodup

theorem nodup_addMention (mention : Mention) :
    ((addMention known mention).map Mention.id).Nodup := by
  rw [ids_addMention]
  exact nodup_enroll hnodup

theorem Texted.addMention (h : Texted id known) (mention : Mention) :
    Texted id (addMention known mention) := by
  constructor
  · rw [ids_addMention]
    exact mem_enroll.2 (.inl h.1)
  · intro other hother hid
    by_cases hknown : mention.id ∈ known.map Mention.id
    · rw [addMention_of_mem hnodup hknown] at hother
      obtain ⟨first, hfirst, rfl⟩ := List.mem_map.1 hother
      rw [id_refreshed] at hid
      have htext := h.2 first hfirst hid
      rwa [refreshed_of_text htext]
    · rw [addMention_of_not_mem hknown] at hother
      rcases List.mem_append.1 hother with hother | hother
      · exact h.2 other hother hid
      · obtain rfl := List.mem_singleton.1 hother
        exact absurd (hid ▸ h.1) hknown

theorem texted_addMention {mention : Mention} (htext : mention.text.isSome) :
    Texted mention.id (addMention known mention) := by
  constructor
  · rw [ids_addMention]
    exact mem_enroll.2 (.inr rfl)
  · intro other hother hid
    by_cases hknown : mention.id ∈ known.map Mention.id
    · rw [addMention_of_mem hnodup hknown] at hother
      obtain ⟨first, hfirst, rfl⟩ := List.mem_map.1 hother
      rw [id_refreshed] at hid
      unfold refreshed
      split
      · exact htext
      · rename_i hkept
        rw [Option.isSome_iff_ne_none]
        exact fun hbare => hkept ⟨hid, hbare, htext⟩
    · rw [addMention_of_not_mem hknown] at hother
      rcases List.mem_append.1 hother with hother | hother
      · exact absurd (hid ▸ List.mem_map_of_mem hother) hknown
      · exact List.mem_singleton.1 hother ▸ htext

theorem Texted.addMentions (h : Texted id known) (new : List Mention) :
    Texted id (addMentions known new) := by
  induction new generalizing known with
  | nil => exact h
  | cons mention new ih =>
      exact ih (nodup_addMention hnodup mention) (h.addMention hnodup mention)

theorem texted_addMentions {new : List Mention} {mention : Mention} (hmem : mention ∈ new)
    (htext : mention.text.isSome) : Texted mention.id (addMentions known new) := by
  induction new generalizing known with
  | nil => cases hmem
  | cons other new ih =>
      have hnext := nodup_addMention hnodup other
      rcases List.mem_cons.1 hmem with rfl | hmem
      · exact (texted_addMention hnodup htext).addMentions hnext new
      · exact ih hnext hmem

end Texted

def Mention.or (known mention : Mention) : Mention :=
  if known.text.isNone && mention.text.isSome then mention else known

theorem Mention.or_id {known mention : Mention} (h : known.id = mention.id) :
    (known.or mention).id = mention.id := by
  unfold Mention.or
  split
  · rfl
  · exact h

theorem Mention.or_assoc (a b c : Mention) : (a.or b).or c = a.or (b.or c) := by
  obtain ⟨_, ta, _⟩ := a
  obtain ⟨_, tb, _⟩ := b
  obtain ⟨_, tc, _⟩ := c
  cases ta <;> cases tb <;> cases tc <;> rfl

theorem addMention_cons (known : Mention) (mentions : List Mention) (mention : Mention) :
    addMention (known :: mentions) mention =
      if known.id = mention.id then known.or mention :: mentions
      else known :: addMention mentions mention := rfl

theorem addMention_addMention {first second : Mention} (h : first.id = second.id)
    (mentions : List Mention) :
    addMention (addMention mentions first) second = addMention mentions (first.or second) := by
  induction mentions with
  | nil => rw [addMention, addMention_cons, if_pos h]; rfl
  | cons known mentions ih =>
      rw [addMention_cons, addMention_cons, Mention.or_id h]
      by_cases hknown : known.id = second.id
      · rw [if_pos (hknown.trans h.symm), if_pos hknown, addMention_cons,
          if_pos ((Mention.or_id (hknown.trans h.symm)).trans h), Mention.or_assoc]
      · rw [if_neg fun heq => hknown (heq.trans h), if_neg hknown, addMention_cons, if_neg hknown,
          ih]

theorem mem_ids_addMention {mentions : List Mention} {id : Text}
    (h : id ∈ mentions.map Mention.id) (mention : Mention) :
    id ∈ (addMention mentions mention).map Mention.id := by
  rw [ids_addMention]
  exact mem_enroll.2 (.inl h)

/-- An id that is known already may be mentioned before or after another one. -/
theorem addMention_comm {mentions : List Mention} {first second : Mention}
    (hne : first.id ≠ second.id) (h : second.id ∈ mentions.map Mention.id) :
    addMention (addMention mentions first) second =
      addMention (addMention mentions second) first := by
  induction mentions with
  | nil => cases h
  | cons known mentions ih =>
      rw [List.map_cons, List.mem_cons] at h
      by_cases hfirst : known.id = first.id
      · have hsecond : known.id ≠ second.id := fun heq => hne (hfirst.symm.trans heq)
        have hor : (known.or first).id ≠ second.id := fun heq =>
          hne ((Mention.or_id hfirst).symm.trans heq)
        simp only [addMention_cons, if_pos hfirst, if_neg hsecond, if_neg hor]
      · by_cases hsecond : known.id = second.id
        · have hor : (known.or second).id ≠ first.id := fun heq =>
            hne (heq.symm.trans (Mention.or_id hsecond))
          simp only [addMention_cons, if_neg hfirst, if_pos hsecond, if_neg hor]
        · have hmore := h.resolve_left (Ne.symm hsecond)
          simp only [addMention_cons, if_neg hfirst, if_neg hsecond, ih hmore]

theorem addMentions_comm {mentions others : List Mention} {mention : Mention}
    (hne : mention.id ∉ others.map Mention.id) (h : mention.id ∈ mentions.map Mention.id) :
    addMention (addMentions mentions others) mention =
      addMentions (addMention mentions mention) others := by
  induction others generalizing mentions with
  | nil => rfl
  | cons other others ih =>
      rw [List.map_cons, List.mem_cons, not_or] at hne
      have hmore := ih hne.2 (mem_ids_addMention h other)
      rw [addMention_comm (Ne.symm hne.1) h] at hmore
      exact hmore

theorem addMentions_addMention {entries : List Mention} (hnodup : (entries.map Mention.id).Nodup)
    (mention : Mention) (mentions : List Mention) :
    addMentions mentions (addMention entries mention) =
      addMention (addMentions mentions entries) mention := by
  induction entries generalizing mentions with
  | nil => rfl
  | cons entry entries ih =>
      rw [List.map_cons, List.nodup_cons] at hnodup
      rw [addMention_cons]
      split
      · -- The id is known once its entry is added, so its mention may come before the others.
        rename_i hentry
        have hknown : mention.id ∈ (addMention mentions entry).map Mention.id := by
          rw [ids_addMention]
          exact mem_enroll.2 (.inr hentry.symm)
        have hcomm := addMentions_comm (hentry ▸ hnodup.1) hknown
        rw [addMention_addMention hentry] at hcomm
        exact hcomm.symm
      · exact ih hnodup.2 (addMention mentions entry)

theorem addMentions_addMentions {entries : List Mention} (hnodup : (entries.map Mention.id).Nodup)
    (mentions new : List Mention) :
    addMentions mentions (addMentions entries new) =
      addMentions (addMentions mentions entries) new := by
  induction new generalizing entries with
  | nil => rfl
  | cons mention new ih =>
      have hmore := ih (nodup_addMention hnodup mention)
      rw [addMentions_addMention hnodup] at hmore
      exact hmore

end Flowchart.Chart
