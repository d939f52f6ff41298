/-!
# Places between commas

Commas cut a text into places. That these are the parts without a comma which make the text when
they are joined determines them.

## Main definitions

- `Text.Places`: the places of a text.

## Main statements

- `Text.splitOn_eq_iff`: a text is cut into its places in one way.
-/

namespace LogIntake.Text

/-- Commas cut a text into places, of which there is at least one. -/
structure Places (cs : List Char) (places : List (List Char)) : Prop where
  nonempty : places ≠ []
  comma_not_mem : ∀ place ∈ places, ',' ∉ place
  joined : [','].intercalate places = cs

variable {cs place : List Char} {places : List (List Char)}

theorem comma_not_mem_of_mem_splitOn (h : place ∈ cs.splitOn ',') : ',' ∉ place := by
  induction cs generalizing place with
  | nil =>
    rw [List.splitOn_nil, List.mem_singleton] at h
    rw [h]
    exact List.not_mem_nil
  | cons c cs ih =>
    obtain ⟨first, rest, hplaces⟩ := List.exists_cons_of_ne_nil (List.splitOn_ne_nil ',' cs)
    rw [List.splitOn_cons_eq_if_modifyHead, hplaces] at h
    rw [hplaces] at ih
    split at h
    · -- A comma ends an empty place.
      rcases List.mem_cons.1 h with rfl | h
      · exact List.not_mem_nil
      · exact ih h
    next hc =>
      rw [List.modifyHead_cons] at h
      rcases List.mem_cons.1 h with rfl | h
      · have hne : ',' ≠ c := fun heq => hc (beq_iff_eq.2 heq.symm)
        exact List.not_mem_cons_of_ne_of_not_mem hne (ih List.mem_cons_self)
      · exact ih (List.mem_cons_of_mem _ h)

theorem splitOn_eq_iff : cs.splitOn ',' = places ↔ Places cs places := by
  constructor
  · rintro rfl
    exact ⟨List.splitOn_ne_nil ',' cs, fun _ => comma_not_mem_of_mem_splitOn,
      List.intercalate_splitOn ','⟩
  · rintro ⟨hne, hcomma, rfl⟩
    exact List.splitOn_intercalate ',' hcomma hne

end LogIntake.Text
