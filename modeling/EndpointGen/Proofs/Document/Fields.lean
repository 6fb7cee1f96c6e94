/- Look-up of fields: by a name that is not repeated, and in objects whose fields are put in order. -/
import Mathlib.Data.List.Nodup
import Mathlib.Data.String.Basic
import EndpointGen.Document.Basic

namespace EndpointGen

theorem lookup_of_mem {W : Type} {env : List (String × W)} (hnodup : (env.map (·.1)).Nodup)
    {name : String} {w : W} (h : (name, w) ∈ env) : env.lookup name = some w := by
  induction env with
  | nil => cases h
  | cons binding env ih =>
      obtain ⟨hnew, hnodup⟩ := List.nodup_cons.mp hnodup
      rcases List.mem_cons.mp h with rfl | h
      · exact List.lookup_cons_self
      · have hne : name ≠ binding.1 := by
          rintro rfl
          exact hnew (List.mem_map.mpr ⟨_, h, rfl⟩)
        rw [List.lookup_cons, beq_false_of_ne hne]
        exact ih hnodup h

theorem lookup_of_not_mem {W : Type} {env : List (String × W)} {name : String}
    (h : name ∉ env.map (·.1)) : env.lookup name = none := by
  apply List.lookup_eq_none_iff.mpr
  intro binding hmem
  rw [bne_iff_ne]
  rintro rfl
  exact h (List.mem_map_of_mem hmem)

namespace Doc

theorem lookup_foldl_putField {fields : List (String × Doc)} (hnodup : (fields.map (·.1)).Nodup)
    (placed : List (String × Doc)) (name : String) :
    (fields.foldl (fun acc f => putField f.1 f.2 acc) placed).lookup name =
      (fields.lookup name).or (placed.lookup name) := by
  induction fields generalizing placed with
  | nil => rfl
  | cons f fields ih =>
      obtain ⟨hnew, hnodup⟩ := List.nodup_cons.mp hnodup
      rw [List.foldl_cons, ih hnodup, lookup_putField]
      by_cases hname : name = f.1
      · subst hname
        rw [lookup_of_not_mem hnew, if_pos rfl, List.lookup_cons_self]
        rfl
      · rw [if_neg hname, List.lookup_cons, beq_false_of_ne hname]

theorem mem_map_putField {name key : String} {d : Doc} {fields : List (String × Doc)} :
    key ∈ (putField name d fields).map (·.1) ↔ key = name ∨ key ∈ fields.map (·.1) := by
  induction fields with
  | nil => simp [putField]
  | cons f fields ih =>
      unfold putField
      split
      · exact List.mem_cons
      · split
        · next hname => simp [hname]
        · simp only [List.map_cons, List.mem_cons, ih]
          exact or_left_comm

theorem putField_ascending {name : String} {d : Doc} {fields : List (String × Doc)}
    (h : (fields.map (·.1)).Pairwise (· < ·)) :
    ((putField name d fields).map (·.1)).Pairwise (· < ·) := by
  induction fields with
  | nil => exact List.pairwise_singleton _ _
  | cons f fields ih =>
      obtain ⟨hfirst, hrest⟩ := List.pairwise_cons.mp h
      unfold putField
      split
      · next hbefore =>
          apply List.pairwise_cons.mpr
          refine ⟨?_, h⟩
          intro key hkey
          rcases List.mem_cons.mp hkey with rfl | hkey
          · exact hbefore
          · exact lt_trans hbefore (hfirst key hkey)
      · split
        · next hname =>
            subst hname
            exact h
        · next hbefore hname =>
            apply List.pairwise_cons.mpr
            refine ⟨?_, ih hrest⟩
            intro key hkey
            rcases mem_map_putField.mp hkey with rfl | hkey
            · exact lt_of_le_of_ne (not_lt.mp hbefore) (Ne.symm hname)
            · exact hfirst key hkey

/-- Fields that were put in order have each name once. -/
theorem orderFields_nodup (fields : List (String × Doc)) :
    ((orderFields fields).map (·.1)).Nodup := by
  have hascending : ∀ placed : List (String × Doc), (placed.map (·.1)).Pairwise (· < ·) →
      ((fields.foldl (fun acc f => putField f.1 f.2 acc) placed).map (·.1)).Pairwise (· < ·) := by
    induction fields with
    | nil => exact fun _ h => h
    | cons f fields ih =>
        intro placed h
        exact ih _ (putField_ascending h)
  exact (hascending [] List.Pairwise.nil).imp ne_of_lt

/-- Where no name is repeated the order that fields are written in does not matter. -/
theorem field?_ofFields {fields : List (String × Doc)} (hnodup : (fields.map (·.1)).Nodup)
    (name : String) : (ofFields fields).field? name = fields.lookup name := by
  rw [ofFields, field?, orderFields, lookup_foldl_putField hnodup]
  exact Option.or_none

end Doc

end EndpointGen
