-- What the edits of the catalog leave alone. An edit of a button sorts and
-- numbers all the rows anew, and drops every row that no cell is in, also the
-- rows that have nothing to do with the button.
import Lumi.Library.Reassignment

open rust lumi_domain

namespace lumi_library

/-! ## The order of the rows -/

/-- The rows of a role stand in the order of their places. -/
theorem Placed.ordered {seen variants : List AutoloopVariant} (h : Placed seen variants) :
    (∀ v ∈ variants, (seen.filter (·.role_id = v.role_id)).length < v.sort_order.toNat) ∧
      variants.Pairwise fun a b => a.role_id = b.role_id → variant_le a b = true := by
  induction variants generalizing seen with
  | nil => simp
  | cons v vs ih =>
    obtain ⟨hplace, hrest⟩ := h
    obtain ⟨hlater, hpairs⟩ := ih hrest
    simp only [List.filter_append, List.length_append] at hlater
    rw [List.forall_mem_cons, List.pairwise_cons]
    refine ⟨⟨by omega, fun w hw => ?_⟩, fun w hw hrole => ?_, hpairs⟩
    · have := hlater w hw
      omega
    have hlt : v.sort_order < w.sort_order := by
      have := hlater w hw
      rw [← hrole, List.filter_cons_of_pos (by simp), List.length_cons] at this
      rw [UInt16.lt_iff_toNat_lt]
      omega
    simp [variant_le, hrole, hlt]

/-- Rows that stand in their order keep it in the sort. -/
theorem sort_variants_filter {variants : List AutoloopVariant} {q : AutoloopVariant → Bool}
    (h : (variants.filter q).Pairwise fun a b => variant_le a b = true) :
    (sort_variants variants).filter q = variants.filter q := by
  have hsub := (List.sublist_insertionSort h List.filter_sublist).filter q
  rw [List.filter_filter, funext fun v => Bool.and_self (q v)] at hsub
  exact (hsub.eq_of_length ((List.perm_insertionSort _ _).filter q).length_eq.symm).symm

namespace AutoloopCatalog

/-! ## The end of an edit of a button -/

/-- The button is given a role and a name, or cleared. -/
def EditsButton (self c : AutoloopCatalog) (theme_id : ThemeId) (mapping_id : VariantId) : Prop :=
  (∃ role_id display_name, self.set_mapping theme_id mapping_id role_id display_name = .ok c) ∨
    self.clear_mapping theme_id mapping_id = .ok c

/-- The rows of a role besides those of the button, without their places. -/
def other_rows (self : AutoloopCatalog) (mapping_id : VariantId) (role_id : PhraseRoleId) :
    List (PhraseRoleId × VariantId × String × Bool) :=
  (self.variants.filter fun v => v.role_id = role_id ∧ v.id ≠ mapping_id).map AutoloopVariant.row

/-- What an edit of a button leaves: the other cells, and the rows that some cell is in, where
there may be a cell and a row more for the button. -/
structure Edited (old c : AutoloopCatalog) (theme_id : ThemeId) (mapping_id : VariantId)
    (rows : List AutoloopVariant) (cells : List AutoloopMatrixCell) : Prop where
  placed : Placed [] old.variants
  rows_of : ∀ v ∈ rows, v.id = mapping_id
  cells_of : ∀ cell ∈ cells, is_mapping theme_id mapping_id cell = true
  perm : c.cells.Perm (old.others theme_id mapping_id ++ cells)
  sorted : c.variants.map AutoloopVariant.row = (sort_variants ((old.variants ++ rows).filter
    (is_used (old.others theme_id mapping_id ++ cells)))).map AutoloopVariant.row

variable {self c : AutoloopCatalog} {theme_id : ThemeId} {mapping_id : VariantId}
  {rows : List AutoloopVariant} {cells : List AutoloopMatrixCell}

theorem EditsButton.edited (h : self.EditsButton c theme_id mapping_id) :
    ∃ rows cells, self.Edited c theme_id mapping_id rows cells := by
  have htheme : self.themes.any (·.id = theme_id) = true := by
    by_contra hno
    rcases h with ⟨role_id, display_name, h⟩ | h
    · rw [set_mapping, if_pos hno] at h
      cases h
    · rw [clear_mapping, if_pos hno] at h
      cases h
  have hplaced := (valid_rows htheme).placed
  have hfits : Fits self.variants := hplaced.fits (by simp [Fits])
  have hcleared : self.pruned self.variants (self.others theme_id mapping_id) = .ok c →
      ∃ rows cells, self.Edited c theme_id mapping_id rows cells := by
    intro h
    obtain ⟨hperm, hsorted⟩ := pruned_eq_ok hfits h
    exact ⟨[], [], hplaced, by simp, by simp, by simpa using hperm, by simpa using hsorted⟩
  rcases h with ⟨role_id, display_name, h⟩ | h
  · unfold set_mapping at h
    rw [if_neg (not_not.mpr htheme)] at h
    rcases display_name with _ | display_name
    · dsimp only at h
      split_ifs at h
      exact hcleared h
    obtain ⟨name, -, h⟩ := except_bind_eq_ok.mp h
    split_ifs at h
    obtain ⟨variants, hvariants, h⟩ := except_bind_eq_ok.mp h
    obtain ⟨entry, -, h⟩ := except_bind_eq_ok.mp h
    obtain ⟨cell, hcell, h⟩ := except_bind_eq_ok.mp h
    obtain ⟨hfits, rows, rfl, hrows⟩ := mapping_variants_eq_ok hfits hvariants
    obtain ⟨hperm, hsorted⟩ := pruned_eq_ok hfits h
    refine ⟨rows, [cell], hplaced, hrows, ?_, hperm, hsorted⟩
    unfold AutoloopMatrixCell.try_new at hcell
    split at hcell
    · cases hcell
    split at hcell
    · cases hcell
    cases hcell
    simp [is_mapping]
  · unfold clear_mapping at h
    split_ifs at h
    exact hcleared h

/-- A row besides the button's is in a cell exactly when it was in one before. -/
theorem Edited.is_used (h : self.Edited c theme_id mapping_id rows cells) {v : AutoloopVariant}
    (hid : v.id ≠ mapping_id) :
    lumi_library.is_used (self.others theme_id mapping_id ++ cells) v =
      lumi_library.is_used self.cells v := by
  rw [Bool.eq_iff_iff]
  simp only [lumi_library.is_used, List.any_eq_true, List.mem_append, decide_eq_true_eq]
  constructor
  · rintro ⟨cell, hcell | hcell, hsame⟩
    · exact ⟨cell, List.eraseP_sublist.mem hcell, hsame⟩
    · have hmap := h.cells_of cell hcell
      rw [is_mapping, decide_eq_true_eq] at hmap
      exact absurd (hsame.2.symm.trans hmap.2) hid
  · rintro ⟨cell, hcell, hsame⟩
    refine ⟨cell, .inl ((List.mem_eraseP_of_neg ?_).mpr hcell), hsame⟩
    simp [is_mapping, hsame.2, hid]

/-- Of the other rows, those that some cell is in are left, in their order. -/
theorem Edited.other_rows (h : self.Edited c theme_id mapping_id rows cells)
    (role_id : PhraseRoleId) :
    c.other_rows mapping_id role_id = ((self.variants.filter fun v =>
      v.role_id = role_id ∧ v.id ≠ mapping_id).filter (lumi_library.is_used self.cells)).map
        AutoloopVariant.row := by
  set q := fun v : AutoloopVariant => decide (v.role_id = role_id ∧ v.id ≠ mapping_id) with hq
  have hmap : ∀ l : List AutoloopVariant, (l.filter q).map AutoloopVariant.row =
      (l.map AutoloopVariant.row).filter fun key => key.1 = role_id ∧ key.2.1 ≠ mapping_id := by
    intro l
    rw [List.filter_map]
    rfl
  have hused : ((self.variants ++ rows).filter
      (lumi_library.is_used (self.others theme_id mapping_id ++ cells))).filter q =
      (self.variants.filter q).filter (lumi_library.is_used self.cells) := by
    have hnone : rows.filter q = [] :=
      List.filter_eq_nil_iff.mpr fun v hv => by simp [hq, h.rows_of v hv]
    rw [List.filter_comm, List.filter_append, hnone, List.append_nil]
    exact List.filter_congr fun v hv => h.is_used (of_decide_eq_true (List.mem_filter.mp hv).2).2
  have hordered : (self.variants.filter q).Pairwise fun a b => variant_le a b = true := by
    refine (h.placed.ordered.2.sublist List.filter_sublist).imp_of_mem fun ha hb hle => hle ?_
    simp only [hq, List.mem_filter, decide_eq_true_eq] at ha hb
    rw [ha.2.1, hb.2.1]
  rw [AutoloopCatalog.other_rows, hmap, h.sorted, ← hmap, sort_variants_filter, hused]
  rw [hused]
  exact hordered.sublist List.filter_sublist

/-- An edit of a button leaves every other cell as it is, and it leaves the other rows exactly
when each of them is in use. -/
theorem an_edit_of_a_button_spares_the_other_rows_in_use
    (h : self.EditsButton c theme_id mapping_id) :
    (∃ own, c.cells.Perm (self.others theme_id mapping_id ++ own) ∧
      ∀ cell ∈ own, is_mapping theme_id mapping_id cell = true) ∧
    ((∀ role_id, c.other_rows mapping_id role_id = self.other_rows mapping_id role_id) ↔
      ∀ v ∈ self.variants, v.id ≠ mapping_id → is_used self.cells v = true) := by
  obtain ⟨rows, cells, hedited⟩ := h.edited
  refine ⟨⟨cells, hedited.perm, hedited.cells_of⟩, ?_⟩
  constructor
  · intro hkept v hv hid
    have hlength := congrArg List.length (hkept v.role_id)
    rw [hedited.other_rows, AutoloopCatalog.other_rows, List.length_map, List.length_map,
      List.length_filter_eq_length_iff] at hlength
    exact hlength v (List.mem_filter.mpr ⟨hv, by simpa using hid⟩)
  · intro hused role_id
    rw [hedited.other_rows, List.filter_eq_self.mpr, AutoloopCatalog.other_rows]
    intro v hv
    obtain ⟨hv, hother⟩ := List.mem_filter.mp hv
    exact hused v hv (of_decide_eq_true hother).2

/-! ## Revisions -/

/-- The second catalog comes from the first by one edit. -/
inductive Edits (self c : AutoloopCatalog) : Prop
  | theme {t n} (h : self.rename_theme t n = .ok c)
  | added {r n} (h : self.add_variant r n = .ok c)
  | renamed {r v n} (h : self.rename_variant r v n = .ok c)
  | moved {r v d} (h : self.move_variant r v d = .ok c)
  | archived {r v a} (h : self.set_variant_archived r v a = .ok c)
  | cell {t r v n} (h : self.set_cell t r v n = .ok c)
  | mapped {t m r n} (h : self.set_mapping t m r n = .ok c)
  | cleared {t m} (h : self.clear_mapping t m = .ok c)

theorem revised_counts {themes variants cells} (h : self.revised themes variants cells = .ok c) :
    c.revision.toNat = self.revision.toNat + 1 := by
  unfold revised at h
  split at h
  · cases h
  rename_i hrevision
  rw [checked_add_eq_some] at hrevision
  unfold try_new at h
  split at h
  · cases h
  cases h
  exact hrevision.symm

theorem Edits.counts (h : self.Edits c) : c.revision.toNat = self.revision.toNat + 1 := by
  cases h <;> rename_i h <;>
    simp only [rename_theme, add_variant, rename_variant, move_variant, set_variant_archived,
      set_cell, set_mapping, clear_mapping, pruned, except_bind_eq_ok] at h <;>
    grind [revised_counts, except_bind_eq_ok]

end AutoloopCatalog

/-- The second button is cleared, and the row of the tenth stays. -/
theorem the_second_button_is_cleared : ∃ c,
    sample.stored.clear_mapping ⟨1⟩ (button 1) = .ok c ∧ ∀ role_id,
      c.other_rows (button 1) role_id = sample.stored.other_rows (button 1) role_id := by
  have hok : (sample.stored.clear_mapping ⟨1⟩ (button 1)).isOk = true := by decide +kernel
  cases hc : sample.stored.clear_mapping ⟨1⟩ (button 1) with
  | error e =>
    rw [hc] at hok
    cases hok
  | ok c =>
    have h := AutoloopCatalog.an_edit_of_a_button_spares_the_other_rows_in_use (.inr hc)
    exact ⟨c, rfl, h.2.mpr (by decide +kernel)⟩

/-- A row that was just added is gone after another button is cleared. -/
theorem a_new_row_goes_with_another_button :
    (do
      let added ← sample.stored.add_variant sample.drop "Fresh"
      let cleared ← added.clear_mapping ⟨1⟩ (button 1)
      return [added.other_rows (button 1) sample.drop,
        cleared.other_rows (button 1) sample.drop]).toOption =
      some [[(sample.drop, button 9, "Output mapping 10", false),
        (sample.drop, ⟨"variant-1", by decide, by decide⟩, "Fresh", false)],
        [(sample.drop, button 9, "Output mapping 10", false)]] := by
  decide +kernel

end lumi_library
