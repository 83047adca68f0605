-- When a button can be given a new role and name. What stands in the way is an
-- entry that another cell has, a name that another row has, too many rows, and
-- an archived row, which the edit takes as it is.
import Lumi.Library.Defaults

open rust lumi_domain
open List (any_eq_true filter_append filter_cons_of_pos filter_nil forall_mem_cons length_append
  length_cons mem_filter mem_map mem_singleton pairwise_cons perm_insertionSort)

namespace lumi_library

open AutoloopCatalog (is_mapping)

/-! ## What the constructor accepts -/

section valid

variable {themes : List AutoloopTheme} {variants seen : List AutoloopVariant}
  {cells before : List AutoloopMatrixCell} {b a : AutoloopMatrixCell}

/-- Two rows of one role differ in their id and in their name. -/
def RowsDiffer (a b : AutoloopVariant) : Prop :=
  a.role_id = b.role_id → a.id ≠ b.id ∧
    to_ascii_lowercase a.display_name ≠ to_ascii_lowercase b.display_name

/-- Each row has the place after those of its role that came before. -/
def Placed : List AutoloopVariant → List AutoloopVariant → Prop
  | _, [] => True
  | seen, v :: vs =>
    v.sort_order.toNat = (seen.filter (·.role_id = v.role_id)).length + 1 ∧ Placed (seen ++ [v]) vs

theorem validate_variants_ok :
    validate_variants seen variants = .ok () ↔
      (∀ v ∈ variants, ∀ s ∈ seen, RowsDiffer s v) ∧ variants.Pairwise RowsDiffer ∧
        Placed seen variants := by
  induction variants generalizing seen with
  | nil => simp [validate_variants, Placed]
  | cons v vs ih =>
    have hhead : (∀ s ∈ seen, RowsDiffer s v) ↔
        (seen.filter (·.role_id = v.role_id)).any (·.id = v.id) = false ∧
          (seen.filter (·.role_id = v.role_id)).any (fun other =>
            to_ascii_lowercase other.display_name = to_ascii_lowercase v.display_name) = false := by
      simp only [RowsDiffer, List.any_eq_false, mem_filter, decide_eq_true_eq, and_imp,
        ← forall_and]
    unfold validate_variants
    dsimp only
    rw [pairwise_cons, forall_mem_cons, hhead]
    split_ifs with hid hname horder
    · simp [hid]
    · simp [hname]
    · simp [Placed, horder]
    rw [ne_eq, not_not] at horder
    rw [ih]
    simp only [List.mem_append, mem_singleton, or_imp, forall_and, forall_eq, Placed,
      horder, true_and, Bool.not_eq_true] at hid hname ⊢
    tauto

/-- The theme and the row of a cell are in the catalog. -/
def Known (themes : List AutoloopTheme) (variants : List AutoloopVariant)
    (cell : AutoloopMatrixCell) : Prop :=
  (∃ theme ∈ themes, theme.id = cell.theme_id) ∧
    ∃ v ∈ variants, v.role_id = cell.role_id ∧ v.id = cell.variant_id

def CellsDiffer (a b : AutoloopMatrixCell) : Prop :=
  ¬ (a.theme_id = b.theme_id ∧ a.role_id = b.role_id ∧ a.variant_id = b.variant_id) ∧
    a.entry_id ≠ b.entry_id

theorem validate_cells_ok :
    validate_cells themes variants before cells = .ok () ↔
      (∀ cell ∈ cells, Known themes variants cell) ∧
        (∀ cell ∈ cells, ∀ other ∈ before, CellsDiffer other cell) ∧
        cells.Pairwise CellsDiffer := by
  induction cells generalizing before with
  | nil => simp [validate_cells]
  | cons cell cells ih =>
    have htheme : themes.any (·.id = cell.theme_id) = true ↔
        ∃ theme ∈ themes, theme.id = cell.theme_id := by simp
    have hrow : (variants.any fun v => v.role_id = cell.role_id ∧ v.id = cell.variant_id) = true ↔
        ∃ v ∈ variants, v.role_id = cell.role_id ∧ v.id = cell.variant_id := by simp
    have hdiffer : (∀ other ∈ before, CellsDiffer other cell) ↔
        (before.any fun other => other.theme_id = cell.theme_id ∧ other.role_id = cell.role_id ∧
          other.variant_id = cell.variant_id) = false ∧
        before.any (·.entry_id = cell.entry_id) = false := by
      simp only [CellsDiffer, List.any_eq_false, decide_eq_true_eq, ← forall_and]
    unfold validate_cells
    rw [pairwise_cons, forall_mem_cons, forall_mem_cons, Known, ← htheme, ← hrow, hdiffer]
    by_cases h1 : themes.any (·.id = cell.theme_id) = true
    · rw [if_neg (not_not.mpr h1)]
      by_cases h2 :
          (variants.any fun v => v.role_id = cell.role_id ∧ v.id = cell.variant_id) = true
      · rw [if_neg (not_not.mpr h2)]
        split_ifs with h3 h4
        · simp only [h3, reduceCtorEq, false_and, and_false]
        · simp only [h4, reduceCtorEq, false_and, and_false]
        rw [ih]
        rw [Bool.not_eq_true] at h3 h4
        simp only [forall_mem_cons, forall_and, h1, h2, h3, h4, true_and]
        tauto
      · rw [if_pos h2]
        simp only [h2, reduceCtorEq, false_and, and_false]
    · rw [if_pos h1]
      simp only [h1, reduceCtorEq, false_and]

def MappingsDiffer (a b : AutoloopMatrixCell) : Prop :=
  (catalog_mapping_number b.variant_id).isSome →
    ¬ (a.theme_id = b.theme_id ∧ a.variant_id = b.variant_id)

theorem validate_mappings_ok :
    validate_mappings before cells = .ok () ↔
      (∀ cell ∈ cells, ∀ other ∈ before, MappingsDiffer other cell) ∧
        cells.Pairwise MappingsDiffer := by
  induction cells generalizing before with
  | nil => simp [validate_mappings]
  | cons cell cells ih =>
    unfold validate_mappings
    rw [pairwise_cons, forall_mem_cons]
    split_ifs with hmapped
    · obtain ⟨hnumber, hmapped⟩ := hmapped
      simp only [any_eq_true, decide_eq_true_eq] at hmapped
      obtain ⟨other, hother, hsame⟩ := hmapped
      rw [iff_false_left (by simp)]
      rintro ⟨⟨hdiffer, _⟩, _⟩
      exact hdiffer other hother hnumber hsame
    · have hdiffer : ∀ other ∈ before, MappingsDiffer other cell := by
        intro other hother hnumber hsame
        exact hmapped ⟨hnumber, any_eq_true.mpr ⟨other, hother, by simpa using hsame⟩⟩
      rw [ih]
      simp only [forall_mem_cons, forall_and]
      tauto

theorem RowsDiffer.symm {a b : AutoloopVariant} (h : RowsDiffer a b) : RowsDiffer b a :=
  fun hrole => ⟨(h hrole.symm).1.symm, (h hrole.symm).2.symm⟩

instance : Std.Symm RowsDiffer := ⟨fun _ _ => RowsDiffer.symm⟩

theorem CellsDiffer.symm (h : CellsDiffer a b) : CellsDiffer b a :=
  ⟨fun hsame => h.1 ⟨hsame.1.symm, hsame.2.1.symm, hsame.2.2.symm⟩, h.2.symm⟩

theorem MappingsDiffer.symm (h : MappingsDiffer a b) : MappingsDiffer b a :=
  fun hnumber hsame => h (hsame.2 ▸ hnumber) ⟨hsame.1.symm, hsame.2.symm⟩

/-- What the constructor accepts under a revision other than 0. -/
structure ValidRows (themes : List AutoloopTheme) (variants : List AutoloopVariant)
    (cells : List AutoloopMatrixCell) : Prop where
  four : themes.length = 4
  named : validate_themes [] [] 0 themes = .ok ()
  rows : variants.Pairwise RowsDiffer
  placed : Placed [] variants
  known : ∀ cell ∈ cells, Known themes variants cell
  differ : cells.Pairwise CellsDiffer
  mappings : cells.Pairwise MappingsDiffer

theorem validate_catalog_ok {revision : UInt64} {defaults_version : UInt16} (h : revision ≠ 0) :
    validate_catalog revision defaults_version themes variants cells = .ok () ↔
      ValidRows themes variants cells := by
  have hpos : 0 < revision := by
    rw [UInt64.lt_iff_toNat_lt]
    exact Nat.pos_of_ne_zero fun hz => h (UInt64.toNat_inj.mp hz)
  unfold validate_catalog
  rw [if_neg (fun hz => h hz.1)]
  by_cases hfour : themes.length = 4
  · rw [if_neg (by simp [hfour])]
    simp only [bind, Except.bind]
    constructor
    · intro hok
      split at hok
      · cases hok
      rename_i hthemes
      split at hok
      · cases hok
      rename_i hvariants
      split at hok
      · cases hok
      rename_i hcells
      obtain ⟨_, hrows, hplaced⟩ := validate_variants_ok.mp hvariants
      obtain ⟨hknown, _, hcells⟩ := validate_cells_ok.mp hcells
      exact ⟨hfour, hthemes, hrows, hplaced, hknown, hcells, (validate_mappings_ok.mp hok).2⟩
    · rintro ⟨_, hthemes, hrows, hplaced, hknown, hcells, hmappings⟩
      have hv : validate_variants [] variants = .ok () :=
        validate_variants_ok.mpr ⟨by simp, hrows, hplaced⟩
      have hc : validate_cells themes variants [] cells = .ok () :=
        validate_cells_ok.mpr ⟨hknown, by simp, hcells⟩
      have hm : validate_mappings [] cells = .ok () := validate_mappings_ok.mpr ⟨by simp, hmappings⟩
      simp only [hthemes, hv, hc, hm]
  · rw [if_pos ⟨hpos, hfour⟩]
    constructor
    · intro hok
      cases hok
    · intro hvalid
      exact absurd hvalid.four hfour

end valid

/-! ## Names and places -/

variable {name : String} {role_id : PhraseRoleId} {sort_order : UInt16} {archived : Bool}
  {id : VariantId}

theorem Validated.again (h : Validated name) : validated_name name = .ok name := by
  obtain ⟨value, hvalue⟩ := h
  unfold validated_name at hvalue ⊢
  dsimp only at hvalue ⊢
  split_ifs at hvalue with hempty hlong
  rw [Except.ok.injEq] at hvalue
  have htrim : trim name = name := by
    subst hvalue
    unfold trim
    rw [String.toList_ofList]
    set chars := value.toList.dropWhile is_whitespace with hchars
    have hdrop : (chars.rdropWhile is_whitespace).dropWhile is_whitespace =
        chars.rdropWhile is_whitespace := by
      rw [List.dropWhile_eq_self_iff]
      intro hpos
      have hfront : chars.rdropWhile is_whitespace <+: chars := List.rdropWhile_prefix _ _
      have hlen : 0 < chars.length := hpos.trans_le hfront.length_le
      rw [hfront.getElem hpos]
      exact List.dropWhile_get_zero_not _ _ hlen
    rw [hdrop, List.rdropWhile_idempotent]
  rw [htrim, if_neg (hvalue ▸ hempty), if_neg (hvalue ▸ hlong)]

theorem AutoloopVariant.try_new_ok
    (horder : sort_order ≠ 0) (hname : validated_name name = .ok name) :
    ∃ v, AutoloopVariant.try_new role_id id name sort_order archived = .ok v ∧
      v.role_id = role_id ∧ v.id = id ∧ v.display_name = name ∧ v.archived = archived ∧
      v.sort_order = sort_order := by
  unfold AutoloopVariant.try_new
  rw [dif_neg horder]
  split
  · rename_i hagain
    rw [hname] at hagain
    cases hagain
  rename_i hagain
  rw [hname, Except.ok.injEq] at hagain
  exact ⟨_, rfl, rfl, rfl, hagain.symm, rfl, rfl⟩

theorem AutoloopVariant.try_new_eq_ok {v : AutoloopVariant}
    (h : AutoloopVariant.try_new role_id id name sort_order archived = .ok v) :
    v.role_id = role_id ∧ v.id = id ∧ v.archived = archived := by
  unfold AutoloopVariant.try_new at h
  split at h
  · cases h
  split at h
  · cases h
  cases h
  exact ⟨rfl, rfl, rfl⟩

/-- The row is the same but for its place. -/
def SameRow (a b : AutoloopVariant) : Prop :=
  b.role_id = a.role_id ∧ b.id = a.id ∧ b.display_name = a.display_name ∧ b.archived = a.archived

section places

variable {variants seen seen' : List AutoloopVariant}

theorem filter_role_length {seen seen' : List AutoloopVariant}
    (h : List.Forall₂ SameRow seen seen') (role_id : PhraseRoleId) :
    (seen'.filter (·.role_id = role_id)).length = (seen.filter (·.role_id = role_id)).length := by
  induction h with
  | nil => rfl
  | cons hrow _ ih =>
    simp only [List.filter_cons, hrow.1, apply_ite List.length, length_cons, ih]

/-- No role has more rows than there are places. -/
def Fits (variants : List AutoloopVariant) : Prop :=
  ∀ role_id : PhraseRoleId, (variants.filter (·.role_id = role_id)).length < 2 ^ 16

theorem Placed.fits (h : Placed seen variants) (hseen : Fits seen) : Fits (seen ++ variants) := by
  induction variants generalizing seen with
  | nil => rwa [List.append_nil]
  | cons v vs ih =>
    obtain ⟨hplace, hrest⟩ := h
    rw [List.append_cons]
    refine ih hrest fun role_id => ?_
    have hlt := v.sort_order.toNat_lt
    have hold := hseen role_id
    rw [filter_append, length_append]
    by_cases hrole : v.role_id = role_id
    · subst hrole
      simp only [decide_true, filter_cons_of_pos, filter_nil, List.length_singleton]
      omega
    · rw [List.filter_cons_of_neg (by simpa using hrole), filter_nil, List.length_nil]
      omega

/-- The rows that fit are renumbered, and then each has its place. -/
theorem renumber_variants_ok (hfits : Fits (seen ++ variants))
    (hsame : List.Forall₂ SameRow seen seen') :
    ∃ rows, renumber_variants seen variants = .ok rows ∧ List.Forall₂ SameRow variants rows ∧
      Placed seen' rows := by
  induction variants generalizing seen seen' with
  | nil => exact ⟨[], rfl, .nil, trivial⟩
  | cons v vs ih =>
    have hcount := hfits v.role_id
    rw [filter_append, length_append, filter_cons_of_pos (by simp), length_cons] at hcount
    have hnat : (UInt16.ofNat ((seen.filter (·.role_id = v.role_id)).length + 1)).toNat =
        (seen.filter (·.role_id = v.role_id)).length + 1 := by
      rw [UInt16.toNat_ofNat']
      omega
    have hne : UInt16.ofNat ((seen.filter (·.role_id = v.role_id)).length + 1) ≠ 0 := by
      intro hz
      rw [hz] at hnat
      simp at hnat
    have hnew : ∃ row, v.rebuilt v.display_name
        (UInt16.ofNat ((seen.filter (·.role_id = v.role_id)).length + 1)) v.archived =
          .ok row ∧ _ :=
      AutoloopVariant.try_new_ok hne v.named.again
    obtain ⟨row, hrow, hrole, hid, hname, harchived, hplace⟩ := hnew
    have hsamerow : SameRow v row := ⟨hrole, hid, hname, harchived⟩
    rw [List.append_cons] at hfits
    obtain ⟨rows, hrows, hforall, hplaced⟩ := ih hfits (List.rel_append hsame (.cons hsamerow .nil))
    refine ⟨row :: rows, ?_, .cons hsamerow hforall, ?_, hplaced⟩
    · simp only [renumber_variants, hrow, hrows]
      rfl
    · rw [hplace, hnat, hsamerow.1, filter_role_length hsame]

end places

/-! ## The end of an edit of the buttons -/

/-- What a row is besides its place. -/
def AutoloopVariant.row (v : AutoloopVariant) : PhraseRoleId × VariantId × String × Bool :=
  (v.role_id, v.id, v.display_name, v.archived)

theorem pairwise_rows_iff {l l' : List AutoloopVariant}
    (h : l.map AutoloopVariant.row = l'.map AutoloopVariant.row) :
    l.Pairwise RowsDiffer ↔ l'.Pairwise RowsDiffer := by
  have hrow : ∀ l : List AutoloopVariant, l.Pairwise RowsDiffer ↔
      (l.map AutoloopVariant.row).Pairwise fun a b => a.1 = b.1 → a.2.1 ≠ b.2.1 ∧
        to_ascii_lowercase a.2.2.1 ≠ to_ascii_lowercase b.2.2.1 := by
    intro l
    rw [List.pairwise_map]
    rfl
  rw [hrow, hrow, h]

section pruned

variable {variants : List AutoloopVariant} {cells : List AutoloopMatrixCell}

theorem Fits.of_perm {l : List AutoloopVariant} (h : Fits variants)
    (hsub : l.Subperm variants) : Fits l := by
  intro role_id
  obtain ⟨l', hperm, hl'⟩ := hsub
  refine lt_of_le_of_lt ?_ (h role_id)
  rw [← (hperm.filter _).length_eq]
  exact (hl'.filter _).length_le

/-- Pruning always succeeds: it keeps the rows that are used and gives each of them its place. -/
theorem prune_unused_variants_ok (cells : List AutoloopMatrixCell) (hfits : Fits variants) :
    ∃ rows, prune_unused_variants variants cells = .ok rows ∧ Placed [] rows ∧
      rows.map AutoloopVariant.row =
        (sort_variants (variants.filter (is_used cells))).map AutoloopVariant.row := by
  have hperm : (sort_variants (variants.filter (is_used cells))).Subperm variants :=
    (perm_insertionSort _ _).subperm.trans List.filter_sublist.subperm
  have hsorted : Fits ([] ++ sort_variants (variants.filter (is_used cells))) := hfits.of_perm hperm
  obtain ⟨rows, hrows, hsame, hplaced⟩ := renumber_variants_ok hsorted .nil
  refine ⟨rows, hrows, hplaced, (map_eq_of_forall₂ hsame ?_).symm⟩
  rintro a b ⟨hrole, hid, hname, harchived⟩
  rw [AutoloopVariant.row, AutoloopVariant.row, hrole, hid, hname, harchived]

/-- A row is left exactly when it was there and is used. -/
theorem mem_pruned {rows : List AutoloopVariant}
    (h : rows.map AutoloopVariant.row =
      (sort_variants (variants.filter (is_used cells))).map AutoloopVariant.row)
    {key : PhraseRoleId × VariantId × String × Bool} :
    (∃ v ∈ rows, v.row = key) ↔ ∃ v ∈ variants, is_used cells v = true ∧ v.row = key := by
  rw [← mem_map, h, mem_map]
  simp only [sort_variants, (perm_insertionSort _ _).mem_iff, mem_filter, and_assoc]

namespace AutoloopCatalog

variable {self c : AutoloopCatalog}

theorem try_new_eq_ok {revision : UInt64} {defaults_version : UInt16}
    {themes : List AutoloopTheme} :
    try_new revision defaults_version themes variants cells = .ok c ↔
      ∃ valid, c = ⟨revision, defaults_version, themes, variants, cells, valid⟩ := by
  unfold try_new
  split
  · rename_i e he
    simp [he]
  rename_i hok
  simp [hok, eq_comm]

/-- A catalog with a theme is past its revision 0. -/
theorem validRows (htheme : self.themes ≠ []) :
    self.revision ≠ 0 ∧ ValidRows self.themes self.variants self.cells := by
  have hvalid := self.valid
  have hrevision : self.revision ≠ 0 := by
    intro hz
    unfold validate_catalog at hvalid
    rw [if_pos ⟨hz, .inr (.inl (by simpa using htheme))⟩] at hvalid
    cases hvalid
  exact ⟨hrevision, (validate_catalog_ok hrevision).mp hvalid⟩

theorem pruned_eq_ok (hfits : Fits variants) (h : self.pruned variants cells = .ok c) :
    c.cells.Perm cells ∧ c.variants.map AutoloopVariant.row =
      (sort_variants (variants.filter (is_used cells))).map AutoloopVariant.row := by
  obtain ⟨rows, hrows, -, hsame⟩ := prune_unused_variants_ok cells hfits
  simp only [pruned, hrows, bind, Except.bind, revised] at h
  split at h
  · cases h
  obtain ⟨_, rfl⟩ := try_new_eq_ok.mp h
  exact ⟨perm_insertionSort _ _, hsame⟩

/-- What the edits of the buttons leave. -/
structure Pruned (old c : AutoloopCatalog) (variants : List AutoloopVariant)
    (cells : List AutoloopMatrixCell) : Prop where
  same : c.themes = old.themes
  perm : c.cells.Perm cells
  rows : ∀ {key}, (∃ v ∈ c.variants, v.row = key) ↔
    ∃ v ∈ variants, is_used cells v = true ∧ v.row = key

theorem pruned_ok (htheme : self.themes ≠ []) (hrevision : self.revision < u64_max)
    (hfits : Fits variants) (hknown : ∀ cell ∈ cells, Known self.themes variants cell)
    (hmappings : cells.Pairwise MappingsDiffer) :
    ((∃ c, self.pruned variants cells = .ok c) ↔
      (variants.filter (is_used cells)).Pairwise RowsDiffer ∧ cells.Pairwise CellsDiffer) ∧
    ∀ c, self.pruned variants cells = .ok c → self.Pruned c variants cells := by
  obtain ⟨rows, hrows, hplaced, hsame⟩ := prune_unused_variants_ok cells hfits
  have hpruned : self.pruned variants cells =
      self.revised self.themes rows (sort_cells cells self.themes rows) := by
    rw [pruned, hrows]
    rfl
  obtain ⟨revision, hnext⟩ : ∃ revision, checked_add self.revision 1 = some revision := by
    cases hadd : checked_add self.revision 1 with
    | some revision => exact ⟨revision, rfl⟩
    | none =>
      have hmax : u64_max.toNat = 2 ^ 64 - 1 := rfl
      rw [checked_add_eq_none, UInt64.toNat_one] at hadd
      rw [UInt64.lt_iff_toNat_lt] at hrevision
      omega
  have hne : revision ≠ 0 := by
    rintro rfl
    rw [checked_add_eq_some, UInt64.toNat_one, UInt64.toNat_zero] at hnext
    omega
  have hperm : (sort_cells cells self.themes rows).Perm cells := perm_insertionSort _ _
  have hrevised : ∀ c, self.pruned variants cells = .ok c ↔
      ∃ valid, c = ⟨revision, self.defaults_version, self.themes, rows,
        sort_cells cells self.themes rows, valid⟩ := by
    intro c
    rw [hpruned, revised, hnext]
    exact try_new_eq_ok
  constructor
  · have hvalid : (∃ c, self.pruned variants cells = .ok c) ↔
        ValidRows self.themes rows (sort_cells cells self.themes rows) := by
      simp only [hrevised]
      rw [← validate_catalog_ok hne]
      constructor
      · rintro ⟨_, valid, _⟩
        exact valid
      · intro valid
        exact ⟨_, valid, rfl⟩
    rw [hvalid]
    have hrowsiff : rows.Pairwise RowsDiffer ↔
        (variants.filter (is_used cells)).Pairwise RowsDiffer := by
      rw [pairwise_rows_iff hsame]
      exact (perm_insertionSort _ _).pairwise_iff RowsDiffer.symm
    rw [← hrowsiff, ← hperm.pairwise_iff CellsDiffer.symm]
    constructor
    · intro h
      exact ⟨h.rows, h.differ⟩
    · rintro ⟨hdiffer, hcells⟩
      have hold := (validRows htheme).2
      refine ⟨hold.four, hold.named, hdiffer, hplaced, ?_, hcells,
        (hperm.pairwise_iff MappingsDiffer.symm).mpr hmappings⟩
      intro cell hcell
      rw [hperm.mem_iff] at hcell
      obtain ⟨htheme, v, hv, hrole, hid⟩ := hknown cell hcell
      have hused : is_used cells v = true := any_eq_true.mpr ⟨cell, hcell, by simp [hrole, hid]⟩
      obtain ⟨row, hrow, hkey⟩ := (mem_pruned hsame).mpr ⟨v, hv, hused, rfl⟩
      rw [AutoloopVariant.row, AutoloopVariant.row, Prod.mk.injEq, Prod.mk.injEq] at hkey
      exact ⟨htheme, row, hrow, hkey.1.trans hrole, hkey.2.1.trans hid⟩
  · intro c hc
    obtain ⟨valid, rfl⟩ := (hrevised c).mp hc
    exact ⟨rfl, hperm, mem_pruned hsame⟩

end AutoloopCatalog

end pruned

/-! ## Buttons -/

/-- `mapping-` and the number of a button, from 1 to 32. -/
def button (n : Fin 32) : VariantId where
  value := "mapping-" ++ toString (n.val + 1)
  not_blank := by revert n; decide
  not_long := by revert n; decide

theorem button_number (n : Fin 32) : (catalog_mapping_number (button n)).isSome := by
  revert n
  decide

theorem button_name (n : Fin 32) :
    validated_name ("Output " ++ (button n).value) = .ok ("Output " ++ (button n).value) := by
  revert n
  decide

theorem button_size (n : Fin 32) : (button n).value.utf8ByteSize ≤ 10 := by
  revert n
  decide

theorem utf8ByteSize_le (text : String) : text.utf8ByteSize ≤ 4 * text.length := by
  have hlen : ∀ l : List Char, String.utf8Len l ≤ 4 * l.length := by
    intro l
    induction l with
    | nil => simp
    | cons c l ih =>
      have := c.utf8Size_le_four
      rw [String.utf8Len_cons, length_cons]
      omega
  have := hlen text.toList
  rwa [← String.utf8ByteSize_ofList, String.ofList_toList, String.length_toList] at this

/-- The entry of a button is never too long. -/
theorem mapping_entry_id_ok (theme_id : ThemeId) (n : Fin 32) :
    ∃ entry, mapping_entry_id theme_id (button n) = .ok entry ∧
      entry.value = mapping_entry theme_id (button n) := by
  have hdigits : (toString theme_id.value.toNat).length ≤ 20 :=
    Nat.repr_length _ 20 (by omega) (theme_id.value.toNat_lt.trans (by norm_num))
  have hsize := utf8ByteSize_le (toString theme_id.value.toNat)
  have hbutton := button_size n
  have hlong : ¬ (mapping_entry theme_id (button n)).utf8ByteSize > 255 := by
    have htheme : "theme-".utf8ByteSize = 6 := by decide
    have hdashes : "--".utf8ByteSize = 2 := by decide
    rw [mapping_entry, String.utf8ByteSize_append, String.utf8ByteSize_append,
      String.utf8ByteSize_append, htheme, hdashes]
    omega
  have hblank : ¬ is_blank (mapping_entry theme_id (button n)) = true := by
    simp [is_blank, mapping_entry, String.toList_append, is_whitespace]
  unfold mapping_entry_id TextIdentifier.try_new
  rw [dif_neg hblank, dif_neg hlong]
  exact ⟨_, rfl, rfl⟩

/-! ## A button gets a role and a name -/

section mapping

variable {cells : List AutoloopMatrixCell} {theme_id : ThemeId} {mapping_id : VariantId}

/-- A theme has at most one cell of a button. -/
theorem mapping_unique (h : cells.Pairwise MappingsDiffer)
    (hnumber : (catalog_mapping_number mapping_id).isSome) :
    (∀ cell ∈ cells, is_mapping theme_id mapping_id cell = true →
      cells.find? (is_mapping theme_id mapping_id) = some cell) ∧
    ∀ cell ∈ cells.eraseP (is_mapping theme_id mapping_id),
      is_mapping theme_id mapping_id cell = false := by
  induction cells with
  | nil => simp
  | cons first cells ih =>
    obtain ⟨hfirst, hrest⟩ := pairwise_cons.mp h
    by_cases hm : is_mapping theme_id mapping_id first = true
    · have hother : ∀ cell ∈ cells,
          is_mapping theme_id mapping_id cell = false := by
        intro cell hcell
        rw [Bool.eq_false_iff]
        intro hc
        simp only [is_mapping, decide_eq_true_eq] at hm hc
        exact hfirst cell hcell (hc.2 ▸ hnumber) ⟨hm.1.trans hc.1.symm, hm.2.trans hc.2.symm⟩
      rw [List.find?_cons_of_pos hm, List.eraseP_cons_of_pos hm]
      refine ⟨fun cell hcell hc => ?_, hother⟩
      rcases List.mem_cons.mp hcell with rfl | hcell
      · rfl
      rw [hother cell hcell] at hc
      cases hc
    · rw [List.find?_cons_of_neg hm, List.eraseP_cons_of_neg hm, forall_mem_cons, forall_mem_cons]
      exact ⟨⟨fun hc => absurd hc hm, (ih hrest).1⟩, Bool.eq_false_iff.mpr hm, (ih hrest).2⟩

end mapping

namespace AutoloopCatalog

/-- The cells besides the button. -/
def others (self : AutoloopCatalog) (theme_id : ThemeId) (mapping_id : VariantId) :
    List AutoloopMatrixCell :=
  self.cells.eraseP (is_mapping theme_id mapping_id)

/-- The button already has the role and the name. -/
def Holds (self : AutoloopCatalog) (theme_id : ThemeId) (mapping_id : VariantId)
    (role_id : PhraseRoleId) (name : String) : Prop :=
  ∃ cell ∈ self.cells, is_mapping theme_id mapping_id cell = true ∧ cell.role_id = role_id ∧
    cell.display_name = name

/-- Nothing stands in the way: no other cell has the entry of the button, the row of the role and
the button is not archived, and where there is none yet, the role has a place for it and none of
its rows that stay has its name. -/
structure Free (c : AutoloopCatalog) (theme_id : ThemeId) (mapping_id : VariantId)
    (role_id : PhraseRoleId) : Prop where
  entry : ∀ cell ∈ c.others theme_id mapping_id,
    cell.entry_id.value ≠ mapping_entry theme_id mapping_id
  active : ∀ v ∈ c.variants, v.role_id = role_id → v.id = mapping_id → v.archived = false
  row : (∀ v ∈ c.variants, ¬ (v.role_id = role_id ∧ v.id = mapping_id)) →
    (c.variants.filter (·.role_id = role_id)).length + 1 < 2 ^ 16 ∧
      ∀ v ∈ c.variants, v.role_id = role_id →
        is_used (c.others theme_id mapping_id) v = true →
        to_ascii_lowercase v.display_name ≠ to_ascii_lowercase ("Output " ++ mapping_id.value)

/-- The theme has one cell for the button, with the role and the name, and the button of the role
resolves to it. -/
def Reassigned (self : AutoloopCatalog) (theme_id : ThemeId) (mapping_id : VariantId)
    (role_id : PhraseRoleId) (name : String) : Prop :=
  ∃ cell, self.cells.filter (is_mapping theme_id mapping_id) = [cell] ∧ cell.role_id = role_id ∧
    cell.display_name = name ∧ ∃ reason,
      self.resolve theme_id role_id (some mapping_id) self.revision =
        .ok (self.resolution cell reason)

section resolve

variable {c : AutoloopCatalog} {theme_id : ThemeId} {mapping_id : VariantId}
  {role_id : PhraseRoleId} {cell : AutoloopMatrixCell}

/-- The button resolves to its only cell exactly when the role has an active row for it. -/
theorem resolve_button_iff (htheme : c.themes.any (·.id = theme_id) = true)
    (honly : c.cells.filter (is_mapping theme_id mapping_id) = [cell])
    (hrole : cell.role_id = role_id) :
    (∃ reason, c.resolve theme_id role_id (some mapping_id) c.revision =
        .ok (c.resolution cell reason)) ↔
      ∃ v ∈ c.variants, v.role_id = role_id ∧ v.id = mapping_id ∧ v.archived = false := by
  have hmem : cell ∈ c.cells ∧ is_mapping theme_id mapping_id cell = true :=
    mem_filter.mp (honly ▸ List.mem_singleton_self cell)
  have hmap : cell.theme_id = theme_id ∧ cell.variant_id = mapping_id := by
    simpa [is_mapping] using hmem.2
  have hcell : c.cell theme_id role_id mapping_id = some cell := by
    cases hfind : c.cell theme_id role_id mapping_id with
    | none =>
      have := List.find?_eq_none.mp hfind cell hmem.1
      simp [hmap.1, hmap.2, hrole] at this
    | some found =>
      have hfound := List.find?_some hfind
      have hin : found ∈ c.cells.filter (is_mapping theme_id mapping_id) :=
        mem_filter.mpr ⟨List.mem_of_find?_eq_some hfind, by
          simp only [decide_eq_true_eq] at hfound
          simp [is_mapping, hfound.1, hfound.2.2]⟩
      rw [honly, mem_singleton] at hin
      rw [hin]
  unfold resolve
  rw [if_neg (not_not.mpr rfl), if_neg (not_not.mpr htheme)]
  constructor
  · rintro ⟨reason, hres⟩
    split_ifs at hres
    split at hres
    · rename_i found hpreferred
      obtain ⟨v, hv, _⟩ := Option.bind_eq_some_iff.mp hpreferred
      have hactive := mem_filter.mp (List.mem_of_find?_eq_some hv)
      have hid := List.find?_some hv
      simp only [decide_eq_true_eq] at hactive hid
      exact ⟨v, hactive.1, hactive.2.1, hid, hactive.2.2⟩
    · split at hres
      · cases hres
      rename_i fallback hfallback
      obtain ⟨v, hv, hfound⟩ := List.exists_of_findSome?_eq_some hfallback
      have hactive := mem_filter.mp hv
      simp only [decide_eq_true_eq] at hactive
      have hvariant : fallback.variant_id = v.id := by
        have hfound := List.find?_some hfound
        simp only [decide_eq_true_eq] at hfound
        exact hfound.2.2
      -- The fallback is the cell of the button, so its row is the button's.
      rw [Except.ok.injEq, resolution, resolution, AutoloopResolution.mk.injEq] at hres
      exact ⟨v, hactive.1, hactive.2.1, hvariant.symm.trans (hres.2.2.1.trans hmap.2), hactive.2.2⟩
  · rintro ⟨v, hv, hvrole, hvid, harchived⟩
    have hactive : v ∈ c.active_variants role_id := mem_filter.mpr ⟨hv, by simp [hvrole, harchived]⟩
    have hpreferred : c.preferred_cell theme_id role_id (some mapping_id) = some cell := by
      cases hfind : (c.active_variants role_id).find? (·.id = mapping_id) with
      | none => exact absurd hvid (by simpa using List.find?_eq_none.mp hfind v hactive)
      | some found =>
        have hid : found.id = mapping_id := by simpa using List.find?_some hfind
        simp only [preferred_cell, bind, Option.bind, hfind, hid, hcell]
    rw [if_neg (by simpa using List.ne_nil_of_mem hactive), hpreferred]
    exact ⟨_, rfl⟩

end resolve

/-- The rows that a button is given fit, and the new ones are the button's. -/
theorem mapping_variants_eq_ok {self : AutoloopCatalog} {mapping_id : VariantId}
    {role_id : PhraseRoleId} {variants : List AutoloopVariant} (hfits : Fits self.variants)
    (h : self.mapping_variants mapping_id role_id = .ok variants) :
    Fits variants ∧ ∃ rows, variants = self.variants ++ rows ∧ ∀ v ∈ rows, v.id = mapping_id := by
  unfold mapping_variants at h
  dsimp only at h
  split_ifs at h with hany hmany
  · cases h
    exact ⟨hfits, [], by simp⟩
  obtain ⟨row, hrow, h⟩ := except_bind_eq_ok.mp h
  cases h
  obtain ⟨hrole, hid, -⟩ := AutoloopVariant.try_new_eq_ok hrow
  refine ⟨fun role => ?_, [row], rfl, by simpa using hid⟩
  rw [filter_append, length_append]
  by_cases hsame : row.role_id = role
  · rw [← hsame, hrole, filter_cons_of_pos (by simpa using hrole)]
    exact Nat.not_le.mp hmany
  · rw [List.filter_cons_of_neg (by simpa using hsame)]
    exact hfits role

section reassign

variable {self : AutoloopCatalog} {theme_id : ThemeId} {n : Fin 32} {role_id : PhraseRoleId}
  {m name : String} {entry : AutoloopEntryId} {cell : AutoloopMatrixCell}

/-- The cell that the button gets. -/
structure Assigned (cell : AutoloopMatrixCell) (theme_id : ThemeId) (mapping_id : VariantId)
    (role_id : PhraseRoleId) (name : String) : Prop where
  theme : cell.theme_id = theme_id
  variant : cell.variant_id = mapping_id
  role : cell.role_id = role_id
  named : cell.display_name = name
  entry : cell.entry_id.value = mapping_entry theme_id mapping_id

variable (htheme : self.themes.any (·.id = theme_id) = true)
include htheme

theorem themes_ne_nil : self.themes ≠ [] := by
  rintro hnil
  rw [hnil] at htheme
  cases htheme

theorem valid_rows : ValidRows self.themes self.variants self.cells :=
  (validRows (themes_ne_nil htheme)).2

/-- No other cell is one of the button. -/
theorem others_not_mapping :
    ∀ cell ∈ self.others theme_id (button n), is_mapping theme_id (button n) cell = false :=
  (mapping_unique (valid_rows htheme).mappings (button_number n)).2

/-- A button that does not hold the role and the name yet. -/
theorem set_mapping_eq (hname : validated_name m = .ok name)
    (hholds : ¬ self.Holds theme_id (button n) role_id name) :
    ∃ cell, Assigned cell theme_id (button n) role_id name ∧
      self.set_mapping theme_id (button n) role_id (some m) =
        (self.mapping_variants (button n) role_id >>= fun variants =>
          self.pruned variants (self.others theme_id (button n) ++ [cell])) := by
  obtain ⟨theme, _, hid⟩ := any_eq_true.mp htheme
  rw [decide_eq_true_eq] at hid
  have hne : ¬ theme_id.value = 0 := hid ▸ theme.identified
  obtain ⟨entry, hentry, hvalue⟩ := mapping_entry_id_ok theme_id n
  have hvalidated : Validated name := ⟨m, hname⟩
  have hnot : ¬ ((self.cells.find? (is_mapping theme_id (button n))).any fun cell =>
      cell.role_id = role_id ∧ cell.display_name = name) = true := by
    intro hany
    cases hfind : self.cells.find? (is_mapping theme_id (button n)) with
    | none =>
      rw [hfind] at hany
      cases hany
    | some cell =>
      rw [hfind, Option.any_some, decide_eq_true_eq] at hany
      exact hholds ⟨cell, List.mem_of_find?_eq_some hfind, List.find?_some hfind, hany⟩
  have hcell : ∃ cell, AutoloopMatrixCell.try_new theme_id role_id (button n) entry name =
      .ok cell ∧ Assigned cell theme_id (button n) role_id name := by
    unfold AutoloopMatrixCell.try_new
    rw [dif_neg hne]
    split
    · rename_i hagain
      rw [hvalidated.again] at hagain
      cases hagain
    rename_i name' hagain
    rw [hvalidated.again, Except.ok.injEq] at hagain
    exact ⟨_, rfl, rfl, rfl, rfl, hagain.symm, hvalue⟩
  obtain ⟨cell, hcell, hassigned⟩ := hcell
  refine ⟨cell, hassigned, ?_⟩
  unfold set_mapping
  rw [if_neg (not_not.mpr htheme)]
  simp only [hname, bind, Except.bind, if_neg hnot, hentry, hcell, others]

/-- The button has its role and its name already. -/
theorem set_mapping_holds (hname : validated_name m = .ok name)
    (hholds : self.Holds theme_id (button n) role_id name) :
    self.set_mapping theme_id (button n) role_id (some m) = .error .NoChange := by
  obtain ⟨cell, hcell, hmap, hsame⟩ := hholds
  have hfind := (mapping_unique (valid_rows htheme).mappings (button_number n)).1 cell hcell hmap
  have hany : ((self.cells.find? (is_mapping theme_id (button n))).any fun cell =>
      cell.role_id = role_id ∧ cell.display_name = name) = true := by
    rw [hfind, Option.any_some, decide_eq_true_eq]
    exact hsame
  unfold set_mapping
  rw [if_neg (not_not.mpr htheme)]
  simp only [hname, bind, Except.bind, if_pos hany]

variable (hcell : Assigned cell theme_id (button n) role_id name) {variants : List AutoloopVariant}
include hcell

/-- The cells with the button in its new role fit together unless another one has its entry. -/
theorem pairwise_assigned :
    (self.others theme_id (button n) ++ [cell]).Pairwise MappingsDiffer ∧
    ((self.others theme_id (button n) ++ [cell]).Pairwise CellsDiffer ↔
      ∀ other ∈ self.others theme_id (button n),
        other.entry_id.value ≠ mapping_entry theme_id (button n)) := by
  have hvalid := valid_rows htheme
  have hsub : (self.others theme_id (button n)).Sublist self.cells := List.eraseP_sublist
  have hother : ∀ other ∈ self.others theme_id (button n),
      ¬ (other.theme_id = theme_id ∧ other.variant_id = button n) := by
    intro other hmem hsame
    have := others_not_mapping htheme other hmem
    simp [is_mapping, hsame.1, hsame.2] at this
  simp only [List.pairwise_append, pairwise_cons, List.not_mem_nil, false_implies,
    implies_true, List.Pairwise.nil, and_true, true_and, mem_singleton, forall_eq]
  refine ⟨⟨hvalid.mappings.sublist hsub, fun other hmem _ hsame => hother other hmem
    ⟨hsame.1.trans hcell.theme, hsame.2.trans hcell.variant⟩⟩, ?_⟩
  constructor
  · rintro ⟨_, hdiffer⟩ other hmem hentry
    exact (hdiffer other hmem).2 (by
      rw [← TextIdentifier.value_inj, hentry, hcell.entry])
  · intro hentry
    refine ⟨hvalid.differ.sublist hsub, fun other hmem => ⟨fun hsame => hother other hmem
      ⟨hsame.1.trans hcell.theme, hsame.2.2.trans hcell.variant⟩, fun hsame => ?_⟩⟩
    exact hentry other hmem (hsame ▸ hcell.entry)

theorem known_assigned (hrows : ∀ v ∈ self.variants, v ∈ variants)
    (hrow : ∃ v ∈ variants, v.role_id = role_id ∧ v.id = button n) :
    ∀ other ∈ self.others theme_id (button n) ++ [cell], Known self.themes variants other := by
  intro other hmem
  rcases List.mem_append.mp hmem with hmem | hmem
  · obtain ⟨hknown, v, hv, hsame⟩ := (valid_rows htheme).known other (List.eraseP_sublist.mem hmem)
    exact ⟨hknown, v, hrows v hv, hsame⟩
  rw [mem_singleton] at hmem
  subst hmem
  obtain ⟨theme, htheme, hid⟩ := any_eq_true.mp htheme
  obtain ⟨v, hv, hrole, hid'⟩ := hrow
  rw [decide_eq_true_eq] at hid
  exact ⟨⟨theme, htheme, hid.trans hcell.theme.symm⟩, v, hv, hrole.trans hcell.role.symm,
    hid'.trans hcell.variant.symm⟩

omit htheme in
theorem is_used_assigned (v : AutoloopVariant) :
    is_used (self.others theme_id (button n) ++ [cell]) v = true ↔
      is_used (self.others theme_id (button n)) v = true ∨
        v.role_id = role_id ∧ v.id = button n := by
  simp only [is_used, List.any_append, Bool.or_eq_true, List.any_cons, List.any_nil, hcell.role,
    hcell.variant, Bool.or_false, decide_eq_true_eq]
  exact or_congr_right (and_congr eq_comm eq_comm)

/-- What is left in a catalog after the button got its cell. -/
theorem reassigned_iff {c : AutoloopCatalog}
    (hc : self.Pruned c variants (self.others theme_id (button n) ++ [cell])) :
    c.Reassigned theme_id (button n) role_id name ↔
      ∃ v ∈ variants, v.role_id = role_id ∧ v.id = button n ∧ v.archived = false := by
  have hmap : is_mapping theme_id (button n) cell = true := by
    simp [is_mapping, hcell.theme, hcell.variant]
  have honly : c.cells.filter (is_mapping theme_id (button n)) = [cell] := by
    refine List.perm_singleton.mp ((hc.perm.filter _).trans ?_)
    have hfilter : (self.others theme_id (button n)).filter (is_mapping theme_id (button n)) = [] :=
      List.filter_eq_nil_iff.mpr fun other hmem => by simp [others_not_mapping htheme other hmem]
    rw [filter_append, hfilter, List.nil_append, filter_cons_of_pos hmap, filter_nil]
  have hresolve := resolve_button_iff (hc.same.symm ▸ htheme) honly hcell.role
  have hiff : c.Reassigned theme_id (button n) role_id name ↔
      ∃ v ∈ c.variants, v.role_id = role_id ∧ v.id = button n ∧ v.archived = false := by
    rw [← hresolve]
    constructor
    · rintro ⟨cell', honly', -, -, hres⟩
      rw [honly, List.singleton_inj] at honly'
      exact honly' ▸ hres
    · intro hres
      exact ⟨cell, honly, hcell.role, hcell.named, hres⟩
  rw [hiff]
  constructor
  · rintro ⟨v, hv, hrole, hid, harchived⟩
    obtain ⟨w, hw, _, hrow⟩ := hc.rows.mp ⟨v, hv, rfl⟩
    simp only [AutoloopVariant.row, Prod.mk.injEq] at hrow
    exact ⟨w, hw, hrow.1.trans hrole, hrow.2.1.trans hid, hrow.2.2.2.trans harchived⟩
  · rintro ⟨w, hw, hrole, hid, harchived⟩
    obtain ⟨v, hv, hrow⟩ :=
      hc.rows.mpr ⟨w, hw, (is_used_assigned hcell w).mpr (.inr ⟨hrole, hid⟩), rfl⟩
    simp only [AutoloopVariant.row, Prod.mk.injEq] at hrow
    exact ⟨v, hv, hrow.1.trans hrole, hrow.2.1.trans hid, hrow.2.2.2.trans harchived⟩

/-- The role has a row for the button. -/
theorem set_mapping_with_row (hrevision : self.revision < u64_max)
    (hrow : ∃ v ∈ self.variants, v.role_id = role_id ∧ v.id = button n) :
    (∃ c, (self.mapping_variants (button n) role_id >>= fun variants =>
        self.pruned variants (self.others theme_id (button n) ++ [cell])) = .ok c ∧
      c.Reassigned theme_id (button n) role_id name) ↔
      self.Free theme_id (button n) role_id := by
  have hvalid := valid_rows htheme
  have hrows : self.mapping_variants (button n) role_id = .ok self.variants := by
    unfold mapping_variants
    rw [if_pos (by simpa using hrow)]
  obtain ⟨hmappings, hcells⟩ := pairwise_assigned htheme hcell
  obtain ⟨hok, hpruned⟩ := pruned_ok (themes_ne_nil htheme) hrevision
    (hvalid.placed.fits (by simp [Fits])) (known_assigned htheme hcell (fun _ hv => hv) hrow)
    hmappings
  rw [List.nil_append, hcells] at hok
  have hused := hvalid.rows.sublist
    (List.filter_sublist (p := is_used (self.others theme_id (button n) ++ [cell])))
  -- The row of the button is the only one of its role and id.
  have hactive : (∃ v ∈ self.variants, v.role_id = role_id ∧ v.id = button n ∧
      v.archived = false) ↔
      ∀ v ∈ self.variants, v.role_id = role_id → v.id = button n → v.archived = false := by
    obtain ⟨v, hv, hrole, hid⟩ := hrow
    have hunique : ∀ w ∈ self.variants, w.role_id = role_id → w.id = button n → w = v := by
      intro w hw hwrole hwid
      by_contra hne
      exact (hvalid.rows.forall hw hv hne (hwrole.trans hrole.symm)).1 (hwid.trans hid.symm)
    constructor
    · rintro ⟨w, hw, hwrole, hwid, harchived⟩ x hx hxrole hxid
      rw [hunique x hx hxrole hxid, ← hunique w hw hwrole hwid, harchived]
    · intro hall
      exact ⟨v, hv, hrole, hid, hall v hv hrole hid⟩
  simp only [hrows, bind, Except.bind]
  constructor
  · rintro ⟨c, hc, hreassigned⟩
    have hactive' := hactive.mp ((reassigned_iff htheme hcell (hpruned c hc)).mp hreassigned)
    exact ⟨(hok.mp ⟨c, hc⟩).2, hactive', fun hno => absurd hrow (by simpa using hno)⟩
  · intro hfree
    obtain ⟨c, hc⟩ := hok.mpr ⟨hused, hfree.entry⟩
    exact ⟨c, hc, (reassigned_iff htheme hcell (hpruned c hc)).mpr (hactive.mpr hfree.active)⟩

/-- The role has no row for the button yet. -/
theorem set_mapping_without_row (hrevision : self.revision < u64_max)
    (hrow : ∀ v ∈ self.variants, ¬ (v.role_id = role_id ∧ v.id = button n)) :
    (∃ c, (self.mapping_variants (button n) role_id >>= fun variants =>
        self.pruned variants (self.others theme_id (button n) ++ [cell])) = .ok c ∧
      c.Reassigned theme_id (button n) role_id name) ↔
      self.Free theme_id (button n) role_id := by
  have hvalid := valid_rows htheme
  have hany : ¬ (self.variants.any fun v => v.role_id = role_id ∧ v.id = button n) = true := by
    simpa using hrow
  have hactive : ∀ v ∈ self.variants, v.role_id = role_id → v.id = button n →
      v.archived = false := fun v hv hrole hid => absurd ⟨hrole, hid⟩ (hrow v hv)
  by_cases hcount : (self.variants.filter (·.role_id = role_id)).length + 1 < 2 ^ 16
  · obtain ⟨row, hnew, hrole, hid, hname, harchived⟩ : ∃ row, self.mapping_variants (button n)
        role_id = .ok (self.variants ++ [row]) ∧ row.role_id = role_id ∧ row.id = button n ∧
        row.display_name = "Output " ++ (button n).value ∧ row.archived = false := by
      have hne : UInt16.ofNat ((self.variants.filter (·.role_id = role_id)).length + 1) ≠ 0 := by
        intro hz
        have hnat := congrArg UInt16.toNat hz
        rw [UInt16.toNat_ofNat', UInt16.toNat_zero] at hnat
        omega
      obtain ⟨row, hrow, hsame⟩ := AutoloopVariant.try_new_ok hne (button_name n)
      refine ⟨row, ?_, hsame.1, hsame.2.1, hsame.2.2.1, hsame.2.2.2.1⟩
      unfold mapping_variants
      rw [if_neg hany]
      dsimp only
      rw [if_neg (by omega), hrow]
      rfl
    obtain ⟨hmappings, hcells⟩ := pairwise_assigned htheme hcell
    have hfits : Fits (self.variants ++ [row]) :=
      (mapping_variants_eq_ok (hvalid.placed.fits (by simp [Fits])) hnew).1
    obtain ⟨hok, hpruned⟩ := pruned_ok (themes_ne_nil htheme) hrevision hfits
      (known_assigned htheme hcell (fun _ hv => List.mem_append_left _ hv)
        ⟨row, List.mem_append_right _ (List.mem_singleton_self row), hrole, hid⟩) hmappings
    have hnames : ((self.variants ++ [row]).filter
        (is_used (self.others theme_id (button n) ++ [cell]))).Pairwise RowsDiffer ↔
        ∀ v ∈ self.variants, v.role_id = role_id →
          is_used (self.others theme_id (button n)) v = true →
          to_ascii_lowercase v.display_name ≠
            to_ascii_lowercase ("Output " ++ (button n).value) := by
      have hnew : is_used (self.others theme_id (button n) ++ [cell]) row = true :=
        (is_used_assigned hcell row).mpr (.inr ⟨hrole, hid⟩)
      rw [filter_append, filter_cons_of_pos hnew, filter_nil, List.pairwise_append]
      simp only [hvalid.rows.sublist List.filter_sublist, List.pairwise_singleton, true_and,
        mem_singleton, forall_eq, mem_filter, is_used_assigned hcell, RowsDiffer,
        hrole, hid, hname]
      constructor
      · intro h v hv hvrole hvused
        exact (h v ⟨hv, .inl hvused⟩ hvrole).2
      · rintro h v ⟨hv, hvused⟩ hvrole
        have hvid : v.id ≠ button n := fun hvid => hrow v hv ⟨hvrole, hvid⟩
        rcases hvused with hvused | hsame
        · exact ⟨hvid, h v hv hvrole hvused⟩
        · exact absurd hsame.2 hvid
    rw [hcells, hnames] at hok
    have hreassigned : ∀ c, self.pruned (self.variants ++ [row])
        (self.others theme_id (button n) ++ [cell]) = .ok c →
        c.Reassigned theme_id (button n) role_id name := fun c hc =>
      (reassigned_iff htheme hcell (hpruned c hc)).mpr
        ⟨row, List.mem_append_right _ (List.mem_singleton_self row), hrole, hid, harchived⟩
    simp only [hnew, bind, Except.bind]
    constructor
    · rintro ⟨c, hc, -⟩
      obtain ⟨hnames, hentry⟩ := hok.mp ⟨c, hc⟩
      exact ⟨hentry, hactive, fun _ => ⟨hcount, hnames⟩⟩
    · intro hfree
      obtain ⟨c, hc⟩ := hok.mpr ⟨(hfree.row hrow).2, hfree.entry⟩
      exact ⟨c, hc, hreassigned c hc⟩
  · have hmany : self.mapping_variants (button n) role_id = .error .TooManyVariants := by
      unfold mapping_variants
      rw [if_neg hany]
      dsimp only
      rw [if_pos (by omega)]
    simp only [hmany, bind, Except.bind]
    constructor
    · rintro ⟨_, hc, _⟩
      cases hc
    · intro hfree
      exact absurd (hfree.row hrow).1 hcount

omit htheme hcell

/-- A button gets a role and a name, or has them already, exactly when it has them already or
nothing stands in the way. -/
theorem a_button_is_reassigned_when_it_is_free (hname : validated_name m = .ok name)
    (htheme : self.themes.any (·.id = theme_id) = true) (hrevision : self.revision < u64_max) :
    (self.set_mapping theme_id (button n) role_id (some m) = .error .NoChange ∧
        self.Holds theme_id (button n) role_id name ∨
      ∃ c, self.set_mapping theme_id (button n) role_id (some m) = .ok c ∧
        c.Reassigned theme_id (button n) role_id name) ↔
      self.Holds theme_id (button n) role_id name ∨ self.Free theme_id (button n) role_id := by
  by_cases hholds : self.Holds theme_id (button n) role_id name
  · have hsame := set_mapping_holds htheme hname hholds
    simp only [hholds, and_true, true_or, iff_true]
    exact .inl hsame
  obtain ⟨cell, hcell, heq⟩ := set_mapping_eq htheme hname hholds
  simp only [hholds, and_false, false_or, heq]
  by_cases hrow : ∃ v ∈ self.variants, v.role_id = role_id ∧ v.id = button n
  · exact set_mapping_with_row htheme hcell hrevision hrow
  · exact set_mapping_without_row htheme hcell hrevision (by simpa using hrow)

end reassign

end AutoloopCatalog

/-! ### Two buttons of an old surface -/

namespace sample

def drop : PhraseRoleId := ⟨"drop", by decide, by decide⟩

def theme (n : UInt64) (name : String) (hn : n ≠ 0 ∧ n.toUInt16 ≠ 0 := by decide)
    (hname : validated_name name = .ok name := by decide) : AutoloopTheme :=
  ⟨⟨n⟩, name, n.toUInt16, hn.1, hn.2, ⟨name, hname⟩⟩

def themes : List AutoloopTheme :=
  [theme 1 "Electric Bloom", theme 2 "Deep Ocean", theme 3 "Solar Flare", theme 4 "Ultraviolet"]

def row (n : Fin 32) (name : String) (order : UInt16)
    (horder : order ≠ 0 := by decide) (hname : validated_name name = .ok name := by decide) :
    AutoloopVariant :=
  ⟨drop, button n, name, order, false, horder, ⟨name, hname⟩⟩

def cell (n : Fin 32) (entry : AutoloopEntryId) (name : String)
    (hname : validated_name name = .ok name := by decide) : AutoloopMatrixCell :=
  ⟨⟨1⟩, drop, button n, entry, name, by decide, ⟨name, hname⟩⟩

/-- The second and the tenth button of the first theme, on a surface that counts by rows. -/
def stored : AutoloopCatalog where
  revision := 3
  defaults_version := 1
  themes := themes
  variants := [row 1 "Output mapping 2" 1, row 9 "Output mapping 10" 2]
  cells := [cell 1 ⟨"theme-1--mapping-2", by decide, by decide⟩ "Red strobe",
    cell 9 ⟨"theme-1--mapping-10", by decide, by decide⟩ "Blue wash"]
  valid := by decide +kernel

theorem first_button_free : stored.Free ⟨1⟩ (button 0) drop where
  entry := by decide +kernel
  active := by decide +kernel
  row := fun _ => by decide +kernel

/-- The first button of the stored catalog can be given a name. -/
theorem the_first_button_is_reassigned : ∃ c,
    stored.set_mapping ⟨1⟩ (button 0) drop (some "White flash") = .ok c ∧
      c.Reassigned ⟨1⟩ (button 0) drop "White flash" := by
  have hname : validated_name "White flash" = .ok "White flash" := by decide
  have htheme : stored.themes.any (·.id = ⟨1⟩) = true := by decide
  have hrevision : stored.revision < u64_max := by decide
  have h := (AutoloopCatalog.a_button_is_reassigned_when_it_is_free hname htheme
    hrevision).mpr (.inr first_button_free)
  rcases h with ⟨-, hholds⟩ | h
  · exact absurd hholds (by unfold AutoloopCatalog.Holds; decide +kernel)
  · exact h

/-- A migrated surface has the entry of its second button on the ninth: the second button can be
given no name. -/
theorem a_moved_button_keeps_its_entry : ∃ c,
    lumi_engine.autoloop_defaults.seeded_autoloop_catalog String.toUpper stored [drop] = .ok c ∧
      c.themes.any (·.id = ⟨1⟩) = true ∧ c.revision < u64_max ∧
      c.set_mapping ⟨1⟩ (button 1) drop (some "White flash") = .error .DuplicateEntryId := by
  have h : (match lumi_engine.autoloop_defaults.seeded_autoloop_catalog String.toUpper stored
      [drop] with
    | .ok c => c.themes.any (·.id = ⟨1⟩) && decide (c.revision < u64_max) &&
        (match c.set_mapping ⟨1⟩ (button 1) drop (some "White flash") with
        | .error e => decide (e = .DuplicateEntryId)
        | .ok _ => false)
    | .err _ | .panicked => false) = true := by decide +kernel
  split at h
  · rename_i c hc
    simp only [Bool.and_eq_true, decide_eq_true_eq] at h
    obtain ⟨⟨htheme, hrevision⟩, hlast⟩ := h
    split at hlast
    · rename_i e he
      exact ⟨c, hc, htheme, hrevision, by rw [he, of_decide_eq_true hlast]⟩
    · cases hlast
  · cases h
  · cases h

end sample

end lumi_library
