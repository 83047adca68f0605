-- The edits of the AutoLoop catalog. Each one makes new rows and cells and
-- hands them to the constructor, under the next revision.
import Lumi.Library.Catalog

open rust lumi_domain

namespace lumi_library

/-! ## Orders -/

/-- The order of texts, byte by byte. -/
def text_lt (left right : String) : Bool := decide (left.toList < right.toList)

/-- The order of `sort_variants`: by role, then by place, then by id. -/
def variant_le (left right : AutoloopVariant) : Bool :=
  text_lt left.role_id.value right.role_id.value ||
    (left.role_id = right.role_id &&
      (left.sort_order < right.sort_order ||
        (left.sort_order = right.sort_order && !text_lt right.id.value left.id.value)))

/-- `sort_by` is stable, as an insertion sort is. -/
def sort_variants (variants : List AutoloopVariant) : List AutoloopVariant :=
  variants.insertionSort fun left right => variant_le left right

/-- The place of a cell's theme, and of its variant: an unknown one comes first. -/
def theme_order (themes : List AutoloopTheme) (cell : AutoloopMatrixCell) : Nat :=
  ((themes.find? (·.id = cell.theme_id)).map (·.sort_order.toNat + 1)).getD 0

def variant_order (variants : List AutoloopVariant) (cell : AutoloopMatrixCell) : Nat :=
  ((variants.find? fun v => v.role_id = cell.role_id ∧ v.id = cell.variant_id).map
    (·.sort_order.toNat + 1)).getD 0

def cell_le (themes : List AutoloopTheme) (variants : List AutoloopVariant)
    (left right : AutoloopMatrixCell) : Bool :=
  theme_order themes left < theme_order themes right ||
    (theme_order themes left = theme_order themes right &&
      (text_lt left.role_id.value right.role_id.value ||
        (left.role_id = right.role_id &&
          variant_order variants left ≤ variant_order variants right)))

def sort_cells (cells : List AutoloopMatrixCell) (themes : List AutoloopTheme)
    (variants : List AutoloopVariant) : List AutoloopMatrixCell :=
  cells.insertionSort fun left right => cell_le themes variants left right

/-! ## Rows -/

def AutoloopTheme.renamed (theme : AutoloopTheme) (display_name : String) :
    Except AutoloopCatalogError AutoloopTheme :=
  AutoloopTheme.try_new theme.id display_name theme.sort_order

def AutoloopVariant.rebuilt (variant : AutoloopVariant) (display_name : String)
    (sort_order : UInt16) (archived : Bool) : Except AutoloopCatalogError AutoloopVariant :=
  AutoloopVariant.try_new variant.role_id variant.id display_name sort_order archived

/-- Some cell is in the row. -/
def is_used (cells : List AutoloopMatrixCell) (variant : AutoloopVariant) : Bool :=
  cells.any fun cell => cell.role_id = variant.role_id ∧ cell.variant_id = variant.id

/-- The loop of `prune_unused_variants`: the rows of a role get the places from 1 on. -/
def renumber_variants : List AutoloopVariant → List AutoloopVariant →
    Except AutoloopCatalogError (List AutoloopVariant)
  | _, [] => .ok []
  | seen, variant :: variants => do
    let next := (seen.filter (·.role_id = variant.role_id)).length + 1
    let rebuilt ← variant.rebuilt variant.display_name (UInt16.ofNat next) variant.archived
    let rest ← renumber_variants (seen ++ [variant]) variants
    return rebuilt :: rest

def prune_unused_variants (variants : List AutoloopVariant) (cells : List AutoloopMatrixCell) :
    Except AutoloopCatalogError (List AutoloopVariant) :=
  renumber_variants [] (sort_variants (variants.filter (is_used cells)))

def generated_entry_id (theme_id : ThemeId) (role_id : PhraseRoleId) (variant_id : VariantId) :
    Except AutoloopCatalogError AutoloopEntryId :=
  match TextIdentifier.try_new "Autoloop entry id" ("theme-" ++ toString theme_id.value.toNat ++
      "--" ++ role_id.value ++ "--" ++ variant_id.value) with
  | .error _ => .error .IdentifierOverflow
  | .ok id => .ok id

/-- The entry of a button. -/
def mapping_entry (theme_id : ThemeId) (mapping_id : VariantId) : String :=
  "theme-" ++ toString theme_id.value.toNat ++ "--" ++ mapping_id.value

def mapping_entry_id (theme_id : ThemeId) (mapping_id : VariantId) :
    Except AutoloopCatalogError AutoloopEntryId :=
  match TextIdentifier.try_new "Autoloop entry id" (mapping_entry theme_id mapping_id) with
  | .error _ => .error .IdentifierOverflow
  | .ok id => .ok id

/-- The loop of `add_variant` over the suffixes. Among one more than are taken, one is free. -/
def fresh_variant_id (taken : List VariantId) : Nat → Nat → Except AutoloopCatalogError VariantId
  | 0, _ => .error .ArithmeticOverflow
  | turns + 1, suffix =>
    match TextIdentifier.try_new "variant id" ("variant-" ++ toString suffix) with
    | .error _ => .error .IdentifierOverflow
    | .ok candidate =>
      if candidate ∈ taken then fresh_variant_id taken turns (suffix + 1) else .ok candidate

inductive AutoloopVariantMove where
  | Earlier
  | Later
deriving DecidableEq

namespace AutoloopCatalog

variable (self : AutoloopCatalog)

def revised (themes : List AutoloopTheme) (variants : List AutoloopVariant)
    (cells : List AutoloopMatrixCell) : Except AutoloopCatalogError AutoloopCatalog :=
  match checked_add self.revision 1 with
  | none => .error .ArithmeticOverflow
  | some revision => try_new revision self.defaults_version themes variants cells

/-- The row that `variant_index` finds. -/
def require_variant (role_id : PhraseRoleId) (variant_id : VariantId) :
    Except AutoloopCatalogError AutoloopVariant :=
  match self.variants.find? fun v => v.role_id = role_id ∧ v.id = variant_id with
  | none => .error .UnknownVariant
  | some variant => .ok variant

/-- The rows with the first row of this role and id replaced. -/
def replace_variant (variants : List AutoloopVariant) (variant : AutoloopVariant) :
    List AutoloopVariant :=
  variants.set (variants.findIdx fun v => v.role_id = variant.role_id ∧ v.id = variant.id) variant

def ensure_unique_variant_name (role_id : PhraseRoleId) (display_name : String)
    (except : Option VariantId) : Except AutoloopCatalogError Unit :=
  if self.variants.any fun v => v.role_id = role_id ∧ some v.id ≠ except ∧
      to_ascii_lowercase v.display_name = to_ascii_lowercase display_name then
    .error .DuplicateDisplayName
  else .ok ()

/-! ## Themes and rows -/

def rename_theme (theme_id : ThemeId) (display_name : String) :
    Except AutoloopCatalogError AutoloopCatalog := do
  let display_name ← validated_name display_name
  if self.themes.any fun theme => theme.id ≠ theme_id ∧
      to_ascii_lowercase theme.display_name = to_ascii_lowercase display_name then
    .error .DuplicateDisplayName
  else match self.themes.find? (·.id = theme_id) with
    | none => .error .UnknownTheme
    | some theme =>
      if theme.display_name = display_name then .error .NoChange
      else do
        let renamed ← theme.renamed display_name
        self.revised (self.themes.set (self.themes.findIdx (·.id = theme_id)) renamed)
          self.variants self.cells

def add_variant (role_id : PhraseRoleId) (display_name : String) :
    Except AutoloopCatalogError AutoloopCatalog := do
  let display_name ← validated_name display_name
  self.ensure_unique_variant_name role_id display_name none
  let role_variants := self.variants.filter (·.role_id = role_id)
  let id ← fresh_variant_id (role_variants.map (·.id)) (role_variants.length + 1) 1
  if 2 ^ 16 ≤ role_variants.length + 1 then .error .TooManyVariants
  else do
    let variant ← AutoloopVariant.try_new role_id id display_name
      (UInt16.ofNat (role_variants.length + 1)) false
    self.revised self.themes (sort_variants (self.variants ++ [variant])) self.cells

def rename_variant (role_id : PhraseRoleId) (variant_id : VariantId) (display_name : String) :
    Except AutoloopCatalogError AutoloopCatalog := do
  let display_name ← validated_name display_name
  self.ensure_unique_variant_name role_id display_name (some variant_id)
  let variant ← self.require_variant role_id variant_id
  if variant.display_name = display_name then .error .NoChange
  else do
    let rebuilt ← variant.rebuilt display_name variant.sort_order variant.archived
    self.revised self.themes (replace_variant self.variants rebuilt) self.cells

def target_order (order : UInt16) : AutoloopVariantMove → Option UInt16
  | .Earlier => if order = 0 then none else some (order - 1)
  | .Later => if order.toNat + 1 < 2 ^ 16 then some (order + 1) else none

def move_variant (role_id : PhraseRoleId) (variant_id : VariantId)
    (direction : AutoloopVariantMove) : Except AutoloopCatalogError AutoloopCatalog := do
  let current ← self.require_variant role_id variant_id
  match target_order current.sort_order direction with
  | none => .error .NoChange
  | some order =>
    match self.variants.find? fun v => v.role_id = role_id ∧ v.sort_order = order with
    | none => .error .NoChange
    | some target => do
      let moved ← current.rebuilt current.display_name order current.archived
      let other ← target.rebuilt target.display_name current.sort_order target.archived
      self.revised self.themes
        (sort_variants (replace_variant (replace_variant self.variants moved) other)) self.cells

def set_variant_archived (role_id : PhraseRoleId) (variant_id : VariantId) (archived : Bool) :
    Except AutoloopCatalogError AutoloopCatalog := do
  let variant ← self.require_variant role_id variant_id
  if variant.archived = archived then .error .NoChange
  else if archived ∧ (self.active_variants role_id).length = 1 then
    .error .NoActiveVariantsForRole
  else do
    let rebuilt ← variant.rebuilt variant.display_name variant.sort_order archived
    self.revised self.themes (replace_variant self.variants rebuilt) self.cells

/-! ## Cells -/

def set_cell (theme_id : ThemeId) (role_id : PhraseRoleId) (variant_id : VariantId)
    (display_name : Option String) : Except AutoloopCatalogError AutoloopCatalog :=
  if ¬ self.themes.any (·.id = theme_id) then .error .UnknownTheme
  else do
    let _ ← self.require_variant role_id variant_id
    let index := self.cells.findIdx fun cell =>
      cell.theme_id = theme_id ∧ cell.role_id = role_id ∧ cell.variant_id = variant_id
    let cells ← match self.cell theme_id role_id variant_id, display_name with
      | some existing, some display_name => do
        let display_name ← validated_name display_name
        if existing.display_name = display_name then .error .NoChange
        else do
          let cell ← AutoloopMatrixCell.try_new theme_id role_id variant_id existing.entry_id
            display_name
          .ok (self.cells.set index cell)
      | none, some display_name => do
        let entry_id ← generated_entry_id theme_id role_id variant_id
        let cell ← AutoloopMatrixCell.try_new theme_id role_id variant_id entry_id display_name
        .ok (self.cells ++ [cell])
      | some _, none => .ok (self.cells.eraseIdx index)
      | none, none => .error .NoChange
    self.revised self.themes self.variants (sort_cells cells self.themes self.variants)

/-- The cell is the button of the theme. -/
def is_mapping (theme_id : ThemeId) (mapping_id : VariantId) (cell : AutoloopMatrixCell) : Bool :=
  cell.theme_id = theme_id ∧ cell.variant_id = mapping_id

/-- The rows, with a row for the button where the role has none. -/
def mapping_variants (mapping_id : VariantId) (role_id : PhraseRoleId) :
    Except AutoloopCatalogError (List AutoloopVariant) :=
  if self.variants.any fun v => v.role_id = role_id ∧ v.id = mapping_id then .ok self.variants
  else
    let count := (self.variants.filter (·.role_id = role_id)).length
    if 2 ^ 16 ≤ count + 1 then .error .TooManyVariants
    else do
      let variant ← AutoloopVariant.try_new role_id mapping_id ("Output " ++ mapping_id.value)
        (UInt16.ofNat (count + 1)) false
      .ok (self.variants ++ [variant])

/-- The end of `set_mapping` and `clear_mapping`. -/
def pruned (variants : List AutoloopVariant) (cells : List AutoloopMatrixCell) :
    Except AutoloopCatalogError AutoloopCatalog := do
  let variants ← prune_unused_variants variants cells
  self.revised self.themes variants (sort_cells cells self.themes variants)

def set_mapping (theme_id : ThemeId) (mapping_id : VariantId) (role_id : PhraseRoleId)
    (display_name : Option String) : Except AutoloopCatalogError AutoloopCatalog :=
  if ¬ self.themes.any (·.id = theme_id) then .error .UnknownTheme
  else
    let existing := self.cells.find? (is_mapping theme_id mapping_id)
    let cells := self.cells.eraseP (is_mapping theme_id mapping_id)
    match display_name with
    | none => if existing.isNone then .error .NoChange else self.pruned self.variants cells
    | some display_name => do
      let display_name ← validated_name display_name
      if existing.any fun cell => cell.role_id = role_id ∧ cell.display_name = display_name then
        .error .NoChange
      else do
        let variants ← self.mapping_variants mapping_id role_id
        let entry_id ← mapping_entry_id theme_id mapping_id
        let cell ← AutoloopMatrixCell.try_new theme_id role_id mapping_id entry_id display_name
        self.pruned variants (cells ++ [cell])

def clear_mapping (theme_id : ThemeId) (mapping_id : VariantId) :
    Except AutoloopCatalogError AutoloopCatalog :=
  if ¬ self.themes.any (·.id = theme_id) then .error .UnknownTheme
  else if ¬ self.cells.any (is_mapping theme_id mapping_id) then .error .NoChange
  else self.pruned self.variants (self.cells.eraseP (is_mapping theme_id mapping_id))

end AutoloopCatalog

end lumi_library
