-- The AutoLoop catalog: four themes, the variants that each phrase role has,
-- and the cells that map a variant in a theme to an entry. A catalog carries
-- the checks of its constructor as a field.
import Lumi.Library.Timeline

open rust lumi_domain

namespace lumi_library

abbrev AutoloopEntryId := TextIdentifier "Autoloop entry id"

inductive AutoloopCatalogError where
  | InvalidRevision
  | RevisionConflict (expected actual : UInt64)
  | InvalidThemeId
  | InvalidThemeCount
  | EmptyDisplayName
  | DisplayNameTooLong
  | InvalidSortOrder
  | DuplicateThemeId
  | DuplicateVariantId
  | DuplicateDisplayName
  | DuplicateCell
  | DuplicateEntryId
  | UnknownTheme
  | UnknownVariant
  | IncompatibleVariant
  | UnknownPhraseRole
  | MissingRoleCoverage
  | MissingExactCell
  | NoActiveVariantsForRole
  | NoChange
  | IdentifierOverflow
  | TooManyVariants
  | ArithmeticOverflow
  | DuplicateMappingIdentity
deriving DecidableEq

/-! ## Names -/

/-- `str::trim`. -/
def trim (text : String) : String :=
  String.ofList ((text.toList.dropWhile is_whitespace).rdropWhile is_whitespace)

def validated_name (value : String) : Except AutoloopCatalogError String :=
  let value := trim value
  if value.isEmpty then .error .EmptyDisplayName
  else if value.utf8ByteSize > 100 then .error .DisplayNameTooLong
  else .ok value

/-- A name that came out of the check. -/
def Validated (name : String) : Prop := ∃ value, validated_name value = .ok name

/-- `str::to_ascii_lowercase`. -/
def to_ascii_lowercase (text : String) : String := String.ofList (text.toList.map Char.toLower)

/-! ## Themes, variants and cells -/

structure AutoloopTheme where
  id : ThemeId
  display_name : String
  sort_order : UInt16
  identified : id.value ≠ 0
  ordered : sort_order ≠ 0
  named : Validated display_name

def AutoloopTheme.try_new (id : ThemeId) (display_name : String) (sort_order : UInt16) :
    Except AutoloopCatalogError AutoloopTheme :=
  if hid : id.value = 0 then .error .InvalidThemeId
  else if horder : sort_order = 0 then .error .InvalidSortOrder
  else match h : validated_name display_name with
    | .error e => .error e
    | .ok name => .ok ⟨id, name, sort_order, hid, horder, display_name, h⟩

structure AutoloopVariant where
  role_id : PhraseRoleId
  id : VariantId
  display_name : String
  sort_order : UInt16
  archived : Bool
  ordered : sort_order ≠ 0
  named : Validated display_name

def AutoloopVariant.try_new (role_id : PhraseRoleId) (id : VariantId) (display_name : String)
    (sort_order : UInt16) (archived : Bool) : Except AutoloopCatalogError AutoloopVariant :=
  if horder : sort_order = 0 then .error .InvalidSortOrder
  else match h : validated_name display_name with
    | .error e => .error e
    | .ok name => .ok ⟨role_id, id, name, sort_order, archived, horder, display_name, h⟩

structure AutoloopMatrixCell where
  theme_id : ThemeId
  role_id : PhraseRoleId
  variant_id : VariantId
  entry_id : AutoloopEntryId
  display_name : String
  identified : theme_id.value ≠ 0
  named : Validated display_name

def AutoloopMatrixCell.try_new (theme_id : ThemeId) (role_id : PhraseRoleId)
    (variant_id : VariantId) (entry_id : AutoloopEntryId) (display_name : String) :
    Except AutoloopCatalogError AutoloopMatrixCell :=
  if hid : theme_id.value = 0 then .error .InvalidThemeId
  else match h : validated_name display_name with
    | .error e => .error e
    | .ok name => .ok ⟨theme_id, role_id, variant_id, entry_id, name, hid, display_name, h⟩

/-- `str::parse::<u16>`: digits, after a plus sign or none, of a number that fits. -/
def parse_u16 (digits : List Char) : Option UInt16 :=
  let digits := match digits with
    | '+' :: rest => rest
    | _ => digits
  if digits.isEmpty || !(digits.all Char.isDigit) then none
  else
    let value := digits.foldl (fun value digit => value * 10 + (digit.toNat - '0'.toNat)) 0
    if value < 2 ^ 16 then some (UInt16.ofNat value) else none

/-- The number of a variant called `mapping-` and a number. -/
def catalog_mapping_number (variant_id : VariantId) : Option UInt16 :=
  if "mapping-".toList.isPrefixOf variant_id.value.toList then
    parse_u16 (variant_id.value.toList.drop 8)
  else none

/-! ## The catalog -/

def validate_themes : List ThemeId → List String → Nat → List AutoloopTheme →
    Except AutoloopCatalogError Unit
  | _, _, _, [] => .ok ()
  | ids, names, index, theme :: themes =>
    if theme.id ∈ ids then .error .DuplicateThemeId
    else if to_ascii_lowercase theme.display_name ∈ names then .error .DuplicateDisplayName
    else if theme.sort_order.toNat ≠ index + 1 then .error .InvalidSortOrder
    else validate_themes (theme.id :: ids) (to_ascii_lowercase theme.display_name :: names)
      (index + 1) themes

/-- The loop over the variants. The place that a variant must have is one after the variants of
its role that came before. -/
def validate_variants : List AutoloopVariant → List AutoloopVariant →
    Except AutoloopCatalogError Unit
  | _, [] => .ok ()
  | seen, variant :: variants =>
    let of_role := seen.filter (·.role_id = variant.role_id)
    if of_role.any (·.id = variant.id) then .error .DuplicateVariantId
    else if of_role.any fun other =>
        to_ascii_lowercase other.display_name = to_ascii_lowercase variant.display_name then
      .error .DuplicateDisplayName
    else if variant.sort_order.toNat ≠ of_role.length + 1 then .error .InvalidSortOrder
    else validate_variants (seen ++ [variant]) variants

/-- The loop over the cells. -/
def validate_cells (themes : List AutoloopTheme) (variants : List AutoloopVariant) :
    List AutoloopMatrixCell → List AutoloopMatrixCell → Except AutoloopCatalogError Unit
  | _, [] => .ok ()
  | seen, cell :: cells =>
    if ¬ themes.any (·.id = cell.theme_id) then .error .UnknownTheme
    else if ¬ variants.any (fun v => v.role_id = cell.role_id ∧ v.id = cell.variant_id) then
      .error .UnknownVariant
    else if seen.any fun other => other.theme_id = cell.theme_id ∧ other.role_id = cell.role_id ∧
        other.variant_id = cell.variant_id then .error .DuplicateCell
    else if seen.any (·.entry_id = cell.entry_id) then .error .DuplicateEntryId
    else validate_cells themes variants (cell :: seen) cells

/-- The second loop over the cells: a numbered variant is mapped once in a theme. -/
def validate_mappings : List AutoloopMatrixCell → List AutoloopMatrixCell →
    Except AutoloopCatalogError Unit
  | _, [] => .ok ()
  | seen, cell :: cells =>
    if (catalog_mapping_number cell.variant_id).isSome ∧
        seen.any fun other => other.theme_id = cell.theme_id ∧ other.variant_id = cell.variant_id
      then .error .DuplicateMappingIdentity
    else validate_mappings (cell :: seen) cells

def validate_catalog (revision : UInt64) (defaults_version : UInt16) (themes : List AutoloopTheme)
    (variants : List AutoloopVariant) (cells : List AutoloopMatrixCell) :
    Except AutoloopCatalogError Unit := do
  if revision = 0 ∧ (defaults_version ≠ 0 ∨ ¬ themes.isEmpty ∨ ¬ variants.isEmpty) then
    throw .InvalidRevision
  if 0 < revision ∧ themes.length ≠ 4 then throw .InvalidThemeCount
  validate_themes [] [] 0 themes
  validate_variants [] variants
  validate_cells themes variants [] cells
  validate_mappings [] cells

structure AutoloopCatalog where
  revision : UInt64
  defaults_version : UInt16
  themes : List AutoloopTheme
  variants : List AutoloopVariant
  cells : List AutoloopMatrixCell
  valid : validate_catalog revision defaults_version themes variants cells = .ok ()

namespace AutoloopCatalog

def try_new (revision : UInt64) (defaults_version : UInt16) (themes : List AutoloopTheme)
    (variants : List AutoloopVariant) (cells : List AutoloopMatrixCell) :
    Except AutoloopCatalogError AutoloopCatalog :=
  match h : validate_catalog revision defaults_version themes variants cells with
  | .error e => .error e
  | .ok () => .ok ⟨revision, defaults_version, themes, variants, cells, h⟩

end AutoloopCatalog

/-! ## Resolution -/

inductive AutoloopResolutionReason where
  | Automatic
  | ExactVariant
  | ThemeSpecificExact
  | SameRoleFallback (requested_variant_id : VariantId)
deriving DecidableEq

structure AutoloopResolution where
  theme_id : ThemeId
  role_id : PhraseRoleId
  variant_id : VariantId
  entry_id : AutoloopEntryId
  display_name : String
  catalog_revision : UInt64
  reason : AutoloopResolutionReason
deriving DecidableEq

namespace AutoloopCatalog

variable (self : AutoloopCatalog)

def cell (theme_id : ThemeId) (role_id : PhraseRoleId) (variant_id : VariantId) :
    Option AutoloopMatrixCell :=
  self.cells.find? fun cell =>
    cell.theme_id = theme_id ∧ cell.role_id = role_id ∧ cell.variant_id = variant_id

def resolution (cell : AutoloopMatrixCell) (reason : AutoloopResolutionReason) :
    AutoloopResolution where
  theme_id := cell.theme_id
  role_id := cell.role_id
  variant_id := cell.variant_id
  entry_id := cell.entry_id
  display_name := cell.display_name
  catalog_revision := self.revision
  reason := reason

def active_variants (role_id : PhraseRoleId) : List AutoloopVariant :=
  self.variants.filter fun variant => variant.role_id = role_id ∧ variant.archived = false

variable (theme_id : ThemeId)

/-- The cell of the variant that is asked for, when the variant is active. -/
def preferred_cell (role_id : PhraseRoleId) (preferred : Option VariantId) :
    Option AutoloopMatrixCell := do
  let preferred ← preferred
  let variant ← (self.active_variants role_id).find? (·.id = preferred)
  self.cell theme_id role_id variant.id

def resolve (role_id : PhraseRoleId) (preferred_variant_id : Option VariantId)
    (expected_revision : UInt64) : Except AutoloopCatalogError AutoloopResolution :=
  if expected_revision ≠ self.revision then
    .error (.RevisionConflict expected_revision self.revision)
  else if ¬ self.themes.any (·.id = theme_id) then .error .UnknownTheme
  else if (self.active_variants role_id).isEmpty then .error .MissingRoleCoverage
  else match self.preferred_cell theme_id role_id preferred_variant_id with
    | some cell => .ok (self.resolution cell .ExactVariant)
    | none =>
      match (self.active_variants role_id).findSome? fun variant =>
          self.cell theme_id role_id variant.id with
      | none => .error .MissingRoleCoverage
      | some fallback =>
        .ok (self.resolution fallback (match preferred_variant_id with
          | none => .Automatic
          | some preferred => .SameRoleFallback preferred))

def require_active_role_variant (role_id : PhraseRoleId) (variant_id : VariantId) :
    Except AutoloopCatalogError AutoloopVariant :=
  match self.variants.find? fun variant =>
      variant.role_id = role_id ∧ variant.id = variant_id ∧ variant.archived = false with
  | none => .error .IncompatibleVariant
  | some variant => .ok variant

/-- The loop over the overrides of a strategy. -/
def validate_overrides (role_id : PhraseRoleId) :
    List ThemeSpecificVariant → Except AutoloopCatalogError Unit
  | [] => .ok ()
  | override :: overrides =>
    if ¬ self.themes.any (·.id = override.theme_id) then .error .UnknownTheme
    else do
      let _ ← self.require_active_role_variant role_id override.variant_id
      if (self.cell override.theme_id role_id override.variant_id).isNone then
        .error .MissingExactCell
      else validate_overrides role_id overrides

def validate_loop_strategy (role_id : PhraseRoleId) :
    PhraseLoopStrategy → Except AutoloopCatalogError Unit
  | .Auto => .ok ()
  | .FixedVariant variant_id => do
    let _ ← self.require_active_role_variant role_id variant_id
  | .ThemeSpecificExact overrides => self.validate_overrides role_id overrides

def resolve_exact_strategy (role_id : PhraseRoleId) (variant_id : VariantId)
    (reason : AutoloopResolutionReason) : Except AutoloopCatalogError AutoloopResolution :=
  if ¬ (self.active_variants role_id).any (·.id = variant_id) then .error .IncompatibleVariant
  else match self.cell theme_id role_id variant_id with
    | none => .error .MissingExactCell
    | some cell => .ok (self.resolution cell reason)

def resolve_loop_strategy (role_id : PhraseRoleId) (strategy : PhraseLoopStrategy)
    (expected_revision : UInt64) :
    Except AutoloopCatalogError AutoloopResolution :=
  if expected_revision ≠ self.revision then
    .error (.RevisionConflict expected_revision self.revision)
  else if ¬ self.themes.any (·.id = theme_id) then .error .UnknownTheme
  else match strategy with
    | .Auto => self.resolve theme_id role_id none expected_revision
    | .FixedVariant variant_id =>
      self.resolve_exact_strategy theme_id role_id variant_id .ExactVariant
    | .ThemeSpecificExact overrides =>
      match overrides.find? (·.theme_id = theme_id) with
      | none => self.resolve theme_id role_id none expected_revision
      | some override =>
        self.resolve_exact_strategy theme_id role_id override.variant_id .ThemeSpecificExact

end AutoloopCatalog

end lumi_library
