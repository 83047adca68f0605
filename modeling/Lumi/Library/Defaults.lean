-- The catalog that a library starts with: the defaults of a new one, the
-- buttons that an old one lacks, and the move of the buttons from rows to
-- columns. The moved cells keep the entries of their old places.
import Lumi.Library.CatalogEdits

open rust lumi_library

namespace lumi_engine

inductive AutoloopDefaultsError where
  | Catalog (error : AutoloopCatalogError)
  | Identifier (error : TextIdentifierError)
  | Overflow
  | MissingDefaultRole
deriving DecidableEq

namespace autoloop_defaults

abbrev Result (α : Type) := Outcome AutoloopDefaultsError α

def AUTOLOOP_CATALOG_DEFAULTS_VERSION : UInt16 := 4

def THEME_NAMES : List String := ["Electric Bloom", "Deep Ocean", "Solar Flare", "Ultraviolet"]

def BUTTON_ROLE_IDS : List (List String) :=
  [["intro-outro", "breakdown-1", "buildup-1", "drop", "synth", "breakdown-2", "buildup-3",
      "pre-drop"],
    ["intro-outro", "breakdown-1", "buildup-1", "drop", "synth", "bridge", "pre-drop",
      "breakdown-2"],
    ["intro-outro", "breakdown-1", "buildup-1", "drop", "synth", "bridge", "breakdown-3",
      "buildup-3"],
    ["intro-outro", "breakdown-1", "buildup-1", "drop", "synth", "bridge", "buildup-2",
      "pre-drop"]]

def EXTENDED_BUTTON_ROLE_IDS : List String :=
  ["buildup-2", "breakdown-3", "buildup-3", "drop", "synth", "bridge", "pre-drop", "intro-outro",
    "breakdown-1", "buildup-1", "breakdown-2", "buildup-2", "breakdown-3", "buildup-3", "synth",
    "drop", "bridge", "pre-drop", "intro-outro", "breakdown-1", "buildup-1", "drop", "synth",
    "bridge"]

def BUTTONS_PER_BANK : Nat := 32

def validate_roles (catalog : AutoloopCatalog) (phrase_roles : List PhraseRoleId) : Result Unit :=
  if catalog.variants.any fun v => v.role_id ∉ phrase_roles then
    .err (.Catalog .UnknownPhraseRole)
  else .ok ()

/-- A catalog has four themes and a bank 32 buttons, so no index is out of range. -/
def default_role_id (bank_index button_number : Nat) : String :=
  if button_number ≤ 8 then (BUTTON_ROLE_IDS.getD bank_index []).getD (button_number - 1) ""
  else EXTENDED_BUTTON_ROLE_IDS.getD (button_number - 9) ""

def mapping_id (button_number : Nat) : String := "mapping-" ++ toString button_number

def mapping_slot_number (id : VariantId) : Option UInt16 := catalog_mapping_number id

/-! ## Moved buttons -/

def uses_row_major_sound_switch_surface (catalog : AutoloopCatalog) : Bool :=
  catalog.cells.any fun cell =>
    (mapping_slot_number cell.variant_id).any fun number => 9 ≤ number ∧ number ≤ 32

/-- The number in the last word of a name. -/
def trailing_number (name : String) : Option UInt16 := do
  let word ← ((name.toList.splitOnP is_whitespace).filter (· ≠ [])).getLast?
  parse_u16 word

def starts_with (text start : String) : Bool := start.toList.isPrefixOf text.toList

def transposed_mapping_id (id : VariantId) : Result VariantId :=
  match (mapping_slot_number id).filter fun number => 1 ≤ number ∧ number ≤ 32 with
  | none => .ok id
  | some number =>
    let zero_based := number.toNat - 1
    Outcome.lift .Identifier (TextIdentifier.try_new "variant id"
      (mapping_id (zero_based % 4 * 8 + zero_based / 4 + 1)))

section names

-- `str::to_uppercase` is Unicode's, and an argument here.
variable (to_uppercase : String → String)

def role_name (role_id : String) : String :=
  to_uppercase (role_id.map fun c => if c = '-' then ' ' else c)

def default_autoloop_name (theme : AutoloopTheme) (role_id : String) (button_number : Nat) :
    String :=
  role_name to_uppercase role_id ++ " · " ++ theme.display_name ++ " " ++ toString button_number

def is_generated_sound_switch_default (cell : AutoloopMatrixCell) (catalog : AutoloopCatalog) :
    Bool :=
  match mapping_slot_number cell.variant_id with
  | none => false
  | some number =>
    (trailing_number cell.display_name = some number &&
        starts_with cell.display_name (role_name to_uppercase cell.role_id.value ++ " · ")) ||
      (catalog.themes.find? (·.id = cell.theme_id)).any fun theme =>
        (trailing_number cell.display_name).any (fun value => 1 ≤ value ∧ value ≤ 32) &&
          starts_with cell.display_name (theme.display_name ++ " · ")

/-- A cell that the user has made goes to its place in the columns, with its entry. -/
def transposed_cell (cell : AutoloopMatrixCell) : Result AutoloopMatrixCell := do
  let variant_id ← transposed_mapping_id cell.variant_id
  Outcome.lift .Catalog (AutoloopMatrixCell.try_new cell.theme_id cell.role_id variant_id
    cell.entry_id cell.display_name)

/-- The loop over the rows. A row that no cell is in is left out, and the places of a role are
counted anew. -/
def transposed_variants (cells : List AutoloopMatrixCell) :
    List AutoloopVariant → List AutoloopVariant → Result (List AutoloopVariant)
  | _, [] => .ok []
  | kept, variant :: variants => do
    let id ← transposed_mapping_id variant.id
    if cells.any fun cell => cell.role_id = variant.role_id ∧ cell.variant_id = id then
      let order := (kept.filter (·.role_id = variant.role_id)).length + 1
      let moved ← Outcome.lift .Catalog (AutoloopVariant.try_new variant.role_id id
        variant.display_name (UInt16.ofNat order) variant.archived)
      let rest ← transposed_variants cells (kept ++ [moved]) variants
      .ok (moved :: rest)
    else transposed_variants cells kept variants

variable (existing : AutoloopCatalog) (phrase_roles : List PhraseRoleId)

def transpose_sound_switch_slots : Result AutoloopCatalog := do
  let cells ← Outcome.collect transposed_cell (existing.cells.filter fun cell =>
    !is_generated_sound_switch_default to_uppercase cell existing)
  let variants ← transposed_variants cells [] existing.variants
  let revision ← Outcome.ok_or (checked_add existing.revision 1) .Overflow
  let migrated ← Outcome.lift .Catalog (AutoloopCatalog.try_new revision
    AUTOLOOP_CATALOG_DEFAULTS_VERSION existing.themes variants cells)
  validate_roles migrated phrase_roles
  .ok migrated

/-! ## Defaults -/

/-- What a button of a bank shows: what it had, or the default. -/
def resolved_mapping (bank_index : Nat) (theme : AutoloopTheme) (button_number : Nat) :
    String × String :=
  match existing.cells.find? fun cell =>
      cell.theme_id = theme.id ∧ cell.variant_id.value = mapping_id button_number with
  | some cell => (cell.role_id.value, cell.display_name)
  | none =>
    let role_id := default_role_id bank_index button_number
    (role_id, default_autoloop_name to_uppercase theme role_id button_number)

def bank_mappings (bank_index : Nat) (theme : AutoloopTheme) : List (Nat × String × String) :=
  (List.range BUTTONS_PER_BANK).map fun index =>
    (index + 1, resolved_mapping to_uppercase existing bank_index theme (index + 1))

def default_theme (index : Nat) (name : String) : Result AutoloopTheme :=
  Outcome.lift .Catalog (AutoloopTheme.try_new ⟨UInt64.ofNat (index + 1)⟩ name
    (UInt16.ofNat (index + 1)))

/-- The loop over the rows of the defaults, sorted by role and button. -/
def default_variants : List AutoloopVariant → List (String × Nat) → Result (List AutoloopVariant)
  | _, [] => .ok []
  | made, (role_id, button_number) :: keys => do
    let role_id ← Outcome.lift .Identifier (TextIdentifier.try_new "phrase role id" role_id)
    let id ← Outcome.lift .Identifier
      (TextIdentifier.try_new "variant id" (mapping_id button_number))
    let variant ← Outcome.lift .Catalog (AutoloopVariant.try_new role_id id
      ("Output mapping " ++ toString button_number)
      (UInt16.ofNat ((made.filter (·.role_id = role_id)).length + 1)) false)
    let rest ← default_variants (made ++ [variant]) keys
    .ok (variant :: rest)

def default_cell (theme : AutoloopTheme) (mapping : Nat × String × String) :
    Result AutoloopMatrixCell := do
  let (button_number, role_id, display_name) := mapping
  let variant_id ← Outcome.lift .Identifier
    (TextIdentifier.try_new "variant id" (mapping_id button_number))
  let role_id ← Outcome.lift .Identifier (TextIdentifier.try_new "phrase role id" role_id)
  let entry_id ← Outcome.lift .Identifier (TextIdentifier.try_new "Autoloop entry id"
    ("theme-" ++ toString theme.id.value.toNat ++ "--" ++ mapping_id button_number))
  Outcome.lift .Catalog (AutoloopMatrixCell.try_new theme.id role_id variant_id entry_id
    display_name)

def key_le (left right : String × Nat) : Bool :=
  text_lt left.1 right.1 || (left.1 = right.1 && left.2 ≤ right.2)

def default_catalog : Result AutoloopCatalog := do
  let themes ← if existing.revision = 0 then
      Outcome.collect (fun pair => default_theme pair.2 pair.1) THEME_NAMES.zipIdx
    else .ok existing.themes
  let banks := themes.zipIdx.map fun pair =>
    (pair.1, bank_mappings to_uppercase existing pair.2 pair.1)
  let mappings := banks.flatMap (·.2)
  if mappings.any fun mapping => mapping.2.1 ∉ phrase_roles.map (·.value) then
    .err .MissingDefaultRole
  else
    let keys := ((mappings.map fun mapping => (mapping.2.1, mapping.1)).insertionSort
      fun left right => key_le left right).dedup
    let variants ← default_variants [] keys
    let cells ← Outcome.collect (fun pair => default_cell pair.1 pair.2)
      (banks.flatMap fun bank => bank.2.map fun mapping => (bank.1, mapping))
    let revision ← if existing.revision = 0 then .ok 1
      else Outcome.ok_or (checked_add existing.revision 1) .Overflow
    let catalog ← Outcome.lift .Catalog (AutoloopCatalog.try_new revision
      AUTOLOOP_CATALOG_DEFAULTS_VERSION themes variants cells)
    validate_roles catalog phrase_roles
    .ok catalog

def seeded_autoloop_catalog : Result AutoloopCatalog :=
  if existing.defaults_version ≥ AUTOLOOP_CATALOG_DEFAULTS_VERSION then do
    validate_roles existing phrase_roles
    .ok existing
  else if existing.revision ≠ 0 ∧ uses_row_major_sound_switch_surface existing then
    transpose_sound_switch_slots to_uppercase existing phrase_roles
  else default_catalog to_uppercase existing phrase_roles

end names

end autoloop_defaults

end lumi_engine
