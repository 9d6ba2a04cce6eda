import ReSymbol.Core.Symbols
import ReSymbol.Schemes.Groups
import ReSymbol.Schemes.Pruning

/-! Discovered plugins and their dependencies.

    A scan of the plugin directory finds plugins, each with a manifest that names an identifier, a
    version and the versions it requires of others. Plugins that share an identifier are all
    quarantined. Then enabled plugins with a dependency that is missing, that has the wrong version
    or that may not be loaded are disabled, and since this may take a dependency away from others,
    over again until nothing changes.

        discovered ──quarantine duplicates──▶ ──disable unresolved──▶ … ──▶ stable

    Plugins that need each other in a circle stay enabled when nothing else is wrong with them: what
    stays is the greatest set of enabled plugins that is closed under dependencies. -/

namespace ReSymbol.Core
open Schemes

/-! ### Plugins -/

instance : Ord PluginId := ⟨fun a b => compare a.asStr b.asStr⟩

instance : Std.TransOrd PluginId where
  eq_swap := Std.OrientedOrd.eq_swap (α := String)
  isLE_trans := Std.TransOrd.isLE_trans (α := String)

instance : Std.LawfulEqOrd PluginId where
  eq_of_compare h := PluginId.ext (Std.LawfulEqOrd.eq_of_compare (α := String) h)

/-- Versions and requirements on them, with their texts. -/
class Semver (Version : Type) (Requirement : outParam Type) where
  requirementMatches : Requirement → Version → Bool
  versionText : Version → String
  requirementText : Requirement → String

export Semver (requirementMatches versionText requirementText)

inductive PluginHealthState where
  | discovered
  | enabled
  | disabled
  | incompatible
  | quarantined
  | developmentError
  deriving DecidableEq

namespace PluginHealthState

def isLoadable : PluginHealthState → Bool
  | .discovered | .enabled => true
  | _ => false

/-- The text that `Debug` gives. -/
def debugText : PluginHealthState → String
  | .discovered => "Discovered"
  | .enabled => "Enabled"
  | .disabled => "Disabled"
  | .incompatible => "Incompatible"
  | .quarantined => "Quarantined"
  | .developmentError => "DevelopmentError"

end PluginHealthState

inductive PluginDiagnosticCode where
  | unsupportedPlatform
  | missingDependency
  | incompatibleDependency
  | duplicateId
  | permissionDenied

inductive DiagnosticSeverity where
  | warning
  | error

structure PluginDiagnostic where
  code : PluginDiagnosticCode
  severity : DiagnosticSeverity
  message : String

def PluginDiagnostic.error (code : PluginDiagnosticCode) (message : String) : PluginDiagnostic :=
  ⟨code, .error, message⟩

structure PluginHealth where
  state : PluginHealthState
  diagnostics : List PluginDiagnostic

namespace PluginHealth

def withDiagnostic (state : PluginHealthState) (diagnostic : PluginDiagnostic) : PluginHealth :=
  ⟨state, [diagnostic]⟩

def addDiagnostic (health : PluginHealth) (diagnostic : PluginDiagnostic) : PluginHealth :=
  { health with diagnostics := health.diagnostics ++ [diagnostic] }

end PluginHealth

/-- What the resolution and the wire read of a manifest. -/
structure PluginManifest (Version Requirement : Type) where
  id : PluginId
  name : String
  version : Version
  capabilities : Finset String
  permissions : Finset String
  dependencies : List (PluginId × Requirement)

structure DiscoveredPlugin (Version Requirement : Type) where
  manifest : Option (PluginManifest Version Requirement)
  health : PluginHealth

section Resolution

variable {Version Requirement : Type}

namespace DiscoveredPlugin

def id (plugin : DiscoveredPlugin Version Requirement) : Option PluginId :=
  plugin.manifest.map PluginManifest.id

/-- The plugins that the resolution looks at. -/
def isEnabled (plugin : DiscoveredPlugin Version Requirement) : Bool :=
  plugin.manifest.isSome && decide (plugin.health.state = .enabled)

/-- A plugin with a manifest that was found and not selected for loading. -/
def isDiscovered (plugin : DiscoveredPlugin Version Requirement) : Bool :=
  plugin.manifest.isSome && decide (plugin.health.state = .discovered)

end DiscoveredPlugin

/-! ### Duplicate identifiers -/

def quarantineAsDuplicate (id : PluginId) (plugin : DiscoveredPlugin Version Requirement) :
    DiscoveredPlugin Version Requirement :=
  let health : PluginHealth := { plugin.health with state := .quarantined }
  { plugin with health := health.addDiagnostic
                  (.error .duplicateId ("multiple plugins declare id `" ++ id.asStr ++ "`")) }

def quarantineDuplicateIds (plugins : List (DiscoveredPlugin Version Requirement)) :
    List (DiscoveredPlugin Version Requirement) :=
  updateLargeGroups quarantineAsDuplicate (groupIndices DiscoveredPlugin.id plugins).toList plugins

/-! ### Unresolved dependencies -/

/-- Versions and states by identifier; a later plugin takes the place of an earlier one. -/
def catalog (plugins : List (DiscoveredPlugin Version Requirement)) :
    Std.ExtTreeMap PluginId (Version × PluginHealthState) :=
  plugins.foldl (fun catalog plugin =>
    match plugin.manifest with
    | some manifest => catalog.insert manifest.id (manifest.version, plugin.health.state)
    | none => catalog) ∅

variable [Semver Version Requirement]

/-- What is wrong with one dependency. -/
def dependencyFailure (catalog : Std.ExtTreeMap PluginId (Version × PluginHealthState))
    (dependency : PluginId) (requirement : Requirement) :
    Option (PluginDiagnosticCode × String) :=
  match catalog[dependency]? with
  | none => some (.missingDependency, "missing dependency `" ++ dependency.asStr ++ "` (" ++
      requirementText Version requirement ++ ")")
  | some (version, state) =>
    if ¬ requirementMatches requirement version then
      some (.incompatibleDependency, "dependency `" ++ dependency.asStr ++ "` is " ++
        versionText version ++ ", but " ++ requirementText Version requirement ++ " is required")
    else if ¬ state.isLoadable then
      some (.missingDependency, "dependency `" ++ dependency.asStr ++ "` is not loadable (" ++
        state.debugText ++ ")")
    else none

/-- The first dependency that fails, of a plugin that is looked at. -/
def failureOf (catalog : Std.ExtTreeMap PluginId (Version × PluginHealthState))
    (plugin : DiscoveredPlugin Version Requirement) : Option (PluginDiagnosticCode × String) :=
  match plugin.manifest with
  | none => none
  | some manifest =>
    if plugin.health.state = .enabled then
      manifest.dependencies.findSome? fun dependency =>
        dependencyFailure catalog dependency.1 dependency.2
    else none

/-- A plugin with a failed dependency is disabled. -/
def disableIfUnresolved (catalog : Std.ExtTreeMap PluginId (Version × PluginHealthState))
    (plugin : DiscoveredPlugin Version Requirement) : DiscoveredPlugin Version Requirement :=
  match failureOf catalog plugin with
  | some (code, message) =>
    { plugin with health := .withDiagnostic .disabled (.error code message) }
  | none => plugin

def disableRound (plugins : List (DiscoveredPlugin Version Requirement)) :
    Round (List (DiscoveredPlugin Version Requirement))
      (List (DiscoveredPlugin Version Requirement)) :=
  let catalog := catalog plugins
  let changed := plugins.any fun plugin => (failureOf catalog plugin).isSome
  let plugins := plugins.map (disableIfUnresolved catalog)
  if changed then .again plugins else .done plugins

/-- Every round but the last disables a plugin. -/
def disableUnresolvedDependencies (plugins : List (DiscoveredPlugin Version Requirement)) :
    Running Empty (List (DiscoveredPlugin Version Requirement)) :=
  loop (fun plugins => .ok (disableRound plugins)) (plugins.length + 1) plugins

/-- The two passes of `discover_plugins` over what was found. -/
def resolvePlugins (plugins : List (DiscoveredPlugin Version Requirement)) :
    Running Empty (List (DiscoveredPlugin Version Requirement)) :=
  disableUnresolvedDependencies (quarantineDuplicateIds plugins)

end Resolution

/-! ### What the resolution is for -/

section Purpose

variable {Version Requirement : Type}

/-- No other plugin has the identifier of this one. -/
def UniqueId (plugins : List (DiscoveredPlugin Version Requirement))
    (plugin : DiscoveredPlugin Version Requirement) : Prop :=
  plugin.id.isSome ∧ plugins.countP (fun other => other.id = plugin.id) = 1

variable [Semver Version Requirement]

/-- Every dependency of the plugin is met by one of these, or by one of the `found`. -/
def Supported (found S : Set (DiscoveredPlugin Version Requirement))
    (plugin : DiscoveredPlugin Version Requirement) : Prop :=
  ∀ manifest, plugin.manifest = some manifest → ∀ dependency ∈ manifest.dependencies,
    ∃ provider ∈ S ∪ found, ∃ provided, provider.manifest = some provided ∧
      provided.id = dependency.1 ∧ requirementMatches dependency.2 provided.version = true

/-- A set of plugins that may be enabled together: its members were enabled and have identifiers of
    their own, and all their dependencies are met inside of it or by plugins merely discovered. -/
def Consistent (plugins : List (DiscoveredPlugin Version Requirement))
    (S : Set (DiscoveredPlugin Version Requirement)) : Prop :=
  S ⊆ {plugin | plugin ∈ plugins ∧ plugin.isEnabled = true ∧ UniqueId plugins plugin} ∧
    SelfSupporting (Supported
      {plugin | plugin ∈ plugins ∧ plugin.isDiscovered = true ∧ UniqueId plugins plugin}) S

theorem Supported.mono (found S T : Set (DiscoveredPlugin Version Requirement))
    (plugin : DiscoveredPlugin Version Requirement) (hST : S ⊆ T)
    (h : Supported found S plugin) : Supported found T plugin := by
  intro manifest hmanifest dependency hdependency
  obtain ⟨provider, hprovider, hmet⟩ := h manifest hmanifest dependency hdependency
  exact ⟨provider, Set.union_subset_union_left found hST hprovider, hmet⟩

end Purpose

/-! ### Identifiers that occur once -/

section Duplicates

variable {Version Requirement : Type}

/-- Of plugins that share an identifier none may be loaded. -/
def OneLoadable (plugins : List (DiscoveredPlugin Version Requirement)) : Prop :=
  plugins.Pairwise fun p q => p.id = q.id → p.id.isSome →
    p.health.state.isLoadable = false ∧ q.health.state.isLoadable = false

/-- What the quarantine does to one of the plugins. -/
def afterQuarantine (plugins : List (DiscoveredPlugin Version Requirement))
    (plugin : DiscoveredPlugin Version Requirement) : DiscoveredPlugin Version Requirement :=
  match plugin.id with
  | some id =>
    if plugins.countP (fun other => other.id = some id) < 2 then plugin
    else quarantineAsDuplicate id plugin
  | none => plugin

theorem quarantineDuplicateIds_eq_map (plugins : List (DiscoveredPlugin Version Requirement)) :
    quarantineDuplicateIds plugins = plugins.map (afterQuarantine plugins) := by
  rw [quarantineDuplicateIds, updateLargeGroups_groupIndices]
  refine List.map_congr_left fun plugin _ => ?_
  unfold afterQuarantine
  cases plugin.id with
  | none => rfl
  | some id => rfl

@[simp] theorem afterQuarantine_manifest (plugins : List (DiscoveredPlugin Version Requirement))
    (plugin : DiscoveredPlugin Version Requirement) :
    (afterQuarantine plugins plugin).manifest = plugin.manifest := by
  unfold afterQuarantine
  cases plugin.id with
  | none => rfl
  | some id =>
    dsimp only
    split_ifs
    · rfl
    · rfl

theorem afterQuarantine_id (plugins : List (DiscoveredPlugin Version Requirement))
    (plugin : DiscoveredPlugin Version Requirement) :
    (afterQuarantine plugins plugin).id = plugin.id := by
  rw [DiscoveredPlugin.id, afterQuarantine_manifest, DiscoveredPlugin.id]

theorem uniqueId_iff {plugins : List (DiscoveredPlugin Version Requirement)}
    {plugin : DiscoveredPlugin Version Requirement} (hmem : plugin ∈ plugins) {id : PluginId}
    (hid : plugin.id = some id) :
    UniqueId plugins plugin ↔ plugins.countP (fun other => other.id = some id) < 2 := by
  have hpos : 0 < plugins.countP (fun other => other.id = some id) :=
    List.countP_pos_iff.mpr ⟨plugin, hmem, by simpa using hid⟩
  rw [UniqueId, hid]
  simp only [Option.isSome_some, true_and]
  omega

/-- A plugin stays what it is when its identifier is its own, and may not be loaded otherwise. -/
theorem afterQuarantine_cases {plugins : List (DiscoveredPlugin Version Requirement)}
    {plugin : DiscoveredPlugin Version Requirement} (hmem : plugin ∈ plugins)
    (hid : plugin.id.isSome) :
    UniqueId plugins plugin ∧ afterQuarantine plugins plugin = plugin ∨
      ¬ UniqueId plugins plugin ∧
        (afterQuarantine plugins plugin).health.state.isLoadable = false := by
  obtain ⟨id, hid⟩ := Option.isSome_iff_exists.mp hid
  rw [uniqueId_iff hmem hid, afterQuarantine, hid]
  dsimp only
  by_cases hcount : plugins.countP (fun other => other.id = some id) < 2
  · exact .inl ⟨hcount, if_pos hcount⟩
  · rw [if_neg hcount]
    exact .inr ⟨hcount, rfl⟩

/-- What may be loaded after the quarantine: what could be before, under an identifier of its
    own. -/
theorem mem_quarantineDuplicateIds {plugins : List (DiscoveredPlugin Version Requirement)}
    {plugin : DiscoveredPlugin Version Requirement} (hid : plugin.id.isSome)
    (hloadable : plugin.health.state.isLoadable = true) :
    plugin ∈ quarantineDuplicateIds plugins ↔ plugin ∈ plugins ∧ UniqueId plugins plugin := by
  rw [quarantineDuplicateIds_eq_map, List.mem_map]
  constructor
  · rintro ⟨before, hmem, rfl⟩
    rw [afterQuarantine_id] at hid
    rcases afterQuarantine_cases hmem hid with ⟨hunique, hsame⟩ | ⟨-, hnot⟩
    · rw [hsame]
      exact ⟨hmem, hunique⟩
    · rw [hnot] at hloadable
      cases hloadable
  · rintro ⟨hmem, hunique⟩
    rcases afterQuarantine_cases hmem hid with ⟨-, hsame⟩ | ⟨hnot, -⟩
    · exact ⟨plugin, hmem, hsame⟩
    · exact absurd hunique hnot

theorem quarantineDuplicateIds_oneLoadable
    (plugins : List (DiscoveredPlugin Version Requirement)) :
    OneLoadable (quarantineDuplicateIds plugins) := by
  rw [OneLoadable, quarantineDuplicateIds_eq_map, List.pairwise_map,
    List.pairwise_iff_forall_sublist]
  intro p q hsub heq hsome
  rw [afterQuarantine_id] at heq hsome
  rw [afterQuarantine_id] at heq
  have hshared : ∀ r ∈ [p, q], ¬ UniqueId plugins r := by
    intro r hr hunique
    have hr : r.id = p.id := by
      simp only [List.mem_cons, List.not_mem_nil, or_false] at hr
      rcases hr with rfl | rfl
      · rfl
      · exact heq.symm
    have htwo : 2 ≤ plugins.countP (fun other => other.id = r.id) :=
      calc 2 = [p, q].countP (fun other => other.id = r.id) := by simp [hr, heq]
        _ ≤ _ := hsub.countP_le
    have hone := hunique.2
    omega
  have hblocked : ∀ r ∈ [p, q], (afterQuarantine plugins r).health.state.isLoadable = false := by
    intro r hr
    have hid : r.id.isSome := by
      simp only [List.mem_cons, List.not_mem_nil, or_false] at hr
      rcases hr with rfl | rfl
      · exact hsome
      · exact heq ▸ hsome
    rcases afterQuarantine_cases (hsub.subset hr) hid with ⟨hunique, -⟩ | ⟨-, hnot⟩
    · exact absurd hunique (hshared r hr)
    · exact hnot
  exact ⟨hblocked p (by simp), hblocked q (by simp)⟩

end Duplicates

/-! ### One round -/

section Rounds

variable {Version Requirement : Type}

/-- The plugins that are still enabled. -/
def enabledIn (plugins : List (DiscoveredPlugin Version Requirement)) :
    Set (DiscoveredPlugin Version Requirement) :=
  {plugin | plugin ∈ plugins ∧ plugin.isEnabled = true}

def discoveredIn (plugins : List (DiscoveredPlugin Version Requirement)) :
    Set (DiscoveredPlugin Version Requirement) :=
  {plugin | plugin ∈ plugins ∧ plugin.isDiscovered = true}

theorem mem_enabledIn_union_discoveredIn {plugins : List (DiscoveredPlugin Version Requirement)}
    {plugin : DiscoveredPlugin Version Requirement} :
    plugin ∈ enabledIn plugins ∪ discoveredIn plugins ↔ plugin ∈ plugins ∧
      plugin.manifest.isSome ∧ plugin.health.state.isLoadable = true := by
  simp only [enabledIn, discoveredIn, Set.mem_union, Set.mem_ofPred_eq,
    DiscoveredPlugin.isEnabled, DiscoveredPlugin.isDiscovered, Bool.and_eq_true,
    decide_eq_true_eq]
  cases plugin.health.state <;> simp [PluginHealthState.isLoadable]

theorem catalog_concat (plugins : List (DiscoveredPlugin Version Requirement))
    (plugin : DiscoveredPlugin Version Requirement) :
    catalog (plugins ++ [plugin]) =
      match plugin.manifest with
      | some manifest => (catalog plugins).insert manifest.id
          (manifest.version, plugin.health.state)
      | none => catalog plugins := by
  rw [catalog, List.foldl_append]
  rfl

/-- A plugin that may be loaded is in the catalog, whatever stands behind it. -/
theorem catalog_getElem?_loadable {plugins : List (DiscoveredPlugin Version Requirement)}
    (hone : OneLoadable plugins) (id : PluginId) (version : Version) {state : PluginHealthState}
    (hloadable : state.isLoadable = true) :
    (catalog plugins)[id]? = some (version, state) ↔
      ∃ plugin ∈ plugins, ∃ manifest, plugin.manifest = some manifest ∧ manifest.id = id ∧
        manifest.version = version ∧ plugin.health.state = state := by
  induction plugins using List.reverseRecOn with
  | nil => simp [catalog]
  | append_singleton plugins last ih =>
    obtain ⟨hone', -, hcross⟩ := List.pairwise_append.mp hone
    specialize ih hone'
    rw [catalog_concat]
    cases hlast : last.manifest with
    | none =>
      dsimp only
      rw [ih]
      constructor
      · rintro ⟨plugin, hmem, hrest⟩
        exact ⟨plugin, List.mem_append_left _ hmem, hrest⟩
      · rintro ⟨plugin, hmem, manifest, hmanifest, hrest⟩
        rcases List.mem_append.mp hmem with hmem | hmem
        · exact ⟨plugin, hmem, manifest, hmanifest, hrest⟩
        · rw [List.mem_singleton.mp hmem, hlast] at hmanifest
          cases hmanifest
    | some manifest =>
      dsimp only
      rw [Std.ExtTreeMap.getElem?_insert]
      by_cases hid : manifest.id = id
      · rw [if_pos (by rw [hid]; exact Std.ReflCmp.compare_self)]
        constructor
        · intro heq
          obtain ⟨hversion, hstate⟩ := Prod.mk.inj (Option.some.inj heq)
          exact ⟨last, by simp, manifest, hlast, hid, hversion, hstate⟩
        · rintro ⟨plugin, hmem, manifest', hmanifest', hid', hversion, hstate⟩
          rcases List.mem_append.mp hmem with hmem | hmem
          · -- an earlier plugin with this identifier may not be loaded
            have hsame : plugin.id = last.id := by
              rw [DiscoveredPlugin.id, DiscoveredPlugin.id, hmanifest', hlast, Option.map_some,
                Option.map_some, hid, hid']
            have hnot := (hcross plugin hmem last (by simp) hsame
              (by rw [DiscoveredPlugin.id, hmanifest']; rfl)).1
            rw [hstate, hloadable] at hnot
            cases hnot
          · rw [List.mem_singleton.mp hmem, hlast] at hmanifest'
            cases hmanifest'
            rw [hversion, ← hstate, List.mem_singleton.mp hmem]
      · rw [if_neg (mt Std.LawfulEqCmp.eq_of_compare hid), ih]
        constructor
        · rintro ⟨plugin, hmem, hrest⟩
          exact ⟨plugin, List.mem_append_left _ hmem, hrest⟩
        · rintro ⟨plugin, hmem, manifest', hmanifest', hid', hrest⟩
          rcases List.mem_append.mp hmem with hmem | hmem
          · exact ⟨plugin, hmem, manifest', hmanifest', hid', hrest⟩
          · rw [List.mem_singleton.mp hmem, hlast] at hmanifest'
            cases hmanifest'
            exact absurd hid' hid

/-- Enabled plugins are told apart by their identifiers. -/
theorem OneLoadable.nodup_enabled {plugins : List (DiscoveredPlugin Version Requirement)}
    (h : OneLoadable plugins) : (plugins.filter DiscoveredPlugin.isEnabled).Nodup := by
  rw [List.nodup_iff_pairwise_ne, List.pairwise_filter]
  refine h.imp ?_
  intro p q hpq hp _ heq
  rw [DiscoveredPlugin.isEnabled, Bool.and_eq_true, decide_eq_true_eq] at hp
  have hnot := (hpq (by rw [heq]) (by simpa [DiscoveredPlugin.id] using hp.1)).1
  rw [hp.2] at hnot
  cases hnot

/-- What the loop keeps: the manifests, the discovered plugins and distinct identifiers. -/
structure Resolving (plugins current : List (DiscoveredPlugin Version Requirement)) : Prop where
  manifests : current.map DiscoveredPlugin.manifest = plugins.map DiscoveredPlugin.manifest
  oneLoadable : OneLoadable current
  discovered : discoveredIn current =
    {plugin | plugin ∈ plugins ∧ plugin.isDiscovered = true ∧ UniqueId plugins plugin}

theorem quarantineDuplicateIds_resolving
    (plugins : List (DiscoveredPlugin Version Requirement)) :
    Resolving plugins (quarantineDuplicateIds plugins) where
  manifests := by
    rw [quarantineDuplicateIds_eq_map, List.map_map]
    exact List.map_congr_left fun plugin _ => afterQuarantine_manifest plugins plugin
  oneLoadable := quarantineDuplicateIds_oneLoadable plugins
  discovered := by
    ext plugin
    simp only [discoveredIn, Set.mem_ofPred_eq]
    rw [← and_assoc, and_right_comm, and_congr_left_iff]
    intro hdiscovered
    rw [DiscoveredPlugin.isDiscovered, Bool.and_eq_true, decide_eq_true_eq] at hdiscovered
    exact mem_quarantineDuplicateIds (by simpa [DiscoveredPlugin.id] using hdiscovered.1)
      (by rw [hdiscovered.2]; rfl)

theorem enabledIn_quarantineDuplicateIds (plugins : List (DiscoveredPlugin Version Requirement)) :
    enabledIn (quarantineDuplicateIds plugins) =
      {plugin | plugin ∈ plugins ∧ plugin.isEnabled = true ∧ UniqueId plugins plugin} := by
  ext plugin
  simp only [enabledIn, Set.mem_ofPred_eq]
  rw [← and_assoc, and_right_comm, and_congr_left_iff]
  intro henabled
  rw [DiscoveredPlugin.isEnabled, Bool.and_eq_true, decide_eq_true_eq] at henabled
  exact mem_quarantineDuplicateIds (by simpa [DiscoveredPlugin.id] using henabled.1)
    (by rw [henabled.2]; rfl)

variable [Semver Version Requirement]

theorem dependencyFailure_eq_none_iff
    {catalog : Std.ExtTreeMap PluginId (Version × PluginHealthState)} {dependency : PluginId}
    {requirement : Requirement} :
    dependencyFailure catalog dependency requirement = none ↔
      ∃ (version : Version) (state : PluginHealthState),
        catalog[dependency]? = some (version, state) ∧
          requirementMatches requirement version = true ∧ state.isLoadable = true := by
  unfold dependencyFailure
  cases catalog[dependency]? with
  | none => simp
  | some entry =>
    obtain ⟨version, state⟩ := entry
    dsimp only
    by_cases hversion : requirementMatches requirement version = true
    · by_cases hloadable : state.isLoadable = true
      · rw [if_neg (not_not.mpr hversion), if_neg (not_not.mpr hloadable)]
        simp only [true_iff]
        exact ⟨version, state, rfl, hversion, hloadable⟩
      · rw [if_neg (not_not.mpr hversion), if_pos hloadable]
        simp only [reduceCtorEq, false_iff]
        rintro ⟨version', state', heq, -, hstate⟩
        cases heq
        exact hloadable hstate
    · rw [if_pos hversion]
      simp only [reduceCtorEq, false_iff]
      rintro ⟨version', state', heq, hmatches, -⟩
      cases heq
      exact hversion hmatches

/-- The catalog tells which plugins are supported. -/
theorem failureOf_eq_none_iff {plugins : List (DiscoveredPlugin Version Requirement)}
    (hone : OneLoadable plugins) {plugin : DiscoveredPlugin Version Requirement}
    (henabled : plugin.isEnabled = true) :
    failureOf (catalog plugins) plugin = none ↔
      Supported (discoveredIn plugins) (enabledIn plugins) plugin := by
  rw [DiscoveredPlugin.isEnabled, Bool.and_eq_true, decide_eq_true_eq] at henabled
  obtain ⟨manifest, hmanifest⟩ := Option.isSome_iff_exists.mp henabled.1
  rw [failureOf, hmanifest, Supported]
  dsimp only
  rw [if_pos henabled.2, List.findSome?_eq_none_iff]
  have hmet : ∀ dependency ∈ manifest.dependencies,
      dependencyFailure (catalog plugins) dependency.1 dependency.2 = none ↔
        ∃ provider ∈ enabledIn plugins ∪ discoveredIn plugins, ∃ provided,
          provider.manifest = some provided ∧ provided.id = dependency.1 ∧
            requirementMatches dependency.2 provided.version = true := by
    intro dependency _
    rw [dependencyFailure_eq_none_iff]
    constructor
    · rintro ⟨version, state, hget, hmatches, hloadable⟩
      obtain ⟨provider, hmem, provided, hprovided, hid, rfl, rfl⟩ :=
        (catalog_getElem?_loadable hone dependency.1 version hloadable).mp hget
      exact ⟨provider, mem_enabledIn_union_discoveredIn.mpr
        ⟨hmem, by rw [hprovided]; rfl, hloadable⟩, provided, hprovided, hid, hmatches⟩
    · rintro ⟨provider, hprovider, provided, hprovided, hid, hmatches⟩
      obtain ⟨hmem, -, hloadable⟩ := mem_enabledIn_union_discoveredIn.mp hprovider
      exact ⟨provided.version, provider.health.state,
        (catalog_getElem?_loadable hone dependency.1 provided.version hloadable).mpr
          ⟨provider, hmem, provided, hprovided, hid, rfl, rfl⟩, hmatches, hloadable⟩
  constructor
  · intro hnone manifest' heq dependency hdependency
    obtain rfl : manifest = manifest' := Option.some.inj (hmanifest.symm.trans heq)
    exact (hmet dependency hdependency).mp (hnone dependency hdependency)
  · intro hsupported dependency hdependency
    exact (hmet dependency hdependency).mpr (hsupported manifest hmanifest dependency hdependency)

/-- A plugin is left alone, or it was enabled and is disabled. -/
theorem disableIfUnresolved_cases
    (catalog : Std.ExtTreeMap PluginId (Version × PluginHealthState))
    (plugin : DiscoveredPlugin Version Requirement) :
    failureOf catalog plugin = none ∧ disableIfUnresolved catalog plugin = plugin ∨
      (failureOf catalog plugin).isSome ∧ plugin.isEnabled = true ∧
        (disableIfUnresolved catalog plugin).health.state = .disabled := by
  unfold disableIfUnresolved
  cases hfailure : failureOf catalog plugin with
  | none => exact .inl ⟨rfl, rfl⟩
  | some failure =>
    refine .inr ⟨rfl, ?_, rfl⟩
    rw [failureOf] at hfailure
    cases hmanifest : plugin.manifest with
    | none =>
      rw [hmanifest] at hfailure
      cases hfailure
    | some manifest =>
      rw [hmanifest] at hfailure
      dsimp only at hfailure
      split_ifs at hfailure with hstate
      rw [DiscoveredPlugin.isEnabled, hmanifest, hstate]
      rfl

@[simp] theorem disableIfUnresolved_manifest
    (catalog : Std.ExtTreeMap PluginId (Version × PluginHealthState))
    (plugin : DiscoveredPlugin Version Requirement) :
    (disableIfUnresolved catalog plugin).manifest = plugin.manifest := by
  unfold disableIfUnresolved
  cases failureOf catalog plugin with
  | none => rfl
  | some failure => rfl

theorem isLoadable_disableIfUnresolved
    (catalog : Std.ExtTreeMap PluginId (Version × PluginHealthState))
    {plugin : DiscoveredPlugin Version Requirement}
    (h : plugin.health.state.isLoadable = false) :
    (disableIfUnresolved catalog plugin).health.state.isLoadable = false := by
  rcases disableIfUnresolved_cases catalog plugin with ⟨-, hsame⟩ | ⟨-, -, hdisabled⟩
  · rwa [hsame]
  · rw [hdisabled]
    rfl

theorem OneLoadable.disable {plugins : List (DiscoveredPlugin Version Requirement)}
    (h : OneLoadable plugins) (catalog : Std.ExtTreeMap PluginId (Version × PluginHealthState)) :
    OneLoadable (plugins.map (disableIfUnresolved catalog)) := by
  rw [OneLoadable, List.pairwise_map]
  refine h.imp ?_
  intro p q hpq heq hsome
  simp only [DiscoveredPlugin.id, disableIfUnresolved_manifest] at heq hsome
  obtain ⟨hp, hq⟩ := hpq heq hsome
  exact ⟨isLoadable_disableIfUnresolved catalog hp, isLoadable_disableIfUnresolved catalog hq⟩

theorem discoveredIn_disable (plugins : List (DiscoveredPlugin Version Requirement))
    (catalog : Std.ExtTreeMap PluginId (Version × PluginHealthState)) :
    discoveredIn (plugins.map (disableIfUnresolved catalog)) = discoveredIn plugins := by
  ext plugin
  simp only [discoveredIn, Set.mem_ofPred_eq, List.mem_map]
  constructor
  · rintro ⟨⟨before, hmem, rfl⟩, hdiscovered⟩
    rcases disableIfUnresolved_cases catalog before with ⟨-, hsame⟩ | ⟨-, -, hdisabled⟩
    · rw [hsame] at hdiscovered ⊢
      exact ⟨hmem, hdiscovered⟩
    · rw [DiscoveredPlugin.isDiscovered, hdisabled] at hdiscovered
      simp at hdiscovered
  · rintro ⟨hmem, hdiscovered⟩
    rcases disableIfUnresolved_cases catalog plugin with ⟨-, hsame⟩ | ⟨-, henabled, -⟩
    · exact ⟨⟨plugin, hmem, hsame⟩, hdiscovered⟩
    · simp only [DiscoveredPlugin.isDiscovered, DiscoveredPlugin.isEnabled, Bool.and_eq_true,
        decide_eq_true_eq] at hdiscovered henabled
      rw [henabled.2] at hdiscovered
      cases hdiscovered.2

/-- A round leaves enabled what the enabled plugins support. -/
theorem enabledIn_disable {plugins : List (DiscoveredPlugin Version Requirement)}
    (hone : OneLoadable plugins) :
    enabledIn (plugins.map (disableIfUnresolved (catalog plugins))) =
      {plugin ∈ enabledIn plugins |
        Supported (discoveredIn plugins) (enabledIn plugins) plugin} := by
  ext plugin
  constructor
  · rintro ⟨hmem, henabled⟩
    obtain ⟨before, hbefore, rfl⟩ := List.mem_map.mp hmem
    rcases disableIfUnresolved_cases (catalog plugins) before with
      ⟨hnone, hsame⟩ | ⟨-, -, hdisabled⟩
    · rw [hsame] at henabled ⊢
      exact ⟨⟨hbefore, henabled⟩, (failureOf_eq_none_iff hone henabled).mp hnone⟩
    · rw [DiscoveredPlugin.isEnabled, hdisabled] at henabled
      simp at henabled
  · rintro ⟨⟨hmem, henabled⟩, hsupported⟩
    have hnone := (failureOf_eq_none_iff hone henabled).mpr hsupported
    refine ⟨List.mem_map.mpr ⟨plugin, hmem, ?_⟩, henabled⟩
    rw [disableIfUnresolved, hnone]

/-- A round that changes something leaves fewer plugins enabled. -/
theorem countP_disable_lt {plugins : List (DiscoveredPlugin Version Requirement)}
    (catalog : Std.ExtTreeMap PluginId (Version × PluginHealthState))
    (hchanged : plugins.any (fun plugin => (failureOf catalog plugin).isSome) = true) :
    (plugins.map (disableIfUnresolved catalog)).countP DiscoveredPlugin.isEnabled <
      plugins.countP DiscoveredPlugin.isEnabled := by
  have hle : ∀ rest : List (DiscoveredPlugin Version Requirement),
      (rest.map (disableIfUnresolved catalog)).countP DiscoveredPlugin.isEnabled ≤
        rest.countP DiscoveredPlugin.isEnabled := by
    intro rest
    rw [List.countP_map]
    refine List.countP_mono_left fun plugin _ henabled => ?_
    rcases disableIfUnresolved_cases catalog plugin with ⟨-, hsame⟩ | ⟨-, hbefore, -⟩
    · rwa [Function.comp_apply, hsame] at henabled
    · exact hbefore
  obtain ⟨plugin, hmem, hfailure⟩ := List.any_eq_true.mp hchanged
  obtain ⟨front, back, rfl⟩ := List.append_of_mem hmem
  rcases disableIfUnresolved_cases catalog plugin with ⟨hnone, -⟩ | ⟨-, hbefore, hdisabled⟩
  · rw [hnone] at hfailure
    cases hfailure
  · have hafter : (disableIfUnresolved catalog plugin).isEnabled = false := by
      rw [DiscoveredPlugin.isEnabled, hdisabled]
      simp
    have hfront := hle front
    have hback := hle back
    simp only [List.map_append, List.map_cons, List.countP_append, List.countP_cons, hafter,
      hbefore, if_true]
    simp only [Bool.false_eq_true, if_false]
    omega

/-- One round of the loop is a round of pruning. -/
theorem disableRound_prunes {found : Set (DiscoveredPlugin Version Requirement)}
    {plugins : List (DiscoveredPlugin Version Requirement)} (hone : OneLoadable plugins)
    (hfound : discoveredIn plugins = found) :
    Prunes (fun plugins => (.ok (disableRound plugins) : Except Empty _)) (Supported found)
      enabledIn (List.countP DiscoveredPlugin.isEnabled) plugins
      (plugins.map (disableIfUnresolved (catalog plugins))) where
  kept_eq := hfound ▸ enabledIn_disable hone
  outcome := by
    dsimp only [disableRound]
    by_cases hchanged :
        plugins.any (fun plugin => (failureOf (catalog plugins) plugin).isSome) = true
    · rw [if_pos hchanged]
      exact .inl ⟨rfl, countP_disable_lt (catalog plugins) hchanged⟩
    · rw [if_neg hchanged]
      refine .inr ⟨rfl, ?_⟩
      have hsame : plugins.map (disableIfUnresolved (catalog plugins)) = plugins := by
        refine (List.map_congr_left (g := id) fun plugin hmem => ?_).trans (List.map_id _)
        rcases disableIfUnresolved_cases (catalog plugins) plugin with
          ⟨-, hsame⟩ | ⟨hfailure, -, -⟩
        · exact hsame
        · exact absurd (List.any_eq_true.mpr ⟨plugin, hmem, hfailure⟩) hchanged
      rw [hsame]

/-- The resolution ends with the greatest consistent set. -/
theorem resolvePlugins_ends (plugins : List (DiscoveredPlugin Version Requirement)) :
    ∃ result, resolvePlugins plugins = Running.ended (.ok result) ∧ Resolving plugins result ∧
      IsGreatest {S | Consistent plugins S} (enabledIn result) := by
  have hround : ∀ current, Resolving plugins current → ∃ next, Resolving plugins next ∧
      Prunes (fun plugins => (.ok (disableRound plugins) : Except Empty _))
        (Supported {plugin | plugin ∈ plugins ∧ plugin.isDiscovered = true ∧
          UniqueId plugins plugin}) enabledIn (List.countP DiscoveredPlugin.isEnabled)
        current next := by
    intro current hcurrent
    refine ⟨current.map (disableIfUnresolved (catalog current)), ⟨?_, ?_, ?_⟩,
      disableRound_prunes hcurrent.oneLoadable hcurrent.discovered⟩
    · rw [List.map_map, ← hcurrent.manifests]
      exact List.map_congr_left fun plugin _ => disableIfUnresolved_manifest _ plugin
    · exact hcurrent.oneLoadable.disable _
    · rw [discoveredIn_disable, hcurrent.discovered]
  obtain ⟨result, hloop, hresult, hgreatest⟩ := loop_prunes (Supported.mono _) hround
    (quarantineDuplicateIds_resolving plugins)
    (Nat.lt_succ_of_le (List.countP_le_length (p := DiscoveredPlugin.isEnabled)))
  rw [enabledIn_quarantineDuplicateIds] at hgreatest
  exact ⟨result, hloop, hresult, hgreatest⟩

theorem consistent_perm {plugins plugins' : List (DiscoveredPlugin Version Requirement)}
    (h : plugins.Perm plugins') (S : Set (DiscoveredPlugin Version Requirement)) :
    Consistent plugins S ↔ Consistent plugins' S := by
  have hunique : ∀ plugin, UniqueId plugins plugin ↔ UniqueId plugins' plugin := by
    intro plugin
    rw [UniqueId, UniqueId, h.countP_eq]
  simp only [Consistent, h.mem_iff, hunique]

/-- CORRECT (resolution): the resolution comes to an end and leaves enabled the greatest consistent
    set of the plugins, in whatever order they were found. -/
theorem enabled_plugins_greatest_consistent
    (plugins : List (DiscoveredPlugin Version Requirement)) :
    ∃ result, resolvePlugins plugins = Running.ended (.ok result) ∧
      result.map DiscoveredPlugin.manifest = plugins.map DiscoveredPlugin.manifest ∧
      IsGreatest {S | Consistent plugins S}
        {plugin | plugin ∈ result ∧ plugin.isEnabled = true} ∧
      ∀ plugins', plugins.Perm plugins' → ∃ result',
        resolvePlugins plugins' = Running.ended (.ok result') ∧
          (result'.filter DiscoveredPlugin.isEnabled).Perm
            (result.filter DiscoveredPlugin.isEnabled) := by
  obtain ⟨result, hends, hresult, hgreatest⟩ := resolvePlugins_ends plugins
  refine ⟨result, hends, hresult.manifests, hgreatest, ?_⟩
  intro plugins' hperm
  obtain ⟨result', hends', hresult', hgreatest'⟩ := resolvePlugins_ends plugins'
  refine ⟨result', hends', ?_⟩
  simp only [← consistent_perm hperm] at hgreatest'
  have hsame : enabledIn result' = enabledIn result := hgreatest'.unique hgreatest
  rw [List.perm_ext_iff_of_nodup hresult'.oneLoadable.nodup_enabled
    hresult.oneLoadable.nodup_enabled]
  intro plugin
  rw [List.mem_filter, List.mem_filter]
  exact Set.ext_iff.mp hsame plugin

end Rounds

end ReSymbol.Core
