import Reindex.Load
import Reindex.Proofs.Validation
import Reindex.Proofs.Wire.Values

namespace Reindex

namespace Yaml.Node

variable {α : Type} {members given : List (String × Node)} {name : String} {node other : Node}

/-- A value is read from the member of its name, and is standard where that is missing or null. -/
structure Fills (members : List (String × Node)) (name : String) (read : Node → Option α)
    (standard value : α) : Prop where
  written : ∀ node, (name, node) ∈ members → node.present? ≠ some none → read node = some value
  missing : (∀ node, (name, node) ∈ members → node.present? = some none) → value = standard

theorem eq_of_present? (h : node.present? = some (some other)) : other = node := by
  revert h
  fun_cases present? node <;> intro h <;> cases h <;> rfl

theorem lookup_of_mem (hnames : (members.map Prod.fst).Nodup) (h : (name, node) ∈ members) :
    members.lookup name = some node := by
  obtain ⟨before, after, rfl⟩ := List.append_of_mem h
  rw [List.lookup_eq_some_iff]
  refine ⟨before, after, rfl, fun member hmember => ?_⟩
  rw [List.map_append, List.nodup_append] at hnames
  have hother : member.1 ≠ name :=
    hnames.2.2 _ (List.mem_map_of_mem hmember) _ (by simp)
  simpa using hother.symm

theorem optional_cases {read : Node → Option α} {value : Option α}
    (h : Document.optional read name members = some value) :
    value = none ∧ (∀ node, members.lookup name = some node → node.present? = some none) ∨
    ∃ node x, members.lookup name = some node ∧ node.present? = some (some node) ∧
      read node = some x ∧ value = some x := by
  unfold Document.optional at h
  cases hlookup : members.lookup name with
  | none =>
    rw [hlookup] at h
    exact Or.inl ⟨(Option.some_inj.mp h).symm, by simp⟩
  | some node =>
    simp only [hlookup, Option.bind_eq_bind, Option.bind_eq_some_iff] at h
    obtain ⟨present, hpresent, h⟩ := h
    cases present with
    | none =>
      refine Or.inl ⟨(Option.some_inj.mp h).symm, fun other hother => ?_⟩
      rwa [← Option.some_inj.mp hother]
    | some other =>
      obtain ⟨x, hx, h⟩ := Option.map_eq_some_iff.mp h
      have hother : other = node := eq_of_present? hpresent
      rw [hother] at hx hpresent
      exact Or.inr ⟨node, x, rfl, hpresent, hx, h.symm⟩

theorem fills_of_optional {read : Node → Option α} {value : Option α} (standard : α)
    (hnames : (members.map Prod.fst).Nodup)
    (h : Document.optional read name members = some value) :
    Fills members name read standard (value.getD standard) := by
  rcases optional_cases h with ⟨rfl, hnull⟩ | ⟨node, x, hlookup, hpresent, hread, rfl⟩
  · refine ⟨fun node hmem hsome => absurd (hnull node (lookup_of_mem hnames hmem)) hsome, ?_⟩
    exact fun _ => rfl
  · constructor
    · intro other hmem _
      rw [lookup_of_mem hnames hmem, Option.some_inj] at hlookup
      rw [hlookup, hread]
      rfl
    · intro hnull
      obtain ⟨before, after, rfl, _⟩ := List.lookup_eq_some_iff.mp hlookup
      simp [hnull node (by simp)] at hpresent

theorem slots?_eq_some {slots : List Slot} (h : Document.slots? true slots node = some given) :
    node.members? = some given ∧ (given.map Prod.fst).Nodup := by
  obtain ⟨record, hrecord, h⟩ := Option.bind_eq_some_iff.mp h
  obtain ⟨members, hmembers, rfl⟩ := Option.map_eq_some_iff.mp hrecord
  simp only [Record.slots?, Bool.true_and, bne_iff_ne] at h
  by_cases hlength : (members.filter fun member =>
      slots.any fun slot => slot.name == member.1).length = members.length
  · have hknown := List.filter_eq_self.mpr (List.length_filter_eq_length_iff.mp hlength)
    rw [if_neg (not_not_intro hlength), hknown] at h
    by_cases hnames : (members.map Prod.fst).Nodup
    · rw [if_pos hnames, Option.some_inj] at h
      exact h ▸ ⟨hmembers, hnames⟩
    · simp [hnames] at h
  · simp [hlength] at h

end Yaml.Node

namespace Config

/-- The text of a configuration is read as the value that it is written from. -/
def IsReadable (format : Yaml.Format) (config : Config) : Prop :=
  (format.read? (config.text format)).bind ConfigFile.read? =
    ConfigFile.read? config.toFile.toJson

instance (format : Yaml.Format) (config : Config) : Decidable (config.IsReadable format) :=
  inferInstanceAs (Decidable (_ = _))

def versionOf? (format : Yaml.Format) (text : String) : Option UInt32 := do
  Document.required Document.word32? "version" (← (← format.read? text).members?)

/-- Each value is the one written in a document, or else the standard one. -/
structure Overlays (config : Config) (members : List (String × Yaml.Node)) : Prop where
  indexStem : Yaml.Node.Fills members "index_name_prefix" Document.text? standard.indexStem
    config.indexStem
  pathLimit : Yaml.Node.Fills members "max_path_depth" Document.word64? standard.pathLimit
    config.pathLimit
  duplicates : Yaml.Node.Fills members "duplicate_definitions" DuplicatePolicy.read?
    standard.duplicates config.duplicates
  settings : Yaml.Node.Fills members "settings" Settings.read? standard.settings config.settings

end Config

theorem ConfigFile.read?_eq_some {node : Yaml.Node} {file : ConfigFile}
    (h : read? node = some file) : ∃ members, node.members? = some members ∧
      (members.map Prod.fst).Nodup ∧
      Document.optional Document.word32? "version" members = some file.version ∧
      Document.optional Document.text? "index_name_prefix" members = some file.indexStem ∧
      Document.optional Document.word64? "max_path_depth" members = some file.pathLimit ∧
      Document.optional DuplicatePolicy.read? "duplicate_definitions" members =
        some file.duplicates ∧
      Document.optional Settings.read? "settings" members = some file.settings := by
  obtain ⟨members, hmembers, h⟩ := Option.bind_eq_some_iff.mp h
  obtain ⟨hmembers, hnames⟩ := Yaml.Node.slots?_eq_some hmembers
  obtain ⟨version, hversion, h⟩ := Option.bind_eq_some_iff.mp h
  obtain ⟨indexStem, hindexStem, h⟩ := Option.bind_eq_some_iff.mp h
  obtain ⟨pathLimit, hpathLimit, h⟩ := Option.bind_eq_some_iff.mp h
  obtain ⟨duplicates, hduplicates, h⟩ := Option.bind_eq_some_iff.mp h
  obtain ⟨settings, hsettings, h⟩ := Option.bind_eq_some_iff.mp h
  cases h
  exact ⟨members, hmembers, hnames, hversion, hindexStem, hpathLimit, hduplicates, hsettings⟩

namespace Config

variable {format : Yaml.Format} {config : Config} {text : String} {file : ConfigFile}
  {node : Yaml.Node}

theorem overlays_of_read? (h : ConfigFile.read? node = some file) :
    ∃ members, node.members? = some members ∧ (overlay file).Overlays members := by
  obtain ⟨members, hmembers, hnames, _, hindexStem, hpathLimit, hduplicates, hsettings⟩ :=
    ConfigFile.read?_eq_some h
  exact ⟨members, hmembers, Yaml.Node.fills_of_optional _ hnames hindexStem,
    Yaml.Node.fills_of_optional _ hnames hpathLimit,
    Yaml.Node.fills_of_optional _ hnames hduplicates,
    Yaml.Node.fills_of_optional _ hnames hsettings⟩

theorem versionOf?_of_read? {version : UInt32} (hnode : format.read? text = some node)
    (h : ConfigFile.read? node = some file) (hversion : file.version = some version) :
    versionOf? format text = some version := by
  obtain ⟨members, hmembers, _, hread, _⟩ := ConfigFile.read?_eq_some h
  rw [hversion] at hread
  rcases Yaml.Node.optional_cases hread with ⟨hnone, _⟩ | ⟨node, x, hlookup, _, hx, heq⟩
  · cases hnone
  · rw [Option.some_inj.mp heq]
    simp [versionOf?, hnode, hmembers, Document.required, hlookup, hx]

theorem ofFile_of_version (h : file.version = some 1) : ofFile file =
    match (overlay file).fault? with
    | some fault => .error fault
    | none => .ok (overlay file) := by
  have hversion : ConfigError.checkVersion file.version = .ok () :=
    ConfigError.checkVersion_eq_ok.mpr h
  rw [ofFile, hversion]
  rfl

theorem ofFile_of_version_ne (h : file.version ≠ some 1) : ∃ error, ofFile file = .error error ∧
    (error = .missingVersion ∨ ∃ found, error = .unsupportedVersion found [1]) := by
  cases hversion : file.version with
  | none => exact ⟨_, by rw [ofFile, hversion]; rfl, Or.inl rfl⟩
  | some found =>
    have hother : found ≠ 1 := fun hone => h (hone ▸ hversion)
    have hcheck : ConfigError.checkVersion (some found) =
        .error (.unsupportedVersion found [1]) := if_neg hother
    exact ⟨_, by rw [ofFile, hversion, hcheck]; rfl, Or.inr ⟨found, rfl⟩⟩

theorem ofFile_eq_ok : ofFile file = .ok config ↔
    file.version = some 1 ∧ overlay file = config ∧ config.fault? = none := by
  by_cases hversion : file.version = some 1
  · rw [ofFile_of_version hversion]
    cases hfault : (overlay file).fault? with
    | none =>
      have hloaded : overlay file = config → config.fault? = none := fun h => h ▸ hfault
      simp only [Except.ok.injEq, hversion, true_and]
      exact ⟨fun h => ⟨h, hloaded h⟩, fun h => h.1⟩
    | some fault =>
      have hrefused : overlay file = config → config.fault? ≠ none := by
        rintro rfl
        simp [hfault]
      simp only [reduceCtorEq, false_iff]
      exact fun h => hrefused h.2.1 h.2.2
  · obtain ⟨error, herror, _⟩ := ofFile_of_version_ne hversion
    simp [herror, hversion]

theorem ofText_text (h : config.IsReadable format) : ofText format (config.text format) =
    match config.fault? with
    | some fault => .error fault
    | none => .ok config := by
  have hfile : (format.read? (config.text format)).bind ConfigFile.read? = some config.toFile :=
    h.trans (ConfigFile.read?_toJson config.toFile)
  rw [ofText, hfile]
  exact ofFile_of_version rfl

theorem ofText_eq_ok (h : ofText format text = .ok config) : config.fault? = none ∧
    ∃ node members, format.read? text = some node ∧ node.members? = some members ∧
      config.Overlays members := by
  unfold ofText at h
  split at h
  · rename_i file hfile
    obtain ⟨node, hnode, hread⟩ := Option.bind_eq_some_iff.mp hfile
    obtain ⟨_, rfl, hfault⟩ := ofFile_eq_ok.mp h
    obtain ⟨members, hmembers, hoverlays⟩ := overlays_of_read? hread
    exact ⟨hfault, node, members, hnode, hmembers, hoverlays⟩
  · cases h

/-- The version is checked before any value, so no other error is reported for it. -/
theorem ofText_of_version_ne (h : versionOf? format text ≠ some 1) : ∃ error,
    ofText format text = .error error ∧ (error = .malformed ∨ error = .missingVersion ∨
      ∃ found, error = .unsupportedVersion found [1]) := by
  unfold ofText
  split
  · rename_i file hfile
    obtain ⟨node, hnode, hread⟩ := Option.bind_eq_some_iff.mp hfile
    have hversion : file.version ≠ some 1 := fun hone => h (versionOf?_of_read? hnode hread hone)
    obtain ⟨error, herror, hkind⟩ := ofFile_of_version_ne hversion
    exact ⟨error, herror, Or.inr hkind⟩
  · exact ⟨_, rfl, Or.inl rfl⟩

end Config

namespace Shop

def limited : Config where
  indexStem := "shop_"
  pathLimit := 4
  duplicates := .reject
  settings := ⟨∅, (∅ : Std.ExtTreeMap String SettingMap).insert "Order"
    ((∅ : SettingMap).insert "shards" (Json.Normal.ofJson (.nat 1)))⟩

def unlimited : Config := { Config.standard with pathLimit := 65 }

theorem isReadable_limited : limited.IsReadable Yaml.format := by decide +kernel

theorem isReadable_unlimited : unlimited.IsReadable Yaml.format := by decide +kernel

end Shop

end Reindex
