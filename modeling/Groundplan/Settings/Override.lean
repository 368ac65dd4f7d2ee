import Groundplan.Settings
import Groundplan.Value

/-!
# Overriding settings

A mapping from names of settings to values overrides the settings it names. Names that are no
settings are rejected before any value is looked at; then the first value that does not fit its
setting is.

What fits: a truth value for the renderer's switch, a positive integer for its timeout, a list of
non-empty texts (or one such text) for the hosted compute types, and a non-empty text for every
other setting (`Setting.apply`).
-/

namespace Groundplan

/-- The name of one setting. -/
inductive Setting where
  | infraDir
  | mainFile
  | sourceSuffix
  | readmeFile
  | imagesDir
  | latestArtifact
  | artifactPrefix
  | planId
  | serverFarmProperty
  | hostedComputeTypes
  | serviceTagKey
  | useRenderer
  | rendererTimeout
deriving DecidableEq, Repr

/-- Why a mapping does not override settings. -/
inductive SettingsError where
  /-- Names that are no settings, sorted. -/
  | unknownNames (names : List Text)
  /-- A key that is no text. -/
  | unknownKey (key : Value)
  | notFlag (setting : Setting) (value : Value)
  | notPositive (setting : Setting) (value : Value)
  | notTextList (setting : Setting)
  | notText (setting : Setting) (value : Value)

namespace Setting

/-- All settings. -/
def all : List Setting :=
  [infraDir, mainFile, sourceSuffix, readmeFile, imagesDir, latestArtifact, artifactPrefix, planId,
    serverFarmProperty, hostedComputeTypes, serviceTagKey, useRenderer, rendererTimeout]

/-- The name by which a mapping refers to a setting. -/
def name : Setting → Text
  | infraDir => "infra_dir"
  | mainFile => "main_file"
  | sourceSuffix => "source_suffix"
  | readmeFile => "readme_file"
  | imagesDir => "images_dir"
  | latestArtifact => "latest_artifact"
  | artifactPrefix => "artifact_prefix"
  | planId => "plan_id"
  | serverFarmProperty => "server_farm_property"
  | hostedComputeTypes => "hosted_compute_types"
  | serviceTagKey => "service_tag_key"
  | useRenderer => "use_mmdc"
  | rendererTimeout => "mmdc_timeout"

/-- The setting with a name. -/
def ofName? (t : Text) : Option Setting := all.find? fun setting => setting.name == t

/-- The setting that a key of a mapping names. -/
def ofKey? : Value → Option Setting
  | .text t => ofName? t
  | _ => none

/-! ## Admissible values -/

/-- A text that is not empty. -/
def text? : Value → Option Text
  | .text t => if t.isEmpty then none else some t
  | _ => none

/-- One non-empty text or a list of them. -/
def texts? : Value → Option (List Text)
  | .text t => (text? (.text t)).map fun t => [t]
  | .list items => items.mapM text?
  | .pairs [] => some []
  | _ => none

/-- An integer above zero. -/
def positive? : Value → Option Nat
  | .int n => if 0 < n then some n.toNat else none
  | _ => none

/-- A truth value. -/
def flag? : Value → Option Bool
  | .flag b => some b
  | _ => none

/-- The settings with `value` for a setting that holds a non-empty text. -/
def applyText (setting : Setting) (set : Text → Settings) (value : Value) :
    Except SettingsError Settings :=
  match text? value with
  | some t => .ok (set t)
  | none => .error (.notText setting value)

/-- The settings with `value` for one setting. -/
def apply (s : Settings) (setting : Setting) (value : Value) : Except SettingsError Settings :=
  match setting with
  | infraDir => applyText setting (fun t => { s with infraDir := t }) value
  | mainFile => applyText setting (fun t => { s with mainFile := t }) value
  | sourceSuffix => applyText setting (fun t => { s with sourceSuffix := t }) value
  | readmeFile => applyText setting (fun t => { s with readmeFile := t }) value
  | imagesDir => applyText setting (fun t => { s with imagesDir := t }) value
  | latestArtifact => applyText setting (fun t => { s with latestArtifact := t }) value
  | artifactPrefix => applyText setting (fun t => { s with artifactPrefix := t }) value
  | planId => applyText setting (fun t => { s with planId := t }) value
  | serverFarmProperty => applyText setting (fun t => { s with serverFarmProperty := t }) value
  | serviceTagKey => applyText setting (fun t => { s with serviceTagKey := t }) value
  | hostedComputeTypes => match texts? value with
    | some ts => .ok { s with hostedComputeTypes := ts }
    | none => .error (.notTextList setting)
  | useRenderer => match flag? value with
    | some b => .ok { s with useRenderer := b }
    | none => .error (.notFlag setting value)
  | rendererTimeout => match positive? value with
    | some n => .ok { s with rendererTimeout := n }
    | none => .error (.notPositive setting value)

end Setting

namespace SettingsError

/-- The wording of an error. -/
def message : SettingsError → Text
  | unknownNames names => "Unknown config key(s): " ++ Text.join ", " names
  | unknownKey key => "config keys must be texts, got " ++ key.typeName
  | notFlag setting value =>
    "config key " ++ Text.quoted setting.name ++ " must be a boolean, got " ++ value.display
  | notPositive setting value =>
    "config key " ++ Text.quoted setting.name ++ " must be a positive integer, got " ++
      value.display
  | notTextList setting =>
    "config key " ++ Text.quoted setting.name ++ " must be a list of strings"
  | notText setting value =>
    "config key " ++ Text.quoted setting.name ++ " must be a non-empty string, got " ++
      value.display

end SettingsError

namespace Settings

/-- The error of keys that name no settings. -/
def unknownKeysError : List Value → SettingsError
  | keys => match keys.find? fun key => !(key matches .text _) with
    | some key => .unknownKey key
    | none => .unknownNames (Text.sort (keys.filterMap fun key => match key with
        | .text t => some t
        | _ => none))

/-- The settings with the values of a mapping. -/
def override (s : Settings) (entries : List (Value × Value)) : Except SettingsError Settings :=
  let unknown := (entries.map Prod.fst).filter fun key => (Setting.ofKey? key).isNone
  if unknown.isEmpty then
    entries.foldlM (fun s (key, value) => match Setting.ofKey? key with
      | some setting => setting.apply s value
      | none => .ok s) s
  else .error (unknownKeysError unknown)

end Settings

end Groundplan
