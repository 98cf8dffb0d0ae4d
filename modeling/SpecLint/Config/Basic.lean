import SpecLint.Coordinate.FamilyTable
import SpecLint.Route

/-!
What a run depends on: the versions, the version that is still edited, the definitions that a family
may not have, the names of amounts, and the routes of examples.
-/

namespace SpecLint

/-- The parameters of a run. -/
structure Config where
  /-- The versions, in the order in which they are checked. -/
  versions : List VersionTag
  /-- The version that is still edited. -/
  unreleased : VersionTag
  /-- The definitions that families may not have. -/
  prohibited : FamilyTable (List String)
  /-- The names of properties that hold amounts. -/
  amountFields : List String
  routes : RouteTable

/-- Why a configuration cannot be used. -/
inductive ConfigError where
  | unreadable (path reason : String)
  /-- The text is not YAML. -/
  | malformed (message : String)
  /-- A value at a place of the text is not what is wanted there. -/
  | unsuitable (place : String) (error : DecodeError)
  | noVersions
  | unknownUnreleased (tag : VersionTag)
  | unknownVersion (tag : VersionTag)

namespace ConfigError

def message : ConfigError → String
  | .unreadable path reason => "cannot read config " ++ path ++ ": " ++ reason
  | .malformed message => "invalid config: " ++ message
  | .unsuitable place error => "invalid config: " ++ (if place = "" then "" else place ++ ": ") ++
      error.message
  | .noVersions => "no versions configured"
  | .unknownUnreleased tag =>
    "unreleased version \"" ++ tag.text ++ "\" is not among the configured versions"
  | .unknownVersion tag => "unknown version \"" ++ tag.text ++ "\""

end ConfigError

namespace Config

/-- The versions that are checked unless others are configured. -/
def standardVersions : List VersionTag :=
  [⟨"2025-09-29", by decide +kernel⟩, ⟨"2025-12-12", by decide +kernel⟩,
    ⟨"2026-01-16", by decide +kernel⟩, ⟨"2026-01-30", by decide +kernel⟩, .unreleased]

/-- The names of amounts unless others are configured. -/
def standardAmountFields : List String :=
  ["base_amount", "discount", "subtotal", "tax", "total", "amount", "max_amount", "unit_amount"]

/-- The configuration of a run without a configuration file. -/
def standard : Config :=
  { versions := standardVersions
    unreleased := .unreleased
    prohibited := .ofList [(.agenticCheckout, ["Refund"])]
    amountFields := standardAmountFields
    routes := .standard }

/-- Checks that there are versions and that the one that is still edited is among them. -/
def validate (config : Config) : Except ConfigError Unit :=
  if config.versions.isEmpty then .error .noVersions
  else if config.versions.contains config.unreleased then .ok ()
  else .error (.unknownUnreleased config.unreleased)

/-- The configured versions that are requested, in the order of the configuration; all of them if none
is requested. -/
def selectVersions (config : Config) (requested : List VersionTag) :
    Except ConfigError (List VersionTag) :=
  match requested.find? fun tag => !config.versions.contains tag with
  | some tag => .error (.unknownVersion tag)
  | none =>
    if requested.isEmpty then .ok config.versions
    else .ok (config.versions.filter requested.contains)

/-- Whether a property of this name holds an amount. -/
def isAmountField (config : Config) (name : String) : Bool := config.amountFields.contains name

/-- The definitions that a family may not have. -/
def prohibitedFor (config : Config) (family : Family) : List String :=
  (config.prohibited.get? family).getD []

/-- The JSON form of a configuration. -/
def toJson (config : Config) : Json :=
  .mkObject
    [("versions", .ofStrings (config.versions.map VersionTag.text)),
      ("unreleased", .string config.unreleased.text),
      ("prohibited",
        .mkObject (config.prohibited.entries.map fun (family, names) => (family.text, .ofStrings names))),
      ("amount_fields", .ofStrings config.amountFields), ("routes", config.routes.toJson)]

end Config

end SpecLint
