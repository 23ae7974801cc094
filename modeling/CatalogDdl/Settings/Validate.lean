import CatalogDdl.Fault
import CatalogDdl.Files.FileSystem
import CatalogDdl.Settings.Basic

/-!
# Whether settings make sense

Settings that could be read may still be unusable. `Settings.validate` fails for the first of these
causes: no snapshot is named; nothing is at its path; no schema is named; no table may be in work; a
plan rule, then a custom rule, has a blank part.
-/

namespace CatalogDdl

/-- Whether a rule has a blank part. -/
def PlanRule.isBlank (r : PlanRule) : Bool :=
  Text.isBlankText r.sourceType || Text.isBlankText r.targetType

/-- Whether a rule has a blank part, its table apart. -/
def CustomRule.isBlank (r : CustomRule) : Bool :=
  Text.isBlankText r.column || Text.isBlankText r.sourceType || Text.isBlankText r.targetType

namespace Settings

/-- The first cause why settings make no sense, given whether something is at the path of the
snapshot. -/
def firstInvalid? (s : Settings) (found : Bool) : Option InvalidSettings :=
  if s.catalogFile.isEmpty then some .noCatalogFile
  else if !found then some (.missingCatalogFile s.catalogFile)
  else if Text.isBlankText s.sourceSchema then some .noSourceSchema
  else if s.threads = 0 then some .noThreads
  else
    ((s.planRules.find? PlanRule.isBlank).map .blankPlanRule).or
      ((s.customRules.find? CustomRule.isBlank).map .blankCustomRule)

/-- Fails for settings that make no sense. -/
def validate [Monad m] [FileSystem m] (s : Settings) : ExceptT Fault m Unit := do
  let found ← (FileSystem.leadsSomewhere s.catalogFile : m Bool)
  match s.firstInvalid? found with
  | some cause => throw (.invalidSettings cause)
  | none => pure ()

end Settings

end CatalogDdl
