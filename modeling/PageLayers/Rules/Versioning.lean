import PageLayers.Rules.Basic
import PageLayers.Version.Basic

/-! Versions: both are semantic versions, and the content version does not fall behind. -/

namespace PageLayers.Rules

def versioningError (reason : Reason) (message : String) : Violation :=
  .error "versioning" reason none message

def isVersion (field text : String) : List Violation :=
  match Version.parse text with
  | .ok _ => []
  | .error e =>
    [versioningError .invalidSemver (s!"{field} `{text}` is not semver: " ++ e.message)]

/-- A version that was live but is no version is not compared with. -/
def notBehind (content : String) (prior : Option String) : List Violation :=
  match (Version.parse content).toOption,
    prior.bind fun s => (Version.parse s).toOption with
  | some content, some prior =>
    if content.lessThan prior then
      [versioningError .versionRegression
        s!"contentVersion {content.text} regresses published {prior.text}"]
    else []
  | _, _ => []

def versioning (p : Page) (ctx : RuleContext) : List Violation :=
  isVersion "schemaVersion" p.schemaVersion ++ isVersion "contentVersion" p.contentVersion ++
    notBehind p.contentVersion ctx.priorVersion

end PageLayers.Rules
