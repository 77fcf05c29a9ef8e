import PageLayers.Document.Node
import PageLayers.Page.Basic

/-! The words authors may use: tags, kinds, targets and operations with all their spellings. -/

namespace PageLayers.Authoring

/-- The current spelling of a tag. -/
def currentTag (tag : String) : String :=
  if tag = "slot" then "region"
  else if tag = "widget" then "component"
  else if ["datasource", "data-source", "data_source", "source"].contains tag then "dataSource"
  else if ["data-sources", "datasources"].contains tag then "dataSources"
  else tag

/-- The tags that only group their children. -/
def groupingTags : List String :=
  ["regions", "components", "dataSources", "actions", "props", "constants", "patches", "contract",
   "config"]

def isGrouping (tag : String) : Bool := groupingTags.contains (currentTag tag)

inductive OriginKind where
  | static
  | http
  | service
  deriving DecidableEq

def originKind? (s : String) : Option OriginKind :=
  if ["static", "inline", "const", "json"].contains s then some .static
  else if ["http", "rest", "fetch"].contains s then some .http
  else if ["service", "rpc", "handler"].contains s then some .service
  else none

def target? (s : String) : Option Target :=
  if ["region", "slot"].contains s then some .region
  else if ["component", "widget"].contains s then some .component
  else if ["dataSource", "datasource", "data-source"].contains s then some .dataSource
  else if s = "action" then some .action
  else none

def operation? (s : String) : Option Operation :=
  if s = "merge" then some .merge
  else if s = "replace" then some .replace
  else if ["remove", "delete"].contains s then some .remove
  else none

mutual

/-- A grouping node stands for its children. -/
def flattenNode : Node → List Node
  | .mk tag attrs children => if isGrouping tag then flatten children else [.mk tag attrs children]

/-- The nodes that carry a meaning, in document order. -/
def flatten : List Node → List Node
  | [] => []
  | n :: rest => flattenNode n ++ flatten rest

end

end PageLayers.Authoring
