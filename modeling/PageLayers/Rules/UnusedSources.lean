import PageLayers.Rules.Basic

/-! Data sources of a blueprint that nothing reads are worth a warning. -/

namespace PageLayers

def PropertyValue.binding? : PropertyValue → Option Binding
  | binding b => some b
  | _ => none

/-- The bindings among some properties, in order. -/
def bindingsOf (props : List Property) : List Binding :=
  props.filterMap fun p => p.value.binding?

namespace Rules

def unusedDataSource (p : Page) (_ : RuleContext) : List Violation :=
  match p.kind with
  | .overlay => []
  | .blueprint =>
    let read := p.propertyLists.flatMap fun l => (bindingsOf l.2).map Binding.sourceId
    (p.dataSources.filter fun s => !read.contains s.id).map fun s =>
      ⟨"unused_data_source", .unusedDataSource, .warning, s.id,
        s!"data source `{s.id}` is never bound"⟩

end Rules

end PageLayers
