import PageLayers.Text.Split

/-! The key of a layer: its kind, the module and route it is for, and the dimensions it is scoped
to. As a text the parts stand between bars, with a star for a dimension that is not set. -/

namespace PageLayers

inductive PageKind where
  | blueprint
  | overlay
  deriving DecidableEq

namespace PageKind

def text : PageKind → String
  | blueprint => "blueprint"
  | overlay => "overlay"

def ofText? (s : String) : Option PageKind :=
  if s = "blueprint" then some blueprint
  else if s = "overlay" then some overlay
  else none

end PageKind

/-- The dimensions a layer is limited to. Blueprints set none. -/
structure Scope where
  tenant : Option String
  role : Option String
  variant : Option String
  locale : Option String
  deriving DecidableEq

namespace Scope

def unset : Scope := ⟨none, none, none, none⟩

/-- The dimensions from the least to the most specific. -/
def dimensions (s : Scope) : List (Option String) := [s.tenant, s.role, s.variant, s.locale]

/-- How many dimensions are set. -/
def count (s : Scope) : Nat := (s.dimensions.filter Option.isSome).length

def isEmpty (s : Scope) : Bool := s.count == 0

end Scope

structure LayerKey where
  kind : PageKind
  moduleName : String
  route : String
  scope : Scope
  deriving DecidableEq

/-- Why a text is no layer key. -/
inductive LayerKeyError where
  | segments (count : Nat) (text : String)
  | kind (name : String)

def LayerKeyError.message : LayerKeyError → String
  | segments count text => s!"layer key needs 7 segments, got {count}: {text}"
  | kind name => s!"unknown layer kind: {name}"

namespace LayerKey

def blueprint (moduleName route : String) : LayerKey := ⟨.blueprint, moduleName, route, .unset⟩

/-- The parts in turn; an unset dimension comes before every set one. -/
def parts (k : LayerKey) : List (List String) :=
  [[k.kind.text], [k.moduleName], [k.route], k.scope.tenant.toList, k.scope.role.toList,
   k.scope.variant.toList, k.scope.locale.toList]

/-- Keys are ordered by their parts in turn. -/
instance : Ord LayerKey := ⟨compareOn parts⟩

theorem parts_injective {a b : LayerKey} (h : a.parts = b.parts) : a = b := by
  obtain ⟨ka, ma, ra, ta, la, va, ca⟩ := a
  obtain ⟨kb, mb, rb, tb, lb, vb, cb⟩ := b
  simp only [parts, List.cons.injEq, and_true] at h
  obtain ⟨hk, hm, hr, ht, hl, hv, hc⟩ := h
  have toList_inj : ∀ {x y : Option String}, x.toList = y.toList → x = y := by
    intro x y h
    cases x <;> cases y <;> simp_all
  obtain rfl := toList_inj ht
  obtain rfl := toList_inj hl
  obtain rfl := toList_inj hv
  obtain rfl := toList_inj hc
  cases ka <;> cases kb <;> simp_all [PageKind.text]

instance : Std.TransOrd LayerKey := inferInstanceAs (Std.TransCmp (compareOn parts))

instance : Std.LawfulEqOrd LayerKey where
  compare_self {a} := show compare a.parts a.parts = .eq from Std.ReflCmp.compare_self
  eq_of_compare {a b} h :=
    parts_injective (Std.LawfulEqOrd.eq_of_compare (show compare a.parts b.parts = .eq from h))

/-- A set dimension stands as it is, an unset one as a star. -/
def dimensionText : Option String → String
  | some d => d
  | none => "*"

def text (k : LayerKey) : String :=
  "|".intercalate (k.kind.text :: k.moduleName :: k.route :: k.scope.dimensions.map dimensionText)

def dimension? (piece : String) : Option String := if piece = "*" then none else some piece

def parse (s : String) : Except LayerKeyError LayerKey :=
  match (Text.splitAll '|' s.toList).map String.ofList with
  | [kind, moduleName, route, tenant, role, variant, locale] =>
    match PageKind.ofText? kind with
    | some kind => .ok ⟨kind, moduleName, route,
        ⟨dimension? tenant, dimension? role, dimension? variant, dimension? locale⟩⟩
    | none => .error (.kind kind)
  | pieces => .error (.segments pieces.length s)

end LayerKey

end PageLayers
