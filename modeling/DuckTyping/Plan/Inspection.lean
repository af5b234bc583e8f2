import DuckTyping.Conversion.Registry
import DuckTyping.Plan.Options
import DuckTyping.Plan.Plan
import DuckTyping.Plan.Source
import DuckTyping.Store.Sensitivity
import DuckTyping.Types.Conformance

set_option autoImplicit false

/-!
# Inspection

Inspection matches a shape against a source and makes a plan. It only reads, and it runs no method.

A mapping is judged by the values it holds: each is looked up through a view, a null fits every
type, and a nested shape is inspected against the mapping or object that is found. An object is
judged by its schema alone: what a property holds is seen only when it is read.
-/

namespace DuckTyping

/-- The converters and options by which sources are judged. -/
structure Inspector where
  registry : Registry
  options : Options

namespace Inspector

/-- A mapping as the search for members sees it. -/
def view (i : Inspector) (σ : Store) (m : MapRef) : View :=
  σ.wrap m (if i.options.fuzzy then some false else none)

/-- The resolution of a member that the source lacks. -/
def resolveMissing (optional : Bool) : Resolution :=
  if optional then .absent else .unresolved .missing

/-- The resolution of a member whose type differs from the one found. -/
def resolveDiffering (i : Inspector) (source : String) (found wanted : ValueType) : Resolution :=
  if i.options.allowConversion && i.registry.canConvert found wanted then
    .convertible source found wanted
  else .unresolved (.typeMismatch found)

/-! ## Objects -/

/-- The member of a schema that answers to a name: the one so called, else, when names are matched
ignoring case, the first that matches. -/
def findMember? (i : Inspector) (schema : Shape) (name : String) : Option Member :=
  match schema.member? name with
  | some m => some m
  | none =>
    if i.options.fuzzy then
      schema.members.find? fun m => KeyComparison.ignoreCase.keysMatch m.name name
    else none

/-- The resolution of a property against a property of a schema. -/
def resolveProperty (i : Inspector) (source : String) (wanted declared : ValueType) : Resolution :=
  match wanted, declared with
  | .any, _ => .direct source
  | .shape target, .shape found =>
    if found.conforms target then .nested source else .unresolved (.typeMismatch declared)
  | .shape _, .map => .nested source
  | .shape _, .object _ => .nested source
  | .shape _, .any => .nested source
  | .shape _, _ => .unresolved (.typeMismatch declared)
  | _, _ =>
    if declared.isAssignable wanted then .direct source
    else i.resolveDiffering source declared wanted

/-- The resolution of a member against the member of a schema that answers to its name. -/
def resolveFound (i : Inspector) (member found : Member) : Resolution :=
  match member.kind, found.kind with
  | .method wanted, .method declared =>
    if wanted.same declared then .method found.name declared
    else .unresolved (.signatureMismatch declared)
  | .property wanted _, .property declared _ => i.resolveProperty found.name wanted declared
  | _, _ => .unresolved .kindMismatch

/-- The resolution of a member against a schema. -/
def resolveMember (i : Inspector) (schema : Shape) (member : Member) : Resolution :=
  match i.findMember? schema member.name with
  | some found => i.resolveFound member found
  | none => resolveMissing member.optional

/-- The plan for an object with this schema. -/
def inspectSchema (i : Inspector) (shape schema : Shape) : Plan :=
  { shape := shape
    caseSensitive := !i.options.fuzzy
    entries := shape.members.map fun m => ⟨m, i.resolveMember schema m⟩ }

/-! ## Mappings and their nested sources -/

mutual

/-- The plan for a source. -/
def inspect (i : Inspector) (σ : Store) (shape : Shape) (source : Source) : Plan :=
  match shape with
  | ⟨serial, name, members⟩ =>
    match source with
    | .map m =>
      { shape := ⟨serial, name, members⟩
        caseSensitive := (i.view σ m).isCaseSensitive
        entries := i.resolveKeys σ members (i.view σ m) }
    | .object o => i.inspectSchema ⟨serial, name, members⟩ (σ.schema o)
termination_by structural shape

/-- Each member with its resolution against a view of a mapping. -/
def resolveKeys (i : Inspector) (σ : Store) (members : List Member) (view : View) :
    List PlanEntry :=
  match members with
  | [] => []
  | m :: rest => ⟨m, i.resolveKey σ m view⟩ :: i.resolveKeys σ rest view
termination_by structural members

/-- The resolution of a member against a view of a mapping. -/
def resolveKey (i : Inspector) (σ : Store) (member : Member) (view : View) : Resolution :=
  match member with
  | ⟨name, kind, optional⟩ =>
    match view.resolveKey? σ name with
    | some key => i.resolveEntry σ kind key ((view.lookUp? σ key).getD .null)
    | none => resolveMissing optional
termination_by structural member

/-- The resolution of a kind of member against the value found under a key. -/
def resolveEntry (i : Inspector) (σ : Store) (kind : MemberKind) (key : String) (v : Value) :
    Resolution :=
  match kind with
  | .method _ => .unresolved .methodOnMapping
  | .property wanted _ => i.resolveValue σ wanted key v
termination_by structural kind

/-- The resolution of a property against the value found under a key. -/
def resolveValue (i : Inspector) (σ : Store) (wanted : ValueType) (key : String) (v : Value) :
    Resolution :=
  if v.isNull then .direct key
  else match wanted with
    | .shape nested =>
      match Source.ofValue? v with
      | some source =>
        let plan := i.inspect σ nested source
        if plan.isSatisfiable then .nested key
        else .unresolved (.nested plan.unresolved)
      | none => .unresolved (.typeMismatch v.valueType)
    | _ =>
      if v.conformsTo wanted then .direct key
      else i.resolveDiffering key v.valueType wanted
termination_by structural wanted

end

/-- The plan for a source, or the paths of the members that it does not satisfy. -/
def resolve (i : Inspector) (σ : Store) (shape : Shape) (source : Source) :
    Except (List String) Plan :=
  let plan := i.inspect σ shape source
  if plan.isSatisfiable then .ok plan else .error plan.unresolved

end Inspector

end DuckTyping
