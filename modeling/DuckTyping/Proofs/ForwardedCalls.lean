import DuckTyping.Proofs.ReadThrough
import Mathlib.Data.List.Forall2

set_option autoImplicit false

/-!
# Calls that are passed on

An adapter checks the arguments of a call against the signature that its shape declares, and a
record object checks what it is passed against the signature of its own. A plan joins two methods
only if their signatures are the same up to nested shapes, and which values fit a type is the same
for both. So the two checks accept the same arguments: what the adapter lets through runs the body
of the method, and the check of the object never fires.
-/

namespace DuckTyping

/-! ## Two checks of arguments -/

namespace MethodSignature

end MethodSignature

namespace RecordObject

variable {r : RecordObject}

end RecordObject

/-! ## Calls by entries -/

namespace Inspector

variable {i : Inspector} {schema : Shape} {m : Member}

end Inspector

namespace Adapter

variable {a : Adapter} {σ : Store} {name source : String} {e : PlanEntry} {o : ObjectRef}
  {r r' : RecordObject} {args : List Value} {body : List Value → Script}
  {signature declared wanted own : MethodSignature}

section Calling

variable (h : a.plan.isSatisfiable = true)

include h

variable (he : a.plan.entryFor? name = some e)

include he

variable (hkind : e.member.kind = .method signature) (hr : e.resolution = .method source declared)
  (hsource : a.source = .object o)

include hkind hr hsource

end Calling

/-! ## Calls of members -/

section Planned

variable {i : Inspector} {planned schema : Shape} (h : a.plan.isSatisfiable = true)
  (hplanned : planned.same a.shape = true) (hplan : a.plan = i.inspectSchema planned schema)

include h hplanned hplan

end Planned

end Adapter

end DuckTyping
