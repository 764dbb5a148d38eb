import ShaderComposition.Bindings
import ShaderComposition.Json.Reader

/-!
# Reading bindings

Bindings are an object with the roles as keys; of two members for a role the later one counts.
-/

namespace ShaderComposition.Bindings

/-- Reads members of an object on top of the bindings before them. -/
def readMembers (b : Bindings) : List (Option String × Json) → Except ReadError Bindings
  | [] => .ok b
  | (none, _) :: _ => .error (.text .malformed)
  | (some key, value) :: rest =>
    match Vocabulary.parse Role key with
    | .error e => .error (.unknownSymbol e)
    | .ok role => do (b.bind role (← value.readString)).readMembers rest

def read : Json → Except ReadError Bindings
  | .object members defect => do
    let bindings ← empty.readMembers members
    Json.readEnd defect
    return bindings
  | other => other.mismatch "a map"

end ShaderComposition.Bindings
