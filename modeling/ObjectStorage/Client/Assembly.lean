import ObjectStorage.Client.Session

/-!
# Clients with their transport

Which transport a client sends with. A session hands its own to the builders it makes, a call of the
builder may replace it, and a builder without any takes the usual one, if that can be made.
-/
namespace ObjectStorage

/-- A call of the builder. What is shared and what is handed over whole is set by one call. -/
inductive BuilderCall (τ : Type) where
  | setting (s : Setting)
  | transport (t : τ)

structure Assembly (τ : Type) where
  builder : ClientBuilder
  transport : Option τ

namespace Assembly

variable {τ : Type}

def apply (a : Assembly τ) : BuilderCall τ → Assembly τ
  | .setting s => { a with builder := a.builder.apply s }
  | .transport t => { a with transport := some t }

def applyAll (a : Assembly τ) (calls : List (BuilderCall τ)) : Assembly τ := calls.foldl apply a

def build (usual : Except Error τ) (a : Assembly τ) : Except Error (Client × τ) := do
  let client ← a.builder.build
  let transport ← match a.transport with
    | some t => .ok t
    | none => usual
  return (client, transport)

end Assembly

namespace Session

variable {τ : Type}

def assembly (s : Session) (transport : Except Error τ) (endpoint : String) :
    Except Error (Assembly τ) := do
  let t ← transport
  return ⟨s.builder endpoint, some t⟩

def assemble (s : Session) (transport usual : Except Error τ) (endpoint : String)
    (calls : List (BuilderCall τ)) : Except Error (Client × τ) := do
  let a ← s.assembly transport endpoint
  (a.applyAll calls).build usual

theorem assemble_of_transport (s : Session) (t : τ) (usual : Except Error τ) (endpoint : String)
    (calls : List (BuilderCall τ)) :
    s.assemble (.ok t) usual endpoint calls =
      (Assembly.applyAll ⟨s.builder endpoint, some t⟩ calls).build usual := by
  simp only [assemble, assembly, bind, Except.bind, pure, Except.pure]

end Session

end ObjectStorage
