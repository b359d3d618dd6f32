import ObjectStorage.Client.Basic

/-!
# Sessions

Defaults that several clients share: a region and credentials. The environment can supply both,
and an endpoint for a client of its own.
-/
namespace ObjectStorage

structure Session where
  region : String
  provider : Option Provider

namespace Session

def regionVariable : String := "TOS_REGION"

def endpointVariable : String := "TOS_ENDPOINT"

/-- Credentials are taken from the environment if an access key is there. -/
def ofEnvironment (env : Environment) : Session :=
  { region := (env.text? regionVariable).getD ""
    provider := match env.text? Provider.accessKeyVariable with
      | some key => if key.isEmpty then none else some .environment
      | none => none }

def builder (s : Session) (endpoint : String) : ClientBuilder :=
  let b := (ClientBuilder.new endpoint).apply (.region s.region)
  match s.provider with
  | some p => b.apply (.credentials p)
  | none => b

def client (s : Session) (endpoint : String) : Except Error Client := (s.builder endpoint).build

def clientOfEnvironment (env : Environment) : Except Error Client :=
  match env.text? endpointVariable with
  | some endpoint => (ofEnvironment env).client endpoint
  | none => .error (.argument (.variableUnset endpointVariable))

def details (s : Session) : String :=
  "Session \x7b region: " ++ Quoted.quote s.region ++ ", anonymous: " ++
    ClientConfig.flag s.provider.isNone ++ ", custom_transport: false \x7d"

end Session

end ObjectStorage
