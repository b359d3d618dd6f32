import ObjectStorage.Credential.Cache

/-!
# Providers

Where a client takes its credentials from. A chain asks its members in order until one succeeds
and reports the last failure when none does.
-/
namespace ObjectStorage

inductive Provider where
  | fixed (credentials : Credentials)
  | environment
  | failing (error : Error)
  | chain (members : List Provider)
  | refreshing (cache : Cache)

namespace Provider

instance : Inhabited Provider := ⟨chain []⟩

def accessKeyVariable : String := "TOS_ACCESS_KEY"

def secretKeyVariable : String := "TOS_SECRET_KEY"

def tokenVariable : String := "TOS_SECURITY_TOKEN"

def nonEmpty (t : String) : Option String := if t.isEmpty then none else some t

def ofEnvironment (env : Environment) : Except Error Credentials := do
  let some accessKey := env.text? accessKeyVariable
    | throw (.argument (.variableUnset accessKeyVariable))
  let some secretKey := env.text? secretKeyVariable
    | throw (.argument (.variableUnset secretKeyVariable))
  if accessKey.isEmpty || secretKey.isEmpty then
    throw (.argument (.variablesEmpty accessKeyVariable secretKeyVariable))
  return ⟨accessKey, secretKey, (env.text? tokenVariable).bind nonEmpty, none⟩

mutual

/-- The answer and the provider afterwards. `clock` gives the two readings of a call. -/
def ask (env : Environment) (clock : Instant × Instant) :
    Provider → Except Error Credentials × Provider
  | fixed c => (.ok c, fixed c)
  | environment => (ofEnvironment env, environment)
  | failing e => (.error e, failing e)
  | chain members =>
    let (answer, members) := askMembers env clock (.argument .noProviders) members
    (answer, chain members)
  | refreshing cache =>
    let (answer, cache) := cache.ask clock.1 clock.2
    (answer, refreshing cache)

/-- Asks members in order; `last` is the failure of the one before. -/
def askMembers (env : Environment) (clock : Instant × Instant) (last : Error) :
    List Provider → Except Error Credentials × List Provider
  | [] => (.error last, [])
  | p :: r =>
    match p.ask env clock with
    | (.ok c, p) => (.ok c, p :: r)
    | (.error e, p) =>
      let (answer, r) := askMembers env clock e r
      (answer, p :: r)

end

mutual

def fetches : Provider → Nat
  | chain members => fetchesOf members
  | refreshing cache => cache.fetches
  | _ => 0

def fetchesOf : List Provider → Nat
  | [] => 0
  | p :: r => p.fetches + fetchesOf r

end

theorem ask_fixed (env : Environment) (clock : Instant × Instant) (c : Credentials) :
    (fixed c).ask env clock = (.ok c, fixed c) := by
  rw [ask]

theorem ask_chain_nil (env : Environment) (clock : Instant × Instant) :
    (chain []).ask env clock = (.error (.argument .noProviders), chain []) := by
  rw [ask, askMembers]

end Provider

end ObjectStorage
