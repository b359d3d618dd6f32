import ObjectStorage.Error
import ObjectStorage.Url.Read

/-!
# Endpoints

The address of a service: an absolute URL with a host, without query and fragment. A text without
a scheme means `https`. Regional endpoints name their region in the first label of the host.
-/
namespace ObjectStorage.Endpoint

def hasScheme : List Char → Bool
  | [] => false
  | c :: r => "://".toList.isPrefixOf (c :: r) || hasScheme r

def defaultScheme : String := "https://"

def invalid {α : Type} (text : String) (problem : EndpointProblem) : Except Error α :=
  .error (.argument (.endpoint text problem))

def problem? (u : Url) : Option EndpointProblem :=
  if u.scheme != "http" && u.scheme != "https" then some (.scheme u.scheme)
  else if u.host.isNone then some .noHost
  else if u.query.isSome || u.fragment.isSome then some .queryOrFragment
  else none

def read (text : String) : Except Error Url :=
  let t := Blank.trim text
  if t.isEmpty then invalid t .blank
  else
    match Url.read (if hasScheme t.toList then t else defaultScheme ++ t) with
    | .error e => invalid t (.url e)
    | .ok u =>
      match problem? u with
      | some p => invalid t p
      | none => .ok u

def after? (start cs : List Char) : Option (List Char) :=
  if start.isPrefixOf cs then some (cs.drop start.length) else none

def regionOfLabel? (label : List Char) : Option (List Char) :=
  (after? "tos-".toList label).bind fun rest =>
    let region := (after? "s3-".toList rest).getD rest
    if region.isEmpty then none else some region

def region? (u : Url) : Option String :=
  match u.host with
  | some (.name n) => (regionOfLabel? (n.toList.takeWhile (· != '.'))).map String.ofList
  | _ => none

/-- Hosts in front of which no label can stand. -/
def isBare (u : Url) : Bool :=
  match u.host with
  | some (.name n) => n == "localhost"
  | some _ => true
  | none => false

theorem read_eq_ok {text : String} {u : Url} (h : read text = .ok u) : problem? u = none := by
  simp only [read, invalid] at h
  split at h
  · cases h
  · split at h
    · cases h
    · split at h
      · cases h
      · next hp =>
        cases h
        exact hp

end ObjectStorage.Endpoint
