import ClusterGraph.File.Path
import ClusterGraph.Json.Mismatch

/-!
Why objects could not be fetched.

A store answers from files or from a server. Files fail with the reasons of the file system, servers
with an answer that reports a failure, an answer that cannot be read, or a request that cannot be made.
-/

namespace ClusterGraph

/-- Why a request to the server of a cluster failed. -/
inductive ApiError where
  /-- The server reported a failure. -/
  | status (code : Int) (reason message : String)
  /-- The answer does not have the form that the request asks for. -/
  | unreadable
  /-- No request can be made for such a name or address. -/
  | badRequest
  /-- The server does not list the kind. -/
  | unlisted
  /-- There is no connection to the server. -/
  | unreachable
  deriving DecidableEq, Repr, Inhabited

namespace ApiError

/-- The wording of a failed request. -/
def message : ApiError → String
  | status code reason text => "Api " ++ toString code ++ " " ++ reason ++ ": " ++ text
  | unreadable => "SerdeError"
  | badRequest => "BuildRequest"
  | unlisted => "Discovery"
  | unreachable => "ServiceError: client error (Connect)"

end ApiError

/-- Why a store has no answer. -/
inductive StoreError where
  | request (error : ApiError)
  | discovery (apiVersion kind : String) (error : ApiError)
  | manifest
  | invalidObject (index : Nat) (fault : Json.Mismatch)
  | file (path : String) (error : FileError)
  | missingName (kind : String)
  deriving Repr, Inhabited

namespace StoreError

/-- The wording of an error. -/
def message : StoreError → String
  | request error => "kubernetes api error: " ++ error.message
  | discovery apiVersion kind error =>
    "unable to discover " ++ apiVersion ++ " " ++ kind ++ ": " ++ error.message
  | manifest => "invalid manifest: " ++ yamlFault
  | invalidObject index fault =>
    "manifest document " ++ toString index ++ " is not a Kubernetes object: " ++ fault.message
  | file path error => "unable to read " ++ path ++ ": " ++ error.message
  | missingName kind => "lookup of " ++ kind ++ " requires a name"

/-- The wordings of the causes of an error, from the nearest on. -/
def causes : StoreError → List String
  | request error => [error.message]
  | discovery _ _ error => [error.message]
  | manifest => [yamlFault]
  | invalidObject _ fault => [fault.message]
  | file _ error => [error.message]
  | missingName _ => []

end StoreError

end ClusterGraph
