import ClusterGraph.Cluster.Host
import ClusterGraph.Cluster.Kubeconfig
import ClusterGraph.Report

/-!
Clients of servers.

A client needs the address of a server, and perhaps that of a proxy, which is not used for internal
hosts. Only proxies that speak plain HTTP can be used.
-/

namespace ClusterGraph

/-- How a server is reached. -/
structure Client where
  server : Address
  proxy : Option Address
  deriving DecidableEq, Repr, Inhabited

/-- Why there is no client. -/
inductive ClientError where
  /-- The context that was asked for does not lead to a server. -/
  | context (name : String) (fault : KubeconfigFault)
  /-- Nothing leads to a server. -/
  | unknownServer (fault : KubeconfigFault)
  /-- The proxy cannot be used. -/
  | unusableProxy (proxy : Address)
  deriving DecidableEq, Repr, Inhabited

namespace ClientError

/-- The wording of the reasons why no server was found: there is none around the run itself, and the
kubeconfig does not lead to one. -/
def inference (fault : KubeconfigFault) : String :=
  "failed to infer config: in-cluster: (failed to read an incluster environment variable: " ++
    "environment variable not found), kubeconfig: (" ++ fault.message ++ ")"

/-- The wording of the reason why a proxy cannot be used. -/
def proxyMessage (proxy : Address) : String :=
  if proxy.scheme == some "socks5" then
    "configured proxy " ++ proxy.text ++ " requires the disabled feature \"kube/socks5\""
  else "configured proxy " ++ proxy.text ++ " uses an unsupported protocol"

/-- The report of an error. -/
def report : ClientError → Report
  | context name fault =>
    ⟨"Failed to load kubeconfig context " ++ name, fault.message :: fault.causes⟩
  | unknownServer fault =>
    ⟨"Failed to infer Kubernetes configuration",
      inference fault :: fault.message :: fault.causes⟩
  | unusableProxy proxy => ⟨"Failed to create Kubernetes client", [proxyMessage proxy]⟩

end ClientError

namespace Client

/-- The variables that may name a proxy, in the order in which they are asked. -/
def proxyVariables : List String :=
  ["HTTP_PROXY", "http_proxy", "HTTPS_PROXY", "https_proxy"]

/-- The proxy of a cluster, or else the one that a variable names; an empty text names none. -/
def proxyText? (environment : Environment) (entry : ClusterEntry) : Option String :=
  (entry.proxy :: proxyVariables.map environment.get?).findSome? (·.filter (!·.isEmpty))

/-- The client for a cluster, before its proxy is looked at. -/
def ofEntry (environment : Environment) (entry : ClusterEntry) : Except KubeconfigFault Client := do
  let some server := entry.server | throw .noServer
  let server ← (Address.ofText server).mapError .badServer
  match proxyText? environment entry with
  | none => return { server, proxy := none }
  | some proxy => return { server, proxy := some (← (Address.ofText proxy).mapError .badProxy) }

/-- The client for the cluster of a context, before its proxy is looked at. -/
def ofContext (workspace : Workspace) (context : Option String) :
    Except KubeconfigFault Client := do
  ofEntry workspace.environment (← (← Kubeconfig.find workspace).select context)

/-- The client without a proxy if its server is internal. -/
def bypassProxy (client : Client) : Client :=
  if (Host.ofAddress? client.server).any Host.isInternal then { client with proxy := none }
  else client

/-- The client itself if its proxy can be used. -/
def usable (client : Client) : Except ClientError Client :=
  match client.proxy with
  | some proxy => if proxy.scheme == some "http" then .ok client else .error (.unusableProxy proxy)
  | none => .ok client

/-- The client for the context with a given name, or for the current one. -/
def create (workspace : Workspace) (context : Option String) : Except ClientError Client := do
  let client ← (ofContext workspace context).mapError fun fault =>
    match context with
    | some name => .context name fault
    | none => .unknownServer fault
  client.bypassProxy.usable

end Client

end ClusterGraph
