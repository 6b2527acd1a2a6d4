import DocumentCatalog.Service.Site

/-!
What happens to a running service one after another: requests, lost connections, and files that are
written into the directory of its store.
-/

namespace DocumentCatalog
namespace Service

inductive Step where
  | write (name octets : List Nat)
  | disconnect
  | request (request : Http.Request)

/-- What can be seen of a step. -/
inductive Seen where
  | written
  | disconnected (connected : Bool)
  | answered (response : Http.Response) (records : List Record)

namespace Site

variable {Handle : Type}

def step (site : Site Store.Node Handle) (running : Running Store.Node Handle) :
    Step → Seen × Running Store.Node Handle
  | .write name octets => (.written, { running with world := running.world.write name octets })
  | .disconnect =>
      let running := site.disconnect running
      (.disconnected running.pool.isConnected, running)
  | .request request =>
      let (response, records, running) := site.handle running request
      (.answered response records, running)

/-- What can be seen of some steps, in their order. -/
def steps (site : Site Store.Node Handle) (running : Running Store.Node Handle) :
    List Step → List Seen
  | [] => []
  | first :: rest =>
      let (seen, running) := site.step running first
      seen :: site.steps running rest

/-- What can be seen of a service that starts over a directory. -/
def session (site : Site Store.Node Handle) (directory : Store.Node) (steps : List Step) :
    List Seen :=
  site.steps (site.start directory) steps

end Site
end Service
end DocumentCatalog
