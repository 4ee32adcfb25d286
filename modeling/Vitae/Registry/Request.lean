import Vitae.Registry.Listing

/-! What a registry can be asked, one request after another, and what happens when further requests
arrive while it is busy with one. -/

namespace Vitae

inductive Request where
  | register (t : Template)
  | registerMany (ts : List Template)
  | remove (key : String)
  | clear
  | template (key : String)
  | contains (key : String)
  | listing
  | listingOf (category : Category)
  | keys
  | size
  | stats
  | html (key : String) (r : Resume)
  | css (key : String)
  | preview (key : String)
  | document (key : String) (r : Resume) (options : DocumentOptions)

inductive Response where
  | done
  | flag (b : Bool)
  | count (n : Nat)
  | template (t : Option Template)
  | templates (ms : List TemplateMeta)
  | keys (ks : List String)
  | stats (s : RegistryStats)
  | text (s : String)
  | notFound (e : NotFound)

def Response.ofText : Except NotFound String → Response
  | .ok s => text s
  | .error e => notFound e

def Response.ofArtifact : Except NotFound Artifact → Response
  | .ok a => text a.text
  | .error e => notFound e

/-- `during` happens when the generator is called for the request, the first time only. -/
def Registry.serve (g : Generator) (during : Registry → Registry) (reg : Registry) :
    Request → Response × Registry
  | .register t => (.done, reg.register t)
  | .registerMany ts => (.done, reg.registerMany ts)
  | .remove key =>
    let (found, reg) := reg.remove key
    (.flag found, reg)
  | .clear => (.done, reg.clear)
  | .template key => (.template (reg.template? key), reg)
  | .contains key => (.flag (reg.contains key), reg)
  | .listing => (.templates reg.listing, reg)
  | .listingOf category => (.templates (reg.listingOf category), reg)
  | .keys => (.keys reg.keys, reg)
  | .size => (.count reg.size, reg)
  | .stats => (.stats reg.stats, reg)
  | .html key r =>
    let (text, reg) := reg.html g during key r
    (.ofText text, reg)
  | .css key =>
    let (artifact, reg) := reg.fetch g during .css key
    (.ofArtifact artifact, reg)
  | .preview key =>
    let (artifact, reg) := reg.fetch g during .preview key
    (.ofArtifact artifact, reg)
  | .document key r options =>
    let (text, reg) := reg.document g during key r options
    (.ofText text, reg)

/-- A request with those that arrive while the generator works for it. -/
inductive Step where
  | mk (request : Request) (during : List Step)

namespace Step

mutual

def run (g : Generator) : Step → Registry → Response × Registry
  | mk request during, reg => reg.serve g (runAll g during) request

def runAll (g : Generator) : List Step → Registry → Registry
  | [], reg => reg
  | s :: ss, reg => runAll g ss (run g s reg).2

end

end Step

end Vitae
