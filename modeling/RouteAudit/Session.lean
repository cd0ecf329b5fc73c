import RouteAudit.ClassTable
import RouteAudit.Files.Tree
import RouteAudit.HandleOption
import RouteAudit.Source.Value

/-!
# Sessions

What a run does to the world: it reads a tree of files, it learns which classes there are, and it
takes notes of what it left out and why.  A run that ends in a fault keeps what it learnt.
-/

namespace RouteAudit

/-- Why a file gives nothing. -/
inductive Cause where
  | file (fault : FileFault)
  | source (fault : Source.Fault)
  /-- The bytes are no text, or the text is no JSON document. -/
  | malformed
  deriving DecidableEq, Repr

/-- The message of a cause. -/
def Cause.message : Cause → String
  | .file fault => fault.message
  | .source fault => fault.message
  | .malformed => "not a JSON document"

/-- Why a run, or a part of it, gives no answer. -/
inductive Fault where
  /-- A handle option that cannot be read. -/
  | handleOption (value : String)
  | collectedUnreadable (path : Path) (cause : Cause)
  | collectedNoObject (path : Path)
  | collectedNoMethods (path : Path) (className : String)
  | file (fault : FileFault)
  | source (fault : Source.Fault)
  /-- A text for the output holds half of a character. -/
  | unprintable
  deriving DecidableEq, Repr

namespace Fault

/-- The message of a fault, with the causes written in a given way. -/
def messageWith (causeText : Cause → String) : Fault → String
  | .handleOption value => HandleOption.complaint value
  | .collectedUnreadable path cause =>
    "Cannot read collected actions from " ++ path.toString ++ ": " ++ causeText cause
  | .collectedNoObject path =>
    path.toString ++ ": expected a JSON object of controller -> action methods"
  | .collectedNoMethods path className =>
    path.toString ++ ": actions for " ++ Text.Quoted.encode className ++
      " must be a list of method names"
  | .file fault => fault.message
  | .source fault => fault.message
  | .unprintable => "half of a character cannot be encoded"

/-- The message of a fault. -/
def message (f : Fault) : String :=
  f.messageWith Cause.message

end Fault

/-- Why a class is no controller. -/
inductive SkipReason where
  | notLoadable
  | notDerived (base : String)
  | failed
  deriving DecidableEq, Repr

/-- A note of what a run left out, or of what it found. -/
inductive Note where
  | configMissing (file : Path)
  | configUnreadable (file : Path) (cause : Cause)
  | moduleSkipped (key : Source.Key)
  | registryUnreadable (file : Path) (cause : Cause)
  | autoloadMissing (file : Path)
  | autoloadUnreadable (file : Path) (cause : Cause)
  | classSkipped (className : String) (reason : SkipReason)
  | snapshot (handles prefixes controllers : Nat)
  | sourceUnreadable (file : Path) (cause : Cause)
  | collected (controllers classes : Nat)
  | rootMissing (root : Path)
  | templateUnreadable (file : Path) (cause : Cause)
  | defaultActionFailed (className : String)
  deriving DecidableEq, Repr

namespace Note

/-- The part of the program that takes a note. -/
def channel : Note → String
  | .configMissing _ | .configUnreadable .. | .moduleSkipped _ | .registryUnreadable .. =>
    "actionroutes.namespaces"
  | .autoloadMissing _ | .autoloadUnreadable .. | .classSkipped .. => "actionroutes.discovery"
  | .snapshot .. => "actionroutes.checker"
  | .sourceUnreadable .. => "actionroutes.reflection"
  | .collected .. => "actionroutes.collector"
  | .rootMissing _ | .templateUnreadable .. => "actionroutes.templates"
  | .defaultActionFailed _ => "actionroutes.routes"

/-- How a key is quoted in a note. -/
def quoteKey : Source.Key → String
  | .index n => Nat.repr n
  | .text s => Text.Quoted.encode s

/-- Why a class was skipped. -/
def reasonText : SkipReason → String
  | .notLoadable => "class not loadable"
  | .notDerived base => "abstract or not a " ++ base
  | .failed => "reflection failed"

/-- What a note says before the cause, and the cause if it has one. -/
def parts : Note → String × Option Cause
  | .configMissing file => ("Config file " ++ file.toString ++ " not found; core handle only", none)
  | .configUnreadable file cause => ("Cannot read " ++ file.toString, some cause)
  | .moduleSkipped key =>
    ("Skipping module " ++ quoteKey key ++ ": unresolvable definition", none)
  | .registryUnreadable file cause => ("Cannot read plugin registry " ++ file.toString, some cause)
  | .autoloadMissing file => ("No autoload table at " ++ file.toString, none)
  | .autoloadUnreadable file cause => ("Cannot read autoload table " ++ file.toString, some cause)
  | .classSkipped className reason =>
    ("Skipping " ++ className ++ ": " ++ reasonText reason, none)
  | .snapshot handles prefixes controllers =>
    ("Snapshot: " ++ Nat.repr handles ++ " handles, " ++ Nat.repr prefixes ++
      " autoload prefixes, " ++ Nat.repr controllers ++ " discovered controllers", none)
  | .sourceUnreadable file cause => ("Cannot read " ++ file.toString, some cause)
  | .collected controllers classes =>
    ("Collected " ++ Nat.repr controllers ++ " controllers from " ++ Nat.repr classes ++
      " declared classes", none)
  | .rootMissing root => ("Template root " ++ root.toString ++ " does not exist", none)
  | .templateUnreadable file cause =>
    ("Skipping unreadable template " ++ file.toString, some cause)
  | .defaultActionFailed className => ("Default action lookup failed for " ++ className, none)

/-- The line of a note, with the causes written in a given way. -/
def lineWith (causeText : Cause → String) (n : Note) : String :=
  let (text, cause?) := n.parts
  n.channel ++ ": " ++ text ++ ((cause?.map fun c => ": " ++ causeText c).getD "")

end Note

/-- What a run has learnt so far. -/
structure Session where
  classes : ClassTable := {}
  /-- The notes in the order in which they were taken. -/
  notes : List Note := []

/-- An activity of a run. -/
abbrev Audit := ReaderT FileTree (EStateM Fault Session)

namespace Audit

/-- Takes a note. -/
def note (n : Note) : Audit Unit :=
  modify fun s => { s with notes := s.notes ++ [n] }

/-- The answer of an access to a file, whose failure ends the run. -/
def ofAccess {α : Type} (answer : Except FileFault α) : Audit α :=
  match answer with
  | .ok a => pure a
  | .error fault => throw (.file fault)

/-- The answer of an activity, or of another if it ends in a fault. -/
def orElse {α : Type} (x : Audit α) (y : Audit α) : Audit α :=
  tryCatch x fun _ => y

end Audit

end RouteAudit
