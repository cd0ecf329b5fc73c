import RouteAudit.CommandLine.Options
import RouteAudit.Project.Listing

/-!
# Running a command line

A command line comes to text on the two outputs and an exit code, which is the same for the same
files and arguments.  Zero is for success, one for a check that found something or a request that
cannot be met, and two for arguments that cannot be understood.
-/

namespace RouteAudit.CommandLine

/-- What a command line comes to. -/
inductive Outcome where
  | usage (usage : Usage)
  /-- The request cannot be met, so nothing is looked at. -/
  | refused (fault : Fault)
  /-- The command ran to its end. -/
  | finished (output : String) (success : Bool) (notes : List Note)
  /-- The command broke off. -/
  | aborted (fault : Fault) (notes : List Note)

namespace Outcome

/-- The exit code. -/
def exitCode : Outcome → Nat
  | .usage .requested => 0
  | .usage .mistaken => 2
  | .refused _ => 1
  | .finished _ success _ => if success then 0 else 1
  | .aborted _ _ => 1

/-- The usage. -/
def usageText : String :=
  "usage: actionroutes [-h] check|routes [--config FILE] [--handle HANDLE=NAMESPACE]\n" ++
  "         [--scan-path DIR] [--collected FILE] [-v]\n" ++
  "         [--templates DIR] [--extension ENDING] [--format text|json]\n"

/-- The text on the standard output. -/
def output : Outcome → String
  | .usage .requested => usageText
  | .finished output _ _ => output
  | _ => ""

/-- The lines on the error output, with the causes of faults and notes written in given ways. -/
def errorLinesWith (faultCause noteCause : Cause → String) : Outcome → List String
  | .usage _ => []
  | .refused fault => ["Error: " ++ fault.messageWith faultCause]
  | .finished _ _ notes => notes.map (Note.lineWith noteCause)
  | .aborted fault notes =>
    notes.map (Note.lineWith noteCause) ++ [fault.messageWith faultCause]

/-- The text on the error output. -/
def errorOutput : Outcome → String
  | .usage .mistaken => usageText
  | o => String.join ((o.errorLinesWith Cause.message Cause.message).map (· ++ "\n"))

end Outcome

/-- The handle and the namespace of an option. -/
def parseHandle (value : String) : Except Fault (String × String) :=
  match HandleOption.parse? value with
  | some pair => .ok pair
  | none => .error (.handleOption value)

/-- The collected actions that an option names; an empty name is none. -/
def loadActions (tree : FileTree) : Option String → Except Fault (Option ActionTable)
  | none => .ok none
  | some file =>
    if file.isEmpty then .ok none
    else (Audit.loadCollected tree (Path.ofString file)).map some

/-- What the options ask to check. -/
def Options.checkConfig (tree : FileTree) (o : Options) : Except Fault CheckConfig := do
  let handles ← o.handles.mapM parseHandle
  let collected ← loadActions tree o.collected
  return {
    config := o.config
    handles
    templates := if o.templates.isEmpty then ["templates"] else o.templates
    ending := o.ending
    scanPaths := o.scanPaths
    collected }

/-- A check in a given format. -/
def Format.write (format : Format) (result : CheckResult) : String :=
  match format with
  | .text => result.text
  | .json => result.json

/-- The text that a command gives, and whether it found nothing wrong. -/
def Command.answer (command : Command) (format : Format) (c : CheckConfig) :
    Audit (String × Bool) := do
  match command with
  | .check =>
    let result ← Audit.check c
    return (format.write result, result.ok)
  | .routes =>
    let project ← Audit.buildProject c
    return (project.listing, true)

/-- Whether a document that the options name holds half of a character in a string. -/
def Options.holdHalf (tree : FileTree) (o : Options) : Bool :=
  let config := Path.ofString o.config
  (config.extension == ".json" && tree.writesHalf config) ||
    o.collected.any fun file => !file.isEmpty && tree.writesHalf (Path.ofString file)

/-- What a command puts out, and whether it found nothing wrong.  Half of a character cannot be put
out; in a text it is U+FFFD. -/
def Command.perform (command : Command) (format : Format) (c : CheckConfig) (half : Bool) :
    Audit (String × Bool) := do
  let (output, success) ← command.answer format c
  if half && output.contains '\uFFFD' then throw .unprintable
  else return (output, success)

/-- What a command line comes to in a tree of files. -/
def run (tree : FileTree) (args : List String) : Outcome :=
  match Command.parse args with
  | .error usage => .usage usage
  | .ok (command, o) =>
    match o.checkConfig tree with
    | .error fault => .refused fault
    | .ok c =>
      let shown (s : Session) : List Note := if o.verbose then s.notes else []
      match ((command.perform o.format c (o.holdHalf tree)).run tree).run {} with
      | .ok (output, success) session => .finished output success (shown session)
      | .error fault session => .aborted fault (shown session)

end RouteAudit.CommandLine
