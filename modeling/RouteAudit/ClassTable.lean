import RouteAudit.Assoc
import RouteAudit.Source.Declaration

/-!
# Class tables

The classes that are known so far, and where others are looked for.  A class is known by its name
without regard to case, and of two declarations of one name the first counts.  A file that was read
once is not read again, even if it could not be read.

An autoload table maps the starts of class names to directories; a class may be in the file that the
rest of its name leads to from there.  Longer starts are tried first.
-/

namespace RouteAudit

/-- The directories in which classes are looked for, by the start of their names. -/
abbrev Autoload := Assoc String (List String)

/-- In the empty list every class has its own key. -/
theorem ClassTable.keyed_nil :
    ∀ entry ∈ ([] : Assoc String Source.Declaration), entry.1 = entry.2.key := by
  simp

/-- The known classes, the files read so far, and the directories for what is not known. -/
structure ClassTable where
  autoload : List (String × List String) := []
  classes : Assoc String Source.Declaration := []
  files : Assoc Path (List Source.Declaration) := []
  keyed : ∀ entry ∈ classes, entry.1 = entry.2.key := by
    exact ClassTable.keyed_nil

namespace ClassTable

open Source (Declaration)

/-- The table that knows no class yet. -/
def ofAutoload (autoload : Autoload) : ClassTable :=
  { autoload := autoload.mergeSort fun a b => b.1.length ≤ a.1.length }

/-- The declaration of a class that is known. -/
def get? (table : ClassTable) (key : String) : Option Declaration :=
  table.classes.get? key

/-- The known classes with one more, unless its name is taken. -/
def addClass (classes : Assoc String Declaration) (d : Declaration) : Assoc String Declaration :=
  if classes.contains d.key then classes else classes.insert d.key d

/-- With one more class every class still has its own key. -/
theorem keyed_addClass {classes : Assoc String Declaration}
    (h : ∀ entry ∈ classes, entry.1 = entry.2.key) (d : Declaration) :
    ∀ entry ∈ addClass classes d, entry.1 = entry.2.key := by
  unfold addClass
  split
  · exact h
  · intro entry hentry
    rcases Assoc.mem_insert hentry with hold | rfl
    · exact h entry hold
    · rfl

/-- With more classes every class still has its own key. -/
theorem keyed_foldl {classes : Assoc String Declaration}
    (h : ∀ entry ∈ classes, entry.1 = entry.2.key) (declarations : List Declaration) :
    ∀ entry ∈ declarations.foldl addClass classes, entry.1 = entry.2.key := by
  induction declarations generalizing classes with
  | nil => exact h
  | cons d declarations ih => exact ih (keyed_addClass h d)

/-- The table after a file was read. -/
def record (table : ClassTable) (file : Path) (declarations : List Declaration) : ClassTable :=
  { table with
    files := table.files.insert file declarations
    classes := declarations.foldl addClass table.classes
    keyed := keyed_foldl table.keyed declarations }

/-- The files in which a class may be, by a start of its name. -/
def candidatesUnder (name start : String) (directories : List String) : List Path :=
  if Text.startsWith name start then
    let file := Text.replaceChar '\\' '/' (Text.dropFirst start.length name) ++ ".php"
    directories.map fun directory => (Path.ofString directory).join (Path.ofString file)
  else []

/-- The files in which a class may be, in the order in which they are tried. -/
def candidates (table : ClassTable) (name : String) : List Path :=
  table.autoload.flatMap fun (start, directories) => candidatesUnder name start directories

end ClassTable

end RouteAudit
