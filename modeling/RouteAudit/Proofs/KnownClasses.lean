import RouteAudit.Proofs.Ends
import RouteAudit.Proofs.Source.Declaration.Mention
import RouteAudit.Proofs.StableAnswers

/-!
# The classes that a session knows

Whatever calls and changes of files came before, each class that a session knows was read from some
file.  So its name and the names that it mentions are proper, and only a class has a parent
(`World.sound_after`).
-/

namespace RouteAudit
open Source (Declaration)

/-- A declaration of a file is sound. -/
lemma Source.Declaration.StandsIn.sound {tree : FileTree} {d : Declaration}
    (h : d.StandsIn tree) : d.Sound := by
  obtain ⟨path, bytes, -, hd⟩ := h
  exact Declaration.sound_of_mem_parse hd

namespace Audit

variable {α : Type} {tree : FileTree} {places : ClassTable} {J : ClassTable → Prop}
  {P : Declaration → Prop} {Q : α → Prop} {F : Fault → Prop}

/-- The session that a run leaves has the property. -/
lemma EndsIn.session {r : EStateM.Result Fault Session α} (h : EndsIn J Q F r) :
    J (sessionOf r).classes := by
  cases h with
  | ok hs _ => exact hs
  | error hs _ => exact hs

/-- Whether or not a call ends in a fault, what is known then has the property of what stands in
files. -/
lemma Call.ends (hP : ∀ d, d.StandsIn tree → P d) (call : Call) :
    Ends tree (Knows places P) call.perform (fun _ => True) (fun _ => True) := by
  cases call with
  | register path =>
    exact (registerFile_ends_of hP fun _ _ => trivial).bind fun _ _ => .pure trivial
  | find name => exact (find_ends hP fun _ _ _ => trivial).bind fun _ _ => .pure trivial
  | findClass name => exact (findClass_ends hP fun _ _ _ => trivial).bind fun _ _ => .pure trivial

/-- Some path that is tried for a class is too long. -/
def Overlong (tree : FileTree) (places : ClassTable) (name : String) : Prop :=
  ∃ p ∈ places.candidates (Source.ClassName.bare name), tree.locate p = .error .nameTooLong

/-- Where the known classes are sound, so is what a search finds; and it fails only where a path
that it tries is too long. -/
lemma find_sound (tree : FileTree) (places : ClassTable) (name : String) :
    Ends tree (Knows places Declaration.Sound) (find name)
      (fun found => ∀ d, found = some d → d.Sound)
      (fun fault => fault = .file .nameTooLong ∧ Overlong tree places name) :=
  (find_ends (fun _ stands => stands.sound) fun p hp long => ⟨rfl, p, hp, long⟩).imp
    (fun _ found d hd => (found d hd).1) fun _ hfault => hfault

namespace World

variable {autoload : Autoload}

/-- What holds of the known classes holds after one more event. -/
lemma knows_next (hP : ∀ tree d, d.StandsIn tree → P d) {w : World}
    (h : Knows places P w.session.classes) (event : Event) :
    Knows places P (w.next event).session.classes := by
  cases event with
  | call call => exact (call.ends (hP w.tree) w.session h).session
  | write path content => exact h
  | remove path => exact h

/-- What holds of the known classes holds after any events. -/
lemma knows_after (hP : ∀ tree d, d.StandsIn tree → P d) {w : World}
    (h : Knows places P w.session.classes) (events : List Event) :
    Knows places P (w.after events).session.classes := by
  induction events generalizing w with
  | nil => exact h
  | cons event events ih => exact ih (knows_next hP h event)

/-- **The classes that are known at any time mention proper names, and only classes have
parents.** -/
theorem sound_after (autoload : Autoload) (tree : FileTree) (events : List Event) :
    Knows (.ofAutoload autoload) Declaration.Sound
      ((start autoload tree).after events).session.classes := by
  have nothing : Knows (.ofAutoload autoload) Declaration.Sound
      (start autoload tree).session.classes :=
    ⟨rfl, List.forall_mem_nil _, List.forall_mem_nil _⟩
  exact knows_after (fun _ _ stands => stands.sound) nothing events

end World

end Audit
end RouteAudit
