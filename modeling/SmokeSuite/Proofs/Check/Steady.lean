import SmokeSuite.Roster

namespace SmokeSuite

namespace Bench

/-- Whether tools are found, and runs of the layout binary end, whatever files there are. -/
structure IsSteady (b : Bench) : Prop where
  locate : ∀ (files files' : FileTree) (tool : String), b.locate files tool = b.locate files' tool
  invoke : ∀ (files files' : FileTree) (arguments : List String) (input : Option (List UInt8)),
    (b.invoke files arguments input).1.result = (b.invoke files' arguments input).1.result

/-- The bench of a locator and a layout binary that are functions. -/
def ofAnswers (environment : Snapshot) (program : String) (versionOverride : Option String)
    (locate : String → Option String)
    (answer : List String → Option (List UInt8) → Except InvocationError CommandOutput) : Bench :=
  { environment
    locate := fun _ tool => locate tool
    program
    invoke := fun files arguments input => ({ result := answer arguments input }, files)
    versionOverride }

theorem isSteady_ofAnswers (e : Snapshot) (program : String) (version : Option String)
    (locate : String → Option String)
    (answer : List String → Option (List UInt8) → Except InvocationError CommandOutput) :
    (ofAnswers e program version locate answer).IsSteady :=
  ⟨fun _ _ _ => rfl, fun _ _ _ _ => rfl⟩

end Bench

namespace Check

/-- Whether a check comes to one verdict on a bench, whatever files it finds. -/
def IsSettled (c : Check) (b : Bench) : Prop :=
  ∀ files files' : FileTree, (c.run b files).verdict = (c.run b files').verdict

theorem isSettled_existence (tool : String) (xs : List Exclusion) (e : Snapshot) {b : Bench}
    (h : b.IsSteady) : (existence tool xs e).IsSettled b := by
  intro files files'
  simp only [existence, existenceVerdict, h.locate files files' tool]

theorem isSettled_format (t : FormatTarget) {b : Bench} (h : b.IsSteady) :
    (format t).IsSettled b := by
  intro files files'
  simp only [format, runFormat, h.invoke files files']

theorem isSettled_version {b : Bench} (h : b.IsSteady) : version.IsSettled b := by
  intro files files'
  simp only [version, runVersion]
  cases b.expectedVersion with
  | none => rfl
  | some expected => simp only [h.invoke files files']

end Check

end SmokeSuite
