import Footage.Bytes

/-!
# Reports of failure

A step that fails at the edge of the library, in a container writer, a sink or an archive, tells
what it was doing and, behind that, what went wrong underneath.
-/

namespace Footage

inductive IoError where
  | notFound
  | alreadyExists
  | notADirectory
  | isADirectory
  | nameTooLong
  /-- The text of a path holds the octet that would end it. -/
  | nulInPath
  | other (text : String)
deriving DecidableEq, Repr

def IoError.message : IoError → String
  | notFound => "No such file or directory (os error 2)"
  | alreadyExists => "File exists (os error 17)"
  | notADirectory => "Not a directory (os error 20)"
  | isADirectory => "Is a directory (os error 21)"
  | nameTooLong => "File name too long (os error 36)"
  | nulInPath => "file name contained an unexpected NUL byte"
  | other text => text

/-- What failed, and the chain of causes from the nearest to the deepest. -/
structure Report where
  message : String
  causes : List String := []
deriving DecidableEq, Repr

namespace Report

/-- The failure as seen from the step `message` that it broke. -/
def within (report : Report) (message : String) : Report :=
  ⟨message, report.message :: report.causes⟩

def ofIo (error : IoError) : Report := ⟨error.message, []⟩

/-- A text of which the lines behind the first one are indented by `width`. -/
def hanging (width : Nat) (text : String) : String :=
  let indent := '\n' :: List.replicate width ' '
  String.ofList (text.toList.flatMap fun c => if c = '\n' then indent else [c])

/-- The report as it is shown: causes are indented, and numbered if there are several. -/
def text (report : Report) : String :=
  match report.causes with
  | [] => report.message
  | [cause] => s!"{report.message}\n\nCaused by:\n    {hanging 4 cause}"
  | causes =>
    let lines := causes.zipIdx.map fun (cause, index) => s!"\n    {index}: {hanging 7 cause}"
    s!"{report.message}\n\nCaused by:" ++ String.join lines

end Report

/-- A step that changes a state of type `σ`, which it leaves behind also when it fails. -/
abbrev Effect (σ ε α : Type) := ExceptT ε (StateM σ) α

namespace Effect

variable {σ τ ε δ α : Type}

def rename (f : ε → δ) (step : Effect σ ε α) : Effect σ δ α :=
  ExceptT.adapt f step

def onSecond (step : Effect τ ε α) : Effect (σ × τ) ε α :=
  fun (s, t) => let (result, t) := step t; (result, (s, t))

end Effect

/-- Where encoded octets go. Octets of a failed write do not arrive. -/
structure ByteSink (σ : Type) where
  write : Bytes → Effect σ IoError Unit
  flush : Effect σ IoError Unit

end Footage
