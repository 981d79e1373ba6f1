import Codemap.Text.Basic

namespace Codemap

/-!
# Notices

While a run works it may have something to tell that is not its result.  A notice has
a level and a text; the notices of the pipeline that builds bundles are marked, because
they can be asked for separately.
-/

/-- The weight of a notice. -/
inductive Level where
  | debug
  | info
  | warning
  | error
deriving DecidableEq, Repr, Inhabited

namespace Level

/-- The name of a level. -/
def name : Level → Text
  | .debug => "DEBUG".toList
  | .info => "INFO".toList
  | .warning => "WARNING".toList
  | .error => "ERROR".toList

end Level

/-- Something that a run has to tell. -/
structure Notice where
  level : Level
  text : Text
  isOfPipeline : Bool := false
deriving DecidableEq, Repr, Inhabited

namespace Notice

/-- A notice for looking into a run. -/
def debug (text : Text) : Notice where
  level := .debug
  text

/-- A warning. -/
def warning (text : Text) : Notice where
  level := .warning
  text

/-- A notice of the pipeline. -/
def pipeline (level : Level) (text : Text) : Notice where
  level
  text
  isOfPipeline := true

/-- The level and the text of a notice. -/
def line (notice : Notice) : Text :=
  notice.level.name ++ ' ' :: notice.text

/-- The notice is shown to a user who asked for all of them, or else weighs enough. -/
def isShown (isVerbose : Bool) (notice : Notice) : Bool :=
  isVerbose || notice.level != .debug

end Notice
end Codemap
