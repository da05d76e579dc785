import Reshape.Operation.Standard
import Reshape.Transform.Config
import Reshape.Transform.Run

/-!
# Transformers

A `Transformer` is what stays the same from run to run: the operations that
expressions can use, and a configuration.
-/

namespace Reshape

structure Transformer where
  registry : Registry
  config : Config

structure RunOptions where
  /-- The mode in place of the configured one. -/
  mode : Option Mode
  /-- The template to start with in place of the root body. -/
  start : Option String
  deriving DecidableEq, Repr

def RunOptions.none : RunOptions := ⟨.none, .none⟩

namespace Transformer

/-- The standard operations and the standard configuration. -/
def standard (present : String) : Transformer := ⟨.standard present, .standard⟩

def conditions (t : Transformer) (mode : Mode) : Transform.Conditions :=
  ⟨mode, t.registry, t.config.limit⟩

def setting (t : Transformer) (spec : Spec) (mode : Mode) : Transform.Setting :=
  ⟨t.conditions mode, spec⟩

def run (t : Transformer) (spec : Spec) (options : RunOptions) (d : Document) :
    Attempt Transform.Failure Document :=
  (t.setting spec (options.mode.getD t.config.mode)).start options.start d

end Transformer

end Reshape
