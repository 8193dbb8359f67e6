import Scape.Display.Composition

/-!
# Layouts, with the locations of the outputs

`set_layout` again, with what it tells each output of its own location. An output that is
not listed keeps the location that it was told last. The start of outputs comes after this,
and changes no location.
-/

namespace Scape.Display

open Scape

/-- `currentLocation` is in the state of each output. -/
structure Layouts where
  state : State
  currentLocation : SmithayOutput → Point

namespace Layouts

def mapConfigOutput (spaceName : String) (x : Layouts) (configOutput : Output) : Layouts :=
  match x.state.outputs.lookup configOutput.name with
  | none => x
  | some output =>
      ⟨x.state.mapConfigOutput spaceName configOutput,
        Function.update x.currentLocation output ⟨configOutput.x, configOutput.y⟩⟩

def layoutSpace (x : Layouts) (spaceName : String) (configOutputs : List Output) : Layouts :=
  let x : Layouts :=
    { x with state := { x.state with spaces := x.state.spaces.ensure spaceName .empty } }
  let x := configOutputs.foldl (mapConfigOutput spaceName) x
  { x with state := x.state.unmapUnlisted spaceName configOutputs }

def setLayout (W : World) (x : Layouts) (spaces : HashMap String (List Output)) : Layouts :=
  let y := spaces.entries.foldl (fun x entry => x.layoutSpace entry.1 entry.2) x
  if y.state.spaces.keys.length = x.state.spaces.keys.length then y
  else
    { y with
      state := { y.state with
        spaces := y.state.spaces.reorder (W.order y.state.spaces.keys) (W.order_perm _) } }

end Layouts

end Scape.Display
