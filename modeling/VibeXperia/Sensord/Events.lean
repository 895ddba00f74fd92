import VibeXperia.Lib.Run
import VibeXperia.Sensord.Axis

namespace VibeXperia.Sensord
open Lib

/-! ## `algo_update_data`: the accelerometer's part -/

/-- A placement that leads to an entry of the table, or to none. -/
structure Placement where
  gPlaceA : Int
  inside : gPlaceA < axisRemapTab.length

/-- The sample as `g_data_a` keeps it, in fields of the type `BS_S16`. -/
def gDataAOf (val : Xyz) : Xyz := ⟨signed 16 val.x, signed 16 val.y, signed 16 val.z⟩

/-- With `HW_A_USE_INPUT_EVENT`: the values that the events leave out are those of `g_data_a`. -/
def algoUpdateDataInputEv (gPlaceA : Int) (events : List InputEvent) (gDataA : Xyz) : Option Xyz :=
  (hwAccReadXyzdataInputEv gPlaceA events gDataA).map fun read => gDataAOf read.2

/-- Without it: a sample that was not read whole leaves `g_data_a` as it is. -/
def algoUpdateDataPolled (gPlaceA : Int) (fr : Int × Xyz) (gDataA : Xyz) : Option Xyz :=
  (hwAccReadXyzdata gPlaceA fr).map fun read => if read.1 = 0 then gDataAOf read.2 else gDataA

/-! ## Samples that arrive as events -/

def changed (event : Int → InputEvent) (last raw : Int) : List InputEvent :=
  if raw = last then [] else [event raw]

/-- The kernel leaves out the axes whose value is the one that it reported last. -/
def kernelEvents (last raw : Xyz) : List InputEvent :=
  changed .absX last.x raw.x ++ changed .absY last.y raw.y ++ changed .absZ last.z raw.z ++ [.syn]

structure EventPath where
  gDataA : Xyz
  /-- What the kernel reported last. -/
  last : Xyz
  deriving DecidableEq, Repr

/-- One raw sample; put out is what stands in `g_data_a` after it. -/
def EventPath.step (place : Placement) (path : EventPath) (raw : Xyz) : EventPath × List Xyz :=
  match algoUpdateDataInputEv place.gPlaceA (kernelEvents path.last raw) path.gDataA with
  | none => ({ path with last := raw }, [])
  | some sample => (⟨sample, raw⟩, [sample])

/-! ## Where the two paths agree -/

inductive Axis
  | x | y | z
  deriving DecidableEq, Repr

def Xyz.on (val : Xyz) : Axis → Int
  | .x => val.x
  | .y => val.y
  | .z => val.z

/-- The axis whose value the remapping puts on an axis. -/
def AxisRemap.source (remap : AxisRemap) : Axis → Axis
  | .x => [Axis.x, .y, .z].getD remap.rx .x
  | .y => [Axis.y, .x, .z].getD remap.ry .y
  | .z => [Axis.z, .x, .y].getD remap.rz .z

def AxisRemap.negated (remap : AxisRemap) : Axis → Nat
  | .x => remap.sx
  | .y => remap.sy
  | .z => remap.sz

/-- The entry of the table for a placement, the one that changes nothing where there is none. -/
def Placement.remap (place : Placement) : AxisRemap :=
  if place.gPlaceA ≥ 0 then axisRemapTab.getD place.gPlaceA.toNat ⟨0, 0, 0, 0, 0, 0⟩
  else ⟨0, 0, 0, 0, 0, 0⟩

/-- A raw value scaled once is the same as another scaled twice, with the signs of the two axes that
they are put on; 22 bits are what scaling leaves in 16. -/
def ScaledAlike (negated : Nat) (raw : Int) (negatedBefore : Nat) (before : Int) : Prop :=
  signed 22 (negateIf negated raw) / 2 ^ 6 =
    negateIf negated (signed 22 (negateIf negatedBefore before) / 2 ^ 12)

/-- A raw value that changed is not negated, or is a multiple of `2 ^ 6`, the scale. One that did not
is not reported: its axis keeps what `previous`, the raw sample before, has put there. -/
def AxisAgrees (remap : AxisRemap) (previous last raw : Xyz) (axis : Axis) : Prop :=
  let source := remap.source axis
  if raw.on source = last.on source then
    ScaledAlike (remap.negated axis) (raw.on source)
      (remap.negated source) (previous.on (remap.source source))
  else remap.negated axis = 0 ∨ 2 ^ 6 ∣ raw.on source

/-- Each axis of each sample agrees. The kernel reported `last` before the first of them. -/
def RawsAgree (remap : AxisRemap) : Xyz → Xyz → List Xyz → Prop
  | _, _, [] => True
  | previous, last, raw :: raws =>
      (∀ axis, AxisAgrees remap previous last raw axis) ∧ RawsAgree remap raw raw raws

end VibeXperia.Sensord
