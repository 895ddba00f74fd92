import VibeXperia.Sensord.Power
import VibeXperia.Lib.Pending
import VibeXperia.Lib.Demand

namespace VibeXperia.Sensord
open Lib

/-! ## What is written to the accelerometer -/

namespace AccWrite

def bwErr : AccWrite → Option Int
  | .bw _ err => some err
  | .delay .. => none

def delayErr : AccWrite → Option Int
  | .bw .. => none
  | .delay _ err => some err

def programmedBw : AccWrite → Option Nat
  | .bw value err => if err = 0 then some value else none
  | .delay .. => none

def programmedDelay : AccWrite → Option Int
  | .bw .. => none
  | .delay itvl err => if err = 0 then some itvl else none

end AccWrite

/-- The last of these writes did not fail. -/
def Succeeds (answer : AccWrite → Option Int) (writes : List AccWrite) : Prop :=
  ∀ err, lastWrite answer writes = some err → err = 0

/-- All that the events make the daemon write to the accelerometer. -/
def written (b : Build) (errs : InitErrs) (events : List Event) : List AccWrite :=
  ((final (step b) (start b errs) events).hw .a).writes

/-! ## What the channels ask for -/

/-- The data rates of a product that channels ask for. -/
inductive RateKind
  | acc | mag
  deriving DecidableEq, Repr

namespace RateKind

def dr : RateKind → AlgoProduct → Nat
  | .acc => AlgoProduct.drA
  | .mag => AlgoProduct.drM

def low : RateKind → AlgoProduct → Nat
  | .acc => AlgoProduct.drAccMin
  | .mag => AlgoProduct.drMagMin

def high : RateKind → AlgoProduct → Nat
  | .acc => AlgoProduct.drAccMax
  | .mag => AlgoProduct.drMagMax

def arbitrated : RateKind → Algo → Nat
  | .acc => Algo.gDrA
  | .mag => Algo.gDrM

def module : RateKind → AlgoModuleId
  | .acc => .acc
  | .mag => .mag

end RateKind

namespace Daemon
variable (b : Build) (kind : RateKind) (s : Daemon)

/-- The rate of a channel's interval. -/
def askedRate (ch : Sensor) : Nat := algoHz2dataRate (1000 / (s.channel ch).interval)

/-- The rate of a channel's interval within the bounds of its product. -/
def regulatedRate (ch : Sensor) : Nat :=
  let product := s.algo.gProductsFusion ch
  regulate (s.askedRate ch) (kind.low product) (kind.high product)

/-- The highest regulated rate of the channels that are not asleep. -/
def highestRate : Nat := highest (productsFusion b) s.awake (s.regulatedRate kind)

/-- The table's interval, if the module is active. -/
def moduleInterval : List Int :=
  if algoModIsEnabled b kind.module s.algo then [gTabIntvl.getD (s.highestRate b kind) 0] else []

/-- The greatest common divisor of 1000 and the intervals of the active modules. -/
def commonInterval : Nat :=
  (s.moduleInterval b .acc ++ s.moduleInterval b .mag).foldr
    (fun interval divisor => Int.gcd interval divisor) 1000

/-- `HW_IS_ACTIVE(g_active_hws, A)` -/
def accActive : Bool := depBit s.algo.gActiveHws .a

end Daemon

/-- What the rates of the channels say about a state in which `writes` were made. -/
structure RatesAgree (b : Build) (s : Daemon) (writes : List AccWrite) : Prop where
  enabled : ∀ ch ∈ productsFusion b, (s.algo.gProductsFusion ch).enable = s.awake ch
  arbitrated : ∀ kind : RateKind, kind.arbitrated s.algo = s.highestRate b kind
  inside : ∀ kind : RateKind,
    kind.arbitrated s.algo < gTabIntvl.length ∧ kind.arbitrated s.algo < gTabRefBw.length
  delay : s.accActive = true → Succeeds AccWrite.delayErr writes →
    lastWrite AccWrite.programmedDelay writes = some (gTabIntvl.getD (s.highestRate b .acc) 0)
  bw : s.accActive = true → Succeeds AccWrite.bwErr writes →
    ∃ value, mapABw.lookup (gTabRefBw.getD (s.highestRate b .acc) 0) = some value ∧
      lastWrite AccWrite.programmedBw writes = some value
  short : s.accActive = true → Succeeds AccWrite.delayErr writes →
    ∀ ch, s.awake ch = true → ch.hwDep.contains .a = true →
      s.askedRate ch ≤ (s.algo.gProductsFusion ch).drAccMax →
        ∃ delay, lastWrite AccWrite.programmedDelay writes = some delay ∧
          delay ≤ (s.channel ch).interval
  interval : ((s.sp .spFusion).interval : Int) = max intvProcMin (s.commonInterval b)

end VibeXperia.Sensord
