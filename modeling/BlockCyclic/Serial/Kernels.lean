import BlockCyclic.Serial.Cholesky
import BlockCyclic.Serial.Condition
import BlockCyclic.Serial.Eigen

/-!
# Serial kernels in machine arithmetic

Content of either precision is kept in doubles. In single precision, the kernels
compute in single arithmetic, or round the result of a computation in doubles. A matrix
without rows has a spectrum, which is empty, but it is neither factored nor inverted.
-/

namespace BlockCyclic

instance : Arithmetic Float where
  ofCount := Float.ofNat
  sqrt := Float.sqrt
  abs := Float.abs
  less a b := decide (a < b)
  isFinite := Float.isFinite
  least := Float.ofBits 0x0010000000000000
  spacing := Float.ofBits 0x3cb0000000000000

instance : Arithmetic Float32 where
  ofCount := Float32.ofNat
  sqrt := Float32.sqrt
  abs := Float32.abs
  less a b := decide (a < b)
  isFinite := Float32.isFinite
  least := Float32.ofBits 0x00800000
  spacing := Float32.ofBits 0x34000000

/-- A kernel in single arithmetic, applied to singles kept in doubles. -/
def inSingle (kernel : Dense Float32 -> Factored Float32) (a : Dense Float) : Factored Float :=
  let r := kernel (a.map Float.toFloat32)
  ⟨r.matrix.map Float32.toFloat, r.status⟩

/--
The status for a matrix without rows. Serial kernels take the distance between columns as
their fourth argument, which has to be positive.
-/
def emptyStatus : Int := -4

def unlessEmpty (kernel : Dense Float -> Factored Float) (a : Dense Float) : Factored Float :=
  if a.rows = 0 then ⟨a, emptyStatus⟩ else kernel a

instance : Measure Float where
  isNaN := Float.isNaN
  isNegative x := decide (x < 0)

def machineKernels : SerialKernels Float Float where
  factor
    | .double, t, a => unlessEmpty (Cholesky.factor t) a
    | .single, t, a => unlessEmpty (inSingle (Cholesky.factor t)) a
  invert
    | .double, t, a => unlessEmpty (Inverse.ofFactor t) a
    | .single, t, a => unlessEmpty (inSingle (Inverse.ofFactor t)) a
  eigen p vectors t a :=
    let s := Eigen.symmetric t a
    { values := s.values.map p.round
      vectors := if vectors then s.vectors.map p.round else Dense.zeros 0 0
      status := s.status }
  eigenWorkspace := Eigen.workspace
  condition p u norm :=
    if u.rows = 0 then (0.0, emptyStatus)
    else
      match p with
      | .double => (Condition.reciprocal u norm, 0)
      | .single => ((Condition.reciprocal (u.map Float.toFloat32) norm.toFloat32).toFloat, 0)

end BlockCyclic
