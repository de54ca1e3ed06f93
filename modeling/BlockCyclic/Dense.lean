/-!
# Dense matrices in column order

A matrix keeps its entries in one array, column after column. It is read through
`get`, which is zero outside the matrix, and two matrices of one shape are equal as
soon as they read the same.
-/

namespace BlockCyclic

/-- A matrix with its entries in column order. -/
structure Dense (alpha : Type) where
  rows : Nat
  cols : Nat
  entries : Array alpha
  size_entries : entries.size = rows * cols

namespace Dense

variable {alpha beta : Type}

theorem place_lt {rows cols i j : Nat} (hi : i < rows) (hj : j < cols) :
    i + j * rows < rows * cols := by
  have hstep : (j + 1) * rows ≤ cols * rows := Nat.mul_le_mul_right rows hj
  have hsucc : (j + 1) * rows = j * rows + rows := by rw [Nat.add_mul, Nat.one_mul]
  rw [Nat.mul_comm rows cols]
  omega

def ofFn (rows cols : Nat) (f : Nat -> Nat -> alpha) : Dense alpha where
  rows := rows
  cols := cols
  entries := Array.ofFn fun k : Fin (rows * cols) => f (k.val % rows) (k.val / rows)
  size_entries := Array.size_ofFn

/-- The entry in the given row and column; zero outside the matrix. -/
def get [Zero alpha] (a : Dense alpha) (i j : Nat) : alpha :=
  if i < a.rows ∧ j < a.cols then a.entries.getD (i + j * a.rows) 0 else 0

def zeros [Zero alpha] (rows cols : Nat) : Dense alpha where
  rows := rows
  cols := cols
  entries := Array.replicate (rows * cols) 0
  size_entries := Array.size_replicate

def mapPlaces [Zero alpha] (f : Nat -> Nat -> alpha -> beta) (a : Dense alpha) : Dense beta :=
  ofFn a.rows a.cols fun i j => f i j (a.get i j)

def map (f : alpha -> beta) (a : Dense alpha) : Dense beta where
  rows := a.rows
  cols := a.cols
  entries := a.entries.map f
  size_entries := by rw [Array.size_map, a.size_entries]

/-- The matrix with one entry replaced; a position outside the matrix changes nothing. -/
def set [Zero alpha] (a : Dense alpha) (i j : Nat) (x : alpha) : Dense alpha :=
  a.mapPlaces fun r c old => if r = i ∧ c = j then x else old

def transpose [Zero alpha] (a : Dense alpha) : Dense alpha :=
  ofFn a.cols a.rows fun i j => a.get j i

/-- The leading part with at most the given numbers of rows and columns. -/
def leading [Zero alpha] (a : Dense alpha) (rows cols : Nat) : Dense alpha :=
  ofFn (min rows a.rows) (min cols a.cols) a.get

def size (a : Dense alpha) : Nat :=
  a.entries.size

def toLists [Zero alpha] (a : Dense alpha) : List (List alpha) :=
  (List.range a.rows).map fun i => (List.range a.cols).map fun j => a.get i j

/--
The matrix of the same shape that takes its entries from a buffer, in column order. What
lies beyond the end of the buffer is `beyond`.
-/
def refill (a : Dense alpha) (beyond : Nat -> alpha) (flat : Array alpha) : Dense alpha :=
  ofFn a.rows a.cols fun i j => flat.getD (i + j * a.rows) (beyond (i + j * a.rows))

/-!
# Reading the results of operations
-/

@[simp] theorem rows_ofFn (m k : Nat) (f : Nat -> Nat -> alpha) : (ofFn m k f).rows = m := rfl

@[simp] theorem cols_ofFn (m k : Nat) (f : Nat -> Nat -> alpha) : (ofFn m k f).cols = k := rfl

@[simp] theorem rows_map (f : alpha -> beta) (a : Dense alpha) : (a.map f).rows = a.rows := rfl

@[simp] theorem cols_map (f : alpha -> beta) (a : Dense alpha) : (a.map f).cols = a.cols := rfl

theorem map_id (a : Dense alpha) : a.map id = a := by
  simp [map]

section

variable [Zero alpha]

theorem get_of_lt (a : Dense alpha) {i j : Nat} (hi : i < a.rows) (hj : j < a.cols) :
    a.get i j = a.entries.getD (i + j * a.rows) 0 := by
  simp [get, hi, hj]

theorem get_outside (a : Dense alpha) {i j : Nat} (h : ¬(i < a.rows ∧ j < a.cols)) :
    a.get i j = 0 := by
  simp [get, h]

theorem get_ofFn (m k : Nat) (f : Nat -> Nat -> alpha) (i j : Nat) :
    (ofFn m k f).get i j = if i < m ∧ j < k then f i j else 0 := by
  by_cases h : i < m ∧ j < k
  · have hpos : 0 < m := Nat.lt_of_le_of_lt (Nat.zero_le i) h.1
    have hsmall : i + j * m < m * k := place_lt h.1 h.2
    rw [get_of_lt _ h.1 h.2]
    simp [ofFn, Array.getD, h, hsmall, Nat.add_mul_mod_self_right, Nat.mod_eq_of_lt h.1,
      Nat.add_mul_div_right _ _ hpos, Nat.div_eq_of_lt h.1]
  · simp [get, h]

@[simp] theorem rows_zeros (m k : Nat) : (zeros m k : Dense alpha).rows = m := rfl

@[simp] theorem cols_zeros (m k : Nat) : (zeros m k : Dense alpha).cols = k := rfl

@[simp] theorem get_zeros (m k i j : Nat) : (zeros m k : Dense alpha).get i j = 0 := by
  by_cases h : i < m ∧ j < k
  · have hsmall : i + j * m < m * k := place_lt h.1 h.2
    rw [get_of_lt _ h.1 h.2]
    simp [zeros, Array.getD, hsmall]
  · exact get_outside _ h

theorem ext_get {a b : Dense alpha} (hrows : a.rows = b.rows) (hcols : a.cols = b.cols)
    (hget : forall i j, i < a.rows -> j < a.cols -> a.get i j = b.get i j) : a = b := by
  obtain ⟨m, k, xs, hxs⟩ := a
  obtain ⟨m', k', ys, hys⟩ := b
  simp only at hrows hcols
  subst hrows hcols
  congr 1
  apply Array.ext
  · rw [hxs, hys]
  · intro p hp hp'
    have hpos : 0 < m := by
      rcases Nat.eq_zero_or_pos m with h | h
      · simp [h] at hxs
        simp [hxs] at hp
      · exact h
    have hi : p % m < m := Nat.mod_lt p hpos
    have hj : p / m < k := by
      rw [hxs] at hp
      exact Nat.div_lt_of_lt_mul hp
    have heq := hget (p % m) (p / m) hi hj
    rw [get_of_lt _ hi hj, get_of_lt _ hi hj] at heq
    simpa [Array.getD, Nat.mul_comm (p / m) m, Nat.mod_add_div, hp, hp'] using heq

theorem get_map [Zero beta] (f : alpha -> beta) (a : Dense alpha) {i j : Nat} (hi : i < a.rows)
    (hj : j < a.cols) : (a.map f).get i j = f (a.get i j) := by
  have hsmall : i + j * a.rows < a.entries.size := by
    rw [a.size_entries]
    exact place_lt hi hj
  have hmap := get_of_lt (a.map f) hi hj
  rw [hmap, get_of_lt a hi hj]
  simp [map, Array.getD, hsmall]

@[simp] theorem rows_transpose (a : Dense alpha) : a.transpose.rows = a.cols := rfl

@[simp] theorem cols_transpose (a : Dense alpha) : a.transpose.cols = a.rows := rfl

theorem get_transpose (a : Dense alpha) {i j : Nat} (hi : i < a.cols) (hj : j < a.rows) :
    a.transpose.get i j = a.get j i := by
  rw [transpose, get_ofFn, if_pos ⟨hi, hj⟩]

@[simp] theorem rows_mapPlaces (f : Nat -> Nat -> alpha -> beta) (a : Dense alpha) :
    (a.mapPlaces f).rows = a.rows := rfl

@[simp] theorem cols_mapPlaces (f : Nat -> Nat -> alpha -> beta) (a : Dense alpha) :
    (a.mapPlaces f).cols = a.cols := rfl

theorem get_mapPlaces [Zero beta] (f : Nat -> Nat -> alpha -> beta) (a : Dense alpha) (i j : Nat) :
    (a.mapPlaces f).get i j = if i < a.rows ∧ j < a.cols then f i j (a.get i j) else 0 :=
  get_ofFn a.rows a.cols _ i j

end

end Dense
end BlockCyclic
