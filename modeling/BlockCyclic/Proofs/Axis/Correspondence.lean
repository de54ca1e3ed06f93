import BlockCyclic.Proofs.Axis.Deal
import Mathlib

/-!
# Indices and seats

A seat is a process together with one of its local slots. The owner and the slot of an
index are its seat, and the indices below `n` and the seats among the extents of `n`
are in one-to-one correspondence. Counting the indices by their owners then shows that
the extents leave nothing out and count nothing twice.
-/

namespace BlockCyclic
namespace Axis

def seat (a : Axis) (g : Int) : Int × Int :=
  (a.owner g, a.slot g)

def seats (a : Axis) (n : Int) : Set (Int × Int) :=
  fun x => x.1 ∈ Set.Ico 0 a.procs ∧ x.2 ∈ Set.Ico 0 (a.extent n x.1)

section

variable {a : Axis} (ha : a.Positive)

include ha

theorem seat_mem {n g : Int} (hg : g ∈ Set.Ico 0 n) :
    a.seat g ∈ a.seats n := by
  constructor
  · exact ⟨owner_nonneg ha g, owner_lt ha g⟩
  · exact ⟨slot_nonneg ha hg.1, slot_lt_extent ha hg.2⟩

theorem index_mem {n p l : Int} (hl : l ∈ Set.Ico 0 (a.extent n p)) :
    a.index p l ∈ Set.Ico 0 n := by
  constructor
  · exact index_nonneg ha p hl.1
  · exact (lt_extent_iff ha n p l).mp hl.2

theorem seat_index {p : Int} (hp : p ∈ Set.Ico 0 a.procs) (l : Int) :
    a.seat (a.index p l) = (p, l) := by
  unfold seat
  rw [owner_index ha hp.1 hp.2, slot_index ha]

theorem bijOn_seat (n : Int) :
    Set.BijOn a.seat (Set.Ico 0 n) (a.seats n) := by
  refine ⟨fun g hg => seat_mem ha hg, ?_, ?_⟩
  · intro g _ k _ h
    have howner : a.owner g = a.owner k := congrArg Prod.fst h
    have hslot : a.slot g = a.slot k := congrArg Prod.snd h
    calc
      g = a.index (a.owner g) (a.slot g) := (index_owner_slot ha g).symm
      _ = a.index (a.owner k) (a.slot k) := by rw [howner, hslot]
      _ = k := index_owner_slot ha k
  · rintro ⟨p, l⟩ ⟨hp, hl⟩
    exact ⟨a.index p l, index_mem ha hl, seat_index ha hp l⟩

/-!
# Counting by owners
-/

theorem card_owned (n : Int) {p : Int} (hp : p ∈ Finset.Ico 0 a.procs) :
    ((Finset.Ico 0 n).filter fun g => a.owner g = p).card = (a.extent n p).toNat := by
  have hrange := Finset.mem_Ico.mp hp
  rw [show (a.extent n p).toNat = (Finset.Ico 0 (a.extent n p)).card by simp]
  apply Finset.card_nbij' a.slot (a.index p)
  · intro g hg
    simp only [Finset.coe_filter, Finset.mem_Ico, Set.mem_ofPred_eq] at hg
    obtain ⟨hbelow, rfl⟩ := hg
    simp only [Finset.coe_Ico]
    exact ⟨slot_nonneg ha hbelow.1, slot_lt_extent ha hbelow.2⟩
  · intro l hl
    simp only [Finset.coe_Ico] at hl
    simp only [Finset.coe_filter, Finset.mem_Ico, Set.mem_ofPred_eq]
    exact ⟨index_mem ha hl, owner_index ha hrange.1 hrange.2 l⟩
  · intro g hg
    simp only [Finset.coe_filter, Finset.mem_Ico, Set.mem_ofPred_eq] at hg
    rw [← hg.2]
    exact index_owner_slot ha g
  · intro l _
    exact slot_index ha p l

theorem sum_extent {n : Int} (hn : 0 ≤ n) :
    ∑ p ∈ Finset.Ico 0 a.procs, a.extent n p = n := by
  have howners : Set.MapsTo a.owner (Finset.Ico 0 n) (Finset.Ico 0 a.procs) := by
    intro g _
    simp only [Finset.coe_Ico]
    exact ⟨owner_nonneg ha g, owner_lt ha g⟩
  have hcount := Finset.card_eq_sum_card_fiberwise howners
  rw [Finset.sum_congr rfl fun p hp => card_owned ha n hp, Int.card_Ico,
    Int.sub_zero] at hcount
  calc
    ∑ p ∈ Finset.Ico 0 a.procs, a.extent n p
        = ∑ p ∈ Finset.Ico 0 a.procs, ((a.extent n p).toNat : Int) :=
      Finset.sum_congr rfl fun p _ => (Int.toNat_of_nonneg (extent_nonneg ha hn p)).symm
    _ = ((∑ p ∈ Finset.Ico 0 a.procs, (a.extent n p).toNat : Nat) : Int) := by
      rw [Nat.cast_sum]
    _ = n := by
      rw [← hcount]
      exact Int.toNat_of_nonneg hn

end

/-!
# Adding up by owners
-/

section

variable {a : Axis} (ha : a.Positive) {procs : Nat} (hprocs : a.procs = procs)

include ha hprocs

theorem owner_lt_procs (g : Nat) : (a.owner g).toNat < procs := by
  have hlt := owner_lt ha g
  have hnonneg := owner_nonneg ha g
  omega

/-- The values at the local indices of all processes are the values at all indices. -/
theorem image_index {R : Type} (n : Nat) (f : Nat -> R) :
    {y | exists p : Fin procs, exists l, l < (a.extent n p).toNat ∧
      f (a.index p l).toNat = y} = f '' Set.Iio n := by
  apply Set.Subset.antisymm
  · rintro y ⟨p, l, hl, rfl⟩
    have hindex := index_mem ha (show (l : Int) ∈ Set.Ico 0 (a.extent n p) from
      ⟨Int.natCast_nonneg l, Int.lt_toNat.mp hl⟩)
    exact ⟨_, (Int.toNat_lt hindex.1).mpr hindex.2, rfl⟩
  · rintro y ⟨g, hg, rfl⟩
    have hbelow := slot_lt_extent ha (Int.ofNat_lt.mpr hg)
    have howner := Int.toNat_of_nonneg (owner_nonneg ha g)
    have hslot := Int.toNat_of_nonneg (slot_nonneg ha (Int.natCast_nonneg g))
    refine ⟨⟨_, owner_lt_procs ha hprocs g⟩, (a.slot g).toNat, ?_, ?_⟩
    · rw [howner, Int.lt_toNat, hslot]
      exact hbelow
    · rw [howner, hslot, index_owner_slot ha]
      rfl

/-- What every process adds up over its indices comes to the sum over all indices. -/
theorem sum_index {R : Type} [AddCommMonoid R] (n : Nat) (f : Nat -> R) :
    ∑ p : Fin procs, ∑ l ∈ Finset.range (a.extent n p).toNat, f (a.index p l).toNat =
      ∑ g ∈ Finset.range n, f g := by
  have hlocal : forall (p : Fin procs) (l : Nat), l < (a.extent n p).toNat ->
      (l : Int) ∈ Set.Ico 0 (a.extent n p) :=
    fun p l hl => ⟨Int.natCast_nonneg l, Int.lt_toNat.mp hl⟩
  have howner : forall g : Nat, ((a.owner g).toNat : Int) = a.owner g :=
    fun g => Int.toNat_of_nonneg (owner_nonneg ha g)
  have hslot : forall g : Nat, ((a.slot g).toNat : Int) = a.slot g :=
    fun g => Int.toNat_of_nonneg (slot_nonneg ha (Int.natCast_nonneg g))
  rw [Finset.sum_sigma']
  apply Finset.sum_nbij' (fun x => (a.index x.1 x.2).toNat)
    (fun g => ⟨⟨(a.owner g).toNat, owner_lt_procs ha hprocs g⟩, (a.slot g).toNat⟩)
  · rintro ⟨p, l⟩ hl
    simp only [Finset.mem_sigma, Finset.mem_univ, true_and, Finset.mem_range] at hl
    have hindex := index_mem ha (hlocal p l hl)
    exact Finset.mem_range.mpr ((Int.toNat_lt hindex.1).mpr hindex.2)
  · intro g hg
    have hbelow := slot_lt_extent ha (Int.ofNat_lt.mpr (Finset.mem_range.mp hg))
    simp only [Finset.mem_sigma, Finset.mem_univ, true_and, Finset.mem_range]
    rw [howner, Int.lt_toNat, hslot]
    exact hbelow
  · rintro ⟨p, l⟩ hl
    simp only [Finset.mem_sigma, Finset.mem_univ, true_and, Finset.mem_range] at hl
    have hp : (p : Int) ∈ Set.Ico 0 a.procs :=
      ⟨Int.natCast_nonneg p, hprocs ▸ Int.ofNat_lt.mpr p.isLt⟩
    have hindex := Int.toNat_of_nonneg (index_mem ha (hlocal p l hl)).1
    have hseat := seat_index ha hp l
    have hback : a.owner (a.index p l) = p := congrArg Prod.fst hseat
    have hplace : a.slot (a.index p l) = l := congrArg Prod.snd hseat
    simp only [hindex, hback, hplace, Int.toNat_natCast]
  · intro g _
    simp only [howner, hslot, index_owner_slot ha, Int.toNat_natCast]
  · rintro ⟨p, l⟩ _
    rfl

end

/-!
# The correspondence

Both round trips are stated with the ranges that they need, since neither says anything
about the other's range. The source may be any integer, also a negative one.
-/

theorem indices_correspond_to_seats {a : Axis} (ha : a.Positive) {n : Int} (hn : 0 ≤ n) :
    (forall g, 0 ≤ g -> g < n ->
      (0 ≤ a.owner g ∧ a.owner g < a.procs) ∧
      (0 ≤ a.slot g ∧ a.slot g < a.extent n (a.owner g)) ∧
      a.index (a.owner g) (a.slot g) = g) ∧
    (forall p l, 0 ≤ p -> p < a.procs -> 0 ≤ l -> l < a.extent n p ->
      (0 ≤ a.index p l ∧ a.index p l < n) ∧
      a.owner (a.index p l) = p ∧ a.slot (a.index p l) = l) ∧
    Set.BijOn a.seat (Set.Ico 0 n) (a.seats n) ∧
    ∑ p ∈ Finset.Ico 0 a.procs, a.extent n p = n := by
  refine ⟨?_, ?_, bijOn_seat ha n, sum_extent ha hn⟩
  · intro g hg hlt
    have hseat := seat_mem ha ⟨hg, hlt⟩
    exact ⟨hseat.1, hseat.2, index_owner_slot ha g⟩
  · intro p l hp hlt hl hbound
    have hindex := index_mem ha ⟨hl, hbound⟩
    exact ⟨hindex, owner_index ha hp hlt l, slot_index ha p l⟩

/-- Eight indices in blocks of three to two processes, from a source before the first. -/
theorem indices_correspond_to_seats_source_minus_one :
    (⟨3, 2, -1⟩ : Axis).Positive ∧
    (⟨3, 2, -1⟩ : Axis).index ((⟨3, 2, -1⟩ : Axis).owner 7) ((⟨3, 2, -1⟩ : Axis).slot 7) = 7 ∧
    ∑ p ∈ Finset.Ico 0 2, (⟨3, 2, -1⟩ : Axis).extent 8 p = 8 := by
  have ha : (⟨3, 2, -1⟩ : Axis).Positive := ⟨by decide, by decide⟩
  have hdeal := indices_correspond_to_seats ha (show (0 : Int) ≤ 8 by decide)
  exact ⟨ha, (hdeal.1 7 (by decide) (by decide)).2.2, hdeal.2.2.2⟩

end Axis
end BlockCyclic
