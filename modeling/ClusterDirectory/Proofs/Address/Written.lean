import ClusterDirectory.Proofs.Address.Spelling

namespace ClusterDirectory.Address

open Text

theorem byteSpelling_decimal (b : UInt8) : ByteSpelling (decimal b) b where
  nonempty := Nat.toDigits_ne_nil
  digits _ := isDigit_of_mem_toDigits
  short :=
    (Nat.length_toDigits_le_iff (by decide) (by decide)).2 (Nat.lt_trans b.toNat_lt (by decide))
  leading zero := by
    rw [decimal, head_toDigits b.toNat zero, Nat.toDigits_of_lt_base (by decide)]
    rfl
  value := digitsValue_toDigits b.toNat

theorem dottedSpelling_dotted (a b c d : UInt8) : DottedSpelling (dotted a b c d) (a, b, c, d) := by
  have spelling := DottedSpelling.mk (byteSpelling_decimal a) (byteSpelling_decimal b)
    (byteSpelling_decimal c) (byteSpelling_decimal d)
  simpa [dotted] using spelling

theorem groupSpelling_group (g : UInt16) : GroupSpelling (group g) g where
  nonempty := Nat.toDigits_ne_nil
  digits _ := isHexDigit_of_mem_hexDigits
  short := (Nat.length_toDigits_le_iff (by decide) (by decide)).2 g.toNat_lt
  value := hexDigitsValue_hexDigits g.toNat

theorem rowSpelling_joined (g : UInt16) (gs : List UInt16) :
    RowSpelling false (joined (g :: gs)) (g :: gs) := by
  induction gs generalizing g with
  | nil =>
      have alone : joined [g] = group g := by simp [joined]
      rw [alone]
      exact .group (groupSpelling_group g)
  | cons h gs ih =>
      have split : joined (g :: h :: gs) = group g ++ ':' :: joined (h :: gs) := by simp [joined]
      rw [split]
      exact .more (groupSpelling_group g) (ih h)

theorem sideSpelling_joined (gs : List UInt16) : SideSpelling false (joined gs) gs := by
  cases gs with
  | nil => exact .nothing
  | cons g gs => exact .row (rowSpelling_joined g gs)

def IsZeroRun (gs : List UInt16) (run : Nat × Nat) : Prop :=
  run.1 + run.2 ≤ gs.length ∧ (gs.drop run.1).take run.2 = List.replicate run.2 0

theorem take_zeros (gs : List UInt16) :
    gs.take (gs.takeWhile (· == 0)).length = List.replicate (gs.takeWhile (· == 0)).length 0 := by
  rw [← List.prefix_iff_eq_take.1 (List.takeWhile_prefix _), List.eq_replicate_iff]
  refine ⟨rfl, fun g member => ?_⟩
  have zero := List.all_eq_true.1 List.all_takeWhile g member
  simpa using zero

theorem isZeroRun_zeroRun (gs : List UInt16) : IsZeroRun gs (zeroRun gs) := by
  unfold zeroRun
  refine List.foldlRecOn (List.range gs.length) _ ⟨Nat.zero_le _, rfl⟩ ?_
  intro best known i _
  simp only
  split
  · rename_i longer
    have bound := (List.takeWhile_prefix (· == 0) (l := gs.drop i)).length_le
    rw [List.length_drop] at bound
    exact ⟨by simp only; omega, take_zeros _⟩
  · exact known

theorem groups_around_zeroRun {gs : List UInt16} {run : Nat × Nat} (zeros : IsZeroRun gs run) :
    gs.take run.1 ++ List.replicate run.2 0 ++ gs.drop (run.1 + run.2) = gs := by
  rw [← zeros.2, List.append_assoc, ← List.drop_drop, List.take_append_drop,
    List.take_append_drop]

theorem spelling_shortened {gs : List UInt16} {a : Address} (groups : ofGroups? gs = some a) :
    Spelling (shortened gs) a := by
  have eight := length_of_ofGroups? groups
  have zeros := isZeroRun_zeroRun gs
  unfold shortened
  generalize zeroRun gs = run at zeros
  obtain ⟨start, count⟩ := run
  have bound : start + count ≤ gs.length := zeros.1
  dsimp only
  split
  · -- the groups on both sides of the colons leave as many of the eight as the run has
    have taken : (gs.take start).length = start := by rw [List.length_take]; omega
    have dropped : (gs.drop (start + count)).length = 8 - (start + count) := by
      rw [List.length_drop, eight]
    refine .shortened (sideSpelling_joined _) (sideSpelling_joined _) (by omega) ?_
    have left : 8 - (gs.take start).length - (gs.drop (start + count)).length = count := by omega
    rw [left, groups_around_zeroRun zeros, groups]
  · obtain ⟨g, gs, rfl⟩ : ∃ g hs, gs = g :: hs :=
      List.exists_cons_of_ne_nil (List.ne_nil_of_length_pos (by omega))
    exact .whole (rowSpelling_joined g gs) groups

theorem pair_bytes (g : UInt16) : pair (highByte g) (lowByte g) = g := by
  have bound := g.toNat_lt
  have high : (highByte g).toNat = g.toNat / 256 := by
    rw [highByte, UInt8.toNat_ofNat', Nat.mod_eq_of_lt]
    omega
  have low : (lowByte g).toNat = g.toNat % 256 := by
    rw [lowByte, UInt8.toNat_ofNat', Nat.mod_eq_of_lt]
    omega
  rw [pair, high, low, Nat.div_add_mod', UInt16.ofNat_toNat]

theorem spelling_mapped (g h : UInt16) :
    Spelling ("::ffff:".toList ++ dotted (highByte g) (lowByte g) (highByte h) (lowByte h))
      (v6 0 0 0 0 0 0xFFFF g h) := by
  have tail := RowSpelling.more (groupSpelling_group 0xFFFF)
    (.dotted (dottedSpelling_dotted (highByte g) (lowByte g) (highByte h) (lowByte h)))
  rw [pair_bytes, pair_bytes] at tail
  exact .shortened .nothing (.row tail) (show 0 + 3 < 8 by decide) rfl

theorem spelling_render (a : Address) : Spelling a.render.toList a := by
  rw [render, String.toList_ofList]
  cases a with
  | v4 a b c d => exact .dotted (dottedSpelling_dotted a b c d)
  | v6 a b c d e f g h =>
      rw [chars]
      split
      · rename_i zeros
        obtain ⟨rfl, rfl, rfl, rfl, rfl, rfl⟩ := zeros
        exact spelling_mapped g h
      · exact spelling_shortened rfl

theorem parse?_render (a : Address) : parse? a.render = some a :=
  parse?_eq_some.2 (spelling_render a)

end ClusterDirectory.Address
