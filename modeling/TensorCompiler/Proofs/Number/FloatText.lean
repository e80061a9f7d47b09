import TensorCompiler.Proofs.Number.ShortestValue

/-!
# Texts of floating-point numbers

Different floating-point numbers of one format have different texts: what the bits stand for is
read back from the text, and the bits are read back from what they stand for. All bits of what is
not a number are the same ones.
-/

namespace TensorCompiler.Number

/-- What some bits of a format stand for. -/
def FloatClass.InFormat (f : BinaryFormat) : FloatClass → Prop
  | .finite _ x => x.InFormat f
  | _ => True

/-- The text of a finite number: a sign if it is negative, and then a digit. -/
theorem FloatClass.text_finite (negative : Bool) (x : Dyadic) :
    ∃ c cs, (FloatClass.finite negative x).text.toList =
      (if negative then ['-'] else []) ++ c :: cs ∧ x.shortest.text = c :: cs ∧
        c.isDigit = true := by
  obtain ⟨c, cs, hc, digit⟩ := text_head x.shortest
  refine ⟨c, cs, ?_, hc, digit⟩
  cases negative <;> simp [text, hc]

/-- The texts of infinities and of what is not a number. -/
theorem FloatClass.text_finite_ne {f : BinaryFormat} (small : f.Small) {negative : Bool}
    {x : Dyadic} (hx : x.InFormat f) {c : FloatClass} (hc : ∀ m y, c ≠ .finite m y) :
    (FloatClass.finite negative x).text ≠ c.text := by
  intro h
  have chars := congrArg String.toList h
  obtain ⟨d, ds, text, shortest, digit⟩ := text_finite negative x
  have nonzero := Dyadic.text_ne_zero small hx
  rw [shortest] at nonzero
  rw [text] at chars
  cases c with
  | finite m y => exact hc m y rfl
  | notANumber | infinite m | zero m =>
      first
        | cases negative <;> cases m <;> simp [FloatClass.text] at chars
        | cases negative <;> simp [FloatClass.text] at chars
      all_goals
        obtain ⟨rfl, rfl⟩ := chars
        first
          | exact nonzero rfl
          | exact absurd digit (by decide)

/-- Texts tell apart what bits of one format stand for. -/
theorem FloatClass.text_injective {f : BinaryFormat} (small : f.Small) {c d : FloatClass}
    (hc : c.InFormat f) (hd : d.InFormat f) (h : c.text = d.text) : c = d := by
  by_cases finiteC : ∃ m x, c = .finite m x
  · by_cases finiteD : ∃ n y, d = .finite n y
    · obtain ⟨m, x, rfl⟩ := finiteC
      obtain ⟨n, y, rfl⟩ := finiteD
      have chars := congrArg String.toList h
      obtain ⟨a, as, textX, shortestX, digitX⟩ := text_finite m x
      obtain ⟨b, bs, textY, shortestY, digitY⟩ := text_finite n y
      rw [textX, textY] at chars
      have sign : m = n ∧ a :: as = b :: bs := by
        cases m <;> cases n <;> simp only [Bool.false_eq_true, if_true, if_false, List.nil_append,
          List.singleton_append, List.cons.injEq, true_and] at chars ⊢
        · exact chars
        · rw [chars.1] at digitX
          exact absurd digitX (by decide)
        · rw [← chars.1] at digitY
          exact absurd digitY (by decide)
        · exact chars
      obtain ⟨rfl, same⟩ := sign
      rw [Dyadic.eq_of_text small hc hd (by rw [shortestX, shortestY, same])]
    · obtain ⟨m, x, rfl⟩ := finiteC
      exact absurd h (text_finite_ne small hc fun n y e => finiteD ⟨n, y, e⟩)
  · by_cases finiteD : ∃ n y, d = .finite n y
    · obtain ⟨n, y, rfl⟩ := finiteD
      exact absurd h.symm (text_finite_ne small hd fun m x e => finiteC ⟨m, x, e⟩)
    · cases c with
      | finite m x => exact absurd ⟨m, x, rfl⟩ finiteC
      | notANumber | infinite m | zero m =>
          cases d with
          | finite n y => exact absurd ⟨n, y, rfl⟩ finiteD
          | notANumber | infinite n | zero n =>
              first
                | cases m <;> cases n <;> simp_all [text]
                | cases m <;> simp_all [text]
                | cases n <;> simp_all [text]
                | rfl

/-! ### Bits -/

namespace BinaryFormat

/-- The fraction, the exponent and the sign make up the bits. -/
theorem bits_eq (f : BinaryFormat) {bits : Nat}
    (h : bits < 2 ^ (f.fractionBits + f.exponentBits + 1)) :
    bits = bits % 2 ^ f.fractionBits + 2 ^ f.fractionBits *
      (bits / 2 ^ f.fractionBits % 2 ^ f.exponentBits + 2 ^ f.exponentBits *
        (bits / 2 ^ (f.fractionBits + f.exponentBits) % 2)) := by
  have sign : bits / 2 ^ (f.fractionBits + f.exponentBits) < 2 := by
    rw [Nat.div_lt_iff_lt_mul (Nat.pow_pos (by decide)), Nat.mul_comm, ← Nat.pow_succ]
    exact h
  rw [Nat.mod_eq_of_lt sign, Nat.pow_add, ← Nat.div_div_eq_div_mul, Nat.mod_add_div,
    Nat.mod_add_div]

/-- What bits stand for is of the format. -/
theorem inFormat_classify (f : BinaryFormat) (bits : Nat) : (f.classify bits).InFormat f := by
  have power : 0 < 2 ^ f.fractionBits := Nat.pow_pos (by decide)
  have fraction : bits % 2 ^ f.fractionBits < 2 ^ f.fractionBits := Nat.mod_lt _ power
  unfold classify
  simp only [Nat.pow_eq]
  split
  · split <;> trivial
  · split
    · split
      · trivial
      · rename_i nonzero
        refine ⟨Nat.pos_of_ne_zero nonzero, ?_, le_refl _, ?_, ?_⟩
        · rw [Nat.pow_succ]
          dsimp only
          omega
        · intro less
          exact absurd less (lt_irrefl _)
        · simp
    · rename_i nonzero
      refine ⟨by dsimp only; omega, ?_, by dsimp only; omega, ?_, ?_⟩
      · rw [Nat.pow_succ]
        dsimp only
        omega
      · intro _
        dsimp only
        omega
      · simp only [Bool.and_eq_true, beq_iff_eq, decide_eq_true_eq]
        omega

/-- The fraction, the exponent and the sign in what bits stand for. -/
def fields (f : BinaryFormat) : FloatClass → Nat × Nat × Bool
  | .notANumber => (0, 0, false)
  | .infinite negative => (0, 2 ^ f.exponentBits - 1, negative)
  | .zero negative => (0, 0, negative)
  | .finite negative x =>
    if x.mantissa < 2 ^ f.fractionBits then (x.mantissa, 0, negative)
    else (x.mantissa - 2 ^ f.fractionBits, (x.exponent - f.leastPower + 1).toNat, negative)

/-- The fields of the bits are read back from what they stand for. -/
theorem fields_classify (f : BinaryFormat) (bits : Nat)
    (number : f.classify bits ≠ .notANumber) : f.fields (f.classify bits) =
      (bits % 2 ^ f.fractionBits, bits / 2 ^ f.fractionBits % 2 ^ f.exponentBits,
        bits / 2 ^ (f.fractionBits + f.exponentBits) % 2 == 1) := by
  have fraction : bits % 2 ^ f.fractionBits < 2 ^ f.fractionBits :=
    Nat.mod_lt _ (Nat.pow_pos (by decide))
  unfold classify at number ⊢
  simp only [Nat.pow_eq] at number ⊢
  split
  · rename_i top
    split
    · rename_i zero
      simp only [fields, zero, top]
    · rename_i nonzero
      simp only [top, nonzero, if_true, if_false, ne_eq, not_true_eq_false] at number
  · split
    · rename_i bottom
      split
      · rename_i zero
        simp only [fields, zero, bottom]
      · simp only [fields, fraction, if_true, bottom]
    · simp only [fields, Nat.not_lt.mpr (Nat.le_add_right _ _), if_false, Nat.add_sub_cancel_left,
        Prod.mk.injEq, true_and, and_true]
      omega

/-- What bits stand for determines the bits, unless it is not a number. -/
theorem bits_eq_of_classify (f : BinaryFormat) {bits bits' : Nat}
    (h : bits < 2 ^ (f.fractionBits + f.exponentBits + 1))
    (h' : bits' < 2 ^ (f.fractionBits + f.exponentBits + 1))
    (same : f.classify bits = f.classify bits') (number : f.classify bits ≠ .notANumber) :
    bits = bits' := by
  have parts := f.fields_classify bits number
  rw [same, f.fields_classify bits' (same ▸ number)] at parts
  simp only [Prod.mk.injEq] at parts
  obtain ⟨fraction, expo, negative⟩ := parts
  have sign : bits / 2 ^ (f.fractionBits + f.exponentBits) % 2 =
      bits' / 2 ^ (f.fractionBits + f.exponentBits) % 2 := by
    rw [Bool.eq_iff_iff, beq_iff_eq, beq_iff_eq] at negative
    omega
  rw [f.bits_eq h, f.bits_eq h', fraction, expo, sign]

/-- Not a number is what has all bits of the exponent and one of the fraction. -/
theorem classify_eq_notANumber {f : BinaryFormat} {bits : Nat} (h : f.classify bits = .notANumber) :
    bits / 2 ^ f.fractionBits % 2 ^ f.exponentBits = 2 ^ f.exponentBits - 1 ∧
      bits % 2 ^ f.fractionBits ≠ 0 := by
  unfold classify at h
  simp only [Nat.pow_eq] at h
  split at h
  · rename_i top
    split at h
    · cases h
    · rename_i nonzero
      exact ⟨top, nonzero⟩
  · split at h
    · split at h <;> cases h
    · cases h

end BinaryFormat

/-- The layout of a format of the machine. -/
def layout (spec : Float.Model.Format) : BinaryFormat :=
  ⟨spec.mantissaBitsWithoutImplicit, spec.exponentBits⟩

theorem small_binary32 : (layout .binary32).Small := ⟨by decide, by decide⟩

theorem small_binary64 : (layout .binary64).Small := ⟨by decide, by decide⟩

/-- What is not a number has one representation. -/
theorem eq_packedNaN {spec : Float.Model.Format} {b : BitVec spec.numBits} (valid : spec.Valid b)
    (h : (layout spec).classify b.toNat = .notANumber) :
    b = Float.Model.UnpackedFloat.packedNaN spec := by
  obtain ⟨expo, fraction⟩ := BinaryFormat.classify_eq_notANumber h
  refine valid.eq_packedNaN ?_ ?_
  · have width : spec.mantissaBitsWithoutImplicit + spec.exponentBits - 1 -
        spec.mantissaBitsWithoutImplicit + 1 = spec.exponentBits := by
      have := spec.he
      omega
    apply BitVec.eq_of_toNat_eq
    simp only [Float.Model.UnpackedFloat.unpackExponent, BitVec.toNat_cast,
      BitVec.extractLsb_toNat, Nat.shiftRight_eq_div_pow, width]
    rw [BitVec.neg_one_eq_allOnes, BitVec.toNat_allOnes]
    exact expo
  · intro mantissa
    have width : spec.mantissaBitsWithoutImplicit - 1 - 0 + 1 =
        spec.mantissaBitsWithoutImplicit := by
      have := spec.hm
      omega
    have zero := congrArg BitVec.toNat mantissa
    simp only [Float.Model.UnpackedFloat.unpackMantissa, BitVec.toNat_cast,
      BitVec.extractLsb_toNat, Nat.shiftRight_zero, width, BitVec.toNat_zero] at zero
    exact fraction zero

/-- Different numbers of a format of the machine have different texts. -/
theorem bits_eq_of_text {spec : Float.Model.Format} (small : (layout spec).Small)
    {b b' : BitVec spec.numBits} (valid : spec.Valid b) (valid' : spec.Valid b')
    (h : ((layout spec).classify b.toNat).text = ((layout spec).classify b'.toNat).text) :
    b = b' := by
  have same := FloatClass.text_injective small (BinaryFormat.inFormat_classify _ _)
    (BinaryFormat.inFormat_classify _ _) h
  by_cases number : (layout spec).classify b.toNat = .notANumber
  · rw [eq_packedNaN valid number, eq_packedNaN valid' (same ▸ number)]
  · have size : spec.numBits = (layout spec).fractionBits + (layout spec).exponentBits + 1 := by
      simp only [Float.Model.Format.numBits, layout]
      omega
    exact BitVec.eq_of_toNat_eq
      ((layout spec).bits_eq_of_classify (size ▸ b.isLt) (size ▸ b'.isLt) same number)

/-- Different double-precision numbers have different texts. -/
theorem ofFloat_injective {x y : Float} (h : ofFloat x = ofFloat y) : x = y := by
  have bits : x.toBits.toBitVec = y.toBits.toBitVec :=
    bits_eq_of_text small_binary64 x.toModel.valid y.toModel.valid h
  obtain ⟨⟨a, ha⟩⟩ := x
  obtain ⟨⟨b, hb⟩⟩ := y
  obtain rfl : a = b := UInt64.toBitVec_inj.mp bits
  rfl

/-- Different single-precision numbers have different texts. -/
theorem ofFloat32_injective {x y : Float32} (h : ofFloat32 x = ofFloat32 y) : x = y := by
  have bits : x.toBits.toBitVec = y.toBits.toBitVec :=
    bits_eq_of_text small_binary32 x.toModel.valid y.toModel.valid h
  obtain ⟨⟨a, ha⟩⟩ := x
  obtain ⟨⟨b, hb⟩⟩ := y
  obtain rfl : a = b := UInt32.toBitVec_inj.mp bits
  rfl

end TensorCompiler.Number
