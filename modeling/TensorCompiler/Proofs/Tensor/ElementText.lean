import TensorCompiler.Proofs.Number.FloatText
import TensorCompiler.Proofs.Text.Delimited
import TensorCompiler.Tensor.Elements

/-!
# Texts of elements

The text of an element has neither blanks nor brackets, so the printed form of a sequence of
elements ends at its first closing bracket.
-/

namespace TensorCompiler

/-- The characters that texts of elements are made of. -/
def isElementChar (c : Char) : Bool :=
  c.isDigit || c.isAlpha || ['.', '-', '+'].contains c

namespace Number

theorem isElementChar_of_isDigit {c : Char} (h : c.isDigit = true) : isElementChar c = true := by
  simp [isElementChar, h]

theorem isElementChar_toDigits {n : Nat} {c : Char} (h : c ∈ Nat.toDigits 10 n) :
    isElementChar c = true :=
  isElementChar_of_isDigit (Nat.isDigit_of_mem_toDigits (by decide) (by decide) h)

theorem isElementChar_fractionText {ds : List Char} (hd : ∀ c ∈ ds, isElementChar c = true) :
    ∀ c ∈ fractionText ds, isElementChar c = true := by
  cases ds with
  | nil => simp [fractionText]
  | cons d ds =>
      intro c hc
      rcases List.mem_cons.mp hc with rfl | hc
      · decide
      · exact hd c hc

/-- The text of a decimal with a power of ten. -/
theorem isElementChar_scientific (d : Decimal) :
    ∀ c ∈ d.scientific, isElementChar c = true := by
  have digits : ∀ c ∈ Nat.toDigits 10 d.digits, isElementChar c = true :=
    fun _ => isElementChar_toDigits
  have sign : isElementChar (if d.exponent < 0 then '-' else '+') = true := by
    split <;> decide
  have padded : ∀ c ∈ paddedExponent d.exponent.natAbs, isElementChar c = true := by
    intro c hc
    unfold paddedExponent at hc
    split at hc
    · rcases List.mem_cons.mp hc with rfl | hc
      · decide
      · exact isElementChar_toDigits hc
    · exact isElementChar_toDigits hc
  intro c hc
  unfold Decimal.scientific at hc
  split at hc
  · cases hc
  · rename_i first rest hsplit
    rw [hsplit] at digits
    simp only [List.cons_append, List.mem_cons, List.mem_append] at hc
    rcases hc with rfl | hc | rfl | rfl | hc
    · exact digits c (by simp)
    · exact isElementChar_fractionText (fun c hc => digits c (by simp [hc])) c hc
    · decide
    · exact sign
    · exact padded c hc

/-- The text of a decimal with its digits at their places. -/
theorem isElementChar_positional (d : Decimal) :
    ∀ c ∈ d.positional, isElementChar c = true := by
  have digits : ∀ c ∈ Nat.toDigits 10 d.digits, isElementChar c = true :=
    fun _ => isElementChar_toDigits
  have zeros (n : Nat) : ∀ c ∈ List.replicate n '0', isElementChar c = true := by
    intro c hc
    rw [List.eq_of_mem_replicate hc]
    decide
  intro c hc
  unfold Decimal.positional at hc
  split at hc
  · simp only [List.cons_append, List.mem_cons, List.mem_append] at hc
    rcases hc with rfl | rfl | hc | hc
    · decide
    · decide
    · exact zeros _ c hc
    · exact digits c hc
  · simp only [List.mem_append] at hc
    rcases hc with (hc | hc) | hc
    · exact digits c (List.mem_of_mem_take hc)
    · exact zeros _ c hc
    · exact isElementChar_fractionText (fun c hc => digits c (List.mem_of_mem_drop hc)) c hc

/-- The text of a floating-point number. -/
theorem isElementChar_text (x : FloatClass) : ∀ c ∈ x.text.toList, isElementChar c = true := by
  cases x with
  | notANumber => exact List.all_eq_true.mp (by decide)
  | infinite negative => cases negative <;> exact List.all_eq_true.mp (by decide)
  | zero negative => cases negative <;> exact List.all_eq_true.mp (by decide)
  | finite negative x =>
      have decimal : ∀ c ∈ x.shortest.text, isElementChar c = true := by
        unfold Decimal.text
        split
        · exact isElementChar_scientific _
        · exact isElementChar_positional _
      intro c hc
      cases negative with
      | false => exact decimal c (by simpa [FloatClass.text] using hc)
      | true =>
          simp only [FloatClass.text, if_true, String.toList_ofList, List.mem_cons] at hc
          rcases hc with rfl | hc
          · decide
          · exact decimal c hc

end Number

/-- The numeral of an integer. -/
theorem isElementChar_ofInt (n : Int) : ∀ c ∈ (Text.ofInt n).toList, isElementChar c = true := by
  intro c hc
  cases n with
  | ofNat n => exact Number.isElementChar_of_isDigit (Text.isDigit_of_mem_ofNat hc)
  | negSucc n =>
      simp only [Text.ofInt, String.toList_append, List.mem_append] at hc
      rcases hc with hc | hc
      · obtain rfl : c = '-' := by simpa using hc
        decide
      · exact Number.isElementChar_of_isDigit (Text.isDigit_of_mem_ofNat hc)

/-- The text of an element. -/
theorem isElementChar_elementText (k : Kind) (x : k.Carrier) :
    ∀ c ∈ (k.elementText x).toList, isElementChar c = true := by
  rcases k with _ | (_ | _ | (_ | _))
  · cases x <;> exact List.all_eq_true.mp (by decide)
  · exact Number.isElementChar_text _
  · exact Number.isElementChar_text _
  · exact isElementChar_ofInt _
  · exact isElementChar_ofInt _

/-! ### Sequences -/

/-- Texts with separators have no character that neither of them has. -/
theorem not_mem_joinWith {sep : String} {c : Char} (hs : c ∉ sep.toList) {xs : List String}
    (hx : ∀ x ∈ xs, c ∉ x.toList) : c ∉ (Text.joinWith sep xs).toList := by
  induction xs with
  | nil => simp
  | cons x xs ih =>
      cases xs with
      | nil => simpa using hx
      | cons y xs =>
          simp only [Text.joinWith_cons_cons, String.toList_append, List.mem_append, not_or]
          exact ⟨⟨hx x (by simp), hs⟩, ih fun z hz => hx z (by simp [hz])⟩

/-- The printed form of elements is delimited. -/
theorem Elements.text_delimited {e f : Elements} {r t : List Char}
    (h : (HostSlice.elements e).text.toList ++ r = (HostSlice.elements f).text.toList ++ t) :
    (HostSlice.elements e).text = (HostSlice.elements f).text ∧ r = t := by
  have inside (e : Elements) : ']' ∉ (Text.joinWith " " e.texts).toList := by
    refine not_mem_joinWith (by decide) ?_
    intro x hx hc
    obtain ⟨a, -, rfl⟩ := List.mem_map.mp hx
    exact absurd (isElementChar_elementText e.kind a _ hc) (by decide)
  simp only [HostSlice.text, String.toList_append, List.append_assoc,
    List.append_cancel_left_eq] at h
  obtain ⟨same, rest⟩ := Text.stop_delimited (inside e) (inside f) (by simpa using h)
  exact ⟨by rw [HostSlice.text, HostSlice.text, String.toList_inj.mp same], rest⟩

end TensorCompiler

/-!
## Printed elements

The printed form of a sequence of elements of one kind determines the elements. Across kinds it does
not: `[1]` prints a sequence of any kind of numbers.
-/

namespace TensorCompiler

/-- Different elements of a kind have different texts. -/
theorem Kind.elementText_injective {k : Kind} {x y : k.Carrier}
    (h : k.elementText x = k.elementText y) : x = y := by
  have integers {m n : Int} (same : Text.ofInt m = Text.ofInt n) : m = n :=
    (Text.ofInt_delimited Text.ends_nil Text.ends_nil (by rw [same])).1
  rcases k with _ | (_ | _ | (_ | _))
  · revert x y
    decide
  · exact Number.ofFloat32_injective h
  · exact Number.ofFloat_injective h
  · exact Int32.toInt_inj.mp (integers h)
  · exact Int64.toInt_inj.mp (integers h)

/-- A floating-point number has a text. -/
theorem Number.FloatClass.text_ne_empty (x : FloatClass) : x.text ≠ "" := by
  cases x with
  | notANumber => decide
  | infinite negative => cases negative <;> decide
  | zero negative => cases negative <;> decide
  | finite negative x =>
      obtain ⟨c, cs, text, -, -⟩ := text_finite negative x
      intro empty
      rw [empty] at text
      simp at text

/-- An element has a text. -/
theorem Kind.elementText_ne_empty (k : Kind) (x : k.Carrier) : k.elementText x ≠ "" := by
  have integer (n : Int) : Text.ofInt n ≠ "" := by
    intro empty
    cases n with
    | ofNat n => simp [Text.ofInt, Text.ofNat] at empty
    | negSucc n => simp [Text.ofInt] at empty
  rcases k with _ | (_ | _ | (_ | _))
  · revert x
    decide
  · exact Number.FloatClass.text_ne_empty _
  · exact Number.FloatClass.text_ne_empty _
  · exact integer _
  · exact integer _

/-- Texts without the separator are read back from the joined text, if none of them is empty. -/
theorem Text.joinWith_injective {stop : Char} {sep : String} (hs : sep.toList = [stop])
    {xs ys : List String} (hx : ∀ x ∈ xs, stop ∉ x.toList ∧ x ≠ "")
    (hy : ∀ y ∈ ys, stop ∉ y.toList ∧ y ≠ "") (h : joinWith sep xs = joinWith sep ys) :
    xs = ys := by
  have nonempty {z : String} {zs : List String} (hz : z ≠ "") : joinWith sep (z :: zs) ≠ "" := by
    intro empty
    have text := joinWith_cons_append sep z zs []
    rw [empty, List.append_nil] at text
    exact hz (String.toList_eq_nil_iff.mp (List.append_eq_nil_iff.mp text.symm).1)
  induction xs generalizing ys with
  | nil =>
      cases ys with
      | nil => rfl
      | cons y ys => exact absurd h.symm (nonempty (hy y (by simp)).2)
  | cons x xs ih =>
      cases ys with
      | nil => exact absurd h (nonempty (hx x (by simp)).2)
      | cons y ys =>
          have alone {z w w' : String} {ws : List String} (hz : stop ∉ z.toList) :
              z ≠ joinWith sep (w :: w' :: ws) := by
            intro same
            refine hz ?_
            rw [same]
            simp [hs]
          cases xs with
          | nil =>
              cases ys with
              | nil => rw [show x = y from h]
              | cons y' ys => exact absurd h (alone (hx x (by simp)).1)
          | cons x' xs =>
              cases ys with
              | nil => exact absurd h.symm (alone (hy y (by simp)).1)
              | cons y' ys =>
                  have split := String.toList_inj.mpr h
                  simp only [joinWith_cons_cons, String.toList_append, hs, List.append_assoc,
                    List.cons_append, List.nil_append] at split
                  obtain ⟨first, rest⟩ :=
                    stop_delimited (hx x (by simp)).1 (hy y (by simp)).1 split
                  obtain rfl := String.toList_inj.mp first
                  rw [ih (fun z hz => hx z (by simp [hz])) (fun z hz => hy z (by simp [hz]))
                    (String.toList_inj.mp rest)]

/-- The printed form of elements determines the elements, if their kind is known. -/
theorem Elements.eq_of_text {e f : Elements} (kind : e.kind = f.kind)
    (h : (HostSlice.elements e).text = (HostSlice.elements f).text) : e = f := by
  obtain ⟨k, xs⟩ := e
  obtain ⟨l, ys⟩ := f
  obtain rfl : k = l := kind
  have printed {zs : List k.Carrier} :
      ∀ z ∈ (Elements.mk k zs).texts, ' ' ∉ z.toList ∧ z ≠ "" := by
    intro z hz
    obtain ⟨a, -, rfl⟩ := List.mem_map.mp hz
    refine ⟨?_, k.elementText_ne_empty a⟩
    intro blank
    exact absurd (isElementChar_elementText k a _ blank) (by decide)
  simp only [HostSlice.text, String.append_left_inj, String.append_right_inj] at h
  have blank : " ".toList = [' '] := rfl
  have texts := Text.joinWith_injective blank printed printed h
  have items : xs = ys :=
    List.map_injective_iff.mpr (fun _ _ => k.elementText_injective) texts
  rw [items]

end TensorCompiler
