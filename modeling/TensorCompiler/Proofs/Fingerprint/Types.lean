import TensorCompiler.Proofs.Text.Delimited
import TensorCompiler.Syntax.Fingerprint

/-!
# Encodings of types

The printed name of a data type may be any text, and only a data type that stands alone is quoted.
A type without data types inside is delimited; so the encoding of such a type, or of a data type
standing alone, determines the type up to what is not printed: the keys of data types, and which of
the two element types without a name of their own a tensor has.
-/

namespace TensorCompiler

/-- The element type as it is printed. -/
def DType.nominal : DType → DType
  | .int => .invalid
  | dt => dt

@[simp]
theorem DType.name_nominal (dt : DType) : dt.nominal.name = dt.name := by
  cases dt <;> rfl

@[simp]
theorem DType.nominal_nominal (dt : DType) : dt.nominal.nominal = dt.nominal := by
  cases dt <;> rfl

/-- Element types with an implementation are known by their names. -/
theorem DType.nominal_of_kind {dt : DType} (h : dt.kind?.isSome = true) : dt.nominal = dt := by
  cases dt <;> first | rfl | cases h

/-- The shape as it is printed. -/
def Shape.nominal (s : Shape) : Shape :=
  ⟨s.dtype.nominal, s.dims⟩

@[simp]
theorem Shape.text_nominal (s : Shape) : s.nominal.text = s.text := by
  simp [Shape.text, Shape.nominal]

@[simp]
theorem Shape.nominal_nominal (s : Shape) : s.nominal.nominal = s.nominal := by
  simp [Shape.nominal]

namespace Ty

mutual

/-- A type without data types. -/
def isFlat : Ty → Bool
  | .unknown | .tensor _ => true
  | .tuple fields => areFlat fields
  | .func params result => areFlat params && isFlat result
  | .data _ => false

/-- Types without data types. -/
def areFlat : List Ty → Bool
  | [] => true
  | t :: ts => isFlat t && areFlat ts

end

/-- A type whose encoding can be read: a data type, or a type without data types. -/
def isReadable : Ty → Bool
  | .data _ => true
  | t => t.isFlat

mutual

/-- The type as its encoding knows it. -/
def nominal : Ty → Ty
  | .unknown => .unknown
  | .tensor s => .tensor s.nominal
  | .tuple fields => .tuple (nominalAll fields)
  | .func params result => .func (nominalAll params) (nominal result)
  | .data d => .data ⟨0, d.name⟩

/-- The types as their encodings know them. -/
def nominalAll : List Ty → List Ty
  | [] => []
  | t :: ts => nominal t :: nominalAll ts

end

mutual

theorem text_nominal : (t : Ty) → t.nominal.text = t.text
  | .unknown | .data _ => rfl
  | .tensor s => Shape.text_nominal s
  | .tuple fields => by rw [nominal, text, text, texts_nominalAll fields]
  | .func params result => by
      rw [nominal, text, text, texts_nominalAll params, text_nominal result]

theorem texts_nominalAll : (ts : List Ty) → texts (nominalAll ts) = texts ts
  | [] => rfl
  | t :: ts => by rw [nominalAll, texts, texts, text_nominal t, texts_nominalAll ts]

end

/-- Encodings do not show what `nominal` forgets. -/
@[simp]
theorem encoding_nominal (t : Ty) : t.nominal.encoding = t.encoding := by
  cases t with
  | unknown | data => rfl
  | tensor | tuple | func => exact text_nominal _

mutual

theorem isFlat_nominal : (t : Ty) → t.nominal.isFlat = t.isFlat
  | .unknown | .data _ | .tensor _ => rfl
  | .tuple fields => by rw [nominal, isFlat, isFlat, areFlat_nominalAll fields]
  | .func params result => by
      rw [nominal, isFlat, isFlat, areFlat_nominalAll params, isFlat_nominal result]

theorem areFlat_nominalAll : (ts : List Ty) → areFlat (nominalAll ts) = areFlat ts
  | [] => rfl
  | t :: ts => by rw [nominalAll, areFlat, areFlat, isFlat_nominal t, areFlat_nominalAll ts]

end

@[simp]
theorem isReadable_nominal (t : Ty) : t.nominal.isReadable = t.isReadable := by
  cases t with
  | unknown | data => rfl
  | tensor | tuple | func => exact isFlat_nominal _

mutual

@[simp]
theorem nominal_nominal : (t : Ty) → t.nominal.nominal = t.nominal
  | .unknown | .data _ => rfl
  | .tensor s => by rw [nominal, nominal, Shape.nominal_nominal]
  | .tuple fields => by rw [nominal, nominal, nominalAll_nominalAll fields]
  | .func params result => by
      rw [nominal, nominal, nominalAll_nominalAll params, nominal_nominal result]

theorem nominalAll_nominalAll : (ts : List Ty) → nominalAll (nominalAll ts) = nominalAll ts
  | [] => rfl
  | t :: ts => by
      rw [nominalAll, nominalAll, nominal_nominal t, nominalAll_nominalAll ts]

end

end Ty

/-! ### Shapes -/

namespace Shape

/-- Axes and the name of an element type are delimited. -/
theorem text_delimited {s t : Shape} {r r' : List Char}
    (h : s.text.toList ++ r = t.text.toList ++ r') : s.nominal = t.nominal ∧ r = r' := by
  obtain ⟨dt, dims⟩ := s
  obtain ⟨du, dims'⟩ := t
  simp only [text, String.toList_append, List.append_assoc] at h
  induction dims generalizing dims' with
  | nil =>
      cases dims' with
      | nil =>
          cases dt <;> cases du <;> simp_all [axesText, DType.name, nominal, DType.nominal]
      | cons d dims' =>
          cases dt <;> simp [axesText, DType.name] at h
  | cons d dims ih =>
      cases dims' with
      | nil =>
          cases du <;> simp [axesText, DType.name] at h
      | cons d' dims' =>
          simp only [axesText, String.toList_append, List.append_assoc,
            List.append_cancel_left_eq] at h
          obtain ⟨rfl, rest⟩ := Text.ofInt_delimited (by simp) (by simp) h
          obtain ⟨same, last⟩ := ih dims' (by simpa using rest)
          simp only [nominal, Shape.mk.injEq] at same ⊢
          exact ⟨⟨same.1, by rw [same.2]⟩, last⟩

/-- What the text of a shape does not begin with: the beginnings of the other types and the end of
a list. -/
theorem text_ne (s : Shape) (r t : List Char) :
    (∀ c ∈ ['(', ')', '<', '_', 'd'], s.text.toList ++ r ≠ c :: t) ∧
      s.text.toList ++ r ≠ 'f' :: 'n' :: t := by
  obtain ⟨dt, _ | ⟨d, dims⟩⟩ := s
  · cases dt <;> simp [text, axesText, DType.name]
  · simp [text, axesText]

end Shape

/-! ### Types -/

namespace Ty

/-- A flat type does not begin like the end of a list or like a type standing alone. -/
theorem text_ne {t : Ty} (ht : t.isFlat = true) (r s : List Char) :
    ∀ c ∈ [')', '_', 'd'], t.text.toList ++ r ≠ c :: s := by
  cases t with
  | unknown | tuple | func => simp [text]
  | tensor sh =>
      have among : [')', '_', 'd'] ⊆ ['(', ')', '<', '_', 'd'] := by simp
      exact fun c hc => (Shape.text_ne sh r s).1 c (among hc)
  | data d => cases ht

/-- A tensor type differs from the beginning on from every other flat type. -/
theorem eq_tensor_of_text {sh : Shape} {u : Ty} (hu : u.isFlat = true) {r s : List Char}
    (h : sh.text.toList ++ r = u.text.toList ++ s) : ∃ sh', u = .tensor sh' := by
  have ne := Shape.text_ne sh r
  cases u with
  | tensor sh' => exact ⟨sh', rfl⟩
  | unknown => exact absurd h (by simpa [text] using (ne _).1 '<' (by simp))
  | tuple us => exact absurd h (by simpa [text] using (ne _).1 '(' (by simp))
  | func qs u => exact absurd h (by simpa [text] using (ne _).2)
  | data d => cases hu

mutual

/-- Flat types are delimited. -/
theorem text_delimited : (t u : Ty) → t.isFlat = true → u.isFlat = true → ∀ {r s : List Char},
    t.text.toList ++ r = u.text.toList ++ s → t.nominal = u.nominal ∧ r = s
  | .tensor sh, u, ht, hu, r, s, h => by
      obtain ⟨sh', rfl⟩ := eq_tensor_of_text hu h
      obtain ⟨same, rest⟩ := Shape.text_delimited h
      exact ⟨by rw [nominal, nominal, same], rest⟩
  | .unknown, u, ht, hu, r, s, h => by
      cases u with
      | unknown => simpa [text] using h
      | tensor sh => exact absurd (eq_tensor_of_text ht h.symm) (by simp)
      | tuple | func => simp [text] at h
      | data d => cases hu
  | .tuple ts, u, ht, hu, r, s, h => by
      cases u with
      | tuple us =>
          simp only [text, String.toList_append, List.append_assoc,
            List.append_cancel_left_eq] at h
          obtain ⟨same, rest⟩ := texts_delimited ts us ht hu (by simpa using h)
          exact ⟨by rw [nominal, nominal, same], rest⟩
      | tensor sh => exact absurd (eq_tensor_of_text ht h.symm) (by simp)
      | unknown | func => simp [text] at h
      | data d => cases hu
  | .func ps t, u, ht, hu, r, s, h => by
      cases u with
      | func qs u =>
          simp only [isFlat, Bool.and_eq_true] at ht hu
          simp only [text, String.toList_append, List.append_assoc,
            List.append_cancel_left_eq] at h
          obtain ⟨same, rest⟩ := texts_delimited ps qs ht.1 hu.1 (by simpa using h)
          obtain ⟨same', last⟩ := text_delimited t u ht.2 hu.2 (by simpa using rest)
          exact ⟨by rw [nominal, nominal, same, same'], last⟩
      | tensor sh => exact absurd (eq_tensor_of_text ht h.symm) (by simp)
      | unknown | tuple => simp [text] at h
      | data d => cases hu
  | .data d, _, ht, _, _, _, _ => by cases ht

/-- Lists of flat types are delimited by the closing bracket. -/
theorem texts_delimited : (ts us : List Ty) → areFlat ts = true → areFlat us = true →
    ∀ {r s : List Char}, (Text.commaList (texts ts)).toList ++ ')' :: r =
      (Text.commaList (texts us)).toList ++ ')' :: s → nominalAll ts = nominalAll us ∧ r = s
  | [], [], _, _, r, s, h => by simpa [texts] using h
  | [], u :: us, _, hu, r, s, h => by
      simp only [areFlat, Bool.and_eq_true] at hu
      rw [texts, Text.commaList, texts, Text.commaList, Text.joinWith_cons_append] at h
      exact absurd h.symm (text_ne hu.1 _ _ ')' (by simp))
  | t :: ts, [], ht, _, r, s, h => by
      simp only [areFlat, Bool.and_eq_true] at ht
      rw [texts, Text.commaList, texts, Text.commaList, Text.joinWith_cons_append] at h
      exact absurd h (text_ne ht.1 _ _ ')' (by simp))
  | t :: ts, u :: us, ht, hu, r, s, h => by
      simp only [areFlat, Bool.and_eq_true] at ht hu
      rw [texts, Text.commaList, texts, Text.commaList, Text.joinWith_cons_append,
        Text.joinWith_cons_append] at h
      obtain ⟨head, rest⟩ := text_delimited t u ht.1 hu.1 h
      rw [nominalAll, nominalAll, head]
      cases ts with
      | nil =>
          cases us with
          | nil => simpa [texts, Text.joinRest] using rest
          | cons u us => simp [texts, Text.joinRest] at rest
      | cons t' ts =>
          cases us with
          | nil => simp [texts, Text.joinRest] at rest
          | cons u us =>
              obtain ⟨same, last⟩ := texts_delimited (t' :: ts) (u :: us) ht.2 hu.2
                (List.append_cancel_left rest)
              exact ⟨by rw [same], last⟩

end

/-- An encoding is that of an unknown type or of a data type, or it is the printed form. -/
theorem encoding_cases (t : Ty) :
    t = .unknown ∧ t.encoding.toList = ['_'] ∨
      (∃ d, t = .data d ∧
        t.encoding.toList = 'd' :: 'a' :: 't' :: 'a' :: (Text.quoted d.name).toList) ∨
      t.encoding.toList = t.text.toList ∧ t.isReadable = t.isFlat := by
  cases t <;> simp [encoding, isReadable]

/-- Encodings of readable types are delimited and determine the type up to what is not printed. -/
theorem encoding_delimited {t u : Ty} (ht : t.isReadable = true) (hu : u.isReadable = true)
    {r s : List Char} (h : t.encoding.toList ++ r = u.encoding.toList ++ s) :
    t.nominal = u.nominal ∧ r = s := by
  rcases encoding_cases t with ⟨rfl, et⟩ | ⟨d, rfl, et⟩ | ⟨et, ft⟩ <;>
    rcases encoding_cases u with ⟨rfl, eu⟩ | ⟨e, rfl, eu⟩ | ⟨eu, fu⟩ <;>
    simp only [et, eu] at h
  · simpa using h
  · simp at h
  · exact absurd h.symm (text_ne (fu ▸ hu) _ _ '_' (by simp))
  · simp at h
  · simp only [List.cons_append, List.cons.injEq, true_and] at h
    obtain ⟨same, rest⟩ := Text.quoted_delimited h
    exact ⟨by simp [nominal, same], rest⟩
  · exact absurd h.symm (text_ne (fu ▸ hu) _ _ 'd' (by simp))
  · exact absurd h (text_ne (ft ▸ ht) _ _ '_' (by simp))
  · exact absurd h (text_ne (ft ▸ ht) _ _ 'd' (by simp))
  · exact text_delimited t u (ft ▸ ht) (fu ▸ hu) h

end Ty
end TensorCompiler
