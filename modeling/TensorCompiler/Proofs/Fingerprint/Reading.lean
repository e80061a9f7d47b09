import TensorCompiler.Proofs.Fingerprint.Skeleton
import TensorCompiler.Proofs.Tensor.ElementText

/-!
# Unique reading of encodings

A skeleton is readable if its types are, its constants print elements of a tensor and no pattern is
missing. Main statement: of readable skeletons no text begins with the text of another one, unless
a number goes on with further digits.
-/

namespace TensorCompiler

/-- A binding occurrence with a readable type. -/
def Binder.Readable (b : Binder) : Prop :=
  b.ty.isReadable = true ∧ b.ty.nominal = b.ty

namespace PatternSkeleton

mutual

/-- A pattern without missing parts. -/
def Readable : PatternSkeleton → Prop
  | .hole => False
  | .wildcard => True
  | .var b => b.Readable
  | .ctor _ _ fields => ReadableAll fields
  | .tuple fields => ReadableAll fields

/-- Patterns without missing parts. -/
def ReadableAll : List PatternSkeleton → Prop
  | [] => True
  | p :: ps => Readable p ∧ ReadableAll ps

end

end PatternSkeleton

namespace Skeleton

mutual

/-- An expression with readable types, constants and patterns. -/
def Readable : Skeleton → Prop
  | .ref _ | .global _ | .op _ | .ctor _ _ => True
  | .const shape values =>
    shape.nominal = shape ∧ ∃ e : Elements, values = (HostSlice.elements e).text
  | .call callee args ty =>
    Readable callee ∧ ReadableAll args ∧ ty.isReadable = true ∧ ty.nominal = ty
  | .bind b value body => b.Readable ∧ Readable value ∧ Readable body
  | .cond test yes no => Readable test ∧ Readable yes ∧ Readable no
  | .tuple fields => ReadableAll fields
  | .proj e _ => Readable e
  | .cases data clauses => Readable data ∧ ReadableClauses clauses
  | .fn params body ret _ =>
    (∀ b ∈ params, b.Readable) ∧ Readable body ∧ ret.isReadable = true ∧ ret.nominal = ret

/-- Several readable expressions. -/
def ReadableAll : List Skeleton → Prop
  | [] => True
  | k :: ks => Readable k ∧ ReadableAll ks

/-- Readable clauses. -/
def ReadableClauses : List (PatternSkeleton × Skeleton) → Prop
  | [] => True
  | (p, k) :: rest => p.Readable ∧ Readable k ∧ ReadableClauses rest

end

end Skeleton

/-! ### Binding occurrences -/

/-- A type in nominal form is read off in one way. -/
theorem Ty.nominal_delimited {t u : Ty} (ht : t.isReadable = true ∧ t.nominal = t)
    (hu : u.isReadable = true ∧ u.nominal = u) {r s : List Char}
    (h : t.encoding.toList ++ r = u.encoding.toList ++ s) : t = u ∧ r = s := by
  obtain ⟨same, rest⟩ := Ty.encoding_delimited ht.1 hu.1 h
  exact ⟨ht.2.symm.trans (same.trans hu.2), rest⟩

/-- Binding occurrences are delimited. -/
theorem Binder.text_delimited {b c : Binder} (hb : b.Readable) (hc : c.Readable) {r s : List Char}
    (h : b.text.toList ++ r = c.text.toList ++ s) : b = c ∧ r = s := by
  simp only [Binder.text, String.toList_append, List.append_assoc,
    List.append_cancel_left_eq] at h
  obtain ⟨number, h⟩ := Text.ofNat_delimited (by simp) (by simp) h
  obtain ⟨ty, rest⟩ := Ty.nominal_delimited hb hc (by simpa using h)
  obtain ⟨m, t⟩ := b
  obtain ⟨n, u⟩ := c
  cases number
  cases ty
  exact ⟨rfl, rest⟩

/-- Parameters are delimited by the closing bracket. -/
theorem params_delimited {bs cs : List Binder} (hb : ∀ b ∈ bs, b.Readable)
    (hc : ∀ c ∈ cs, c.Readable) {r s : List Char}
    (h : (Text.joinWith " " (bs.map Binder.text)).toList ++ ')' :: r =
      (Text.joinWith " " (cs.map Binder.text)).toList ++ ')' :: s) : bs = cs ∧ r = s := by
  induction bs generalizing cs with
  | nil =>
      cases cs with
      | nil => simpa using h
      | cons c cs =>
          rw [List.map_cons, Text.joinWith_cons_append] at h
          simp [Binder.text] at h
  | cons b bs ih =>
      cases cs with
      | nil =>
          rw [List.map_cons, Text.joinWith_cons_append] at h
          simp [Binder.text] at h
      | cons c cs =>
          rw [List.map_cons, List.map_cons, Text.joinWith_cons_append,
            Text.joinWith_cons_append] at h
          obtain ⟨rfl, rest⟩ := Binder.text_delimited (hb b (by simp)) (hc c (by simp)) h
          cases bs with
          | nil =>
              cases cs with
              | nil => simpa [Text.joinRest] using rest
              | cons c cs => simp [Text.joinRest] at rest
          | cons b' bs =>
              cases cs with
              | nil => simp [Text.joinRest] at rest
              | cons c' cs =>
                  obtain ⟨same, last⟩ := ih (fun d hd => hb d (List.mem_cons_of_mem _ hd))
                    (fun d hd => hc d (List.mem_cons_of_mem _ hd)) (List.append_cancel_left rest)
                  exact ⟨by rw [same], last⟩

/-- Constructors are delimited by what is not a digit. -/
theorem ctorText_delimited {a b : String} {m n : Nat} {r s : List Char} (hr : Text.Ends r)
    (hs : Text.Ends s) (h : (ctorText a m).toList ++ r = (ctorText b n).toList ++ s) :
    a = b ∧ m = n ∧ r = s := by
  simp only [ctorText, String.toList_append, List.append_assoc, List.append_cancel_left_eq] at h
  obtain ⟨data, h⟩ := Text.quoted_delimited h
  obtain ⟨tag, rest⟩ := Text.ofNat_delimited hr hs (by simpa using h)
  exact ⟨data, tag, rest⟩

/-! ### Patterns -/

namespace PatternSkeleton

/-- The texts of several patterns do not go on with a digit. -/
theorem ends_textAll (ps : List PatternSkeleton) (r : List Char) :
    Text.Ends ((textAll ps).toList ++ ')' :: r) := by
  cases ps <;> simp [textAll]

mutual

/-- Patterns are delimited. -/
theorem text_delimited : (p : PatternSkeleton) → ∀ q, p.Readable → q.Readable →
    ∀ {r s : List Char}, p.text.toList ++ r = q.text.toList ++ s → p = q ∧ r = s
  | .hole => by
      intro q hp hq r s h
      simp only [Readable] at hp
  | .wildcard => by
      intro q hp hq r s h
      cases q with
      | hole => simp only [Readable] at hq
      | wildcard => simpa [text] using h
      | var | ctor | tuple => simp [text, Binder.text, ctorText] at h
  | .var b => by
      intro q hp hq r s h
      cases q with
      | hole => simp only [Readable] at hq
      | var c =>
          simp only [Readable] at hp hq
          simp only [text] at h
          obtain ⟨rfl, rest⟩ := Binder.text_delimited hp hq h
          exact ⟨rfl, rest⟩
      | wildcard | ctor | tuple => simp [text, Binder.text, ctorText] at h
  | .ctor data tag ps => by
      intro q hp hq r s h
      cases q with
      | hole => simp only [Readable] at hq
      | ctor data' tag' qs =>
          simp only [Readable] at hp hq
          simp only [text, String.toList_append, List.append_assoc] at h
          obtain ⟨rfl, rfl, h⟩ := ctorText_delimited (by simpa using ends_textAll ps r)
            (by simpa using ends_textAll qs s) h
          obtain ⟨rfl, rest⟩ := textAll_delimited ps qs hp hq (by simpa using h)
          exact ⟨rfl, rest⟩
      | wildcard | var | tuple => simp [text, Binder.text, ctorText] at h
  | .tuple ps => by
      intro q hp hq r s h
      cases q with
      | hole => simp only [Readable] at hq
      | tuple qs =>
          simp only [Readable] at hp hq
          simp only [text, String.toList_append, List.append_assoc,
            List.append_cancel_left_eq] at h
          obtain ⟨rfl, rest⟩ := textAll_delimited ps qs hp hq (by simpa using h)
          exact ⟨rfl, rest⟩
      | wildcard | var | ctor => simp [text, Binder.text, ctorText] at h

/-- Several patterns are delimited by the closing bracket. -/
theorem textAll_delimited : (ps : List PatternSkeleton) → ∀ qs, ReadableAll ps → ReadableAll qs →
    ∀ {r s : List Char}, (textAll ps).toList ++ ')' :: r = (textAll qs).toList ++ ')' :: s →
      ps = qs ∧ r = s
  | [] => by
      intro qs hp hq r s h
      cases qs with
      | nil => simpa [textAll] using h
      | cons q qs => simp [textAll] at h
  | p :: ps => by
      intro qs hp hq r s h
      cases qs with
      | nil => simp [textAll] at h
      | cons q qs =>
          simp only [ReadableAll] at hp hq
          simp only [textAll, String.toList_append, List.append_assoc,
            List.append_cancel_left_eq] at h
          obtain ⟨rfl, tail⟩ := text_delimited p q hp.1 hq.1 h
          obtain ⟨rfl, rest⟩ := textAll_delimited ps qs hp.2 hq.2 tail
          exact ⟨rfl, rest⟩

end

end PatternSkeleton

/-! ### Expressions -/

namespace Skeleton

/-- The texts of several expressions do not go on with a digit. -/
theorem ends_textAll (ks : List Skeleton) (r : List Char) :
    Text.Ends ((textAll ks).toList ++ ')' :: r) := by
  cases ks <;> simp [textAll]

/-- The texts of clauses do not go on with a digit. -/
theorem ends_textClauses (cs : List (PatternSkeleton × Skeleton)) (r : List Char) :
    Text.Ends ((textClauses cs).toList ++ ')' :: r) := by
  cases cs <;> simp [textClauses]

/-- The number of the form of an expression. -/
def form : Skeleton → Nat
  | .ref _ => 0
  | .global _ => 1
  | .op _ => 2
  | .const _ _ => 3
  | .ctor _ _ => 4
  | .call _ _ _ => 5
  | .bind _ _ _ => 6
  | .cond _ _ _ => 7
  | .tuple _ => 8
  | .proj _ _ => 9
  | .cases _ _ => 10
  | .fn _ _ _ _ => 11

/-- The form of the expression that a text begins with, seen from its first characters. -/
def formOf : List Char → Nat
  | '%' :: _ => 0
  | '@' :: _ => 1
  | '#' :: _ => 2
  | '(' :: 'c' :: 'o' :: _ => 3
  | '(' :: 'c' :: 't' :: _ => 4
  | '(' :: 'c' :: 'a' :: _ => 5
  | '(' :: 'l' :: _ => 6
  | '(' :: 'i' :: _ => 7
  | '(' :: 't' :: _ => 8
  | '(' :: 'g' :: _ => 9
  | '(' :: 'm' :: _ => 10
  | _ => 11

theorem formOf_text (k : Skeleton) (r : List Char) : formOf (k.text.toList ++ r) = k.form := by
  cases k with
  | fn params body ret primitive => cases primitive <;> simp [text, formOf, form]
  | _ => simp [text, ctorText, formOf, form]

/-- Texts that begin alike are of one form. -/
theorem form_eq_of_text {k l : Skeleton} {r s : List Char}
    (h : k.text.toList ++ r = l.text.toList ++ s) : k.form = l.form := by
  rw [← formOf_text k r, h, formOf_text]

mutual

/-- Expressions are delimited by what is not a digit. -/
theorem text_delimited : (k : Skeleton) → ∀ l, k.Readable → l.Readable →
    ∀ {r s : List Char}, Text.Ends r → Text.Ends s →
      k.text.toList ++ r = l.text.toList ++ s → k = l ∧ r = s
  | .ref n => by
      intro l hk hl r s hr hs h
      have same := form_eq_of_text h
      cases l with
      | ref n' =>
          simp only [text, String.toList_append, List.append_assoc,
            List.append_cancel_left_eq] at h
          obtain ⟨rfl, rest⟩ := Text.ofNat_delimited hr hs h
          exact ⟨rfl, rest⟩
      | _ => cases same
  | .const shape values => by
      intro l hk hl r s hr hs h
      have same := form_eq_of_text h
      cases l with
      | const shape' values' =>
          simp only [Readable] at hk hl
          obtain ⟨named, e, rfl⟩ := hk
          obtain ⟨named', f, rfl⟩ := hl
          simp only [text, String.toList_append, List.append_assoc,
            List.append_cancel_left_eq] at h
          obtain ⟨same, h₁⟩ := Shape.text_delimited h
          obtain ⟨printed, h₂⟩ := Elements.text_delimited (List.append_cancel_left h₁)
          rw [named, named'] at same
          exact ⟨by rw [same, printed], List.append_cancel_left h₂⟩
      | _ => cases same
  | .global name => by
      intro l hk hl r s hr hs h
      have same := form_eq_of_text h
      cases l with
      | global name' =>
          simp only [text, String.toList_append, List.append_assoc,
            List.append_cancel_left_eq] at h
          obtain ⟨rfl, rest⟩ := Text.quoted_delimited h
          exact ⟨rfl, rest⟩
      | _ => cases same
  | .op name => by
      intro l hk hl r s hr hs h
      have same := form_eq_of_text h
      cases l with
      | op name' =>
          simp only [text, String.toList_append, List.append_assoc,
            List.append_cancel_left_eq] at h
          obtain ⟨rfl, rest⟩ := Text.quoted_delimited h
          exact ⟨rfl, rest⟩
      | _ => cases same
  | .ctor data tag => by
      intro l hk hl r s hr hs h
      have same := form_eq_of_text h
      cases l with
      | ctor data' tag' =>
          simp only [text, String.toList_append, List.append_assoc] at h
          obtain ⟨rfl, rfl, h₁⟩ := ctorText_delimited (by simp) (by simp) h
          exact ⟨rfl, List.append_cancel_left h₁⟩
      | _ => cases same
  | .call callee args ty => by
      intro l hk hl r s hr hs h
      have same := form_eq_of_text h
      cases l with
      | call callee' args' ty' =>
          simp only [Readable] at hk hl
          simp only [text, String.toList_append, List.append_assoc,
            List.append_cancel_left_eq] at h
          obtain ⟨rfl, h₁⟩ := text_delimited callee callee' hk.1 hl.1 (by simp) (by simp) h
          obtain ⟨rfl, h₂⟩ := Ty.nominal_delimited hk.2.2 hl.2.2 (List.append_cancel_left h₁)
          obtain ⟨rfl, h₃⟩ := textAll_delimited args args' hk.2.1 hl.2.1
            (by simpa using List.append_cancel_left h₂)
          exact ⟨rfl, by simpa using h₃⟩
      | _ => cases same
  | .bind b value body => by
      intro l hk hl r s hr hs h
      have same := form_eq_of_text h
      cases l with
      | bind b' value' body' =>
          simp only [Readable] at hk hl
          simp only [text, String.toList_append, List.append_assoc,
            List.append_cancel_left_eq] at h
          obtain ⟨rfl, h₁⟩ := text_delimited value value' hk.2.1 hl.2.1 (by simp) (by simp) h
          obtain ⟨rfl, h₂⟩ := Binder.text_delimited hk.1 hl.1 (List.append_cancel_left h₁)
          obtain ⟨rfl, h₃⟩ := text_delimited body body' hk.2.2 hl.2.2 (by simp) (by simp)
            (List.append_cancel_left h₂)
          exact ⟨rfl, List.append_cancel_left h₃⟩
      | _ => cases same
  | .cond test yes no => by
      intro l hk hl r s hr hs h
      have same := form_eq_of_text h
      cases l with
      | cond test' yes' no' =>
          simp only [Readable] at hk hl
          simp only [text, String.toList_append, List.append_assoc,
            List.append_cancel_left_eq] at h
          obtain ⟨rfl, h₁⟩ := text_delimited test test' hk.1 hl.1 (by simp) (by simp) h
          obtain ⟨rfl, h₂⟩ := text_delimited yes yes' hk.2.1 hl.2.1 (by simp) (by simp)
            (List.append_cancel_left h₁)
          obtain ⟨rfl, h₃⟩ := text_delimited no no' hk.2.2 hl.2.2 (by simp) (by simp)
            (List.append_cancel_left h₂)
          exact ⟨rfl, List.append_cancel_left h₃⟩
      | _ => cases same
  | .tuple fields => by
      intro l hk hl r s hr hs h
      have same := form_eq_of_text h
      cases l with
      | tuple fields' =>
          simp only [Readable] at hk hl
          simp only [text, String.toList_append, List.append_assoc,
            List.append_cancel_left_eq] at h
          obtain ⟨rfl, rest⟩ := textAll_delimited fields fields' hk hl (by simpa using h)
          exact ⟨rfl, rest⟩
      | _ => cases same
  | .proj e index => by
      intro l hk hl r s hr hs h
      have same := form_eq_of_text h
      cases l with
      | proj e' index' =>
          simp only [Readable] at hk hl
          simp only [text, String.toList_append, List.append_assoc,
            List.append_cancel_left_eq] at h
          obtain ⟨rfl, h₁⟩ := Text.ofInt_delimited (by simp) (by simp) h
          obtain ⟨rfl, h₂⟩ := text_delimited e e' hk hl (by simp) (by simp)
            (List.append_cancel_left h₁)
          exact ⟨rfl, List.append_cancel_left h₂⟩
      | _ => cases same
  | .cases data clauses => by
      intro l hk hl r s hr hs h
      have same := form_eq_of_text h
      cases l with
      | cases data' clauses' =>
          simp only [Readable] at hk hl
          simp only [text, String.toList_append, List.append_assoc,
            List.append_cancel_left_eq] at h
          obtain ⟨rfl, h₁⟩ := text_delimited data data' hk.1 hl.1
            (by simpa using ends_textClauses clauses r)
            (by simpa using ends_textClauses clauses' s) h
          obtain ⟨rfl, rest⟩ := textClauses_delimited clauses clauses' hk.2 hl.2
            (by simpa using h₁)
          exact ⟨rfl, rest⟩
      | _ => cases same
  | .fn params body ret primitive => by
      intro l hk hl r s hr hs h
      have same := form_eq_of_text h
      cases l with
      | fn params' body' ret' primitive' =>
          simp only [Readable] at hk hl
          obtain rfl : primitive = primitive' := by
            cases primitive <;> cases primitive' <;> simp [text] at h ⊢
          simp only [text, String.toList_append, List.append_assoc,
            List.append_cancel_left_eq] at h
          -- The closing bracket and the blank after it are one piece of the text.
          have bracket : ") ".toList = [')'] ++ " ".toList := by rfl
          rw [bracket, List.append_assoc, List.append_assoc] at h
          obtain ⟨rfl, h₁⟩ := params_delimited hk.1 hl.1 h
          obtain ⟨rfl, h₂⟩ := Ty.nominal_delimited hk.2.2 hl.2.2 (List.append_cancel_left h₁)
          obtain ⟨rfl, h₃⟩ := text_delimited body body' hk.2.1 hl.2.1 (by simp) (by simp)
            (List.append_cancel_left h₂)
          exact ⟨rfl, List.append_cancel_left h₃⟩
      | _ => cases same

/-- Several expressions are delimited by the closing bracket. -/
theorem textAll_delimited : (ks : List Skeleton) → ∀ ls, ReadableAll ks → ReadableAll ls →
    ∀ {r s : List Char}, (textAll ks).toList ++ ')' :: r = (textAll ls).toList ++ ')' :: s →
      ks = ls ∧ r = s
  | [] => by
      intro ls hk hl r s h
      cases ls with
      | nil => simpa [textAll] using h
      | cons l ls => simp [textAll] at h
  | k :: ks => by
      intro ls hk hl r s h
      cases ls with
      | nil => simp [textAll] at h
      | cons l ls =>
          simp only [ReadableAll] at hk hl
          simp only [textAll, String.toList_append, List.append_assoc,
            List.append_cancel_left_eq] at h
          obtain ⟨rfl, h₁⟩ := text_delimited k l hk.1 hl.1 (ends_textAll ks r) (ends_textAll ls s) h
          obtain ⟨rfl, rest⟩ := textAll_delimited ks ls hk.2 hl.2 h₁
          exact ⟨rfl, rest⟩

/-- Clauses are delimited by the closing bracket. -/
theorem textClauses_delimited : (cs : List (PatternSkeleton × Skeleton)) → ∀ ds,
    ReadableClauses cs → ReadableClauses ds → ∀ {r s : List Char},
      (textClauses cs).toList ++ ')' :: r = (textClauses ds).toList ++ ')' :: s → cs = ds ∧ r = s
  | [] => by
      intro ds hc hd r s h
      cases ds with
      | nil => simpa [textClauses] using h
      | cons d ds => simp [textClauses] at h
  | (p, k) :: cs => by
      intro ds hc hd r s h
      cases ds with
      | nil => simp [textClauses] at h
      | cons d ds =>
          obtain ⟨q, l⟩ := d
          simp only [ReadableClauses] at hc hd
          simp only [textClauses, String.toList_append, List.append_assoc,
            List.append_cancel_left_eq] at h
          obtain ⟨rfl, h₁⟩ := PatternSkeleton.text_delimited p q hc.1 hd.1 h
          obtain ⟨rfl, h₂⟩ := text_delimited k l hc.2.1 hd.2.1 (by simp) (by simp)
            (List.append_cancel_left h₁)
          obtain ⟨rfl, rest⟩ := textClauses_delimited cs ds hc.2.2 hd.2.2
            (List.append_cancel_left h₂)
          exact ⟨rfl, rest⟩

end

/-- Readable skeletons with one text are equal. -/
theorem text_injective {k l : Skeleton} (hk : k.Readable) (hl : l.Readable)
    (h : k.text = l.text) : k = l := by
  have chars : k.text.toList ++ [] = l.text.toList ++ [] := by rw [h]
  exact (text_delimited k l hk hl Text.ends_nil Text.ends_nil chars).1

end Skeleton
end TensorCompiler
