import Mathlib.Algebra.Ring.Nat
import TensorCompiler.Text.Quoted

/-!
# Delimited texts

A family of texts is delimited if a text of the family can be read off the front of a longer text
in at most one way. Quoted texts are delimited by themselves, numerals if no digit follows them.
-/

namespace TensorCompiler.Text

/-- A continuation that does not begin with a digit. -/
def Ends (r : List Char) : Prop :=
  ∀ c ∈ r.head?, c.isDigit = false

@[simp]
theorem ends_nil : Ends [] := by
  intro c hc
  cases hc

@[simp]
theorem ends_cons (c : Char) (r : List Char) : Ends (c :: r) ↔ c.isDigit = false := by
  simp [Ends]

/-- Texts without a stop character are delimited by it. -/
theorem stop_delimited {stop : Char} {x y r t : List Char} (hx : stop ∉ x) (hy : stop ∉ y)
    (h : x ++ stop :: r = y ++ stop :: t) : x = y ∧ r = t := by
  induction x generalizing y with
  | nil =>
      cases y with
      | nil => simpa using h
      | cons d y => exact absurd ((List.cons.inj h).1 ▸ List.mem_cons_self) hy
  | cons c x ih =>
      cases y with
      | nil => exact absurd ((List.cons.inj h).1 ▸ List.mem_cons_self) hx
      | cons d y =>
          obtain ⟨rfl, rest⟩ := List.cons.inj h
          obtain ⟨rfl, last⟩ := ih (List.not_mem_of_not_mem_cons hx)
            (List.not_mem_of_not_mem_cons hy) rest
          exact ⟨rfl, last⟩

/-- What follows the first of several joined texts. -/
def joinRest (sep : String) : List String → List Char → List Char
  | [], r => r
  | x :: xs, r => sep.toList ++ ((joinWith sep (x :: xs)).toList ++ r)

/-- Joined texts begin with the first one. -/
theorem joinWith_cons_append (sep x : String) (xs : List String) (r : List Char) :
    (joinWith sep (x :: xs)).toList ++ r = x.toList ++ joinRest sep xs r := by
  cases xs <;> simp [joinRest]

/-! ### Numerals -/

/-- A run of characters of one kind ends where a character of another kind follows. -/
theorem run_ends {p : Char → Bool} {cs r : List Char} (hc : ∀ c ∈ cs, p c = true)
    (hr : ∀ c ∈ r.head?, p c = false) :
    (cs ++ r).takeWhile p = cs ∧ (cs ++ r).dropWhile p = r := by
  rw [List.takeWhile_append_of_pos hc, List.dropWhile_append_of_pos hc]
  cases r with
  | nil => simp
  | cons c r => simp [hr c rfl]

/-- A run of digits in front of a continuation without one is found by taking digits. -/
theorem takeWhile_digits {ds r : List Char} (hd : ∀ c ∈ ds, c.isDigit = true) (hr : Ends r) :
    (ds ++ r).takeWhile Char.isDigit = ds :=
  (run_ends hd hr).1

/-- The digits of a numeral. -/
theorem isDigit_of_mem_ofNat {n : Nat} {c : Char} (h : c ∈ (ofNat n).toList) :
    c.isDigit = true := by
  rw [ofNat, String.toList_ofList] at h
  exact Nat.isDigit_of_mem_toDigits (by decide) (by decide) h

/-- A numeral is read as its number. -/
theorem readNat?_ofNat (n : Nat) : readNat? (ofNat n).toList = some n := by
  have some : (ofNat n).toList.isEmpty = false := by simp [ofNat]
  have digits : (ofNat n).toList.all Char.isDigit = true :=
    List.all_eq_true.mpr fun _ => isDigit_of_mem_ofNat
  rw [readNat?, some, digits, ofNat, String.toList_ofList]
  exact congrArg Option.some Nat.ofDigitChars_ten_toDigits

/-- Different numbers have different numerals. -/
theorem ofNat_inj {m n : Nat} (h : (ofNat m).toList = (ofNat n).toList) : m = n :=
  Option.some.inj ((readNat?_ofNat m).symm.trans (h ▸ readNat?_ofNat n))

/-- A numeral is delimited by what is not a digit. -/
theorem ofNat_delimited {m n : Nat} {r t : List Char} (hr : Ends r) (ht : Ends t)
    (h : (ofNat m).toList ++ r = (ofNat n).toList ++ t) : m = n ∧ r = t := by
  have hm := takeWhile_digits (fun _ => isDigit_of_mem_ofNat (n := m)) hr
  rw [h, takeWhile_digits (fun _ => isDigit_of_mem_ofNat) ht] at hm
  exact ⟨ofNat_inj hm.symm, List.append_cancel_left (hm ▸ h)⟩

/-- A numeral does not begin with a sign. -/
theorem ofNat_ne_minus (n : Nat) (r t : List Char) : (ofNat n).toList ++ r ≠ '-' :: t := by
  intro h
  cases hd : (ofNat n).toList with
  | nil => simp [ofNat] at hd
  | cons c ds =>
      rw [hd] at h
      obtain rfl := (List.cons.inj h).1
      have : Char.isDigit '-' = true := isDigit_of_mem_ofNat (n := n) (by simp [hd])
      exact absurd this (by decide)

/-- The numeral of an integer is delimited by what is not a digit. -/
theorem ofInt_delimited {m n : Int} {r t : List Char} (hr : Ends r) (ht : Ends t)
    (h : (ofInt m).toList ++ r = (ofInt n).toList ++ t) : m = n ∧ r = t := by
  cases m with
  | ofNat m =>
      cases n with
      | ofNat n =>
          obtain ⟨rfl, rest⟩ := ofNat_delimited hr ht h
          exact ⟨rfl, rest⟩
      | negSucc n => exact absurd (by simpa [ofInt] using h) (ofNat_ne_minus m r _)
  | negSucc m =>
      cases n with
      | ofNat n => exact absurd (by simpa [ofInt] using h.symm) (ofNat_ne_minus n t _)
      | negSucc n =>
          simp only [ofInt, String.toList_append, List.append_assoc, List.append_cancel_left_eq]
            at h
          obtain ⟨same, rest⟩ := ofNat_delimited hr ht h
          exact ⟨by rw [Nat.succ.inj same], rest⟩

/-! ### Quoted texts -/

/-- Digits below sixteen are told apart. -/
theorem hexDigit_inj : ∀ m < 16, ∀ n < 16, hexDigit m = hexDigit n → m = n := by
  decide

/-- Hexadecimal digits of one width determine the number up to their capacity. -/
theorem hexDigits_inj {width : Nat} {m n : Nat} (hm : m < 16 ^ width) (hn : n < 16 ^ width)
    (h : hexDigits width m = hexDigits width n) : m = n := by
  induction width generalizing m n with
  | zero => omega
  | succ width ih =>
      simp only [hexDigits] at h
      obtain ⟨high, low⟩ := List.append_inj' h rfl
      have hq : m / 16 = n / 16 := ih (by omega) (by omega) high
      have hr : m % 16 = n % 16 :=
        hexDigit_inj _ (Nat.mod_lt _ (by decide)) _ (Nat.mod_lt _ (by decide)) (by simpa using low)
      omega

/-- The characters an escape names by one character. -/
def namedEscapes : List (Nat × Char) :=
  [(34, '"'), (92, '\\'), (7, 'a'), (8, 'b'), (9, 't'), (10, 'n'), (11, 'v'), (12, 'f'), (13, 'r')]

/-- The marks of the escapes by code, with the number of their digits. -/
def codeEscapes : List (Char × Nat) :=
  [('x', 2), ('u', 4), ('U', 8)]

/-- The forms of an escaped character. -/
inductive Escaped (c : Char) : List Char → Prop
  | verbatim (backslash : c ≠ '\\') (quote : c ≠ '"') : Escaped c [c]
  | named {l : Char} (name : (c.toNat, l) ∈ namedEscapes) : Escaped c ['\\', l]
  | code {mark : Char} {width : Nat} (form : (mark, width) ∈ codeEscapes)
      (fits : c.toNat < 16 ^ width) : Escaped c ('\\' :: mark :: hexDigits width c.toNat)

/-- Escaping a character gives one of the forms. -/
theorem escaped_escapeChar (c : Char) : Escaped c (escapeChar '"' c) := by
  unfold escapeChar
  split
  · rename_i special
    simp only [Bool.or_eq_true, decide_eq_true_eq] at special
    rcases special with rfl | rfl <;> exact .named (by decide)
  · rename_i plain
    simp only [Bool.or_eq_true, decide_eq_true_eq, not_or] at plain
    split
    · exact .verbatim plain.2 plain.1
    · split
      · rename_i l name
        unfold controlLetter? at name
        split at name <;> cases name <;> exact .named (by simp [namedEscapes, *])
      · have bound : c.toNat < 16 ^ 8 := by
          have := c.valid
          simp only [UInt32.isValidChar, Nat.isValidChar] at this
          change c.val.toNat < _
          omega
        split
        · rename_i small
          simp only [Bool.or_eq_true, decide_eq_true_eq] at small
          exact .code (by decide : ('x', 2) ∈ codeEscapes) (by omega)
        · split
          · exact .code (by decide : ('u', 4) ∈ codeEscapes) ‹_›
          · exact .code (by decide : ('U', 8) ∈ codeEscapes) bound

/-- An escaped character can be read off in one way. -/
theorem Escaped.delimited {c d : Char} {x y r t : List Char} (hx : Escaped c x) (hy : Escaped d y)
    (h : x ++ r = y ++ t) : c = d ∧ r = t := by
  have names : ∀ p ∈ namedEscapes, ∀ q ∈ namedEscapes, p.2 = q.2 → p.1 = q.1 := by decide
  have marks : ∀ p ∈ codeEscapes, ∀ q ∈ codeEscapes, p.1 = q.1 → p.2 = q.2 := by decide
  have apart : ∀ p ∈ namedEscapes, ∀ q ∈ codeEscapes, p.2 ≠ q.1 := by decide
  cases hx with
  | verbatim backslash quote =>
      cases hy with
      | verbatim backslash' quote' => simpa using h
      | named | code => exact absurd (List.cons.inj h).1 backslash
  | named name =>
      cases hy with
      | verbatim backslash' quote' => exact absurd (List.cons.inj h).1.symm backslash'
      | named name' =>
          obtain ⟨same, rest⟩ := List.cons.inj (List.cons.inj h).2
          exact ⟨Char.toNat_inj.mp (names _ name _ name' same), rest⟩
      | code form => exact absurd (List.cons.inj (List.cons.inj h).2).1 (apart _ name _ form)
  | code form fits =>
      cases hy with
      | verbatim backslash' quote' => exact absurd (List.cons.inj h).1.symm backslash'
      | named name' =>
          exact absurd (List.cons.inj (List.cons.inj h).2).1.symm (apart _ name' _ form)
      | code form' fits' =>
          obtain ⟨same, rest⟩ := List.cons.inj (List.cons.inj h).2
          obtain rfl := marks _ form _ form' same
          obtain ⟨digits, rest⟩ := List.append_inj rest (by simp)
          exact ⟨Char.toNat_inj.mp (hexDigits_inj fits fits' digits), rest⟩

/-- An escaped character does not begin with the closing quote. -/
theorem Escaped.ne_quote {c : Char} {x r t : List Char} (hx : Escaped c x) :
    x ++ r ≠ '"' :: t := by
  intro h
  cases hx with
  | verbatim backslash quote => exact quote (List.cons.inj h).1
  | named | code => exact absurd (List.cons.inj h).1 (by decide)

/-- Escaped characters up to the closing quote can be read off in one way. -/
theorem escapeChars_delimited {cs ds r t : List Char}
    (h : escapeChars '"' cs ++ '"' :: r = escapeChars '"' ds ++ '"' :: t) : cs = ds ∧ r = t := by
  induction cs generalizing ds with
  | nil =>
      cases ds with
      | nil => simpa [escapeChars] using h
      | cons d ds =>
          simp only [escapeChars, List.flatMap_nil, List.nil_append, List.flatMap_cons,
            List.append_assoc] at h
          exact absurd h.symm (escaped_escapeChar d).ne_quote
  | cons c cs ih =>
      cases ds with
      | nil =>
          simp only [escapeChars, List.flatMap_nil, List.nil_append, List.flatMap_cons,
            List.append_assoc] at h
          exact absurd h (escaped_escapeChar c).ne_quote
      | cons d ds =>
          simp only [escapeChars, List.flatMap_cons, List.append_assoc] at h
          obtain ⟨rfl, rest⟩ := (escaped_escapeChar c).delimited (escaped_escapeChar d) h
          obtain ⟨rfl, last⟩ := ih rest
          exact ⟨rfl, last⟩

/-- Quoted texts are delimited. -/
theorem quoted_delimited {a b : String} {r t : List Char}
    (h : (quoted a).toList ++ r = (quoted b).toList ++ t) : a = b ∧ r = t := by
  simp only [quoted, String.toList_ofList, List.cons_append, List.append_assoc, List.nil_append,
    List.cons.injEq, true_and] at h
  obtain ⟨same, rest⟩ := escapeChars_delimited h
  exact ⟨String.toList_inj.mp same, rest⟩

end TensorCompiler.Text
