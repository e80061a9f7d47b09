import TensorCompiler.Names.Supply
import TensorCompiler.Proofs.Names.Supply
import TensorCompiler.Proofs.Text.Delimited
import TensorCompiler.Text.Quoted

/-!
# Tokens of the emitted language

A scanner that takes the emitted language apart into words, texts and marks, whatever its layout. It
reads one character after the other and keeps in its mode what it is in the middle of, so scanning
one text after another is scanning both (`run_append`).

Main statements: identifiers, numerals and quoted texts are scanned to what they stand for.
-/

namespace TensorCompiler.Emit

open Names (isPart)

/-- The characters of ASCII that a word may hold: digits, letters and the underscore. -/
def asciiWordRanges : List Text.CharRange :=
  [(0x30, 0x39), (0x41, 0x5A), (0x5F, 0x5F), (0x61, 0x7A)]

/-- Whether a word may hold a character. -/
def isWordChar (c : Char) : Bool :=
  if c.toNat < 128 then Text.inRanges asciiWordRanges c else isPart c

/-- A token: a word, which is an identifier, a reserved word or a numeral; what a quoted text stands
for; or a mark. -/
inductive Token where
  | word (s : String)
  | text (s : String)
  | mark (c : Char)
deriving DecidableEq

namespace Token

/-- What a scanner is in the middle of, with what it has read of it. An escape by a code counts the
digits that are still to come. -/
inductive Mode where
  | between
  | word (read : List Char)
  | slash
  | comment
  | text (read : List Char)
  | escape (read : List Char)
  | code (read : List Char) (left value : Nat)
deriving DecidableEq

/-- Begins a token, or passes over a space. -/
def start (c : Char) : List Token × Mode :=
  if c = ' ' ∨ c = '\t' ∨ c = '\n' then ([], .between)
  else if isWordChar c then ([], .word [c])
  else if c = '"' then ([], .text [])
  else if c = '/' then ([], .slash)
  else ([.mark c], .between)

/-- Reads a character: the tokens that it completes, and the next mode. An escape of a byte stands
for a character here, since only those of a single byte are written so. -/
def step : Mode → Char → List Token × Mode
  | .between, c => start c
  | .word w, c =>
    if isWordChar c then ([], .word (w ++ [c]))
    else (.word (String.ofList w) :: (start c).1, (start c).2)
  | .slash, c => if c = '/' then ([], .comment) else (.mark '/' :: (start c).1, (start c).2)
  | .comment, c => if c = '\n' then ([], .between) else ([], .comment)
  | .text t, c =>
    if c = '"' then ([.text (String.ofList t)], .between)
    else if c = '\\' then ([], .escape t)
    else ([], .text (t ++ [c]))
  | .escape t, c =>
    match Text.codeEscapes.find? (·.1 == c), Text.letterEscapes.find? (·.1 == c) with
    | some p, _ => ([], .code t p.2 0)
    | none, some p => ([], .text (t ++ [Char.ofNat p.2]))
    | none, none => ([.mark '\\'], .between)
  | .code t left value, c =>
    match Text.digitIn? 16 c with
    | none => ([.mark '\\'], .between)
    | some d =>
      if left ≤ 1 then ([], .text (t ++ [Char.ofNat (16 * value + d)]))
      else ([], .code t (left - 1) (16 * value + d))

/-- Reads characters in order. -/
def run (m : Mode) : List Char → List Token × Mode
  | [] => ([], m)
  | c :: cs =>
    let rest := run (step m c).2 cs
    ((step m c).1 ++ rest.1, rest.2)

/-- What is left at the end of a text. -/
def Mode.rest : Mode → List Token
  | .word w => [.word (String.ofList w)]
  | .slash => [.mark '/']
  | .text _ | .escape _ | .code _ _ _ => [.mark '"']
  | .between | .comment => []

/-- The tokens of a text. -/
def scan (s : String) : List Token :=
  let r := run .between s.toList
  r.1 ++ r.2.rest

/-- The tokens of the first text are in front of those of the second one. -/
theorem run_append (m : Mode) (cs ds : List Char) :
    run m (cs ++ ds) =
      ((run m cs).1 ++ (run (run m cs).2 ds).1, (run (run m cs).2 ds).2) := by
  induction cs generalizing m with
  | nil => rfl
  | cons c cs ih => simp only [List.cons_append, run, ih, List.append_assoc]

/-! ### Pieces -/

/-- Reading a text from one mode completes some tokens and ends in another mode. -/
def Runs (m : Mode) (s : String) (ts : List Token) (m' : Mode) : Prop :=
  run m s.toList = (ts, m')

instance (m : Mode) (s : String) (ts : List Token) (m' : Mode) : Decidable (Runs m s ts m') :=
  inferInstanceAs (Decidable (_ = _))

variable {m m₁ m' : Mode} {s t : String} {ts us : List Token}

/-- One piece after another. -/
theorem Runs.append (h : Runs m s ts m₁) (h' : Runs m₁ t us m') :
    Runs m (s ++ t) (ts ++ us) m' := by
  rw [Runs, String.toList_append, run_append, show run m s.toList = _ from h,
    show run m₁ t.toList = _ from h']

theorem Runs.nil (m : Mode) : Runs m "" [] m := rfl

/-- The tokens of a text that is read to its end. -/
theorem Runs.scan_eq (h : Runs .between s ts .between) : scan s = ts := by
  rw [scan, show run .between s.toList = _ from h]
  exact List.append_nil ts

/-- Where a word ends. -/
theorem Runs.behind {w : List Char} (h : Runs .between s ts m)
    (ends : s.toList.head?.any (fun c => !isWordChar c) = true) :
    Runs (.word w) s (.word (String.ofList w) :: ts) m := by
  unfold Runs at h ⊢
  cases chars : s.toList with
  | nil =>
      rw [chars] at ends
      cases ends
  | cons c cs =>
      rw [chars] at h ends
      have other : isWordChar c = false := by simpa using ends
      rw [run] at h ⊢
      simp only [step, other, Bool.false_eq_true, if_false, List.cons_append]
      exact congrArg (fun r : List Token × Mode => (Token.word (String.ofList w) :: r.1, r.2)) h

/-! ### Words -/

/-- A text that is scanned to a word. -/
def IsWord (s : String) : Prop :=
  s ≠ "" ∧ ∀ c ∈ s.toList, isWordChar c = true

/-- No part of a word is a space. -/
theorem not_space_of_isWordChar {c : Char} (h : isWordChar c = true) :
    ¬ (c = ' ' ∨ c = '\t' ∨ c = '\n') := by
  rintro (rfl | rfl | rfl) <;> revert h <;> decide

/-- What an identifier may hold, a word may hold. -/
theorem isWordChar_of_isPart {c : Char} (h : isPart c = true) : isWordChar c = true := by
  have letters : Text.letterRanges =
      (0x41, 0x5A) :: (0x61, 0x7A) :: Text.letterRanges.drop 2 := rfl
  have digits : Text.digitRanges = (0x30, 0x39) :: Text.digitRanges.drop 1 := rfl
  have above : ∀ r ∈ Text.letterRanges.drop 2 ++ Text.digitRanges.drop 1, 128 ≤ r.1 := by
    decide +kernel
  unfold isWordChar
  split
  · rename_i ascii
    simp only [isPart, Names.isStart, Bool.or_eq_true, beq_iff_eq] at h
    rcases h with (letter | rfl) | digit
    · obtain ⟨r, hr, low, high⟩ := Text.inRanges_iff.mp letter
      rw [letters, List.mem_cons, List.mem_cons] at hr
      rcases hr with rfl | rfl | hr
      · exact Text.inRanges_iff.mpr ⟨(0x41, 0x5A), by decide, low, high⟩
      · exact Text.inRanges_iff.mpr ⟨(0x61, 0x7A), by decide, low, high⟩
      · have := above r (List.mem_append_left _ hr)
        omega
    · rfl
    · obtain ⟨r, hr, low, high⟩ := Text.inRanges_iff.mp digit
      rw [digits, List.mem_cons] at hr
      rcases hr with rfl | hr
      · exact Text.inRanges_iff.mpr ⟨(0x30, 0x39), by decide, low, high⟩
      · have := above r (List.mem_append_right _ hr)
        omega
  · exact h

/-- Reading on in a word. -/
theorem run_word {w cs : List Char} (parts : ∀ c ∈ cs, isWordChar c = true) :
    run (.word w) cs = ([], .word (w ++ cs)) := by
  induction cs generalizing w with
  | nil => rw [run, List.append_nil]
  | cons c cs ih =>
      obtain ⟨head, tail⟩ := List.forall_mem_cons.mp parts
      simp only [run, step, head, if_true, ih tail, List.append_assoc, List.singleton_append,
        List.nil_append]

/-- A word is read until something else comes. -/
theorem Runs.word (h : IsWord s) : Runs .between s [] (.word s.toList) := by
  obtain ⟨some, parts⟩ := h
  unfold Runs
  cases chars : s.toList with
  | nil => exact absurd (String.toList_eq_nil_iff.mp chars) some
  | cons c cs =>
      rw [chars] at parts
      obtain ⟨head, tail⟩ := List.forall_mem_cons.mp parts
      simp only [run, step, start, not_space_of_isWordChar head, head, if_false, if_true,
        run_word tail, List.singleton_append, List.nil_append]

/-- Identifiers are words. -/
theorem isWord_of_isIdentifier (h : Names.isIdentifier s = true) : IsWord s := by
  obtain ⟨⟨⟨c, first, -⟩, parts⟩, -⟩ := Names.isIdentifier_iff.mp h
  refine ⟨?_, fun c hc => isWordChar_of_isPart (parts c hc)⟩
  rintro rfl
  cases first

/-- Numerals are words. -/
theorem isWord_ofNat (n : Nat) : IsWord (Text.ofNat n) := by
  have parts : ∀ c ∈ (Text.ofNat n).toList, isWordChar c = true := fun c hc =>
    isWordChar_of_isPart (Names.isPart_of_isDigit (Text.isDigit_of_mem_ofNat hc))
  refine ⟨?_, parts⟩
  rw [Text.ofNat, Ne, ← String.toList_inj, String.toList_ofList]
  exact Nat.toDigits_ne_nil

/-! ### Texts -/

/-- Digits of a code, some of which are still to come. -/
theorem run_hexDigits (t : List Char) (width more value n : Nat) :
    run (.code t (width + (more + 1)) value) (Text.hexDigits width n) =
      ([], .code t (more + 1) (16 ^ width * value + n % 16 ^ width)) := by
  have digit : ∀ d < 16, Text.digitIn? 16 (Text.hexDigit d) = some d := by decide
  induction width generalizing more n with
  | zero =>
      have none : n % 1 = 0 := Nat.mod_one n
      simp [Text.hexDigits, run, none]
  | succ width ih =>
      have split : 16 * (16 ^ width * value + n / 16 % 16 ^ width) + n % 16 =
          16 ^ (width + 1) * value + n % 16 ^ (width + 1) := by
        rw [pow_succ', Nat.mod_mul, Nat.mul_add, Nat.mul_assoc]
        omega
      have last : ¬ more + 1 + 1 ≤ 1 := by omega
      rw [Text.hexDigits, run_append, show width + 1 + (more + 1) = width + (more + 1 + 1) by omega,
        ih]
      simp only [run, step, digit _ (Nat.mod_lt n (by decide)), if_neg last, List.nil_append, split]
      rfl

/-- The digits of an escape by a code. -/
theorem run_code (t : List Char) {width n : Nat} (positive : 0 < width) (fits : n < 16 ^ width) :
    run (.code t width 0) (Text.hexDigits width n) = ([], .text (t ++ [Char.ofNat n])) := by
  have digit : ∀ d < 16, Text.digitIn? 16 (Text.hexDigit d) = some d := by decide
  obtain ⟨width, rfl⟩ := Nat.exists_eq_succ_of_ne_zero (Nat.ne_of_gt positive)
  have first : n / 16 % 16 ^ width = n / 16 := by
    refine Nat.mod_eq_of_lt (Nat.div_lt_of_lt_mul ?_)
    rwa [← pow_succ']
  rw [Text.hexDigits, run_append, run_hexDigits t width 0 0 (n / 16), first, Nat.mul_zero,
    Nat.zero_add]
  simp only [run, step, digit _ (Nat.mod_lt n (by decide)), Nat.zero_add, Nat.le_refl, if_true,
    List.nil_append, Nat.div_add_mod]

/-- An escaped character is read as the character. -/
theorem run_escaped (t : List Char) {c : Char} {cs : List Char} (h : Text.Escaped c cs) :
    run (.text t) cs = ([], .text (t ++ [c])) := by
  have named : ∀ p ∈ Text.namedEscapes, Text.codeEscapes.find? (·.1 == p.2) = none ∧
      Text.letterEscapes.find? (·.1 == p.2) = some (p.2, p.1) := by decide
  have coded : ∀ p ∈ Text.codeEscapes, Text.codeEscapes.find? (·.1 == p.1) = some p ∧ 0 < p.2 := by
    decide
  cases h with
  | verbatim backslash quote => simp [run, step, backslash, quote]
  | named name =>
      obtain ⟨code, letter⟩ := named _ name
      simp [run, step, code, letter, Char.ofNat_toNat]
  | code form fits =>
      obtain ⟨code, positive⟩ := coded _ form
      have digits := run_code t positive fits
      rw [Char.ofNat_toNat] at digits
      simp [run, step, code, digits]

/-- Escaped characters are read as the characters. -/
theorem run_escapeChars (t cs : List Char) :
    run (.text t) (Text.escapeChars '"' cs) = ([], .text (t ++ cs)) := by
  induction cs generalizing t with
  | nil => rw [Text.escapeChars, List.flatMap_nil, run, List.append_nil]
  | cons c cs ih =>
      rw [Text.escapeChars, List.flatMap_cons, run_append,
        run_escaped t (Text.escaped_escapeChar c)]
      simp only [List.nil_append]
      rw [← Text.escapeChars, ih, List.append_assoc, List.singleton_append]

/-- A quoted text is scanned to the text. -/
theorem Runs.text (s : String) : Runs .between (Text.quoted s) [.text s] .between := by
  have quote : start '"' = ([], .text []) := by decide +kernel
  rw [Runs, Text.quoted, String.toList_ofList, List.cons_append, run]
  simp only [step, quote, run_append, run_escapeChars, List.nil_append]
  simp [run, step]

end Token
end TensorCompiler.Emit
