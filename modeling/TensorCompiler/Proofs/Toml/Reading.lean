import TensorCompiler.Proofs.Text.Delimited
import TensorCompiler.Toml.Document

/-!
# Reading written documents

What the writer of documents prints is read back: texts between quotes, booleans, lists of texts,
and tables of such values under their headers.

Scanning is followed from place to place. A step of the scanner uses one unit of fuel and at least
one character, so that the characters of a document are fuel enough for it.
-/

namespace TensorCompiler.Toml

/-! ### Places of the scanner -/

/-- Where a scanner stands: what it expects, what is open, and the characters that are left. -/
structure Place where
  mode : Mode
  nesting : List Bracket
  rest : List Char

/-- The scanner comes from one place to another and finds tokens on the way. -/
def Scans (p : Place) (tokens : List Token) (q : Place) : Prop :=
  ∃ steps, steps + q.rest.length ≤ p.rest.length ∧ ∀ fuel,
    scan? (fuel + steps) p.mode p.nesting p.rest =
      (scan? fuel q.mode q.nesting q.rest).map (tokens ++ ·)

/-- One step of the scanner. -/
def stepAt (mode : Mode) (nesting : List Bracket) (c : Char) (cs : List Char) : Option ScanStep :=
  match mode with
  | .line => lineStep nesting c cs
  | .value => valueStep nesting c cs

namespace Scans

variable {p q s : Place} {ts us : List Token}

theorem trans (h : Scans p ts q) (k : Scans q us s) : Scans p (ts ++ us) s := by
  obtain ⟨m, room, first⟩ := h
  obtain ⟨n, room', second⟩ := k
  refine ⟨n + m, by omega, fun fuel => ?_⟩
  rw [← Nat.add_assoc, first, second, Option.map_map]
  congr 1
  funext rest
  exact (List.append_assoc ts us rest).symm

theorem refl (p : Place) : Scans p [] p :=
  ⟨0, by omega, fun fuel => by simp⟩

theorem of_step {mode mode' : Mode} {nesting nesting' : List Bracket} {c : Char}
    {cs r : List Char} (h : stepAt mode nesting c cs = some ⟨ts, mode', nesting', r⟩)
    (shorter : r.length ≤ cs.length) : Scans ⟨mode, nesting, c :: cs⟩ ts ⟨mode', nesting', r⟩ := by
  refine ⟨1, ?_, fun fuel => ?_⟩
  · change 1 + r.length ≤ cs.length + 1
    omega
  · have step : scan? (fuel + 1) mode nesting (c :: cs) = (stepAt mode nesting c cs).bind
        fun step => (scan? fuel step.mode step.nesting step.rest).map (step.tokens ++ ·) := by
      cases mode <;> simp only [scan?, stepAt, Option.bind_eq_bind, Option.map_eq_bind] <;> rfl
    rw [step, h]
    rfl

/-- A scanner that comes to the end has found all tokens. -/
theorem tokens?_eq {cs : List Char} {mode : Mode} {nesting : List Bracket}
    (h : Scans ⟨.line, [], cs⟩ ts ⟨mode, nesting, []⟩) : tokens? cs = some ts := by
  obtain ⟨steps, room, scanned⟩ := h
  have fuel : cs.length - steps + steps = cs.length := Nat.sub_add_cancel (by simpa using room)
  have all := scanned (cs.length - steps)
  rw [fuel] at all
  rw [tokens?, all]
  cases cs.length - steps <;> simp [scan?]

end Scans

/-! ### Texts -/

/-- A character that is written as itself or behind a backslash. -/
def IsPlain (c : Char) : Prop :=
  32 ≤ c.toNat ∧ c.toNat < 65536

/-- A text of such characters. -/
def IsPlainText (s : String) : Prop :=
  ∀ c ∈ s.toList, IsPlain c

instance (c : Char) : Decidable (IsPlain c) :=
  inferInstanceAs (Decidable (_ ∧ _))

instance (s : String) : Decidable (IsPlainText s) :=
  decidable_of_iff (s.toList.all fun c => decide (IsPlain c)) (by simp [IsPlainText])

theorem IsPlain.escaped_eq {c : Char} (h : IsPlain c) :
    escaped c = if c = '"' ∨ c = '\\' then ['\\', c] else [c] := by
  obtain ⟨low, high⟩ := h
  have apart {d : Char} (control : d.toNat < 32) : (c == d) = false := by
    rw [beq_eq_false_iff_ne]
    rintro rfl
    omega
  have free : isCoded c = false := by
    rw [isCoded, decide_eq_false_iff_not]
    omega
  unfold escaped
  rw [apart (by decide), apart (by decide), apart (by decide), apart (by decide),
    apart (by decide), free]
  by_cases quote : c = '"'
  · simp [quote]
  · by_cases backslash : c = '\\' <;> simp [quote, backslash]

/-- An escaped character is read as the character. -/
theorem IsPlain.textStep_eq {c : Char} (h : IsPlain c) (read r : List Char) :
    textStep ['"'] false read (escaped c ++ r) = .more (c :: read) r := by
  rw [h.escaped_eq]
  split
  · rename_i special
    rcases special with rfl | rfl <;> rfl
  · rename_i ordinary
    obtain ⟨quote, backslash⟩ := not_or.mp ordinary
    have unmarked : strip? ['"'] (c :: r) = none := by
      simp [strip?, Ne.symm quote]
    have printed : ¬(c == '\\' || (c.toNat < 32 && c != '\t' && !(false && isBreak c))) = true := by
      have low : ¬c.toNat < 32 := Nat.not_lt.mpr h.1
      simp [backslash, low]
    change textStep ['"'] false read (c :: r) = _
    unfold textStep
    rw [unmarked]
    dsimp only
    split
    · rename_i same
      cases same
    · rename_i same
      exact absurd (List.cons.inj same).1 backslash
    · rename_i same
      exact absurd (List.cons.inj same).1 backslash
    · rename_i same
      exact absurd (List.cons.inj same).1 backslash
    · rename_i same
      obtain ⟨rfl, rfl⟩ := List.cons.inj same
      rw [if_neg printed]

theorem scanText_escaped {cs : List Char} (plain : ∀ c ∈ cs, IsPlain c) (read r : List Char)
    {fuel : Nat} (room : cs.length < fuel) :
    scanText ['"'] false fuel read (cs.flatMap escaped ++ '"' :: r) =
      some (String.ofList (read.reverse ++ cs), r) := by
  induction cs generalizing read fuel with
  | nil =>
      cases fuel with
      | zero => cases room
      | succ fuel =>
          rw [List.append_nil]
          rfl
  | cons c cs ih =>
      obtain ⟨first, others⟩ := List.forall_mem_cons.mp plain
      cases fuel with
      | zero => cases room
      | succ fuel =>
          rw [List.flatMap_cons, List.append_assoc, scanText, first.textStep_eq]
          dsimp only
          rw [ih others (c :: read) (Nat.lt_of_succ_lt_succ room), List.reverse_cons,
            List.append_assoc, List.singleton_append]

theorem length_le_escaped {cs : List Char} (plain : ∀ c ∈ cs, IsPlain c) :
    cs.length ≤ (cs.flatMap escaped).length := by
  induction cs with
  | nil => exact Nat.le_refl _
  | cons c cs ih =>
      obtain ⟨first, others⟩ := List.forall_mem_cons.mp plain
      have some : 1 ≤ (escaped c).length := by
        rw [first.escaped_eq]
        split <;> simp
      have rest := ih others
      rw [List.flatMap_cons, List.length_append, List.length_cons]
      omega

/-- Only an empty text has its second mark right behind the first one. -/
theorem strip?_three {cs r : List Char} (plain : ∀ c ∈ cs, IsPlain c)
    (behind : ∀ c ∈ r.head?, c ≠ '"') :
    strip? ['"', '"', '"'] ('"' :: (cs.flatMap escaped ++ '"' :: r)) = none := by
  cases cs with
  | nil =>
      cases r with
      | nil => rfl
      | cons c r => simp [strip?, Ne.symm (behind c rfl)]
  | cons c cs =>
      rw [List.flatMap_cons, (plain c List.mem_cons_self).escaped_eq]
      split
      · rfl
      · rename_i ordinary
        simp [strip?, Ne.symm (not_or.mp ordinary).1]

theorem toList_quoted (s : String) (r : List Char) :
    (quoted s).toList ++ r = '"' :: (s.toList.flatMap escaped ++ '"' :: r) := by
  simp [quoted]

/-- A text between quotes is read back, if it is not taken for the start of a text of several
lines. -/
theorem scanString?_quoted {s : String} (plain : IsPlainText s) {r : List Char}
    (behind : ∀ c ∈ r.head?, c ≠ '"') :
    scanString? ((quoted s).toList ++ r) = some (s, r) := by
  have ticks (rest : List Char) : strip? [tick, tick, tick] ('"' :: rest) = none := rfl
  have room : s.toList.length < (s.toList.flatMap escaped ++ '"' :: r).length + 1 := by
    have := length_le_escaped plain
    rw [List.length_append]
    omega
  rw [toList_quoted, scanString?, strip?_three plain behind, ticks]
  dsimp only
  rw [if_pos (by decide), scanText_escaped plain [] r room]
  simp

/-! ### Values -/

/-- A text of a value: it is scanned wherever a value may stand, and its tokens are read as the
value. No mark of a text may follow it. -/
structure Writes (text : String) (v : Value) (tokens : List Token) : Prop where
  scans : ∀ nesting r, (∀ c ∈ r.head?, c ≠ '"') →
    Scans ⟨.value, nesting, text.toList ++ r⟩ tokens ⟨.value, nesting, r⟩
  reads : ∀ fuel rest, tokens.length < fuel → readValue fuel (tokens ++ rest) = some (v, rest)

theorem writes_quoted {s : String} (plain : IsPlainText s) :
    Writes (quoted s) (.text s) [.text s] where
  scans nesting r behind := by
    have scanned := scanString?_quoted plain behind
    rw [toList_quoted] at scanned ⊢
    refine .of_step ?_ ?_
    · change (scanString? ('"' :: (s.toList.flatMap escaped ++ '"' :: r))).map _ = _
      rw [scanned]
      rfl
    · rw [List.length_append, List.length_cons]
      omega
  reads fuel rest room := by
    cases fuel with
    | zero => cases room
    | succ fuel => rfl

theorem writes_boolText (b : Bool) : Writes (boolText b) (.bool b) [.bool b] where
  scans nesting r _ := by
    cases b with
    | false =>
        change Scans ⟨.value, nesting, 'f' :: ("alse".toList ++ r)⟩ _ _
        exact .of_step rfl (Nat.le_add_right _ 4)
    | true =>
        change Scans ⟨.value, nesting, 't' :: ("rue".toList ++ r)⟩ _ _
        exact .of_step rfl (Nat.le_add_right _ 3)
  reads fuel rest room := by
    cases fuel with
    | zero => cases room
    | succ fuel => rfl

/-- The tokens of texts in a list, its closing bracket included. -/
def itemTokens : List String → List Token
  | [] => [.closeBracket]
  | [s] => [.text s, .closeBracket]
  | s :: t :: rest => .text s :: .comma :: itemTokens (t :: rest)

section

variable {items : List String}

theorem scans_items (plain : ∀ s ∈ items, IsPlainText s) (nesting : List Bracket)
    (r : List Char) :
    Scans ⟨.value, .array :: nesting, (Text.commaList (items.map quoted)).toList ++ ']' :: r⟩
      (itemTokens items) ⟨.value, nesting, r⟩ := by
  have closed : Scans ⟨.value, .array :: nesting, ']' :: r⟩ [.closeBracket] ⟨.value, nesting, r⟩ :=
    .of_step rfl (Nat.le_refl _)
  induction items with
  | nil => exact closed
  | cons s items ih =>
      obtain ⟨first, others⟩ := List.forall_mem_cons.mp plain
      cases items with
      | nil =>
          have item := (writes_quoted first).scans (.array :: nesting) (']' :: r) (by simp)
          exact item.trans closed
      | cons t items =>
          have item := (writes_quoted first).scans (.array :: nesting)
            (',' :: ' ' :: ((Text.commaList ((t :: items).map quoted)).toList ++ ']' :: r))
            (by simp)
          have comma (rest : List Char) : Scans ⟨.value, .array :: nesting, ',' :: rest⟩ [.comma]
              ⟨.value, .array :: nesting, rest⟩ := .of_step rfl (Nat.le_refl _)
          have blank (rest : List Char) : Scans ⟨.value, .array :: nesting, ' ' :: rest⟩ []
              ⟨.value, .array :: nesting, rest⟩ := .of_step rfl (Nat.le_refl _)
          have text : (Text.commaList ((s :: t :: items).map quoted)).toList ++ ']' :: r =
              (quoted s).toList ++
                ',' :: ' ' :: ((Text.commaList ((t :: items).map quoted)).toList ++ ']' :: r) := by
            simp [Text.commaList]
          rw [text]
          exact item.trans ((comma _).trans ((blank _).trans (ih others)))

theorem readItems_eq (rest : List Token) {fuel : Nat} (room : (itemTokens items).length < fuel) :
    readItems fuel (itemTokens items ++ rest) = some (items.map .text, rest) := by
  induction items generalizing fuel with
  | nil =>
      cases fuel with
      | zero => cases room
      | succ fuel => rfl
  | cons s items ih =>
      -- One unit of fuel for the item itself and one for its value.
      obtain ⟨fuel, rfl⟩ : ∃ n, fuel = n + 2 := by
        refine ⟨fuel - 2, ?_⟩
        cases items <;> simp only [itemTokens, List.length_cons] at room <;> omega
      cases items with
      | nil => rfl
      | cons t items =>
          have room' : (itemTokens (t :: items)).length < fuel + 1 := by
            simp only [itemTokens, List.length_cons] at room ⊢
            omega
          change (readItems (fuel + 1) (itemTokens (t :: items) ++ rest)).bind
            (fun p => some (.text s :: p.1, p.2)) = _
          rw [ih room']
          rfl

theorem ofItems_texts : Value.ofItems (items.map .text) = .array (items.map .text) := by
  cases items with
  | nil => rfl
  | cons s items => rfl

/-- Lists of texts. -/
theorem writes_listText (plain : ∀ s ∈ items, IsPlainText s) :
    Writes (listText items) (.array (items.map .text)) (.openBracket :: itemTokens items) where
  scans nesting r _ := by
    have opened (rest : List Char) : Scans ⟨.value, nesting, '[' :: rest⟩ [.openBracket]
        ⟨.value, .array :: nesting, rest⟩ := .of_step rfl (Nat.le_refl _)
    have text : (listText items).toList ++ r =
        '[' :: ((Text.commaList (items.map quoted)).toList ++ ']' :: r) := by
      simp [listText]
    rw [text]
    exact (opened _).trans (scans_items plain nesting r)
  reads fuel rest room := by
    cases fuel with
    | zero => cases room
    | succ fuel =>
        change (readItems fuel (itemTokens items ++ rest)).map _ = _
        rw [readItems_eq rest (Nat.lt_of_succ_lt_succ room), Option.map_some, ofItems_texts]

end

/-! ### Keys -/

/-- A key that is written without quotes. -/
def IsKey (key : String) : Prop :=
  key.toList ≠ [] ∧ ∀ c ∈ key.toList, isBare c = true

instance (key : String) : Decidable (IsKey key) :=
  decidable_of_iff (key.toList ≠ [] ∧ key.toList.all isBare = true) (by simp [IsKey])

theorem ne_of_isBare {c d : Char} (h : isBare c = true) (other : isBare d = false) : c ≠ d := by
  rintro rfl
  rw [h] at other
  cases other

theorem beq_of_isBare {c d : Char} (h : isBare c = true) (other : isBare d = false) :
    (c == d) = false :=
  beq_eq_false_iff_ne.mpr (ne_of_isBare h other)

theorem isSpace_of_isBare {c : Char} (h : isBare c = true) : isSpace c = false := by
  rw [isSpace, beq_of_isBare h (by decide), beq_of_isBare h (by decide), Bool.or_false]

theorem isBreak_of_isBare {c : Char} (h : isBare c = true) : isBreak c = false := by
  rw [isBreak, beq_of_isBare h (by decide), beq_of_isBare h (by decide), Bool.or_false]

theorem scanKey?_bare {cs : List Char} (bare : ∀ c ∈ cs, isBare c = true) (read r : List Char)
    {fuel : Nat} (room : cs.length < fuel) :
    scanKey? fuel read (cs ++ ' ' :: '=' :: r) = some (read.reverse ++ cs, '=' :: r) := by
  induction cs generalizing read fuel with
  | nil =>
      cases fuel with
      | zero => cases room
      | succ fuel =>
          rw [List.append_nil]
          rfl
  | cons c cs ih =>
      obtain ⟨first, others⟩ := List.forall_mem_cons.mp bare
      have apart {d : Char} (other : isBare d = false) : ¬(c == d) = true :=
        Bool.eq_false_iff.mp (beq_of_isBare first other)
      have noSpace : ¬isSpace c = true := Bool.eq_false_iff.mp (isSpace_of_isBare first)
      cases fuel with
      | zero => cases room
      | succ fuel =>
          rw [List.cons_append, scanKey?]
          rw [if_neg (apart (by decide)), if_neg (apart (by decide)), if_neg (apart (by decide)),
            if_neg noSpace, if_pos (by rw [first, Bool.or_true]),
            ih others (c :: read) (Nat.lt_of_succ_lt_succ room), List.reverse_cons,
            List.append_assoc, List.singleton_append]

/-- A step of the scanner where a line begins with a key. -/
theorem lineStep_key {c : Char} (bare : isBare c = true) (nesting : List Bracket) (cs : List Char) :
    lineStep nesting c cs = (scanKey? (cs.length + 2) [] (c :: cs)).map fun p =>
      ⟨[.key p.1], .line, nesting, p.2⟩ := by
  have apart {d : Char} (other : isBare d = false) : ¬(c == d) = true :=
    Bool.eq_false_iff.mp (beq_of_isBare bare other)
  have noSpace : ¬(isSpace c || isBreak c) = true := by
    rw [isSpace_of_isBare bare, isBreak_of_isBare bare]
    exact Bool.false_ne_true
  unfold lineStep
  rw [if_neg (apart (by decide)), if_neg (apart (by decide)), if_neg (apart (by decide)),
    if_neg (apart (by decide)), if_neg noSpace]

/-- A bare key is a path of one part. -/
theorem path?_key {key : String} (h : IsKey key) : path? key.toList = some [key] := by
  obtain ⟨nonempty, bare⟩ := h
  obtain ⟨c, cs, chars⟩ := List.exists_cons_of_ne_nil nonempty
  rw [chars] at bare
  obtain ⟨first, others⟩ := List.forall_mem_cons.mp bare
  obtain ⟨run, rest⟩ := Text.run_ends (r := []) others (by simp)
  rw [List.append_nil] at run rest
  have parts : keyParts? (cs.length + 2) (c :: cs) = some [key] := by
    rw [keyParts?, List.dropWhile_cons_of_neg (by simp [isSpace_of_isBare first])]
    dsimp only
    rw [if_pos first, run, rest, ← chars, String.ofList_toList]
    rfl
  rw [path?, chars, List.length_cons, parts]

/-! ### Assignments and tables -/

/-- An assignment with its tokens. -/
structure Assignment where
  key : String
  text : String
  value : Value
  tokens : List Token
  isKey : IsKey key
  writes : Writes text value tokens

/-- The tokens of an assignment. -/
def Assignment.all (e : Assignment) : List Token :=
  .key e.key.toList :: .equals :: e.tokens

theorem scans_assignment (e : Assignment) (r : List Char) :
    Scans ⟨.line, [], (assignment e.key e.text).toList ++ r⟩ e.all ⟨.line, [], r⟩ := by
  obtain ⟨nonempty, bare⟩ := e.isKey
  obtain ⟨c, cs, chars⟩ := List.exists_cons_of_ne_nil nonempty
  rw [chars] at bare
  have text : (assignment e.key e.text).toList ++ r =
      ' ' :: ' ' :: ((c :: cs) ++ ' ' :: '=' :: ' ' :: (e.text.toList ++ '\n' :: r)) := by
    simp [assignment, ← chars]
  have blank (rest : List Char) : Scans ⟨.line, [], ' ' :: rest⟩ [] ⟨.line, [], rest⟩ :=
    .of_step rfl (Nat.le_refl _)
  have key (rest : List Char) : Scans ⟨.line, [], (c :: cs) ++ ' ' :: '=' :: rest⟩
      [.key e.key.toList] ⟨.line, [], '=' :: rest⟩ := by
    have room : (c :: cs).length < (cs ++ ' ' :: '=' :: rest).length + 2 := by
      rw [List.length_append, List.length_cons]
      omega
    refine .of_step ?_ ?_
    · change lineStep [] c (cs ++ ' ' :: '=' :: rest) = _
      rw [lineStep_key (bare c List.mem_cons_self), ← List.cons_append,
        scanKey?_bare bare [] rest room, chars]
      rfl
    · change rest.length + 1 ≤ (cs ++ ' ' :: '=' :: rest).length
      rw [List.length_append, List.length_cons, List.length_cons]
      omega
  have equals (rest : List Char) : Scans ⟨.line, [], '=' :: ' ' :: rest⟩ [.equals]
      ⟨.value, [], ' ' :: rest⟩ := .of_step rfl (Nat.le_refl _)
  have behind (rest : List Char) : Scans ⟨.value, [], ' ' :: rest⟩ [] ⟨.value, [], rest⟩ :=
    .of_step rfl (Nat.le_refl _)
  have value := e.writes.scans [] ('\n' :: r) (by simp)
  have closed : Scans ⟨.value, [], '\n' :: r⟩ [] ⟨.line, [], r⟩ := .of_step rfl (Nat.le_refl _)
  rw [text]
  have all := (blank _).trans ((blank _).trans ((key _).trans ((equals _).trans
    ((behind _).trans (value.trans closed)))))
  simpa [Assignment.all] using all

/-- A table with its header. -/
structure Section where
  name : String
  assignments : List Assignment
  isKey : IsKey name
  distinct : (assignments.map Assignment.key).Nodup

namespace Section

/-- The text of a table. -/
def text (s : Section) : String :=
  tableText s.name (s.assignments.map fun e => (e.key, e.text))

/-- The tokens of a table. -/
def tokens (s : Section) : List Token :=
  [.openBracket, .header s.name.toList, .closeBracket] ++ s.assignments.flatMap Assignment.all

end Section

theorem scans_assignments (es : List Assignment) (r : List Char) :
    Scans ⟨.line, [], (String.join (es.map fun e => assignment e.key e.text)).toList ++ r⟩
      (es.flatMap Assignment.all) ⟨.line, [], r⟩ := by
  induction es with
  | nil => exact .refl _
  | cons e es ih =>
      rw [List.map_cons, String.join_cons, String.toList_append, List.append_assoc]
      exact (scans_assignment e _).trans ih

/-- The header of a table. -/
theorem lineStep_header {name : String} (h : IsKey name) (rest : List Char) :
    lineStep [] '[' (name.toList ++ ']' :: rest) =
      some ⟨[.openBracket, .header name.toList, .closeBracket], .line, [], rest⟩ := by
  obtain ⟨nonempty, bare⟩ := h
  have inside := Text.run_ends (p := fun c => c != '[' && c != ']') (r := ']' :: rest)
    (fun c member => by
      have apart {d : Char} (other : isBare d = false) : (c != d) = true :=
        bne_iff_ne.mpr (ne_of_isBare (bare c member) other)
      rw [apart (by decide), apart (by decide), Bool.and_true]) (by simp)
  have header : scanHeader? [']'] (name.toList ++ ']' :: rest) = some (name.toList, rest) := by
    rw [scanHeader?, inside.1, List.drop_left]
    rfl
  have tokens : headerTokens name.toList =
      [.openBracket, .header name.toList, .closeBracket] := by
    rw [headerTokens, if_neg (by simpa using nonempty)]
  unfold lineStep
  rw [if_neg (by decide), if_pos (by decide)]
  split
  · rename_i same
    obtain ⟨c, cs, chars⟩ := List.exists_cons_of_ne_nil nonempty
    rw [chars] at same bare
    exact absurd (List.cons.inj same).1 (ne_of_isBare (bare c List.mem_cons_self) (by decide))
  · rw [header, Option.map_some, tokens]

theorem scans_section (s : Section) (r : List Char) :
    Scans ⟨.line, [], s.text.toList ++ r⟩ s.tokens ⟨.line, [], r⟩ := by
  have text : s.text.toList ++ r = '\n' :: '[' :: (s.name.toList ++ ']' :: '\n' ::
      ((String.join (s.assignments.map fun e => assignment e.key e.text)).toList ++ r)) := by
    simp [Section.text, tableText, Function.comp_def]
  have breaks (rest : List Char) : Scans ⟨.line, [], '\n' :: rest⟩ [] ⟨.line, [], rest⟩ :=
    .of_step rfl (Nat.le_refl _)
  have header (rest : List Char) : Scans ⟨.line, [], '[' :: (s.name.toList ++ ']' :: rest)⟩
      [.openBracket, .header s.name.toList, .closeBracket] ⟨.line, [], rest⟩ :=
    .of_step (lineStep_header s.isKey rest) (by
      rw [List.length_append, List.length_cons]
      omega)
  rw [text]
  exact (breaks _).trans ((header _).trans ((breaks _).trans (scans_assignments s.assignments r)))

/-! ### Reading tables -/

/-- Assigns values to keys of a table. -/
def Table.fill (t : Table) (vs : List (String × Value)) : Table :=
  vs.foldl (fun t v => t.put v.1 v.2) t

theorem Table.get?_fill_of_ne {vs : List (String × Value)} {key : String}
    (h : ∀ e ∈ vs, e.1 ≠ key) (t : Table) : (t.fill vs).get? key = t.get? key := by
  induction vs generalizing t with
  | nil => rfl
  | cons e vs ih =>
      obtain ⟨first, others⟩ := List.forall_mem_cons.mp h
      exact (ih others (t.put e.1 e.2)).trans (t.get?_put_of_ne e.2 first.symm)

/-- Of keys that are different each has its value. -/
theorem Table.get?_fill {vs : List (String × Value)} (distinct : (vs.map Prod.fst).Nodup)
    {e : String × Value} (h : e ∈ vs) (t : Table) : (t.fill vs).get? e.1 = some e.2 := by
  induction vs generalizing t with
  | nil => cases h
  | cons f vs ih =>
      obtain ⟨apart, distinct⟩ := List.nodup_cons.mp distinct
      rcases List.mem_cons.mp h with rfl | later
      · have others : ∀ f ∈ vs, f.1 ≠ e.1 :=
          fun f member same => apart (same ▸ List.mem_map_of_mem member)
        exact (get?_fill_of_ne others _).trans (t.get?_put_self e.1 e.2)
      · exact ih distinct later (t.put f.1 f.2)

/-- Some tokens lead from one state of reading a document to another. What is left of the fuel is
enough for the tokens behind them. -/
def Leads (p : Progress) (ts : List Token) (q : Progress) : Prop :=
  ∀ rest fuel, (ts ++ rest).length ≤ fuel → ∃ left, rest.length ≤ left ∧
    p.readAll? fuel (ts ++ rest) = q.readAll? left rest

namespace Leads

variable {p q s : Progress} {ts us : List Token}

theorem refl (p : Progress) : Leads p [] p :=
  fun _ fuel room => ⟨fuel, room, rfl⟩

theorem trans (h : Leads p ts q) (k : Leads q us s) : Leads p (ts ++ us) s := by
  intro rest fuel room
  rw [List.append_assoc] at room ⊢
  obtain ⟨middle, room', first⟩ := h (us ++ rest) fuel room
  obtain ⟨left, room'', second⟩ := k rest middle room'
  exact ⟨left, room'', first.trans second⟩

theorem of_item {t : Token} (h : ∀ rest, p.readItem? (t :: ts ++ rest) = some (q, rest)) :
    Leads p (t :: ts) q := by
  intro rest fuel room
  cases fuel with
  | zero => cases room
  | succ fuel =>
      refine ⟨fuel, ?_, ?_⟩
      · rw [List.cons_append, List.length_cons, List.length_append] at room
        omega
      · have item := h rest
        rw [List.cons_append] at item ⊢
        simp only [Progress.readAll?, item, Option.bind_eq_bind, Option.bind_some]

/-- A document that leads to its end is read. -/
theorem readAll?_eq (h : Leads p ts q) : p.readAll? ts.length ts = some q.root := by
  obtain ⟨left, -, all⟩ := h [] ts.length (by simp)
  rw [List.append_nil] at all
  rw [all, Progress.readAll?]

end Leads

/-- A table of a document that is being read: `name` is its key and `t` what it has so far. -/
def Progress.at (base : Table) (headers : List (List Char)) (name : String) (t : Table) :
    Progress :=
  ⟨base.put name (.table t), [name], headers⟩

section

variable {base : Table} {headers : List (List Char)} {name : String} {t : Table}

/-- A new key of the current table is assigned. -/
theorem assign_at (opened : t.closed = false) {key : String} (fresh : t.get? key = none)
    (v : Value) : (Progress.at base headers name t).assign [key] v =
      some (.at base headers name (t.put key v)) := by
  have add : Table.add? key v t = some (t.put key v) := by
    rw [Table.add?, opened, fresh]
    rfl
  have root : (base.put name (.table t)).update? (Table.add? key v) [name] =
      some (base.put name (.table (t.put key v))) := by
    rw [Table.update?, Table.get?_put_self]
    dsimp only
    rw [Table.update?, add, Option.map_some, Table.put_put]
  change ((base.put name (.table t)).update? (Table.add? key v) [name]).bind _ = _
  rw [root]
  rfl

theorem leads_assignment (opened : t.closed = false) {e : Assignment}
    (fresh : t.get? e.key = none) :
    Leads (.at base headers name t) e.all (.at base headers name (t.put e.key e.value)) := by
  refine .of_item fun rest => ?_
  have room : e.tokens.length < (e.tokens ++ rest).length + 1 := by
    rw [List.length_append]
    omega
  have value := e.writes.reads ((e.tokens ++ rest).length + 1) rest room
  change ((path? e.key.toList).bind fun path =>
    (readValue ((e.tokens ++ rest).length + 1) (e.tokens ++ rest)).bind fun r =>
      ((Progress.at base headers name t).assign path r.1).bind fun p => some (p, r.2)) = _
  rw [path?_key e.isKey, value, Option.bind_some, Option.bind_some, assign_at opened fresh]
  rfl

/-- The keys and values of assignments. -/
def Assignment.pair (e : Assignment) : String × Value :=
  (e.key, e.value)

theorem leads_assignments {es : List Assignment} (opened : t.closed = false)
    (fresh : ∀ e ∈ es, t.get? e.key = none) (distinct : (es.map Assignment.key).Nodup) :
    Leads (.at base headers name t) (es.flatMap Assignment.all)
      (.at base headers name (t.fill (es.map Assignment.pair))) := by
  induction es generalizing t with
  | nil => exact .refl _
  | cons e es ih =>
      obtain ⟨first, others⟩ := List.forall_mem_cons.mp fresh
      obtain ⟨apart, distinct⟩ := List.nodup_cons.mp distinct
      -- The later keys are still free, because they differ from this one.
      refine (leads_assignment opened first).trans
        (ih (t := t.put e.key e.value) opened ?_ distinct)
      intro f member
      have other : f.key ≠ e.key := fun same => apart (same ▸ List.mem_map_of_mem member)
      rw [Table.get?_put_of_ne t e.value other]
      exact others f member

end

/-- The table that is read. -/
def Section.table (s : Section) : Table :=
  (Table.empty false).fill (s.assignments.map Assignment.pair)

theorem Section.get?_assignment {s : Section} {e : Assignment} (h : e ∈ s.assignments) :
    s.table.get? e.key = some e.value := by
  have distinct : ((s.assignments.map Assignment.pair).map Prod.fst).Nodup := by
    rw [List.map_map]
    exact s.distinct
  exact Table.get?_fill distinct (List.mem_map_of_mem h) (Table.empty false)

theorem Section.get?_eq_none {s : Section} {key : String}
    (h : key ∉ s.assignments.map Assignment.key) : s.table.get? key = none := by
  have other : ∀ v ∈ s.assignments.map Assignment.pair, v.1 ≠ key := by
    rintro v member rfl
    obtain ⟨e, inside, rfl⟩ := List.mem_map.mp member
    exact h (List.mem_map_of_mem inside)
  exact Table.get?_fill_of_ne other (Table.empty false)

/-- A header that was not written before opens a new table. -/
theorem enter_section {p : Progress} {name : String} (key : IsKey name)
    (opened : p.root.closed = false) (fresh : p.root.get? name = none)
    (first : name.toList ∉ p.headers) :
    p.enter name.toList =
      some (.at p.root (name.toList :: p.headers) name (Table.empty false)) := by
  have root : p.root.update? some [name] = some (p.root.put name (.table (Table.empty false))) := by
    rw [Table.update?, fresh]
    dsimp only
    rw [Table.update?, Option.map_some, opened]
  have found : (p.root.put name (.table (Table.empty false))).find? [name] =
      some (.table (Table.empty false)) := by
    rw [Table.find?, Table.get?_put_self]
  unfold Progress.enter
  rw [if_neg (by simpa using first), path?_key key]
  change (p.root.update? some [name]).bind _ = _
  rw [root, Option.bind_some, found]
  rfl

theorem leads_section {p : Progress} {s : Section} (opened : p.root.closed = false)
    (fresh : p.root.get? s.name = none) (first : s.name.toList ∉ p.headers) :
    Leads p s.tokens (.at p.root (s.name.toList :: p.headers) s.name s.table) := by
  have header : Leads p [.openBracket, .header s.name.toList, .closeBracket]
      (.at p.root (s.name.toList :: p.headers) s.name (Table.empty false)) := by
    refine .of_item fun rest => ?_
    change (p.enter s.name.toList).map _ = _
    rw [enter_section s.isKey opened fresh first]
    rfl
  exact header.trans (leads_assignments rfl (fun _ _ => rfl) s.distinct)

/-- The tables of a document under their names. -/
def Section.pair (s : Section) : String × Value :=
  (s.name, .table s.table)

theorem leads_sections {ss : List Section} {p : Progress} (opened : p.root.closed = false)
    (fresh : ∀ s ∈ ss, p.root.get? s.name = none ∧ s.name.toList ∉ p.headers)
    (distinct : (ss.map Section.name).Nodup) :
    ∃ q, Leads p (ss.flatMap Section.tokens) q ∧ q.root = p.root.fill (ss.map Section.pair) := by
  induction ss generalizing p with
  | nil => exact ⟨p, .refl p, rfl⟩
  | cons s ss ih =>
      obtain ⟨⟨free, first⟩, others⟩ := List.forall_mem_cons.mp fresh
      obtain ⟨apart, distinct⟩ := List.nodup_cons.mp distinct
      have next : ∀ f ∈ ss, (p.root.put s.name (.table s.table)).get? f.name = none ∧
          f.name.toList ∉ s.name.toList :: p.headers := by
        intro f member
        have other : f.name ≠ s.name := fun same => apart (same ▸ List.mem_map_of_mem member)
        obtain ⟨free, first⟩ := others f member
        rw [Table.get?_put_of_ne _ _ other]
        exact ⟨free, List.not_mem_cons_of_ne_of_not_mem
          (fun same => other (String.toList_inj.mp same)) first⟩
      obtain ⟨q, leads, root⟩ :=
        ih (p := .at p.root (s.name.toList :: p.headers) s.name s.table) opened next distinct
      exact ⟨q, (leads_section opened free first).trans leads, root⟩

theorem scans_sections (ss : List Section) :
    Scans ⟨.line, [], (String.join (ss.map Section.text)).toList⟩ (ss.flatMap Section.tokens)
      ⟨.line, [], []⟩ := by
  induction ss with
  | nil => exact .refl _
  | cons s ss ih =>
      rw [List.map_cons, String.join_cons, String.toList_append]
      exact (scans_section s _).trans ih

/-- A document of tables with different names is read as these tables. -/
theorem read?_sections {ss : List Section} (distinct : (ss.map Section.name).Nodup) :
    read? (String.join (ss.map Section.text)) =
      some ((Table.empty false).fill (ss.map Section.pair)) := by
  have start : dropMark (String.join (ss.map Section.text)).toList =
      (String.join (ss.map Section.text)).toList := by
    cases ss with
    | nil => rfl
    | cons s ss =>
        rw [List.map_cons, String.join_cons, Section.text, tableText]
        simp [dropMark]
  obtain ⟨q, leads, root⟩ := leads_sections (p := ⟨Table.empty false, [], []⟩) rfl
    (fun _ _ => ⟨rfl, List.not_mem_nil⟩) distinct
  rw [read?, start, (scans_sections ss).tokens?_eq]
  change Progress.readAll? (ss.flatMap Section.tokens).length _ (ss.flatMap Section.tokens) = _
  rw [leads.readAll?_eq, root]

end TensorCompiler.Toml
