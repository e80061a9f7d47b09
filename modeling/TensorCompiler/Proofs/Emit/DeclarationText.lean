import TensorCompiler.Emit.Source
import TensorCompiler.Proofs.Emit.Reading

/-!
# Reading native declarations

A reader of declarations in the assembly language. A symbol without quotes is a name of plain
characters, or the number of a function without a name; inside quotes a backslash stands in front of
the two hexadecimal digits of a byte. The parameters of a declaration are numbered in order.

Main statement: the declarations of a program say each kernel with its arity, and behind them the
entry point with its arity.
-/

namespace TensorCompiler.Emit

/-- What a symbol stands for: the bytes of a name, or a number in place of a name. -/
inductive Symbol where
  | named (bytes : List UInt8)
  | unnamed (n : Nat)
deriving DecidableEq

/-- A declared function of opaque pointers. -/
structure Declared where
  result : String
  symbol : Symbol
  params : Nat
deriving DecidableEq

/-- What a text of declarations says: the name of its source, and its functions. -/
structure Assembly where
  source : List UInt8
  functions : List Declared
deriving DecidableEq

namespace Native

open Reader (accept exact)

/-- A reader of the front of a text. -/
abbrev CharReader := ReaderOf Char

/-- Passes over a text. -/
def literal (s : String) : CharReader Unit :=
  s.toList.forM exact

/-- Reads up to a character. -/
def upTo (stop : Char) : CharReader (List Char)
  | [] => none
  | c :: cs => if c = stop then some ([], cs) else (upTo stop cs).map fun p => (c :: p.1, p.2)

/-- The bytes that the inside of a quoted text stands for. -/
def bytes? : List Char → Option (List UInt8)
  | [] => some []
  | '\\' :: a :: b :: cs => do
    let high ← Text.digitIn? 16 a
    let low ← Text.digitIn? 16 b
    let rest ← bytes? cs
    return UInt8.ofNat (16 * high + low) :: rest
  | c :: cs => do
    let rest ← bytes? cs
    if c.toNat < 128 then return UInt8.ofNat c.toNat :: rest else failure

/-- Reads a quoted text behind its first quote. -/
def quoted : CharReader (List UInt8) := do
  let inside ← upTo '"'
  bytes? inside

/-- A character of a name without quotes. -/
def isPlain (c : Char) : Bool :=
  c.isAlphanum || ['$', '-', '.', '_'].contains c

/-- What a symbol without quotes stands for. Numerals that fit a machine word are numbers. -/
def bare? (name : List Char) : Option Symbol :=
  if name.isEmpty || !name.all isPlain then none
  else match Text.readNat? name with
    | none => some (.named (name.map fun c => UInt8.ofNat c.toNat))
    | some n =>
      if n < 2 ^ 64 then some (.unnamed n)
      else some (.named (name.map fun c => UInt8.ofNat c.toNat))

/-- Reads a symbol and the parenthesis behind it. -/
def symbol : CharReader Symbol := do
  exact '@'
  if ← accept '"' then
    let bytes ← quoted
    exact '('
    return .named bytes
  else
    let name ← upTo '('
    bare? name

/-- Reads parameters from a number on, the closing parenthesis included, and counts all of them. -/
def params (index : Nat) : Nat → CharReader Nat
  | 0 => failure
  | n + 1 => do
    literal ("i8* %" ++ Text.ofNat index)
    if ← accept ')' then return index + 1
    else
      literal ", "
      params (index + 1) n

/-- Reads all parameters. -/
def allParams (n : Nat) : CharReader Nat := do
  if ← accept ')' then return 0 else params 0 n

/-- Reads a declaration. -/
def declaration (n : Nat) : CharReader Declared := do
  literal "declare "
  let result ← upTo ' '
  let s ← symbol
  let count ← allParams n
  return ⟨String.ofList result, s, count⟩

/-- Reads declarations up to the end, each between two line breaks. -/
def functions : Nat → CharReader (List Declared)
  | 0 => failure
  | n + 1 => do
    if ← accept '\n' then
      let d ← declaration n
      exact '\n'
      let ds ← functions n
      return d :: ds
    else return []

/-- Reads a text of declarations. -/
def assembly (n : Nat) : CharReader Assembly := do
  literal "source_filename = \""
  let source ← quoted
  exact '\n'
  let fs ← functions n
  return ⟨source, fs⟩

end Native

/-- What a text says, if it is one of declarations. -/
def Assembly.read? (s : String) : Option Assembly :=
  match (Native.assembly s.length).run s.toList with
  | some (a, []) => some a
  | _ => none

/-- The symbol of a name. Only one function has none. -/
def Symbol.ofName (name : String) : Symbol :=
  if name.isEmpty then .unnamed 0 else .named name.toUTF8.toList

namespace Native

open Reader

/-! ### Names -/

theorem reads_literal (s : String) : Reads (literal s) s.toList () :=
  reads_forM s.toList

/-- Characters in front of the first one of a kind. -/
theorem reads_upTo {stop : Char} {cs : List Char} (absent : stop ∉ cs) :
    Reads (upTo stop) (cs ++ [stop]) cs := by
  intro rest
  change upTo stop _ = _
  induction cs with
  | nil =>
      simp [upTo]
  | cons c cs ih =>
      obtain ⟨other, absent⟩ := not_or.mp (mt List.mem_cons.mpr absent)
      rw [List.cons_append, List.cons_append, upTo, if_neg (Ne.symm other), ih absent]
      rfl

/-- An upper-case hexadecimal digit. -/
theorem digitIn?_hexDigit {d : Nat} (small : d < 16) :
    (Text.hexDigit d).toUpper ≠ '"' ∧ Text.digitIn? 16 (Text.hexDigit d).toUpper = some d := by
  have all : ∀ d < 16, (Text.hexDigit d).toUpper ≠ '"' ∧
      Text.digitIn? 16 (Text.hexDigit d).toUpper = some d := by
    decide +kernel
  exact all d small

/-- A byte between quotes is read alone. It has no quote. -/
theorem bytes?_escapedByte (b : UInt8) (cs : List Char) :
    '"' ∉ escapedByte b ∧ bytes? (escapedByte b ++ cs) = (bytes? cs).map (b :: ·) := by
  have small : b.toNat < 256 := b.toNat_lt
  rw [escapedByte]
  split
  · rename_i printable
    simp only [Bool.and_eq_true, decide_eq_true_eq, bne_iff_ne] at printable
    obtain ⟨⟨⟨-, ascii⟩, quote⟩, slash⟩ := printable
    have code : (Char.ofNat b.toNat).toNat = b.toNat := by
      rw [Char.ofNat, dif_pos (Or.inl (by omega))]
      rfl
    refine ⟨by simpa using Ne.symm quote, ?_⟩
    rw [List.singleton_append, bytes?.eq_3 _ _ fun _ _ _ same _ => slash same, code,
      UInt8.ofNat_toNat]
    cases bytes? cs <;> simp [show b.toNat < 128 by omega]
  · obtain ⟨first, high⟩ := digitIn?_hexDigit (d := b.toNat / 16 % 16) (by omega)
    obtain ⟨second, low⟩ := digitIn?_hexDigit (d := b.toNat % 16) (by omega)
    have digits : Text.hexDigits 2 b.toNat =
        [Text.hexDigit (b.toNat / 16 % 16), Text.hexDigit (b.toNat % 16)] := rfl
    have byte : UInt8.ofNat (16 * (b.toNat / 16 % 16) + b.toNat % 16) = b := by
      rw [show 16 * (b.toNat / 16 % 16) + b.toNat % 16 = b.toNat by omega, UInt8.ofNat_toNat]
    rw [digits]
    refine ⟨by simp [first.symm, second.symm], ?_⟩
    simp only [List.map_cons, List.map_nil, List.cons_append, List.nil_append, bytes?, high, low]
    cases bytes? cs with
    | none => rfl
    | some rest => exact congrArg (fun b => some (b :: rest)) byte

/-- What is written between quotes is read as the bytes it is written for. -/
theorem bytes?_flatMap (bs : List UInt8) :
    '"' ∉ bs.flatMap escapedByte ∧ bytes? (bs.flatMap escapedByte) = some bs := by
  induction bs with
  | nil => exact ⟨List.not_mem_nil, rfl⟩
  | cons b bs ih =>
      obtain ⟨first, head⟩ := bytes?_escapedByte b (bs.flatMap escapedByte)
      rw [List.flatMap_cons]
      refine ⟨fun member => (List.mem_append.mp member).elim first ih.1, ?_⟩
      rw [head, ih.2]
      rfl

theorem toList_quotedBytes (s : String) :
    (quotedBytes s).toList = '"' :: (s.toUTF8.toList.flatMap escapedByte ++ ['"']) := by
  simp [quotedBytes]

theorem reads_quoted (bs : List UInt8) :
    Reads quoted (bs.flatMap escapedByte ++ ['"']) bs := by
  obtain ⟨absent, decoded⟩ := bytes?_flatMap bs
  refine (reads_upTo absent).map ?_
  rw [decoded]
  rfl

/-! ### Bytes of texts -/

theorem toList_loop (bs : ByteArray) (i : Nat) (read : List UInt8) :
    ByteArray.toList.loop bs i read = read.reverse ++ bs.data.toList.drop i := by
  induction i, read using ByteArray.toList.loop.induct bs with
  | case1 i read inside ih =>
      have here : i < bs.data.toList.length := inside
      have byte : bs.get! i = bs.data.toList[i] :=
        (getElem!_pos bs.data i here).trans (Array.getElem_toList here).symm
      rw [ByteArray.toList.loop, if_pos inside, ih, List.drop_eq_getElem_cons here, byte,
        List.reverse_cons, List.append_assoc, List.singleton_append]
  | case2 i read outside =>
      rw [ByteArray.toList.loop, if_neg outside, List.drop_eq_nil_of_le (Nat.le_of_not_lt outside),
        List.append_nil]

/-- The bytes of a text are those of its characters. -/
theorem toUTF8_toList (s : String) :
    s.toUTF8.toList = s.toList.flatMap String.utf8EncodeChar := by
  rw [ByteArray.toList, toList_loop, String.toUTF8, ← String.utf8Encode_toList, List.utf8Encode,
    List.toList_data_toByteArray]
  rfl

/-- A byte of a name without quotes is a plain character. -/
theorem plain_of_symbolByte {b : UInt8} (h : isSymbolByte b = true) :
    b.toNat < 128 ∧ isPlain (Char.ofNat b.toNat) = true := by
  have all : ∀ n < 256, isSymbolByte (UInt8.ofNat n) = true →
      n < 128 ∧ isPlain (Char.ofNat n) = true := by
    decide +kernel
  exact all b.toNat b.toNat_lt (by rwa [UInt8.ofNat_toNat])

/-- A character of which all bytes may stand in a name without quotes is plain. -/
theorem plain_of_encoded {c : Char} (h : ∀ b ∈ String.utf8EncodeChar c, isSymbolByte b = true) :
    isPlain c = true ∧ String.utf8EncodeChar c = [UInt8.ofNat c.toNat] := by
  have big (n : Nat) (low : 128 ≤ n) (high : n < 256) : isSymbolByte (UInt8.ofNat n) ≠ true := by
    intro symbol
    have small := (plain_of_symbolByte symbol).1
    rw [UInt8.toNat_ofNat_of_lt' high] at small
    omega
  unfold String.utf8EncodeChar at h ⊢
  dsimp only at h ⊢
  split at h
  · rename_i ascii
    rw [if_pos ascii]
    obtain ⟨-, plain⟩ := plain_of_symbolByte (h _ List.mem_cons_self)
    rw [UInt8.toNat_ofNat_of_lt' (Nat.lt_of_le_of_lt ascii (by decide))] at plain
    refine ⟨?_, rfl⟩
    rwa [show c.val.toNat = c.toNat from rfl, Char.ofNat_toNat] at plain
  · -- the first byte of a longer code has its highest bit set
    split at h
    · exact absurd (h _ List.mem_cons_self) (big _ (by omega) (by omega))
    · split at h
      · exact absurd (h _ List.mem_cons_self) (big _ (by omega) (by omega))
      · exact absurd (h _ List.mem_cons_self) (big _ (by omega) (by omega))

/-- The bytes of plain names are plain characters. -/
theorem plain_of_symbolBytes {s : String} (bytes : s.toUTF8.toList.all isSymbolByte = true) :
    s.toList.all isPlain = true ∧
      s.toUTF8.toList = s.toList.map fun c => UInt8.ofNat c.toNat := by
  rw [toUTF8_toList] at bytes ⊢
  have each (c) (hc : c ∈ s.toList) := plain_of_encoded (c := c) fun b hb =>
    List.all_eq_true.mp bytes b (List.mem_flatMap.mpr ⟨c, hc, hb⟩)
  refine ⟨List.all_eq_true.mpr fun c hc => (each c hc).1, ?_⟩
  rw [List.flatMap_congr fun c hc => (each c hc).2, List.map_eq_flatMap]

/-! ### Symbols -/

/-- A name without quotes stands for itself, unless it is a number. -/
theorem bare?_of_plain {s : String} (named : s ≠ "")
    (bytes : s.toUTF8.toList.all isSymbolByte = true) (number : isNumber s = false) :
    bare? s.toList = some (.named s.toUTF8.toList) := by
  obtain ⟨plain, same⟩ := plain_of_symbolBytes bytes
  have some : s.toList.isEmpty = false := by
    rw [List.isEmpty_eq_false_iff, ne_eq, String.toList_eq_nil_iff]
    exact named
  rw [isNumber] at number
  rw [bare?, some, plain, same]
  simp only [Bool.not_true, Bool.or_self, Bool.false_eq_true, if_false]
  cases read : Text.readNat? s.toList with
  | none => rfl
  | some n =>
      rw [read] at number
      rw [decide_eq_false_iff_not] at number
      exact if_neg number

/-- The symbol of a name is read as the name. -/
theorem reads_symbol_of_name {name : String} (named : name ≠ "") :
    Reads symbol ((Emit.symbol name).toList ++ ['(']) (.named name.toUTF8.toList) := by
  unfold Emit.symbol
  split
  · rename_i bare
    rw [Bool.and_eq_true, Bool.not_eq_true'] at bare
    obtain ⟨plain, -⟩ := plain_of_symbolBytes bare.1
    have absent (c : Char) (odd : isPlain c = false) : c ∉ name.toList := fun member => by
      rw [List.all_eq_true.mp plain c member] at odd
      cases odd
    obtain ⟨c, cs, chars⟩ := List.exists_cons_of_ne_nil (mt String.toList_eq_nil_iff.mp named)
    have first : c ≠ '"' := by
      rintro rfl
      exact absent '"' (by decide) (chars ▸ List.mem_cons_self)
    rw [String.toList_append]
    refine (reads_exact '@').cons (accept_bind_of_ne ⟨c, cs ++ ['('], ?_, first⟩ ?_)
    · rw [chars]
      rfl
    · refine (reads_upTo (absent '(' (by decide))).map ?_
      rw [bare?_of_plain named bare.1 bare.2]
      rfl
  · rw [String.toList_append, toList_quotedBytes]
    refine (reads_exact '@').cons (accept_bind ?_)
    exact (reads_quoted _).bind ((reads_exact '(').map rfl)

/-- The symbol of a function without a name is read as its number. -/
theorem reads_symbol_unnamed : Reads symbol ("@0".toList ++ ['(']) (.unnamed 0) := by
  refine (reads_exact '@').cons (accept_bind_of_ne ⟨'0', ['('], rfl, by decide⟩ ?_)
  have absent : '(' ∉ ['0'] := by decide
  refine (reads_upTo absent).map ?_
  rw [show bare? ['0'] = some (.unnamed 0) by decide]
  rfl

/-- Names that are not empty have symbols of their own. -/
theorem symbols_of_named {names : List String} (named : "" ∉ names) (next : Nat) :
    symbols next names = names.map Emit.symbol := by
  induction names with
  | nil => rfl
  | cons name names ih =>
      obtain ⟨first, rest⟩ := not_or.mp (mt List.mem_cons.mpr named)
      have other : name.isEmpty = false := by
        simpa using Ne.symm first
      rw [symbols, other, List.map_cons, ih rest]
      rfl

theorem reads_symbols_of_named {names : List String} (named : "" ∉ names) :
    List.Forall₂ (fun name s => Reads symbol (s.toList ++ ['(']) (.ofName name))
      names (names.map Emit.symbol) := by
  rw [List.forall₂_map_right_iff, List.forall₂_same]
  intro name member
  have other : name ≠ "" := fun same => named (same ▸ member)
  have isName : Symbol.ofName name = .named name.toUTF8.toList := by
    rw [Symbol.ofName, if_neg (by simpa using other)]
  exact isName ▸ reads_symbol_of_name other

/-- The symbols of names are read as these, if only one name is empty. -/
theorem reads_symbols {names : List String} (apart : names.Pairwise fun a b => a = "" → b ≠ "") :
    List.Forall₂ (fun name s => Reads symbol (s.toList ++ ['(']) (.ofName name))
      names (symbols 0 names) := by
  induction apart with
  | nil => exact .nil
  | @cons name names head tail ih =>
      rw [symbols]
      split
      · rename_i empty
        obtain rfl : name = "" := by simpa using empty
        have named : "" ∉ names := fun member => head "" member rfl rfl
        rw [symbols_of_named named]
        exact .cons reads_symbol_unnamed (reads_symbols_of_named named)
      · rename_i other
        have isName : Symbol.ofName name = .named name.toUTF8.toList := if_neg other
        exact .cons (isName ▸ reads_symbol_of_name (by simpa using other)) ih

/-! ### Declarations -/

/-- The parameters of a declaration from a number on. -/
def paramList (index count : Nat) : String :=
  Text.commaList ((List.range' index count).map fun i => "i8* %" ++ Text.ofNat i)

/-- One more parameter. -/
theorem toList_paramList_succ (index count : Nat) : (paramList index (count + 2)).toList =
    ("i8* %" ++ Text.ofNat index).toList ++
      (',' :: ' ' :: (paramList (index + 1) (count + 1)).toList) := by
  have text : paramList index (count + 2) =
      "i8* %" ++ Text.ofNat index ++ ", " ++ paramList (index + 1) (count + 1) := rfl
  rw [text, String.toList_append, String.toList_append, List.append_assoc]
  rfl

theorem toList_param (index : Nat) : ∃ us, ("i8* %" ++ Text.ofNat index).toList = 'i' :: us := by
  rw [String.toList_append]
  exact ⟨_, rfl⟩

/-- Parameters begin with their type. -/
theorem toList_paramList (index count : Nat) :
    ∃ us, (paramList index (count + 1)).toList = 'i' :: us := by
  obtain ⟨us, begins⟩ := toList_param index
  cases count with
  | zero => exact ⟨us, begins⟩
  | succ count =>
      rw [toList_paramList_succ, begins]
      exact ⟨_, rfl⟩

/-- Parameters are no more than characters. -/
theorem lt_length_paramList (index count : Nat) :
    count < (paramList index (count + 1)).toList.length := by
  induction count generalizing index with
  | zero =>
      obtain ⟨us, begins⟩ := toList_paramList index 0
      rw [begins]
      exact Nat.succ_pos _
  | succ count ih =>
      have rest := ih (index + 1)
      rw [toList_paramList_succ, List.length_append, List.length_cons, List.length_cons]
      omega

/-- Parameters are counted. -/
theorem reads_params (index count : Nat) : ∀ n, count < n →
    Reads (params index n) ((paramList index (count + 1)).toList ++ [')']) (index + count + 1) := by
  induction count generalizing index with
  | zero =>
      intro n steps
      obtain ⟨n, rfl⟩ := Nat.exists_eq_succ_of_ne_zero (Nat.ne_of_gt steps)
      exact (reads_literal _).bind (accept_bind (.pure _))
  | succ count ih =>
      intro n steps
      obtain ⟨n, rfl⟩ := Nat.exists_eq_succ_of_ne_zero (Nat.ne_of_gt (Nat.zero_lt_of_lt steps))
      have rest := ih (index + 1) n (by omega)
      rw [show index + 1 + count + 1 = index + (count + 1) + 1 by omega] at rest
      rw [toList_paramList_succ, List.append_assoc]
      refine (reads_literal _).bind (accept_bind_of_ne ⟨',', _, rfl, ?_⟩
        ((reads_literal ", ").bind rest))
      decide

theorem reads_allParams {arity n : Nat} (steps : arity ≤ n) :
    Reads (allParams n) ((paramList 0 arity).toList ++ [')']) arity := by
  cases arity with
  | zero => exact accept_bind (.pure 0)
  | succ arity =>
      obtain ⟨us, begins⟩ := toList_paramList 0 arity
      have count := reads_params 0 arity n (by omega)
      rw [Nat.zero_add] at count
      exact accept_bind_of_ne ⟨'i', us ++ [')'], by rw [begins]; rfl, by decide⟩ count

theorem toList_declaration (result sym : String) (arity : Nat) :
    (Emit.declaration result sym arity).toList = "declare ".toList ++ ((result.toList ++ [' ']) ++
      ((sym.toList ++ ['(']) ++ ((paramList 0 arity).toList ++ [')']))) := by
  simp [Emit.declaration, paramList, List.range_eq_range']

/-- A declaration has no more parameters than characters. -/
theorem le_length_declaration (result sym : String) (arity : Nat) :
    arity ≤ (Emit.declaration result sym arity).toList.length := by
  rw [toList_declaration]
  cases arity with
  | zero => exact Nat.zero_le _
  | succ arity =>
      have size := lt_length_paramList 0 arity
      simp only [List.length_append]
      omega

/-- A declaration is read. -/
theorem reads_declaration {result sym : String} {s : Symbol} (word : ' ' ∉ result.toList)
    (named : Reads symbol (sym.toList ++ ['(']) s) {arity n : Nat} (steps : arity ≤ n) :
    Reads (declaration n) (Emit.declaration result sym arity).toList ⟨result, s, arity⟩ := by
  rw [toList_declaration]
  refine (reads_literal _).bind ((reads_upTo word).bind (named.bind
    ((reads_allParams steps).map ?_)))
  rw [String.ofList_toList]

/-! ### Texts of declarations -/

/-- The lines of declarations. -/
def declarationLines (lines : List String) : List Char :=
  lines.flatMap fun l => '\n' :: (l.toList ++ ['\n'])

/-- Declarations are read up to the end. -/
theorem run_functions {ls : List String} {ds : List Declared}
    (all : List.Forall₂ (fun l d => ∀ n, l.toList.length ≤ n → Reads (declaration n) l.toList d)
      ls ds) :
    ∀ n, (declarationLines ls).length < n →
      (functions n).run (declarationLines ls) = some (ds, []) := by
  induction all with
  | nil =>
      intro n steps
      obtain ⟨n, rfl⟩ := Nat.exists_eq_succ_of_ne_zero (Nat.ne_of_gt steps)
      rfl
  | @cons l d ls ds head tail ih =>
      intro n steps
      obtain ⟨n, rfl⟩ := Nat.exists_eq_succ_of_ne_zero (Nat.ne_of_gt (Nat.zero_lt_of_lt steps))
      rw [declarationLines, List.flatMap_cons, ← declarationLines] at steps ⊢
      simp only [List.length_append, List.length_cons, List.length_nil] at steps
      have rest := ih n (by omega)
      have text : '\n' :: (l.toList ++ ['\n']) ++ declarationLines ls =
          ['\n'] ++ (l.toList ++ (['\n'] ++ declarationLines ls)) := by
        simp
      rw [text, functions, (reads_accept '\n').run_bind]
      refine ((head n (by omega)).run_bind _).trans (((reads_exact '\n').run_bind _).trans ?_)
      rw [StateT.run_bind, rest]
      rfl

/-- The lines of functions, each with its result and its arity. -/
def functionLines (functions : List (String × String × Nat)) : List String :=
  List.zipWith (fun s f => Emit.declaration f.2.1 s f.2.2) (symbols 0 (functions.map Prod.fst))
    functions

/-- The line of each function is read as its declaration. -/
theorem reads_functionLines {functions : List (String × String × Nat)}
    (words : ∀ f ∈ functions, ' ' ∉ f.2.1.toList)
    (apart : (functions.map Prod.fst).Pairwise fun a b => a = "" → b ≠ "") :
    List.Forall₂ (fun l d => ∀ n, l.toList.length ≤ n → Reads (declaration n) l.toList d)
      (functionLines functions) (functions.map fun f => ⟨f.2.1, .ofName f.1, f.2.2⟩) := by
  have named := List.forall₂_map_left_iff.mp (reads_symbols apart)
  rw [functionLines]
  generalize symbols 0 (functions.map Prod.fst) = syms at named
  clear apart
  induction named with
  | nil => exact .nil
  | @cons f s functions syms head tail ih =>
      obtain ⟨word, words⟩ := List.forall_mem_cons.mp words
      refine .cons (fun n steps => ?_) (ih words)
      exact reads_declaration word head (Nat.le_trans (le_length_declaration ..) steps)

/-- The functions of a program: its kernels, and behind them the entry point. -/
def programFunctions (entry : String) (arity : Nat) (kernels : List (String × Int)) :
    List (String × String × Nat) :=
  kernels.map (fun k => (k.1, "void", k.2.toNat)) ++ [(entry, "i8*", arity)]

theorem toList_declarations (entry : String) (arity : Nat) (kernels : List (String × Int)) :
    (declarations entry arity kernels).toList = "source_filename = \"".toList ++
      ((entry.toUTF8.toList.flatMap escapedByte ++ ['"']) ++
        (['\n'] ++ declarationLines (functionLines (programFunctions entry arity kernels)))) := by
  have name : ("source_filename = " ++ quotedBytes entry).toList = "source_filename = \"".toList ++
      (entry.toUTF8.toList.flatMap escapedByte ++ ['"']) := by
    rw [String.toList_append, toList_quotedBytes]
    rfl
  have lines (ls : List String) :
      (String.join (ls.map fun l => "\n" ++ l ++ "\n")).toList = declarationLines ls := by
    simp [declarationLines, String.toList_join, List.flatMap_map]
  have text : declarations entry arity kernels =
      "source_filename = " ++ quotedBytes entry ++ "\n" ++
        String.join ((functionLines (programFunctions entry arity kernels)).map
          fun l => "\n" ++ l ++ "\n") := rfl
  rw [text, String.toList_append, String.toList_append, name, lines, List.append_assoc,
    List.append_assoc]
  rfl

theorem programFunctions_apart {entry : String} (named : entry ≠ "") (arity : Nat)
    {kernels : List (String × Int)} (once : (kernels.map Prod.fst).Nodup) :
    ((programFunctions entry arity kernels).map Prod.fst).Pairwise fun a b => a = "" → b ≠ "" := by
  have names : (programFunctions entry arity kernels).map Prod.fst =
      kernels.map Prod.fst ++ [entry] := by
    simp [programFunctions]
  rw [names, List.pairwise_append]
  refine ⟨once.imp fun other first second => other (first.trans second.symm),
    List.pairwise_singleton _ _, fun a _ b hb _ => ?_⟩
  rwa [List.mem_singleton.mp hb]

theorem programFunctions_words (entry : String) (arity : Nat) (kernels : List (String × Int)) :
    ∀ f ∈ programFunctions entry arity kernels, ' ' ∉ f.2.1.toList := by
  have void : ' ' ∉ "void".toList := by decide
  have pointer : ' ' ∉ "i8*".toList := by decide
  intro f member
  rcases List.mem_append.mp member with kernel | entry
  · obtain ⟨k, -, rfl⟩ := List.mem_map.mp kernel
    exact void
  · rw [List.mem_singleton.mp entry]
    exact pointer

end Native

/-- What the declarations of a program say of its functions. -/
def declaredFunctions (entry : String) (arity : Nat) (kernels : List (String × Int)) :
    List Declared :=
  (kernels.map fun k => ⟨"void", .ofName k.1, k.2.toNat⟩) ++ [⟨"i8*", .ofName entry, arity⟩]

/-- The declarations of a program are read as its kernels, and behind them its entry point. -/
theorem read?_declarations {entry : String} (named : entry ≠ "") (arity : Nat)
    {kernels : List (String × Int)} (once : (kernels.map Prod.fst).Nodup) :
    Assembly.read? (declarations entry arity kernels) =
      some ⟨entry.toUTF8.toList, declaredFunctions entry arity kernels⟩ := by
  have text := Native.toList_declarations entry arity kernels
  have size := congrArg List.length text
  rw [String.length_toList] at size
  simp only [List.length_append, List.length_cons] at size
  have all := Native.reads_functionLines (Native.programFunctions_words entry arity kernels)
    (Native.programFunctions_apart named arity once)
  have rest := Native.run_functions all (declarations entry arity kernels).length (by omega)
  have declared : ((Native.programFunctions entry arity kernels).map fun f =>
      ⟨f.2.1, .ofName f.1, f.2.2⟩) = declaredFunctions entry arity kernels := by
    simp [Native.programFunctions, declaredFunctions]
  have read : (Native.assembly (declarations entry arity kernels).length).run
      (declarations entry arity kernels).toList =
        some (⟨entry.toUTF8.toList, declaredFunctions entry arity kernels⟩, []) := by
    rw [text, Native.assembly, (Native.reads_literal _).run_bind,
      (Native.reads_quoted _).run_bind, (Reader.reads_exact '\n').run_bind, StateT.run_bind, rest,
      declared]
    rfl
  rw [Assembly.read?, read]

/-- A kernel without a name and one with a blank in its name. -/
example : Assembly.read? (declarations "f" 2 [("", 1), ("a b", 3)]) =
    some ⟨[102], [⟨"void", .unnamed 0, 1⟩, ⟨"void", .named [97, 32, 98], 3⟩,
      ⟨"i8*", .named [102], 2⟩]⟩ := by
  decide +kernel

end TensorCompiler.Emit
