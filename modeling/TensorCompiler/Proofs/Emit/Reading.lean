import TensorCompiler.Emit.Statement
import TensorCompiler.Proofs.Emit.Tokens

/-!
# Reading emitted functions

A reader of the emitted language: it goes through the tokens of a text from left to right and builds
the blocks that the text stands for. It knows nothing of the layout.

Main statement: the lines of a block are read as that block, if its locals are identifiers.

## Implementation notes

Lists and nested blocks are read up to a number of steps. No more are needed than there are tokens,
and the number of tokens is what a reader of a whole text starts with.
-/

namespace TensorCompiler.Emit

open Token (scan Runs IsWord)

/-! ### Readers -/

/-- A reader of the front of a list of symbols: tokens, or characters. -/
abbrev ReaderOf (τ : Type) := StateT (List τ) Option

/-- A reader of the front of some tokens. -/
abbrev Reader := ReaderOf Token

namespace Reader

section

variable {τ : Type} [DecidableEq τ]

/-- Passes over a symbol if it comes next. -/
def accept (t : τ) : ReaderOf τ Bool := fun
  | [] => some (false, [])
  | u :: rest => if u = t then some (true, rest) else some (false, u :: rest)

/-- Passes over one symbol. -/
def exact (t : τ) : ReaderOf τ Unit := do
  if ← accept t then return () else failure

end

/-- Passes over the tokens of a text. -/
def literal (s : String) : Reader Unit :=
  (scan s).forM exact

/-- Reads a word. -/
def word : Reader String := fun
  | .word s :: rest => some (s, rest)
  | _ => none

/-- Reads a quoted text. -/
def text : Reader String := fun
  | .text s :: rest => some (s, rest)
  | _ => none

/-- Reads a numeral. -/
def nat : Reader Nat := do
  let s ← word
  Text.readNat? s.toList

/-- Reads a numeral that may have a sign. -/
def int : Reader Int := do
  if ← accept (.mark '-') then return -((← nat) : Int) else return ((← nat) : Int)

/-- Reads the rest of a list in parentheses, with a comma in front of each item. -/
def more {α : Type} (item : Reader α) : Nat → Reader (List α)
  | 0 => failure
  | n + 1 => do
    if ← accept (.mark ')') then return []
    else
      exact (.mark ',')
      let x ← item
      let xs ← more item n
      return x :: xs

/-- Reads a list up to a closing parenthesis. -/
def list {α : Type} (item : Reader α) (n : Nat) : Reader (List α) := do
  if ← accept (.mark ')') then return []
  else
    let x ← item
    let xs ← more item n
    return x :: xs

/-- Reads an expression that builds a matcher. -/
def matcher : Nat → Reader Matcher
  | 0 => failure
  | n + 1 => do
    literal "aotrt."
    let form ← word
    literal "("
    if form = "Wildcard" then do
      literal ")"
      return .any
    else if form = "Bind" then do
      literal ")"
      return .bind
    else if form = "Ctor" then do
      let tag ← nat
      let fields ← more (matcher n) n
      return .ctor tag fields
    else if form = "TupleOf" then do
      let fields ← list (matcher n) n
      return .tuple fields
    else failure

section

variable (n : Nat) (block : Reader Block)

/-- Reads a clause of a match. -/
def clause : Reader (Matcher × Block) := do
  literal "aotrt.Clause\x7b Pattern:"
  let m ← matcher n
  literal ", Body: func(binds []values.Value) (values.Value, error) \x7b"
  let body ← block
  literal ", \x7d"
  return (m, body)

/-- Reads a calling convention. -/
def spread : Reader Bool := do
  literal "lowered."
  let convention ← word
  if convention = "Spread" then return true
  else if convention = "Flat" then return false
  else failure

/-- Reads the call of a method that may fail. -/
def call : Reader Call := do
  let method ← word
  literal "("
  if method = "Param" then do
    let index ← nat
    literal ")"
    return .param index
  else if method = "Global" then do
    let name ← text
    literal ")"
    return .global name
  else if method = "PackedCall" then do
    let kernel ← text
    literal ","
    let arity ← int
    literal ","
    let isSpread ← spread
    let args ← more word n
    return .packed kernel arity isSpread args
  else if method = "Invoke" then do
    let callee ← word
    let args ← more word n
    return .invoke callee args
  else if method = "If" then do
    let test ← word
    literal ", func() (values.Value, error) \x7b"
    let yes ← block
    literal ", func() (values.Value, error) \x7b"
    let no ← block
    literal ")"
    return .cond test yes no
  else if method = "Field" then do
    let tuple ← word
    literal ","
    let index ← int
    literal ")"
    return .field tuple index
  else if method = "Match" then do
    let data ← word
    let clauses ← more (clause n block) n
    return .cases data clauses
  else if method = "Construct" then do
    let ctor ← text
    literal ","
    let tag ← int
    let args ← more word n
    return .construct ctor tag args
  else failure

/-- Reads the call of a method that only names a value. -/
def value (name : String) : Reader Stmt := do
  let method ← word
  literal "("
  if method = "Tuple" then do
    let fields ← list word n
    return .tuple name fields
  else if method = "Closure" then do
    let arity ← nat
    literal ", func(args []values.Value) (values.Value, error) \x7b"
    let body ← block
    literal ")"
    return .func name arity body
  else failure

/-- Reads where a bound local gets its value, behind the first word. -/
def origin (first : String) : Reader Origin := do
  if ← accept (.mark '[') then
    let index ← nat
    literal "]"
    if first = "args" then return .arg index
    else if first = "binds" then return .bound index
    else failure
  else return .place first

/-- Reads a statement. A failed call is followed by a return of its error, and a bound local is used
at once. -/
def stmt : Reader Stmt := do
  let name ← word
  if ← accept (.mark ',') then do
    literal "err := r."
    let c ← call n block
    literal "if err != nil \x7b return nil, err \x7d"
    return .call name c
  else do
    literal ":="
    let first ← word
    if ← accept (.mark '.') then
      if first = "r" then value n block name else failure
    else do
      let o ← origin first
      literal "_ ="
      exact (.word name)
      return .bind name o

end

/-- Reads statements up to the end of their block. -/
def block : Nat → Reader Block
  | 0 => failure
  | n + 1 => do
    if ← accept (.word "return") then do
      let result ← word
      literal ", nil \x7d"
      return .mk [] result
    else do
      let s ← stmt n (block n)
      let .mk ss result ← block n
      return .mk (s :: ss) result

/-! ### What readers read -/

section

variable {τ α β : Type} {r : ReaderOf τ α} {f : α → ReaderOf τ β} {ts us : List τ} {a : α} {b : β}

/-- A reader reads some symbols as a value, whatever follows them. -/
def Reads (r : ReaderOf τ α) (ts : List τ) (a : α) : Prop :=
  ∀ rest, r.run (ts ++ rest) = some (a, rest)

theorem Reads.pure (a : α) : Reads (pure a : ReaderOf τ α) [] a :=
  fun _ => rfl

/-- What follows a reader runs on what it leaves. -/
theorem Reads.run_bind (h : Reads r ts a) (rest : List τ) :
    (r >>= f).run (ts ++ rest) = (f a).run rest := by
  rw [StateT.run_bind, h]
  rfl

/-- One reader after another. -/
theorem Reads.bind (h : Reads r ts a) (h' : Reads (f a) us b) : Reads (r >>= f) (ts ++ us) b := by
  intro rest
  rw [List.append_assoc, h.run_bind]
  exact h' rest

/-- A reader of one symbol in front of another reader. -/
theorem Reads.cons {t : τ} (h : Reads r [t] a) (h' : Reads (f a) us b) :
    Reads (r >>= f) (t :: us) b :=
  h.bind h'

/-- A reader whose value is used. -/
theorem Reads.map (h : Reads r ts a) {b : β} (same : f a = Pure.pure b) :
    Reads (r >>= f) ts b := by
  have both := h.bind (same ▸ Reads.pure b : Reads (f a) [] b)
  rwa [List.append_nil] at both

variable [DecidableEq τ]

theorem reads_accept (t : τ) : Reads (accept t) [t] true := by
  intro rest
  change accept t (t :: rest) = _
  rw [accept, if_pos rfl]

theorem reads_exact (t : τ) : Reads (exact t) [t] () :=
  (reads_accept t).map rfl

/-- Given symbols are passed over. -/
theorem reads_forM (ts : List τ) : Reads (ts.forM exact) ts () := by
  induction ts with
  | nil => exact .pure ()
  | cons t ts ih => exact (reads_exact t).bind ih

/-- A symbol that does not come next is left there. -/
theorem accept_bind_of_ne {t : τ} {f : Bool → ReaderOf τ β}
    (begins : ∃ u us, ts = u :: us ∧ u ≠ t) (h : Reads (f false) ts b) :
    Reads (accept t >>= f) ts b := by
  obtain ⟨u, us, rfl, other⟩ := begins
  intro rest
  rw [StateT.run_bind]
  change ((accept t (u :: (us ++ rest))).bind fun p => (f p.1).run p.2) = _
  rw [accept, if_neg other]
  exact h rest

/-- A symbol that comes next. -/
theorem accept_bind {t : τ} {f : Bool → ReaderOf τ β} (h : Reads (f true) ts b) :
    Reads (accept t >>= f) (t :: ts) b :=
  (reads_accept t).bind h

end

variable {α β : Type} {r : Reader α} {f : α → Reader β} {ts us : List Token} {a : α} {b : β}

theorem reads_word (s : String) : Reads word [.word s] s :=
  fun _ => rfl

theorem reads_text (s : String) : Reads text [.text s] s :=
  fun _ => rfl

theorem reads_literal (s : String) : Reads (literal s) (scan s) () :=
  reads_forM (scan s)

/-- Numerals are read. -/
theorem reads_nat (n : Nat) : Reads nat [.word (Text.ofNat n)] n := by
  refine (reads_word _).map ?_
  simp only [Text.readNat?_ofNat]
  rfl

/-! ### Tokens of blocks -/

/-- The tokens of the rest of a list, with a comma in front of each item. -/
def moreTokens (items : List (List Token)) : List Token :=
  items.flatMap (.mark ',' :: ·)

/-- The tokens of a list, with a comma between two neighbours. -/
def listTokens : List (List Token) → List Token
  | [] => []
  | ts :: items => ts ++ moreTokens items

/-- Each word as the only token of an item. -/
def wordItems (names : List String) : List (List Token) :=
  names.map fun s => [.word s]

/-- The tokens of the numeral of an integer. -/
def intTokens : Int → List Token
  | .ofNat n => [.word (Text.ofNat n)]
  | .negSucc n => [.mark '-', .word (Text.ofNat (n + 1))]

mutual

/-- The tokens of the expression that builds a matcher. -/
def matcherTokens : Matcher → List Token
  | .any => scan "aotrt." ++ (.word "Wildcard" :: (scan "(" ++ scan ")"))
  | .bind => scan "aotrt." ++ (.word "Bind" :: (scan "(" ++ scan ")"))
  | .ctor tag fields => scan "aotrt." ++ (.word "Ctor" :: (scan "(" ++ (.word (Text.ofNat tag) ::
      (moreTokens (matcherItems fields) ++ [.mark ')']))))
  | .tuple fields => scan "aotrt." ++ (.word "TupleOf" :: (scan "(" ++
      (listTokens (matcherItems fields) ++ [.mark ')'])))

/-- The tokens of several matchers. -/
def matcherItems : List Matcher → List (List Token)
  | [] => []
  | m :: ms => matcherTokens m :: matcherItems ms

end

/-- The tokens in front of the block of a function without parameters. -/
def thunkTokens : List Token :=
  scan ", func() (values.Value, error) \x7b"

/-- The tokens of a calling convention. -/
def spreadTokens (isSpread : Bool) : List Token :=
  scan "lowered." ++ [.word (if isSpread then "Spread" else "Flat")]

mutual

/-- The tokens of a statement. -/
def stmtTokens : Stmt → List Token
  | .call name c => .word name :: .mark ',' :: (scan "err := r." ++ (callTokens c ++
      scan "if err != nil \x7b return nil, err \x7d"))
  | .tuple name fields => .word name :: (scan ":=" ++ (.word "r" :: .mark '.' :: .word "Tuple" ::
      (scan "(" ++ (listTokens (wordItems fields) ++ [.mark ')']))))
  | .func name arity body => .word name :: (scan ":=" ++ (.word "r" :: .mark '.' ::
      .word "Closure" :: (scan "(" ++ (.word (Text.ofNat arity) ::
      (scan ", func(args []values.Value) (values.Value, error) \x7b" ++
      (blockTokens body ++ scan ")"))))))
  | .bind name origin => .word name :: (scan ":=" ++ (originTokens origin ++
      (scan "_ =" ++ [.word name])))

/-- The tokens of the place a bound local gets its value from. -/
def originTokens : Origin → List Token
  | .place name => [.word name]
  | .arg index => .word "args" :: .mark '[' :: .word (Text.ofNat index) :: scan "]"
  | .bound index => .word "binds" :: .mark '[' :: .word (Text.ofNat index) :: scan "]"

/-- The tokens of a call, its method in front. -/
def callTokens : Call → List Token
  | .param index => .word "Param" :: (scan "(" ++ (.word (Text.ofNat index) :: scan ")"))
  | .global name => .word "Global" :: (scan "(" ++ (.text name :: scan ")"))
  | .packed kernel arity isSpread args => .word "PackedCall" :: (scan "(" ++ (.text kernel ::
      (scan "," ++ (intTokens arity ++ (scan "," ++ (spreadTokens isSpread ++
      (moreTokens (wordItems args) ++ [.mark ')'])))))))
  | .invoke callee args => .word "Invoke" :: (scan "(" ++ (.word callee ::
      (moreTokens (wordItems args) ++ [.mark ')'])))
  | .cond test yes no => .word "If" :: (scan "(" ++ (.word test :: (thunkTokens ++
      (blockTokens yes ++ (thunkTokens ++ (blockTokens no ++ scan ")"))))))
  | .field tuple index => .word "Field" :: (scan "(" ++ (.word tuple :: (scan "," ++
      (intTokens index ++ scan ")"))))
  | .cases data clauses => .word "Match" :: (scan "(" ++ (.word data ::
      (moreTokens (clauseItems clauses) ++ [.mark ')'])))
  | .construct ctor tag args => .word "Construct" :: (scan "(" ++ (.text ctor :: (scan "," ++
      (intTokens tag ++ (moreTokens (wordItems args) ++ [.mark ')'])))))

/-- The tokens of clauses. -/
def clauseItems : List (Matcher × Block) → List (List Token)
  | [] => []
  | (m, body) :: rest => (scan "aotrt.Clause\x7b Pattern:" ++ (matcherTokens m ++
      (scan ", Body: func(binds []values.Value) (values.Value, error) \x7b" ++
      (blockTokens body ++ scan ", \x7d")))) :: clauseItems rest

/-- The tokens of a block, the end of the block included. -/
def blockTokens : Block → List Token
  | .mk stmts result => stmtsTokens stmts ++ (.word "return" :: .word result :: scan ", nil \x7d")

/-- The tokens of several statements. -/
def stmtsTokens : List Stmt → List Token
  | [] => []
  | s :: ss => stmtTokens s ++ stmtsTokens ss

end

/-! ### Reading blocks -/

/-- Items that are read one by one. -/
abbrev ReadsItems (item : Reader α) : List (List Token) → List α → Prop :=
  List.Forall₂ (Reads item)

/-- The rest of a list is read. -/
theorem reads_more {item : Reader α} {tss : List (List Token)} {xs : List α} {n : Nat}
    (items : ReadsItems item tss xs) (steps : (moreTokens tss).length < n) :
    Reads (more item n) (moreTokens tss ++ [.mark ')']) xs := by
  induction items generalizing n with
  | nil =>
      cases n with
      | zero => cases steps
      | succ n => exact accept_bind (.pure [])
  | @cons ts x tss xs head tail ih =>
      cases n with
      | zero => cases steps
      | succ n =>
          simp only [moreTokens, List.flatMap_cons, List.cons_append, List.length_cons,
            List.length_append] at steps
          have rest := ih (n := n) (by simp only [moreTokens]; omega)
          have shape : moreTokens (ts :: tss) ++ [.mark ')'] =
              .mark ',' :: (ts ++ (moreTokens tss ++ [.mark ')'])) := by
            simp only [moreTokens, List.flatMap_cons, List.cons_append, List.append_assoc]
          rw [shape]
          refine accept_bind_of_ne ⟨_, _, rfl, by decide⟩ ?_
          exact (reads_exact _).cons (head.bind (rest.map rfl))

/-- A list is read, if no item begins with the parenthesis that closes it. -/
theorem reads_list {item : Reader α} {tss : List (List Token)} {xs : List α} {n : Nat}
    (items : ReadsItems item tss xs) (steps : (listTokens tss).length < n)
    (begins : ∀ ts ∈ tss, ∃ s us, ts = .word s :: us) :
    Reads (list item n) (listTokens tss ++ [.mark ')']) xs := by
  cases items with
  | nil => exact accept_bind (.pure [])
  | @cons ts x tss xs head tail =>
      obtain ⟨s, us, rfl⟩ := begins ts List.mem_cons_self
      rw [listTokens, List.length_append] at steps
      rw [listTokens, List.append_assoc]
      exact accept_bind_of_ne ⟨.word s, _, rfl, by simp⟩
        (head.bind ((reads_more tail (by omega)).map rfl))

/-- Words are read one by one. -/
theorem reads_wordItems (names : List String) : ReadsItems word (wordItems names) names := by
  induction names with
  | nil => exact .nil
  | cons s names ih => exact .cons (reads_word s) ih

theorem begins_wordItems (names : List String) :
    ∀ ts ∈ wordItems names, ∃ s us, ts = Token.word s :: us := by
  intro ts member
  obtain ⟨s, -, rfl⟩ := List.mem_map.mp member
  exact ⟨s, [], rfl⟩

/-- Numerals with a sign are read. -/
theorem reads_int (i : Int) : Reads int (intTokens i) i := by
  cases i with
  | ofNat n => exact accept_bind_of_ne ⟨_, _, rfl, by simp⟩ ((reads_nat n).map rfl)
  | negSucc n => exact accept_bind ((reads_nat (n + 1)).map rfl)

theorem reads_spread (isSpread : Bool) : Reads spread (spreadTokens isSpread) isSpread := by
  refine (reads_literal _).bind ((reads_word _).map ?_)
  cases isSpread <;> rfl

/-- The expression of a matcher begins with a word. -/
theorem begins_matcherTokens (m : Matcher) : ∃ us, matcherTokens m = .word "aotrt" :: us := by
  have package : scan "aotrt." = [.word "aotrt", .mark '.'] := by decide +kernel
  cases m <;> rw [matcherTokens, package] <;> exact ⟨_, rfl⟩

theorem begins_matcherItems (ms : List Matcher) :
    ∀ ts ∈ matcherItems ms, ∃ s us, ts = Token.word s :: us := by
  induction ms with
  | nil => nofun
  | cons m ms ih => exact List.forall_mem_cons.mpr ⟨⟨_, begins_matcherTokens m⟩, ih⟩

/-- Some tokens take a step. -/
theorem exists_step {ts : List Token} {t : Token} {n : Nat} (begins : ∃ us, ts = t :: us)
    (steps : ts.length ≤ n) : ∃ k, n = k + 1 := by
  obtain ⟨us, rfl⟩ := begins
  rw [List.length_cons] at steps
  exact ⟨n - 1, by omega⟩

mutual

/-- A matcher is read. -/
theorem reads_matcher : (m : Matcher) → ∀ n, (matcherTokens m).length ≤ n →
    Reads (matcher n) (matcherTokens m) m
  | .any => by
      intro n steps
      obtain ⟨n, rfl⟩ := exists_step (begins_matcherTokens .any) steps
      rw [matcherTokens, matcher]
      refine (reads_literal _).bind ((reads_word _).cons ((reads_literal _).bind ?_))
      simp only [if_true]
      exact (reads_literal _).map rfl
  | .bind => by
      intro n steps
      obtain ⟨n, rfl⟩ := exists_step (begins_matcherTokens .bind) steps
      rw [matcherTokens, matcher]
      refine (reads_literal _).bind ((reads_word _).cons ((reads_literal _).bind ?_))
      simp only [String.reduceEq, if_true, if_false]
      exact (reads_literal _).map rfl
  | .ctor tag fields => by
      intro n steps
      obtain ⟨n, rfl⟩ := exists_step (begins_matcherTokens (.ctor tag fields)) steps
      simp only [matcherTokens, List.length_append, List.length_cons] at steps
      have items := reads_matcherItems fields n (by omega)
      rw [matcherTokens, matcher]
      refine (reads_literal _).bind ((reads_word _).cons ((reads_literal _).bind ?_))
      simp only [String.reduceEq, if_true, if_false]
      exact (reads_nat tag).cons ((reads_more items (by omega)).map rfl)
  | .tuple fields => by
      intro n steps
      obtain ⟨n, rfl⟩ := exists_step (begins_matcherTokens (.tuple fields)) steps
      simp only [matcherTokens, List.length_append, List.length_cons] at steps
      have items : ReadsItems (matcher n) (matcherItems fields) fields := by
        cases fields with
        | nil => exact .nil
        | cons m ms =>
            simp only [matcherItems, listTokens, List.length_append] at steps
            exact .cons (reads_matcher m n (by omega)) (reads_matcherItems ms n (by omega))
      rw [matcherTokens, matcher]
      refine (reads_literal _).bind ((reads_word _).cons ((reads_literal _).bind ?_))
      simp only [String.reduceEq, if_true, if_false]
      exact (reads_list items (by omega) (begins_matcherItems fields)).map rfl

theorem reads_matcherItems : (ms : List Matcher) → ∀ n,
    (moreTokens (matcherItems ms)).length ≤ n → ReadsItems (matcher n) (matcherItems ms) ms
  | [] => fun _ _ => .nil
  | m :: ms => by
      intro n steps
      simp only [matcherItems, moreTokens, List.flatMap_cons, List.length_append,
        List.length_cons] at steps
      refine .cons (reads_matcher m n (by omega)) (reads_matcherItems ms n ?_)
      rw [moreTokens]
      omega

end

/-! ### Reading blocks -/

mutual

/-- The locals that a statement mentions. -/
def stmtNames : Stmt → List String
  | .call name c => name :: callNames c
  | .tuple name fields => name :: fields
  | .func name _ body => name :: blockNames body
  | .bind name (.place source) => [name, source]
  | .bind name (.arg _) | .bind name (.bound _) => [name]

/-- The locals that a call mentions. -/
def callNames : Call → List String
  | .param _ | .global _ => []
  | .packed _ _ _ args | .construct _ _ args => args
  | .invoke callee args => callee :: args
  | .cond test yes no => test :: (blockNames yes ++ blockNames no)
  | .field tuple _ => [tuple]
  | .cases data clauses => data :: clauseNames clauses

/-- The locals that clauses mention. -/
def clauseNames : List (Matcher × Block) → List String
  | [] => []
  | (_, body) :: rest => blockNames body ++ clauseNames rest

/-- The locals that a block mentions. -/
def blockNames : Block → List String
  | .mk stmts result => stmtsNames stmts ++ [result]

/-- The locals that several statements mention. -/
def stmtsNames : List Stmt → List String
  | [] => []
  | s :: ss => stmtNames s ++ stmtsNames ss

end

theorem stmtsNames_append (ss ts : List Stmt) :
    stmtsNames (ss ++ ts) = stmtsNames ss ++ stmtsNames ts := by
  induction ss with
  | nil => rfl
  | cons s ss ih => rw [List.cons_append, stmtsNames, ih, stmtsNames, List.append_assoc]

/-- Names that are identifiers. -/
def Identifiers (names : List String) : Prop :=
  ∀ s ∈ names, Names.isIdentifier s = true

theorem Identifiers.append {xs ys : List String} (h : Identifiers (xs ++ ys)) :
    Identifiers xs ∧ Identifiers ys :=
  List.forall_mem_append.mp h

theorem Identifiers.cons {x : String} {xs : List String} (h : Identifiers (x :: xs)) :
    Names.isIdentifier x = true ∧ Identifiers xs :=
  List.forall_mem_cons.mp h

/-- The rest of a statement that names a value. -/
theorem assign_begins {t : Token} (other : t ≠ .mark ':') :
    ∃ u us, scan ":=" ++ ts = u :: us ∧ u ≠ t := by
  have assign : scan ":=" = [.mark ':', .mark '='] := by decide +kernel
  exact ⟨.mark ':', _, by rw [assign]; rfl, other.symm⟩

/-- What uses a local at once begins with a word. -/
theorem use_begins (c : Char) : ∃ u us, scan "_ =" ++ ts = u :: us ∧ u ≠ .mark c := by
  have use : scan "_ =" = [.word "_", .mark '='] := by decide +kernel
  exact ⟨.word "_", _, by rw [use]; rfl, Token.noConfusion⟩

/-- A local that stands alone is the origin of a bound one. -/
theorem place_bind {first : String} {f : Origin → Reader β}
    (begins : ∃ u us, ts = u :: us ∧ u ≠ .mark '[') (h : Reads (f (.place first)) ts b) :
    Reads (origin first >>= f) ts b := by
  rw [origin, bind_assoc]
  refine accept_bind_of_ne begins ?_
  simpa using h

/-- An element of a list is the origin of a bound local. -/
theorem element_bind {first : String} {o : Origin} {f : Origin → Reader β} {index : Nat}
    (known : (if first = "args" then (pure (.arg index) : Reader Origin)
      else if first = "binds" then pure (.bound index) else failure) = pure o)
    (h : Reads (f o) ts b) :
    Reads (origin first >>= f) (.mark '[' :: .word (Text.ofNat index) :: (scan "]" ++ ts)) b := by
  rw [origin, bind_assoc]
  refine accept_bind ?_
  simp only [if_true, bind_assoc]
  refine (reads_nat index).cons ((reads_literal _).bind ?_)
  rw [known]
  simpa using h

/-- A statement that binds a local is read. -/
theorem reads_bind (n : Nat) (inner : Reader Block) (name : String) (o : Origin) :
    Reads (stmt n inner) (stmtTokens (.bind name o)) (.bind name o) := by
  have used (o : Origin) : Reads
      (do literal "_ ="
          exact (.word name)
          return Stmt.bind name o) (scan "_ =" ++ [.word name]) (.bind name o) :=
    (reads_literal _).bind ((reads_exact _).map rfl)
  rw [stmtTokens, stmt]
  refine (reads_word _).cons (accept_bind_of_ne (assign_begins (by decide)) ?_)
  refine (reads_literal _).bind ?_
  cases o <;> simp only [originTokens, List.cons_append, List.nil_append]
  case place source =>
    refine (reads_word _).cons (accept_bind_of_ne (use_begins '.') ?_)
    exact place_bind (use_begins '[') (used _)
  case arg index =>
    refine (reads_word _).cons (accept_bind_of_ne ⟨.mark '[', _, rfl, by decide⟩ ?_)
    exact element_bind (by simp) (used _)
  case bound index =>
    refine (reads_word _).cons (accept_bind_of_ne ⟨.mark '[', _, rfl, by decide⟩ ?_)
    exact element_bind (by simp) (used _)

/-- A statement begins with the local that it names. -/
theorem begins_stmtTokens (s : Stmt) : ∃ name ∈ stmtNames s, ∃ us,
    stmtTokens s = .word name :: us := by
  cases s with
  | call name c =>
      rw [stmtNames, stmtTokens]
      exact ⟨name, List.mem_cons_self, _, rfl⟩
  | tuple name fields =>
      rw [stmtNames, stmtTokens]
      exact ⟨name, List.mem_cons_self, _, rfl⟩
  | func name arity body =>
      rw [stmtNames, stmtTokens]
      exact ⟨name, List.mem_cons_self, _, rfl⟩
  | bind name o =>
      rw [stmtTokens]
      cases o <;> exact ⟨name, List.mem_cons_self, _, rfl⟩

mutual

/-- A statement is read. -/
theorem reads_stmt : (s : Stmt) → Identifiers (stmtNames s) → ∀ n, (stmtTokens s).length ≤ n →
    Reads (stmt n (block n)) (stmtTokens s) s
  | .call name c => by
      intro names n steps
      simp only [stmtTokens, List.length_append, List.length_cons] at steps
      have inner := reads_call c names.cons.2 n (by omega)
      rw [stmtTokens, stmt]
      exact (reads_word _).cons (accept_bind ((reads_literal _).bind (inner.bind
        ((reads_literal _).map rfl))))
  | .tuple name fields => by
      intro _ n steps
      simp only [stmtTokens, List.length_append, List.length_cons] at steps
      have items := reads_list (n := n) (reads_wordItems fields) (by omega)
        (begins_wordItems fields)
      rw [stmtTokens, stmt]
      refine (reads_word _).cons (accept_bind_of_ne (assign_begins (by decide)) ?_)
      refine (reads_literal _).bind ((reads_word _).cons (accept_bind ?_))
      simp only [if_true, value]
      refine (reads_word _).cons ((reads_literal _).bind ?_)
      simp only [if_true]
      exact items.map rfl
  | .func name arity body => by
      intro names n steps
      simp only [stmtTokens, List.length_append, List.length_cons] at steps
      have inner := reads_block body names.cons.2 n (by omega)
      rw [stmtTokens, stmt]
      refine (reads_word _).cons (accept_bind_of_ne (assign_begins (by decide)) ?_)
      refine (reads_literal _).bind ((reads_word _).cons (accept_bind ?_))
      simp only [if_true, value]
      refine (reads_word _).cons ((reads_literal _).bind ?_)
      simp only [String.reduceEq, if_true, if_false]
      exact (reads_nat arity).cons ((reads_literal _).bind (inner.bind ((reads_literal _).map rfl)))
  | .bind name o => fun _ n _ => reads_bind n (block n) name o

/-- A call is read. -/
theorem reads_call : (c : Call) → Identifiers (callNames c) → ∀ n, (callTokens c).length ≤ n →
    Reads (call n (block n)) (callTokens c) c
  | .param index => by
      intro _ n _
      rw [callTokens, call]
      refine (reads_word _).cons ((reads_literal _).bind ?_)
      simp only [if_true]
      exact (reads_nat index).cons ((reads_literal _).map rfl)
  | .global name => by
      intro _ n _
      rw [callTokens, call]
      refine (reads_word _).cons ((reads_literal _).bind ?_)
      simp only [String.reduceEq, if_true, if_false]
      exact (reads_text name).cons ((reads_literal _).map rfl)
  | .packed kernel arity isSpread args => by
      intro _ n steps
      simp only [callTokens, List.length_append, List.length_cons] at steps
      have operands := reads_more (n := n) (reads_wordItems args) (by omega)
      rw [callTokens, call]
      refine (reads_word _).cons ((reads_literal _).bind ?_)
      simp only [String.reduceEq, if_true, if_false]
      exact (reads_text kernel).cons ((reads_literal _).bind ((reads_int arity).bind
        ((reads_literal _).bind ((reads_spread isSpread).bind (operands.map rfl)))))
  | .invoke callee args => by
      intro _ n steps
      simp only [callTokens, List.length_append, List.length_cons] at steps
      have operands := reads_more (n := n) (reads_wordItems args) (by omega)
      rw [callTokens, call]
      refine (reads_word _).cons ((reads_literal _).bind ?_)
      simp only [String.reduceEq, if_true, if_false]
      exact (reads_word callee).cons (operands.map rfl)
  | .cond test yes no => by
      intro names n steps
      simp only [callTokens, List.length_append, List.length_cons] at steps
      obtain ⟨left, right⟩ := names.cons.2.append
      have first := reads_block yes left n (by omega)
      have second := reads_block no right n (by omega)
      rw [callTokens, call]
      refine (reads_word _).cons ((reads_literal _).bind ?_)
      simp only [String.reduceEq, if_true, if_false]
      exact (reads_word test).cons ((reads_literal _).bind (first.bind ((reads_literal _).bind
        (second.bind ((reads_literal _).map rfl)))))
  | .field tuple index => by
      intro _ n _
      rw [callTokens, call]
      refine (reads_word _).cons ((reads_literal _).bind ?_)
      simp only [String.reduceEq, if_true, if_false]
      exact (reads_word tuple).cons ((reads_literal _).bind ((reads_int index).bind
        ((reads_literal _).map rfl)))
  | .cases data clauses => by
      intro names n steps
      simp only [callTokens, List.length_append, List.length_cons] at steps
      have items := reads_clauses clauses names.cons.2 n (by omega)
      rw [callTokens, call]
      refine (reads_word _).cons ((reads_literal _).bind ?_)
      simp only [String.reduceEq, if_true, if_false]
      exact (reads_word data).cons ((reads_more items (by omega)).map rfl)
  | .construct ctor tag args => by
      intro _ n steps
      simp only [callTokens, List.length_append, List.length_cons] at steps
      have operands := reads_more (n := n) (reads_wordItems args) (by omega)
      rw [callTokens, call]
      refine (reads_word _).cons ((reads_literal _).bind ?_)
      simp only [String.reduceEq, if_true, if_false]
      exact (reads_text ctor).cons ((reads_literal _).bind ((reads_int tag).bind
        (operands.map rfl)))

/-- Clauses are read one by one. -/
theorem reads_clauses : (cs : List (Matcher × Block)) → Identifiers (clauseNames cs) → ∀ n,
    (moreTokens (clauseItems cs)).length ≤ n →
      ReadsItems (clause n (block n)) (clauseItems cs) cs
  | [] => fun _ _ _ => .nil
  | (m, body) :: rest => by
      intro names n steps
      simp only [clauseItems, moreTokens, List.flatMap_cons, List.length_append,
        List.length_cons] at steps
      obtain ⟨left, right⟩ := names.append
      have inner := reads_block body left n (by omega)
      refine .cons ?_ (reads_clauses rest right n (by rw [moreTokens]; omega))
      exact (reads_literal _).bind ((reads_matcher m n (by omega)).bind ((reads_literal _).bind
        (inner.bind ((reads_literal _).map rfl))))

/-- A block is read. -/
theorem reads_block : (b : Block) → Identifiers (blockNames b) → ∀ n,
    (blockTokens b).length ≤ n → Reads (block n) (blockTokens b) b
  | .mk stmts result => by
      intro names n steps
      rw [blockTokens] at steps ⊢
      exact reads_stmts stmts names.append.1 result n steps

/-- Statements are read up to the end of their block. -/
theorem reads_stmts : (ss : List Stmt) → Identifiers (stmtsNames ss) → ∀ result n,
    (stmtsTokens ss ++ (.word "return" :: .word result :: scan ", nil \x7d")).length ≤ n →
      Reads (block n) (stmtsTokens ss ++ (.word "return" :: .word result :: scan ", nil \x7d"))
        (.mk ss result)
  | [] => by
      intro _ result n steps
      obtain ⟨n, rfl⟩ := exists_step ⟨_, rfl⟩ steps
      rw [block]
      exact accept_bind ((reads_word result).cons ((reads_literal _).map rfl))
  | s :: ss => by
      intro names result n steps
      obtain ⟨left, right⟩ := names.append
      obtain ⟨name, mentioned, us, begins⟩ := begins_stmtTokens s
      have local_ : name ≠ "return" := by
        rintro rfl
        have reserved := (Names.isIdentifier_iff.mp (left _ mentioned)).2
        exact reserved (by decide)
      obtain ⟨n, rfl⟩ := exists_step ⟨_, by rw [stmtsTokens, begins]; rfl⟩ steps
      have count := congrArg List.length begins
      simp only [stmtsTokens, List.append_assoc] at steps ⊢
      simp only [List.length_append, List.length_cons] at steps count
      have head := reads_stmt s left n (by omega)
      have tail := reads_stmts ss right result n (by
        simp only [List.length_append, List.length_cons]
        omega)
      rw [block]
      exact accept_bind_of_ne ⟨_, _, by rw [begins]; rfl, by simpa using local_⟩
        (head.bind (tail.map rfl))

end

end Reader
end TensorCompiler.Emit
