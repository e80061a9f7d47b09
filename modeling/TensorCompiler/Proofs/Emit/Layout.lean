import TensorCompiler.Proofs.Emit.Reading

/-!
# The layout of emitted functions

Main statement: the lines of a block are scanned to the tokens of the block, if its locals are
identifiers. Tabs and line breaks only part the tokens.
-/

namespace TensorCompiler.Emit

open Token Reader

/-! ### Pieces of lines -/

/-- A text that begins with something else than a word, so a word in front of it ends there. -/
def Ends (s : String) : Prop :=
  s.toList.head?.any (fun c => !isWordChar c) = true

instance (s : String) : Decidable (Ends s) :=
  inferInstanceAs (Decidable (_ = true))

/-- A text behind which no token is under way. -/
def Settled (s : String) : Prop :=
  (run .between s.toList).2 = .between

instance (s : String) : Decidable (Settled s) :=
  inferInstanceAs (Decidable (_ = _))

variable {m : Mode} {s t : String} {ts us : List Token}

theorem Ends.append (h : Ends s) (t : String) : Ends (s ++ t) := by
  unfold Ends at h ⊢
  rw [String.toList_append, List.head?_append]
  cases first : s.toList.head? with
  | none =>
      rw [first] at h
      cases h
  | some c =>
      rw [first] at h
      exact h

/-- A settled text is scanned on its own. -/
theorem Settled.runs (h : Settled s) : Runs .between s (scan s) .between := by
  rw [Runs, Prod.ext_iff]
  refine ⟨?_, h⟩
  rw [scan, show (run .between s.toList).2 = _ from h]
  exact (List.append_nil _).symm

/-- A text that is scanned to some tokens in front of everything that ends a word. -/
def Item (s : String) (ts : List Token) : Prop :=
  ∀ t us m, Ends t → Runs .between t us m → Runs .between (s ++ t) (ts ++ us) m

theorem item_word (h : IsWord s) : Item s [.word s] := by
  intro t us m ends runs
  have all := (Runs.word h).append (runs.behind ends)
  rwa [String.ofList_toList] at all

theorem item_of_runs (h : Runs .between s ts .between) : Item s ts :=
  fun _ _ _ _ runs => h.append runs

/-- An item behind a settled text. -/
theorem Token.Runs.item (h : Runs .between s ts .between) (h' : Item t us) :
    Item (s ++ t) (ts ++ us) := by
  intro v vs m ends runs
  rw [String.append_assoc, List.append_assoc]
  exact h.append (h' v vs m ends runs)

/-- Nothing is under way behind an item and what ends a word. -/
theorem Item.runs (h : Item s ts) (ends : Ends t) (h' : Runs .between t us m) :
    Runs .between (s ++ t) (ts ++ us) m :=
  h _ _ _ ends h'

/-- An identifier in front of what ends a word. -/
theorem runs_name (h : Names.isIdentifier s = true) (ends : Ends t) (h' : Runs .between t us m) :
    Runs .between (s ++ t) (.word s :: us) m :=
  (item_word (isWord_of_isIdentifier h)).runs ends h'

theorem item_text (s : String) : Item (Text.quoted s) [.text s] :=
  item_of_runs (.text s)

theorem item_int (i : Int) : Item (Text.ofInt i) (intTokens i) := by
  cases i with
  | ofNat n => exact item_word (isWord_ofNat n)
  | negSucc n =>
      have minus : Runs .between "-" [.mark '-'] .between := by decide +kernel
      intro t us m ends runs
      rw [Text.ofInt, String.append_assoc]
      exact minus.append (item_word (isWord_ofNat (n + 1)) t us m ends runs)

/-- Items with commas between them. -/
theorem item_commaList {items : List String} {tss : List (List Token)}
    (h : List.Forall₂ Item items tss) : Item (Text.commaList items) (listTokens tss) := by
  have comma : Runs .between ", " [.mark ','] .between := by decide +kernel
  induction h with
  | nil => exact fun t us m _ runs => (Runs.nil _).append runs
  | @cons s ts items tss head tail ih =>
      cases tail with
      | nil =>
          rw [listTokens, moreTokens, List.flatMap_nil, List.append_nil]
          exact head
      | @cons s' ts' items tss head' tail =>
          intro t us m ends runs
          have both := head _ _ _ (Ends.append (by decide +kernel : Ends ", ") _)
            (comma.append (ih t us m ends runs))
          have text : Text.commaList (s :: s' :: items) =
              s ++ ", " ++ Text.commaList (s' :: items) := Text.joinWith_cons_cons ..
          rw [text, String.append_assoc, String.append_assoc]
          simpa only [listTokens, moreTokens, List.flatMap_cons, List.append_assoc,
            List.cons_append, List.nil_append] using both

/-- A list in parentheses behind a settled text. -/
theorem runs_list {items : List String} {tss : List (List Token)}
    (head : Runs .between s ts .between) (h : List.Forall₂ Item items tss) :
    Runs .between (s ++ Text.commaList items ++ ")") (ts ++ (listTokens tss ++ [.mark ')']))
      .between := by
  have close : Runs .between ")" [.mark ')'] .between := by decide +kernel
  rw [String.append_assoc]
  exact head.append (item_commaList h _ _ _ (by decide +kernel) close)

theorem items_words {names : List String} (h : Identifiers names) :
    List.Forall₂ Item names (wordItems names) := by
  induction names with
  | nil => exact .nil
  | cons s names ih => exact .cons (item_word (isWord_of_isIdentifier h.cons.1)) (ih h.cons.2)

mutual

/-- The expression of a matcher is scanned to its tokens. -/
theorem runs_matcher : (m : Matcher) →
    Runs .between (Pattern.source m) (matcherTokens m) .between
  | .any => by
      rw [Pattern.source, matcherTokens]
      decide +kernel
  | .bind => by
      rw [Pattern.source, matcherTokens]
      decide +kernel
  | .ctor tag fields => by
      have head : Runs .between "aotrt.Ctor(" (scan "aotrt." ++ .word "Ctor" :: scan "(")
          .between := by
        decide +kernel
      have all := runs_list head (.cons (item_word (isWord_ofNat tag)) (items_matchers fields))
      rw [Pattern.source, matcherTokens]
      simpa only [listTokens, List.append_assoc, List.cons_append, List.nil_append] using all
  | .tuple fields => by
      have head : Runs .between "aotrt.TupleOf(" (scan "aotrt." ++ .word "TupleOf" :: scan "(")
          .between := by
        decide +kernel
      have all := runs_list head (items_matchers fields)
      rw [Pattern.source, matcherTokens]
      simpa only [List.append_assoc, List.cons_append] using all

theorem items_matchers : (ms : List Matcher) →
    List.Forall₂ Item (Pattern.sources ms) (matcherItems ms)
  | [] => .nil
  | m :: ms => .cons (item_of_runs (runs_matcher m)) (items_matchers ms)

end

/-! ### Lines -/

/-- Lines that are scanned to some tokens. -/
def LinesRun (lines : List String) (ts : List Token) : Prop :=
  run .between (lines.flatMap fun l => (l ++ "\n").toList) = (ts, .between)

instance (lines : List String) (ts : List Token) : Decidable (LinesRun lines ts) :=
  inferInstanceAs (Decidable (_ = _))

variable {ls ls' : List String}

theorem LinesRun.nil : LinesRun [] [] := rfl

theorem LinesRun.append (h : LinesRun ls ts) (h' : LinesRun ls' us) :
    LinesRun (ls ++ ls') (ts ++ us) := by
  rw [LinesRun, List.flatMap_append, run_append, show run .between _ = _ from h,
    show run .between _ = _ from h']

/-- A line at any depth in front of others. -/
theorem LinesRun.cons (depth : Nat) (head : Runs .between (s ++ "\n") ts .between)
    (tail : LinesRun ls us) : LinesRun (line depth s :: ls) (ts ++ us) := by
  have tab : step .between '\t' = ([], .between) := by decide +kernel
  have tabs : run .between (List.replicate depth '\t') = ([], .between) := by
    induction depth with
    | zero => rfl
    | succ depth ih => simp only [List.replicate_succ, run, tab, ih, List.nil_append]
  rw [LinesRun, List.flatMap_cons, line, String.append_assoc, String.toList_append,
    String.toList_ofList, List.append_assoc, run_append, tabs]
  rw [run_append, show run .between (s ++ "\n").toList = _ from head,
    show run .between _ = _ from tail]
  rfl

/-- A line that ends with an item. -/
theorem Item.line (h : Item s ts) : Runs .between (s ++ "\n") ts .between := by
  have stop : Runs .between "\n" [] .between := by decide +kernel
  have all := h.runs (by decide +kernel) stop
  rwa [List.append_nil] at all

/-- A line that ends with a mark. -/
theorem runs_line (h : Runs .between s ts .between) : Runs .between (s ++ "\n") ts .between :=
  (item_of_runs h).line

/-- A line of its own. -/
theorem line_run (depth : Nat) (h : Runs .between (s ++ "\n") ts .between) :
    LinesRun [line depth s] ts := by
  have only := LinesRun.cons depth h .nil
  rwa [List.append_nil] at only

/-! ### Calls -/

theorem scan_comma : scan "," = [.mark ','] := by decide +kernel

theorem scan_close : scan ")" = [.mark ')'] := by decide +kernel

/-- The end of a function literal in a call. -/
theorem runs_closeCall : Runs .between ("\x7d)" ++ "\n") (.mark '\x7d' :: scan ")") .between := by
  decide +kernel

/-- The end of a clause in front of others. -/
theorem runs_closeClause : Runs .between ("\x7d," ++ "\n") [.mark '\x7d', .mark ','] .between := by
  decide +kernel

/-- The call of a method on one line. -/
theorem line_method (depth : Nat) {head : String} (method lit : String) {hts : List Token}
    {items : List String} {tss : List (List Token)} (h : Runs .between head hts .between)
    (opening : Runs .between lit (scan "r." ++ .word method :: scan "(") .between)
    (all : List.Forall₂ Item items tss) :
    LinesRun [line depth (head ++ lit ++ Text.commaList items ++ ")")]
      (hts ++ (scan "r." ++ .word method :: (scan "(" ++ (listTokens tss ++ [.mark ')'])))) := by
  have runs := runs_list (h.append opening) all
  simpa only [List.append_assoc, List.cons_append] using line_run depth (runs_line runs)

theorem item_spread (isSpread : Bool) :
    Item (if isSpread then "lowered.Spread" else "lowered.Flat") (spreadTokens isSpread) := by
  have package : Settled "lowered." := by decide +kernel
  have word : IsWord (if isSpread then "Spread" else "Flat") := by
    refine isWord_of_isIdentifier ?_
    cases isSpread <;> decide +kernel
  have parts : (if isSpread then "lowered.Spread" else "lowered.Flat") =
      "lowered." ++ (if isSpread then "Spread" else "Flat") := by
    cases isSpread <;> decide +kernel
  rw [parts, spreadTokens]
  exact package.runs.item (item_word word)

/-- A failed call is followed by a return of its error. -/
theorem lines_guard (depth : Nat) :
    LinesRun (guardLines depth) (scan "if err != nil \x7b return nil, err \x7d") := by
  have test : Settled ("if err != nil \x7b" ++ "\n") := by decide +kernel
  have stop : Settled ("return nil, err" ++ "\n") := by decide +kernel
  have close : Settled ("\x7d" ++ "\n") := by decide +kernel
  have tokens : scan "if err != nil \x7b return nil, err \x7d" =
      scan ("if err != nil \x7b" ++ "\n") ++ (scan ("return nil, err" ++ "\n") ++
        (scan ("\x7d" ++ "\n") ++ [])) := by
    decide +kernel
  rw [tokens]
  exact .cons depth test.runs (.cons (depth + 1) stop.runs (.cons depth close.runs .nil))

/-- The place a bound local gets its value from. -/
theorem item_origin {o : Origin} (names : Identifiers (stmtNames (.bind s o))) :
    Item o.source (originTokens o) := by
  have close : Runs .between "]" (scan "]") .between := Settled.runs (by decide +kernel)
  cases o with
  | place source => exact item_word (isWord_of_isIdentifier (names source (by simp [stmtNames])))
  | arg index =>
      have head : Runs .between "args[" [.word "args", .mark '['] .between := by decide +kernel
      rw [Origin.source, originTokens, String.append_assoc]
      exact item_of_runs
        (head.append ((item_word (isWord_ofNat index)).runs (by decide +kernel) close))
  | bound index =>
      have head : Runs .between "binds[" [.word "binds", .mark '['] .between := by decide +kernel
      rw [Origin.source, originTokens, String.append_assoc]
      exact item_of_runs
        (head.append ((item_word (isWord_ofNat index)).runs (by decide +kernel) close))

/-! ### Blocks -/

/-- The tokens of a block without its end. -/
def openTokens : Block → List Token
  | .mk stmts result =>
    stmtsTokens stmts ++ [.word "return", .word result, .mark ',', .word "nil"]

theorem blockTokens_eq (b : Block) : blockTokens b = openTokens b ++ [.mark '\x7d'] := by
  have last : scan ", nil \x7d" = [.mark ',', .word "nil", .mark '\x7d'] := by decide +kernel
  cases b with
  | mk stmts result => rw [blockTokens, openTokens, last, List.append_assoc]; rfl

/-- A clause behind its first words, in front of what follows it. -/
theorem lines_clause {depth : Nat} {m : Matcher} {body : Block} {tail : List String}
    {tailTokens : List Token} (inner : LinesRun (blockLines (depth + 2) body) (openTokens body))
    (rest : LinesRun tail tailTokens) :
    LinesRun ([line (depth + 1) ("Pattern: " ++ Pattern.source m ++ ","),
        line (depth + 1) ("Body: " ++ funcHead "binds []values.Value")] ++
        blockLines (depth + 2) body ++ line (depth + 1) "\x7d," :: tail)
      (scan "Pattern:" ++ (matcherTokens m ++
        (scan ", Body: func(binds []values.Value) (values.Value, error) \x7b" ++
          (blockTokens body ++ .mark ',' :: tailTokens)))) := by
  have pattern : Runs .between "Pattern: " (scan "Pattern:") .between := by decide +kernel
  have comma : Settled "," := by decide +kernel
  have head : Settled ("Body: " ++ funcHead "binds []values.Value" ++ "\n") := by decide +kernel
  have opening : scan ", Body: func(binds []values.Value) (values.Value, error) \x7b" =
      scan "," ++ scan ("Body: " ++ funcHead "binds []values.Value" ++ "\n") := by decide +kernel
  have first := runs_line ((pattern.append (runs_matcher m)).append comma.runs)
  have lines := LinesRun.cons (depth + 1) first (.cons (depth + 1) head.runs
    (inner.append (.cons (depth + 1) runs_closeClause rest)))
  simpa only [opening, blockTokens_eq, List.append_assoc, List.cons_append, List.nil_append]
    using lines

mutual

/-- A statement is scanned to its tokens. -/
theorem lines_stmt : (s : Stmt) → ∀ depth, Identifiers (stmtNames s) →
    LinesRun (stmtLines depth s) (stmtTokens s)
  | .call name c => by
      intro depth names
      rw [stmtNames] at names
      have result : Settled ", err := " := by decide +kernel
      have tokens : scan ", err := " ++ scan "r." = .mark ',' :: scan "err := r." := by
        decide +kernel
      have head := runs_name names.cons.1 (by decide +kernel) result.runs
      have lines := (lines_call c depth _ _ names.cons.2 head).append (lines_guard depth)
      rw [stmtLines, stmtTokens]
      simpa only [← List.append_assoc, tokens, List.cons_append, List.nil_append] using lines
  | .tuple name fields => by
      intro depth names
      rw [stmtNames] at names
      have make : Runs .between " := r.Tuple("
          (scan ":=" ++ .word "r" :: .mark '.' :: .word "Tuple" :: scan "(") .between := by
        decide +kernel
      have head := runs_name names.cons.1 (by decide +kernel) make
      have run := line_run depth (runs_line (runs_list head (items_words names.cons.2)))
      rw [stmtLines, stmtTokens]
      simpa only [List.append_assoc, List.cons_append, List.nil_append] using run
  | .func name arity body => by
      intro depth names
      rw [stmtNames] at names
      have make : Runs .between " := r.Closure("
          (scan ":=" ++ .word "r" :: .mark '.' :: .word "Closure" :: scan "(") .between := by
        decide +kernel
      have params : Runs .between (", " ++ funcHead "args []values.Value" ++ "\n")
          (scan ", func(args []values.Value) (values.Value, error) \x7b") .between := by
        decide +kernel
      have head := (runs_name names.cons.1 (by decide +kernel) make).append
        ((item_word (isWord_ofNat arity)).runs (by decide +kernel) params)
      simp only [← String.append_assoc] at head
      have lines := LinesRun.cons depth head
        ((lines_block body (depth + 1) names.cons.2).append (line_run depth runs_closeCall))
      rw [stmtLines, stmtTokens]
      simpa only [blockTokens_eq, List.append_assoc, List.cons_append, List.nil_append] using lines
  | .bind name o => by
      intro depth names
      have isName : Names.isIdentifier name = true :=
        names name (by cases o <;> simp [stmtNames])
      have assign : Runs .between " := " (scan ":=") .between := by decide +kernel
      have use : Runs .between "_ = " (scan "_ =") .between := by decide +kernel
      have first := ((runs_name isName (by decide +kernel) assign).item (item_origin names)).line
      have second := (use.item (item_word (isWord_of_isIdentifier isName))).line
      have lines := LinesRun.cons depth first (line_run depth second)
      rw [stmtLines, stmtTokens]
      simpa only [List.append_assoc, List.cons_append, List.nil_append] using lines

/-- A call is scanned to its tokens behind those of its head. -/
theorem lines_call : (c : Call) → ∀ depth head hts, Identifiers (callNames c) →
    Runs .between head hts .between →
    LinesRun (callLines depth head c) (hts ++ (scan "r." ++ callTokens c))
  | .param index => by
      intro depth head hts _ h
      have line := line_method depth "Param" "r.Param(" h
        (by decide +kernel) (.cons (item_word (isWord_ofNat index)) .nil)
      rw [callLines, callTokens, scan_close]
      exact line
  | .global name => by
      intro depth head hts _ h
      have line := line_method depth "Global" "r.Global(" h
        (by decide +kernel) (.cons (item_text name) .nil)
      rw [callLines, callTokens, scan_close]
      exact line
  | .packed kernel arity isSpread args => by
      intro depth head hts names h
      rw [callNames] at names
      have line := line_method depth "PackedCall" "r.PackedCall(" h
        (by decide +kernel) (.cons (item_text kernel) (.cons (item_int arity)
          (.cons (item_spread isSpread) (items_words names))))
      rw [callLines]
      simpa only [callTokens, listTokens, moreTokens, scan_comma, List.flatMap_cons,
        List.append_assoc, List.cons_append, List.nil_append] using line
  | .invoke callee args => by
      intro depth head hts names h
      rw [callNames] at names
      have line := line_method depth "Invoke" "r.Invoke(" h
        (by decide +kernel) (items_words names)
      rw [callLines]
      simpa only [callTokens, listTokens, wordItems, List.map_cons, List.cons_append,
        List.nil_append] using line
  | .cond test yes no => by
      intro depth head hts names h
      rw [callNames] at names
      obtain ⟨left, right⟩ := names.cons.2.append
      have method : Runs .between "r.If(" (scan "r." ++ .word "If" :: scan "(") .between := by
        decide +kernel
      have thunk : Runs .between (", " ++ funcHead "" ++ "\n") thunkTokens .between := by
        decide +kernel
      have second : Runs .between ("\x7d, " ++ funcHead "" ++ "\n")
          (.mark '\x7d' :: thunkTokens) .between := by
        decide +kernel
      have first := (h.append method).append (runs_name names.cons.1 (by decide +kernel) thunk)
      simp only [← String.append_assoc] at first
      have lines := LinesRun.cons depth first
        ((lines_block yes (depth + 1) left).append (.cons depth second
          ((lines_block no (depth + 1) right).append (line_run depth runs_closeCall))))
      rw [callLines, callTokens]
      simpa only [blockTokens_eq, List.append_assoc, List.cons_append, List.nil_append] using lines
  | .field tuple index => by
      intro depth head hts names h
      rw [callNames] at names
      have line := line_method depth "Field" "r.Field(" h
        (by decide +kernel)
        (.cons (item_word (isWord_of_isIdentifier names.cons.1)) (.cons (item_int index) .nil))
      simpa only [callTokens, callLines, Text.commaList, Text.joinWith_cons_cons,
        Text.joinWith_singleton, String.append_assoc, listTokens, moreTokens, scan_comma,
        scan_close, List.flatMap_cons, List.flatMap_nil, List.append_assoc, List.cons_append,
        List.nil_append] using line
  | .cases data [] => by
      intro depth head hts names h
      rw [callNames] at names
      have line := line_method depth "Match" "r.Match(" h
        (by decide +kernel) (.cons (item_word (isWord_of_isIdentifier names.cons.1)) .nil)
      rw [callLines]
      exact line
  | .cases data ((m, body) :: rest) => by
      intro depth head hts names h
      rw [callNames, clauseNames] at names
      obtain ⟨left, right⟩ := names.cons.2.append
      have method : Runs .between "r.Match(" (scan "r." ++ .word "Match" :: scan "(")
          .between := by
        decide +kernel
      have clause : Runs .between (", aotrt.Clause\x7b" ++ "\n")
          (.mark ',' :: scan "aotrt.Clause\x7b") .between := by
        decide +kernel
      have opening : scan "aotrt.Clause\x7b Pattern:" =
          scan "aotrt.Clause\x7b" ++ scan "Pattern:" := by
        decide +kernel
      have last : scan ", \x7d" = [.mark ',', .mark '\x7d'] := by decide +kernel
      have first := (h.append method).append (runs_name names.cons.1 (by decide +kernel) clause)
      simp only [← String.append_assoc] at first
      have lines := LinesRun.cons depth first (lines_clause (m := m)
        (lines_block body (depth + 2) left) (lines_clauses rest depth (depth + 1) right))
      rw [callLines, callTokens]
      simpa only [clauseItems, moreTokens, List.flatMap_cons, opening, last, List.append_assoc,
        List.cons_append, List.nil_append] using lines
  | .construct ctor tag args => by
      intro depth head hts names h
      rw [callNames] at names
      have line := line_method depth "Construct" "r.Construct(" h
        (by decide +kernel) (.cons (item_text ctor) (.cons (item_int tag) (items_words names)))
      rw [callLines]
      simpa only [callTokens, listTokens, moreTokens, scan_comma, List.flatMap_cons,
        List.append_assoc, List.cons_append, List.nil_append] using line

/-- The end of a clause and the clauses behind it are scanned to their tokens. -/
theorem lines_clauses : (cs : List (Matcher × Block)) → ∀ outer depth,
    Identifiers (clauseNames cs) →
      LinesRun (line outer (if cs.isEmpty then "\x7d)" else "\x7d,") :: clauseLines depth cs)
        (.mark '\x7d' :: (moreTokens (clauseItems cs) ++ [.mark ')']))
  | [] => by
      intro outer depth _
      have close := runs_closeCall
      rw [scan_close] at close
      exact line_run outer close
  | (m, body) :: rest => by
      intro outer depth names
      obtain ⟨left, right⟩ := names.append
      have clause : Settled ("aotrt.Clause\x7b" ++ "\n") := by decide +kernel
      have opening : scan "aotrt.Clause\x7b Pattern:" =
          scan ("aotrt.Clause\x7b" ++ "\n") ++ scan "Pattern:" := by
        decide +kernel
      have last : scan ", \x7d" = [.mark ',', .mark '\x7d'] := by decide +kernel
      have lines := LinesRun.cons outer runs_closeClause (.cons depth clause.runs
        (lines_clause (m := m) (lines_block body (depth + 2) left)
          (lines_clauses rest depth depth right)))
      rw [clauseLines]
      simpa only [clauseItems, moreTokens, List.flatMap_cons, opening, last, List.isEmpty_cons,
        Bool.false_eq_true, if_false, List.append_assoc, List.cons_append,
        List.nil_append] using lines

/-- A block is scanned to its tokens without its end. -/
theorem lines_block : (b : Block) → ∀ depth, Identifiers (blockNames b) →
    LinesRun (blockLines depth b) (openTokens b)
  | .mk stmts result => by
      intro depth names
      obtain ⟨left, right⟩ := names.append
      have give : Runs .between "return " [.word "return"] .between := by decide +kernel
      have stop : Runs .between (", nil" ++ "\n") [.mark ',', .word "nil"] .between := by
        decide +kernel
      have last := give.append (runs_name right.cons.1 (by decide +kernel) stop)
      simp only [← String.append_assoc] at last
      exact (lines_stmts stmts depth left).append (line_run depth last)

/-- Several statements are scanned to their tokens. -/
theorem lines_stmts : (ss : List Stmt) → ∀ depth, Identifiers (stmtsNames ss) →
    LinesRun (stmtsLines depth ss) (stmtsTokens ss)
  | [] => fun _ _ => .nil
  | s :: ss => fun depth names =>
      (lines_stmt s depth names.append.1).append (lines_stmts ss depth names.append.2)

end

end TensorCompiler.Emit
