import TensorCompiler.Emit.Source
import TensorCompiler.Proofs.Emit.Layout

/-!
# Reading emitted packages

The text of an emitted package says which package it is, what it imports, which constants and
functions it declares, and which functions it registers under which names.

Main statement: the text of a source is read as what it was laid out from.
-/

namespace TensorCompiler.Emit

open Token

/-- A function that a package registers in a runtime. -/
structure Registration where
  name : String
  arity : Nat
  symbol : String
deriving DecidableEq

/-- What the text of an emitted package says. -/
structure Package where
  name : String
  imports : List String
  entry : String
  params : Nat
  kernels : List String
  functions : List Routine
  registrations : List Registration

namespace Reader

/-- Reads items up to a token. -/
def upTo {α : Type} (stop : Token) (item : Reader α) : Nat → Reader (List α)
  | 0 => failure
  | n + 1 => do
    if ← accept stop then return []
    else
      let x ← item
      let xs ← upTo stop item n
      return x :: xs

/-- Reads the name of a kernel in the list of kernels. -/
def kernel : Reader String := do
  let name ← text
  exact (.mark ',')
  return name

/-- Reads the registration of a function. Its failure is returned. -/
def registration : Reader Registration := do
  literal "if err := r.Define("
  let name ← text
  literal ","
  let arity ← nat
  literal ","
  let symbol ← word
  literal "); err != nil \x7b return err \x7d"
  return ⟨name, arity, symbol⟩

/-- Reads functions up to the one that registers them. -/
def functions : Nat → Reader (List Routine × List Registration)
  | 0 => failure
  | n + 1 => do
    literal "func"
    let name ← word
    literal "(r *aotrt.Runtime"
    if ← accept (.mark ',') then do
      literal "args []values.Value) (values.Value, error) \x7b"
      let body ← block n
      let (routines, registrations) ← functions n
      return (⟨name, body⟩ :: routines, registrations)
    else if name = "Register" then do
      literal ") error \x7b"
      let registrations ← upTo (.word "return") registration n
      literal "nil \x7d"
      return ([], registrations)
    else failure

/-- Reads a package. -/
def package (n : Nat) : Reader Package := do
  literal "package"
  let name ← word
  literal "import ("
  let imports ← upTo (.mark ')') text n
  literal "const Entry ="
  let entry ← text
  literal "const NumParams ="
  let params ← nat
  literal "var Kernels = []string\x7b"
  let kernels ← upTo (.mark '\x7d') kernel n
  let (routines, registrations) ← functions n
  return ⟨name, imports, entry, params, kernels, routines, registrations⟩

end Reader

/-- What a text says, if it is that of a package. -/
def Package.read? (s : String) : Option Package :=
  match (Reader.package (scan s).length).run (scan s) with
  | some (p, []) => some p
  | _ => none

/-! ### Tokens of packages -/

open Reader

/-- The tokens of a registration. -/
def registrationTokens (d : Registration) : List Token :=
  scan "if err := r.Define(" ++ (.text d.name :: (scan "," ++ (.word (Text.ofNat d.arity) ::
    (scan "," ++ (.word d.symbol :: scan "); err != nil \x7b return err \x7d")))))

/-- The tokens of functions and of the one that registers them. -/
def functionsTokens (registrations : List Registration) : List Routine → List Token
  | [] => scan "func" ++ (.word "Register" :: (scan "(r *aotrt.Runtime" ++ (scan ") error \x7b" ++
      ((registrations.flatMap registrationTokens ++ [.word "return"]) ++ scan "nil \x7d"))))
  | r :: rs => scan "func" ++ (.word r.name :: (scan "(r *aotrt.Runtime" ++ (.mark ',' ::
      (scan "args []values.Value) (values.Value, error) \x7b" ++
        (blockTokens r.body ++ functionsTokens registrations rs)))))

/-- The tokens of a package. -/
def packageTokens (p : Package) : List Token :=
  scan "package" ++ (.word p.name :: (scan "import (" ++
    ((p.imports.flatMap (fun s => [Token.text s]) ++ [.mark ')']) ++ (scan "const Entry =" ++
      (.text p.entry :: (scan "const NumParams =" ++ (.word (Text.ofNat p.params) ::
        (scan "var Kernels = []string\x7b" ++
          ((p.kernels.flatMap (fun k => [Token.text k, .mark ',']) ++ [.mark '\x7d']) ++
            functionsTokens p.registrations p.functions)))))))))

/-! ### Reading packages -/

variable {α : Type} {ts us : List Token}

/-- Items up to a token are read, if none begins with it. -/
theorem reads_upTo (stop : Token) (item : Reader α) (tokens : α → List Token) {xs : List α}
    (items : ∀ x ∈ xs, Reads item (tokens x) x ∧ ∃ u vs, tokens x = u :: vs ∧ u ≠ stop) {n : Nat}
    (steps : (xs.flatMap tokens).length < n) :
    Reads (upTo stop item n) (xs.flatMap tokens ++ [stop]) xs := by
  induction xs generalizing n with
  | nil =>
      cases n with
      | zero => cases steps
      | succ n => exact accept_bind (.pure [])
  | cons x xs ih =>
      obtain ⟨⟨head, u, vs, begins, other⟩, rest⟩ := List.forall_mem_cons.mp items
      have count := congrArg List.length begins
      cases n with
      | zero => cases steps
      | succ n =>
          simp only [List.flatMap_cons, List.length_append, List.length_cons] at steps count
          have tail := ih rest (n := n) (by omega)
          rw [List.flatMap_cons, List.append_assoc]
          exact accept_bind_of_ne ⟨u, _, by rw [begins]; rfl, other⟩ (head.bind (tail.map rfl))

theorem reads_kernel (k : String) : Reads kernel [.text k, .mark ','] k :=
  (reads_text k).cons ((reads_exact _).map rfl)

theorem reads_registration (d : Registration) :
    Reads registration (registrationTokens d) d :=
  (reads_literal _).bind ((reads_text _).cons ((reads_literal _).bind ((reads_nat _).cons
    ((reads_literal _).bind ((reads_word _).cons ((reads_literal _).map rfl))))))

/-- A registration begins with a test. -/
theorem begins_registration (d : Registration) :
    ∃ u vs, registrationTokens d = u :: vs ∧ u ≠ .word "return" := by
  have begins : scan "if err := r.Define(" = [.word "if", .word "err", .mark ':', .mark '=',
      .word "r", .mark '.', .word "Define", .mark '('] := by
    decide +kernel
  exact ⟨.word "if", _, by rw [registrationTokens, begins]; rfl, by decide⟩

/-- Functions are read up to the one that registers them. -/
theorem reads_functions (registrations : List Registration) {rs : List Routine}
    (names : ∀ r ∈ rs, Identifiers (blockNames r.body)) {n : Nat}
    (steps : (functionsTokens registrations rs).length ≤ n) :
    Reads (functions n) (functionsTokens registrations rs) (rs, registrations) := by
  have func : scan "func" = [.word "func"] := by decide +kernel
  have close : scan ") error \x7b" = [.mark ')', .word "error", .mark '\x7b'] := by
    decide +kernel
  induction rs generalizing n with
  | nil =>
      obtain ⟨n, rfl⟩ := exists_step ⟨_, by rw [functionsTokens, func]; rfl⟩ steps
      simp only [functionsTokens, List.length_append, List.length_cons] at steps
      have items := reads_upTo (.word "return") registration registrationTokens (n := n)
        (fun d (_ : d ∈ registrations) => ⟨reads_registration d, begins_registration d⟩) (by omega)
      refine (reads_literal _).bind ((reads_word _).cons ((reads_literal _).bind ?_))
      refine accept_bind_of_ne ⟨.mark ')', _, by rw [close]; rfl, by decide⟩ ?_
      simp only [Bool.false_eq_true, if_true, if_false]
      exact (reads_literal _).bind (items.bind ((reads_literal _).map rfl))
  | cons r rs ih =>
      obtain ⟨head, tail⟩ := List.forall_mem_cons.mp names
      obtain ⟨n, rfl⟩ := exists_step ⟨_, by rw [functionsTokens, func]; rfl⟩ steps
      simp only [functionsTokens, List.length_append, List.length_cons] at steps
      have body := reads_block r.body head n (by omega)
      have rest := ih tail (n := n) (by omega)
      exact (reads_literal _).bind ((reads_word _).cons ((reads_literal _).bind (accept_bind
        ((reads_literal _).bind (body.bind (rest.map rfl))))))

/-- A package is read. -/
theorem reads_package (p : Package) (names : ∀ r ∈ p.functions, Identifiers (blockNames r.body))
    {n : Nat} (steps : (packageTokens p).length ≤ n) :
    Reads (package n) (packageTokens p) p := by
  simp only [packageTokens, List.length_append, List.length_cons] at steps
  have imports := reads_upTo (.mark ')') text (fun s => [Token.text s]) (n := n)
    (fun s (_ : s ∈ p.imports) => ⟨reads_text s, _, _, rfl, by simp⟩) (by omega)
  have kernels := reads_upTo (.mark '\x7d') kernel (fun k => [Token.text k, .mark ',']) (n := n)
    (fun k (_ : k ∈ p.kernels) => ⟨reads_kernel k, _, _, rfl, by simp⟩) (by omega)
  have functions := reads_functions p.registrations names (n := n) (by omega)
  exact (reads_literal _).bind ((reads_word _).cons ((reads_literal _).bind (imports.bind
    ((reads_literal _).bind ((reads_text _).cons ((reads_literal _).bind ((reads_nat _).cons
      ((reads_literal _).bind (kernels.bind (functions.map rfl))))))))))

/-! ### The layout of packages -/

/-- The text of lines of which the last one is empty. -/
theorem toList_joinWith (ls : List String) :
    (Text.joinWith "\n" (ls ++ [""])).toList = ls.flatMap fun l => (l ++ "\n").toList := by
  induction ls with
  | nil => rfl
  | cons l ls ih =>
      rw [List.flatMap_cons, ← ih]
      cases ls <;> simp [Text.joinWith]

/-- A line without a tab in front of others. -/
theorem LinesRun.line {s : String} {ls : List String} (head : Runs .between (s ++ "\n") ts .between)
    (tail : LinesRun ls us) : LinesRun (s :: ls) (ts ++ us) := by
  have plain : Emit.line 0 s = s := by simp [Emit.line]
  exact plain ▸ LinesRun.cons 0 head tail

/-- The paths a package imports. -/
def importPaths (usesKernels : Bool) : List String :=
  ["github.com/gx-org/aot/api/values"] ++
    (if usesKernels then ["github.com/gx-org/aot/build/lowered"] else []) ++
      ["github.com/gx-org/aot/golang/aotrt"]

/-- The imports are scanned to their tokens. -/
theorem lines_imports (usesKernels : Bool) : LinesRun (importLines usesKernels)
    (scan "import (" ++
      ((importPaths usesKernels).flatMap (fun s => [Token.text s]) ++ [.mark ')'])) := by
  cases usesKernels <;> decide +kernel

/-- The list of kernels is scanned to its tokens. -/
theorem lines_kernels (kernels : List String) : LinesRun (kernelLines kernels)
    (scan "var Kernels = []string\x7b" ++
      (kernels.flatMap (fun k => [Token.text k, .mark ',']) ++ [.mark '\x7d'])) := by
  cases kernels with
  | nil => decide +kernel
  | cons k ks =>
      have head : Runs .between ("var Kernels = []string\x7b" ++ "\n")
          (scan "var Kernels = []string\x7b") .between := by
        decide +kernel
      have close : LinesRun ["\x7d"] [.mark '\x7d'] := by decide +kernel
      have comma : Runs .between "," [.mark ','] .between := by decide +kernel
      have items (names : List String) :
          LinesRun (names.map fun k => Emit.line 1 (Text.quoted k ++ ","))
            (names.flatMap fun k => [.text k, .mark ',']) := by
        induction names with
        | nil => exact .nil
        | cons k names ih => exact .cons 1 (runs_line ((Runs.text k).append comma)) ih
      exact LinesRun.line head ((items (k :: ks)).append close)

/-- A function at the top is scanned to its tokens. -/
theorem lines_routine {r : Routine} (name : Names.isIdentifier r.name = true)
    (names : Identifiers (blockNames r.body)) : LinesRun (r.lines ++ [""])
      (scan "func" ++ (.word r.name :: (scan "(r *aotrt.Runtime" ++ (.mark ',' ::
        (scan "args []values.Value) (values.Value, error) \x7b" ++ blockTokens r.body))))) := by
  have func : Runs .between "func " (scan "func") .between := by decide +kernel
  have params : Runs .between
      ("(r *aotrt.Runtime, args []values.Value) (values.Value, error) \x7b" ++ "\n")
      (scan "(r *aotrt.Runtime" ++
        .mark ',' :: scan "args []values.Value) (values.Value, error) \x7b") .between := by
    decide +kernel
  have close : LinesRun ["\x7d", ""] [.mark '\x7d'] := by decide +kernel
  have head := func.append (runs_name name (by decide +kernel) params)
  simp only [← String.append_assoc] at head
  have lines := LinesRun.line head ((lines_block r.body 1 names).append close)
  rw [Routine.lines]
  simpa only [blockTokens_eq, List.append_assoc, List.cons_append, List.nil_append] using lines

/-- A registration is scanned to its tokens. -/
theorem lines_registration {d : Definition} (symbol : Names.isIdentifier d.symbol = true) :
    LinesRun (registerLines d) (registrationTokens ⟨d.name, d.arity, d.symbol⟩) := by
  have define : Settled "if err := r.Define(" := by decide +kernel
  have stop : Settled ("); err != nil \x7b" ++ "\n") := by decide +kernel
  have give : LinesRun [Emit.line 2 "return err", Emit.line 1 "\x7d"]
      [.word "return", .word "err", .mark '\x7d'] := by
    decide +kernel
  have tokens : scan "); err != nil \x7b return err \x7d" =
      scan ("); err != nil \x7b" ++ "\n") ++ [.word "return", .word "err", .mark '\x7d'] := by
    decide +kernel
  have comma : Runs .between ", " (scan ",") .between := by decide +kernel
  have arity := (item_word (isWord_ofNat d.arity)).runs (t := ", " ++ (d.symbol ++ _))
    (.append (by decide +kernel : Ends ", ") _)
    (comma.append (runs_name symbol (by decide +kernel) stop.runs))
  have head := ((define.runs.append (.text d.name)).append comma).append arity
  simp only [← String.append_assoc] at head
  have lines := LinesRun.cons 1 head give
  rw [registerLines, registrationTokens, tokens]
  simpa only [List.append_assoc, List.cons_append, List.nil_append] using lines

/-! ### Whole packages -/

/-- The lines of a function that registers others are scanned to its tokens. -/
theorem lines_register {defs : List Definition}
    (symbols : ∀ d ∈ defs, Names.isIdentifier d.symbol = true) :
    LinesRun (["// Register defines the functions of the program in a runtime.",
        "func Register(r *aotrt.Runtime) error \x7b"] ++
        defs.flatMap registerLines ++ [Emit.line 1 "return nil", "\x7d"])
      (functionsTokens (defs.map fun d => ⟨d.name, d.arity, d.symbol⟩) []) := by
  have head : LinesRun ["// Register defines the functions of the program in a runtime.",
      "func Register(r *aotrt.Runtime) error \x7b"]
      (scan "func" ++ .word "Register" :: (scan "(r *aotrt.Runtime" ++ scan ") error \x7b")) := by
    decide +kernel
  have close : LinesRun [Emit.line 1 "return nil", "\x7d"] (.word "return" :: scan "nil \x7d") := by
    decide +kernel
  have items : LinesRun (defs.flatMap registerLines)
      ((defs.map fun d => ⟨d.name, d.arity, d.symbol⟩).flatMap registrationTokens) := by
    induction defs with
    | nil => exact .nil
    | cons d defs ih =>
        obtain ⟨first, rest⟩ := List.forall_mem_cons.mp symbols
        exact (lines_registration first).append (ih rest)
  have lines := (head.append items).append close
  rw [functionsTokens]
  simpa only [List.append_assoc, List.cons_append, List.nil_append] using lines

/-- The functions of a package are scanned to their tokens. -/
theorem lines_functions {defs : List Definition} {routines : List Routine}
    (symbols : ∀ d ∈ defs, Names.isIdentifier d.symbol = true)
    (names : ∀ r ∈ routines, Names.isIdentifier r.name = true ∧ Identifiers (blockNames r.body)) :
    LinesRun ((routines.flatMap fun r => r.lines ++ [""]) ++
        (["// Register defines the functions of the program in a runtime.",
          "func Register(r *aotrt.Runtime) error \x7b"] ++
          defs.flatMap registerLines ++ [Emit.line 1 "return nil", "\x7d"]))
      (functionsTokens (defs.map fun d => ⟨d.name, d.arity, d.symbol⟩) routines) := by
  induction routines with
  | nil => exact lines_register symbols
  | cons r routines ih =>
      obtain ⟨⟨name, body⟩, rest⟩ := List.forall_mem_cons.mp names
      have lines := (lines_routine name body).append (ih rest)
      rw [functionsTokens, List.flatMap_cons, List.append_assoc]
      simpa only [List.append_assoc, List.cons_append] using lines

/-- What a source text is laid out from. -/
def packageOf (name entry : String) (params : Nat) (kernels : List String)
    (defs : List Definition) (routines : List Routine) : Package :=
  ⟨name, importPaths (!kernels.isEmpty), entry, params, kernels, routines,
    defs.map fun d => ⟨d.name, d.arity, d.symbol⟩⟩

/-- A package is scanned to its tokens. -/
theorem lines_package {name : String} (entry : String) (params : Nat) (kernels : List String)
    {defs : List Definition} {routines : List Routine} (isName : Names.isIdentifier name = true)
    (symbols : ∀ d ∈ defs, Names.isIdentifier d.symbol = true)
    (names : ∀ r ∈ routines, Names.isIdentifier r.name = true ∧ Identifiers (blockNames r.body)) :
    ∃ ls, sourceLines name entry params kernels defs routines = ls ++ [""] ∧
      LinesRun ls (packageTokens (packageOf name entry params kernels defs routines)) := by
  have comment : LinesRun ["// Code generated by aotc. DO NOT EDIT.", ""] [] := by
    decide +kernel
  have package : Runs .between "package " (scan "package") .between := by decide +kernel
  have about : LinesRun ["", "// Entry is the name of the entry point."] [] := by
    decide +kernel
  have const : Runs .between "const Entry = " (scan "const Entry =") .between := by
    decide +kernel
  have between : LinesRun
      ["", "// NumParams is the number of parameters captured by the program."] [] := by
    decide +kernel
  have number : Runs .between "const NumParams = " (scan "const NumParams =") .between := by
    decide +kernel
  have last : LinesRun ["", "// Kernels called by the program."] [] := by decide +kernel
  have blank : LinesRun [""] [] := by decide +kernel
  have all := comment.append (.line (package.item (item_word
    (isWord_of_isIdentifier isName))).line (blank.append ((lines_imports (!kernels.isEmpty)).append
      (about.append (.line (const.item (item_text entry)).line (between.append
        (.line (number.item (item_word (isWord_ofNat params))).line (last.append
          ((lines_kernels kernels).append (blank.append (lines_functions symbols names)))))))))))
  refine ⟨_, ?_, (congrArg (LinesRun _) ?_).mp all⟩
  · simp only [sourceLines, List.append_assoc, List.cons_append, List.nil_append]
  · rw [packageTokens]
    simp only [packageOf, List.append_assoc, List.cons_append, List.nil_append]

/-- The text of a source is read as what it was laid out from. -/
theorem read?_sourceLines {name entry : String} {params : Nat} {kernels : List String}
    {defs : List Definition} {routines : List Routine} (isName : Names.isIdentifier name = true)
    (symbols : ∀ d ∈ defs, Names.isIdentifier d.symbol = true)
    (names : ∀ r ∈ routines, Names.isIdentifier r.name = true ∧ Identifiers (blockNames r.body)) :
    Package.read? (Text.joinWith "\n" (sourceLines name entry params kernels defs routines)) =
      some (packageOf name entry params kernels defs routines) := by
  obtain ⟨ls, lines, runs⟩ := lines_package entry params kernels isName symbols names
  have tokens : scan (Text.joinWith "\n" (ls ++ [""])) =
      packageTokens (packageOf name entry params kernels defs routines) := by
    refine Runs.scan_eq ?_
    rw [Runs, toList_joinWith]
    exact runs
  have read := reads_package (packageOf name entry params kernels defs routines)
    (fun r hr => (names r hr).2) (Nat.le_refl _) []
  rw [List.append_nil] at read
  rw [lines, Package.read?, tokens, read]

end TensorCompiler.Emit
