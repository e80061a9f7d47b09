import TensorCompiler.Config.Basic
import TensorCompiler.Proofs.Duration.Reading
import TensorCompiler.Proofs.Outcome
import TensorCompiler.Proofs.Toml.Reading

/-!
# Configurations come back

A configuration that is written and read again is the same configuration. Empty lists and texts are
left out when it is written, and what a document leaves out is read as empty.
-/

namespace TensorCompiler

open Toml

/-! ### Texts of durations -/

theorem plain_append {s t : String} (hs : IsPlainText s) (ht : IsPlainText t) :
    IsPlainText (s ++ t) := by
  intro c member
  rw [String.toList_append] at member
  rcases List.mem_append.mp member with member | member
  · exact hs c member
  · exact ht c member

theorem isPlain_of_isDigit {c : Char} (h : c.isDigit = true) : IsPlain c := by
  obtain ⟨low, high⟩ := Char.isDigit_iff_toNat.mp h
  change 48 ≤ c.toNat at low
  change c.toNat ≤ 57 at high
  exact ⟨by omega, by omega⟩

theorem plain_ofNat (n : Nat) : IsPlainText (Text.ofNat n) :=
  fun _ member => isPlain_of_isDigit (Text.isDigit_of_mem_ofNat member)

namespace Duration

theorem plain_decimal (places n : Nat) : IsPlainText (decimal places n) := by
  have parts : n % 10 ^ places < 10 ^ places := Nat.mod_lt n (Nat.pow_pos (by decide))
  intro c member
  rw [toList_decimal] at member
  rcases List.mem_append.mp member with whole | fraction
  · exact plain_ofNat _ c whole
  · unfold pointed at fraction
    split at fraction
    · cases fraction
    · rcases List.mem_cons.mp fraction with rfl | digit
      · exact ⟨by decide, by decide⟩
      · exact isPlain_of_isDigit ((isFraction_fractionDigits parts).digits c digit)

/-- A number with its unit, unless it is left out. -/
theorem plain_unless (absent : Prop) [Decidable absent] {s : String} (h : IsPlainText s) :
    IsPlainText (if absent then "" else s) := by
  split
  · decide
  · exact h

theorem plain_magnitudeText (n : Nat) : IsPlainText (magnitudeText n) := by
  unfold magnitudeText
  split
  · decide
  split
  · exact plain_append (plain_ofNat n) (by decide)
  split
  · exact plain_append (plain_decimal 3 n) (by decide)
  split
  · exact plain_append (plain_decimal 6 n) (by decide)
  · have hours := plain_unless (n / 60000000000 / 60 = 0)
      (plain_append (plain_ofNat (n / 60000000000 / 60)) (show IsPlainText "h" by decide))
    have minutes := plain_unless (n / 60000000000 = 0)
      (plain_append (plain_ofNat (n / 60000000000 % 60)) (show IsPlainText "m" by decide))
    exact plain_append (plain_append (plain_append hours minutes) (plain_decimal 9 _)) (by decide)

/-- A printed duration may stand between quotes. -/
theorem plain_text (d : Duration) : IsPlainText d.text := by
  refine plain_append ?_ (plain_magnitudeText _)
  split <;> decide

end Duration

namespace Config

/-- A text of printable ASCII characters. -/
def IsPrintable (s : String) : Prop :=
  ∀ c ∈ s.toList, 32 ≤ c.toNat ∧ c.toNat ≤ 126

instance (s : String) : Decidable (IsPrintable s) :=
  decidable_of_iff (s.toList.all fun c => decide (32 ≤ c.toNat ∧ c.toNat ≤ 126))
    (by simp [IsPrintable])

theorem IsPrintable.plain {s : String} (h : IsPrintable s) : IsPlainText s := by
  intro c member
  obtain ⟨low, high⟩ := h c member
  exact ⟨low, by omega⟩

/-- A configuration with a named log level, a positive timeout of less than `2 ^ 63` nanoseconds,
and printable texts. -/
structure Writable (c : Config) : Prop where
  level : c.logLevel ∈ Level.named.map Prod.snd
  positive : 0 < c.build.timeout.nanoseconds
  fits : c.build.timeout.nanoseconds < 9223372036854775808
  command : ∀ word ∈ c.build.command, IsPrintable word
  workDir : IsPrintable c.build.workDir

/-! ### What is written -/

/-- An assignment unless its value is empty. -/
def unlessEmpty (empty : Bool) (e : Assignment) : List Assignment :=
  if empty then [] else [e]

section

variable {c : Config}

theorem plain_levelName (h : c.Writable) : IsPlainText c.logLevel.name := by
  have names : ∀ l ∈ Level.named.map Prod.snd, IsPlainText l.name := by decide
  exact names c.logLevel h.level

/-- The command of a configuration. -/
def commandAssignment (h : c.Writable) : Assignment :=
  ⟨"command", _, _, _, by decide, writes_listText fun w member => (h.command w member).plain⟩

/-- Whether a configuration keeps the source. -/
def keepSourceAssignment (c : Config) : Assignment :=
  ⟨"keep_source", _, _, _, by decide, writes_boolText c.build.keepSource⟩

/-- The timeout of a configuration. -/
def timeoutAssignment (c : Config) : Assignment :=
  ⟨"timeout", _, _, _, by decide, writes_quoted (Duration.plain_text c.build.timeout)⟩

/-- The working directory of a configuration. -/
def workDirAssignment (h : c.Writable) : Assignment :=
  ⟨"work_dir", _, _, _, by decide, writes_quoted h.workDir.plain⟩

/-- The log level of a configuration. -/
def logLevelAssignment (h : c.Writable) : Assignment :=
  ⟨"log_level", _, _, _, by decide, writes_quoted (plain_levelName h)⟩

/-- Whether a configuration shares its registry. -/
def shareRegistryAssignment (c : Config) : Assignment :=
  ⟨"share_registry", _, _, _, by decide, writes_boolText c.shareRegistry⟩

/-- The assignments of the build. -/
def buildAssignments (h : c.Writable) : List Assignment :=
  unlessEmpty c.build.command.isEmpty (commandAssignment h) ++
    ([keepSourceAssignment c, timeoutAssignment c] ++
      unlessEmpty c.build.workDir.isEmpty (workDirAssignment h))

/-- The keys of the build that are written. -/
theorem keys_buildAssignments (h : c.Writable) : (buildAssignments h).map Assignment.key =
    (if c.build.command.isEmpty then [] else ["command"]) ++ (["keep_source", "timeout"] ++
      (if c.build.workDir.isEmpty then [] else ["work_dir"])) := by
  unfold buildAssignments unlessEmpty
  cases c.build.command.isEmpty <;> cases c.build.workDir.isEmpty <;> rfl

/-- How the build is written. -/
def buildSection (h : c.Writable) : Toml.Section where
  name := "build"
  assignments := buildAssignments h
  isKey := by decide
  distinct := by
    rw [keys_buildAssignments]
    cases c.build.command.isEmpty <;> cases c.build.workDir.isEmpty <;> decide

/-- How the compiler is written. -/
def compilerSection (h : c.Writable) : Toml.Section where
  name := "compiler"
  assignments := [logLevelAssignment h, shareRegistryAssignment c]
  isKey := by decide
  distinct := (by decide : ["log_level", "share_registry"].Nodup)

theorem write_eq (h : c.Writable) :
    c.write = String.join ([buildSection h, compilerSection h].map Toml.Section.text) := by
  have build : (buildAssignments h).map (fun e => (e.key, e.text)) =
      (if c.build.command.isEmpty then [] else [("command", listText c.build.command)]) ++
        [("keep_source", boolText c.build.keepSource), ("timeout", quoted c.build.timeout.text)] ++
        (if c.build.workDir.isEmpty then [] else [("work_dir", quoted c.build.workDir)]) := by
    unfold buildAssignments unlessEmpty
    cases c.build.command.isEmpty <;> cases c.build.workDir.isEmpty <;> rfl
  have join (s t : String) : String.join [s, t] = s ++ t := by simp
  rw [List.map_cons, List.map_singleton, join]
  change _ = tableText "build" ((buildAssignments h).map fun e => (e.key, e.text)) ++ _
  rw [build]
  rfl

/-- The table of a configuration. -/
def rootOf (h : c.Writable) : Table :=
  (Table.empty false).fill [("build", .table (buildSection h).table),
    ("compiler", .table (compilerSection h).table)]

theorem read?_write (h : c.Writable) : Toml.read? c.write = some (rootOf h) := by
  rw [write_eq h]
  exact read?_sections (by decide : ["build", "compiler"].Nodup)

/-! ### What is read -/

theorem lookup_assignment {s : Toml.Section} {e : Assignment} (h : e ∈ s.assignments) :
    lookup s.table e.key = some e.value := by
  rw [lookup, Section.get?_assignment h]

/-- A key that is written in neither case has no value. -/
theorem lookup_eq_none {s : Toml.Section} {key : String}
    (small : key ∉ s.assignments.map Assignment.key)
    (large : String.ofList (key.toList.map Char.toUpper) ∉ s.assignments.map Assignment.key) :
    lookup s.table key = none := by
  rw [lookup, Section.get?_eq_none small, Section.get?_eq_none large]

theorem textsOf_command (h : c.Writable) :
    textsOf (buildSection h).table "command" = .ok c.build.command := by
  cases empty : c.build.command.isEmpty with
  | true =>
      have none : lookup (buildSection h).table "command" = none := by
        have keys : (buildSection h).assignments.map Assignment.key = _ := keys_buildAssignments h
        rw [empty] at keys
        apply lookup_eq_none
        · rw [keys]
          cases c.build.workDir.isEmpty <;> decide
        · rw [keys]
          cases c.build.workDir.isEmpty <;> decide
      rw [textsOf, none, List.isEmpty_iff.mp empty]
  | false =>
      have written : commandAssignment h ∈ (buildSection h).assignments := by
        change commandAssignment h ∈ buildAssignments h
        rw [buildAssignments, empty]
        exact List.mem_cons_self
      have found : lookup (buildSection h).table "command" =
          some (.array (c.build.command.map .text)) := lookup_assignment written
      have texts : (c.build.command.map Value.text).mapM text? = some c.build.command := by
        have same := List.mapM_pure (m := Option) (l := c.build.command) (f := id)
        rw [List.map_id] at same
        rw [List.mapM_map]
        exact same
      rw [textsOf, found]
      dsimp only
      rw [texts]

theorem textOf_workDir (h : c.Writable) :
    textOf (buildSection h).table "work_dir" = .ok c.build.workDir := by
  cases empty : c.build.workDir.isEmpty with
  | true =>
      have none : lookup (buildSection h).table "work_dir" = none := by
        have keys : (buildSection h).assignments.map Assignment.key = _ := keys_buildAssignments h
        rw [empty] at keys
        apply lookup_eq_none
        · rw [keys]
          cases c.build.command.isEmpty <;> decide
        · rw [keys]
          cases c.build.command.isEmpty <;> decide
      rw [textOf, none, String.isEmpty_iff.mp empty]
      rfl
  | false =>
      have written : workDirAssignment h ∈ (buildSection h).assignments := by
        change workDirAssignment h ∈ buildAssignments h
        rw [buildAssignments, empty]
        exact List.mem_append_right _ (List.mem_append_right _ List.mem_cons_self)
      have found : lookup (buildSection h).table "work_dir" = some (.text c.build.workDir) :=
        lookup_assignment written
      rw [textOf, found]
      rfl

/-- The document says what the configuration says. -/
theorem document_rootOf (h : c.Writable) :
    document (rootOf h) = .ok ⟨c.logLevel.name, c.shareRegistry, c.build.command,
      c.build.timeout.text, c.build.workDir, c.build.keepSource⟩ := by
  have compiler : tableOf (rootOf h) "compiler" = .ok (compilerSection h).table := rfl
  have build : tableOf (rootOf h) "build" = .ok (buildSection h).table := rfl
  have level : textOf (compilerSection h).table "log_level" = .ok c.logLevel.name := rfl
  have share : boolOf (compilerSection h).table "share_registry" = .ok c.shareRegistry := rfl
  have always {e : Assignment} (member : e ∈ [keepSourceAssignment c, timeoutAssignment c]) :
      lookup (buildSection h).table e.key = some e.value :=
    lookup_assignment (List.mem_append_right _ (List.mem_append_left _ member))
  have timeout : textOf (buildSection h).table "timeout" = .ok c.build.timeout.text := by
    have found : lookup (buildSection h).table "timeout" = some (.text c.build.timeout.text) :=
      always (List.mem_cons_of_mem _ List.mem_cons_self)
    rw [textOf, found]
    rfl
  have keep : boolOf (buildSection h).table "keep_source" = .ok c.build.keepSource := by
    have found : lookup (buildSection h).table "keep_source" = some (.bool c.build.keepSource) :=
      always List.mem_cons_self
    rw [boolOf, found]
  simp only [document, compiler, build, ok_bind, level, share, textsOf_command h, timeout,
    textOf_workDir h, keep]
  rfl

theorem readLevel_name (h : c.Writable) : readLevel c.logLevel.name = .ok c.logLevel := by
  have all : ∀ l ∈ Level.named.map Prod.snd, readLevel l.name = .ok l := by decide
  exact all c.logLevel h.level

theorem readTimeout_text (h : c.Writable) :
    readTimeout c.build.timeout.text = .ok c.build.timeout := by
  have read := Duration.read_text h.positive h.fits
  have nonempty : ¬c.build.timeout.text.isEmpty = true := by
    intro empty
    rw [String.isEmpty_iff.mp empty] at read
    cases read
  have positive : ¬c.build.timeout.nanoseconds ≤ 0 := not_le.mpr h.positive
  rw [readTimeout, if_neg nonempty, read]
  dsimp only
  rw [if_neg positive]

end

/-- A configuration that was written is read as the configuration. -/
theorem read_write {c : Config} (h : c.Writable) : read c.write = .ok c := by
  rw [read, read?_write h]
  dsimp only
  rw [document_rootOf h]
  change (readLevel c.logLevel.name >>= fun _ => _) = _
  rw [readLevel_name h, readTimeout_text h]
  rfl

/-- A command with quotes and backslashes, and a timeout with nine places of a second. -/
theorem quotes_and_fractions_read_back :
    let build : BuildConfig :=
      ⟨["sh", "-c", "echo \"a\\b\"", ""], ⟨61500000001⟩, "out \\ \"x\"", true⟩
    let c : Config := ⟨.debug, true, build⟩
    build.timeout.text = "1m1.500000001s" ∧ c.Writable ∧ read c.write = .ok c := by
  intro build c
  have writable : c.Writable := ⟨by decide, by decide, by decide, by decide, by decide⟩
  exact ⟨by decide, writable, read_write writable⟩

end Config
end TensorCompiler
