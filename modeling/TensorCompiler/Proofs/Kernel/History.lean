import Mathlib.Data.List.Nodup
import Mathlib.Data.List.Sort
import TensorCompiler.Proofs.Lowering.Resolution
import TensorCompiler.Proofs.Names.Supply

/-!
# Histories of registries

A registry serves one request after the other. Each brings a fingerprint, which may be forged, and
a callback that compiles, fails or returns no kernel. That a callback was run is an effect, so a
history keeps a journal in which every run of a callback is written down.

Main statement: after every history the table of builders gives exactly the kernels of the runs that
returned one, each name once; the callback of the next request is run exactly if its name has no
kernel; no kernel that was registered ever changes; a kernel is returned for the encoding it was
compiled for only; and after a request that fails the names, the kernels and the number of
compilations are as before, although its builder stays in the table.

## Implementation notes

The invariant is `BuilderTable.Refines`: the builders that hold a kernel are the entries of a
`Registry`. The two keep them in different orders, since a builder stands where its name was asked
for the first time and an entry where its kernel was compiled.
-/

namespace TensorCompiler

variable {κ : Type}

namespace Registry

/-! ### Names -/

/-- The names are those under which a kernel is found. -/
theorem mem_names (r : Registry κ) {name : String} :
    name ∈ r.names ↔ (r.lookup name).isSome = true := by
  simp [names, lookup, find?, List.mem_mergeSort]

/-- There is one name for each entry. -/
theorem length_names (r : Registry κ) : r.names.length = r.entries.length := by
  simp [names]

/-- The names are in strictly ascending order if no entry has the name of another. -/
theorem pairwise_names (r : Registry κ) (once : (r.entries.map RegistryEntry.name).Nodup) :
    r.names.Pairwise (· < ·) := by
  have sorted := pairwise_mergeSort_names id (by simpa using once)
  simpa [names] using sorted

/-- A kernel that is returned is found for the fingerprint afterwards. -/
theorem find?_of_load {r : Registry κ} {f : Fingerprint}
    {compile : String → Except String (Option κ)} {k : κ} (h : (r.load f compile).1 = .ok k) :
    (r.load f compile).2.find? f.kernelName = some ⟨f.kernelName, f.encoding, k⟩ := by
  rcases r.load_forms f compile with ⟨k', found, served⟩ | ⟨k', free, -, served⟩ | ⟨e, served, -⟩
  · rw [served] at h ⊢
    obtain rfl := Except.ok.inj h
    exact found
  · rw [served] at h ⊢
    obtain rfl := Except.ok.inj h
    exact (Lowering.insert_find? r free f.encoding k').1
  · rw [served] at h
    cases h

/-- A request that fails leaves the registry alone. -/
theorem load_of_error {r : Registry κ} {f : Fingerprint}
    {compile : String → Except String (Option κ)} {e : RegistryError}
    (h : (r.load f compile).1 = .error e) : (r.load f compile).2 = r := by
  rcases r.load_forms f compile with ⟨k, -, served⟩ | ⟨k, -, -, served⟩ | ⟨e', served, -⟩
  · rw [served] at h
    cases h
  · rw [served] at h
    cases h
  · rw [served]

end Registry

namespace BuilderTable

/-! ### Builders -/

variable {t : BuilderTable κ} {r : Registry κ} {name other : String}

/-- The entry for a builder that holds a kernel. -/
def held? (t : BuilderTable κ) (name : String) : Option (RegistryEntry κ) :=
  (t.builder? name).bind fun b => b.kernel.map fun k => ⟨name, b.encoding, k⟩

theorem lookup_eq_held? (t : BuilderTable κ) (name : String) :
    t.lookup name = (t.held? name).map RegistryEntry.kernel := by
  unfold lookup held?
  cases t.builder? name with
  | none => rfl
  | some b => cases h : b.kernel <;> simp [h]

theorem builder?_eq_none_iff :
    t.builder? name = none ↔ name ∉ t.builders.map Prod.fst := by
  simp only [builder?, Option.map_eq_none_iff, List.find?_eq_none, List.mem_map, beq_iff_eq]
  exact ⟨fun h ⟨p, member, same⟩ => h p member same, fun h p member same => h ⟨p, member, same⟩⟩

/-- The builder that is published is the one there was, or an empty one. -/
theorem builder?_publish (t : BuilderTable κ) (name other : String) :
    (t.publish name).builder? other =
      if other = name then some ((t.builder? name).getD ⟨none, ""⟩) else t.builder? other := by
  unfold publish
  cases h : t.builder? name with
  | some b =>
      by_cases same : other = name
      · simp [same, h]
      · simp [same]
  | none =>
      simp only [builder?, Option.map_eq_none_iff] at h
      by_cases same : other = name
      · simp [same, builder?, List.find?_append, h]
      · simp [same, Ne.symm same, builder?, List.find?_append]

/-- Publishing adds no kernel. -/
theorem held?_publish (t : BuilderTable κ) (name other : String) :
    (t.publish name).held? other = t.held? other := by
  unfold held?
  rw [builder?_publish]
  by_cases same : other = name
  · subst same
    cases h : t.builder? other <;> simp
  · simp [same]

/-- The builder that is filled holds the kernel, and the others are as before. -/
theorem builder?_fill {b : Builder κ} (published : t.builder? name = some b)
    (encoding : String) (k : κ) (other : String) :
    (t.fill name encoding k).builder? other =
      if other = name then some ⟨some k, encoding⟩ else t.builder? other := by
  have keys : (fun p : String × Builder κ => p.1 == other) ∘
      (fun p => if p.1 = name then (name, ⟨some k, encoding⟩) else p) = fun p => p.1 == other := by
    funext p
    by_cases same : p.1 = name <;> simp [same]
  simp only [builder?, fill, List.find?_map, keys, Option.map_map]
  by_cases same : other = name
  · subst same
    obtain ⟨p, found, -⟩ := Option.map_eq_some_iff.mp published
    have key : p.1 = other := by simpa using List.find?_some found
    simp [found, key]
  · rw [if_neg same]
    refine Option.map_congr fun p found => ?_
    have key : p.1 = other := by simpa using List.find?_some found
    simp [key, same]

theorem keys_fill (t : BuilderTable κ) (name encoding : String) (k : κ) :
    (t.fill name encoding k).builders.map Prod.fst = t.builders.map Prod.fst := by
  rw [fill, List.map_map]
  refine List.map_congr_left fun p _ => ?_
  by_cases same : p.1 = name <;> simp [same]

theorem nodup_publish (once : (t.builders.map Prod.fst).Nodup) (name : String) :
    ((t.publish name).builders.map Prod.fst).Nodup := by
  unfold publish
  cases h : t.builder? name with
  | some b => exact once
  | none =>
      have fresh := builder?_eq_none_iff.mp h
      simpa using List.nodup_append'.mpr ⟨once, List.nodup_singleton _, by simpa using fresh⟩

/-! ### What the builders come to -/

/-- The builders that hold a kernel are the entries of a registry. -/
structure Refines (t : BuilderTable κ) (r : Registry κ) : Prop where
  held? : ∀ name, t.held? name = r.find? name
  count : t.compilations = r.compilations

theorem refines_empty : (empty : BuilderTable κ).Refines .empty :=
  ⟨fun _ => rfl, rfl⟩

/-- The registry that a table comes to. -/
def registry (t : BuilderTable κ) : Registry κ :=
  ⟨t.builders.filterMap fun p => t.held? p.1, t.compilations⟩

theorem name_of_held? {e : RegistryEntry κ} (h : t.held? name = some e) : e.name = name := by
  obtain ⟨b, -, held⟩ := Option.bind_eq_some_iff.mp h
  obtain ⟨k, -, rfl⟩ := Option.map_eq_some_iff.mp held
  rfl

/-- Every table comes to a registry. -/
theorem refines_registry (t : BuilderTable κ) : t.Refines t.registry := by
  refine ⟨fun name => ?_, rfl⟩
  have listed {e : RegistryEntry κ} (member : e ∈ t.registry.entries) :
      t.held? e.name = some e := by
    obtain ⟨p, -, entry⟩ := List.mem_filterMap.mp member
    rwa [name_of_held? entry]
  cases found : t.registry.find? name with
  | some e =>
      have same : e.name = name := by simpa using List.find?_some found
      exact same ▸ listed (List.mem_of_find?_eq_some found)
  | none =>
      refine Option.eq_none_iff_forall_ne_some.mpr fun e entry => ?_
      obtain ⟨b, published, -⟩ := Option.bind_eq_some_iff.mp entry
      obtain ⟨p, first, -⟩ := Option.map_eq_some_iff.mp published
      have key : p.1 = name := by simpa using List.find?_some first
      have member : e ∈ t.registry.entries :=
        List.mem_filterMap.mpr ⟨p, List.mem_of_find?_eq_some first, key ▸ entry⟩
      exact List.find?_eq_none.mp found e member (by simpa using name_of_held? entry)

theorem Refines.lookup (h : t.Refines r) (name : String) : t.lookup name = r.lookup name := by
  rw [lookup_eq_held?, h.held?, Registry.lookup]

theorem builder?_eq_some_iff (once : (t.builders.map Prod.fst).Nodup) {b : Builder κ} :
    t.builder? name = some b ↔ (name, b) ∈ t.builders := by
  constructor
  · intro h
    obtain ⟨p, found, rfl⟩ := Option.map_eq_some_iff.mp h
    have key : p.1 = name := by simpa using List.find?_some found
    exact key ▸ List.mem_of_find?_eq_some found
  · intro member
    cases h : t.builder? name with
    | none => exact absurd (List.mem_map_of_mem member) (builder?_eq_none_iff.mp h)
    | some b' =>
        obtain ⟨p, found, rfl⟩ := Option.map_eq_some_iff.mp h
        have key : p.1 = name := by simpa using List.find?_some found
        have same := List.inj_on_of_nodup_map once (List.mem_of_find?_eq_some found) member key
        rw [same]

/-- The names are those under which a kernel is found. -/
theorem mem_names (once : (t.builders.map Prod.fst).Nodup) :
    name ∈ t.names ↔ (t.lookup name).isSome = true := by
  simp only [names, List.mem_mergeSort, List.mem_map, List.mem_filter, lookup]
  constructor
  · rintro ⟨⟨_, b⟩, ⟨member, held⟩, rfl⟩
    rw [(builder?_eq_some_iff once).mpr member]
    exact held
  · intro held
    cases h : t.builder? name with
    | none => simp [h] at held
    | some b =>
        rw [h] at held
        exact ⟨(name, b), ⟨(builder?_eq_some_iff once).mp h, held⟩, rfl⟩

/-- The names are in strictly ascending order if no builder has the name of another. -/
theorem pairwise_names (once : (t.builders.map Prod.fst).Nodup) : t.names.Pairwise (· < ·) := by
  have held := once.sublist
    (List.Sublist.map Prod.fst (List.filter_sublist (p := (·.2.kernel.isSome))))
  have sorted := pairwise_mergeSort_names id (by simpa only [List.map_id] using held)
  simpa [names] using sorted

/-- A table and the registry that it comes to have the same names. -/
theorem Refines.names (h : t.Refines r) (once : (t.builders.map Prod.fst).Nodup)
    (entries : (r.entries.map RegistryEntry.name).Nodup) : t.names = r.names :=
  (pairwise_names once).eq_of_mem_iff (r.pairwise_names entries) fun name => by
    rw [mem_names once, r.mem_names, h.lookup]

/-- Publishing an empty builder is not seen from outside. -/
theorem Refines.publish (h : t.Refines r) (name : String) : (t.publish name).Refines r := by
  refine ⟨fun other => (held?_publish t name other).trans (h.held? other), ?_⟩
  rw [← h.count]
  unfold BuilderTable.publish
  cases t.builder? name <;> rfl

/-- Filling a builder that is empty enters its kernel. -/
theorem Refines.fill (h : t.Refines r) {b : Builder κ} (published : t.builder? name = some b)
    (free : r.find? name = none) (encoding : String) (k : κ) :
    (t.fill name encoding k).Refines (r.insert name encoding k) := by
  refine ⟨fun other => ?_, ?_⟩
  · rw [BuilderTable.held?, builder?_fill published]
    by_cases same : other = name
    · subst same
      rw [(Lowering.insert_find? r free encoding k).1, if_pos rfl]
      rfl
    · rw [if_neg same, ← BuilderTable.held?, h.held?]
      simp [Registry.insert, Registry.find?, List.find?_append, Ne.symm same]
  · rw [BuilderTable.fill, h.count, Registry.insert]

/-- What a request comes to: it is answered from the builder of its name, which is published before,
or its kernel is compiled into the builder, or it fails. -/
theorem load_forms (t : BuilderTable κ) (f : Fingerprint)
    (compile : String → Except String (Option κ)) :
    (t.load f compile).2 = t.publish f.kernelName ∨
      ∃ b k, (t.publish f.kernelName).builder? f.kernelName = some b ∧
        (t.load f compile).2 = (t.publish f.kernelName).fill f.kernelName f.encoding k := by
  have published := builder?_publish t f.kernelName f.kernelName
  rw [if_pos rfl] at published
  unfold load loadWith
  generalize (t.builder? f.kernelName).getD ⟨none, ""⟩ = b at published
  obtain ⟨_ | k, encoding⟩ := b
  · simp only [published]
    rcases compile f.kernelName with reason | _ | k
    · exact Or.inl rfl
    · exact Or.inl rfl
    · exact Or.inr ⟨_, k, rfl, rfl⟩
  · simp only [published]
    by_cases same : encoding = f.encoding
    · exact Or.inl (by rw [if_pos same]; rfl)
    · exact Or.inl (by rw [if_neg same]; rfl)

/-- A request is answered alike by the builders and by the registry that they come to. -/
theorem Refines.load (h : t.Refines r) (f : Fingerprint)
    (compile : String → Except String (Option κ)) :
    (t.load f compile).1 = (r.load f compile).1 ∧
      (t.load f compile).2.Refines (r.load f compile).2 := by
  have published := builder?_publish t f.kernelName f.kernelName
  have refined := h.publish f.kernelName
  have entry := refined.held? f.kernelName
  rw [if_pos rfl] at published
  rw [BuilderTable.held?, published, Option.bind_some] at entry
  unfold BuilderTable.load loadWith Registry.load
  generalize (t.builder? f.kernelName).getD ⟨none, ""⟩ = b at published entry
  obtain ⟨_ | k, encoding⟩ := b
  · simp only [published, ← entry, Option.map_none]
    rcases compile f.kernelName with reason | _ | k
    · exact ⟨rfl, refined⟩
    · exact ⟨rfl, refined⟩
    · exact ⟨rfl, refined.fill published entry.symm f.encoding k⟩
  · simp only [published, ← entry, Option.map_some]
    by_cases same : encoding = f.encoding
    · simp only [if_pos same]
      exact ⟨rfl, refined⟩
    · simp only [if_neg same]
      exact ⟨rfl, refined⟩

/-- The builder of a request stays in the table, whatever the request comes to. -/
theorem builder?_load (t : BuilderTable κ) (f : Fingerprint)
    (compile : String → Except String (Option κ)) :
    ((t.load f compile).2.builder? f.kernelName).isSome = true := by
  rcases load_forms t f compile with same | ⟨b, k, published, same⟩
  · rw [same, builder?_publish, if_pos rfl]
    rfl
  · rw [same, builder?_fill published, if_pos rfl]
    rfl

/-- No request publishes a second builder under a name. -/
theorem nodup_load (once : (t.builders.map Prod.fst).Nodup) (f : Fingerprint)
    (compile : String → Except String (Option κ)) :
    ((t.load f compile).2.builders.map Prod.fst).Nodup := by
  rcases load_forms t f compile with same | ⟨b, k, -, same⟩
  · rw [same]
    exact nodup_publish once _
  · rw [same, keys_fill]
    exact nodup_publish once _

end BuilderTable

/-- A request for a kernel: its fingerprint, and the answer that its callback gives for a name. -/
structure Request (κ : Type) where
  fingerprint : Fingerprint
  compile : String → Except String (Option κ)

/-- A run of a callback: the name it was passed, the encoding that was asked for, the answer. -/
structure Attempt (κ : Type) where
  name : String
  encoding : String
  answer : Except String (Option κ)

/-- The entry for a run that returned a kernel. -/
def Attempt.registered? (a : Attempt κ) : Option (RegistryEntry κ) :=
  match a.answer with
  | .ok (some k) => some ⟨a.name, a.encoding, k⟩
  | _ => none

/-- The callback of a request, written down in a journal when it is run. -/
def Request.callback (q : Request κ) (name : String) :
    StateM (List (Attempt κ)) (Except String (Option κ)) := do
  modify (· ++ [⟨name, q.fingerprint.encoding, q.compile name⟩])
  return q.compile name

/-- A table of builders with the runs of callbacks so far. -/
structure History (κ : Type) where
  table : BuilderTable κ
  journal : List (Attempt κ)

namespace History

/-- A new registry. -/
def new : History κ := ⟨.empty, []⟩

/-- Serves a request. -/
def serve (h : History κ) (q : Request κ) : Except RegistryError κ × History κ :=
  let ((answer, table), journal) := (h.table.loadWith q.fingerprint q.callback).run h.journal
  (answer, ⟨table, journal⟩)

/-- Serves requests, one after the other. -/
def serveAll (h : History κ) (qs : List (Request κ)) : History κ :=
  qs.foldl (fun h q => (h.serve q).2) h

/-- The runs of callbacks that a request adds. -/
def runs (h : History κ) (q : Request κ) : List (Attempt κ) :=
  if (h.table.lookup q.fingerprint.kernelName).isNone then
    [⟨q.fingerprint.kernelName, q.fingerprint.encoding, q.compile q.fingerprint.kernelName⟩]
  else []

/-- A request is answered as without a journal, and its callback is run exactly if its name has no
kernel. -/
theorem serve_eq (h : History κ) (q : Request κ) :
    h.serve q = ((h.table.load q.fingerprint q.compile).1,
      ⟨(h.table.load q.fingerprint q.compile).2, h.journal ++ h.runs q⟩) := by
  have published := h.table.builder?_publish q.fingerprint.kernelName q.fingerprint.kernelName
  rw [if_pos rfl] at published
  have held : h.table.lookup q.fingerprint.kernelName =
      ((h.table.builder? q.fingerprint.kernelName).getD ⟨none, ""⟩).kernel := by
    rw [BuilderTable.lookup]
    cases h.table.builder? q.fingerprint.kernelName <;> rfl
  unfold serve runs BuilderTable.load BuilderTable.loadWith
  generalize (h.table.builder? q.fingerprint.kernelName).getD ⟨none, ""⟩ = b at published held
  obtain ⟨_ | k, encoding⟩ := b
  · rcases answer : q.compile q.fingerprint.kernelName with reason | _ | k <;>
      simp only [published, held, Request.callback, answer] <;> rfl
  · simp only [published, held, Option.isNone_some, Bool.false_eq_true, if_false, List.append_nil]
    by_cases same : encoding = q.fingerprint.encoding
    · simp only [if_pos same]
      rfl
    · simp only [if_neg same]
      rfl

/-! ### What every history keeps -/

/-- The builders come to a registry with exactly the kernels of the runs that returned one, in the
order of these runs, which are counted. -/
structure Consistent (h : History κ) (r : Registry κ) : Prop where
  refines : h.table.Refines r
  once : (h.table.builders.map Prod.fst).Nodup
  entries : r.entries = h.journal.filterMap Attempt.registered?
  distinct : (r.entries.map RegistryEntry.name).Nodup
  count : r.compilations = r.entries.length

theorem consistent_new : (new : History κ).Consistent .empty :=
  ⟨BuilderTable.refines_empty, List.nodup_nil, rfl, List.nodup_nil, rfl⟩

variable {h : History κ} {r : Registry κ}

theorem Consistent.runs_of_found (consistent : h.Consistent r) {q : Request κ} {e : RegistryEntry κ}
    (found : r.find? q.fingerprint.kernelName = some e) : h.runs q = [] := by
  simp [runs, consistent.refines.lookup, Registry.lookup, found]

theorem Consistent.runs_of_free (consistent : h.Consistent r) {q : Request κ}
    (free : r.find? q.fingerprint.kernelName = none) :
    h.runs q = [⟨q.fingerprint.kernelName, q.fingerprint.encoding,
      q.compile q.fingerprint.kernelName⟩] := by
  simp [runs, consistent.refines.lookup, Registry.lookup, free]

/-- A request that registers nothing adds no run that returned a kernel. -/
theorem Consistent.runs_refused (consistent : h.Consistent r) {q : Request κ}
    (refused : r.find? q.fingerprint.kernelName = none →
      ∀ k, q.compile q.fingerprint.kernelName ≠ .ok (some k)) :
    (h.runs q).filterMap Attempt.registered? = [] := by
  cases free : r.find? q.fingerprint.kernelName with
  | some e => rw [consistent.runs_of_found free]; rfl
  | none =>
      rw [consistent.runs_of_free free]
      rcases answer : q.compile q.fingerprint.kernelName with reason | _ | k
      · rfl
      · rfl
      · exact absurd answer (refused free k)

/-- A request keeps a history consistent. -/
theorem Consistent.serve (consistent : h.Consistent r) (q : Request κ) :
    (h.serve q).2.Consistent (r.load q.fingerprint q.compile).2 := by
  rw [serve_eq]
  refine ⟨(consistent.refines.load q.fingerprint q.compile).2,
    BuilderTable.nodup_load consistent.once _ _, ?_, ?_, ?_⟩
  · rw [List.filterMap_append, ← consistent.entries]
    rcases r.load_forms q.fingerprint q.compile with
      ⟨k, found, served⟩ | ⟨k, free, compiled, served⟩ | ⟨e, served, refused⟩
    · rw [served, consistent.runs_of_found found, List.filterMap_nil, List.append_nil]
    · rw [served, consistent.runs_of_free free, compiled]
      rfl
    · rw [served, consistent.runs_refused refused, List.append_nil]
  · rcases r.load_forms q.fingerprint q.compile with
      ⟨k, -, served⟩ | ⟨k, free, -, served⟩ | ⟨e, served, -⟩
    · rw [served]
      exact consistent.distinct
    · have fresh : q.fingerprint.kernelName ∉ r.entries.map RegistryEntry.name := by
        simpa [Registry.find?] using free
      rw [served]
      simpa [Registry.insert] using List.nodup_append'.mpr
        ⟨consistent.distinct, List.nodup_singleton _, by simpa using fresh⟩
    · rw [served]
      exact consistent.distinct
  · rcases r.load_forms q.fingerprint q.compile with
      ⟨k, -, served⟩ | ⟨k, -, -, served⟩ | ⟨e, served, -⟩
    · rw [served]
      exact consistent.count
    · rw [served]
      simp [Registry.insert, consistent.count]
    · rw [served]
      exact consistent.count

/-- A request keeps every entry. -/
theorem extends_load (r : Registry κ) (f : Fingerprint)
    (compile : String → Except String (Option κ)) : r.Extends (r.load f compile).2 := by
  rcases r.load_forms f compile with ⟨k, -, served⟩ | ⟨k, free, -, served⟩ | ⟨e, served, -⟩
  · rw [served]
    exact List.prefix_refl _
  · rw [served]
    exact List.prefix_append _ _
  · rw [served]
    exact List.prefix_refl _

/-- Requests keep a history consistent, and every entry. -/
theorem Consistent.serveAll (consistent : h.Consistent r) (qs : List (Request κ)) :
    ∃ r', (h.serveAll qs).Consistent r' ∧ r.Extends r' := by
  induction qs generalizing h r with
  | nil => exact ⟨r, consistent, List.prefix_refl _⟩
  | cons q qs ih =>
      obtain ⟨r', consistent', more⟩ := ih (consistent.serve q)
      exact ⟨r', consistent', List.IsPrefix.trans (extends_load r q.fingerprint q.compile) more⟩

/-- The entry that is found under a name is that of the one run for this name that returned a
kernel. -/
theorem Consistent.run_of_find (consistent : h.Consistent r) {name : String}
    {e : RegistryEntry κ} (found : r.find? name = some e) :
    (∃ a ∈ h.journal, a.registered? = some e) ∧
      ∀ a ∈ h.journal, ∀ e', a.registered? = some e' → e'.name = name → e' = e := by
  have member := List.mem_of_find?_eq_some found
  have same : e.name = name := by simpa using List.find?_some found
  constructor
  · rw [consistent.entries] at member
    exact List.mem_filterMap.mp member
  · intro a ha e' entry name'
    have member' : e' ∈ r.entries := by
      rw [consistent.entries]
      exact List.mem_filterMap.mpr ⟨a, ha, entry⟩
    exact List.inj_on_of_nodup_map consistent.distinct member' member (name'.trans same.symm)

/-- A registry compiles each kernel once and never changes one, whatever it was asked for.

There are as many kernels as runs of callbacks that returned one, and as many names, in strictly
ascending order, those under which a kernel is found. What is found under a name is found in every
later state. The callback of the next request is run exactly if its name has no kernel. A kernel
that is returned is that of the one run for its name that returned one, and this run was for the
encoding that is requested. After a request that fails every name, kernel and count is as before,
although the table has the builder of every request. -/
theorem compiles_once (before : List (Request κ)) :
    let h := new.serveAll before
    (h.table.compilations = h.journal.countP (·.registered?.isSome) ∧
      h.table.compilations = h.table.names.length ∧
      h.table.names.Pairwise (· < ·) ∧
      ∀ name, name ∈ h.table.names ↔ (h.table.lookup name).isSome = true) ∧
    (∀ name k, h.table.lookup name = some k →
      ∀ after, (h.serveAll after).table.lookup name = some k) ∧
    ∀ (q : Request κ) answer next, h.serve q = (answer, next) →
      next.journal = h.journal ++ h.runs q ∧
      (next.table.builder? q.fingerprint.kernelName).isSome = true ∧
      (∀ k, answer = .ok k →
        let e : RegistryEntry κ := ⟨q.fingerprint.kernelName, q.fingerprint.encoding, k⟩
        next.table.lookup e.name = some k ∧ (∃ a ∈ next.journal, a.registered? = some e) ∧
          ∀ a ∈ next.journal, ∀ e', a.registered? = some e' → e'.name = e.name → e' = e) ∧
      ∀ e, answer = .error e → next.table.names = h.table.names ∧
        next.table.compilations = h.table.compilations ∧
        ∀ name, next.table.lookup name = h.table.lookup name := by
  intro h
  obtain ⟨r, consistent, -⟩ := consistent_new.serveAll before
  change h.Consistent r at consistent
  have refines := consistent.refines
  refine ⟨⟨?_, ?_, BuilderTable.pairwise_names consistent.once,
    fun _ => BuilderTable.mem_names consistent.once⟩, ?_, ?_⟩
  · rw [refines.count, consistent.count, consistent.entries, List.length_filterMap_eq_countP]
  · rw [refines.count, refines.names consistent.once consistent.distinct, r.length_names,
      consistent.count]
  · intro name k found after
    obtain ⟨r', consistent', more⟩ := consistent.serveAll after
    rw [refines.lookup] at found
    obtain ⟨e, entry, rfl⟩ := Option.map_eq_some_iff.mp found
    rw [consistent'.refines.lookup, Registry.lookup, more.find? entry]
    rfl
  · intro q answer next served
    have consistent' := consistent.serve q
    have answered := (refines.load q.fingerprint q.compile).1
    rw [serve_eq] at served
    rw [serve_eq, served] at consistent'
    obtain ⟨rfl, rfl⟩ := Prod.mk.inj served
    refine ⟨rfl, h.table.builder?_load q.fingerprint q.compile, ?_, ?_⟩
    · intro k returned
      have entry := Registry.find?_of_load (answered.symm.trans returned)
      obtain ⟨run, once⟩ := consistent'.run_of_find entry
      refine ⟨?_, run, once⟩
      rw [consistent'.refines.lookup, Registry.lookup, entry]
      rfl
    · intro e returned
      have same := Registry.load_of_error (answered.symm.trans returned)
      rw [same] at consistent'
      have refines' := consistent'.refines
      refine ⟨?_, refines'.count.trans refines.count.symm,
        fun name => (refines'.lookup name).trans (refines.lookup name).symm⟩
      exact (refines'.names consistent'.once consistent'.distinct).trans
        (refines.names consistent.once consistent.distinct).symm

end History
end TensorCompiler
