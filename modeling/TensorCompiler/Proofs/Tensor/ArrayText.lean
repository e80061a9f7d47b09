import Mathlib.Algebra.Order.Ring.Int
import TensorCompiler.Proofs.Tensor.ElementText
import TensorCompiler.Tensor.Shape

/-!
# Texts of arrays

The text of an array is read back as nested blocks. The reader knows nothing of shapes: it takes
braces, commas, blanks and the characters of elements one by one.

Main statement: the text of an array that fills its axes is read as blocks as deep as the array has
axes, each with as many children as its axis is long, and the elements in them are those of the
array in order. No part that is dealt out to a sub-array reaches behind the elements there are.
-/

namespace TensorCompiler.ArrayText

/-! ### Blocks -/

/-- What a text of an array is read as. -/
inductive Block where
  | element (text : List Char)
  | block (children : List Block)

namespace Block

mutual

/-- The elements of a block from left to right. -/
def elements : Block → List (List Char)
  | .element text => [text]
  | .block children => elementsAll children

/-- The elements of several blocks. -/
def elementsAll : List Block → List (List Char)
  | [] => []
  | b :: bs => elements b ++ elementsAll bs

end

/-- Blocks nested once for each axis, each with as many children as its axis is long, and elements
inside the innermost ones. -/
def HasShape : List Int → Block → Prop
  | [], .element _ => True
  | d :: dims, .block children => (children.length : Int) = d ∧ ∀ b ∈ children, HasShape dims b
  | _, _ => False

end Block

/-! ### Reading -/

/-- What may come next: an item of a block, or what follows one, or more of an element. -/
inductive Place where
  | item
  | behind
  | inside (read : List Char)

/-- A reader: the items of the blocks that are open, innermost block and last item first. The
outermost one stands for the text. -/
structure Reader where
  blocks : List (List Block)
  place : Place

namespace Reader

/-- An item for the innermost block. -/
def add (b : Block) : List (List Block) → Option Reader
  | items :: outer => some ⟨(b :: items) :: outer, .behind⟩
  | [] => none

/-- Ends the element that is being read, if there is one. -/
def finish (r : Reader) : Option Reader :=
  match r.place with
  | .inside read => add (.element read.reverse) r.blocks
  | _ => some r

/-- Opens a block where an item may stand. -/
def enter (r : Reader) : Option Reader :=
  match r.place with
  | .item => some ⟨[] :: r.blocks, .item⟩
  | _ => none

/-- Closes the innermost block. -/
def close (r : Reader) : Option Reader :=
  match r.blocks with
  | items :: outer => add (.block items.reverse) outer
  | [] => none

/-- Goes on to the next item. -/
def next (r : Reader) : Option Reader :=
  match r.place with
  | .behind => some ⟨r.blocks, .item⟩
  | _ => none

/-- Reads a character of an element. -/
def take (r : Reader) (c : Char) : Option Reader :=
  match r.place with
  | .item => some ⟨r.blocks, .inside [c]⟩
  | .inside read => some ⟨r.blocks, .inside (c :: read)⟩
  | .behind => none

/-- Reads a character. -/
def step (r : Reader) (c : Char) : Option Reader :=
  if c = '\x7b' then r.enter
  else if c = '\x7d' then r.finish.bind close
  else if c = ',' then r.finish.bind next
  else if c = ' ' ∨ c = '\t' ∨ c = '\n' then r.finish
  else if isElementChar c then r.take c
  else none

/-- Reads characters. -/
def run (r : Reader) (cs : List Char) : Option Reader :=
  cs.foldlM step r

end Reader

/-- Reads a text that is one item. -/
def read? (text : String) : Option Block :=
  match Reader.run ⟨[[]], .item⟩ text.toList with
  | some ⟨[[b]], .behind⟩ => some b
  | _ => none

/-! ### Parts -/

/-- The elements from one place up to another, if both are among them. -/
def slice? (start stop : Nat) (items : List String) : Option (List String) :=
  if start ≤ stop ∧ stop ≤ items.length then some ((items.drop start).take (stop - start)) else none

/-- The number of elements of a part. -/
def strideOf (d : Int) (items : List String) : Nat :=
  items.length / (max d 1).toNat

/-- The block of an array, unless a part of it is not among the elements. -/
def block? (indent : String) : List Int → List String → Option String
  | [], _ => some ""
  | [d], items => some (block indent [d] items)
  | d :: e :: dims, items =>
    let part? (i : Nat) := slice? (i * strideOf d items) ((i + 1) * strideOf d items) items
    let blocks? := (List.range d.toNat).mapM fun i =>
      (part? i).bind (block? (indent ++ "\t") (e :: dims))
    blocks?.map fun blocks => "\x7b\n" ++ lines indent blocks ++ indent ++ "\x7d"

/-- As many elements as axes have places. -/
structure Fills (dims : List Int) (items : List String) : Prop where
  positive : ∀ d ∈ dims, 0 ≤ d
  count : axesProduct dims = items.length

section

variable {d : Int} {dims : List Int} {items : List String}

/-- The elements are dealt out evenly, a part for each place of the first axis. -/
theorem Fills.stride (h : Fills (d :: dims) items) :
    items.length = d.toNat * strideOf d items ∧ (0 < d → axesProduct dims = strideOf d items) := by
  have first : 0 ≤ d := h.positive d List.mem_cons_self
  have count : d * axesProduct dims = items.length := h.count
  rcases first.lt_or_eq with positive | rfl
  · obtain ⟨n, rfl⟩ := Int.eq_ofNat_of_zero_le first
    have rest : 0 ≤ axesProduct dims := by
      by_contra negative
      have below := Int.mul_neg_of_pos_of_neg positive (not_le.mp negative)
      omega
    obtain ⟨m, product⟩ := Int.eq_ofNat_of_zero_le rest
    rw [product] at count ⊢
    have length : n * m = items.length := by exact_mod_cast count
    have pos : 0 < n := by omega
    have stride : strideOf n items = m := by
      have most : (max (n : Int) 1).toNat = n := by omega
      rw [strideOf, most, ← length, Nat.mul_div_cancel_left m pos]
    rw [stride]
    exact ⟨by simpa using length.symm, fun _ => rfl⟩
  · -- Without places there are no elements, whatever the other axes are.
    have none : items.length = 0 := by omega
    exact ⟨by simp [none], fun positive => absurd positive (lt_irrefl 0)⟩

/-- A part lies among the elements and fills the other axes. -/
theorem Fills.fills_part (h : Fills (d :: dims) items) {i : Nat} (place : i < d.toNat) :
    (i + 1) * strideOf d items ≤ items.length ∧ Fills dims (part (strideOf d items) i items) := by
  obtain ⟨length, product⟩ := h.stride
  have inside : (i + 1) * strideOf d items ≤ items.length := by
    rw [length]
    exact Nat.mul_le_mul_right _ place
  refine ⟨inside, fun e he => h.positive e (List.mem_cons_of_mem d he), ?_⟩
  rw [product (by omega), part, List.length_take, List.length_drop]
  have step : (i + 1) * strideOf d items = i * strideOf d items + strideOf d items :=
    Nat.succ_mul _ _
  omega

/-- The parts up to a place are the elements in front of it. -/
theorem flatten_parts (stride n : Nat) (items : List String) :
    ((List.range n).map fun i => part stride i items).flatten = items.take (n * stride) := by
  induction n with
  | zero => simp
  | succ n ih =>
      rw [List.range_succ, List.map_append, List.flatten_append, ih, List.map_singleton,
        List.flatten_singleton, part, Nat.succ_mul, List.take_add]

/-- All parts together are all elements. -/
theorem Fills.parts (h : Fills (d :: dims) items) :
    ((List.range d.toNat).map fun i => part (strideOf d items) i items).flatten = items := by
  rw [flatten_parts, ← h.stride.1, List.take_length]

end

/-- Steps that all give a result give the list of their results. -/
theorem mapM_eq_some {α β : Type} {f : α → Option β} {g : α → β} {xs : List α}
    (h : ∀ x ∈ xs, f x = some (g x)) : xs.mapM f = some (xs.map g) := by
  induction xs with
  | nil => rfl
  | cons x xs ih =>
      rw [List.mapM_cons, h x List.mem_cons_self, ih fun y hy => h y (List.mem_cons_of_mem x hy)]
      rfl

/-- No part of a block reaches behind the elements there are. -/
theorem block?_eq_some {dims : List Int} {items : List String} (axes : dims ≠ [])
    (h : Fills dims items) (indent : String) :
    block? indent dims items = some (block indent dims items) := by
  induction dims generalizing items indent with
  | nil => exact absurd rfl axes
  | cons d dims ih =>
      cases dims with
      | nil => rfl
      | cons e dims =>
          have parts : ∀ i ∈ List.range d.toNat,
              (slice? (i * strideOf d items) ((i + 1) * strideOf d items) items).bind
                (block? (indent ++ "\t") (e :: dims)) =
              some (block (indent ++ "\t") (e :: dims) (part (strideOf d items) i items)) := by
            intro i place
            obtain ⟨inside, fills⟩ := h.fills_part (List.mem_range.mp place)
            have ordered := Nat.mul_le_mul_right (strideOf d items) (Nat.le_succ i)
            have length : (i + 1) * strideOf d items - i * strideOf d items = strideOf d items := by
              rw [Nat.succ_mul]
              omega
            rw [slice?, if_pos ⟨ordered, inside⟩, length, Option.bind_some]
            exact ih (List.cons_ne_nil e dims) fills _
          exact congrArg (Option.map _) (mapM_eq_some parts)

/-! ### Nested blocks -/

/-- The blocks of an array with at least one axis. -/
def nested : List Int → List String → Block
  | [], _ => .block []
  | [_], items => .block (items.map fun x => .element x.toList)
  | d :: e :: dims, items =>
    .block ((List.range d.toNat).map fun i => nested (e :: dims) (part (strideOf d items) i items))

theorem hasShape_nested {dims : List Int} {items : List String} (axes : dims ≠ [])
    (h : Fills dims items) : (nested dims items).HasShape dims := by
  induction dims generalizing items with
  | nil => exact absurd rfl axes
  | cons d dims ih =>
      cases dims with
      | nil =>
          refine ⟨?_, ?_⟩
          · have count : d * 1 = items.length := h.count
            rw [List.length_map]
            omega
          · intro b member
            obtain ⟨x, -, rfl⟩ := List.mem_map.mp member
            trivial
      | cons e dims =>
          refine ⟨?_, ?_⟩
          · have first : 0 ≤ d := h.positive d List.mem_cons_self
            rw [List.length_map, List.length_range]
            omega
          · intro b member
            obtain ⟨i, place, rfl⟩ := List.mem_map.mp member
            exact ih (List.cons_ne_nil e dims) (h.fills_part (List.mem_range.mp place)).2

theorem elementsAll_eq (bs : List Block) :
    Block.elementsAll bs = (bs.map Block.elements).flatten := by
  induction bs with
  | nil => rfl
  | cons b bs ih => rw [Block.elementsAll, ih, List.map_cons, List.flatten_cons]

theorem elements_nested {dims : List Int} {items : List String} (axes : dims ≠ [])
    (h : Fills dims items) : (nested dims items).elements = items.map String.toList := by
  induction dims generalizing items with
  | nil => exact absurd rfl axes
  | cons d dims ih =>
      cases dims with
      | nil =>
          rw [nested, Block.elements, elementsAll_eq, List.map_map]
          exact List.map_eq_flatMap.symm
      | cons e dims =>
          have parts : ∀ i ∈ List.range d.toNat,
              (nested (e :: dims) (part (strideOf d items) i items)).elements =
                (part (strideOf d items) i items).map String.toList :=
            fun i place =>
              ih (List.cons_ne_nil e dims) (h.fills_part (List.mem_range.mp place)).2
          calc (nested (d :: e :: dims) items).elements
              = ((List.range d.toNat).map fun i =>
                  (part (strideOf d items) i items).map String.toList).flatten := by
                rw [nested, Block.elements, elementsAll_eq, List.map_map]
                exact congrArg List.flatten (List.map_congr_left parts)
            _ = (((List.range d.toNat).map fun i =>
                  part (strideOf d items) i items).flatten).map String.toList := by
                rw [List.map_flatten, List.map_map]
                rfl
            _ = items.map String.toList := by rw [h.parts]

/-! ### Reading texts -/

namespace Reader

theorem run_append (r : Reader) (cs ds : List Char) :
    r.run (cs ++ ds) = (r.run cs).bind (·.run ds) :=
  List.foldlM_append ..

theorem run_cons (r : Reader) (c : Char) (cs : List Char) :
    r.run (c :: cs) = (r.step c).bind (·.run cs) := rfl

/-- Blanks in front of an item are passed over. -/
theorem run_blanks {blocks : List (List Block)} {cs : List Char}
    (blank : ∀ c ∈ cs, c = ' ' ∨ c = '\t' ∨ c = '\n') :
    run ⟨blocks, .item⟩ cs = some ⟨blocks, .item⟩ := by
  induction cs with
  | nil => rfl
  | cons c cs ih =>
      obtain ⟨first, others⟩ := List.forall_mem_cons.mp blank
      have passed : step ⟨blocks, .item⟩ c = some ⟨blocks, .item⟩ := by
        rcases first with rfl | rfl | rfl <;> rfl
      rw [run_cons, passed]
      exact ih others

theorem step_element {r : Reader} {c : Char} (h : isElementChar c = true) :
    r.step c = r.take c := by
  have apart {d : Char} (hd : isElementChar d = false) : c ≠ d := by
    rintro rfl
    rw [h] at hd
    cases hd
  have blank : ¬(c = ' ' ∨ c = '\t' ∨ c = '\n') := by
    rintro (rfl | rfl | rfl) <;> exact absurd h (by decide)
  rw [step, if_neg (apart (by decide)), if_neg (apart (by decide)), if_neg (apart (by decide)),
    if_neg blank, if_pos h]

/-- More characters of an element. -/
theorem run_inside {blocks : List (List Block)} {read cs : List Char}
    (h : ∀ c ∈ cs, isElementChar c = true) :
    run ⟨blocks, .inside read⟩ cs = some ⟨blocks, .inside (cs.reverse ++ read)⟩ := by
  induction cs generalizing read with
  | nil => rfl
  | cons c cs ih =>
      obtain ⟨first, others⟩ := List.forall_mem_cons.mp h
      rw [run_cons, step_element first]
      change run ⟨blocks, .inside (c :: read)⟩ cs = _
      rw [ih others, List.reverse_cons, List.append_assoc, List.singleton_append]

/-- The text of an element where an item may stand. -/
theorem run_element {blocks : List (List Block)} {cs : List Char} (some : cs ≠ [])
    (h : ∀ c ∈ cs, isElementChar c = true) :
    run ⟨blocks, .item⟩ cs = Option.some ⟨blocks, .inside cs.reverse⟩ := by
  cases cs with
  | nil => exact absurd rfl some
  | cons c cs =>
      obtain ⟨first, others⟩ := List.forall_mem_cons.mp h
      rw [run_cons, step_element first]
      change run ⟨blocks, .inside [c]⟩ cs = _
      rw [run_inside others, List.reverse_cons]

end Reader

/-- The texts of elements. -/
def AreElements (items : List String) : Prop :=
  ∀ x ∈ items, x.toList ≠ [] ∧ ∀ c ∈ x.toList, isElementChar c = true

/-- A text that is read as one item, wherever an item may stand. -/
def IsItem (text : String) (b : Block) : Prop :=
  ∀ items outer, Reader.run ⟨items :: outer, .item⟩ text.toList =
    some ⟨(b :: items) :: outer, .behind⟩

namespace Reader

variable {items : List Block} {outer : List (List Block)}

/-- A block is read if what stands between its braces is read as its children. -/
theorem run_braces {text : String} {children : List Block} (place : Place)
    (h : (run ⟨[] :: items :: outer, .item⟩ text.toList).bind finish =
      some ⟨children.reverse :: items :: outer, place⟩) :
    run ⟨items :: outer, .item⟩ ("\x7b" ++ text ++ "\x7d").toList =
      some ⟨(.block children :: items) :: outer, .behind⟩ := by
  have opened : step ⟨items :: outer, .item⟩ '\x7b' = some ⟨[] :: items :: outer, .item⟩ := rfl
  have closed (r : Reader) : r.run ['\x7d'] = r.finish.bind close := by
    change (r.finish.bind close).bind some = _
    exact Option.bind_fun_some _
  calc run ⟨items :: outer, .item⟩ ("\x7b" ++ text ++ "\x7d").toList
      = run ⟨items :: outer, .item⟩ ('\x7b' :: (text.toList ++ ['\x7d'])) := by
        rw [String.toList_append, String.toList_append, List.append_assoc]
        rfl
    _ = ((run ⟨[] :: items :: outer, .item⟩ text.toList).bind finish).bind close := by
        rw [run_cons, opened, Option.bind_some, run_append, Option.bind_assoc]
        exact congrArg _ (funext closed)
    _ = some ⟨(.block children :: items) :: outer, .behind⟩ := by
        rw [h, Option.bind_some]
        simp [close, add]

/-- Elements with commas between them. -/
theorem run_commaList {x : String} {xs : List String} (h : AreElements (x :: xs)) :
    (run ⟨items :: outer, .item⟩ (Text.commaList (x :: xs)).toList).bind finish =
      some ⟨(((x :: xs).map fun y => .element y.toList).reverse ++ items) :: outer, .behind⟩ := by
  induction xs generalizing x items with
  | nil =>
      obtain ⟨nonempty, chars⟩ := h x List.mem_cons_self
      have text : Text.commaList [x] = x := rfl
      rw [text, run_element nonempty chars]
      simp [finish, add]
  | cons y ys ih =>
      obtain ⟨⟨nonempty, chars⟩, others⟩ := List.forall_mem_cons.mp h
      have text : (Text.commaList (x :: y :: ys)).toList =
          x.toList ++ ',' :: ' ' :: (Text.commaList (y :: ys)).toList := by
        rw [Text.commaList, Text.joinWith_cons_cons, String.toList_append, String.toList_append,
          List.append_assoc]
        rfl
      -- The comma ends the element; the blank behind it is passed over.
      have parted : step ⟨items :: outer, .inside x.toList.reverse⟩ ',' =
          some ⟨(.element x.toList :: items) :: outer, .item⟩ := by
        change some (Reader.mk ((.element x.toList.reverse.reverse :: items) :: outer) .item) = _
        rw [List.reverse_reverse]
      rw [text, run_append, run_element nonempty chars, Option.bind_some, run_cons, parted]
      change (run ⟨_, .item⟩ (Text.commaList (y :: ys)).toList).bind finish = _
      rw [ih others]
      simp

/-- Lines of items. -/
theorem run_lines {ι : Type} {indent : String} (tabs : ∀ c ∈ indent.toList, c = '\t')
    {text : ι → String} {child : ι → Block} {places : List ι}
    (h : ∀ i ∈ places, IsItem (text i) (child i)) :
    run ⟨items :: outer, .item⟩ (lines indent (places.map text)).toList =
      some ⟨((places.map child).reverse ++ items) :: outer, .item⟩ := by
  induction places generalizing items with
  | nil => rfl
  | cons i places ih =>
      obtain ⟨first, others⟩ := List.forall_mem_cons.mp h
      have line : (lines indent ((i :: places).map text)).toList =
          (indent.toList ++ ['\t']) ++ ((text i).toList ++ ',' :: '\n' ::
            (lines indent (places.map text)).toList) := by
        rw [List.map_cons, lines]
        simp
      have blank : ∀ c ∈ indent.toList ++ ['\t'], c = ' ' ∨ c = '\t' ∨ c = '\n' := by
        intro c member
        rcases List.mem_append.mp member with member | member
        · exact .inr (.inl (tabs c member))
        · exact .inr (.inl (List.mem_singleton.mp member))
      rw [line, run_append, run_blanks blank, Option.bind_some, run_append, first,
        Option.bind_some]
      change run ⟨_, .item⟩ (lines indent (places.map text)).toList = _
      rw [ih others]
      simp

end Reader

/-- Parts of texts of elements are texts of elements. -/
theorem AreElements.part {items : List String} (h : AreElements items) (stride i : Nat) :
    AreElements (part stride i items) :=
  fun x member => h x (List.mem_of_mem_drop (List.mem_of_mem_take member))

/-- The elements of a row. -/
theorem isItem_row {items : List String} (h : AreElements items) :
    IsItem ("\x7b" ++ Text.commaList items ++ "\x7d")
      (.block (items.map fun x => .element x.toList)) := by
  intro siblings outer
  cases items with
  | nil => rfl
  | cons x xs =>
      refine Reader.run_braces .behind ?_
      rw [Reader.run_commaList h, List.append_nil]

/-- The block of an array is read as nested blocks. -/
theorem isItem_block {dims : List Int} {items : List String} (axes : dims ≠ [])
    (h : Fills dims items) (elements : AreElements items) {indent : String}
    (tabs : ∀ c ∈ indent.toList, c = '\t') :
    IsItem (block indent dims items) (nested dims items) := by
  induction dims generalizing items indent with
  | nil => exact absurd rfl axes
  | cons d dims ih =>
      cases dims with
      | nil => exact isItem_row elements
      | cons e dims =>
          intro siblings outer
          have deeper : ∀ c ∈ (indent ++ "\t").toList, c = '\t' := by
            intro c member
            rw [String.toList_append] at member
            rcases List.mem_append.mp member with member | member
            · exact tabs c member
            · exact List.mem_singleton.mp member
          have parts : ∀ i ∈ List.range d.toNat,
              IsItem (block (indent ++ "\t") (e :: dims) (part (strideOf d items) i items))
                (nested (e :: dims) (part (strideOf d items) i items)) :=
            fun i place => ih (List.cons_ne_nil e dims) (h.fills_part (List.mem_range.mp place)).2
              (elements.part _ i) deeper
          have text : block indent (d :: e :: dims) items =
              "\x7b" ++ ("\n" ++ lines indent ((List.range d.toNat).map fun i =>
                block (indent ++ "\t") (e :: dims) (part (strideOf d items) i items)) ++ indent) ++
                "\x7d" := by
            rw [block, ← String.append_assoc, ← String.append_assoc]
            rfl
          have blank : ∀ c ∈ indent.toList, c = ' ' ∨ c = '\t' ∨ c = '\n' :=
            fun c member => .inr (.inl (tabs c member))
          have line : ∀ c ∈ "\n".toList, c = ' ' ∨ c = '\t' ∨ c = '\n' :=
            fun c member => .inr (.inr (List.mem_singleton.mp member))
          rw [text]
          refine Reader.run_braces .item ?_
          rw [String.toList_append, String.toList_append, Reader.run_append, Reader.run_append,
            Reader.run_blanks line, Option.bind_some, Reader.run_lines tabs parts,
            Option.bind_some, Reader.run_blanks blank]
          simp [Reader.finish]

theorem areElements_texts (e : Elements) : AreElements e.texts := by
  intro text member
  obtain ⟨x, -, rfl⟩ := List.mem_map.mp member
  refine ⟨?_, isElementChar_elementText e.kind x⟩
  exact fun none => e.kind.elementText_ne_empty x (String.toList_eq_nil_iff.mp none)

/-- Elements that fill their axes are shown once each, in row-major order and at their places, and
no part of them is taken out of range. -/
theorem content_shows_elements (e : Elements) {dims : List Int} (axes : dims ≠ [])
    (positive : ∀ d ∈ dims, 0 ≤ d) (count : axesProduct dims = e.length)
    (room : e.length < 9223372036854775808) :
    block? "" dims e.texts = some (content e.texts dims) ∧
      ∃ b, read? (content e.texts dims) = some b ∧ b.HasShape dims ∧
        b.elements = e.texts.map String.toList := by
  have length : e.texts.length = e.length := List.length_map ..
  have fills : Fills dims e.texts := ⟨positive, by rw [length, count]⟩
  have size : axesSize dims = e.texts.length := by
    rw [axesSize_eq_axesProduct (by omega) (by omega), count, length]
  have text : content e.texts dims = block "" dims e.texts := by
    rw [content, if_neg (not_not_intro size), if_neg (by simpa using axes)]
  have item : IsItem (block "" dims e.texts) (nested dims e.texts) :=
    isItem_block axes fills (areElements_texts e) (by simp)
  rw [text]
  refine ⟨block?_eq_some axes fills "", nested dims e.texts, ?_, hasShape_nested axes fills,
    elements_nested axes fills⟩
  rw [read?, item]

/-- Four flags on two axes. -/
theorem flags_shown_in_place :
    let flags : Elements := ⟨.bool, [true, false, false, true]⟩
    content flags.texts [2, 2] = "\x7b\n\t\x7btrue, false\x7d,\n\t\x7bfalse, true\x7d,\n\x7d" ∧
      block? "" [2, 2] flags.texts = some (content flags.texts [2, 2]) ∧
      ∃ b, read? (content flags.texts [2, 2]) = some b ∧ b.HasShape [2, 2] ∧
        b.elements = flags.texts.map String.toList :=
  ⟨by decide, content_shows_elements ⟨.bool, [true, false, false, true]⟩ (List.cons_ne_nil _ _)
    (by decide) (by decide) (by decide)⟩

/-- An axis without places leaves its blocks empty. -/
example : content [] [2, 0, 3] = "\x7b\n\t\x7b\n\t\x7d,\n\t\x7b\n\t\x7d,\n\x7d" := by decide

end TensorCompiler.ArrayText
