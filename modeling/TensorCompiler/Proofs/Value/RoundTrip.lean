import TensorCompiler.Proofs.Outcome
import TensorCompiler.Linked.Host

/-!
# Host values that pass through a device

An argument is sent to a device leaf by leaf and comes back as a result. Scalars, sequences of one
element and tensors without axes hold one element each and are told apart by their axes alone.

Main statement: an argument of scalars, sequences, tensors that fill their axes and lists comes back
as it was, its tensors as flat sequences or as scalars if they have no axes. An argument with a leaf
that has no value is refused for the leftmost such leaf. How many places the axes of a tensor have
is counted in a machine word: axes with `2 ^ 64` places have none, and a tensor without elements
fills them.
-/

namespace TensorCompiler

variable {φ : Type}

namespace HostArg

/-! ### Leaves -/

mutual

/-- The leaves of an argument from left to right: all that is no list. -/
def leaves : HostArg φ → List (HostArg φ)
  | .list items => leavesAll items
  | .noList => []
  | a => [a]

/-- The leaves of several arguments. -/
def leavesAll : List (HostArg φ) → List (HostArg φ)
  | [] => []
  | a :: as => leaves a ++ leavesAll as

end

/-- A leaf made by the host alone, not by a device or a program. No sequence of a host is longer
than its words can count. -/
def IsOwn : HostArg φ → Prop
  | .array _ | .handle _ | .value _ => False
  | .slice values | .tensor values _ => sliceLength values < 9223372036854775808
  | _ => True

/-- A leaf that has a value: its elements are of one of the five kinds, and a tensor has as many of
them as its axes have places, counted in a machine word. -/
inductive Fits : HostArg φ → Prop
  | scalar (kind : Kind) (x : kind.Carrier) : Fits (.scalar kind x)
  | slice (e : Elements) : Fits (.slice (.elements e))
  | noSlice (kind : Kind) : Fits (.noSlice kind)
  | tensor {e : Elements} {dims : List Int} (size : axesSize dims = e.length) :
    Fits (.tensor (.elements e) dims)

/-- A leaf of a host type without values, with the name of the type. That of a tensor is the type of
its sequence. -/
inductive Foreign : HostArg φ → String → Prop
  | missing : Foreign .missing "<nil>"
  | slice {values : HostSlice} (other : ∀ e, values ≠ .elements e) :
    Foreign (.slice values) values.typeName
  | tensor {values : HostSlice} {dims : List Int} (other : ∀ e, values ≠ .elements e) :
    Foreign (.tensor values dims) values.typeName
  | noTensor : Foreign .noTensor "*entry.Tensor"
  | noHandle : Foreign .noHandle "*platform.Handle"
  | other (typeName : String) : Foreign (.other typeName) typeName

/-- Why a leaf of the argument with an index has no value: its type has none, or a tensor has not as
many elements as its axes have places, counted in a machine word. -/
inductive Refused (index : Nat) : HostArg φ → ArgError → Prop
  | type {a : HostArg φ} {typeName : String} (foreign : Foreign a typeName) :
    Refused index a (.type index typeName)
  | size {e : Elements} {dims : List Int} (size : axesSize dims ≠ e.length) :
    Refused index (.tensor (.elements e) dims)
      (.cell (.tensor (.valueCount e.length ⟨e.kind.dtype, dims⟩)))

/-- What stands for a tensor: its element if it has no axes, else the flat sequence of its
elements. -/
def flatTensor (values : HostSlice) : List Int → HostArg φ
  | [] =>
    match values with
    | .elements ⟨kind, [x]⟩ => .scalar kind x
    | _ => .slice values
  | _ :: _ => .slice values

mutual

/-- The argument with what stands for its tensors, and with empty sequences and lists for those
without storage. -/
def flat : HostArg φ → HostArg φ
  | .tensor values dims => flatTensor values dims
  | .noSlice kind => .slice (.elements ⟨kind, []⟩)
  | .list items => .list (flatAll items)
  | .noList => .list []
  | a => a

/-- Several arguments with flat sequences for their tensors. -/
def flatAll : List (HostArg φ) → List (HostArg φ)
  | [] => []
  | a :: as => flat a :: flatAll as

end
end HostArg

mutual

/-- A result as an argument of another call. -/
def HostResult.toArg : HostResult φ → HostArg φ
  | .scalar kind x => .scalar kind x
  | .slice e => .slice (.elements e)
  | .list items => .list (HostResult.toArgs items)
  | .value v => .value v

/-- Several results as arguments. -/
def HostResult.toArgs : List (HostResult φ) → List (HostArg φ)
  | [] => []
  | r :: rs => r.toArg :: HostResult.toArgs rs

end

namespace HostArg

/-! ### One leaf -/

/-- An argument has a value whose host form is the argument with flat tensors. -/
def ComesBack (device : DeviceId) (index : Nat) (a : HostArg φ) : Prop :=
  ∃ v r, a.toValue device index = .ok v ∧ v.toHost = .ok r ∧ r.toArg = a.flat

theorem axesSize_nil : axesSize [] = 1 := by decide

/-- A sequence that can be counted has the size of its only axis. -/
theorem axesSize_singleton {n : Nat} (h : n < 9223372036854775808) : axesSize [(n : Int)] = n := by
  have product : axesProduct [(n : Int)] = n := by simp
  rw [axesSize_eq_axesProduct (by omega) (by omega), product]

/-- As many elements as the product of the axes. -/
theorem Fits.of_axesProduct {e : Elements} {dims : List Int}
    (room : e.length < 9223372036854775808) (product : axesProduct dims = e.length) :
    Fits (.tensor (.elements e) dims : HostArg φ) :=
  .tensor ((axesSize_eq_axesProduct (by omega) (by omega)).trans product)

variable {device : DeviceId} {index : Nat}

/-- Elements that do not fill their axes are not sent. -/
theorem send_misfit {e : Elements} {dims : List Int} (size : axesSize dims ≠ e.length) :
    (send device (.elements e) dims : Except ArgError (Value φ)) =
      .error (.cell (.tensor (.valueCount e.length ⟨e.kind.dtype, dims⟩))) := by
  have short : (Tensor.ofElements e dims).shape.size ≠ e.length := size
  simp only [send, Tensor.ofSlice, if_neg short]
  rfl

/-- What is sent as elements that fill their axes comes back as what the axes make of them. -/
theorem comesBack_of_send {a : HostArg φ} {e : Elements} {dims : List Int} {r : HostResult φ}
    (size : axesSize dims = e.length)
    (sent : a.toValue device index = send device (.elements e) dims)
    (given : (Value.tensor ⟨device, some (.ofElements e dims)⟩ : Value φ).toHost = .ok r)
    (same : r.toArg = a.flat) : a.ComesBack device index := by
  refine ⟨_, r, ?_, given, same⟩
  have full : (Tensor.ofElements e dims).shape.size = e.length := size
  rw [sent]
  simp only [send, Tensor.ofSlice, if_pos full]

theorem Fits.comesBack {a : HostArg φ} (h : a.Fits) (own : a.IsOwn) : a.ComesBack device index := by
  cases h with
  | scalar kind x =>
      exact comesBack_of_send (e := ⟨kind, [x]⟩) (r := .scalar kind x) axesSize_nil rfl rfl rfl
  | slice e =>
      have room : e.length < 9223372036854775808 := own
      exact comesBack_of_send (r := .slice e) (axesSize_singleton room) rfl rfl rfl
  | noSlice kind =>
      have empty : axesSize [0] = (Elements.mk kind []).length := axesSize_singleton (by decide)
      exact comesBack_of_send (r := .slice ⟨kind, []⟩) empty rfl rfl rfl
  | @tensor e dims size =>
      cases dims with
      | nil =>
          -- Without axes there is one place, hence one element.
          obtain ⟨kind, items⟩ := e
          obtain ⟨x, rfl⟩ : ∃ x, items = [x] := by
            have one : (1 : Int) = items.length := axesSize_nil.symm.trans size
            exact List.length_eq_one_iff.mp (by omega)
          exact comesBack_of_send (r := .scalar kind x) size rfl rfl rfl
      | cons d dims => exact comesBack_of_send (r := .slice e) size rfl rfl rfl

/-- A sequence that is none of elements is not sent. -/
theorem sendElements_foreign {values : HostSlice} (other : ∀ e, values ≠ .elements e)
    (dims : List Int) : (sendElements device index values dims : Except ArgError (Value φ)) =
      .error (.type index values.typeName) := by
  cases values with
  | elements e => exact absurd rfl (other e)
  | _ => rfl

theorem Refused.toValue_eq {a : HostArg φ} {e : ArgError} (h : a.Refused index e) :
    a.toValue device index = .error e := by
  cases h with
  | size size => exact send_misfit size
  | type foreign =>
      cases foreign with
      | slice other => exact sendElements_foreign other _
      | tensor other => exact sendElements_foreign other _
      | missing | noTensor | noHandle | other => rfl

/-! ### Arguments -/

mutual

/-- An argument whose leaves all fit comes back. -/
theorem comesBack : (a : HostArg φ) → (∀ l ∈ a.leaves, l.IsOwn) → (∀ l ∈ a.leaves, l.Fits) →
    a.ComesBack device index
  | .list items, own, fit => by
      obtain ⟨vs, rs, sent, given, same⟩ := allComeBack items own fit
      refine ⟨.tuple vs, .list rs, ?_, ?_, ?_⟩
      · rw [toValue, sent]
        rfl
      · rw [Value.toHost, given]
        rfl
      · rw [HostResult.toArg, same, flat]
  | .noList, _, _ => ⟨.tuple [], .list [], rfl, rfl, rfl⟩
  | .scalar .., own, fit | .slice .., own, fit | .noSlice .., own, fit | .tensor .., own, fit
  | .missing, own, fit | .noTensor, own, fit | .array .., own, fit | .handle .., own, fit
  | .noHandle, own, fit | .value .., own, fit | .other .., own, fit =>
      (fit _ (List.mem_singleton_self _)).comesBack (own _ (List.mem_singleton_self _))

/-- Arguments whose leaves all fit come back. -/
theorem allComeBack : (as : List (HostArg φ)) → (∀ l ∈ leavesAll as, l.IsOwn) →
    (∀ l ∈ leavesAll as, l.Fits) → ∃ vs rs, toValues device index as = .ok vs ∧
      Value.toHosts vs = .ok rs ∧ HostResult.toArgs rs = flatAll as
  | [], _, _ => ⟨[], [], rfl, rfl, rfl⟩
  | a :: as, own, fit => by
      rw [leavesAll] at own fit
      obtain ⟨ownA, ownAs⟩ := List.forall_mem_append.mp own
      obtain ⟨fitA, fitAs⟩ := List.forall_mem_append.mp fit
      obtain ⟨v, r, sent, given, same⟩ := comesBack a ownA fitA
      obtain ⟨vs, rs, sentAll, givenAll, sameAll⟩ := allComeBack as ownAs fitAs
      refine ⟨v :: vs, r :: rs, ?_, ?_, ?_⟩
      · rw [toValues, sent, sentAll]
        rfl
      · rw [Value.toHosts, given, givenAll]
        rfl
      · rw [HostResult.toArgs, same, sameAll, flatAll]

end

/-- Two lists of leaves around one of them: it stands in the first list, or behind it. -/
theorem split_leaves {xs ys front back : List (HostArg φ)} {l : HostArg φ}
    (h : xs ++ ys = front ++ l :: back) :
    (∃ rest, xs = front ++ l :: rest) ∨ ∃ between, front = xs ++ between ∧
      ys = between ++ l :: back := by
  rcases List.append_eq_append_iff.mp h with ⟨between, rfl, later⟩ | ⟨rest, rfl, here⟩
  · exact .inr ⟨between, rfl, later⟩
  · cases rest with
    | nil => exact .inr ⟨[], by simp, by simpa using here.symm⟩
    | cons m rest =>
        obtain ⟨rfl, rfl⟩ := List.cons.inj here
        exact .inl ⟨rest, rfl⟩

/-- A single leaf is the one that a list of leaves is split at. -/
theorem eq_of_split {a l : HostArg φ} {front back : List (HostArg φ)}
    (h : [a] = front ++ l :: back) : l = a := by
  have member : l ∈ [a] := h ▸ List.mem_append_right _ List.mem_cons_self
  exact List.mem_singleton.mp member

mutual

/-- An argument is refused for the leftmost leaf that does not fit. -/
theorem toValue_leftmost {l : HostArg φ} {e : ArgError} (refused : l.Refused index e) :
    (a : HostArg φ) → {front back : List (HostArg φ)} → a.leaves = front ++ l :: back →
      (∀ x ∈ front, x.IsOwn ∧ x.Fits) → a.toValue device index = .error e
  | .list items, _, _, split, fit => by
      rw [toValue, toValues_leftmost refused items split fit]
      rfl
  | .noList, _, _, split, _ => by simp [leaves] at split
  | .scalar .., _, _, split, _ | .slice .., _, _, split, _ | .noSlice .., _, _, split, _
  | .tensor .., _, _, split, _ | .missing, _, _, split, _ | .noTensor, _, _, split, _
  | .array .., _, _, split, _ | .handle .., _, _, split, _ | .noHandle, _, _, split, _
  | .value .., _, _, split, _ | .other .., _, _, split, _ =>
      eq_of_split split ▸ refused.toValue_eq

/-- Several arguments are refused for the leftmost leaf that does not fit. -/
theorem toValues_leftmost {l : HostArg φ} {e : ArgError} (refused : l.Refused index e) :
    (as : List (HostArg φ)) → {front back : List (HostArg φ)} →
      leavesAll as = front ++ l :: back → (∀ x ∈ front, x.IsOwn ∧ x.Fits) →
      toValues device index as = .error e
  | [], _, _, split, _ => by simp [leavesAll] at split
  | a :: as, _, _, split, fit => by
      rw [leavesAll] at split
      rcases split_leaves split with ⟨rest, here⟩ | ⟨between, rfl, later⟩
      · rw [toValues, toValue_leftmost refused a here fit]
        rfl
      · obtain ⟨fitA, fitBetween⟩ := List.forall_mem_append.mp fit
        obtain ⟨v, r, sent, -, -⟩ :=
          comesBack a (fun x hx => (fitA x hx).1) fun x hx => (fitA x hx).2
        rw [toValues, sent, toValues_leftmost refused as later fitBetween]
        rfl

end

/-- A leaf of the host has a value or is refused. -/
theorem IsOwn.fits_or_refused {l : HostArg φ} (own : l.IsOwn)
    (leaf : ∀ items, l ≠ .list items ∧ l ≠ .noList) : l.Fits ∨ ∃ e, l.Refused index e := by
  cases l with
  | scalar kind x => exact .inl (.scalar kind x)
  | slice values =>
      cases values with
      | elements e => exact .inl (.slice e)
      | _ => exact .inr ⟨_, .type (.slice (by simp))⟩
  | noSlice kind => exact .inl (.noSlice kind)
  | tensor values dims =>
      cases values with
      | elements e =>
          by_cases size : axesSize dims = e.length
          · exact .inl (.tensor size)
          · exact .inr ⟨_, .size size⟩
      | _ => exact .inr ⟨_, .type (.tensor (by simp))⟩
  | missing => exact .inr ⟨_, .type .missing⟩
  | noTensor => exact .inr ⟨_, .type .noTensor⟩
  | noHandle => exact .inr ⟨_, .type .noHandle⟩
  | other typeName => exact .inr ⟨_, .type (.other typeName)⟩
  | list items => exact absurd rfl (leaf items).1
  | noList => exact absurd rfl (leaf []).2
  | array | handle | value => exact absurd own id

mutual

/-- A leaf is no list. -/
theorem ne_list_of_mem_leaves : (a : HostArg φ) → ∀ l ∈ a.leaves, ∀ items,
    l ≠ .list items ∧ l ≠ .noList
  | .list items => ne_list_of_mem_leavesAll items
  | .noList => by simp [leaves]
  | .scalar .. | .slice .. | .noSlice .. | .tensor .. | .missing | .noTensor | .array ..
  | .handle .. | .noHandle | .value .. | .other .. => by simp [leaves]

theorem ne_list_of_mem_leavesAll : (as : List (HostArg φ)) → ∀ l ∈ leavesAll as, ∀ items,
    l ≠ .list items ∧ l ≠ .noList
  | [] => by simp [leavesAll]
  | a :: as => List.forall_mem_append.mpr ⟨ne_list_of_mem_leaves a, ne_list_of_mem_leavesAll as⟩

end

/-- Among leaves that fit or are refused there is a leftmost refused one, if any is refused. -/
theorem exists_leftmost {ls : List (HostArg φ)} (all : ∀ l ∈ ls, l.Fits ∨ ∃ e, l.Refused index e)
    (any : ∃ l ∈ ls, ∃ e, l.Refused index e) :
    ∃ front l back e, ls = front ++ l :: back ∧ (∀ x ∈ front, x.Fits) ∧ l.Refused index e := by
  induction ls with
  | nil =>
      obtain ⟨l, ⟨⟩, -⟩ := any
  | cons x ls ih =>
      obtain ⟨first, others⟩ := List.forall_mem_cons.mp all
      by_cases refused : ∃ e, x.Refused index e
      · obtain ⟨e, refused⟩ := refused
        exact ⟨[], x, ls, e, rfl, by simp, refused⟩
      · have later : ∃ l ∈ ls, ∃ e, l.Refused index e := by
          obtain ⟨l, member, e, some⟩ := any
          rcases List.mem_cons.mp member with rfl | member
          · exact absurd ⟨e, some⟩ refused
          · exact ⟨l, member, e, some⟩
        obtain ⟨front, l, back, e, rfl, fit, last⟩ := ih others later
        have fits := first.resolve_right refused
        exact ⟨x :: front, l, back, e, rfl, List.forall_mem_cons.mpr ⟨fits, fit⟩, last⟩

/-- An argument that the host alone makes comes back from a device as it was, with flat sequences or
scalars for its tensors, if all its leaves fit; a tensor fits if it has as many elements as the
product of its axes, for a machine counts such a product exactly. If leaves are refused, so is the
argument, for the leftmost one of them: either its type has no value, and the type and the index of
the argument are told, or it is a tensor of the wrong size. -/
theorem passes_through_device (device : DeviceId) (index : Nat) (a : HostArg φ)
    (own : ∀ l ∈ a.leaves, l.IsOwn) :
    ((∀ l ∈ a.leaves, l.Fits) →
      ∃ v r, a.toValue device index = .ok v ∧ v.toHost = .ok r ∧ r.toArg = a.flat) ∧
    (∀ e dims, .tensor (.elements e) dims ∈ a.leaves → axesProduct dims = e.length →
      Fits (.tensor (.elements e) dims : HostArg φ)) ∧
    ((∃ l ∈ a.leaves, ∃ e, l.Refused index e) →
      ∃ front l back e, a.leaves = front ++ l :: back ∧ (∀ x ∈ front, x.Fits) ∧
        l.Refused index e ∧ a.toValue device index = .error e) := by
  refine ⟨comesBack a own, ?_, ?_⟩
  · intro e dims member product
    have room : e.length < 9223372036854775808 := own _ member
    exact .of_axesProduct room product
  · intro any
    obtain ⟨front, l, back, e, split, fit, refused⟩ := exists_leftmost
      (fun l hl => (own l hl).fits_or_refused (ne_list_of_mem_leaves a l hl)) any
    refine ⟨front, l, back, e, split, fit, refused, toValue_leftmost refused a split ?_⟩
    exact fun x hx => ⟨own x (split ▸ List.mem_append_left _ hx), fit x hx⟩

/-- A tensor of four times `2 ^ 62` places that holds no elements. -/
def wideAxes : HostArg HostFunction := .tensor (.elements ⟨.int32, []⟩) [4, 4611686018427387904]

/-- A tensor with fewer elements than the product of its axes is sent if the product is zero in a
machine word, and comes back as a sequence of no elements. -/
theorem wideAxes_accepted :
    (Elements.mk .int32 []).length < axesProduct [4, 4611686018427387904] ∧
      ∃ v, wideAxes.toValue 0 0 = .ok v ∧ v.toHost = .ok (.slice ⟨.int32, []⟩) :=
  ⟨by decide, _, rfl, rfl⟩

/-- The element seven as a scalar, as a sequence and as a tensor, some of them in a list with a
sequence without storage. -/
def sevens : HostArg HostFunction :=
  .list [.scalar .int32 7, .slice (.elements ⟨.int32, [7]⟩), .list [.noSlice .bool,
    .tensor (.elements ⟨.int32, [7]⟩) []], .tensor (.elements ⟨.int32, [7]⟩) [1, 1], .noList]

/-- A text in a list, behind a sequence and before a tensor without enough elements. -/
def textBetween : HostArg HostFunction :=
  .list [.slice (.elements ⟨.int32, [7]⟩), .list [.other "string"],
    .tensor (.elements ⟨.int32, [7]⟩) [2]]

theorem sevens_pass_through :
    (∃ v r, sevens.toValue 0 3 = .ok v ∧ v.toHost = .ok r ∧
      r.toArg = .list [.scalar .int32 7, .slice (.elements ⟨.int32, [7]⟩),
        .list [.slice (.elements ⟨.bool, []⟩), .scalar .int32 7], .slice (.elements ⟨.int32, [7]⟩),
        .list []]) ∧
    ∃ front l back e, textBetween.leaves = front ++ l :: back ∧ (∀ x ∈ front, x.Fits) ∧
      l.Refused 3 e ∧ textBetween.toValue 0 3 = .error e := by
  refine ⟨(passes_through_device 0 3 sevens ?_).1 ?_,
    (passes_through_device 0 3 textBetween ?_).2.2 ⟨.other "string", ?_, _, .type (.other _)⟩⟩
  · simp [sevens, leaves, leavesAll, IsOwn, sliceLength, Elements.length]
  · simp only [sevens, leaves, leavesAll, List.forall_mem_append, List.forall_mem_singleton]
    exact ⟨.scalar _ _, .slice _, ⟨.noSlice _, .tensor (by decide), by simp⟩, .tensor (by decide),
      by simp⟩
  · simp [textBetween, leaves, leavesAll, IsOwn, sliceLength, Elements.length]
  · simp [textBetween, leaves, leavesAll]

end HostArg
end TensorCompiler
