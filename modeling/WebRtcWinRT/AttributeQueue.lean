import Mathlib.Data.List.Basic
import Mathlib.Data.List.Pairwise

/-!
# The attribute queue `SampleAttributeQueue<T>`

A FIFO of `(id, attribute)` pairs whose ids the caller pushes in increasing
order. `pop(id, outT)` drops the entries older than `id`, hands back the
attribute of the first entry not older, and drops that entry only when its id
is exactly `id`. The specification here is stated over the history of calls:
an entry is held while no `clear()` and no `pop(j)` with `j ≥` its id has
come after its `push`. Over every history with increasing push ids the queue
holds exactly the held entries, and each `pop` answers from them.
-/

namespace WebRtcWinRT.AttributeQueue

variable {T : Type}

/-- A `SampleAttributeQueue<T>`: `_attributes`, front first. -/
structure SampleAttributeQueue (T : Type) where
  /-- `_attributes`, the `std::queue` of `(id, attribute)` pairs. -/
  attributes : List (UInt64 × T)

namespace SampleAttributeQueue

/-- The constructor: an empty queue. -/
def create : SampleAttributeQueue T := ⟨[]⟩

/-- `push(id, t)`: the pair goes to the back. -/
def push (id : UInt64) (t : T) (q : SampleAttributeQueue T) : SampleAttributeQueue T :=
  ⟨q.attributes ++ [(id, t)]⟩

/-- The `while` loop of `pop(id, outT)` over the remaining entries: what it
returns, `outT` after it, and the entries left. -/
def popLoop (id : UInt64) (outT : T) : List (UInt64 × T) → Bool × T × List (UInt64 × T)
  | [] => (false, outT, [])
  | entry :: rest =>
    if entry.1 > id then (true, entry.2, entry :: rest)
    else if entry.1 = id then (true, entry.2, rest)
    else popLoop id outT rest

/-- `pop(id, outT)`: the answer, `outT` after the call, and the queue after. -/
def pop (id : UInt64) (outT : T) (q : SampleAttributeQueue T) : Bool × T × SampleAttributeQueue T :=
  let r := popLoop id outT q.attributes
  (r.1, r.2.1, ⟨r.2.2⟩)

/-- `clear()`: every entry is popped. -/
def clear (_ : SampleAttributeQueue T) : SampleAttributeQueue T := ⟨[]⟩

end SampleAttributeQueue

open SampleAttributeQueue

/-- A call on the queue. -/
inductive QueueOp (T : Type)
  | push (id : UInt64) (t : T)
  | pop (id : UInt64) (outT : T)
  | clear

/-- The queue after one call. -/
def apply (q : SampleAttributeQueue T) : QueueOp T → SampleAttributeQueue T
  | .push id t => q.push id t
  | .pop id outT => (q.pop id outT).2.2
  | .clear => q.clear

/-- The queue after a history of calls on a new queue. -/
def run (ops : List (QueueOp T)) : SampleAttributeQueue T := ops.foldl apply create

/-- The ids pushed in a history, in order. -/
def pushes : List (QueueOp T) → List (UInt64 × T)
  | [] => []
  | .push id t :: ops => (id, t) :: pushes ops
  | _ :: ops => pushes ops

/-- Whether a later call discards an entry with id `id`: a `clear()`, or a
`pop(j)` with `j ≥ id`. -/
def discards (id : UInt64) : QueueOp T → Bool
  | .push _ _ => false
  | .pop j _ => id ≤ j
  | .clear => true

/-- The entries held after a history: those pushed that no later call
discards, in push order. -/
def held : List (QueueOp T) → List (UInt64 × T)
  | [] => []
  | .push id t :: ops => if ops.any (discards id) then held ops else (id, t) :: held ops
  | _ :: ops => held ops

/-- Ids strictly increasing, front first. -/
def Increasing (es : List (UInt64 × T)) : Prop := es.Pairwise fun a b => a.1 < b.1

instance (es : List (UInt64 × T)) : Decidable (Increasing es) :=
  inferInstanceAs (Decidable (es.Pairwise _))

/-- On entries in increasing id order, `pop(id, outT)` answers whether an
entry has id `≥ id`, hands back the first such entry's attribute (or `outT`),
and keeps exactly the entries with id `> id`. -/
theorem popLoop_eq (id : UInt64) (outT : T) {es : List (UInt64 × T)} (hes : Increasing es) :
    popLoop id outT es =
      (es.any (id ≤ ·.1), ((es.find? (id ≤ ·.1)).map (·.2)).getD outT, es.filter (id < ·.1)) := by
  induction es with
  | nil => rfl
  | cons e es ih =>
    have hrest : ∀ a ∈ es, e.1.toNat < a.1.toNat := (List.pairwise_cons.mp hes).1
    have hkeep (h : id.toNat ≤ e.1.toNat) : es.filter (id < ·.1) = es :=
      List.filter_eq_self.mpr fun a ha =>
        decide_eq_true (show id.toNat < a.1.toNat by have := hrest a ha; omega)
    rw [popLoop]
    rcases Nat.lt_trichotomy id.toNat e.1.toNat with hgt | heq | hlt
    · have hle : id ≤ e.1 := Nat.le_of_lt hgt
      rw [if_pos (show e.1 > id from hgt)]
      simp [hle, show id < e.1 from hgt, hkeep hle]
    · have he : e.1 = id := UInt64.toNat.inj heq.symm
      rw [if_neg (show ¬ e.1 > id from fun h => Nat.ne_of_lt h heq), if_pos he]
      simp [he, hkeep (Nat.le_of_eq heq)]
    · rw [if_neg (show ¬ e.1 > id from Nat.lt_asymm hlt),
        if_neg (show e.1 ≠ id from fun h => Nat.ne_of_lt hlt (congrArg _ h))]
      simp [ih (List.pairwise_cons.mp hes).2, show ¬ id ≤ e.1 from Nat.not_le.mpr hlt,
        show ¬ id < e.1 from Nat.lt_asymm hlt]

/-- In increasing order, the first entry with id `≥ j` is the one with the
least such id. -/
theorem find?_least {es : List (UInt64 × T)} (hes : Increasing es) {j : UInt64}
    {e : UInt64 × T} (he : e ∈ es) (hj : j ≤ e.1) (hleast : ∀ e' ∈ es, j ≤ e'.1 → e.1 ≤ e'.1) :
    es.find? (j ≤ ·.1) = some e := by
  cases h : es.find? (j ≤ ·.1) with
  | none => exact absurd hj (by simpa using List.find?_eq_none.mp h e he)
  | some b =>
    obtain ⟨hb, as, bs, rfl, has⟩ := List.find?_eq_some.mp h
    have hbj : j ≤ b.1 := by simpa using hb
    rcases List.mem_append.mp he with hea | heb
    · simpa [hj] using has e hea
    · rcases List.mem_cons.mp heb with rfl | hebs
      · rfl
      · have hlt : b.1.toNat < e.1.toNat :=
          (List.pairwise_cons.mp (List.pairwise_append.mp hes).2.1).1 e hebs
        have hle : e.1.toNat ≤ b.1.toNat := hleast b (by simp) hbj
        omega

/-- A push is held after the entries already held. -/
@[simp] theorem held_push (ops : List (QueueOp T)) (id : UInt64) (t : T) :
    held (ops ++ [.push id t]) = held ops ++ [(id, t)] := by
  induction ops with
  | nil => simp [held, discards]
  | cons op ops ih =>
    cases op with
    | push id' t' => by_cases hd : ops.any (discards id') <;> simp [held, ih, discards, hd]
    | pop _ _ => simp [held, ih]
    | clear => simp [held, ih]

/-- A pop keeps only the held entries above its id. -/
@[simp] theorem held_pop (ops : List (QueueOp T)) (j : UInt64) (outT : T) :
    held (ops ++ [.pop j outT]) = (held ops).filter (j < ·.1) := by
  induction ops with
  | nil => rfl
  | cons op ops ih =>
    cases op with
    | push id t =>
      by_cases hd : ops.any (discards id)
      · simp [held, ih, discards, hd]
      · by_cases hj : id ≤ j
        · simp [held, ih, discards, hd, hj, UInt64.not_lt.mpr hj]
        · simp [held, ih, discards, hd, hj, UInt64.not_le.mp hj]
    | pop _ _ => simp [held, ih]
    | clear => simp [held, ih]

/-- A clear leaves nothing held. -/
@[simp] theorem held_clear (ops : List (QueueOp T)) : held (ops ++ [.clear]) = [] := by
  induction ops with
  | nil => rfl
  | cons op ops ih => cases op <;> simp [held, ih, discards]

/-- The entries held are a sublist of the entries pushed. -/
theorem held_sublist (ops : List (QueueOp T)) : (held ops).Sublist (pushes ops) := by
  induction ops with
  | nil => exact .slnil
  | cons op ops ih =>
    cases op with
    | push id t =>
      simp only [held, pushes]
      split
      · exact ih.cons _
      · exact ih.cons₂ _
    | pop _ _ => exact ih
    | clear => exact ih

/-- The pushes of two stretches of operations, in order. -/
theorem pushes_append (ops ops' : List (QueueOp T)) :
    pushes (ops ++ ops') = pushes ops ++ pushes ops' := by
  induction ops with
  | nil => rfl
  | cons op ops ih => cases op <;> simp [pushes, ih]

/-- Over every history whose push ids increase, the queue holds exactly the
held entries. -/
theorem run_attributes (ops : List (QueueOp T)) (hinc : Increasing (pushes ops)) :
    (run ops).attributes = held ops := by
  induction ops using List.reverseRecOn with
  | nil => rfl
  | append_singleton ops op ih =>
    rw [pushes_append, Increasing, List.pairwise_append] at hinc
    have hheld : Increasing (held ops) := hinc.1.sublist (held_sublist ops)
    rw [run, List.foldl_append, ← run]
    cases op with
    | push id t => simp [apply, SampleAttributeQueue.push, ih hinc.1]
    | pop j outT =>
      simp [apply, SampleAttributeQueue.pop, ih hinc.1, popLoop_eq j outT hheld]
    | clear => simp [apply, SampleAttributeQueue.clear]

/-- In every history whose push ids increase, a `pop(j, outT)` answers
whether a held entry has id `≥ j`; if so it hands back the attribute of the
held entry with the least such id, and otherwise leaves `outT` as it was.
Afterwards the queue holds exactly the entries held before with id `> j`,
which are the entries held after the call. -/
theorem pop_answers_from_held (ops : List (QueueOp T)) (hinc : Increasing (pushes ops))
    (j : UInt64) (outT : T) :
    (((run ops).pop j outT).1 = true ↔ ∃ e ∈ held ops, j ≤ e.1) ∧
      (∀ e ∈ held ops, j ≤ e.1 → (∀ e' ∈ held ops, j ≤ e'.1 → e.1 ≤ e'.1) →
        ((run ops).pop j outT).2.1 = e.2) ∧
      (((run ops).pop j outT).1 = false → ((run ops).pop j outT).2.1 = outT) ∧
      ((run ops).pop j outT).2.2.attributes = (held ops).filter (j < ·.1) ∧
      held (ops ++ [.pop j outT]) = (held ops).filter (j < ·.1) := by
  have hheld : Increasing (held ops) := List.Pairwise.sublist (held_sublist ops) hinc
  simp only [SampleAttributeQueue.pop, run_attributes ops hinc, popLoop_eq j outT hheld]
  refine ⟨by simp only [List.any_eq_true, decide_eq_true_eq], fun e he hj hleast => by
    simp [find?_least hheld he hj hleast], fun h => ?_, trivial, held_pop ops j outT⟩
  rw [List.find?_eq_none.mpr (List.any_eq_false.mp h)]
  rfl

/-- Three pushes and a pop below the second: the next pop answers from the entries above it. -/
theorem pop_answers_from_held_three :
    (((run [.push 1 10, .push 3 30, .push 5 50, .pop 2 0]).pop 4 0).1 = true ↔
        ∃ e ∈ held [.push 1 10, .push 3 30, .push 5 50, .pop 2 0], 4 ≤ e.1) ∧
      (∀ e ∈ held [.push 1 10, .push 3 30, .push 5 50, .pop 2 0], 4 ≤ e.1 →
        (∀ e' ∈ held [.push 1 10, .push 3 30, .push 5 50, .pop 2 0], 4 ≤ e'.1 → e.1 ≤ e'.1) →
          ((run [.push 1 10, .push 3 30, .push 5 50, .pop 2 0]).pop 4 0).2.1 = e.2) ∧
      (((run [.push 1 10, .push 3 30, .push 5 50, .pop 2 0]).pop 4 0).1 = false →
        ((run [.push 1 10, .push 3 30, .push 5 50, .pop 2 0]).pop 4 0).2.1 = 0) ∧
      ((run [.push 1 10, .push 3 30, .push 5 50, .pop 2 0]).pop 4 0).2.2.attributes =
        (held [.push 1 10, .push 3 30, .push 5 50, .pop 2 0]).filter (4 < ·.1) ∧
      held ([.push 1 10, .push 3 30, .push 5 50, .pop 2 0] ++ [.pop 4 0]) =
        (held ([.push 1 10, .push 3 30, .push 5 50, .pop 2 0] : List (QueueOp Nat))).filter (4 < ·.1) :=
  pop_answers_from_held _ (by decide) 4 0

end WebRtcWinRT.AttributeQueue
