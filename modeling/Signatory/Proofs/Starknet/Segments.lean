import Mathlib.Algebra.GroupWithZero.Nat
import Signatory.Proofs.Starknet.Calldata

/-!
# The segments of a layout

A layout starts with the number of calls. Four numbers follow for each call, the last two of which
say where its data starts and how long it is; then come the number of data elements and the data.

1. `calldata_eq_foldl`: the layout grows call by call, headers and data side by side.
2. `isLayout_calldata`: each header is that of its call, and the segments tile the data.
3. `IsLayout.callsOf_eq`: so the calls can be read back from a layout.
-/

namespace Signatory.Starknet

/-! ## Growing a layout -/

/-- A layout in the making. -/
structure Draft where
  /-- The number of calls and the headers so far. -/
  front : List Int
  data : List Int

namespace Draft

/-- Adds a call; its data starts where the data ends by now. -/
def add (d : Draft) (c : Call) : Draft where
  front := d.front ++ [c.target, c.selector, (d.data.length : Int), (c.calldata.length : Int)]
  data := d.data ++ c.calldata

/-- The layout of the calls that were added. -/
def finish (d : Draft) : List Int :=
  d.front ++ (d.data.length : Int) :: d.data

theorem foldl_add (calls : List Call) (d : Draft) : calls.foldl add d =
    ⟨d.front ++ headers d.data.length calls, d.data ++ calls.flatMap (·.calldata)⟩ := by
  induction calls generalizing d with
  | nil => rw [headers, List.flatMap_nil, List.append_nil, List.append_nil, List.foldl_nil]
  | cons c calls ih =>
    rw [List.foldl_cons, ih]
    unfold add
    dsimp only
    rw [headers, List.length_append, List.flatMap_cons, List.append_assoc, List.append_assoc]
    rfl

end Draft

/-- The layout is what adding the calls one after the other gives. -/
theorem calldata_eq_foldl (calls : List Call) :
    calldata calls = (calls.foldl Draft.add ⟨[(calls.length : Int)], []⟩).finish := by
  rw [Draft.foldl_add]
  rfl

/-! ## Headers -/

/-- Where the data of a call starts: behind the data of all calls before it. -/
def dataOffset (calls : List Call) (i : Nat) : Nat :=
  ((calls.take i).map fun c => c.calldata.length).sum

@[simp] theorem dataOffset_zero (calls : List Call) : dataOffset calls 0 = 0 := rfl

theorem dataOffset_succ {calls : List Call} {i : Nat} (h : i < calls.length) :
    dataOffset calls (i + 1) = dataOffset calls i + calls[i].calldata.length := by
  unfold dataOffset
  rw [List.take_succ_eq_append_getElem h, List.map_append, List.sum_append, List.map_singleton,
    List.sum_singleton]

theorem length_flatMap_take (calls : List Call) (i : Nat) :
    ((calls.take i).flatMap (·.calldata)).length = dataOffset calls i :=
  List.length_flatMap

theorem dataOffset_length (calls : List Call) :
    dataOffset calls calls.length = (calls.flatMap (·.calldata)).length := by
  rw [← length_flatMap_take, List.take_length]

theorem headers_append (offset : Nat) (calls calls' : List Call) :
    headers offset (calls ++ calls') =
      headers offset calls ++ headers (offset + (calls.map fun c => c.calldata.length).sum) calls'
    := by
  induction calls generalizing offset with
  | nil => rfl
  | cons c calls ih =>
    rw [List.cons_append, headers, ih, headers, List.map_cons, List.sum_cons, Nat.add_assoc]
    rfl

/-- The header of a call stands behind those of the calls before it. -/
theorem drop_headers {calls : List Call} {i : Nat} (h : i < calls.length) :
    ∃ rest, (headers 0 calls).drop (4 * i) = calls[i].target :: calls[i].selector ::
      (dataOffset calls i : Int) :: (calls[i].calldata.length : Int) :: rest := by
  have hsplit := headers_append 0 (calls.take i) (calls.drop i)
  have hlength : (headers 0 (calls.take i)).length = 4 * i := by
    rw [length_headers, List.length_take_of_le (Nat.le_of_lt h)]
  rw [List.take_append_drop, List.drop_eq_getElem_cons h, headers, Nat.zero_add] at hsplit
  rw [hsplit, List.drop_left' hlength]
  exact ⟨_, rfl⟩

/-! ## Layouts -/

/-- The data of a layout of `n` calls. -/
def dataOf (n : Nat) (numbers : List Int) : List Int :=
  numbers.drop (4 * n + 2)

/-- What makes a list of numbers the layout of some calls. -/
structure IsLayout (calls : List Call) (numbers : List Int) : Prop where
  count : numbers[0]? = some (calls.length : Int)
  target (i : Nat) (h : i < calls.length) : numbers[4 * i + 1]? = some calls[i].target
  selector (i : Nat) (h : i < calls.length) : numbers[4 * i + 2]? = some calls[i].selector
  offset (i : Nat) (h : i < calls.length) : numbers[4 * i + 3]? = some (dataOffset calls i : Int)
  size (i : Nat) (h : i < calls.length) :
    numbers[4 * i + 4]? = some (calls[i].calldata.length : Int)
  total : numbers[4 * calls.length + 1]? = some ((dataOf calls.length numbers).length : Int)
  segment (i : Nat) (h : i < calls.length) :
    ((dataOf calls.length numbers).drop (dataOffset calls i)).take calls[i].calldata.length =
      calls[i].calldata
  /-- The last segment ends where the data ends. -/
  covered : dataOffset calls calls.length = (dataOf calls.length numbers).length

theorem drop_calldata (calls : List Call) :
    (calldata calls).drop (4 * calls.length + 1) =
      ((calls.flatMap (·.calldata)).length : Int) :: calls.flatMap (·.calldata) := by
  unfold calldata
  dsimp only
  rw [List.cons_append, List.drop_succ_cons, List.drop_left' (length_headers 0 calls)]

theorem dataOf_calldata (calls : List Call) :
    dataOf calls.length (calldata calls) = calls.flatMap (·.calldata) := by
  have hdrop := congrArg List.tail (drop_calldata calls)
  rwa [List.tail_drop] at hdrop

/-- The numbers from the header of a call on. -/
theorem drop_calldata_header {calls : List Call} {i : Nat} (h : i < calls.length) :
    ∃ rest, (calldata calls).drop (4 * i + 1) = calls[i].target :: calls[i].selector ::
      (dataOffset calls i : Int) :: (calls[i].calldata.length : Int) :: rest := by
  obtain ⟨rest, hrest⟩ := drop_headers h
  have hle : 4 * i ≤ (headers 0 calls).length := by
    rw [length_headers]
    omega
  unfold calldata
  dsimp only
  rw [List.cons_append, List.drop_succ_cons, List.drop_append_of_le_length hle, hrest]
  exact ⟨_, rfl⟩

/-- The data of a call is the segment that its header points at. -/
theorem segment_flatMap {calls : List Call} {i : Nat} (h : i < calls.length) :
    ((calls.flatMap (·.calldata)).drop (dataOffset calls i)).take calls[i].calldata.length =
      calls[i].calldata := by
  have hsplit : calls.flatMap (·.calldata) = (calls.take i).flatMap (·.calldata) ++
      (calls[i].calldata ++ (calls.drop (i + 1)).flatMap (·.calldata)) := by
    rw [← List.flatMap_cons, ← List.drop_eq_getElem_cons h, ← List.flatMap_append,
      List.take_append_drop]
  rw [hsplit, List.drop_left' (length_flatMap_take calls i), List.take_left' rfl]

theorem header_calldata {calls : List Call} {i : Nat} (h : i < calls.length) :
    (calldata calls)[4 * i + 1]? = some calls[i].target ∧
      (calldata calls)[4 * i + 2]? = some calls[i].selector ∧
      (calldata calls)[4 * i + 3]? = some (dataOffset calls i : Int) ∧
      (calldata calls)[4 * i + 4]? = some (calls[i].calldata.length : Int) := by
  obtain ⟨rest, hrest⟩ := drop_calldata_header h
  have hheader : ∀ j, (calldata calls)[4 * i + 1 + j]? = (calls[i].target :: calls[i].selector ::
      (dataOffset calls i : Int) :: (calls[i].calldata.length : Int) :: rest)[j]? := by
    intro j
    rw [← List.getElem?_drop, hrest]
  exact ⟨hheader 0, hheader 1, hheader 2, hheader 3⟩

theorem isLayout_calldata (calls : List Call) : IsLayout calls (calldata calls) where
  count := rfl
  target _ h := (header_calldata h).1
  selector _ h := (header_calldata h).2.1
  offset _ h := (header_calldata h).2.2.1
  size _ h := (header_calldata h).2.2.2
  total := by
    rw [dataOf_calldata, ← List.getElem?_drop (i := 4 * calls.length + 1) (j := 0), drop_calldata]
    rfl
  segment i h := by
    rw [dataOf_calldata]
    exact segment_flatMap h
  covered := by
    rw [dataOf_calldata, dataOffset_length]

/-! ## Reading the calls back -/

/-- The call whose header stands at a position of a layout of `n` calls. -/
def callAt (n : Nat) (numbers : List Int) (i : Nat) : Call where
  target := numbers.getD (4 * i + 1) 0
  selector := numbers.getD (4 * i + 2) 0
  calldata := ((dataOf n numbers).drop (numbers.getD (4 * i + 3) 0).toNat).take
    (numbers.getD (4 * i + 4) 0).toNat

/-- The calls of a layout. -/
def callsOf (numbers : List Int) : List Call :=
  let n := (numbers.headD 0).toNat
  (List.range n).map (callAt n numbers)

theorem IsLayout.callAt_eq {calls : List Call} {numbers : List Int} (hl : IsLayout calls numbers)
    {i : Nat} (h : i < calls.length) : callAt calls.length numbers i = calls[i] := by
  unfold callAt
  rw [List.getD_eq_getElem?_getD, List.getD_eq_getElem?_getD, List.getD_eq_getElem?_getD,
    List.getD_eq_getElem?_getD, hl.target i h, hl.selector i h, hl.offset i h, hl.size i h]
  simp only [Option.getD_some, Int.toNat_natCast, hl.segment i h]

/-- The calls are read back from any layout of them. -/
theorem IsLayout.callsOf_eq {calls : List Call} {numbers : List Int} (hl : IsLayout calls numbers) :
    callsOf numbers = calls := by
  have hcount : (numbers.headD 0).toNat = calls.length := by
    rw [List.headD_eq_head?_getD, List.head?_eq_getElem?, hl.count, Option.getD_some,
      Int.toNat_natCast]
  unfold callsOf
  dsimp only
  rw [hcount]
  refine List.ext_getElem ?_ fun i _ hi => ?_
  · rw [List.length_map, List.length_range]
  · rw [List.getElem_map, List.getElem_range, hl.callAt_eq hi]

/-- The numbers that an account executes grow call by call and are a layout of the calls: the
segments tile the data, one for each call in order, and the calls can be read back. So no two lists
of calls have the same numbers. -/
theorem calldata_tiles :
    (∀ calls : List Call, IsLayout calls (calldata calls) ∧
      calldata calls = (calls.foldl Draft.add ⟨[(calls.length : Int)], []⟩).finish ∧
      (calldata calls).length =
        2 + 4 * calls.length + (calls.map fun c => c.calldata.length).sum ∧
      dataOffset calls 0 = 0 ∧
      (∀ (i : Nat) (h : i < calls.length),
        dataOffset calls (i + 1) = dataOffset calls i + calls[i].calldata.length) ∧
      callsOf (calldata calls) = calls) ∧
    Function.Injective calldata := by
  refine ⟨fun calls => ?_, Function.LeftInverse.injective (g := callsOf) fun calls => ?_⟩
  · have hlayout := isLayout_calldata calls
    refine ⟨hlayout, calldata_eq_foldl calls, ?_, dataOffset_zero calls,
      fun i h => dataOffset_succ h, hlayout.callsOf_eq⟩
    rw [length_calldata, List.length_flatMap]
  · exact (isLayout_calldata calls).callsOf_eq

/-- Three calls, the second one without data. -/
def threeCalls : List Call := [⟨16, 17, [2, 1000]⟩, ⟨32, 33, []⟩, ⟨48, 49, [7]⟩]

theorem calldata_tiles_threeCalls :
    calldata threeCalls = [3, 16, 17, 0, 2, 32, 33, 2, 0, 48, 49, 2, 1, 3, 2, 1000, 7] ∧
      IsLayout threeCalls [3, 16, 17, 0, 2, 32, 33, 2, 0, 48, 49, 2, 1, 3, 2, 1000, 7] ∧
      callsOf [3, 16, 17, 0, 2, 32, 33, 2, 0, 48, 49, 2, 1, 3, 2, 1000, 7] = threeCalls := by
  have hnumbers :
      calldata threeCalls = [3, 16, 17, 0, 2, 32, 33, 2, 0, 48, 49, 2, 1, 3, 2, 1000, 7] := by
    decide
  obtain ⟨hlayout, -, -, -, -, hcalls⟩ := calldata_tiles.1 threeCalls
  rw [hnumbers] at hlayout hcalls
  exact ⟨hnumbers, hlayout, hcalls⟩

end Signatory.Starknet
