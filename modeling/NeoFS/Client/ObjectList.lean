import NeoFS.Go.IO
import NeoFS.Refs

set_option autoImplicit false

/- The ObjectListReader of client/object_search.go: the object IDs of a search stream, read into
   the caller's buffer of oid.ID arrays. A response is the error apistatus.ToError makes of its
   status (none for OK) and the values of its id_list; the stream ends with `ending`, which Recv
   then keeps returning. The reader copies each value into an array of the caller's buffer as
   Go's copy does, whatever its length. -/
namespace NeoFS.Client

open Go

-- `copy(dst[:], value)`: the value's bytes over the array's first ones, as many as fit.
def copyID (dst : ObjectID) (value : List UInt8) : ObjectID :=
  ⟨value.take 32 ++ dst.bytes.drop value.length, by
    rw [List.length_append, List.length_take, List.length_drop, dst.length_eq]
    omega⟩

-- `copyIDBuffers`: the buffer after the copies, and their number.
def copyIDBuffers : List ObjectID → List (List UInt8) → List ObjectID × Nat
  | [], _ => ([], 0)
  | d :: dst, [] => (d :: dst, 0)
  | d :: dst, v :: src => (copyID d v :: (copyIDBuffers dst src).1, (copyIDBuffers dst src).2 + 1)

structure SearchResponse where
  status : Option IOError
  idList : List (List UInt8)

structure ObjectListReader where
  responses : List SearchResponse
  ending : IOError
  err : Option IOError
  tail : List (List UInt8)

namespace ObjectListReader

-- The loop of Read over the responses, with `read` arrays of `buf` filled.
def readLoop (x : ObjectListReader) (buf : List ObjectID) (read : Nat) :
    List SearchResponse → (Nat × List ObjectID × Option IOError) × ObjectListReader
  | [] => ((read, buf, some x.ending), { x with responses := [], err := some x.ending })
  | resp :: rest =>
      match resp.status with
      | some e => ((read, buf, some e), { x with responses := rest, err := some e })
      | none =>
          if resp.idList = [] then x.readLoop buf read rest
          else
            let copied := copyIDBuffers (buf.drop read) resp.idList
            if read + copied.2 = buf.length then
              ((read + copied.2, buf.take read ++ copied.1, none),
                { x with responses := rest, err := none, tail := x.tail ++ resp.idList.drop copied.2 })
            else x.readLoop (buf.take read ++ copied.1) (read + copied.2) rest

-- `Read`: the count, the caller's buffer after it and the error; none where it panics.
def read (x : ObjectListReader) (buf : List ObjectID) :
    Option ((Nat × List ObjectID × Option IOError) × ObjectListReader) :=
  if buf = [] then none
  else
    let copied := copyIDBuffers buf x.tail
    let x := { x with tail := x.tail.drop copied.2 }
    if buf.length = copied.2 then some ((copied.2, copied.1, none), x)
    else some (x.readLoop copied.1 copied.2 x.responses)

section Delivery

def pending (x : ObjectListReader) : List (List UInt8) := x.tail ++ (x.responses.map (·.idList)).flatten

theorem copy_id_of_length {dst : ObjectID} {value : List UInt8} (sized : value.length = 32) :
    (copyID dst value).bytes = value := by
  show value.take 32 ++ dst.bytes.drop value.length = value
  rw [List.take_of_length_le (Nat.le_of_eq sized), List.drop_eq_nil_of_le (Nat.le_of_eq (by rw [sized, dst.length_eq])),
    List.append_nil]

theorem copy_id_buffers_eq (dst : List ObjectID) (src : List (List UInt8)) :
    copyIDBuffers dst src = (List.zipWith copyID dst src ++ dst.drop src.length, min dst.length src.length) := by
  induction dst generalizing src with
  | nil => cases src <;> rfl
  | cons d dst ih =>
      cases src with
      | nil => simp [copyIDBuffers]
      | cons v src =>
          rw [copyIDBuffers, ih src]
          simp only [List.zipWith_cons_cons, List.cons_append, List.length_cons, List.drop_succ_cons, Prod.mk.injEq,
            true_and]
          omega

theorem copy_id_buffers_bytes {dst : List ObjectID} {src : List (List UInt8)} (sized : ∀ v ∈ src, v.length = 32) :
    (copyIDBuffers dst src).1.map (·.bytes) = src.take dst.length ++ (dst.drop src.length).map (·.bytes) := by
  induction dst generalizing src with
  | nil => cases src <;> rfl
  | cons d dst ih =>
      cases src with
      | nil => simp [copyIDBuffers]
      | cons v src =>
          simp only [copyIDBuffers, List.map_cons, List.length_cons, List.take_succ_cons, List.drop_succ_cons,
            List.cons_append, copy_id_of_length (sized v List.mem_cons_self),
            ih fun w mem => sized w (List.mem_cons_of_mem _ mem)]

theorem length_copy_id_buffers (dst : List ObjectID) (src : List (List UInt8)) :
    (copyIDBuffers dst src).1.length = dst.length := by
  rw [copy_id_buffers_eq, List.length_append, List.length_zipWith, List.length_drop]
  omega

theorem fill_bytes {buf : List ObjectID} {read : Nat} {ids : List (List UInt8)} (sized : ∀ v ∈ ids, v.length = 32) :
    (buf.take read ++ (copyIDBuffers (buf.drop read) ids).1).map (·.bytes) =
      (buf.map (·.bytes)).take read ++ ids.take (buf.length - read) ++ (buf.map (·.bytes)).drop (read + ids.length) := by
  rw [List.map_append, copy_id_buffers_bytes sized, List.map_take, List.length_drop, List.drop_drop, List.map_drop,
    List.append_assoc]

theorem copied_count (buf : List ObjectID) (read : Nat) (ids : List (List UInt8)) :
    (copyIDBuffers (buf.drop read) ids).2 = min (buf.length - read) ids.length := by
  rw [copy_id_buffers_eq, List.length_drop]

/-- What a Read that started with `read` arrays of `buf` filled returns, the values `ids` being
the ones it had still to deliver. -/
structure Filled (ending : IOError) (ids : List (List UInt8)) (buf : List ObjectID) (read : Nat)
    (out : (Nat × List ObjectID × Option IOError) × ObjectListReader) : Prop where
  count : out.1.1 = read + min (buf.length - read) ids.length
  bytes : out.1.2.1.map (·.bytes) =
    (buf.map (·.bytes)).take read ++ ids.take (out.1.1 - read) ++ (buf.map (·.bytes)).drop out.1.1
  rest : out.2.pending = ids.drop (out.1.1 - read)
  ok : ∀ r ∈ out.2.responses, r.status = none
  ending_eq : out.2.ending = ending
  err : out.1.2.2 = if out.1.1 = buf.length then none else some ending

theorem length_fill (buf : List ObjectID) (read : Nat) (ids : List (List UInt8)) (within : read ≤ buf.length) :
    (buf.take read ++ (copyIDBuffers (buf.drop read) ids).1).length = buf.length := by
  rw [List.length_append, length_copy_id_buffers, List.length_take, List.length_drop]
  omega

theorem Filled.cons {ending : IOError} {ids rest : List (List UInt8)} {buf : List ObjectID} {read : Nat}
    {out : (Nat × List ObjectID × Option IOError) × ObjectListReader} (sized : ∀ v ∈ ids, v.length = 32)
    (short : read + ids.length < buf.length)
    (next : Filled ending rest (buf.take read ++ (copyIDBuffers (buf.drop read) ids).1) (read + ids.length) out) :
    Filled ending (ids ++ rest) buf read out := by
  have length := length_fill buf read ids (by omega)
  have count := next.count
  rw [length] at count
  have past : read + ids.length ≤ out.1.1 := by omega
  -- the buffer after this response: its old arrays before `read`, the values, its old arrays after
  have after : (buf.take read ++ (copyIDBuffers (buf.drop read) ids).1).map (·.bytes) =
      ((buf.map (·.bytes)).take read ++ ids) ++ (buf.map (·.bytes)).drop (read + ids.length) := by
    rw [fill_bytes sized, List.take_of_length_le (l := ids) (by omega)]
  have front : ((buf.map (·.bytes)).take read ++ ids).length = read + ids.length := by
    rw [List.length_append, List.length_take, List.length_map]
    omega
  have taken : (ids ++ rest).take (out.1.1 - read) = ids ++ rest.take (out.1.1 - (read + ids.length)) := by
    rw [List.take_append, List.take_of_length_le (by omega)]
    congr 2
    omega
  have dropped : (ids ++ rest).drop (out.1.1 - read) = rest.drop (out.1.1 - (read + ids.length)) := by
    rw [List.drop_append, List.drop_eq_nil_of_le (by omega), List.nil_append]
    congr 1
    omega
  refine ⟨?_, ?_, ?_, next.ok, next.ending_eq, ?_⟩
  · rw [count, List.length_append]
    omega
  · rw [next.bytes, after, List.take_left' front, List.drop_append, List.drop_eq_nil_of_le (by rw [front]; omega),
      List.nil_append, List.drop_drop, front, taken, Nat.add_sub_cancel' past]
    simp only [List.append_assoc]
  · rw [next.rest, dropped]
  · rw [next.err, length]

theorem Filled.full {x : ObjectListReader} {ids rest : List (List UInt8)} {buf : List ObjectID} {read : Nat}
    (empty : x.tail = []) (sized : ∀ v ∈ ids, v.length = 32) (rs : List SearchResponse)
    (okRest : ∀ r ∈ rs, r.status = none) (restEq : (rs.map (·.idList)).flatten = rest)
    (full : read + (copyIDBuffers (buf.drop read) ids).2 = buf.length) :
    Filled x.ending (ids ++ rest) buf read
      ((read + (copyIDBuffers (buf.drop read) ids).2, buf.take read ++ (copyIDBuffers (buf.drop read) ids).1, none),
        { x with responses := rs, err := none, tail := x.tail ++ ids.drop (copyIDBuffers (buf.drop read) ids).2 }) := by
  have count := copied_count buf read ids
  have fits : buf.length - read ≤ ids.length := by omega
  have beyond : (buf.map (·.bytes)).drop (read + ids.length) = [] :=
    List.drop_eq_nil_of_le (by rw [List.length_map]; omega)
  refine ⟨?_, ?_, ?_, okRest, rfl, ?_⟩
  · dsimp only
    rw [count, List.length_append]
    omega
  · dsimp only
    rw [fill_bytes sized, full, beyond, List.drop_eq_nil_of_le (Nat.le_of_eq (List.length_map _)),
      List.take_append, Nat.sub_eq_zero_of_le fits, List.take_zero]
    simp only [List.append_nil]
  · simp only [pending, empty, List.nil_append, restEq]
    rw [Nat.add_sub_cancel_left, List.drop_append_of_le_length (by omega)]
  · dsimp only
    rw [if_pos full]

theorem read_loop_filled {x : ObjectListReader} (empty : x.tail = []) (rs : List SearchResponse) :
    ∀ (buf : List ObjectID) (read : Nat), (∀ r ∈ rs, r.status = none) →
      (∀ v ∈ (rs.map (·.idList)).flatten, v.length = 32) → read < buf.length →
      Filled x.ending (rs.map (·.idList)).flatten buf read (x.readLoop buf read rs) := by
  induction rs with
  | nil =>
      -- the stream ends: nothing more is copied, and Read returns its error
      intro buf read _ _ within
      refine ⟨?_, ?_, ?_, ?_, rfl, ?_⟩ <;>
        simp only [readLoop, List.map_nil, List.flatten_nil, List.length_nil, Nat.min_zero, Nat.add_zero,
          Nat.sub_self, List.take_zero, List.append_nil, List.take_append_drop, pending, empty, List.drop_nil, List.not_mem_nil, false_imp_iff, implies_true]
      rw [if_neg (Nat.ne_of_lt within)]
  | cons resp rs ih =>
      intro buf read ok sized within
      have status := ok resp List.mem_cons_self
      have okRest : ∀ r ∈ rs, r.status = none := fun r mem => ok r (List.mem_cons_of_mem _ mem)
      rw [List.map_cons, List.flatten_cons] at sized ⊢
      have sizedIds : ∀ v ∈ resp.idList, v.length = 32 := fun v mem => sized v (List.mem_append_left _ mem)
      have sizedRest := fun v mem => sized v (List.mem_append_right resp.idList mem)
      by_cases noIds : resp.idList = []
      · simp only [readLoop, status, noIds, if_true, List.nil_append]
        exact ih buf read okRest sizedRest within
      · by_cases full : read + (copyIDBuffers (buf.drop read) resp.idList).2 = buf.length
        · simp only [readLoop, status, noIds, if_false, if_pos full]
          exact Filled.full empty sizedIds rs okRest rfl full
        · -- every value fits, and the loop goes on behind them
          have count := copied_count buf read resp.idList
          have short : read + resp.idList.length < buf.length := by omega
          have allCopied : (copyIDBuffers (buf.drop read) resp.idList).2 = resp.idList.length := by omega
          simp only [readLoop, status, noIds, if_false]
          rw [if_neg full, allCopied]
          exact Filled.cons sizedIds short
            (ih _ _ okRest sizedRest (by rw [length_fill buf read resp.idList (by omega)]; exact short))

theorem read_filled {x : ObjectListReader} {buf : List ObjectID} (nonempty : buf ≠ [])
    (ok : ∀ r ∈ x.responses, r.status = none) (sized : ∀ v ∈ x.pending, v.length = 32) :
    ∃ out, x.read buf = some out ∧ Filled x.ending x.pending buf 0 out := by
  have sizedTail : ∀ v ∈ x.tail, v.length = 32 := fun v mem => sized v (List.mem_append_left _ mem)
  have sizedRest := fun v mem => sized v (List.mem_append_right x.tail mem)
  have count : (copyIDBuffers buf x.tail).2 = min buf.length x.tail.length := by
    rw [copy_id_buffers_eq]
  have positive : 0 < buf.length := List.length_pos_iff.mpr nonempty
  simp only [read, if_neg nonempty]
  by_cases full : buf.length = (copyIDBuffers buf x.tail).2
  · -- the retained tail alone fills the buffer
    rw [if_pos full]
    have fits : buf.length ≤ x.tail.length := by omega
    refine ⟨_, rfl, ?_, ?_, ?_, ok, rfl, ?_⟩
    · dsimp only
      rw [count, pending, List.length_append]
      omega
    · dsimp only
      rw [copy_id_buffers_bytes sizedTail, List.drop_eq_nil_of_le fits, List.map_nil, List.take_zero, List.drop_eq_nil_of_le
        (by rw [List.length_map]; omega), pending, Nat.sub_zero, ← full, List.take_append_of_le_length fits]
      simp only [List.append_nil, List.nil_append]
    · simp only [pending, Nat.sub_zero]
      rw [List.drop_append_of_le_length (by omega)]
    · rw [if_pos full.symm]
  · -- the whole tail is copied, and the loop over the responses goes on behind it
    rw [if_neg full]
    have allCopied : (copyIDBuffers buf x.tail).2 = x.tail.length := by omega
    have next := @read_loop_filled { x with tail := x.tail.drop (copyIDBuffers buf x.tail).2 }
      (by rw [allCopied, List.drop_length]) x.responses (copyIDBuffers buf x.tail).1 (copyIDBuffers buf x.tail).2 ok
      sizedRest (by rw [length_copy_id_buffers]; omega)
    rw [allCopied] at next ⊢
    refine ⟨_, rfl, Filled.cons sizedTail (by omega) ?_⟩
    rw [List.take_zero, List.drop_zero, List.nil_append, Nat.zero_add]
    exact next

end Delivery

theorem read_copies_unchecked (d : ObjectID) (value : List UInt8) (rest : List SearchResponse) (ending : IOError) :
    ({ responses := ⟨none, [value]⟩ :: rest, ending, err := none, tail := [] } : ObjectListReader).read [d] =
      some ((1, [copyID d value], none), { responses := rest, ending, err := none, tail := [] }) := by
  simp [read, readLoop, copyIDBuffers]

/- A 3-byte value read into an array that held 0xAA bytes comes out as those 3 bytes followed by
   29 of the old ones, and Read reports no error. -/

theorem read_pads_short_id :
    ∃ out, ({ responses := [⟨none, [[1, 2, 3]]⟩], ending := .eof, err := none, tail := [] } : ObjectListReader).read
        [⟨List.replicate 32 0xAA, List.length_replicate⟩] = some out ∧
      out.1.1 = 1 ∧ out.1.2.2 = none ∧ out.1.2.1.map (·.bytes) = [[1, 2, 3] ++ List.replicate 29 0xAA] :=
  ⟨_, rfl, rfl, rfl, rfl⟩

end ObjectListReader

end NeoFS.Client
