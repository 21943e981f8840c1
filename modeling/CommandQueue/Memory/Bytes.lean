/-!
# Byte sequences

Buffers hold bytes.  Two operations read and change them: `Bytes.window` is a
run of bytes, `Bytes.splice` replaces a run by another of the same length.
Inside its run a splice shows the new bytes, elsewhere the old ones.
-/

namespace CommandQueue

abbrev Bytes := List UInt8

namespace Bytes

/-- The `count` bytes that start at `offset`, or as many of them as there are. -/
def window (bytes : Bytes) (offset count : Nat) : Bytes :=
  (bytes.drop offset).take count

/-- The bytes with those from `offset` on replaced by `data`. -/
def splice (bytes : Bytes) (offset : Nat) (data : Bytes) : Bytes :=
  bytes.take offset ++ data ++ bytes.drop (offset + data.length)

@[simp]
theorem length_window (bytes : Bytes) (offset count : Nat) :
    (window bytes offset count).length = min count (bytes.length - offset) := by
  simp [window]

theorem getElem?_window (bytes : Bytes) (offset count index : Nat) :
    (window bytes offset count)[index]? =
      if index < count then bytes[offset + index]? else none := by
  simp [window, List.getElem?_take]

theorem length_splice
    {bytes data : Bytes} {offset : Nat}
    (fits : offset + data.length ≤ bytes.length) :
    (splice bytes offset data).length = bytes.length := by
  simp only [splice, List.length_append, List.length_take, List.length_drop]
  omega

theorem getElem?_splice
    {bytes data : Bytes} {offset : Nat}
    (fits : offset + data.length ≤ bytes.length) (index : Nat) :
    (splice bytes offset data)[index]? =
      if offset ≤ index ∧ index < offset + data.length then
        data[index - offset]?
      else
        bytes[index]? := by
  have front : (bytes.take offset).length = offset := by
    rw [List.length_take]; omega
  unfold splice
  rw [List.append_assoc, List.getElem?_append, front]
  by_cases before : index < offset
  · have outside : ¬ (offset ≤ index ∧ index < offset + data.length) := by omega
    simp [before, outside]
  · rw [if_neg before, List.getElem?_append]
    by_cases inside : index < offset + data.length
    · have within : index - offset < data.length := by omega
      have both : offset ≤ index ∧ index < offset + data.length := by omega
      simp [within, both]
    · have beyond : ¬ index - offset < data.length := by omega
      have outside : ¬ (offset ≤ index ∧ index < offset + data.length) := by omega
      rw [if_neg beyond, if_neg outside, List.getElem?_drop]
      congr 1
      omega

end Bytes

end CommandQueue
