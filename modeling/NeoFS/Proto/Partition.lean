import NeoFS.Proto.Buffers
import NeoFS.Proto.Scan

set_option autoImplicit false

/- A message scanned from buffers: how the bytes are split into buffers changes nothing that
   reads them, so the scans of two splits of one byte string are the same computation, with the
   same interceptor calls, when the interceptors read the bytes of what they are given. -/
namespace NeoFS.Proto

open Lib Lib.Reader

theorem scan_split_independent {m : Type → Type} [Monad m] {ε σ : Type} (schemes : Schemes σ)
    (utf8Valid : List UInt8 → Bool) (checksum : List UInt8 → List UInt8) (isContinue : ε → Bool)
    (scheme : σ) (opts : Options m ε (List UInt8)) (messageOpts : MessageOptions m ε (List UInt8))
    (split₁ split₂ : List (List UInt8)) (same : split₁.flatten = split₂.flatten) :
    scanMessageOrdered schemes utf8Valid checksum isContinue (BuffersSlice.new split₁) scheme
        (opts.comap BuffersSlice.data) =
      scanMessageOrdered schemes utf8Valid checksum isContinue (BuffersSlice.new split₂) scheme
        (opts.comap BuffersSlice.data) ∧
    scanMessage schemes utf8Valid checksum isContinue (BuffersSlice.new split₁) scheme
        (messageOpts.comap BuffersSlice.data) =
      scanMessage schemes utf8Valid checksum isContinue (BuffersSlice.new split₂) scheme
        (messageOpts.comap BuffersSlice.data) := by
  constructor
  · rw [scan_message_ordered_refines schemes utf8Valid checksum isContinue BuffersSlice.refines,
      scan_message_ordered_refines schemes utf8Valid checksum isContinue BuffersSlice.refines,
      BuffersSlice.data_new, BuffersSlice.data_new, same]
  · rw [scan_message_refines schemes utf8Valid checksum isContinue BuffersSlice.refines,
      scan_message_refines schemes utf8Valid checksum isContinue BuffersSlice.refines,
      BuffersSlice.data_new, BuffersSlice.data_new, same]

-- A message of one scheme whose field 1 is a bytes field, with no format to check.
def payloadSchemes : Schemes Unit where
  scheme _ :=
    { fields := fun num => if num = 1 then some ⟨"payload", .bytes⟩ else none
      binaryFields := fun _ => none
      nestedMessageFields := fun _ => none
      nestedMessageAliases := fun _ => none
      recursiveField := 0 }
  resolve _ := none

-- Field 1 with the two bytes 7 and 8, in one buffer and split after the first byte of the value.
def payloadWhole : List (List UInt8) := [[0x0a, 0x02, 0x07, 0x08]]
def payloadSplit : List (List UInt8) := [[0x0a, 0x02, 0x07], [0x08]]

def continueError (err : String) : Bool := err == "continue"

-- An interceptor that takes the bytes of field 1 and rejects the value 7, 8.
def rejectSevenEight : Options Id String (List UInt8) where
  interceptBytes := some fun _ v => if v = [7, 8] then some "rejected" else none

theorem scan_split_independent_payload :
    payloadWhole.flatten = payloadSplit.flatten ∧
    (scanMessageOrdered payloadSchemes (fun _ => true) id continueError (BuffersSlice.new payloadWhole) ()
        (rejectSevenEight.comap BuffersSlice.data) =
      scanMessageOrdered payloadSchemes (fun _ => true) id continueError (BuffersSlice.new payloadSplit) ()
        (rejectSevenEight.comap BuffersSlice.data) ∧
    scanMessage payloadSchemes (fun _ => true) id continueError (BuffersSlice.new payloadWhole) ()
        (({} : MessageOptions Id String (List UInt8)).comap BuffersSlice.data) =
      scanMessage payloadSchemes (fun _ => true) id continueError (BuffersSlice.new payloadSplit) ()
        (({} : MessageOptions Id String (List UInt8)).comap BuffersSlice.data)) :=
  ⟨by decide, scan_split_independent payloadSchemes (fun _ => true) id continueError () rejectSevenEight {}
    payloadWhole payloadSplit (by decide)⟩

-- An interceptor of the BuffersSlice itself: it writes the value out and counts the writes,
-- one for each buffer the value spans.
def countWrites : Options Id String BuffersSlice where
  interceptBytes := some fun _ v => if v.writeTo.length ≤ 1 then none else some "split"

theorem interceptor_sees_split :
    payloadWhole.flatten = payloadSplit.flatten ∧
    (scanMessageOrdered payloadSchemes (fun _ => true) id continueError (BuffersSlice.new payloadWhole) ()
        countWrites).run.run = .ok true ∧
    (scanMessageOrdered payloadSchemes (fun _ => true) id continueError (BuffersSlice.new payloadSplit) ()
        countWrites).run.run = .error (.error (.intercepted "split")) := by
  decide

end NeoFS.Proto
