/-
Decoding UTF-8.

A byte sequence is text if every character has its one proper encoding: no byte that
cannot begin a character, no missing continuation byte, no encoding longer than
needed, none of a surrogate and none beyond the last code point.  A fault names the
bytes concerned by their positions and says which of three things is wrong: the first
byte, a later one, or the end of the data.
-/
import SpokenIndex.Text.Quoted

namespace SpokenIndex.Utf8

/-- What is wrong with a byte sequence. -/
inductive Cause where
  | start
  | continuation
  | ended
  deriving DecidableEq, Repr

/-- A fault: the position of the first byte concerned, how many there are, and that byte. -/
structure Fault where
  position : Nat
  count : Nat
  byte : UInt8
  cause : Cause
  deriving DecidableEq, Repr

/-- The cause in words. -/
def Cause.words : Cause → String
  | start => "invalid start byte"
  | continuation => "invalid continuation byte"
  | ended => "unexpected end of data"

/-- The fault as a message. -/
def Fault.message (f : Fault) : String :=
  let bytes :=
    if f.count = 1 then
      "byte 0x" ++ String.ofList (Text.hexDigits 2 f.byte.toNat) ++ " in position "
        ++ toString f.position
    else
      "bytes in position " ++ toString f.position ++ "-" ++ toString (f.position + f.count - 1)
  "'utf-8' codec can't decode " ++ bytes ++ ": " ++ f.cause.words

/-- The six bits of a continuation byte. -/
def bits (b : UInt8) : Nat :=
  b.toNat % 64

/-- The least and greatest second byte after a first byte. -/
def secondRange (b : UInt8) : UInt8 × UInt8 :=
  if b == 0xE0 then (0xA0, 0xBF)
  else if b == 0xED then (0x80, 0x9F)
  else if b == 0xF0 then (0x90, 0xBF)
  else if b == 0xF4 then (0x80, 0x8F)
  else (0x80, 0xBF)

/-- How many bytes a character has, by its first byte; zero if none begins with it. -/
def lengthOf (b : UInt8) : Nat :=
  if b < 0x80 then 1
  else if b < 0xC2 then 0
  else if b < 0xE0 then 2
  else if b < 0xF0 then 3
  else if b < 0xF5 then 4
  else 0

/-- The payload of the first byte of a character of a given length. -/
def firstBits (length : Nat) (b : UInt8) : Nat :=
  match length with
  | 2 => b.toNat % 32
  | 3 => b.toNat % 16
  | 4 => b.toNat % 8
  | _ => b.toNat

/-- Reads `more` continuation bytes.  On failure: how many bytes were fine, and the cause. -/
def continuations : (more : Nat) → (low high : UInt8) → (count code : Nat) → List UInt8 →
    Except (Nat × Cause) (Nat × List UInt8)
  | 0, _, _, _, code, rest => .ok (code, rest)
  | _ + 1, _, _, count, _, [] => .error (count, .ended)
  | more + 1, low, high, count, code, b :: rest =>
    if low ≤ b ∧ b ≤ high then
      continuations more 0x80 0xBF (count + 1) (64 * code + bits b) rest
    else .error (count, .continuation)

theorem continuations_length {more low high count code bytes code' rest}
    (h : continuations more low high count code bytes = .ok (code', rest)) :
    rest.length ≤ bytes.length := by
  induction more generalizing low high count code bytes with
  | zero =>
    simp only [continuations, Except.ok.injEq, Prod.mk.injEq] at h
    simp [h.2]
  | succ more ih =>
    cases bytes with
    | nil => simp [continuations] at h
    | cons b bytes =>
      simp only [continuations] at h
      split at h
      · exact Nat.le_succ_of_le (ih h)
      · simp at h

/-- Decodes the bytes from a position on. -/
def decodeFrom (position : Nat) (bytes : List UInt8) : Except Fault (List Char) :=
  match bytes with
  | [] => .ok []
  | b :: rest =>
    match lengthOf b with
    | 0 => .error ⟨position, 1, b, .start⟩
    | length + 1 =>
      let (low, high) := secondRange b
      match h : continuations length low high 1 (firstBits (length + 1) b) rest with
      | .error (count, cause) => .error ⟨position, count, b, cause⟩
      | .ok (code, after) =>
        have : after.length ≤ rest.length := continuations_length h
        match decodeFrom (position + length + 1) after with
        | .ok chars => .ok (Char.ofNat code :: chars)
        | .error fault => .error fault
termination_by bytes.length

/-- The text that a byte sequence encodes. -/
def decode (bytes : List UInt8) : Except Fault (List Char) :=
  decodeFrom 0 bytes

end SpokenIndex.Utf8
