import ContextStream.Text.Hex
import ContextStream.Text.Split
import ContextStream.Text.Utf8

/-!
# Messages on the wire

A message is a line, fields and a body. Its body has a stated length, or comes in
chunks, or ends with the connection.
-/

namespace ContextStream.Http

open ContextStream.Text

/-- A message on the wire. The names of fields are in small letters. -/
structure Frame where
  opening : String
  fields : List (String × String)
  body : List UInt8
  deriving DecidableEq, Repr

namespace Frame

/-- The value of a field. -/
def field? (frame : Frame) (name : String) : Option String :=
  (frame.fields.find? (·.1 = name)).map (·.2)

/-! ## Writing -/

/-- A line of the head. -/
def line (text : String) : List UInt8 :=
  Utf8.encode text.toList ++ [13, 10]

/-- The bytes of a message whose body has a stated length. -/
def bytes (frame : Frame) : List UInt8 :=
  let fields := frame.fields ++ [("content-length", toString frame.body.length)]
  line frame.opening ++ fields.flatMap (fun field => line (field.1 ++ ": " ++ field.2)) ++
    line "" ++ frame.body

/-! ## Reading -/

/-- Cuts at the first end of a line. -/
def cutLine (front : List UInt8) : List UInt8 → Option (List UInt8 × List UInt8)
  | 13 :: 10 :: rest => some (front.reverse, rest)
  | byte :: rest => cutLine (byte :: front) rest
  | [] => none

/-- The lines of a head, and what follows it. Every line takes a byte at least, so that
the number of bytes bounds the number of rounds. -/
def cutHead : (rounds : Nat) → List UInt8 → Option (List (List Char) × List UInt8)
  | 0, _ => none
  | rounds + 1, bytes =>
      (cutLine [] bytes).bind fun (front, rest) =>
        if front.isEmpty then some ([], rest)
        else
          (cutHead rounds rest).map fun (lines, body) => (Utf8.decodeLossy front :: lines, body)

/-- The field that a line is. -/
def readField (line : List Char) : String × String :=
  let (name, value) := cutAt (· == ':') line
  ((String.ofList (trimmed name)).toLower, String.ofList (trimmed (value.drop 1)))

/-- The message that bytes begin, once its head is complete. -/
def read? (bytes : List UInt8) : Option Frame :=
  (cutHead bytes.length bytes).bind fun (lines, body) =>
    lines.head?.map fun opening =>
      { opening := String.ofList opening, fields := (lines.drop 1).map readField, body }

/-- The length that the head states. -/
def length? (frame : Frame) : Option Nat :=
  (frame.field? "content-length").bind String.toNat?

/-- Whether the body comes in chunks. -/
def isChunked (frame : Frame) : Bool :=
  (frame.field? "transfer-encoding").any (·.toLower == "chunked")

/-- The size in front of a chunk. -/
def chunkSize? (line : List UInt8) : Option Nat :=
  let digits := (Utf8.decodeLossy line).takeWhile fun c => (Hex.value? c).isSome
  if digits.isEmpty then none
  else some (digits.foldl (fun n c => 16 * n + (Hex.value? c).getD 0) 0)

/-- The body that chunks make up, once the last of them is there. -/
def joinChunks : (rounds : Nat) → List UInt8 → Option (List UInt8)
  | 0, _ => none
  | rounds + 1, bytes =>
      (cutLine [] bytes).bind fun (front, rest) =>
        (chunkSize? front).bind fun size =>
          if size = 0 then some []
          else if rest.length < size + 2 then none
          else (joinChunks rounds (rest.drop (size + 2))).map (rest.take size ++ ·)

/-- The body, once all of it is there. A body without any sign of its end is never
complete. -/
def whole? (frame : Frame) : Option (List UInt8) :=
  if frame.isChunked then joinChunks frame.body.length frame.body
  else
    frame.length?.bind fun length =>
      if length ≤ frame.body.length then some (frame.body.take length) else none

/-- The body when the connection has ended. -/
def ended? (frame : Frame) : Option (List UInt8) :=
  if frame.isChunked ∨ frame.length?.isSome then frame.whole? else some frame.body

end Frame

end ContextStream.Http
