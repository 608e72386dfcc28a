import Vibemux.Harness.Attempt

/-!
# Framing of JSON lines

Chunks of any size become the lines of a stream. At most one incomplete line is kept, and the framer
stays failed after its first failure. `readStream` says what the lines of a whole stream are.
-/

namespace Vibemux

abbrev Byte := UInt8

/-- The byte `\n`. -/
def lineFeed : Byte := 10

/-- The byte `\r`. -/
def carriageReturn : Byte := 13

/-- Removes one trailing CR; what is left must be a non-empty text. -/
def decodeFrame (frame : List Byte) : Except DispatchError String :=
  let frame := if frame.getLast? = some carriageReturn then frame.dropLast else frame
  if frame = [] then .error .emptyRecord
  else
    match String.fromUTF8? ⟨frame.toArray⟩ with
    | some text => .ok text
    | none => .error .invalidUtf8

/-- The framer of one stream. -/
structure JsonLineFramer where
  pending : List Byte
  maxFrameBytes : Nat
  failure : Option DispatchError
deriving DecidableEq

/-- What a call of the framer gives: the frames it completed and its error. -/
structure FramerOutput where
  frames : List String
  error : Option DispatchError
deriving DecidableEq

/-- The loop of `push_unpoisoned`: what it returns and what is pending after it. -/
def pushLoop (maxFrameBytes : Nat) (pending chunk : List Byte) (frames : List String) :
    FramerOutput × List Byte :=
  if chunk = [] then (⟨frames, none⟩, pending)
  else
    match _hlf : chunk.findIdx? (· == lineFeed) with
    | none =>
      if maxFrameBytes < pending.length + chunk.length then (⟨frames, some .frameTooLarge⟩, pending)
      else (⟨frames, none⟩, pending ++ chunk)
    | some index =>
      if maxFrameBytes < pending.length + (chunk.take index).length then
        (⟨frames, some .frameTooLarge⟩, pending)
      else
        match decodeFrame (pending ++ chunk.take index) with
        | .error error => (⟨frames, some error⟩, [])
        | .ok frame => pushLoop maxFrameBytes [] (chunk.drop (index + 1)) (frames ++ [frame])
termination_by chunk.length
decreasing_by
  have hindex : index < chunk.length := (List.findIdx?_eq_some_iff_getElem.1 _hlf).1
  rw [List.length_drop]
  omega

namespace JsonLineFramer

def new (maxFrameBytes : Nat) : JsonLineFramer := ⟨[], maxFrameBytes, none⟩

/-- Consumes a chunk. On an error the frames completed before the failing one are still returned. -/
def push (self : JsonLineFramer) (chunk : List Byte) : FramerOutput × JsonLineFramer :=
  match self.failure with
  | some failure => (⟨[], some failure⟩, self)
  | none =>
    let (output, pending) := pushLoop self.maxFrameBytes self.pending chunk []
    match output.error with
    | some failure => (output, { self with pending := [], failure := some failure })
    | none => (output, { self with pending })

/-- Ends the stream. A non-empty last line without LF is accepted. -/
def finish (self : JsonLineFramer) : FramerOutput × JsonLineFramer :=
  match self.failure with
  | some failure => (⟨[], some failure⟩, self)
  | none =>
    if self.pending = [] then (⟨[], none⟩, self)
    else
      match decodeFrame self.pending with
      | .ok frame => (⟨[frame], none⟩, { self with pending := [] })
      | .error failure => (⟨[], some failure⟩, { self with pending := [], failure := some failure })

def pendingBytes (self : JsonLineFramer) : Nat := self.pending.length

/-- The calls a reader of a stream can make. -/
inductive Call where
  | push (chunk : List Byte)
  | finish

def call (self : JsonLineFramer) : Call → FramerOutput × JsonLineFramer
  | .push chunk => self.push chunk
  | .finish => self.finish

/-- What a sequence of calls returns, call by call. -/
def outputs (self : JsonLineFramer) : List Call → List FramerOutput
  | [] => []
  | c :: rest => (self.call c).1 :: (self.call c).2.outputs rest

/-- The framer after a sequence of calls. -/
def after (self : JsonLineFramer) (calls : List Call) : JsonLineFramer :=
  calls.foldl (fun framer c => (framer.call c).2) self

end JsonLineFramer

/-! ## The lines of a stream

The reference for the framer. It shares no function with it. -/

/-- A line without one CR at its end. -/
def withoutReturn : List Byte → List Byte
  | [] => []
  | [byte] => if byte = carriageReturn then [] else [byte]
  | byte :: next :: rest => byte :: withoutReturn (next :: rest)

/-- The UTF-8 encoding of a text, character by character. -/
def encodeText (text : String) : List Byte := text.toList.flatMap String.utf8EncodeChar

open Classical in
/-- The text that is encoded as `bytes`, where there is one. -/
noncomputable def utf8Text (bytes : List Byte) : Option String :=
  if h : ∃ text, encodeText text = bytes then some h.choose else none

/-- The text of a line, which is not empty. -/
noncomputable def readText (bytes : List Byte) : Except DispatchError String :=
  if bytes = [] then .error .emptyRecord
  else
    match utf8Text bytes with
    | some text => .ok text
    | none => .error .invalidUtf8

/-- One line: its CR counts for the limit but not for the text. -/
noncomputable def readLine (limit : Nat) (line : List Byte) : Except DispatchError String :=
  if limit < line.length then .error .frameTooLarge else readText (withoutReturn line)

/-- The lines in order, up to the first one that fails. The last one has no LF and may be empty. -/
noncomputable def readLines (limit : Nat) : List (List Byte) → FramerOutput
  | [] => ⟨[], none⟩
  | line :: rest =>
    if rest = [] ∧ line = [] then ⟨[], none⟩
    else
      match readLine limit line with
      | .error error => ⟨[], some error⟩
      | .ok frame => ⟨frame :: (readLines limit rest).frames, (readLines limit rest).error⟩

/-- The lines between the LFs of a stream. -/
noncomputable def readStream (limit : Nat) (stream : List Byte) : FramerOutput :=
  readLines limit (stream.splitOn lineFeed)

end Vibemux
