import Vibemux.Harness.ProtocolSession
import Vibemux.Workflow.CanonicalJson

/-!
# Paging of captured transcript records

A page carries fragments of byte-exact vendor records; a record larger than a page is split between
characters. The builder counts the size of the page's JSON encoding, with the widest cursor in place of
the one to come. Sizes and offsets are numbers of bytes.
-/

namespace Vibemux

open Checked Text

def ObservationKind.asStr : ObservationKind → String
  | started => "started"
  | text => "text"
  | tool => "tool"
  | approval => "approval"
  | usage => "usage"
  | completed => "completed"
  | failed => "failed"
  | cancelled => "cancelled"
  | opaqueRecord => "opaque"

/-- One captured vendor record. -/
structure ObservedRecord where
  sequence : Nat
  kind : ObservationKind
  rawJson : List Char
deriving DecidableEq

def ObservedRecord.byteCount (record : ObservedRecord) : Nat := byteLen record.rawJson

/-- Where a read resumes. -/
structure OutputCursor where
  /-- Every record up to this sequence has been delivered in full. -/
  afterSequence : Nat
  /-- Bytes already delivered of the first record after it. -/
  cursorOffset : Nat
deriving DecidableEq

/-- One slice of a captured record. -/
structure DispatchOutputFragment where
  sequence : Nat
  kind : ObservationKind
  totalBytes : Nat
  offset : Nat
  fragment : List Char
deriving DecidableEq

/-- One read of a transcript. -/
structure DispatchOutputPage where
  fragments : List DispatchOutputFragment
  next : OutputCursor
  complete : Bool
deriving DecidableEq

/-- Size limits of one page. -/
structure OutputPageLimits where
  rawBytes : Nat
  fragments : Nat
  encodedBytes : Nat
deriving DecidableEq

/-! ## The encoding of a page -/

def encodeFragment (value : DispatchOutputFragment) : List Char :=
  '{' :: "\"sequence\":".toList ++ decimal value.sequence ++ ",\"kind\":".toList ++
    writeString value.kind.asStr ++ ",\"total_bytes\":".toList ++ decimal value.totalBytes ++
    ",\"offset\":".toList ++ decimal value.offset ++ ",\"fragment\":".toList ++
    writeString (String.ofList value.fragment) ++ ['}']

def encodeCursor (cursor : OutputCursor) : List Char :=
  '{' :: "\"after_sequence\":".toList ++ decimal cursor.afterSequence ++ ",\"cursor_offset\":".toList ++
    decimal cursor.cursorOffset ++ ['}']

def encodePage (page : DispatchOutputPage) : List Char :=
  '{' :: "\"fragments\":[".toList ++ commaSeparated (page.fragments.map encodeFragment) ++
    "],\"next\":".toList ++ encodeCursor page.next ++ ",\"complete\":".toList ++
    (if page.complete then "true".toList else "false".toList) ++ ['}']

/-- Length of a character of a JSON string after escaping. -/
def escapedLength (c : Char) : Nat :=
  if c = '"' ∨ c = '\\' ∨ c = '\x08' ∨ c = '\t' ∨ c = '\n' ∨ c = '\x0c' ∨ c = '\r' then 2
  else if c.toNat ≤ 0x1F then 6
  else c.utf8Size

/-- Encoded size of a fragment of `record` at `offset` with empty content. -/
def fragmentOverhead (record : ObservedRecord) (offset : Nat) : Nat :=
  byteLen (encodeFragment ⟨record.sequence, record.kind, record.byteCount, offset, []⟩)

/-- Encoded size of a page without fragments, with the widest cursor and flag. -/
def emptyPageBytes : Nat := byteLen (encodePage ⟨[], ⟨u64Max, u64Max⟩, false⟩)

/-! ## Building a page -/

/-- The loop of `fittingPrefix`. -/
def fittingPrefixFrom (rawBudget encodedBudget length escaped : Nat) : List Char → Nat × Nat
  | [] => (length, escaped)
  | c :: rest =>
    if rawBudget < length + c.utf8Size ∨ encodedBudget < escaped + escapedLength c then (length, escaped)
    else
      fittingPrefixFrom rawBudget encodedBudget (length + c.utf8Size) (escaped + escapedLength c) rest

/-- The longest start of `text` within both budgets, as its byte length and its escaped length. -/
def fittingPrefix (text : List Char) (rawBudget encodedBudget : Nat) : Nat × Nat :=
  fittingPrefixFrom rawBudget encodedBudget 0 0 text

/-- The text from a byte offset on. -/
def textFrom (text : List Char) (offset : Nat) : List Char :=
  (splitAt offset text).elim [] Prod.snd

/-- The text up to a byte offset. -/
def textUpTo (text : List Char) (offset : Nat) : List Char :=
  (splitAt offset text).elim [] Prod.fst

/-- The local variables of the builder's loop. -/
structure PageBuilder where
  fragments : List DispatchOutputFragment
  next : OutputCursor
  rawBytes : Nat
  encodedBytes : Nat
  offset : Nat

/-- The loop over the records that are left. It ends with the records, at the limit of fragments, at
a record of which no character fits and after a record that does not fit whole. -/
def PageBuilder.fill (limits : OutputPageLimits) (self : PageBuilder) :
    List ObservedRecord → PageBuilder
  | [] => self
  | record :: rest =>
    if self.fragments.length = limits.fragments then self
    else
      let separator := if self.fragments.isEmpty then 0 else 1
      let overhead := fragmentOverhead record self.offset + separator
      let text := textFrom record.rawJson self.offset
      let fitting := fittingPrefix text (limits.rawBytes - self.rawBytes)
        (limits.encodedBytes - (self.encodedBytes + overhead))
      if fitting.1 = 0 then self
      else
        let pushed : PageBuilder :=
          { self with
            fragments := self.fragments ++
              [⟨record.sequence, record.kind, record.byteCount, self.offset, textUpTo text fitting.1⟩]
            rawBytes := self.rawBytes + fitting.1
            encodedBytes := self.encodedBytes + (overhead + fitting.2) }
        if fitting.1 < byteLen text then
          { pushed with next := ⟨self.next.afterSequence, self.offset + fitting.1⟩ }
        else
          PageBuilder.fill limits
            { pushed with next := ⟨record.sequence, self.next.cursorOffset⟩, offset := 0 } rest

/-- The records after a sequence: `partition_point` on the ascending sequences of a transcript. -/
def recordsAfter (records : List ObservedRecord) (sequence : Nat) : List ObservedRecord :=
  records.dropWhile fun record => decide (record.sequence ≤ sequence)

/-- An offset must lie inside the next record, on a character boundary. -/
def checkOffset (pending : List ObservedRecord) (offset : Nat) : Except DispatchError Unit := do
  if 0 < offset then
    let first ← require pending.head? .invalidRequest
    ensure (offset < first.byteCount ∧ (splitAt offset first.rawJson).isSome) .invalidRequest
  else return ()

/-- The builder before its loop. -/
def PageBuilder.start (cursor : OutputCursor) : PageBuilder where
  fragments := []
  next := ⟨cursor.afterSequence, 0⟩
  rawBytes := 0
  encodedBytes := emptyPageBytes
  offset := cursor.cursorOffset

/-- Builds the page that starts at `cursor`. `records` are one transcript in capture order;
`finished` says no record will be added. -/
def buildOutputPage (records : List ObservedRecord) (finished : Bool) (cursor : OutputCursor)
    (limits : OutputPageLimits) : Except DispatchError DispatchOutputPage := do
  let pending := recordsAfter records cursor.afterSequence
  checkOffset pending cursor.cursorOffset
  let built := (PageBuilder.start cursor).fill limits pending
  -- otherwise the limits cannot hold even one character of the next record
  ensure (built.fragments ≠ [] ∨ pending = []) .internal
  let delivered := built.next.cursorOffset = 0 ∧
    (records.getLast?.all fun last => decide (last.sequence ≤ built.next.afterSequence)) = true
  return ⟨built.fragments, built.next, finished && decide delivered⟩

/-! ## Reassembly -/

/-- A complete record rebuilt from fragments. -/
structure ReassembledRecord where
  sequence : Nat
  kind : ObservationKind
  rawJson : List Char
deriving DecidableEq

/-- A page that does not continue the stream the reassembler has seen. -/
inductive OutputReassemblyError where
  | inconsistent
deriving DecidableEq

/-- Client-side reassembly of pages into whole records. -/
structure OutputReassembler where
  afterSequence : Nat
  partialRecord : Option ReassembledRecord
  partialTotal : Nat
deriving DecidableEq

namespace OutputReassembler

/-- Starts after a sequence, at the beginning of the next record. -/
def startingAfter (afterSequence : Nat) : OutputReassembler := ⟨afterSequence, none, 0⟩

/-- Cursor for the next read. -/
def cursor (self : OutputReassembler) : OutputCursor :=
  ⟨self.afterSequence, self.partialRecord.elim 0 fun record => byteLen record.rawJson⟩

/-- Does the fragment follow what the reassembler has seen? -/
def continuedBy (self : OutputReassembler) (fragment : DispatchOutputFragment) : Bool :=
  match self.partialRecord with
  | some record =>
    record.sequence == fragment.sequence && record.kind == fragment.kind &&
      self.partialTotal == fragment.totalBytes && byteLen record.rawJson == fragment.offset
  | none => decide (self.afterSequence < fragment.sequence) && fragment.offset == 0

/-- The record in progress with the fragment's text. -/
def extended (self : OutputReassembler) (fragment : DispatchOutputFragment) : ReassembledRecord :=
  match self.partialRecord with
  | some record => { record with rawJson := record.rawJson ++ fragment.fragment }
  | none => ⟨fragment.sequence, fragment.kind, fragment.fragment⟩

/-- One fragment of a page, with the record it completes. -/
def acceptFragment (self : OutputReassembler) (fragment : DispatchOutputFragment) :
    Except OutputReassemblyError (OutputReassembler × List ReassembledRecord) := do
  ensure (self.continuedBy fragment = true ∧ fragment.fragment ≠ []) .inconsistent
  let record := self.extended fragment
  ensure (byteLen record.rawJson ≤ fragment.totalBytes) .inconsistent
  if byteLen record.rawJson = fragment.totalBytes then
    return (⟨record.sequence, none, fragment.totalBytes⟩, [record])
  else return (⟨self.afterSequence, some record, fragment.totalBytes⟩, [])

def acceptFragments (self : OutputReassembler) :
    List DispatchOutputFragment → Except OutputReassemblyError (OutputReassembler × List ReassembledRecord)
  | [] => return (self, [])
  | fragment :: rest => do
    let (self, completed) ← self.acceptFragment fragment
    let (self, more) ← self.acceptFragments rest
    return (self, completed ++ more)

/-- Consumes one page and returns the records it completed. -/
def accept (self : OutputReassembler) (page : DispatchOutputPage) :
    Except OutputReassemblyError (OutputReassembler × List ReassembledRecord) := do
  let (self, completed) ← self.acceptFragments page.fragments
  ensure (page.next = self.cursor) .inconsistent
  return (self, completed)

end OutputReassembler

/-! ## Reading a transcript -/

/-- One page that was read: the reassembler before and after it and the records it completed. -/
structure PageRead where
  before : OutputReassembler
  page : DispatchOutputPage
  after : OutputReassembler
  completed : List ReassembledRecord

/-- What a read of a transcript fails with. -/
inductive ReadError where
  | build (error : DispatchError)
  | reassembly (error : OutputReassemblyError)
deriving DecidableEq

/-- One read at the reassembler's cursor. -/
def readPage (records : List ObservedRecord) (finished : Bool) (limits : OutputPageLimits)
    (reader : OutputReassembler) : Except ReadError PageRead := do
  let page ← (buildOutputPage records finished reader.cursor limits).mapError .build
  let (after, completed) ← (reader.accept page).mapError .reassembly
  return ⟨reader, page, after, completed⟩

/-- Reads page after page until one is complete or empty. There is no result when the pages do not end
within `fuel` reads. -/
def readPages (records : List ObservedRecord) (finished : Bool) (limits : OutputPageLimits) :
    Nat → OutputReassembler → Except ReadError (Option (List PageRead))
  | 0, _ => return none
  | fuel + 1, reader => do
    let read ← readPage records finished limits reader
    if read.page.complete ∨ read.page.fragments = [] then return some [read]
    else
      let reads ← readPages records finished limits fuel read.after
      return reads.map (read :: ·)

end Vibemux
