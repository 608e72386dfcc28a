import Vibemux.Harness.LineFramer

/-!
# Framing does not depend on the chunks

The framer is compared with a machine that reads one byte at a time: a chunk is that machine run over
its bytes, and over a whole stream the machine gives the lines of the stream. How the framer decodes a
line is compared with the encoding of texts.
-/

namespace Vibemux

open List JsonLineFramer

variable {limit : Nat}

/-- The frames so far, the bytes of the current line and the failure. -/
structure LineState where
  frames : List String
  pending : List Byte
  failure : Option DispatchError

namespace LineState

variable {limit : Nat} {frames : List String} {pending : List Byte}

/-- Reads one byte. A failure clears the line and is final. -/
def feed (limit : Nat) (state : LineState) (byte : Byte) : LineState :=
  if state.failure.isSome then state
  else if byte = lineFeed then
    match decodeFrame state.pending with
    | .error error => ⟨state.frames, [], some error⟩
    | .ok frame => ⟨state.frames ++ [frame], [], none⟩
  else if limit < state.pending.length + 1 then ⟨state.frames, [], some .frameTooLarge⟩
  else ⟨state.frames, state.pending ++ [byte], none⟩

theorem feed_failed (error : DispatchError) (byte : Byte) :
    feed limit ⟨frames, pending, some error⟩ byte = ⟨frames, pending, some error⟩ := by
  simp [feed]

/-- The LF that ends a line. -/
theorem feed_lineFeed : feed limit ⟨frames, pending, none⟩ lineFeed =
    match decodeFrame pending with
    | .error error => ⟨frames, [], some error⟩
    | .ok frame => ⟨frames ++ [frame], [], none⟩ := by
  simp [feed]

/-- A byte of the current line. -/
theorem feed_byte {byte : Byte} (hbyte : byte ≠ lineFeed) : feed limit ⟨frames, pending, none⟩ byte =
    if limit < pending.length + 1 then ⟨frames, [], some .frameTooLarge⟩
    else ⟨frames, pending ++ [byte], none⟩ := by
  simp [feed, hbyte]

theorem foldl_feed_failed (error : DispatchError) (bytes : List Byte) :
    bytes.foldl (feed limit) ⟨frames, pending, some error⟩ = ⟨frames, pending, some error⟩ := by
  induction bytes with
  | nil => rfl
  | cons byte rest ih =>
    rw [foldl_cons, feed_failed]
    exact ih

/-- What is read does not depend on the frames before it. -/
theorem foldl_feed_frames (frames : List String) (pending : List Byte)
    (failure : Option DispatchError) (bytes : List Byte) :
    bytes.foldl (feed limit) ⟨frames, pending, failure⟩ =
      let state := bytes.foldl (feed limit) ⟨[], pending, failure⟩
      ⟨frames ++ state.frames, state.pending, state.failure⟩ := by
  induction bytes generalizing frames pending failure with
  | nil => simp
  | cons byte rest ih =>
    have hbyte : feed limit ⟨frames, pending, failure⟩ byte =
        ⟨frames ++ (feed limit ⟨[], pending, failure⟩ byte).frames,
          (feed limit ⟨[], pending, failure⟩ byte).pending,
          (feed limit ⟨[], pending, failure⟩ byte).failure⟩ := by
      unfold feed
      split_ifs
      · simp
      · cases decodeFrame pending <;> simp
      · simp
      · simp
    simp only [foldl_cons]
    rw [hbyte, ih, ih (feed limit ⟨[], pending, failure⟩ byte).frames]
    simp [append_assoc]

/-- Bytes of one line: they are kept, or the line becomes too long somewhere in them. -/
theorem foldl_feed_body {body : List Byte} (hbody : lineFeed ∉ body) (hle : pending.length ≤ limit) :
    body.foldl (feed limit) ⟨frames, pending, none⟩ =
      if limit < pending.length + body.length then ⟨frames, [], some .frameTooLarge⟩
      else ⟨frames, pending ++ body, none⟩ := by
  induction body generalizing pending with
  | nil =>
    rw [if_neg (by simpa using hle)]
    simp
  | cons byte rest ih =>
    have hbyte : lineFeed ≠ byte := ne_of_not_mem_cons hbody
    have hrest : lineFeed ∉ rest := not_mem_of_not_mem_cons hbody
    rw [foldl_cons, feed_byte (Ne.symm hbyte)]
    by_cases hlong : limit < pending.length + 1
    · rw [if_pos hlong, foldl_feed_failed, if_pos (by rw [length_cons]; omega)]
    · rw [if_neg hlong, ih hrest (by rw [length_append, length_singleton]; omega)]
      have hlength : (pending ++ [byte]).length + rest.length = pending.length + (byte :: rest).length := by
        rw [length_append, length_singleton, length_cons]
        omega
      rw [hlength, append_assoc, singleton_append]

theorem pending_foldl_le (bytes : List Byte) {state : LineState}
    (h : state.pending.length ≤ limit) :
    (bytes.foldl (feed limit) state).pending.length ≤ limit := by
  induction bytes generalizing state with
  | nil => exact h
  | cons byte rest ih =>
    rw [foldl_cons]
    refine ih ?_
    unfold feed
    split_ifs with hfailed hline hlong
    · exact h
    · cases decodeFrame state.pending <;> simp
    · simp
    · rw [length_append, length_singleton]
      omega

end LineState

/-! ## A chunk is its bytes -/

/-- A chunk with an LF is a line's rest, the LF and what follows it. -/
theorem chunk_split {chunk : List Byte} {index : Nat}
    (h : chunk.findIdx? (· == lineFeed) = some index) :
    lineFeed ∉ chunk.take index ∧
      chunk = chunk.take index ++ lineFeed :: chunk.drop (index + 1) := by
  obtain ⟨hlt, hat, hbefore⟩ := findIdx?_eq_some_iff_getElem.1 h
  have hbyte : chunk[index] = lineFeed := by simpa using hat
  refine ⟨fun hmem => ?_, ?_⟩
  · obtain ⟨i, hi, hget⟩ := mem_take_iff_getElem.1 hmem
    have hi' : i < index := by omega
    exact absurd (by simpa using hget) (hbefore i hi')
  · conv_lhs => rw [← take_append_drop index chunk, drop_eq_getElem_cons hlt, hbyte]

theorem not_mem_of_findIdx {chunk : List Byte} (h : chunk.findIdx? (· == lineFeed) = none) :
    lineFeed ∉ chunk := by
  intro hmem
  have hne := findIdx?_eq_none_iff.1 h lineFeed hmem
  simp at hne

/-- The state of the byte machine after a run of the loop. -/
def loopState (result : FramerOutput × List Byte) : LineState :=
  match result.1.error with
  | some error => ⟨result.1.frames, [], some error⟩
  | none => ⟨result.1.frames, result.2, none⟩

/-- The loop over a chunk is the byte machine over its bytes. -/
theorem loopState_pushLoop (pending chunk : List Byte) (frames : List String)
    (hle : pending.length ≤ limit) :
    loopState (pushLoop limit pending chunk frames) =
      chunk.foldl (LineState.feed limit) ⟨frames, pending, none⟩ := by
  fun_induction pushLoop limit pending chunk frames with
  | case1 pending frames => rfl
  | case2 _ _ _ _ hnone hlong =>
    have hbody := not_mem_of_findIdx hnone
    rw [LineState.foldl_feed_body hbody hle, if_pos hlong]
    rfl
  | case3 _ _ _ _ hnone hshort =>
    have hbody := not_mem_of_findIdx hnone
    rw [LineState.foldl_feed_body hbody hle, if_neg hshort]
    rfl
  | case4 _ _ _ _ _ hindex hlong =>
    obtain ⟨hbody, hsplit⟩ := chunk_split hindex
    conv_rhs => rw [hsplit, foldl_append, LineState.foldl_feed_body hbody hle, if_pos hlong,
      LineState.foldl_feed_failed]
    rfl
  | case5 _ _ _ _ _ hindex hshort _ hdecode =>
    obtain ⟨hbody, hsplit⟩ := chunk_split hindex
    conv_rhs => rw [hsplit, foldl_append, LineState.foldl_feed_body hbody hle, if_neg hshort,
      foldl_cons, LineState.feed_lineFeed]
    simp only [hdecode, LineState.foldl_feed_failed]
    rfl
  | case6 _ _ _ _ _ hindex hshort _ hdecode ih =>
    obtain ⟨hbody, hsplit⟩ := chunk_split hindex
    rw [ih (Nat.zero_le _)]
    conv_rhs => rw [hsplit, foldl_append, LineState.foldl_feed_body hbody hle, if_neg hshort,
      foldl_cons, LineState.feed_lineFeed]
    simp only [hdecode]

namespace JsonLineFramer

variable {limit : Nat} {framer : JsonLineFramer} {error : DispatchError}

/-! ## Calls -/

theorem call_failed (h : framer.failure = some error) (c : Call) :
    framer.call c = (⟨[], some error⟩, framer) := by
  cases c with
  | push chunk => simp [call, push, h]
  | finish => simp [call, finish, h]

/-- A call reports the failure that it leaves. -/
theorem call_error (framer : JsonLineFramer) (c : Call) :
    (framer.call c).1.error = (framer.call c).2.failure := by
  cases hfailure : framer.failure with
  | some error => rw [call_failed hfailure, hfailure]
  | none =>
    cases c with
    | push chunk =>
      simp only [call, push, hfailure]
      cases herror : (pushLoop framer.maxFrameBytes framer.pending chunk []).1.error with
      | none => simp [herror]
      | some error => simp [herror]
    | finish =>
      simp only [call, finish, hfailure]
      split_ifs
      · exact hfailure.symm
      · cases decodeFrame framer.pending with
        | ok frame => rfl
        | error error => rfl

theorem outputs_of_failed (h : framer.failure = some error) (calls : List Call) :
    ∀ output ∈ framer.outputs calls, output = ⟨[], some error⟩ := by
  induction calls with
  | nil => simp [outputs]
  | cons c rest ih =>
    intro output hmem
    rw [outputs, call_failed h] at hmem
    rcases mem_cons.1 hmem with rfl | hmem
    · rfl
    · exact ih output hmem

theorem after_of_failed (h : framer.failure = some error) (calls : List Call) :
    framer.after calls = framer := by
  induction calls with
  | nil => rfl
  | cons c rest ih =>
    rw [after, foldl_cons, call_failed h]
    exact ih

/-- The first error of a sequence of calls is the failure it leaves. -/
theorem findSome_outputs (h : framer.failure = none) (calls : List Call) :
    (framer.outputs calls).findSome? FramerOutput.error = (framer.after calls).failure := by
  induction calls generalizing framer with
  | nil => exact h.symm
  | cons c rest ih =>
    have hcall := call_error framer c
    rw [outputs, findSome?_cons]
    cases hfailure : (framer.call c).2.failure with
    | some error =>
      rw [hfailure] at hcall
      have hafter : framer.after (c :: rest) = (framer.call c).2 := after_of_failed hfailure rest
      rw [hcall, hafter, hfailure]
    | none =>
      rw [hfailure] at hcall
      rw [hcall]
      exact ih hfailure

/-! ## The state between calls -/

/-- What holds of a framer between two calls. -/
structure Inv (limit : Nat) (framer : JsonLineFramer) : Prop where
  limit_eq : framer.maxFrameBytes = limit
  pending_le : framer.pending.length ≤ limit

/-- A new framer keeps within its limit. -/
theorem new_inv : Inv limit (new limit) := ⟨rfl, Nat.zero_le _⟩

section

variable (hinv : Inv limit framer)
include hinv

/-- A chunk is pushed byte by byte. -/
theorem push_spec (chunk : List Byte) (frames : List String) :
    (⟨frames ++ (framer.push chunk).1.frames, (framer.push chunk).2.pending,
        (framer.push chunk).2.failure⟩ : LineState) =
      chunk.foldl (LineState.feed limit) ⟨frames, framer.pending, framer.failure⟩ := by
  cases hfailure : framer.failure with
  | some error =>
    have hcall : framer.push chunk = (⟨[], some error⟩, framer) := call_failed hfailure (.push chunk)
    rw [hcall, LineState.foldl_feed_failed, hfailure, append_nil]
  | none =>
    have hloop := loopState_pushLoop framer.pending chunk [] hinv.pending_le
    rw [LineState.foldl_feed_frames, ← hloop]
    simp only [push, hfailure, hinv.limit_eq, loopState]
    cases herror : (pushLoop limit framer.pending chunk []).1.error with
    | some error => simp
    | none => simp

theorem Inv.call (c : Call) : Inv limit (framer.call c).2 := by
  cases c with
  | push chunk =>
    constructor
    · simp only [JsonLineFramer.call, push]
      split
      · exact hinv.limit_eq
      · split <;> exact hinv.limit_eq
    · have hstate := congrArg LineState.pending (push_spec hinv chunk [])
      have hle : (⟨[], framer.pending, framer.failure⟩ : LineState).pending.length ≤ limit :=
        hinv.pending_le
      have hfold := LineState.pending_foldl_le chunk hle
      rwa [← hstate] at hfold
  | finish =>
    simp only [JsonLineFramer.call, finish]
    split
    · exact hinv
    · split_ifs
      · exact hinv
      · split <;> exact ⟨hinv.limit_eq, Nat.zero_le _⟩

theorem Inv.after (calls : List Call) : Inv limit (framer.after calls) := by
  induction calls generalizing framer with
  | nil => exact hinv
  | cons c rest ih => exact ih (hinv.call c)

/-- Pushing chunks is reading their bytes. -/
theorem pushes_spec (chunks : List (List Byte)) (frames : List String) :
    (⟨frames ++ (framer.outputs (chunks.map .push)).flatMap FramerOutput.frames,
        (framer.after (chunks.map .push)).pending, (framer.after (chunks.map .push)).failure⟩ :
        LineState) =
      chunks.flatten.foldl (LineState.feed limit) ⟨frames, framer.pending, framer.failure⟩ := by
  induction chunks generalizing framer frames with
  | nil => simp [outputs, after]
  | cons chunk rest ih =>
    have hrest := ih (hinv.call (.push chunk)) (frames ++ (framer.push chunk).1.frames)
    rw [flatten_cons, foldl_append, ← push_spec hinv chunk frames]
    simp only [map_cons, outputs, flatMap_cons, after, foldl_cons,
      ← append_assoc]
    exact hrest

end

end JsonLineFramer

/-! ## The whole stream -/

/-- What is left to do at the end of a stream. -/
def LineState.finish (state : LineState) : FramerOutput :=
  match state.failure with
  | some error => ⟨state.frames, some error⟩
  | none =>
    if state.pending = [] then ⟨state.frames, none⟩
    else
      match decodeFrame state.pending with
      | .ok frame => ⟨state.frames ++ [frame], none⟩
      | .error error => ⟨state.frames, some error⟩

/-! ### One line -/

theorem withoutReturn_eq (line : List Byte) : withoutReturn line =
    if line.getLast? = some carriageReturn then line.dropLast else line := by
  fun_induction withoutReturn line with
  | case1 => rfl
  | case2 => simp
  | case3 byte h => simp [h]
  | case4 byte next rest ih =>
    rw [ih, getLast?_cons_cons]
    split_ifs <;> rfl

theorem toByteArray_eq_encodeText (text : String) :
    text.toByteArray = (encodeText text).toByteArray := by
  conv_lhs => rw [← String.ofList_toList (s := text)]
  exact String.toByteArray_ofList

theorem encodeText_injective {text other : String} (h : encodeText text = encodeText other) :
    text = other := by
  rw [← String.toByteArray_inj, toByteArray_eq_encodeText, toByteArray_eq_encodeText, h]

/-- The decoder of the framer inverts the encoding. -/
theorem fromUTF8?_eq_some {bytes : List Byte} {text : String} :
    String.fromUTF8? ⟨bytes.toArray⟩ = some text ↔ encodeText text = bytes := by
  have hbytes : text.toByteArray = ⟨bytes.toArray⟩ ↔ encodeText text = bytes := by
    rw [toByteArray_eq_encodeText]
    constructor
    · intro h
      have hlist := congrArg (fun a : ByteArray => a.data.toList) h
      simpa using hlist
    · rintro rfl
      apply ByteArray.ext
      simp
  rw [← hbytes, String.fromUTF8?]
  constructor
  · intro h
    split_ifs at h
    rw [← Option.some.inj h]
    rfl
  · intro h
    have hvalid : (⟨bytes.toArray⟩ : ByteArray).IsValidUTF8 := h ▸ text.isValidUTF8
    rw [dif_pos hvalid]
    exact congrArg some (String.toByteArray_inj.1 h.symm)

theorem utf8Text_eq_some {bytes : List Byte} {text : String} :
    utf8Text bytes = some text ↔ encodeText text = bytes := by
  unfold utf8Text
  constructor
  · intro h
    split_ifs at h with hexists
    rw [← Option.some.inj h]
    exact hexists.choose_spec
  · intro h
    have hexists : ∃ text, encodeText text = bytes := ⟨text, h⟩
    rw [dif_pos hexists]
    exact congrArg some (encodeText_injective (hexists.choose_spec.trans h.symm))

/-- The framer decodes a line as the reference does. -/
theorem decodeFrame_eq (line : List Byte) : decodeFrame line = readText (withoutReturn line) := by
  have htext : ∀ bytes : List Byte, String.fromUTF8? ⟨bytes.toArray⟩ = utf8Text bytes := by
    intro bytes
    apply Option.ext
    intro text
    rw [fromUTF8?_eq_some, utf8Text_eq_some]
  unfold decodeFrame readText
  simp only [← withoutReturn_eq, htext]

/-! ### All lines -/

/-- The line that is too long fails, wherever it stands. -/
theorem readLines_tooLong {line : List Byte} (rest : List (List Byte)) (h : limit < line.length) :
    readLines limit (line :: rest) = ⟨[], some .frameTooLarge⟩ := by
  have hne : line ≠ [] := by
    rintro rfl
    simp at h
  simp [readLines, hne, readLine, h]

/-- The byte machine reads the lines of the rest of a stream, the first of them after what is
pending. -/
theorem finish_foldl_feed (stream pending : List Byte) (frames : List String)
    (hle : pending.length ≤ limit) :
    (stream.foldl (LineState.feed limit) ⟨frames, pending, none⟩).finish =
      let rest := readLines limit ((stream.splitOn lineFeed).modifyHead (pending ++ ·))
      ⟨frames ++ rest.frames, rest.error⟩ := by
  induction stream generalizing pending frames with
  | nil =>
    by_cases hpending : pending = []
    · subst hpending
      simp [LineState.finish, readLines, splitOn]
    · have hshort : ¬ limit < pending.length := by omega
      simp only [foldl_nil, LineState.finish, splitOn, splitOnP_nil,
        modifyHead_cons, append_nil, readLines, hpending, and_false, if_false, readLine,
        ← decodeFrame_eq, hshort]
      cases decodeFrame pending <;> simp
  | cons byte stream ih =>
    by_cases hbyte : byte = lineFeed
    · subst hbyte
      have hsplit : (lineFeed :: stream).splitOn lineFeed = [] :: stream.splitOn lineFeed := by
        simp [splitOn, splitOnP_cons_eq_if_modifyHead]
      have hne : stream.splitOn lineFeed ≠ [] := splitOnP_ne_nil _ _
      have hshort : ¬ limit < pending.length := by omega
      have hhead : (stream.splitOn lineFeed).modifyHead ([] ++ ·) = stream.splitOn lineFeed := by
        cases stream.splitOn lineFeed <;> rfl
      rw [foldl_cons, LineState.feed_lineFeed, hsplit, modifyHead_cons, append_nil]
      simp only [readLines, hne, false_and, if_false, readLine, ← decodeFrame_eq, hshort]
      cases hdecode : decodeFrame pending with
      | error error =>
        simp only [LineState.foldl_feed_failed]
        simp [LineState.finish]
      | ok frame =>
        simp only []
        rw [ih [] (frames ++ [frame]) (Nat.zero_le _), hhead]
        simp
    · have hsplit : (byte :: stream).splitOn lineFeed =
          (stream.splitOn lineFeed).modifyHead (byte :: ·) := by
        simp [splitOn, splitOnP_cons_eq_if_modifyHead, hbyte]
      have hhead : ((byte :: stream).splitOn lineFeed).modifyHead (pending ++ ·) =
          (stream.splitOn lineFeed).modifyHead ((pending ++ [byte]) ++ ·) := by
        rw [hsplit, modifyHead_modifyHead]
        congr 1
        funext line
        simp
      rw [foldl_cons, LineState.feed_byte hbyte, hhead]
      by_cases hlong : limit < pending.length + 1
      · obtain ⟨line, rest, hlines⟩ := exists_cons_of_ne_nil
          (splitOnP_ne_nil (· == lineFeed) stream)
        have hline : limit < (pending ++ [byte] ++ line).length := by
          rw [length_append, length_append, length_singleton]
          omega
        rw [if_pos hlong, LineState.foldl_feed_failed, splitOn, hlines, modifyHead_cons,
          readLines_tooLong rest hline]
        simp [LineState.finish]
      · rw [if_neg hlong]
        exact ih (pending ++ [byte]) frames (by rw [length_append, length_singleton]; omega)

/-- The end of a stream, as the framer handles it. -/
theorem JsonLineFramer.finish_spec (framer : JsonLineFramer) (frames : List String) :
    (⟨frames, framer.pending, framer.failure⟩ : LineState).finish =
      ⟨frames ++ framer.finish.1.frames, framer.finish.1.error⟩ := by
  cases hfailure : framer.failure with
  | some error => simp [LineState.finish, finish, hfailure]
  | none =>
    simp only [LineState.finish, finish, hfailure]
    split_ifs
    · simp
    · cases decodeFrame framer.pending <;> simp

theorem JsonLineFramer.outputs_append (framer : JsonLineFramer) (calls later : List Call) :
    framer.outputs (calls ++ later) = framer.outputs calls ++ (framer.after calls).outputs later := by
  induction calls generalizing framer with
  | nil => rfl
  | cons c rest ih =>
    rw [cons_append, outputs, outputs, ih, cons_append]
    rfl

/-- Pushing a stream in any chunks and ending it gives the lines of the stream and its first error. -/
theorem JsonLineFramer.stream_spec (limit : Nat) (chunks : List (List Byte)) :
    let outputs := (new limit).outputs (chunks.map .push ++ [.finish])
    (⟨outputs.flatMap FramerOutput.frames, outputs.findSome? FramerOutput.error⟩ : FramerOutput) =
      readStream limit chunks.flatten := by
  intro outputs
  have hinv : Inv limit (new limit) := new_inv
  have hpushes := pushes_spec hinv chunks []
  have hread := finish_foldl_feed chunks.flatten [] [] (Nat.zero_le limit)
  have hhead : (chunks.flatten.splitOn lineFeed).modifyHead ([] ++ ·) =
      chunks.flatten.splitOn lineFeed := by
    cases chunks.flatten.splitOn lineFeed <;> rfl
  have hframes : outputs.flatMap FramerOutput.frames =
      ((new limit).outputs (chunks.map .push)).flatMap FramerOutput.frames ++
        ((new limit).after (chunks.map .push)).finish.1.frames := by
    simp only [outputs, outputs_append, flatMap_append]
    simp [JsonLineFramer.outputs, call]
  have herror : outputs.findSome? FramerOutput.error =
      ((new limit).after (chunks.map .push)).finish.1.error := by
    have hfailure : ((new limit).after (chunks.map .push ++ [.finish])).failure =
        (((new limit).after (chunks.map .push)).call .finish).2.failure := by
      rw [after, foldl_append]
      rfl
    rw [findSome_outputs rfl, hfailure, ← call_error]
    rfl
  rw [hframes, herror, ← finish_spec]
  rw [nil_append] at hpushes
  rw [hpushes]
  exact hread.trans (by rw [hhead]; rfl)

/-- Framing does not depend on the chunks, at most `limit` bytes are ever pending, and a failure is
final. -/
theorem framing_independent_of_chunks (limit : Nat) :
    (∀ (stream : List Byte) (chunks : List (List Byte)), chunks.flatten = stream →
      let outputs := (JsonLineFramer.new limit).outputs (chunks.map .push ++ [.finish])
      outputs.flatMap FramerOutput.frames = (readStream limit stream).frames ∧
        outputs.findSome? FramerOutput.error = (readStream limit stream).error) ∧
    (∀ calls, ((JsonLineFramer.new limit).after calls).pendingBytes ≤ limit) ∧
    ∀ calls later error,
      ((JsonLineFramer.new limit).outputs calls).findSome? FramerOutput.error = some error →
        ∀ output ∈ ((JsonLineFramer.new limit).after calls).outputs later,
          output = ⟨[], some error⟩ := by
  refine ⟨?_, fun calls => (new_inv.after calls).pending_le, ?_⟩
  · rintro stream chunks rfl
    have hstream := stream_spec limit chunks
    rw [← hstream]
    exact ⟨rfl, rfl⟩
  · intro calls later error hfirst
    rw [findSome_outputs rfl] at hfirst
    exact outputs_of_failed hfirst later

end Vibemux
