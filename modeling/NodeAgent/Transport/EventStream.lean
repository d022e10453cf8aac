import NodeAgent.Domain.TextStream
import NodeAgent.Foundation.JsonRoundTrip

/-!
# The event stream on the wire

The runtime server writes each event as one line and an empty one.  The agent's
proxy reads lines from the runtime and hands them on as they come.
-/

namespace NodeAgent

open JsonText

variable {F : Type}

/-! ## The server's side -/

section

variable (ofRat : Rat → F)

mutual

/-- A value as `json.dumps` gets it, with its numbers as floats. -/
def Json.wire : Json → Value F
  | .null => .null
  | .bool b => .bool b
  | .int z => .int z
  | .float q => .float (ofRat q)
  | .str s => .str s
  | .arr items => .arr (wireItems items)
  | .obj fields => .obj (wireFields fields)

def wireItems : List Json → List (Value F)
  | [] => []
  | v :: rest => v.wire :: wireItems rest

def wireFields : List (String × Json) → List (String × Value F)
  | [] => []
  | (k, v) :: rest => (k, v.wire) :: wireFields rest

end

/-- `data: `, the prefix of every event's line. -/
def dataPrefix : List Char := ['d', 'a', 't', 'a', ':', ' ']

def doneMark : List Char := ['[', 'D', 'O', 'N', 'E', ']']

def StreamEvent.payload (floats : Floats F) : StreamEvent → List Char
  | .data chunk => dumps floats (chunk.wire ofRat)
  | .done => doneMark

/-- What `wfile` gets for an event. -/
def StreamEvent.text (floats : Floats F) (event : StreamEvent) : List Char :=
  dataPrefix ++ event.payload ofRat floats ++ ['\n', '\n']

def streamText (floats : Floats F) (events : List StreamEvent) : List Char :=
  events.flatMap (StreamEvent.text ofRat floats)

end

/-! ## The proxy -/

/-- `resp.readline()`: up to the next line feed, and with it. -/
def readline : List Char → List Char × List Char
  | [] => ([], [])
  | c :: rest =>
      if c = '\n' then ([c], rest)
      else (c :: (readline rest).1, (readline rest).2)

theorem readline_append (text : List Char) :
    (readline text).1 ++ (readline text).2 = text := by
  induction text with
  | nil => rfl
  | cons c rest ih =>
      rw [readline]
      split
      · rfl
      · exact congrArg (c :: ·) ih

theorem readline_eq_nil {text : List Char} (h : (readline text).1 = []) :
    text = [] := by
  cases text with
  | nil => rfl
  | cons c rest =>
      rw [readline] at h
      split at h <;> cases h

theorem readline_line {line : List Char} (h : '\n' ∉ line) (rest : List Char) :
    readline (line ++ '\n' :: rest) = (line ++ ['\n'], rest) := by
  induction line with
  | nil => rfl
  | cons c line ih =>
      rw [List.mem_cons, not_or] at h
      obtain ⟨hc, hline⟩ := h
      rw [List.cons_append, readline, if_neg (Ne.symm hc), ih hline]
      rfl

/-- `_stream`: the lines that are yielded until one is empty. -/
def proxied (text : List Char) : List (List Char) :=
  if _ : (readline text).1 = [] then []
  else (readline text).1 :: proxied (readline text).2
termination_by text.length
decreasing_by
  rename_i h
  have hlength := congrArg List.length (readline_append text)
  have hpos := List.length_pos_iff.mpr h
  rw [List.length_append] at hlength
  omega

theorem flatten_proxied (text : List Char) : (proxied text).flatten = text := by
  fun_induction proxied text with
  | case1 text h => rw [readline_eq_nil h, List.flatten_nil]
  | case2 text h ih => rw [List.flatten_cons, ih, readline_append]

theorem proxied_line {line : List Char} (h : '\n' ∉ line) (rest : List Char) :
    proxied (line ++ '\n' :: rest) = (line ++ ['\n']) :: proxied rest := by
  rw [proxied, readline_line h, dif_neg (by simp)]

/-! ## The client's side -/

section

variable (toRat : F → Rat)

mutual

/-- A value as a client has it, where its numbers are finite. -/
def readJson : Value F → Option Json
  | .null => some .null
  | .bool b => some (.bool b)
  | .int z => some (.int z)
  | .float x => some (.float (toRat x))
  | .nan | .infinity _ => none
  | .str s => some (.str s)
  | .arr items => (readJsonItems items).map .arr
  | .obj fields => (readJsonFields fields).map .obj

def readJsonItems : List (Value F) → Option (List Json)
  | [] => some []
  | v :: rest => do
      let v ← readJson v
      let rest ← readJsonItems rest
      pure (v :: rest)

def readJsonFields : List (String × Value F) → Option (List (String × Json))
  | [] => some []
  | (k, v) :: rest => do
      let v ← readJson v
      let rest ← readJsonFields rest
      pure ((k, v) :: rest)

end

def readPayload (floats : Floats F) (payload : List Char) : Option StreamEvent :=
  if payload = doneMark then some .done
  else ((loads floats payload).bind (readJson toRat)).map .data

def readEvents (floats : Floats F) : List (List Char) → Option (List StreamEvent)
  | [] => some []
  | line :: lines =>
      if line = ['\n'] then readEvents floats lines
      else if dataPrefix.isPrefixOf line then
        match readPayload toRat floats (line.drop dataPrefix.length).dropLast with
        | none => none
        | some .done => some [.done]
        | some (.data chunk) => (readEvents floats lines).map (.data chunk :: ·)
      else none

end

section

variable {ofRat : Rat → F} {toRat : F → Rat} {floats : Floats F}

/-- An event that a client reads back from its line. -/
def Wired (ofRat : Rat → F) (toRat : F → Rat) (floats : Floats F)
    (event : StreamEvent) : Prop :=
  '\n' ∉ event.payload ofRat floats ∧
    readPayload toRat floats (event.payload ofRat floats) = some event

theorem readEvents_line {event : StreamEvent}
    (h : Wired ofRat toRat floats event) (lines : List (List Char)) :
    readEvents toRat floats
        ((dataPrefix ++ event.payload ofRat floats ++ ['\n']) :: ['\n'] :: lines) =
      match event with
      | .done => some [.done]
      | .data chunk =>
          (readEvents toRat floats lines).map (.data chunk :: ·) := by
  have hne : dataPrefix ++ event.payload ofRat floats ++ ['\n'] ≠ ['\n'] := by
    simp [dataPrefix]
  have hhead : dataPrefix.isPrefixOf
      (dataPrefix ++ event.payload ofRat floats ++ ['\n']) = true := by
    rw [List.append_assoc]
    exact List.isPrefixOf_iff_prefix.mpr (List.prefix_append _ _)
  have hpayload : ((dataPrefix ++ event.payload ofRat floats ++ ['\n']).drop
      dataPrefix.length).dropLast = event.payload ofRat floats := by
    rw [List.append_assoc, List.drop_left, List.dropLast_concat]
  rw [readEvents, if_neg hne, if_pos hhead, hpayload, h.2]
  cases event with
  | done => rfl
  | data chunk => simp [readEvents]

theorem proxied_event {event : StreamEvent}
    (h : '\n' ∉ event.payload ofRat floats) (rest : List Char) :
    proxied (event.text ofRat floats ++ rest) =
      (dataPrefix ++ event.payload ofRat floats ++ ['\n']) :: ['\n'] ::
        proxied rest := by
  have hline : '\n' ∉ dataPrefix ++ event.payload ofRat floats := by
    simp [dataPrefix, h]
  have hempty := @proxied_line [] (by simp) rest
  rw [StreamEvent.text, List.append_assoc, List.cons_append, List.cons_append,
    List.nil_append, proxied_line hline]
  exact congrArg _ hempty

theorem readEvents_proxied {chunks : List Json}
    (hchunks : ∀ chunk ∈ chunks, Wired ofRat toRat floats (.data chunk))
    (hdone : Wired ofRat toRat floats .done) :
    readEvents toRat floats (proxied (streamText ofRat floats
      (chunks.map .data ++ [.done]))) = some (chunks.map .data ++ [.done]) := by
  induction chunks with
  | nil =>
      have hproxied := proxied_event hdone.1 []
      rw [List.append_nil] at hproxied
      rw [List.map_nil, List.nil_append, streamText, List.flatMap_cons,
        List.flatMap_nil, List.append_nil, hproxied, readEvents_line hdone]
  | cons chunk chunks ih =>
      have hchunk := hchunks chunk (by simp)
      rw [List.map_cons, List.cons_append, streamText, List.flatMap_cons,
        proxied_event hchunk.1, readEvents_line hchunk]
      change (readEvents toRat floats (proxied (streamText ofRat floats _))).map _
        = _
      rw [ih fun other hmem => hchunks other (List.mem_cons_of_mem _ hmem)]
      rfl

theorem streamText_ascii (ofRat : Rat → F) (floats : Floats F)
    (events : List StreamEvent) :
    ∀ c ∈ streamText ofRat floats events, IsPrintable c ∨ c = '\n' := by
  intro c hc
  obtain ⟨event, -, hc⟩ := List.mem_flatMap.mp hc
  rw [StreamEvent.text, List.mem_append, List.mem_append] at hc
  have hhead : Printable dataPrefix := by decide
  have hpayload : Printable (event.payload ofRat floats) := by
    cases event with
    | done => exact show Printable doneMark by decide
    | data chunk => exact printable_dumps _
  rcases hc with (hc | hc) | hc
  · exact .inl (hhead c hc)
  · exact .inl (hpayload c hc)
  · exact .inr (by simpa using hc)

theorem wired_done : Wired ofRat toRat floats .done := by
  refine ⟨by simp [StreamEvent.payload, doneMark], ?_⟩
  rw [StreamEvent.payload, readPayload, if_pos rfl]

theorem wired_data {fields : List (String × Json)}
    (hproper : ((Json.obj fields).wire ofRat).Proper)
    (hread : readJson toRat ((Json.obj fields).wire ofRat) =
      some (.obj fields)) :
    Wired ofRat toRat floats (.data (.obj fields)) := by
  refine ⟨fun hmem => ?_, ?_⟩
  · have hprintable : IsPrintable '\n' := printable_dumps _ '\n' hmem
    exact absurd hprintable (by decide)
  · have hbrace : dumps floats ((Json.obj fields).wire ofRat) ≠ doneMark := by
      rw [Json.wire, dumps, doneMark]
      exact fun h => absurd (List.cons.inj h).1 (by decide)
    rw [StreamEvent.payload, readPayload, if_neg hbrace, loads_dumps hproper,
      Option.bind_some, hread, Option.map_some]

theorem wired_wordChunk (response : ChatCompletionResponse) (index : Nat)
    (word : String) :
    Wired ofRat toRat floats (.data (response.wordChunk index word)) :=
  wired_data (by simp [wireFields, wireItems, Json.wire, Value.Proper,
    ProperFields, ProperItems]) rfl

theorem wired_terminal (response : ChatCompletionResponse) :
    Wired ofRat toRat floats (.data response.terminal) :=
  wired_data (by simp [wireFields, wireItems, Json.wire, Value.Proper,
    ProperFields, ProperItems]) rfl

/--
What the runtime streams for an answer is ASCII and comes out of the agent's
proxy line by line, unchanged.  A client reads from it exactly the events that
were sent, whose contents are the answer's words with single blanks between them.
-/
theorem stream_through_proxy (ofRat : Rat → F) (toRat : F → Rat)
    (floats : Floats F) (response : ChatCompletionResponse) :
    let sent := RuntimeRequestHandler.sendStream response
    let text := streamText ofRat floats sent
    (∀ c ∈ text, IsPrintable c ∨ c = '\n') ∧ (proxied text).flatten = text ∧
      readEvents toRat floats (proxied text) = some sent ∧
      received sent = " ".intercalate (split response.content) := by
  refine ⟨streamText_ascii _ _ _, flatten_proxied _, ?_,
    response.received_events _⟩
  have hevents : RuntimeRequestHandler.sendStream response =
      ((split response.content).mapIdx response.wordChunk ++
        [response.terminal]).map .data ++ [.done] := by
    rw [RuntimeRequestHandler.sendStream, ChatCompletionResponse.events,
      List.map_append, List.append_assoc, List.mapIdx_eq_zipIdx_map,
      List.mapIdx_eq_zipIdx_map, List.map_map]
    rfl
  change readEvents toRat floats (proxied (streamText ofRat floats
    (RuntimeRequestHandler.sendStream response))) =
      some (RuntimeRequestHandler.sendStream response)
  rw [hevents]
  refine readEvents_proxied (fun chunk hmem => ?_) wired_done
  rcases List.mem_append.mp hmem with hword | hlast
  · obtain ⟨index, hlt, rfl⟩ := List.mem_mapIdx.mp hword
    exact wired_wordChunk response index _
  · rw [List.mem_singleton.mp hlast]
    exact wired_terminal response

end

end NodeAgent
