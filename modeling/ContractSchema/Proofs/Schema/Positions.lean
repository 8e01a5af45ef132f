import ContractSchema.Proofs.Schema.Truncation

/-!
# Positions stay inside the data

A cursor carries what is left of the data, so nothing can be read from beyond the end. Here the
data is an array that stays where it is and reading has a position in it: what is left is found
by subtracting the position from the length, bytes are cut out between two positions, and each of
these is an access that may go wrong. A reader of this sort
(`ContractSchema.IndexedReader`) stops without any result when it accesses the data outside, and
it keeps a record of the calls it has made, with the positions before and after each of them.

The readers of either sort do the same from the same place, as long as the position is inside the
data (`ContractSchema.IndexedReader.Follows`). This is a matter of steps again
(`ContractSchema.IndexedReader.Follows.bind`). What carries it is that a position never leaves
the data and never goes back. What one call does to the position is said once
(`ContractSchema.Call.InBounds`); that a call which succeeds goes on by a byte is known from the
reader it follows (`ContractSchema.IndexedReader.Follows.call`).

Data is therefore read without an access outside it, whatever it is, with the result that is known
already, and all calls on the way are in bounds (`ContractSchema.positions_in_bounds`).
-/

namespace ContractSchema

/-! ### Calls -/

/-- What is called in order to read something. -/
inductive Callee
  /-- Reads so many bytes. -/
  | slice (count : Nat)
  /-- Reads one byte. -/
  | u8
  /-- Reads a number of four bytes. -/
  | u32
  /-- Reads a name. -/
  | string
  /-- Reads the width of a length. -/
  | sizeLength
  /-- Reads fields. -/
  | fields
  /-- Reads a type. -/
  | type
deriving DecidableEq, Repr

/-- **A call** that has come to its end. -/
structure Call where
  /-- What has been called. -/
  callee : Callee
  /-- The position before the call. -/
  before : Nat
  /-- The position after the call. -/
  after : Nat
  /-- The error the call has failed with, if it has. -/
  error? : Option SchemaError
deriving DecidableEq, Repr

/-- **A call is in bounds** of data of a length: it begins and ends inside them. If it succeeds it
does not go back, and it goes on by at least a byte unless none were wanted. If it is one for
bytes and fails it stays where it is, and this is the place it reports. -/
structure Call.InBounds (call : Call) (length : Nat) : Prop where
  /-- The call begins inside the data. -/
  before_le : call.before ≤ length
  /-- It ends inside the data. -/
  after_le : call.after ≤ length
  /-- If it succeeds, it does not go back. -/
  forward : call.error? = none → call.before ≤ call.after
  /-- If it succeeds and is not one for no bytes, it goes on. -/
  advances : call.error? = none → call.callee ≠ .slice 0 → call.before < call.after
  /-- If it is one for bytes and fails, it stays where it is and says so. -/
  unmoved : ∀ count error, call.callee = .slice count → call.error? = some error →
    call.after = call.before ∧ error = .unexpectedEnd call.before

/-! ### Readers with a position -/

/-- How far reading has come. -/
structure IndexedState where
  /-- The position in the data. -/
  position : Nat
  /-- The calls that have come to their end, in the order in which they have. -/
  calls : List Call

/-- **A step of reading with a position.** It stops without a result if it accesses the data
outside; otherwise it succeeds or fails, and comes to a new position in both cases. -/
abbrev IndexedReader (α : Type) : Type :=
  ExceptT SchemaError (StateT IndexedState Option) α

namespace IndexedReader

variable {α β : Type}

/-- An access outside the data. -/
def outside : IndexedReader α :=
  fun _ => none

/-- The position reading has come to. -/
def position : IndexedReader Nat :=
  fun state => some (.ok state.position, state)

/-- Goes to a position. -/
def moveTo (position : Nat) : IndexedReader Unit :=
  fun state => some (.ok (), { state with position })

/-- Gives up with an error. -/
def fail (error : SchemaError) : IndexedReader α :=
  fun state => some (.error error, state)

/-- What is recorded of a call. -/
def record (callee : Callee) (before : IndexedState) (result : Except SchemaError α)
    (after : IndexedState) : Call where
  callee := callee
  before := before.position
  after := after.position
  error? := match result with
    | .ok _ => none
    | .error error => some error

/-- Calls a reader and keeps a record of it. -/
def called (callee : Callee) (body : IndexedReader α) : IndexedReader α := fun before =>
  match body before with
  | some (result, after) =>
    some (result, { after with calls := after.calls ++ [record callee before result after] })
  | none => none

section Reading

variable (data : List UInt8)

/-- The number of bytes that are left, if the position is not beyond the end. -/
def remaining : IndexedReader Nat := do
  let start ← position
  if start ≤ data.length then return data.length - start else outside

/-- The bytes between two positions, if these are inside the data and in order. -/
def slice (start stop : Nat) : IndexedReader (List UInt8) :=
  if start ≤ stop ∧ stop ≤ data.length then return (data.drop start).take (stop - start)
  else outside

/-- Cuts out the given number of bytes and goes behind them, if as many are left. -/
def cut (count : Nat) : IndexedReader (List UInt8) := do
  let left ← remaining data
  let start ← position
  if left < count then fail (.unexpectedEnd start)
  else do
    let bytes ← slice data start (start + count)
    moveTo (start + count)
    return bytes

/-- Reads the given number of bytes, or none at all if fewer are left. -/
def readSlice (count : Nat) : IndexedReader (List UInt8) :=
  called (.slice count) (cut data count)

/-- Reads one byte, the first of a slice. -/
def readU8 : IndexedReader UInt8 :=
  called .u8 do
    match ← readSlice data 1 with
    | byte :: _ => return byte
    | [] => outside

/-- Reads a number of four bytes, which are copied from a slice that must be as long. -/
def readU32 : IndexedReader UInt32 :=
  called .u32 do
    let bytes ← readSlice data 4
    if bytes.length = 4 then return UInt32.ofNat (littleEndian bytes) else outside

/-- Reads a name. -/
def readString : IndexedReader String :=
  called .string do
    let start ← position
    let length ← readU32 data
    let bytes ← readSlice data length.toNat
    match String.fromUTF8? bytes.toByteArray with
    | some name => return name
    | none => fail (.invalidUtf8 start)

/-- Reads the width of a length. -/
def readSizeLength : IndexedReader SizeLength :=
  called .sizeLength do
    let start ← position
    let tag ← readU8 data
    match SizeLength.ofTag? tag with
    | some size => return size
    | none => fail (.unknownSizeLength tag start)

/-- Reads the given number of elements. -/
def readMany (element : IndexedReader α) : Nat → IndexedReader (List α)
  | 0 => return []
  | count + 1 => do
    let first ← element
    let others ← readMany element count
    return first :: others

/-- Reads an element with a name. -/
def readNamed (element : IndexedReader α) : IndexedReader (String × α) := do
  let name ← readString data
  let value ← element
  return (name, value)

/-- Reads the given number of variants with tags and adds them to those found so far. -/
def readTagged (fields : IndexedReader Fields) :
    Nat → (UInt8 → Option (String × Fields)) → IndexedReader (UInt8 → Option (String × Fields))
  | 0, found => return found
  | count + 1, found => do
    let start ← position
    let tag ← readU8 data
    let variant ← readNamed data fields
    if (found tag).isSome then fail (.repeatedTag tag start)
    else readTagged fields count (setEntry tag variant found)

/-- Reads fields, given how to read a type. -/
def readFields (type : IndexedReader SchemaType) : IndexedReader Fields :=
  called .fields do
    let start ← position
    let tag ← readU8 data
    match tag.toNat with
    | 0 => do
      let n ← readU32 data
      return .named (← readMany (readNamed data type) n.toNat)
    | 1 => do
      let n ← readU32 data
      return .unnamed (← readMany type n.toNat)
    | 2 => return .none
    | _ => fail (.unknownFieldsTag tag start)

/-- Reads a type, given how to read the types inside it. -/
def readTypeOf (inner : IndexedReader SchemaType) : IndexedReader SchemaType := do
  let start ← position
  let tag ← readU8 data
  match tag.toNat with
  | 0x00 => return .unit
  | 0x01 => return .bool
  | 0x02 => return .u8
  | 0x03 => return .u16
  | 0x04 => return .u32
  | 0x05 => return .u64
  | 0x06 => return .i8
  | 0x07 => return .i16
  | 0x08 => return .i32
  | 0x09 => return .i64
  | 0x0a => return .amount
  | 0x0b => return .accountAddress
  | 0x0c => return .contractAddress
  | 0x0d => return .timestamp
  | 0x0e => return .duration
  | 0x0f => do
    let left ← inner
    let right ← inner
    return .pair left right
  | 0x10 => do
    let size ← readSizeLength data
    let item ← inner
    return .list size item
  | 0x11 => do
    let size ← readSizeLength data
    let item ← inner
    return .set size item
  | 0x12 => do
    let size ← readSizeLength data
    let key ← inner
    let value ← inner
    return .map size key value
  | 0x13 => do
    let length ← readU32 data
    let item ← inner
    return .array length item
  | 0x14 => return .struct (← readFields data inner)
  | 0x15 => do
    let n ← readU32 data
    return .enum (← readMany (readNamed data (readFields data inner)) n.toNat)
  | 0x16 => return .string (← readSizeLength data)
  | 0x17 => return .u128
  | 0x18 => return .i128
  | 0x19 => return .contractName (← readSizeLength data)
  | 0x1a => return .receiveName (← readSizeLength data)
  | 0x1b => return .uLeb128 (← readU32 data)
  | 0x1c => return .iLeb128 (← readU32 data)
  | 0x1d => return .byteList (← readSizeLength data)
  | 0x1e => return .byteArray (← readU32 data)
  | 0x1f => do
    let n ← readU32 data
    return .taggedEnum (← readTagged data (readFields data inner) n.toNat noEntries)
  | _ => fail (.unknownTypeTag tag start)

/-- **Reading a type** in which at most `depth` types are nested inside each other. -/
def readType : Nat → IndexedReader SchemaType
  | 0 => called .type (fail (.tooDeep maxTypeDepth))
  | depth + 1 => called .type (readTypeOf data (readType depth))

/-- Reads data that holds one type and nothing else. -/
def readWhole : IndexedReader SchemaType := do
  let type ← readType data maxTypeDepth
  let left ← remaining data
  if left = 0 then return type else fail (.trailingData left)

end Reading

/-- **The type a binary schema describes**, or why it describes none, with all calls that have
been made to find out. There is no result if the data has been accessed outside. -/
def ofBytes (data : List UInt8) : Option (Except SchemaError SchemaType × List Call) :=
  (readWhole data ⟨0, []⟩).map fun run => (run.1, run.2.calls)

/-! ### Runs -/

theorem bind_of_ok {body : IndexedReader α} {next : α → IndexedReader β}
    {state state' : IndexedState} {a : α} (h : body state = some (.ok a, state')) :
    (body >>= next) state = next a state' := by
  change (body state >>= fun run => ExceptT.bindCont next run.1 run.2) = next a state'
  rw [h]
  rfl

theorem bind_of_error {body : IndexedReader α} {next : α → IndexedReader β}
    {state state' : IndexedState} {error : SchemaError}
    (h : body state = some (.error error, state')) :
    (body >>= next) state = some (.error error, state') := by
  change (body state >>= fun run => ExceptT.bindCont next run.1 run.2) = some (.error error, state')
  rw [h]
  rfl

/-- The place in the data with the given position. -/
def cursorAt (data : List UInt8) (position : Nat) : Cursor :=
  ⟨data.drop position, position⟩

/-- **How a run ends** that follows a reader: with what the reader does from the same place,
inside the data and not behind the beginning, and after calls that are all in bounds. -/
structure Ends (data : List UInt8) (reader : SchemaReader α) (state : IndexedState)
    (result : Except SchemaError α) (state' : IndexedState) : Prop where
  /-- The reader has the same result, and goes on from the same place. -/
  agrees : reader (cursorAt data state.position) =
    result.map fun a => (a, cursorAt data state'.position)
  /-- The position does not go back. -/
  forward : state.position ≤ state'.position
  /-- It does not leave the data. -/
  le_length : state'.position ≤ data.length
  /-- The calls that have been added are in bounds. -/
  calls : ∃ made, state'.calls = state.calls ++ made ∧ ∀ call ∈ made, call.InBounds data.length

/-- **A reader with a position follows** a reader with a cursor: from all positions inside the data
it has a result, and its run ends as that of the other. -/
def Follows (data : List UInt8) (body : IndexedReader α) (reader : SchemaReader α) : Prop :=
  ∀ state : IndexedState, state.position ≤ data.length →
    ∃ result state', body state = some (result, state') ∧ Ends data reader state result state'

section Steps

variable {data : List UInt8} {body : IndexedReader α} {reader : SchemaReader α}

/-- A run ends like this if no calls have been made. -/
theorem Ends.of_silent {state : IndexedState} {position : Nat} {result : Except SchemaError α}
    (h : reader (cursorAt data state.position) = result.map fun a => (a, cursorAt data position))
    (hforward : state.position ≤ position) (hle : position ≤ data.length) :
    Ends data reader state result ⟨position, state.calls⟩ where
  agrees := h
  forward := hforward
  le_length := hle
  calls := ⟨[], (List.append_nil _).symm, fun _ hcall => absurd hcall List.not_mem_nil⟩

theorem Ends.of_unmoved {state : IndexedState} {result : Except SchemaError α}
    (h : reader (cursorAt data state.position) =
      result.map fun a => (a, cursorAt data state.position))
    (hstate : state.position ≤ data.length) : Ends data reader state result state :=
  .of_silent h (Nat.le_refl _) hstate

theorem follows_pure (a : α) : Follows data (pure a) (pure a) :=
  fun state hstate => ⟨.ok a, state, rfl, .of_unmoved rfl hstate⟩

theorem follows_fail (error : SchemaError) :
    Follows data (fail error : IndexedReader α) (SchemaReader.fail error) :=
  fun state hstate => ⟨.error error, state, rfl, .of_unmoved rfl hstate⟩

theorem follows_position : Follows data position SchemaReader.offset :=
  fun state hstate => ⟨.ok state.position, state, rfl, .of_unmoved rfl hstate⟩

/-- **Two steps in a row** follow two steps in a row. The second one need only do so for what the
first one can return. -/
theorem Follows.bind {next : α → IndexedReader β} {next' : α → SchemaReader β}
    (h : Follows data body reader)
    (hnext : ∀ a s s', reader s = .ok (a, s') → Follows data (next a) (next' a)) :
    Follows data (body >>= next) (reader >>= next') := by
  intro state hstate
  obtain ⟨result, state', hbody, hagrees, hforward, hle, made, hcalls, hmade⟩ := h state hstate
  cases result with
  | error error =>
    exact ⟨.error error, state', bind_of_error hbody, step_bind_of_error hagrees, hforward, hle,
      made, hcalls, hmade⟩
  | ok a =>
    obtain ⟨result, state'', hbody', hagrees', hforward', hle', made', hcalls', hmade'⟩ :=
      hnext a _ _ hagrees state' hle
    refine ⟨result, state'', (bind_of_ok hbody).trans hbody', ?_, Nat.le_trans hforward hforward',
      hle', made ++ made', ?_, List.forall_mem_append.mpr ⟨hmade, hmade'⟩⟩
    · exact (step_bind_of_ok hagrees).trans hagrees'
    · rw [hcalls', hcalls, List.append_assoc]

theorem Follows.bind_pure (h : Follows data body reader) (f : α → β) :
    Follows data (body >>= fun a => pure (f a)) (reader >>= fun a => pure (f a)) :=
  h.bind fun a _ _ _ => follows_pure (f a)

/-- A run with a record of it ends as the run does. -/
theorem Ends.record {state state' : IndexedState} {result : Except SchemaError α}
    (h : Ends data reader state result state') (callee : Callee)
    (hcall : (record callee state result state').InBounds data.length) :
    Ends data reader state result
      { state' with
        calls := state'.calls ++ [IndexedReader.record callee state result state'] } := by
  obtain ⟨hagrees, hforward, hle, made, hcalls, hmade⟩ := h
  refine ⟨hagrees, hforward, hle, made ++ [IndexedReader.record callee state result state'], ?_, ?_⟩
  · rw [hcalls, List.append_assoc]
  · exact List.forall_mem_append.mpr ⟨hmade, List.forall_mem_singleton.mpr hcall⟩

theorem called_of_run {callee : Callee} {state state' : IndexedState}
    {result : Except SchemaError α} (h : body state = some (result, state')) :
    called callee body state = some (result,
      { state' with calls := state'.calls ++ [record callee state result state'] }) := by
  rw [called, h]

/-- **A call** follows the reader that what is called follows, if that reader advances. -/
theorem Follows.call {callee : Callee} (h : Follows data body reader)
    (hadvances : reader.Advances) (hcallee : ∀ count, callee ≠ .slice count) :
    Follows data (called callee body) reader := by
  intro state hstate
  obtain ⟨result, state', hbody, hends⟩ := h state hstate
  refine ⟨result, _, called_of_run hbody, hends.record callee ⟨hstate, hends.le_length,
    fun _ => hends.forward, fun hnone _ => ?_, fun count _ heq => absurd heq (hcallee count)⟩⟩
  rcases result with error | a
  · cases hnone
  · obtain ⟨b, ⟨-, hoffset⟩, hne⟩ := hadvances _ _ _ hends.agrees
    have hpos : 0 < b.length := List.length_pos_iff.mpr hne
    change state'.position = state.position + b.length at hoffset
    change state.position < state'.position
    omega

end Steps

/-! ### Bytes, numbers and names -/

section Parts

variable {data : List UInt8}

theorem remaining_eq {state : IndexedState} (h : state.position ≤ data.length) :
    remaining data state = some (.ok (data.length - state.position), state) := by
  change (if state.position ≤ data.length then pure (data.length - state.position) else outside :
    IndexedReader Nat) state = _
  rw [if_pos h]
  rfl

/-- Where enough bytes are left, they lie inside the data. -/
theorem cut_of_le {count : Nat} {state : IndexedState} (h : state.position + count ≤ data.length) :
    cut data count state = some (.ok ((data.drop state.position).take count),
      ⟨state.position + count, state.calls⟩) := by
  have hleft : ¬data.length - state.position < count := by omega
  have hslice : slice data state.position (state.position + count) =
      pure ((data.drop state.position).take count) := by
    rw [slice, if_pos ⟨Nat.le_add_right .., h⟩, Nat.add_sub_cancel_left]
  rw [cut, bind_of_ok (remaining_eq (Nat.le_of_add_right_le h)), bind_of_ok rfl, if_neg hleft,
    hslice]
  rfl

theorem cut_of_lt {count : Nat} {state : IndexedState} (hstate : state.position ≤ data.length)
    (h : data.length < state.position + count) :
    cut data count state = some (.error (.unexpectedEnd state.position), state) := by
  have hleft : data.length - state.position < count := by omega
  rw [cut, bind_of_ok (remaining_eq hstate), bind_of_ok rfl, if_pos hleft]
  rfl

theorem readSlice_cursorAt {count position : Nat} (h : position + count ≤ data.length) :
    SchemaReader.readSlice count (cursorAt data position) =
      .ok ((data.drop position).take count, cursorAt data (position + count)) := by
  have hsplit : splitExact count (data.drop position) =
      some ((data.drop position).take count, data.drop (position + count)) := by
    refine splitExact_eq_some_iff.mpr ⟨?_, ?_⟩
    · rw [← List.drop_drop, List.take_append_drop]
    · rw [List.length_take, List.length_drop]
      omega
  rw [SchemaReader.readSlice, cursorAt, hsplit]
  rfl

theorem follows_readSlice (count : Nat) :
    Follows data (readSlice data count) (SchemaReader.readSlice count) := by
  intro state hstate
  rcases Nat.lt_or_ge data.length (state.position + count) with hlt | hle
  · have hread : SchemaReader.readSlice count (cursorAt data state.position) =
        .error (.unexpectedEnd state.position) := by
      refine SchemaReader.readSlice_eq_error_iff.mpr ⟨rfl, ?_⟩
      rw [cursorAt, List.length_drop]
      omega
    refine ⟨_, _, called_of_run (cut_of_lt hstate hlt), (Ends.of_unmoved hread hstate).record
      (.slice count) ⟨hstate, hstate, fun _ => Nat.le_refl _, fun hnone => ?_, ?_⟩⟩
    · cases hnone
    · rintro _ error - ⟨⟩
      exact ⟨rfl, rfl⟩
  · have hforward : state.position ≤ state.position + count := Nat.le_add_right ..
    refine ⟨_, _, called_of_run (cut_of_le hle),
      (Ends.of_silent (readSlice_cursorAt hle) hforward hle).record (.slice count)
        ⟨hstate, hle, fun _ => hforward, fun _ hcallee => ?_, fun _ _ _ herror => ?_⟩⟩
    · have hpos : 0 < count :=
        Nat.pos_of_ne_zero fun hzero => hcallee (congrArg Callee.slice hzero)
      exact Nat.lt_add_of_pos_right hpos
    · cases herror

/-- A byte is the only one of a slice. -/
theorem readU8_eq_bind : SchemaReader.readU8 =
    SchemaReader.readSlice 1 >>= fun bytes => pure (bytes.headD 0) := by
  funext s
  obtain ⟨rest, offset⟩ := s
  cases rest <;> rfl

theorem follows_readU8 : Follows data (readU8 data) SchemaReader.readU8 := by
  refine Follows.call ?_ SchemaReader.advances_readU8 (fun _ => Callee.noConfusion)
  rw [readU8_eq_bind]
  refine (follows_readSlice 1).bind fun bytes s s' hrun => ?_
  obtain ⟨-, -, -, hlength⟩ := SchemaReader.sound_readSlice 1 s bytes s' hrun
  obtain ⟨byte, rfl⟩ := List.length_eq_one_iff.mp hlength
  exact follows_pure byte

theorem follows_readU32 : Follows data (readU32 data) SchemaReader.readU32 := by
  refine Follows.call ?_ SchemaReader.advances_readU32 (fun _ => Callee.noConfusion)
  refine (follows_readSlice 4).bind fun bytes s s' hrun => ?_
  obtain ⟨-, -, -, hlength⟩ := SchemaReader.sound_readSlice 4 s bytes s' hrun
  rw [if_pos hlength]
  exact follows_pure _

theorem follows_readString : Follows data (readString data) SchemaReader.readString := by
  refine Follows.call ?_ SchemaReader.advances_readString (fun _ => Callee.noConfusion)
  refine follows_position.bind fun start _ _ _ => follows_readU32.bind fun length _ _ _ => ?_
  refine (follows_readSlice length.toNat).bind fun bytes _ _ _ => ?_
  rcases String.fromUTF8? bytes.toByteArray with _ | name
  · exact follows_fail _
  · exact follows_pure name

theorem follows_readSizeLength :
    Follows data (readSizeLength data) SchemaReader.readSizeLength := by
  refine Follows.call ?_ SchemaReader.advances_readSizeLength (fun _ => Callee.noConfusion)
  refine follows_position.bind fun start _ _ _ => follows_readU8.bind fun tag _ _ _ => ?_
  rcases SizeLength.ofTag? tag with _ | size
  · exact follows_fail _
  · exact follows_pure size

/-- A number of elements is read by the other sort of readers as a number without a width. -/
theorem follows_count {next : Nat → IndexedReader α} {next' : Nat → SchemaReader α}
    (hnext : ∀ n, Follows data (next n) (next' n)) :
    Follows data (readU32 data >>= fun n => next n.toNat)
      (SchemaReader.declaredCount >>= next') := by
  simp only [SchemaReader.declaredCount, bind_assoc, pure_bind]
  exact follows_readU32.bind fun n _ _ _ => hnext n.toNat

/-! ### Lists -/

theorem follows_readMany {element : IndexedReader α} {element' : SchemaReader α}
    (h : Follows data element element') (count : Nat) :
    Follows data (readMany element count) (SchemaReader.readMany element' count) := by
  induction count with
  | zero => exact follows_pure []
  | succ count ih => exact h.bind fun first _ _ _ => ih.bind_pure (first :: ·)

theorem follows_readNamed {element : IndexedReader α} {element' : SchemaReader α}
    (h : Follows data element element') :
    Follows data (readNamed data element) (SchemaReader.readNamed element') :=
  follows_readString.bind fun name _ _ _ => h.bind_pure (name, ·)

theorem follows_readTagged {fields : IndexedReader Fields} {fields' : SchemaReader Fields}
    (h : Follows data fields fields') (count : Nat) (found : UInt8 → Option (String × Fields)) :
    Follows data (readTagged data fields count found)
      (SchemaReader.readTagged fields' count found) := by
  induction count generalizing found with
  | zero => exact follows_pure found
  | succ count ih =>
    refine follows_position.bind fun start _ _ _ => follows_readU8.bind fun tag _ _ _ => ?_
    refine (follows_readNamed h).bind fun variant _ _ _ => ?_
    split
    · exact follows_fail _
    · exact ih _

/-! ### Types -/

section Types

variable {inner : IndexedReader SchemaType} {inner' : SchemaReader SchemaType}

theorem follows_readFields (h : Follows data inner inner')
    (hadvances : (SchemaReader.readFields SchemaReader.declaredCount inner').Advances) :
    Follows data (readFields data inner)
      (SchemaReader.readFields SchemaReader.declaredCount inner') := by
  refine Follows.call ?_ hadvances (fun _ => Callee.noConfusion)
  refine follows_position.bind fun start _ _ _ => follows_readU8.bind fun tag _ _ _ => ?_
  generalize tag.toNat = n
  -- a branch taken by the one is the same branch of the other, the last one because no other is
  split
  · exact follows_count fun n => (follows_readMany (follows_readNamed h) n).bind_pure Fields.named
  · exact follows_count fun n => (follows_readMany h n).bind_pure Fields.unnamed
  · exact follows_pure _
  · simpa only [*] using follows_fail (.unknownFieldsTag tag start)

theorem follows_readTypeOf (h : Follows data inner inner')
    (hadvances : (SchemaReader.readFields SchemaReader.declaredCount inner').Advances) :
    Follows data (readTypeOf data inner)
      (SchemaReader.readTypeOf SchemaReader.declaredCount inner') := by
  have hfields := follows_readFields h hadvances
  have henum (n : Nat) :=
    (follows_readMany (follows_readNamed hfields) n).bind_pure SchemaType.enum
  have htagged (n : Nat) :=
    (follows_readTagged hfields n noEntries).bind_pure SchemaType.taggedEnum
  refine follows_position.bind fun start _ _ _ => follows_readU8.bind fun tag _ _ _ => ?_
  generalize tag.toNat = n
  -- most types stand in their tags, or in a number or a width behind them
  split
  all_goals try exact follows_pure _
  all_goals try exact follows_readSizeLength.bind_pure _
  all_goals try exact follows_readU32.bind_pure _
  case h_16 => exact h.bind fun left _ _ _ => h.bind_pure fun right => left.pair right
  case h_17 =>
    exact follows_readSizeLength.bind fun size _ _ _ => h.bind_pure (SchemaType.list size)
  case h_18 =>
    exact follows_readSizeLength.bind fun size _ _ _ => h.bind_pure (SchemaType.set size)
  case h_19 =>
    refine follows_readSizeLength.bind fun size _ _ _ => h.bind fun key _ _ _ => ?_
    exact h.bind_pure (SchemaType.map size key)
  case h_20 => exact follows_readU32.bind fun length _ _ _ => h.bind_pure (SchemaType.array length)
  case h_21 => exact hfields.bind_pure SchemaType.struct
  case h_22 => exact follows_count henum
  case h_32 => exact follows_count htagged
  case h_33 => simpa only [*] using follows_fail (.unknownTypeTag tag start)

/-- **The reader with a position follows the one with a cursor.** -/
theorem follows_readType (depth : Nat) :
    Follows data (readType data depth)
      (SchemaReader.readType SchemaReader.declaredCount depth) := by
  induction depth with
  | zero =>
    exact Follows.call (follows_fail _) (SchemaReader.advances_readType 0)
      (fun _ => Callee.noConfusion)
  | succ depth ih =>
    refine Follows.call ?_ (SchemaReader.advances_readType (depth + 1))
      (fun _ => Callee.noConfusion)
    exact follows_readTypeOf ih (SchemaReader.advances_readFields depth)

end Types

/-! ### Whole data -/

theorem readWhole_of_ends {result : Except SchemaError SchemaType} {state : IndexedState}
    (hrun : readType data maxTypeDepth ⟨0, []⟩ = some (result, state))
    (hends : Ends data (SchemaReader.readType SchemaReader.declaredCount maxTypeDepth) ⟨0, []⟩
      result state) :
    readWhole data ⟨0, []⟩ = some (SchemaType.ofBytes data, state) := by
  have hread : SchemaReader.readType SchemaReader.declaredCount maxTypeDepth ⟨data, 0⟩ =
      result.map fun type => (type, cursorAt data state.position) := hends.agrees
  rw [readWhole]
  cases result with
  | error error => rw [bind_of_error hrun, ofBytes_of_readType_error hread]
  | ok type =>
    rw [bind_of_ok hrun, bind_of_ok (remaining_eq hends.le_length),
      ofBytes_of_readType_ok hread]
    simp only [cursorAt, List.isEmpty_iff_length_eq_zero, List.length_drop]
    split <;> rfl

end Parts

end IndexedReader

/-- **Positions stay inside the data.** Whatever the data is, reading it with a position comes to
the known result without an access outside it, and every call that it makes is in bounds. -/
theorem positions_in_bounds (data : List UInt8) :
    ∃ calls, IndexedReader.ofBytes data = some (SchemaType.ofBytes data, calls) ∧
      ∀ call ∈ calls, call.InBounds data.length := by
  obtain ⟨result, state, hrun, hends⟩ :=
    IndexedReader.follows_readType maxTypeDepth ⟨0, []⟩ (Nat.zero_le data.length)
  obtain ⟨calls, hcalls, hmade⟩ := hends.calls
  rw [List.nil_append] at hcalls
  refine ⟨calls, ?_, hmade⟩
  rw [IndexedReader.ofBytes, IndexedReader.readWhole_of_ends hrun hends, ← hcalls]
  rfl

/-- A byte read for the tag of a list, one for the width of its length, which is no width. -/
example : IndexedReader.ofBytes [0x10, 0x07] = some (.error (.unknownSizeLength 7 1),
    [⟨.slice 1, 0, 1, none⟩, ⟨.u8, 0, 1, none⟩, ⟨.slice 1, 1, 2, none⟩, ⟨.u8, 1, 2, none⟩,
      ⟨.sizeLength, 1, 2, some (.unknownSizeLength 7 1)⟩,
      ⟨.type, 0, 2, some (.unknownSizeLength 7 1)⟩]) := rfl

end ContractSchema
