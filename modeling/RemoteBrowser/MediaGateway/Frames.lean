import RemoteBrowser.MediaGateway.Hub
import RemoteBrowser.Text.Percent
import RemoteBrowser.Wire.Bytes

/-!
# Frames of the gateway's web sockets

The gateway reads and writes the frames of its web sockets by itself.  A frame that was written,
or its masked form, is read back, and so is a stream of frames.  What a frame announces is
allocated before anybody looks at a limit.
-/

namespace RemoteBrowser.MediaGateway

open Text Wire

def wsOpcodeContinuation : UInt8 := 0x0
def wsOpcodeText : UInt8 := 0x1
def wsOpcodeClose : UInt8 := 0x8
def wsOpcodePing : UInt8 := 0x9
def wsOpcodePong : UInt8 := 0xA

/-! ## Reading -/

/-- An error of `readFrame`: the stream ends, or the frame is a part of a message. -/
inductive FrameError where
  | unread
  | fragmented
  deriving DecidableEq

/-- What `readFrame` has read when it allocates the payload. -/
structure FrameHeader where
  opcode : UInt8
  payloadLen : Int
  maskKey : Option (List UInt8)
  deriving DecidableEq

/-- `int64(value)`, for an unsigned number of 64 bits. -/
def int64 (value : Nat) : Int := if value < 2 ^ 63 then value else value - 2 ^ 64

/-- `io.ReadFull`. -/
def readBytes (count : Nat) (stream : List UInt8) :
    Except FrameError (List UInt8 × List UInt8) :=
  match readFull count stream with
  | none => .error .unread
  | some read => .ok read

/-- The length of the payload, after the second byte of the header. -/
def readLength (second : UInt8) (stream : List UInt8) : Except FrameError (Int × List UInt8) :=
  let short := second &&& 0x7F
  if short = 126 then do
    let (extended, rest) ← readBytes 2 stream
    return (bigEndian extended, rest)
  else if short = 127 then do
    let (extended, rest) ← readBytes 8 stream
    return (int64 (bigEndian extended), rest)
  else .ok (short.toNat, stream)

/-- The key, if the second byte of the header says that there is one. -/
def readMaskKey (second : UInt8) (stream : List UInt8) :
    Except FrameError (Option (List UInt8) × List UInt8) :=
  if second &&& 0x80 ≠ 0 then do
    let (key, rest) ← readBytes 4 stream
    return (some key, rest)
  else .ok (none, stream)

/-- `readFrame`, up to the allocation of the payload. -/
def readFrameHeader (stream : List UInt8) : Except FrameError (FrameHeader × List UInt8) :=
  match stream with
  | first :: second :: rest => do
      let opcode := first &&& 0x0F
      if first &&& 0x80 = 0 ∨ opcode = wsOpcodeContinuation then .error .fragmented
      else
        let (payloadLen, rest) ← readLength second rest
        let (maskKey, rest) ← readMaskKey second rest
        return (⟨opcode, payloadLen, maskKey⟩, rest)
  | _ => .error .unread

def unmask : Option (List UInt8) → List UInt8 → List UInt8
  | none, payload => payload
  | some key, payload => mask key payload

/-- No slice is longer: addresses have 48 bits. -/
def maxAlloc : Int := 2 ^ 48

/-- How a call of `readFrame` ends. -/
inductive FrameRead where
  | panics
  | fails (failure : FrameError)
  | reads (opcode : UInt8) (payload rest : List UInt8)
  deriving DecidableEq

/-- `make` panics for a negative length, and for one that no slice has and no stream goes on for. -/
def readFrame (stream : List UInt8) : FrameRead :=
  match readFrameHeader stream with
  | .error failure => .fails failure
  | .ok (header, rest) =>
      if header.payloadLen < 0 then .panics
      else
        match readBytes header.payloadLen.toNat rest with
        | .error failure => if maxAlloc < header.payloadLen then .panics else .fails failure
        | .ok (payload, rest) => .reads header.opcode (unmask header.maskKey payload) rest

/-- The length of the slice that `readFrame` makes for the payload, if it comes to that. -/
def allocation (stream : List UInt8) : Option Int :=
  match readFrameHeader stream with
  | .error _ => none
  | .ok (header, _) => some header.payloadLen

/-- What so many calls of `readFrame` return. -/
def readFrames : Nat → List UInt8 → Option (List (UInt8 × List UInt8) × List UInt8)
  | 0, stream => some ([], stream)
  | count + 1, stream =>
      match readFrame stream with
      | .reads opcode payload rest =>
          (readFrames count rest).map fun (frames, rest) => ((opcode, payload) :: frames, rest)
      | _ => none

/-! ## Writing -/

/-- The header that `writeFrame` writes. -/
def frameHeader (opcode : UInt8) (payloadLen : Nat) : List UInt8 :=
  (0x80 ||| opcode) ::
    if payloadLen ≤ 125 then [UInt8.ofNat payloadLen]
    else if payloadLen ≤ 65535 then 126 :: bigEndianBytes 2 payloadLen
    else 127 :: bigEndianBytes 8 payloadLen

def writeFrame (opcode : UInt8) (payload : List UInt8) : List UInt8 :=
  frameHeader opcode payload.length ++ payload

/-- A frame as it can be sent: one message, of a length that fits into its header. -/
structure Frame where
  opcode : UInt8
  payload : List UInt8
  opcode_lt : opcode < 16
  opcode_ne : opcode ≠ wsOpcodeContinuation
  length_lt : payload.length < 2 ^ 63

/-- A server sends frames as they are, a client masks them. -/
inductive Form where
  | server
  | client (key : Vector UInt8 4)

namespace Form

/-- What the second byte of the header says about the mask. -/
def maskBit : Form → UInt8
  | server => 0
  | client _ => 0x80

def keyBytes : Form → List UInt8
  | server => []
  | client key => key.toList

def spell : Form → List UInt8 → List UInt8
  | server, payload => payload
  | client key, payload => mask key.toList payload

end Form

/-- The bytes of a frame: in the form of a client, the mask bit is set, the key is put behind the
header and the payload is masked. -/
def Frame.bytes (frame : Frame) (form : Form) : List UInt8 :=
  (frameHeader frame.opcode frame.payload.length).modify 1 (form.maskBit ||| ·) ++
    form.keyBytes ++ form.spell frame.payload

/-- The form of a server is what `writeFrame` writes. -/
theorem Frame.bytes_server (frame : Frame) :
    frame.bytes .server = writeFrame frame.opcode frame.payload := by
  have same : (frameHeader frame.opcode frame.payload.length).modify 1 (0 ||| ·) =
      frameHeader frame.opcode frame.payload.length := by
    have keep : (fun byte : UInt8 => 0 ||| byte) = id := by
      funext byte
      exact UInt8.zero_or
    rw [keep, List.modify_id]
  simp only [Frame.bytes, Form.maskBit, Form.keyBytes, Form.spell, same, List.append_nil]
  rfl

/-! ## Reading what was written -/

theorem ok_bind {ε α β : Type} (value : α) (rest : α → Except ε β) :
    (Except.ok value >>= rest) = rest value := rfl

theorem first_byte : ∀ opcode : UInt8, opcode < 16 → opcode ≠ wsOpcodeContinuation →
    (0x80 ||| opcode) &&& 0x80 ≠ 0 ∧ (0x80 ||| opcode) &&& 0x0F = opcode :=
  forall_byte (by decide +kernel)

theorem second_byte (form : Form) : ∀ byte : UInt8, byte < 128 →
    (form.maskBit ||| byte) &&& 0x7F = byte ∧ ((form.maskBit ||| byte) &&& 0x80 = form.maskBit) := by
  cases form with
  | server => exact forall_byte (by decide +kernel)
  | client key =>
      change ∀ byte : UInt8, byte < 128 → (0x80 ||| byte) &&& 0x7F = byte ∧
        (0x80 ||| byte) &&& 0x80 = 0x80
      exact forall_byte (by decide +kernel)

/-- The second byte of a header and what follows it give the length back. -/
theorem readLength_frameHeader (form : Form) {length : Nat} (fits : length < 2 ^ 63)
    (opcode : UInt8) (rest : List UInt8) :
    ∃ second extended, frameHeader opcode length = (0x80 ||| opcode) :: second :: extended ∧
      second < 128 ∧
      readLength (form.maskBit ||| second) (extended ++ rest) = .ok ((length : Int), rest) := by
  have exact : 256 ^ 8 = 2 * 2 ^ 63 := rfl
  unfold frameHeader
  split
  case isTrue short =>
    have value : (UInt8.ofNat length).toNat = length := by
      rw [UInt8.toNat_ofNat']
      exact Nat.mod_eq_of_lt (by omega)
    have below : UInt8.ofNat length < 128 := by
      rw [UInt8.lt_iff_toNat_lt, value]
      exact Nat.lt_of_le_of_lt short (by decide)
    refine ⟨_, [], rfl, below, ?_⟩
    have different : ∀ other : UInt8, 125 < other.toNat → UInt8.ofNat length ≠ other := by
      rintro other above rfl
      omega
    simp only [readLength, (second_byte form _ below).1]
    rw [if_neg (different 126 (by decide)), if_neg (different 127 (by decide)), value,
      List.nil_append]
  case isFalse long =>
    split
    case isTrue middle =>
      refine ⟨126, bigEndianBytes 2 length, rfl, by decide, ?_⟩
      have value := bigEndian_bigEndianBytes 2 length
      rw [Nat.mod_eq_of_lt (Nat.lt_of_le_of_lt middle (by decide))] at value
      simp only [readLength, (second_byte form 126 (by decide)).1, if_true, readBytes,
        readFull_append (length_bigEndianBytes 2 length)]
      rw [ok_bind, value]
      rfl
    case isFalse =>
      refine ⟨127, bigEndianBytes 8 length, rfl, by decide, ?_⟩
      have different : ¬(127 : UInt8) = 126 := by decide
      have value := bigEndian_bigEndianBytes 8 length
      rw [Nat.mod_eq_of_lt (by omega)] at value
      simp only [readLength, (second_byte form 127 (by decide)).1, different, if_true, if_false,
        readBytes, readFull_append (length_bigEndianBytes 8 length)]
      rw [ok_bind, value, int64, if_pos fits]
      rfl

/-- The key that a form puts behind the header. -/
def Form.key : Form → Option (List UInt8)
  | server => none
  | client key => some key.toList

theorem readMaskKey_form (form : Form) {second : UInt8} (small : second < 128)
    (rest : List UInt8) :
    readMaskKey (form.maskBit ||| second) (form.keyBytes ++ rest) = .ok (form.key, rest) := by
  unfold readMaskKey
  rw [(second_byte form second small).2]
  cases form with
  | server => rfl
  | client key =>
      have bit : (0x80 : UInt8) ≠ 0 := by decide
      simp only [Form.maskBit, if_pos bit, readBytes, Form.keyBytes,
        readFull_append key.length_toList]
      rfl

theorem unmask_spell (form : Form) (payload : List UInt8) :
    unmask form.key (form.spell payload) = payload := by
  cases form with
  | server => rfl
  | client key => exact mask_mask _ _

theorem length_spell (form : Form) (payload : List UInt8) :
    (form.spell payload).length = payload.length := by
  cases form with
  | server => rfl
  | client key => exact length_mask _ _

/-- A frame in either form is read back, and nothing behind it is touched. -/
theorem readFrame_bytes (frame : Frame) (form : Form) (rest : List UInt8) :
    readFrame (frame.bytes form ++ rest) = .reads frame.opcode frame.payload rest := by
  obtain ⟨finished, opcode⟩ := first_byte frame.opcode frame.opcode_lt frame.opcode_ne
  obtain ⟨second, extended, header, small, length⟩ := readLength_frameHeader form frame.length_lt
    frame.opcode (form.keyBytes ++ (form.spell frame.payload ++ rest))
  have whole : frame.bytes form ++ rest = (0x80 ||| frame.opcode) :: (form.maskBit ||| second) ::
      (extended ++ (form.keyBytes ++ (form.spell frame.payload ++ rest))) := by
    rw [Frame.bytes, header]
    simp [List.modify]
  have read : readFrameHeader (frame.bytes form ++ rest) =
      .ok (⟨frame.opcode, frame.payload.length, form.key⟩, form.spell frame.payload ++ rest) := by
    rw [whole]
    simp only [readFrameHeader, opcode, finished, frame.opcode_ne, or_self, if_false, length,
      ok_bind, readMaskKey_form form small]
    rfl
  have payload := readFull_append (length_spell form frame.payload) rest
  unfold readFrame
  rw [read]
  dsimp only
  rw [if_neg (Int.not_lt.mpr (Int.natCast_nonneg _)), Int.toNat_natCast, readBytes, payload]
  dsimp only
  rw [unmask_spell]

/-- What is written is read back: a frame by itself, and the frames of a stream one after the
other. -/
theorem frames_are_read_back :
    (∀ (frame : Frame) (rest : List UInt8),
      readFrame (writeFrame frame.opcode frame.payload ++ rest) =
        .reads frame.opcode frame.payload rest) ∧
    (∀ (frame : Frame) (key : Vector UInt8 4) (rest : List UInt8),
      readFrame (frame.bytes (.client key) ++ rest) = .reads frame.opcode frame.payload rest) ∧
    ∀ (sent : List (Frame × Form)) (rest : List UInt8),
      readFrames sent.length ((sent.flatMap fun (frame, form) => frame.bytes form) ++ rest) =
        some (sent.map fun (frame, _) => (frame.opcode, frame.payload), rest) := by
  refine ⟨fun frame rest => ?_, fun frame key rest => readFrame_bytes frame _ rest, ?_⟩
  · rw [← frame.bytes_server]
    exact readFrame_bytes frame .server rest
  · intro sent rest
    induction sent with
    | nil => rfl
    | cons head sent ih =>
        obtain ⟨frame, form⟩ := head
        rw [List.flatMap_cons, List.append_assoc, List.length_cons, readFrames,
          readFrame_bytes frame form]
        dsimp only
        rw [ih]
        rfl

/-! ## What is allocated -/

/-- The two kinds of sockets, which limit their messages. -/
inductive SocketKind where
  | signaling
  | media
  deriving DecidableEq

def SocketKind.maxMessageBytes : SocketKind → Nat
  | signaling => signalMaxWebSocketMessageBytes
  | media => mediaRelayMaxWebSocketFrameBytes

/-- Reading neither panics nor allocates more than a message may have. -/
def ReadsSafely (kind : SocketKind) (stream : List UInt8) : Prop :=
  readFrame stream ≠ .panics ∧
    ∀ length, allocation stream = some length → 0 ≤ length ∧ length ≤ kind.maxMessageBytes

/-- How many bytes extend the length in the second byte of a header. -/
def extension (second : UInt8) : Nat :=
  if second &&& 0x7F = 126 then 2 else if second &&& 0x7F = 127 then 8 else 0

/-- How many bytes of a mask key follow the length. -/
def keyLength (second : UInt8) : Nat := if second &&& 0x80 ≠ 0 then 4 else 0

/-- The length that a frame announces: an unsigned number in the complete header of a frame that
is a message by itself. -/
def announcedLength : List UInt8 → Option Nat
  | first :: second :: rest =>
      if first &&& 0x80 = 0 ∨ first &&& 0x0F = wsOpcodeContinuation then none
      else if rest.length < extension second + keyLength second then none
      else if extension second = 0 then some (second &&& 0x7F).toNat
      else some (bigEndian (rest.take (extension second)))
  | _ => none

theorem readBytes_eq (count : Nat) (stream : List UInt8) :
    readBytes count stream =
      if count ≤ stream.length then .ok (stream.take count, stream.drop count)
      else .error .unread := by
  unfold readBytes readFull
  split
  case h_1 unread =>
    split at unread
    · cases unread
    · next short => rw [if_neg short]
  case h_2 read =>
    split at read
    · next enough =>
        cases read
        rw [if_pos enough]
    · cases read

theorem int64_of_lt {value : Nat} (small : value < 2 ^ 63) : int64 value = value := if_pos small

/-- The length field as `readFrame` understands it. -/
theorem readLength_eq (second : UInt8) (stream : List UInt8) :
    readLength second stream =
      if extension second ≤ stream.length then
        .ok (int64 (if extension second = 0 then (second &&& 0x7F).toNat
          else bigEndian (stream.take (extension second))), stream.drop (extension second))
      else .error .unread := by
  unfold readLength extension
  dsimp only
  split
  case isTrue =>
    rw [readBytes_eq]
    split
    case isTrue =>
      have small := bigEndian_lt (stream.take 2)
      have short : (stream.take 2).length ≤ 2 := by simp
      have bound : bigEndian (stream.take 2) < 2 ^ 63 :=
        Nat.lt_of_lt_of_le small (Nat.le_trans (Nat.pow_le_pow_right (by decide) short) (by decide))
      rw [ok_bind, if_neg (by decide), int64_of_lt bound]
      rfl
    case isFalse => rfl
  case isFalse =>
    split
    case isTrue =>
      rw [readBytes_eq]
      split
      case isTrue =>
        rw [ok_bind, if_neg (by decide)]
        rfl
      case isFalse => rfl
    case isFalse =>
      have small := (second &&& 0x7F).toNat_lt
      rw [if_pos (Nat.zero_le _), if_pos rfl, int64_of_lt (Nat.lt_trans small (by decide))]
      rfl

theorem readMaskKey_eq (second : UInt8) (stream : List UInt8) :
    (readMaskKey second stream).isOk =
      decide (keyLength second ≤ stream.length) := by
  unfold readMaskKey keyLength
  split
  case isTrue =>
    rw [readBytes_eq]
    split
    case isTrue enough => exact (decide_eq_true enough).symm
    case isFalse short => exact (decide_eq_false short).symm
  case isFalse => exact (decide_eq_true (Nat.zero_le _)).symm

/-- What is allocated is what is announced, as a signed number. -/
theorem allocation_eq (stream : List UInt8) :
    allocation stream = (announcedLength stream).map int64 := by
  match stream with
  | [] => rfl
  | [_] => rfl
  | first :: second :: rest =>
      simp only [allocation, readFrameHeader, announcedLength]
      by_cases part : first &&& 0x80 = 0 ∨ first &&& 0x0F = wsOpcodeContinuation
      case pos =>
        rw [if_pos part, if_pos part]
        rfl
      case neg =>
        rw [if_neg part, if_neg part, readLength_eq]
        have masked := readMaskKey_eq second (rest.drop (extension second))
        rw [List.length_drop] at masked
        by_cases enough : extension second ≤ rest.length
        case neg =>
          have exceeds : rest.length < extension second + keyLength second := by omega
          rw [if_neg enough, if_pos exceeds]
          rfl
        case pos =>
          rw [if_pos enough, ok_bind]
          cases key : readMaskKey second (rest.drop (extension second)) with
          | error failure =>
              rw [key] at masked
              have short := of_decide_eq_false masked.symm
              have exceeds : rest.length < extension second + keyLength second := by omega
              rw [if_pos exceeds]
              rfl
          | ok found =>
              rw [key] at masked
              have long := of_decide_eq_true masked.symm
              have present : ¬rest.length < extension second + keyLength second := by omega
              rw [if_neg present]
              by_cases none : extension second = 0
              case pos =>
                rw [if_pos none, if_pos none]
                rfl
              case neg =>
                rw [if_neg none, if_neg none]
                rfl

theorem announcedLength_lt {stream : List UInt8} {length : Nat}
    (announced : announcedLength stream = some length) : length < 2 ^ 64 := by
  unfold announcedLength at announced
  split at announced
  case h_2 => cases announced
  case h_1 first second rest =>
    split at announced
    · cases announced
    · split at announced
      · cases announced
      · split at announced
        · cases announced
          exact Nat.lt_trans (UInt8.toNat_lt _) (by decide)
        · cases announced
          have width : extension second ≤ 8 := by
            unfold extension
            split
            · decide
            · split <;> decide
          have short : (rest.take (extension second)).length ≤ 8 :=
            Nat.le_trans (List.length_take_le _ _) width
          have bytes : 256 ^ 8 = 2 ^ 64 := rfl
          rw [← bytes]
          exact Nat.lt_of_lt_of_le (bigEndian_lt _) (Nat.pow_le_pow_right (by decide) short)

theorem allocation_of_panics {stream : List UInt8} (panics : readFrame stream = .panics) :
    ∃ length, allocation stream = some length ∧ (length < 0 ∨ maxAlloc < length) := by
  unfold readFrame at panics
  unfold allocation
  split at panics
  case h_1 => cases panics
  case h_2 header rest _ =>
    refine ⟨header.payloadLen, rfl, ?_⟩
    split at panics
    case isTrue negative => exact .inl negative
    case isFalse =>
      split at panics
      case h_1 =>
        split at panics
        case isTrue huge => exact .inr huge
        case isFalse => cases panics
      case h_2 => cases panics

/-- A frame is read safely exactly if it does not announce more than a message may have. -/
theorem reads_safely_iff (kind : SocketKind) (stream : List UInt8) :
    ReadsSafely kind stream ↔
      ∀ length, announcedLength stream = some length → length ≤ kind.maxMessageBytes := by
  have limit : kind.maxMessageBytes < 2 ^ 48 := by
    cases kind <;> decide
  have panics := @allocation_of_panics stream
  unfold ReadsSafely
  rw [allocation_eq] at panics ⊢
  cases announced : announcedLength stream with
  | none =>
      rw [announced] at panics
      constructor
      · intro _
        nofun
      · refine fun _ => ⟨fun panicked => ?_, nofun⟩
        obtain ⟨length, impossible, -⟩ := panics panicked
        cases impossible
  | some length =>
      have bound := announcedLength_lt announced
      simp only [Option.map_some, Option.some.injEq]
      constructor
      · rintro ⟨-, within⟩ other rfl
        obtain ⟨positive, small⟩ := within _ rfl
        unfold int64 at positive small
        split at small
        · exact Int.ofNat_le.mp small
        · next large =>
            rw [if_neg large] at positive
            omega
      · intro small
        have least := small length rfl
        have same : int64 length = length := int64_of_lt (by omega)
        rw [announced, Option.map_some, same] at panics
        rw [same]
        constructor
        · intro panicked
          obtain ⟨other, whole, wrong⟩ := panics panicked
          cases whole
          unfold maxAlloc at wrong
          omega
        · rintro other rfl
          exact ⟨Int.natCast_nonneg _, Int.ofNat_le.mpr least⟩

/-- Ten bytes, with which a peer need not be registered. -/
theorem negative_length_panics :
    ¬∀ (kind : SocketKind) (stream : List UInt8), ReadsSafely kind stream := by
  intro always
  have panics : readFrame [0x81, 127, 0x80, 0, 0, 0, 0, 0, 0, 0] = .panics := by rfl
  exact (always .signaling _).1 panics

end RemoteBrowser.MediaGateway
