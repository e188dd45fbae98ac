import NodeCall.Text.BigEndian

/-!
# Packets

How messages travel over a WebSocket connection: as packets with a head, each a whole message or
a part of one.  What a client sends is masked.
-/

namespace NodeCall.Socket

inductive PacketKind
  | continuation
  | text
  | binary
  | close
  | ping
  | pong
  deriving DecidableEq, Repr

namespace PacketKind

def code : PacketKind → UInt8
  | .continuation => 0
  | .text => 1
  | .binary => 2
  | .close => 8
  | .ping => 9
  | .pong => 10

def ofCode? (code : UInt8) : Option PacketKind :=
  [continuation, text, binary, close, ping, pong].find? (·.code = code)

theorem ofCode?_code (kind : PacketKind) : ofCode? kind.code = some kind := by
  cases kind <;> rfl

end PacketKind

/-- A packet; the last one of a message is final. -/
structure Packet where
  final : Bool
  kind : PacketKind
  payload : List UInt8
  deriving DecidableEq, Repr

namespace Packet

/-- Bytes under a repeated mask; masking twice gives them back. -/
def masked (mask bytes : List UInt8) : List UInt8 :=
  bytes.mapIdx fun i b => b ^^^ (mask[i % 4]?).getD 0

@[simp] theorem length_masked (mask bytes : List UInt8) :
    (masked mask bytes).length = bytes.length :=
  List.length_mapIdx

theorem masked_masked (mask bytes : List UInt8) : masked mask (masked mask bytes) = bytes := by
  simp only [masked, List.mapIdx_mapIdx, Function.comp_def, UInt8.xor_assoc, UInt8.xor_self,
    UInt8.xor_zero]
  exact List.mapIdx_eq_iff.2 fun i => by simp

def lengthBytes (length : Nat) : List UInt8 :=
  if length < 126 then [UInt8.ofNat (128 + length)]
  else if length < 65536 then 254 :: Text.BigEndian.encode 2 length
  else 255 :: Text.BigEndian.encode 8 length

def bytes (mask : List UInt8) (packet : Packet) : List UInt8 :=
  (packet.kind.code + if packet.final then 128 else 0) ::
    (lengthBytes packet.payload.length ++ mask ++ masked mask packet.payload)

/-- A first packet: it is there with what follows it, is still to come, or never comes. -/
inductive Taken
  | done (packet : Packet) (rest : List UInt8)
  | more
  | wrong

def takePayload (final : Bool) (kind : PacketKind) (hasMask : Bool) (length : Nat)
    (bytes : List UInt8) : Taken :=
  let mask := if hasMask then bytes.take 4 else [0, 0, 0, 0]
  let body := if hasMask then bytes.drop 4 else bytes
  if mask.length < 4 || body.length < length then .more
  else .done ⟨final, kind, masked mask (body.take length)⟩ (body.drop length)

def take : List UInt8 → Taken
  | first :: second :: rest =>
    match PacketKind.ofCode? (first &&& 15) with
    | none => .wrong
    | some kind =>
      let final := 128 ≤ first
      let hasMask := 128 ≤ second
      let short := (second &&& 127).toNat
      let wide := if short = 126 then 2 else if short = 127 then 8 else 0
      if first &&& 0x70 ≠ 0 then .wrong
      else if rest.length < wide then .more
      else
        let length := if wide = 0 then short else Text.BigEndian.decode (rest.take wide)
        takePayload final kind hasMask length (rest.drop wide)
  | _ => .more

theorem takePayload_masked {mask : List UInt8} (hm : mask.length = 4) (packet : Packet)
    (rest : List UInt8) :
    takePayload packet.final packet.kind true packet.payload.length
      (mask ++ (masked mask packet.payload ++ rest)) = .done packet rest := by
  have h1 : (mask ++ (masked mask packet.payload ++ rest)).take 4 = mask := by
    rw [← hm, List.take_left]
  have h2 : (mask ++ (masked mask packet.payload ++ rest)).drop 4 = masked mask packet.payload ++ rest := by
    rw [← hm, List.drop_left]
  have h3 : (masked mask packet.payload ++ rest).take packet.payload.length =
      masked mask packet.payload := by
    rw [← length_masked mask packet.payload, List.take_left]
  have h4 : (masked mask packet.payload ++ rest).drop packet.payload.length = rest := by
    rw [← length_masked mask packet.payload, List.drop_left]
  have h5 : ¬ mask.length < 4 := by omega
  have h6 : ¬ (masked mask packet.payload ++ rest).length < packet.payload.length := by simp
  simp only [takePayload, h1, h2, h3, h4, h5, h6, masked_masked, if_true, decide_false,
    Bool.or_self, Bool.false_eq_true, if_false]

theorem take_head (kind : PacketKind) (final : Bool) (second : UInt8) (rest : List UInt8) :
    take ((kind.code + if final then 128 else 0) :: second :: rest) =
      let short := (second &&& 127).toNat
      let wide := if short = 126 then 2 else if short = 127 then 8 else 0
      if rest.length < wide then .more
      else
        let length := if wide = 0 then short else Text.BigEndian.decode (rest.take wide)
        takePayload final kind (128 ≤ second) length (rest.drop wide) := by
  cases kind <;> cases final <;> rfl

theorem take_short (kind : PacketKind) (final : Bool) {length : Nat} (h : length < 126)
    (rest : List UInt8) :
    take ((kind.code + if final then 128 else 0) :: UInt8.ofNat (128 + length) :: rest) =
      takePayload final kind true length rest := by
  have hs : ∀ n : Fin 126, (UInt8.ofNat (128 + n.val) &&& 127).toNat = n.val ∧
      128 ≤ UInt8.ofNat (128 + n.val) := by decide
  obtain ⟨hl, hb⟩ := hs ⟨length, h⟩
  simp only at hl hb
  have h126 : length ≠ 126 := by omega
  have h127 : length ≠ 127 := by omega
  simp only [take_head, hl, hb, h126, h127, if_false, List.drop_zero, Nat.not_lt_zero, if_true,
    decide_true]

theorem take_wide (kind : PacketKind) (final : Bool) {second : UInt8} {code : List UInt8}
    (h : second = 254 ∧ code.length = 2 ∨ second = 255 ∧ code.length = 8) (rest : List UInt8) :
    take ((kind.code + if final then 128 else 0) :: second :: (code ++ rest)) =
      takePayload final kind true (Text.BigEndian.decode code) rest := by
  have hw : ∀ wide, code.length = wide → (code ++ rest).take wide = code ∧
      (code ++ rest).drop wide = rest ∧ ¬ (code ++ rest).length < wide := by
    rintro _ rfl
    exact ⟨List.take_left, List.drop_left, by simp⟩
  rcases h with ⟨rfl, hc⟩ | ⟨rfl, hc⟩
  · obtain ⟨h1, h2, h3⟩ := hw 2 hc
    rw [take_head]
    show (if (code ++ rest).length < 2 then Taken.more else
      takePayload final kind true (Text.BigEndian.decode ((code ++ rest).take 2))
        ((code ++ rest).drop 2)) = _
    rw [h1, h2, if_neg h3]
  · obtain ⟨h1, h2, h3⟩ := hw 8 hc
    rw [take_head]
    show (if (code ++ rest).length < 8 then Taken.more else
      takePayload final kind true (Text.BigEndian.decode ((code ++ rest).take 8))
        ((code ++ rest).drop 8)) = _
    rw [h1, h2, if_neg h3]

theorem take_bytes {mask : List UInt8} (hm : mask.length = 4) {packet : Packet}
    (hl : packet.payload.length < Nat.pow 256 8) (rest : List UInt8) :
    take (packet.bytes mask ++ rest) = .done packet rest := by
  have hp := takePayload_masked hm packet rest
  by_cases short : packet.payload.length < 126
  · simp only [bytes, lengthBytes, short, if_true, List.cons_append, List.nil_append,
      List.append_assoc, take_short]
    exact hp
  · by_cases middle : packet.payload.length < 65536
    · have hd := Text.BigEndian.decode_encode (show packet.payload.length < Nat.pow 256 2 from middle)
      simp only [bytes, lengthBytes, short, middle, if_true, if_false, List.cons_append,
        List.append_assoc]
      rw [take_wide _ _ (.inl ⟨rfl, Text.BigEndian.length_encode _ _⟩), hd]
      exact hp
    · have hd := Text.BigEndian.decode_encode hl
      simp only [bytes, lengthBytes, short, middle, if_false, List.cons_append, List.append_assoc]
      rw [take_wide _ _ (.inr ⟨rfl, Text.BigEndian.length_encode _ _⟩), hd]
      exact hp

end Packet

inductive Message
  | text (bytes : List UInt8)
  | binary (bytes : List UInt8)
  | ping (bytes : List UInt8)
  | pong
  | close

/-- The parts of a message that is not complete, and its kind. -/
abbrev Parts := Option (PacketKind × List UInt8)

def Message.ofKind (kind : PacketKind) (bytes : List UInt8) : Message :=
  match kind with
  | .text => .text bytes
  | .ping => .ping bytes
  | .pong => .pong
  | .close => .close
  | _ => .binary bytes

def Packet.join (parts : Parts) (packet : Packet) : Parts × Option Message :=
  match packet.kind with
  | .text | .binary =>
    if packet.final then (parts, some (.ofKind packet.kind packet.payload))
    else (some (packet.kind, packet.payload), none)
  | .continuation =>
    match parts with
    | none => (none, none)
    | some (kind, before) =>
      let all := before ++ packet.payload
      if packet.final then (none, some (.ofKind kind all)) else (some (kind, all), none)
  | kind => (parts, some (.ofKind kind packet.payload))

/-- The bytes of a connection that are no packet yet, and the parts of a message. -/
structure Inbox where
  bytes : List UInt8
  parts : Parts

namespace Inbox

def empty : Inbox := ⟨[], none⟩

/-- The messages that are complete, and whether the bytes after them make sense; as long as there
is fuel. -/
def unpack : Nat → Inbox → List Message × Inbox × Bool
  | 0, inbox => ([], inbox, true)
  | fuel + 1, inbox =>
    match Packet.take inbox.bytes with
    | .more => ([], inbox, true)
    | .wrong => ([], inbox, false)
    | .done packet rest =>
      let (parts, message) := packet.join inbox.parts
      let (later, inbox, sound) := unpack fuel ⟨rest, parts⟩
      (message.toList ++ later, inbox, sound)

def receive (inbox : Inbox) (bytes : List UInt8) : List Message × Inbox × Bool :=
  let all := inbox.bytes ++ bytes
  unpack all.length ⟨all, inbox.parts⟩

end Inbox
end NodeCall.Socket
