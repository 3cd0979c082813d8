/-!
# Decoding bytes as text

`decode?` reads bytes as UTF-8 and says where the first malformed sequence is and how long its
malformed part is; a sequence that the end of the bytes cuts off has no length.
-/

namespace InstallerSetup.Text

/-- Where bytes stop being UTF-8. -/
structure Malformed where
  /-- The number of well-formed bytes before the fault. -/
  index : Nat
  /-- The length of the malformed part; none if the bytes end within a sequence. -/
  length : Option Nat
  deriving DecidableEq, Repr

def Malformed.message (m : Malformed) : String :=
  match m.length with
  | some n => s!"invalid utf-8 sequence of {n} bytes from index {m.index}"
  | none => s!"incomplete utf-8 byte sequence from index {m.index}"

/-- What a sequence begun earlier still needs. -/
structure Pending where
  /-- The number of bytes still needed; zero between sequences. -/
  missing : Nat
  /-- The index at which the sequence began. -/
  start : Nat
  /-- The least and the greatest next byte. -/
  low : UInt8
  high : UInt8

def Pending.none : Pending := ⟨0, 0, 0, 0⟩

/-- What a leading byte asks for, if bytes may begin with it. -/
def Pending.ofLead? (lead : UInt8) (index : Nat) : Option Pending :=
  if lead < 0x80 then some .none
  else if 0xC2 ≤ lead && lead ≤ 0xDF then some ⟨1, index, 0x80, 0xBF⟩
  else if lead = 0xE0 then some ⟨2, index, 0xA0, 0xBF⟩
  else if lead = 0xED then some ⟨2, index, 0x80, 0x9F⟩
  else if 0xE1 ≤ lead && lead ≤ 0xEF then some ⟨2, index, 0x80, 0xBF⟩
  else if lead = 0xF0 then some ⟨3, index, 0x90, 0xBF⟩
  else if 0xF1 ≤ lead && lead ≤ 0xF3 then some ⟨3, index, 0x80, 0xBF⟩
  else if lead = 0xF4 then some ⟨3, index, 0x80, 0x8F⟩
  else Option.none

/-- The first malformed sequence of the bytes from the given index on. -/
def firstMalformed? : Pending → Nat → List UInt8 → Option Malformed
  | pending, _, [] => if pending.missing = 0 then none else some ⟨pending.start, none⟩
  | pending, index, byte :: rest =>
      match pending.missing with
      | 0 =>
          match Pending.ofLead? byte index with
          | some next => firstMalformed? next (index + 1) rest
          | none => some ⟨index, some 1⟩
      | missing + 1 =>
          if pending.low ≤ byte && byte ≤ pending.high then
            firstMalformed? ⟨missing, pending.start, 0x80, 0xBF⟩ (index + 1) rest
          else some ⟨pending.start, some (index - pending.start)⟩

def decode? (bytes : List UInt8) : Except Malformed String :=
  match firstMalformed? .none 0 bytes with
  | some fault => .error fault
  | none => .ok ((String.fromUTF8? (ByteArray.mk bytes.toArray)).getD "")

def encode (s : String) : List UInt8 := s.toUTF8.toList

end InstallerSetup.Text
