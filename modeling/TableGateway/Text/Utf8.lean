/-!
# UTF-8

Encoding goes character by character. Decoding gives one result per character and one failure per
longest front of a character that is broken off, so a lossy reading shows as many marks as there are
broken characters.
-/

namespace TableGateway.Text.Utf8

def encode (text : List Char) : List UInt8 :=
  text.flatMap String.utf8EncodeChar

/-- What a first byte announces: how many bytes follow, between which bounds the second one lies,
and the leading bits of the code point. -/
structure Lead where
  following : Nat
  low : UInt8
  high : UInt8
  bits : Nat

def lead? (byte : UInt8) : Option Lead :=
  if byte < 0x80 then some ⟨0, 0, 0, byte.toNat⟩
  else if byte < 0xc2 then none
  else if byte < 0xe0 then some ⟨1, 0x80, 0xbf, byte.toNat - 0xc0⟩
  else if byte = 0xe0 then some ⟨2, 0xa0, 0xbf, 0⟩
  else if byte = 0xed then some ⟨2, 0x80, 0x9f, 0xd⟩
  else if byte < 0xf0 then some ⟨2, 0x80, 0xbf, byte.toNat - 0xe0⟩
  else if byte = 0xf0 then some ⟨3, 0x90, 0xbf, 0⟩
  else if byte < 0xf4 then some ⟨3, 0x80, 0xbf, byte.toNat - 0xf0⟩
  else if byte = 0xf4 then some ⟨3, 0x80, 0x8f, 4⟩
  else none

def extend (bits : Nat) (byte : UInt8) : Nat :=
  bits * 64 + (byte.toNat - 0x80)

def isContinuation (byte : UInt8) : Bool :=
  0x80 ≤ byte && byte ≤ 0xbf

inductive Flaw
  | start
  | continuation
  | truncated
  deriving Repr, DecidableEq

def Flaw.message : Flaw → String
  | .start => "invalid start byte"
  | .continuation => "invalid continuation byte"
  | .truncated => "unexpected end of data"

structure Broken where
  bytes : List UInt8
  flaw : Flaw
  deriving Repr, DecidableEq

def units : List UInt8 → List (Except Broken Char)
  | [] => []
  | b₀ :: t₀ =>
    match lead? b₀ with
    | none => .error ⟨[b₀], .start⟩ :: units t₀
    | some ⟨0, _, _, bits⟩ => .ok (Char.ofNat bits) :: units t₀
    | some ⟨n + 1, low, high, bits⟩ =>
      match t₀ with
      | [] => [.error ⟨[b₀], .truncated⟩]
      | b₁ :: t₁ =>
        if low ≤ b₁ ∧ b₁ ≤ high then
          match n with
          | 0 => .ok (Char.ofNat (extend bits b₁)) :: units t₁
          | n + 1 =>
            match t₁ with
            | [] => [.error ⟨[b₀, b₁], .truncated⟩]
            | b₂ :: t₂ =>
              if isContinuation b₂ then
                match n with
                | 0 => .ok (Char.ofNat (extend (extend bits b₁) b₂)) :: units t₂
                | _ + 1 =>
                  match t₂ with
                  | [] => [.error ⟨[b₀, b₁, b₂], .truncated⟩]
                  | b₃ :: t₃ =>
                    if isContinuation b₃ then
                      .ok (Char.ofNat (extend (extend (extend bits b₁) b₂) b₃)) :: units t₃
                    else .error ⟨[b₀, b₁, b₂], .continuation⟩ :: units (b₃ :: t₃)
              else .error ⟨[b₀, b₁], .continuation⟩ :: units (b₂ :: t₂)
        else .error ⟨[b₀], .continuation⟩ :: units (b₁ :: t₁)

def decodeLossy (bytes : List UInt8) : List Char :=
  (units bytes).map fun unit => unit.toOption.getD '\ufffd'

structure Fault where
  position : Nat
  broken : Broken
  deriving Repr, DecidableEq

def wholeUnits : (position : Nat) → List (Except Broken Char) → Except Fault (List Char)
  | _, [] => .ok []
  | position, .ok c :: rest => (wholeUnits (position + c.utf8Size) rest).map (c :: ·)
  | position, .error broken :: _ => .error ⟨position, broken⟩

def decode (bytes : List UInt8) : Except Fault (List Char) :=
  wholeUnits 0 (units bytes)

def decode? (bytes : List UInt8) : Option (List Char) :=
  (decode bytes).toOption

end TableGateway.Text.Utf8
