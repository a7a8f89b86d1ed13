import ProjectAtlas.Text.Surrogate

/-!
Text from bytes in UTF-8.

At each place the bytes either begin with the form of a character, or have a run of bytes that can
not begin one: the longest one that is still the beginning of some form, or a single byte. The strict
reader reports the first such run, the lenient reader puts a replacement character for each.
-/

namespace ProjectAtlas.Text

/-- Why bytes are not the form of a character. -/
inductive Utf8Cause
  | invalidStart
  | invalidContinuation
  | unexpectedEnd
deriving DecidableEq, Repr

def Utf8Cause.message : Utf8Cause → String
  | .invalidStart => "invalid start byte"
  | .invalidContinuation => "invalid continuation byte"
  | .unexpectedEnd => "unexpected end of data"

/-- A run of `length` bytes from position `start` on, beginning with `byte`, that forms no
character. -/
structure Utf8Fault where
  start : Nat
  length : Nat
  byte : UInt8
  cause : Utf8Cause
deriving DecidableEq, Repr

def Utf8Fault.message (f : Utf8Fault) : String :=
  if f.length = 1 then
    s!"'utf-8' codec can't decode byte 0x{String.ofList (hex 2 f.byte.toNat)} in position " ++
      s!"{f.start}: {f.cause.message}"
  else
    s!"'utf-8' codec can't decode bytes in position {f.start}-{f.start + f.length - 1}: " ++
      f.cause.message

/-- What the bytes begin with. -/
inductive Utf8Head
  | char (c : Char) (length : Nat)
  | bad (cause : Utf8Cause) (length : Nat)
deriving DecidableEq, Repr

def isContinuation (b : UInt8) : Bool :=
  0x80 ≤ b && b ≤ 0xBF

/-- The byte may follow the first byte `b` of a form of three or four bytes: overlong forms,
surrogates and numbers beyond the last character are excluded. -/
def maySecond (b c : UInt8) : Bool :=
  isContinuation c &&
    !(b == 0xE0 && c < 0xA0) && !(b == 0xED && 0xA0 ≤ c) &&
    !(b == 0xF0 && c < 0x90) && !(b == 0xF4 && 0x90 ≤ c)

/-- The low six bits. -/
def tailBits (b : UInt8) : Nat :=
  b.toNat % 64

/-- What a text of bytes beginning with `b` begins with. -/
def utf8Head (b : UInt8) (rest : List UInt8) : Utf8Head :=
  if b < 0x80 then .char (Char.ofNat b.toNat) 1
  else if b < 0xC2 || 0xF4 < b then .bad .invalidStart 1
  else if b < 0xE0 then
    match rest with
    | c :: _ =>
      if isContinuation c then .char (Char.ofNat (b.toNat % 32 * 64 + tailBits c)) 2
      else .bad .invalidContinuation 1
    | [] => .bad .unexpectedEnd 1
  else match rest with
    | [] => .bad .unexpectedEnd 1
    | c :: rest =>
      if !maySecond b c then .bad .invalidContinuation 1
      else match rest with
        | [] => .bad .unexpectedEnd 2
        | d :: rest =>
          if !isContinuation d then .bad .invalidContinuation 2
          else if b < 0xF0 then
            .char (Char.ofNat ((b.toNat % 16 * 64 + tailBits c) * 64 + tailBits d)) 3
          else match rest with
            | [] => .bad .unexpectedEnd 3
            | e :: _ =>
              if !isContinuation e then .bad .invalidContinuation 3
              else .char (Char.ofNat
                (((b.toNat % 8 * 64 + tailBits c) * 64 + tailBits d) * 64 + tailBits e)) 4

/-- Strict reading from position `start` on; `skip` bytes belong to the character before. -/
def decodeStrictFrom (start skip : Nat) : List UInt8 → Except Utf8Fault (List Char)
  | [] => .ok []
  | b :: bs =>
    match skip with
    | k + 1 => decodeStrictFrom (start + 1) k bs
    | 0 =>
      match utf8Head b bs with
      | .char c n => (decodeStrictFrom (start + 1) (n - 1) bs).map (c :: ·)
      | .bad cause n => .error ⟨start, n, b, cause⟩

def decodeStrict (bs : List UInt8) : Except Utf8Fault (List Char) :=
  decodeStrictFrom 0 0 bs

/-- Lenient reading; `skip` bytes belong to the character or the run before. -/
def decodeLenientFrom (skip : Nat) : List UInt8 → List Char
  | [] => []
  | b :: bs =>
    match skip with
    | k + 1 => decodeLenientFrom k bs
    | 0 =>
      match utf8Head b bs with
      | .char c n => c :: decodeLenientFrom (n - 1) bs
      | .bad _ n => '\uFFFD' :: decodeLenientFrom (n - 1) bs

/-- The text of the bytes with a replacement character for each run that forms no character. -/
def decodeLenient (bs : List UInt8) : List Char :=
  decodeLenientFrom 0 bs

/-- The bytes after a byte order mark, or all bytes if there is none. -/
def dropByteOrderMark : List UInt8 → List UInt8
  | 0xEF :: 0xBB :: 0xBF :: bs => bs
  | bs => bs

/-- The bytes of a text in UTF-8. -/
def encodeUtf8 (s : String) : List UInt8 :=
  s.toUTF8.toList

end ProjectAtlas.Text
