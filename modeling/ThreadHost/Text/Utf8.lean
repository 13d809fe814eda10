/-!
# UTF-8 text

Writing characters as UTF-8 bytes, and reading arbitrary bytes back. The reader is a machine
over single bytes: it either waits for the first byte of a character or holds the part of one
that has arrived. A byte that cannot continue the held part closes it as one malformed unit and
is then read as a first byte, so every maximal ill-formed piece counts once.
-/

namespace ThreadHost.Text.Utf8

/-- The bytes of a sequence of characters. -/
def encode (characters : List Char) : List UInt8 :=
  characters.flatMap String.utf8EncodeChar

/-- What the reader knows between two bytes. -/
inductive State where
  /-- No character is under way. -/
  | ready
  /-- A character is under way: its bits so far, how many bytes are missing, and the range that
  the next byte must lie in. -/
  | pending (bits missing : Nat) (low high : UInt8)
  deriving Repr, DecidableEq

/-- One unit of the decoded text: a character, or a malformed piece. -/
abbrev Unit := Option Char

/-- Read a byte that begins a character. The narrowed ranges after `E0`, `ED`, `F0` and `F4`
exclude overlong forms, surrogates and values past the last code point. -/
def first (byte : UInt8) : List Unit × State :=
  let value := byte.toNat
  if value < 0x80 then ([some (Char.ofNat value)], .ready)
  else if value < 0xC2 then ([none], .ready)
  else if value < 0xE0 then ([], .pending (value - 0xC0) 1 0x80 0xBF)
  else if value = 0xE0 then ([], .pending 0 2 0xA0 0xBF)
  else if value = 0xED then ([], .pending 0xD 2 0x80 0x9F)
  else if value < 0xF0 then ([], .pending (value - 0xE0) 2 0x80 0xBF)
  else if value = 0xF0 then ([], .pending 0 3 0x90 0xBF)
  else if value < 0xF4 then ([], .pending (value - 0xF0) 3 0x80 0xBF)
  else if value = 0xF4 then ([], .pending 4 3 0x80 0x8F)
  else ([none], .ready)

/-- Read one byte in any state. -/
def step : State → UInt8 → List Unit × State
  | .ready, byte => first byte
  | .pending bits missing low high, byte =>
    if low ≤ byte ∧ byte ≤ high then
      let bits := bits * 64 + (byte.toNat - 0x80)
      if missing ≤ 1 then ([some (Char.ofNat bits)], .ready)
      else ([], .pending bits (missing - 1) 0x80 0xBF)
    else
      let (units, state) := first byte
      (none :: units, state)

/-- What the end of the input adds: a character that is still under way is malformed. -/
def finish : State → List Unit
  | .ready => []
  | .pending .. => [none]

/-- The units of a byte sequence, read from a given state. -/
def scan (state : State) : List UInt8 → List Unit
  | [] => finish state
  | byte :: rest => (step state byte).1 ++ scan (step state byte).2 rest

/-- Decode any bytes; each malformed piece becomes one replacement character. -/
def decodeLossy (bytes : List UInt8) : List Char :=
  (scan .ready bytes).map (·.getD '\uFFFD')

/-- Decode bytes that are well-formed throughout. -/
def decode? (bytes : List UInt8) : Option (List Char) :=
  (scan .ready bytes).mapM id

end ThreadHost.Text.Utf8
