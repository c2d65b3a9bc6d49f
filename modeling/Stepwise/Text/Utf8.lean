/-!
Texts as octets. Any octets can be read: where they cannot begin or continue a character, each
longest run that could have begun one becomes a single replacement character.
-/

namespace Stepwise.Text

/-- A character in progress: its bits so far, how many octets it still needs, and the bounds of
the next one. -/
structure Unfinished where
  bits : Nat
  needed : Nat
  low : Nat
  high : Nat
  deriving DecidableEq, Repr

namespace Utf8

def replacement : Char := '\ufffd'

def lead? (b : Nat) : Option Unfinished :=
  if 0xC2 ≤ b ∧ b ≤ 0xDF then some ⟨b - 0xC0, 1, 0x80, 0xBF⟩
  else if b = 0xE0 then some ⟨0, 2, 0xA0, 0xBF⟩
  else if b = 0xED then some ⟨0xD, 2, 0x80, 0x9F⟩
  else if 0xE1 ≤ b ∧ b ≤ 0xEF then some ⟨b - 0xE0, 2, 0x80, 0xBF⟩
  else if b = 0xF0 then some ⟨0, 3, 0x90, 0xBF⟩
  else if 0xF1 ≤ b ∧ b ≤ 0xF3 then some ⟨b - 0xF0, 3, 0x80, 0xBF⟩
  else if b = 0xF4 then some ⟨4, 3, 0x80, 0x8F⟩
  else none

def enter (done : List Char) (b : Nat) : Option Unfinished × List Char :=
  if b < 0x80 then (none, Char.ofNat b :: done)
  else
    match lead? b with
    | some p => (some p, done)
    | none => (none, replacement :: done)

def step : Option Unfinished × List Char → Nat → Option Unfinished × List Char
  | (none, done), b => enter done b
  | (some p, done), b =>
    if p.low ≤ b ∧ b ≤ p.high then
      let bits := p.bits * 64 + (b - 0x80)
      if p.needed ≤ 1 then (none, Char.ofNat bits :: done)
      else (some ⟨bits, p.needed - 1, 0x80, 0xBF⟩, done)
    else enter (replacement :: done) b

def finish : Option Unfinished × List Char → List Char
  | (none, done) => done.reverse
  | (some _, done) => (replacement :: done).reverse

def decode (octets : List Nat) : List Char := finish (octets.foldl step (none, []))

end Utf8

def ofOctets (bytes : ByteArray) : String :=
  String.ofList (Utf8.decode (bytes.toList.map (·.toNat)))

/-- The octets of a text, each as the character of that number. -/
def octets (s : String) : String :=
  String.ofList (s.toUTF8.toList.map fun b => Char.ofNat b.toNat)

def bytesOf (s : String) : ByteArray :=
  ⟨(s.toList.map fun c => c.toNat.toUInt8).toArray⟩

end Stepwise.Text
