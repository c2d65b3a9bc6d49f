import Stepwise.Decimal.Places
import Stepwise.Shell.Arithmetic
/-!
What `echo` and `printf` write. Texts are octets, each as the character of that number.
-/

namespace Stepwise.Shell

/-- Output so far, in reverse, and whether it ends here. -/
structure Written where
  chars : List Char
  ended : Bool

def Written.add (w : Written) (cs : List Char) : Written :=
  { w with chars := cs.reverse ++ w.chars }

namespace Format

def isOctal (c : Char) : Bool := '0' ≤ c && c ≤ '7'

def octet (n : Nat) : Char := Char.ofNat (n % 256)

/-- The character that an escape names, given the text after its backslash. A backslash that
begins no escape stands for itself. -/
def escape (cs : List Char) : Char × List Char :=
  match cs with
  | '\\' :: rest => ('\\', rest)
  | 'a' :: rest => ('\x07', rest)
  | 'b' :: rest => ('\x08', rest)
  | 'e' :: rest => ('\x1b', rest)
  | 'f' :: rest => ('\x0c', rest)
  | 'n' :: rest => ('\n', rest)
  | 'r' :: rest => ('\r', rest)
  | 't' :: rest => ('\t', rest)
  | 'v' :: rest => ('\x0b', rest)
  | cs =>
    match (cs.take 3).takeWhile isOctal with
    | [] => ('\\', cs)
    | ds => (octet (Arith.ofDigits 8 (ds.map fun d => d.toNat - 48)), cs.drop ds.length)

/-- Text with its escapes undone. A zero may stand before the digits of an octal one, and `\c` ends
all output. -/
def unescapeFuel (fuel : Nat) (w : Written) (cs : List Char) : Written :=
  match fuel with
  | 0 => w
  | fuel + 1 =>
    match cs with
    | [] => w
    | '\\' :: 'c' :: _ => { w with ended := true }
    | '\\' :: rest =>
      let rest := match rest with
        | '0' :: d :: more => if isOctal d then d :: more else rest
        | rest => rest
      let (c, rest) := escape rest
      unescapeFuel fuel (w.add [c]) rest
    | c :: rest => unescapeFuel fuel (w.add [c]) rest

def unescape (w : Written) (text : String) : Written :=
  unescapeFuel text.length w text.toList

end Format

def echoEscaped (newline : List Char) (w : Written) : List String → Written
  | [] => w.add newline
  | a :: rest =>
    let w := Format.unescape w a
    if w.ended then w
    else if rest.isEmpty then w.add newline
    else echoEscaped newline (w.add [' ']) rest

def echo (args : List String) : List Char :=
  match args with
  | "-n" :: rest => (echoEscaped [] ⟨[], false⟩ rest).chars.reverse
  | args => (echoEscaped ['\n'] ⟨[], false⟩ args).chars.reverse

/-- What the program of that name writes: escapes stand for themselves unless `-e` is given. -/
def plainEcho (args : List String) : List Char :=
  let isOption (a : String) : Bool :=
    match a.toList with
    | '-' :: c :: rest => (c :: rest).all fun d => d = 'n' || d = 'e' || d = 'E'
    | _ => false
  let options := args.takeWhile isOption
  let args := args.drop options.length
  let letters := options.flatMap fun o => o.toList.drop 1
  let newline := if letters.contains 'n' then [] else ['\n']
  if (letters.filter fun c => c = 'e' || c = 'E').getLast? = some 'e' then
    (echoEscaped newline ⟨[], false⟩ args).chars.reverse
  else (" ".intercalate args).toList ++ newline

structure Layout where
  left : Bool
  plus : Bool
  space : Bool
  zero : Bool
  alternate : Bool
  width : Nat
  precision : Option Nat

namespace Layout

def pad (l : Layout) (cs : List Char) : List Char :=
  let blanks := List.replicate (l.width - cs.length) ' '
  if l.left then cs ++ blanks else blanks ++ cs

def number (l : Layout) (mark digits : List Char) (zeroPad : Bool) : List Char :=
  if l.zero ∧ ¬l.left ∧ zeroPad then
    mark ++ List.replicate (l.width - mark.length - digits.length) '0' ++ digits
  else l.pad (mark ++ digits)

def sign (l : Layout) (negative : Bool) : List Char :=
  if negative then ['-'] else if l.plus then ['+'] else if l.space then [' '] else []

/-- Digits filled up with zeros to the precision; a zero of precision zero has none. -/
def digits (l : Layout) (base n : Nat) : List Char :=
  let ds := if n = 0 ∧ l.precision = some 0 then [] else Nat.toDigits base n
  List.replicate (l.precision.getD 0 - ds.length) '0' ++ ds

def signed (l : Layout) (i : Int) : List Char :=
  l.number (l.sign (i < 0)) (l.digits 10 i.natAbs) l.precision.isNone

def unsigned (l : Layout) (conversion : Char) (n : Nat) : List Char :=
  match conversion with
  | 'o' =>
    let ds := l.digits 8 n
    l.number [] (if l.alternate ∧ ds.head? ≠ some '0' then '0' :: ds else ds) l.precision.isNone
  | 'x' =>
    l.number (if l.alternate ∧ n ≠ 0 then ['0', 'x'] else []) (l.digits 16 n) l.precision.isNone
  | 'X' =>
    l.number (if l.alternate ∧ n ≠ 0 then ['0', 'X'] else []) ((l.digits 16 n).map Char.toUpper)
      l.precision.isNone
  | _ => l.number [] (l.digits 10 n) l.precision.isNone

def text (l : Layout) (cs : List Char) : List Char :=
  l.pad (match l.precision with
    | some p => cs.take p
    | none => cs)

def real (l : Layout) (conversion : Char) (negative : Bool) (x : Binary64) : List Char :=
  let (num, den) := x.magnitude.ratio
  let places := l.precision.getD 6
  let ds :=
    match conversion.toLower with
    | 'e' => Decimal.scientific num den places l.alternate
    | 'g' => Decimal.general num den places l.alternate
    | _ => Decimal.positional num den places l.alternate
  l.number (l.sign negative) (if conversion.isUpper then ds.map Char.toUpper else ds) true

end Layout

inductive PrintResult where
  | fine
  | badArgument
  | badFormat
  deriving DecidableEq

structure Printing where
  written : Written
  args : List String
  result : PrintResult

namespace Printing

def note (p : Printing) (isFine : Bool) : Printing :=
  if isFine ∨ p.result ≠ .fine then p else { p with result := .badArgument }

def refuse (p : Printing) : Printing :=
  { p with result := .badFormat, written := { p.written with ended := true } }

def next (p : Printing) : Option String × Printing :=
  match p.args with
  | [] => (none, p)
  | a :: rest => (some a, { p with args := rest })

/-- An argument as a number between bounds; after a quote it is the number of a character. -/
def integer (p : Printing) (low high : Int) : Int × Printing :=
  match p.next with
  | (none, p) => (0, p)
  | (some a, p) =>
    match a.toList with
    | '\x27' :: rest => (((rest.head?.map Char.toNat).getD 0 : Nat), p)
    | '"' :: rest => (((rest.head?.map Char.toNat).getD 0 : Nat), p)
    | cs =>
      let (negative, ds) : Bool × List Char :=
        match Arith.skipBlanks cs with
        | '-' :: ds => (true, ds)
        | '+' :: ds => (false, ds)
        | ds => (false, ds)
      match Arith.natural? ds with
      | none => (0, p.note cs.isEmpty)
      | some (n, rest) =>
        let i : Int := if negative then -n else n
        let clamped := max low (min high i)
        (clamped, p.note (rest.isEmpty && clamped == i))

def real (p : Printing) : (Bool × Binary64) × Printing :=
  match p.next with
  | (none, p) => ((false, ⟨0⟩), p)
  | (some a, p) =>
    let (negative, cs) : Bool × List Char :=
      match Arith.skipBlanks a.toList with
      | '-' :: ds => (true, ds)
      | '+' :: ds => (false, ds)
      | ds => (false, ds)
    let whole := cs.takeWhile Char.isDigit
    let rest := cs.drop whole.length
    let (fraction, rest) : List Char × List Char :=
      match rest with
      | '.' :: more => (more.takeWhile Char.isDigit, more.dropWhile Char.isDigit)
      | rest => ([], rest)
    let (exponent, rest) : Int × List Char :=
      match rest with
      | mark :: more =>
        let (sign, ds) : Int × List Char :=
          match more with
          | '-' :: ds => (-1, ds)
          | '+' :: ds => (1, ds)
          | ds => (1, ds)
        let run := ds.takeWhile Char.isDigit
        if (mark = 'e' ∨ mark = 'E') ∧ ¬run.isEmpty then
          (sign * Arith.ofDigits 10 (run.map fun d => d.toNat - 48), ds.drop run.length)
        else (0, rest)
      | [] => (0, [])
    let scale := exponent - fraction.length
    let n := Arith.ofDigits 10 ((whole ++ fraction).map fun d => d.toNat - 48)
    let x :=
      if 400 < scale then none
      else if scale < -400 then some ⟨0⟩
      else Binary64.nearest (n * Nat.pow 10 scale.toNat) (Nat.pow 10 (-scale).toNat)
    ((negative, x.getD ⟨0⟩), p.note rest.isEmpty)

def write (p : Printing) (cs : List Char) : Printing := { p with written := p.written.add cs }

def measure (p : Printing) : Int × Printing := p.integer (-Nat.pow 2 31) (Nat.pow 2 31 - 1)

def digitsAt (cs : List Char) : Nat × List Char :=
  let run := cs.takeWhile Char.isDigit
  (Arith.ofDigits 10 (run.map fun d => d.toNat - 48), cs.drop run.length)

def layout (p : Printing) (cs : List Char) : Layout × List Char × Printing :=
  let flags := cs.takeWhile fun c => c = '#' || c = '-' || c = '+' || c = ' ' || c = '0'
  let cs := cs.drop flags.length
  let (width, cs, p) : Int × List Char × Printing :=
    match cs with
    | '*' :: rest =>
      let (w, p) := p.measure
      (w, rest, p)
    | cs =>
      let (w, rest) := digitsAt cs
      (w, rest, p)
  let (precision, cs, p) : Option Nat × List Char × Printing :=
    match cs with
    | '.' :: '*' :: rest =>
      let (n, p) := p.measure
      (if n < 0 then none else some n.toNat, rest, p)
    | '.' :: rest =>
      let (n, rest) := digitsAt rest
      (some n, rest, p)
    | cs => (none, cs, p)
  (⟨flags.contains '-' || width < 0, flags.contains '+', flags.contains ' ', flags.contains '0',
    flags.contains '#', width.natAbs, precision⟩, cs, p)

def convert (p : Printing) (l : Layout) (conversion : Char) : Option Printing :=
  match conversion with
  | 'd' | 'i' =>
    let (i, p) := p.integer (-Nat.pow 2 63) (Nat.pow 2 63 - 1)
    some (p.write (l.signed i))
  | 'o' | 'u' | 'x' | 'X' =>
    let (i, p) := p.integer (-(UInt64.size - 1)) (UInt64.size - 1)
    some (p.write (l.unsigned conversion (i % UInt64.size).toNat))
  | 'c' =>
    let (a, p) := p.next
    some (p.write (l.pad [((a.getD "").toList.head?).getD '\x00']))
  | 's' =>
    let (a, p) := p.next
    some (p.write (l.text (a.getD "").toList))
  | 'b' =>
    let (a, p) := p.next
    let w := Format.unescape ⟨[], false⟩ (a.getD "")
    let p := p.write (l.text w.chars.reverse)
    some { p with written := { p.written with ended := w.ended } }
  | 'e' | 'E' | 'f' | 'F' | 'g' | 'G' =>
    let ((negative, x), p) := p.real
    some (p.write (l.real conversion negative x))
  | _ => none

def once (fuel : Nat) (p : Printing) (format : List Char) : Printing :=
  match fuel with
  | 0 => p
  | fuel + 1 =>
    match format with
    | [] => p
    | '\\' :: rest =>
      let (c, rest) := Format.escape rest
      once fuel (p.write [c]) rest
    | '%' :: '%' :: rest => once fuel (p.write ['%']) rest
    | '%' :: rest =>
      let (l, rest, p) := p.layout rest
      match rest with
      | [] => p.refuse
      | conversion :: rest =>
        match p.convert l conversion with
        | some p => if p.written.ended then p else once fuel p rest
        | none => p.refuse
    | c :: rest => once fuel (p.write [c]) rest

/-- Goes through a format until no arguments are left, or it takes none. -/
def repeated (fuel : Nat) (p : Printing) (format : List Char) : Printing :=
  match fuel with
  | 0 => p
  | fuel + 1 =>
    let after := once (format.length + 1) p format
    if after.written.ended ∨ after.args.isEmpty ∨ after.args.length = p.args.length then after
    else repeated fuel after format

end Printing

def printf (format : String) (args : List String) : List Char × PrintResult :=
  let p := Printing.repeated (args.length + 1) ⟨⟨[], false⟩, args, .fine⟩ format.toList
  (p.written.chars.reverse, p.result)

end Stepwise.Shell
