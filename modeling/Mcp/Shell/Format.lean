import Mcp.Text.Utf8

/-!
What the shell writes: formats with their conversions, and escapes in texts.
-/

namespace Mcp.Shell.Format

def charBytes (c : Char) : List UInt8 := Text.encode (String.singleton c)

def octal? (c : Char) : Option Nat :=
  if '0' ≤ c && c ≤ '7' then some (c.toNat - 48) else none

/-- The value of up to so many octal digits, and what follows them. -/
def octal : Nat → Nat → List Char → Nat × List Char
  | 0, n, cs => (n, cs)
  | _, n, [] => (n, [])
  | limit + 1, n, c :: rest =>
    match octal? c with
    | some d => octal limit (n * 8 + d) rest
    | none => (n, c :: rest)

def letterByte? (c : Char) : Option UInt8 :=
  match c with
  | 'a' => some 7
  | 'b' => some 8
  | 'f' => some 12
  | 'n' => some 10
  | 'r' => some 13
  | 't' => some 9
  | 'v' => some 11
  | '\\' => some 92
  | _ => none

/-- What stands behind a backslash in a format; a character without a meaning keeps it. -/
def escape (cs : List Char) : List UInt8 × List Char :=
  match cs with
  | [] => ([92], [])
  | c :: rest =>
    match letterByte? c with
    | some b => ([b], rest)
    | none =>
      if (octal? c).isSome then
        let (n, rest) := octal 3 0 cs
        ([UInt8.ofNat n], rest)
      else ([92], cs)

/-- A text with its escapes replaced, and whether one of them ends all output. -/
def unescape : Nat → List Char → List UInt8 × Bool
  | 0, _ => ([], false)
  | _, [] => ([], false)
  | _ + 1, '\\' :: 'c' :: _ => ([], true)
  | fuel + 1, '\\' :: '0' :: rest =>
    let (n, rest) := octal 3 0 rest
    let (more, stop) := unescape fuel rest
    (UInt8.ofNat n :: more, stop)
  | fuel + 1, '\\' :: rest =>
    let (bytes, rest) := escape rest
    let (more, stop) := unescape fuel rest
    (bytes ++ more, stop)
  | fuel + 1, c :: rest =>
    let (more, stop) := unescape fuel rest
    (charBytes c ++ more, stop)

def unescaped (text : String) : List UInt8 × Bool := unescape (text.length + 1) text.toList

/-! ### Conversions -/

/-- The flags, width and precision of a conversion. -/
structure Shape where
  left : Bool
  zeros : Bool
  plus : Bool
  width : Nat
  precision : Option Nat

def digits (cs : List Char) : Nat × List Char :=
  (((String.ofList (cs.takeWhile Char.isDigit)).toNat?).getD 0, cs.dropWhile Char.isDigit)

/-- Reads what stands between the percent sign and the letter of a conversion. -/
def shape (cs : List Char) : Shape × List Char :=
  let isFlag (c : Char) : Bool := ['-', '+', ' ', '0', '#'].contains c
  let flags := cs.takeWhile isFlag
  let (width, rest) := digits (cs.dropWhile isFlag)
  let (precision, rest) :=
    match rest with
    | '.' :: rest =>
      let (n, rest) := digits rest
      (some n, rest)
    | rest => (none, rest)
  (⟨flags.contains '-', flags.contains '0', flags.contains '+', width, precision⟩, rest)

/-- Bytes in a field of some width. -/
def pad (s : Shape) (fill : UInt8) (bytes : List UInt8) : List UInt8 :=
  let space := List.replicate (s.width - bytes.length) fill
  if s.left then bytes ++ space else space ++ bytes

/-- The integer that a text writes; a quote before a character stands for its number. -/
def integer (text : String) : Int :=
  match text.toList with
  | '\x27' :: c :: _ => c.toNat
  | '\x22' :: c :: _ => c.toNat
  | '-' :: rest => -((digits rest).1 : Int)
  | '+' :: rest => (digits rest).1
  | cs => (digits cs).1

/-- A natural number in a base up to 16. -/
def inBase (base n : Nat) : String := String.ofList (Nat.toDigits base n)

def signed (s : Shape) (n : Int) : List UInt8 :=
  let sign := if n < 0 then "-" else if s.plus then "+" else ""
  let body := Text.encode (toString n.natAbs)
  if s.zeros && !s.left then
    let signBytes := Text.encode sign
    signBytes ++ List.replicate (s.width - signBytes.length - body.length) (48 : UInt8) ++ body
  else pad s 32 (Text.encode sign ++ body)

/-- What a conversion makes of its argument, and whether it ends all output. -/
def convert (s : Shape) (letter : Char) (argument : String) : Option (List UInt8 × Bool) :=
  let cut (bytes : List UInt8) : List UInt8 :=
    match s.precision with
    | some n => bytes.take n
    | none => bytes
  let fill : UInt8 := if s.zeros && !s.left then 48 else 32
  let based (base : Nat) : List UInt8 :=
    pad s fill (Text.encode (inBase base (integer argument).toNat))
  match letter with
  | 's' => some (pad s 32 (cut (Text.encode argument)), false)
  | 'b' =>
    let (bytes, stop) := unescaped argument
    some (pad s 32 (cut bytes), stop)
  | 'c' => some (pad s 32 ((Text.encode argument).take 1), false)
  | 'd' => some (signed s (integer argument), false)
  | 'i' => some (signed s (integer argument), false)
  | 'u' => some (based 10, false)
  | 'o' => some (based 8, false)
  | 'x' => some (based 16, false)
  | 'X' =>
    some (pad s fill
      (Text.encode (String.ofList ((Nat.toDigits 16 (integer argument).toNat).map Char.toUpper))),
      false)
  | _ => none

/-- A format is gone through once: what is written, the arguments left, and whether output ended. -/
def pass : Nat → List Char → List String → List UInt8 × List String × Bool
  | 0, _, args => ([], args, true)
  | _, [], args => ([], args, false)
  | fuel + 1, '\\' :: rest, args =>
    let (bytes, rest) := escape rest
    let (more, args, stop) := pass fuel rest args
    (bytes ++ more, args, stop)
  | fuel + 1, '%' :: '%' :: rest, args =>
    let (more, args, stop) := pass fuel rest args
    (37 :: more, args, stop)
  | fuel + 1, '%' :: rest, args =>
    let (s, rest) := shape rest
    match rest with
    | [] => ([], args, true)
    | letter :: rest =>
      match convert s letter (args.headD "") with
      | none => ([], args, true)
      | some (bytes, true) => (bytes, args, true)
      | some (bytes, false) =>
        let (more, args, stop) := pass fuel rest (args.drop 1)
        (bytes ++ more, args, stop)
  | fuel + 1, c :: rest, args =>
    let (more, args, stop) := pass fuel rest args
    (charBytes c ++ more, args, stop)

/-- A format is gone through until no arguments are left. -/
def passes (format : String) : Nat → List String → List UInt8
  | 0, _ => []
  | fuel + 1, args =>
    let (bytes, rest, stop) := pass (format.length + 1) format.toList args
    if stop || rest.isEmpty || rest.length = args.length then bytes
    else bytes ++ passes format fuel rest

def printf (format : String) (args : List String) : List UInt8 :=
  passes format (args.length + 1) args

/-- Words with spaces between them and a line end, their escapes replaced. -/
def echo (words : List String) : List UInt8 :=
  let plain := words.head? = some "-n"
  let (bytes, stop) := unescaped (" ".intercalate (if plain then words.drop 1 else words))
  if stop || plain then bytes else bytes ++ [10]

end Mcp.Shell.Format
