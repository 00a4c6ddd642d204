import Courier.Toml.Reader

/-!
# Quoted text

The four ways to quote a text: on one line or on several, each with escapes between double quotes
or without any between single ones.
-/

namespace Courier.Toml

/-- The character that hexadecimal digits name, `width` of them. -/
def hexScalar (width : Nat) : Reader Char := fun s =>
  let digits := s.take width
  let n := numeral 16 digits
  if digits.length = width ∧ digits.all isHexDigit ∧ n.isValidChar then
    some (Char.ofNat n, s.drop width)
  else none

/-- An escape, after its backslash. -/
def escape : Reader Char
  | 'b' :: rest => some ('\x08', rest)
  | 't' :: rest => some ('\t', rest)
  | 'n' :: rest => some ('\n', rest)
  | 'f' :: rest => some ('\x0c', rest)
  | 'r' :: rest => some ('\r', rest)
  | '"' :: rest => some ('"', rest)
  | '\\' :: rest => some ('\\', rest)
  | 'u' :: rest => hexScalar 4 rest
  | 'U' :: rest => hexScalar 8 rest
  | _ => none

/-- A character of a text that runs up to `quote` on one line. -/
def lineChar (quote : Char) (escapes : Bool) : Reader Char
  | [] => none
  | c :: rest =>
    if c = quote then none
    else if escapes ∧ c = '\\' then escape rest
    else if isPlain c then some (c, rest)
    else none

/-- The rest of a quoted text on one line, after its opening quote. -/
def lineText (quote : Char) (escapes : Bool) : Reader (List Char) := fun s => do
  let (text, rest) := many (lineChar quote escapes) s
  let rest ← expect quote rest
  return (text, rest)

/-- A line break that a backslash takes out, with the blanks and line breaks after it. -/
def foldedBreak (s : List Char) : Option (List Char) := do
  let rest ← newline (skipBlank s)
  return (many (fun s => match s with
    | c :: rest => if isBlank c then some ((), rest) else (newline (c :: rest)).map ((), ·)
    | [] => none) rest).2

/-- A piece of a quoted text on several lines. A quote belongs to the text unless it is the first
of three. -/
def blockPiece (quote : Char) (escapes : Bool) : Reader (List Char)
  | [] => none
  | c :: rest =>
    if c = quote then
      if rest.take 2 = [quote, quote] then none else some ([quote], rest)
    else if escapes ∧ c = '\\' then
      match foldedBreak rest with
      | some rest => some ([], rest)
      | none => (escape rest).map fun (d, rest) => ([d], rest)
    else if isPlain c then some ([c], rest)
    else (newline (c :: rest)).map (['\n'], ·)

/-- The closing quotes of a text on several lines: three, and up to two before them that belong to
the text. -/
def blockEnd (quote : Char) : Reader (List Char) := fun s =>
  let quotes := (s.takeWhile (· = quote)).length
  if quotes < 3 then none
  else
    let own := min (quotes - 3) 2
    some (List.replicate own quote, s.drop (own + 3))

/-- The rest of a quoted text on several lines, after its opening quotes. A line break right after
them is not part of it. -/
def blockText (quote : Char) (escapes : Bool) : Reader (List Char) := fun s => do
  let (pieces, rest) := many (blockPiece quote escapes) ((newline s).getD s)
  let (last, rest) ← blockEnd quote rest
  return (pieces.flatten ++ last, rest)

/-- A quoted text in any of the four forms. -/
def quotedText : Reader String
  | '"' :: '"' :: '"' :: rest => (blockText '"' true rest).map fun (t, r) => (String.ofList t, r)
  | '"' :: rest => (lineText '"' true rest).map fun (t, r) => (String.ofList t, r)
  | '\'' :: '\'' :: '\'' :: rest =>
    (blockText '\'' false rest).map fun (t, r) => (String.ofList t, r)
  | '\'' :: rest => (lineText '\'' false rest).map fun (t, r) => (String.ofList t, r)
  | _ => none

end Courier.Toml
