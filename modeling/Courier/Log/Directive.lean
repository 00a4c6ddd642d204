import Courier.Log
import Courier.Pattern.Automaton
import Courier.Pattern.Reader

/-!
# Directives of the log's filter

A directive lets lines up to a rank through: all lines, those of sources whose name begins with its
target, those with a certain detail, or those said inside certain spans. It is written
`target[span{detail=value}]=level`, and most of it can be left out.

Blanks around a directive do not count for its structure. Its parts are nevertheless cut from the
whole text, at the places that they have without the blanks before them; where such a place falls
inside a character there is nothing to cut, and the reading breaks down.
-/

namespace Courier

/-- What the value of a detail is asked to be. -/
inductive LogValuePattern where
  | number (n : Nat)
  /-- Two patterns are the same only if they are written in the same way. -/
  | text (source : List Char) (p : Pattern)
  /-- A value that no detail has. -/
  | foreign
  deriving DecidableEq, Repr

structure LogDirective where
  /-- What the names of sources begin with. -/
  target : String
  span : Option String
  detail : Option (String × Option LogValuePattern)
  rank : Nat
  deriving DecidableEq, Repr

/-- Why a text is no directive. -/
inductive DirectiveFlaw where
  | meaningless
  /-- A part of it would begin or end inside a character. -/
  | broken
  deriving DecidableEq, Repr

namespace LogValuePattern

def digits? (cs : List Char) : Option Nat :=
  if cs ≠ [] ∧ cs.all Char.isDigit then
    some (cs.foldl (fun n c => 10 * n + (c.toNat - 48)) 0)
  else none

/-- The number without a minus in front that a text stands for, if 64 bits can hold it. -/
def count? (cs : List Char) : Option Nat :=
  let n? := match cs with
    | '+' :: rest => digits? rest
    | _ => digits? cs
  n?.filter (· < UInt64.size)

/-- Digits with at most one point and at least one digit, up to an exponent. -/
def isFraction (cs : List Char) : Bool :=
  let whole := cs.takeWhile Char.isDigit
  let (part, rest) := match cs.dropWhile Char.isDigit with
    | '.' :: rest => (rest.takeWhile Char.isDigit, rest.dropWhile Char.isDigit)
    | rest => ([], rest)
  (whole ≠ [] || part ≠ []) && match rest with
    | [] => true
    | e :: rest => (e = 'e' || e = 'E') && match rest with
      | '+' :: rest | '-' :: rest => (digits? rest).isSome
      | _ => (digits? rest).isSome

/-- Whether a text is written as a number, whatever its size. -/
def isNumeral (cs : List Char) : Bool :=
  let cs := match cs with
    | '+' :: rest | '-' :: rest => rest
    | _ => cs
  (String.ofList cs).toLower ∈ ["inf", "infinity", "nan"] || isFraction cs

/-- What a text asks for. What reads as a truth value or a number is no pattern. -/
def ofText? (cs : List Char) : Option LogValuePattern :=
  if String.ofList cs ∈ ["true", "false"] then some .foreign
  else match count? cs with
    | some n => some (.number n)
    | none => if isNumeral cs then some .foreign else (Pattern.ofText? cs).map (.text cs)

def accepts : LogValuePattern → LogValue → Bool
  | .number n, .number m => n = m
  | .text _ p, .text s => p.accepts s.toList
  | _, _ => false

end LogValuePattern

namespace LogDirective

def levelNames : List String := ["off", "error", "warn", "info", "debug", "trace"]

/-- The rank of a directive that has no level, and the highest there is. -/
def highest : Nat := 5

/-- The rank that the number or the name of a level stands for. -/
def rank? (text : List Char) : Option Nat :=
  match LogValuePattern.count? text with
  | some n => if n ≤ highest then some n else none
  | none => levelNames.findIdx? (· = (String.ofList text).toLower)

/-- The part of a text after so many bytes. -/
def after (text : List Char) : Nat → Except DirectiveFlaw (List Char)
  | 0 => .ok text
  | n + 1 =>
    match text with
    | [] => .ok []
    | c :: rest => if c.utf8Size ≤ n + 1 then after rest (n + 1 - c.utf8Size) else .error .broken
  termination_by n => n
  decreasing_by have := c.utf8Size_pos; omega

/-- The first so many bytes of a text. -/
def upTo (text : List Char) : Nat → Except DirectiveFlaw (List Char)
  | 0 => .ok []
  | n + 1 =>
    match text with
    | [] => .ok []
    | c :: rest =>
      if c.utf8Size ≤ n + 1 then (upTo rest (n + 1 - c.utf8Size)).map (c :: ·) else .error .broken
  termination_by n => n
  decreasing_by have := c.utf8Size_pos; omega

/-- The part of a text between two places, in bytes. -/
def cut (text : List Char) (first last : Nat) : Except DirectiveFlaw (List Char) := do
  upTo (← after text first) (last - first)

def byteSize (cs : List Char) : Nat := cs.foldl (fun n c => n + c.utf8Size) 0

/-- The level at the end of a directive, from a place on. -/
def levelFrom (text : List Char) (place : Nat) : Except DirectiveFlaw Nat := do
  let word ← after text place
  if word = [] then return highest
  match rank? word with
  | some rank => return rank
  | none => .error .meaningless

/-- The detail that a directive asks for, and its value if it asks for that too. -/
def detail? (text : List Char) : Option (String × Option LogValuePattern) :=
  match text.splitOn '=' with
  | [] => none
  | [name] => some (String.ofList name, none)
  | name :: value :: _ =>
    (LogValuePattern.ofText? value).map fun value => (String.ofList name, some value)

/-- The end of a directive after its brackets: a level, or nothing. -/
def close (text : List Char) (d : LogDirective) (place : Nat) :
    List Char → Except DirectiveFlaw LogDirective
  | [] => .ok d
  | '=' :: _ => (levelFrom text (place + 1)).map fun rank => { d with rank }
  | _ => .error .meaningless

/-- The span and the detail between brackets, from a place on. -/
def bracket (text : List Char) (target : List Char) (place : Nat) (inner : List Char) :
    Except DirectiveFlaw LogDirective := do
  let isName (c : Char) : Bool := c ≠ ']' && c ≠ '\x7b'
  let nameEnd := place + byteSize (inner.takeWhile isName)
  match inner.dropWhile isName with
  | ']' :: rest =>
    let name ← cut text place nameEnd
    close text ⟨String.ofList target, some (String.ofList name), none, highest⟩ (nameEnd + 1) rest
  | '\x7b' :: inner =>
    let name ← cut text place nameEnd
    let isDetail (c : Char) : Bool := c ≠ '\x7d'
    let detailEnd := nameEnd + 1 + byteSize (inner.takeWhile isDetail)
    match inner.dropWhile isDetail with
    | [] => .error .meaningless
    | _ :: inner =>
      let detail ← cut text (nameEnd + 1) detailEnd
      if detail = [] then .error .meaningless
      else match detail? detail, inner with
        | some detail, ']' :: rest =>
          let span := if name = [] then none else some (String.ofList name)
          close text ⟨String.ofList target, span, some detail, highest⟩ (detailEnd + 2) rest
        | _, _ => .error .meaningless
  | _ => .error .meaningless

/-- Whether a directive may begin with a character. -/
def begins (c : Char) : Bool := CodePoints.isAlphanumeric c || c = '-' || c = ':' || c = '_'

def trimmed (text : List Char) : List Char :=
  ((text.dropWhile CodePoints.isBlank).reverse.dropWhile CodePoints.isBlank).reverse

/-- The directive that a text stands for. A word alone is a level or else a target. -/
def ofText (source : String) : Except DirectiveFlaw LogDirective := do
  let text := source.toList
  match trimmed text with
  | [] => .error .meaningless
  | '[' :: inner => bracket text [] 1 inner
  | c :: rest =>
    if !begins c then .error .meaningless
    else
      let inner := c :: rest
      let isTarget (c : Char) : Bool := c ≠ '=' && c ≠ '['
      let place := byteSize (inner.takeWhile isTarget)
      match inner.dropWhile isTarget with
      | [] =>
        match rank? text with
        | some rank => return ⟨"", none, none, rank⟩
        | none => return ⟨source, none, none, highest⟩
      | '=' :: _ =>
        let target ← cut text 0 place
        return ⟨String.ofList target, none, none, ← levelFrom text (place + 1)⟩
      | _ :: inner =>
        let target ← cut text 0 place
        bracket text target (place + 1) inner

/-- Whether it is about what is said inside spans, and may depend on which are under way. -/
def isDynamic (d : LogDirective) : Bool := d.span.isSome || d.detail.isSome

/-- Whether it asks for the value of a detail. -/
def asksForValue (d : LogDirective) : Bool := d.detail.any (·.2.isSome)

/-- Whether it also is about lines wherever they are said. -/
def isStatic (d : LogDirective) : Bool := d.span.isNone && !d.asksForValue

def aims (d : LogDirective) (source : LogSource) : Bool := source.path.startsWith d.target

/-- Whether a directive for lines is about this one: it has the detail asked for, except that for
lines about spans any will do. -/
def covers (d : LogDirective) (line : LogLine) : Bool :=
  d.aims line.source && (line.about.isSome
    || d.detail.all fun (name, _) => name = "message" || name ∈ line.details)

/-- Whether a directive for spans is about this one. -/
def watches (d : LogDirective) (span : LogSpan) : Bool :=
  d.aims span.source && d.span.all (· = LogSpan.name)
    && d.detail.all fun (name, _) => (span.details.lookup name).isSome

/-- Whether the values of a span that it watches are as asked for. -/
def admits (d : LogDirective) (span : LogSpan) : Bool :=
  d.detail.all fun (name, value) =>
    value.all fun value => (span.details.lookup name).any value.accepts

/-- Whether a directive for lines gives way to another that is about the same line: to one with a
longer target, else to one that asks for a detail, else to one whose detail comes later by name,
and to a later one that differs only in rank. -/
def yields (d e : LogDirective) : Bool :=
  let name (d : LogDirective) : String := d.detail.elim "" (·.1)
  if d.target.utf8ByteSize ≠ e.target.utf8ByteSize then
    d.target.utf8ByteSize < e.target.utf8ByteSize
  else if d.detail.isSome ≠ e.detail.isSome then e.detail.isSome
  else name d ≤ name e

end LogDirective

end Courier
