/-
This file divides the text of a pattern into tokens: literal characters, sets in brackets, groups,
flags and repetitions. What is not well formed by itself is refused here: an unknown escape or
flag, an unclosed bracket, a range that runs backwards, a count that does not fit 32 bits. Look-around,
references to groups and named properties of characters are not offered.
-/

import Triage.Pattern.Expr

namespace Triage.Pattern

/-! ### What tokens are made of -/

/-- A change of how a pattern is read. -/
inductive Flag where
  | ignoreCase
  | multiLine
  | dotAll
  /-- Repetitions take as little as they can; this does not change what occurs in a text. -/
  | swapGreed
  /-- Sets and letters are those of all scripts; this is always so. -/
  | allScripts
  deriving DecidableEq, Repr

/-- Flags that are switched on or off. -/
abbrev FlagChange := List (Flag × Bool)

/-- The operations on sets inside brackets. -/
inductive SetOperation where
  | intersection
  | difference
  | exclusive
  deriving DecidableEq, Repr

/-- A set as it is written inside brackets. -/
inductive SetText where
  | plain (set : CharSet)
  | union (first second : SetText)
  | combine (operation : SetOperation) (first second : SetText)
  /-- A set in brackets of its own; case is put aside for the set as a whole, before the
  complement is taken. -/
  | bracket (isNegated : Bool) (inner : SetText)

/-- A part of a pattern. -/
inductive Token where
  | literal (character : Char)
  | dot
  | caret
  | dollar
  | characters (set : CharSet)
  | brackets (set : SetText)
  | check (assertion : Assertion)
  /-- A group opens, with a name or with flags for its inside. -/
  | opening (name : Option String) (change : FlagChange)
  | closing
  | bar
  | repeated (least : Nat) (most : Option Nat)
  /-- Flags for the rest of the group. -/
  | flags (change : FlagChange)

namespace Token

/-- What a reader of a part of a pattern returns: the part and the rest. -/
abbrev Scan (Part : Type) := List Char → Option (Part × List Char)

/-! ### Escapes -/

/-- What a backslash and the characters after it stand for. -/
inductive Escaped where
  | literal (character : Char)
  | characters (set : CharSet)
  | check (assertion : Assertion)

/-- May a backslash stand before the character without changing what it stands for? -/
def isEscapable (character : Char) : Bool :=
  character.val < 128 && !character.isAlphanum && character != '<' && character != '>'

/-- The value of a hexadecimal digit. -/
def hexDigit? (character : Char) : Option Nat :=
  if character.isDigit then some (character.toNat - 48)
  else if 'a' ≤ character ∧ character ≤ 'f' then some (character.toNat - 87)
  else if 'A' ≤ character ∧ character ≤ 'F' then some (character.toNat - 55)
  else none

/-- The character whose number is written in hexadecimal digits. -/
def hexCharacter? (digits : List Char) : Option Char := do
  let values ← digits.mapM hexDigit?
  let number := values.foldl (fun number value => number * 16 + value) 0
  if !digits.isEmpty ∧ number.isValidChar then some (Char.ofNat number) else none

/-- The number of a character: so many digits, or any number of digits in braces. -/
def hexEscape (count : Nat) : Scan Escaped
  | '{' :: rest =>
    let digits := rest.takeWhile (· != '}')
    match rest.drop digits.length with
    | _ :: rest => (hexCharacter? digits).map fun character => (.literal character, rest)
    | [] => none
  | rest =>
    if (rest.take count).length = count then
      (hexCharacter? (rest.take count)).map fun character => (.literal character, rest.drop count)
    else none

/-- A letter or a hyphen, of which the names of word boundaries are made. -/
def isBoundaryCharacter (character : Char) : Bool :=
  character.isAlpha || character == '-'

/-- The word boundaries that have names. -/
def boundaries : List (String × Assertion) := [
  ("start", .wordStart), ("end", .wordEnd), ("start-half", .wordStartHalf),
  ("end-half", .wordEndHalf)]

/-- A word boundary, with a name in braces or without. Braces without a letter belong to a
repetition of the boundary. -/
def boundaryEscape : Scan Escaped
  | '{' :: [] => none
  | '{' :: first :: rest =>
    if isBoundaryCharacter first then
      let name := (first :: rest).takeWhile isBoundaryCharacter
      match (first :: rest).drop name.length with
      | '}' :: rest =>
        (boundaries.find? (·.1 == String.ofList name)).map fun (_, assertion) =>
          (.check assertion, rest)
      | _ => none
    else some (.check .wordBoundary, '{' :: first :: rest)
  | rest => some (.check .wordBoundary, rest)

/-- What follows a backslash. -/
def escape : Scan Escaped
  | [] => none
  | 'd' :: rest => some (.characters .digit, rest)
  | 'D' :: rest => some (.characters (.complement .digit), rest)
  | 's' :: rest => some (.characters .blank, rest)
  | 'S' :: rest => some (.characters (.complement .blank), rest)
  | 'w' :: rest => some (.characters .word, rest)
  | 'W' :: rest => some (.characters (.complement .word), rest)
  | 'a' :: rest => some (.literal '\x07', rest)
  | 'f' :: rest => some (.literal '\x0c', rest)
  | 't' :: rest => some (.literal '\t', rest)
  | 'n' :: rest => some (.literal '\n', rest)
  | 'r' :: rest => some (.literal '\r', rest)
  | 'v' :: rest => some (.literal '\x0b', rest)
  | 'x' :: rest => hexEscape 2 rest
  | 'u' :: rest => hexEscape 4 rest
  | 'U' :: rest => hexEscape 8 rest
  | 'A' :: rest => some (.check .textStart, rest)
  | 'z' :: rest => some (.check .textEnd, rest)
  | 'b' :: rest => boundaryEscape rest
  | 'B' :: rest => some (.check .noWordBoundary, rest)
  | '<' :: rest => some (.check .wordStart, rest)
  | '>' :: rest => some (.check .wordEnd, rest)
  | character :: rest =>
    if isEscapable character then some (.literal character, rest) else none

/-! ### Sets in brackets -/

/-- The sets that have names, all of them ASCII. -/
def namedSets : List (String × List (Char × Char)) := [
  ("alnum", [('0', '9'), ('A', 'Z'), ('a', 'z')]),
  ("alpha", [('A', 'Z'), ('a', 'z')]),
  ("ascii", [('\x00', '\x7f')]),
  ("blank", [('\t', '\t'), (' ', ' ')]),
  ("cntrl", [('\x00', '\x1f'), ('\x7f', '\x7f')]),
  ("digit", [('0', '9')]),
  ("graph", [('!', '~')]),
  ("lower", [('a', 'z')]),
  ("print", [(' ', '~')]),
  ("punct", [('!', '/'), (':', '@'), ('[', '`'), ('{', '~')]),
  ("space", [('\t', '\r'), (' ', ' ')]),
  ("upper", [('A', 'Z')]),
  ("word", [('0', '9'), ('A', 'Z'), ('_', '_'), ('a', 'z')]),
  ("xdigit", [('0', '9'), ('A', 'F'), ('a', 'f')])]

/-- A named set, from the opening bracket of the name. -/
def namedSet : Scan SetText
  | '[' :: ':' :: rest =>
    let (isNegated, rest) := match rest with
      | '^' :: rest => (true, rest)
      | _ => (false, rest)
    let name := rest.takeWhile (· != ':')
    match rest.drop name.length, namedSets.find? (·.1 == String.ofList name) with
    | ':' :: ']' :: rest, some (_, ranges) =>
      some (.bracket isNegated (.plain (.ofList (ranges.map fun (first, last) =>
        .range first last))), rest)
    | _, _ => none
  | _ => none

/-- An item of a set: a character, which may begin a range, or a set. -/
def setItem : Scan (Char ⊕ CharSet)
  | [] => none
  | '\\' :: rest => match escape rest with
    | some (.literal character, rest) => some (.inl character, rest)
    | some (.characters set, rest) => some (.inr set, rest)
    | _ => none
  | character :: rest => some (.inl character, rest)

/-- An item or a range. A hyphen makes no range in front of a closing bracket or another hyphen. -/
def setRange : Scan SetText := fun text => do
  let (item, rest) ← setItem text
  let alone : SetText := match item with
    | .inl character => .plain (.single character)
    | .inr set => .plain set
  match rest with
  | [] => none
  | '-' :: after =>
    if after.head? = some ']' ∨ after.head? = some '-' then return (alone, rest)
    else
      let (last, rest) ← setItem after
      match item, last with
      | .inl first, .inl last =>
        if first ≤ last then some (.plain (.range first last), rest) else none
      | _, _ => none
  | _ => return (alone, rest)

/-- A bracket that is open: either the set it will be part of, or the left side of an operation. -/
inductive SetFrame where
  | opened (isNegated : Bool) (outer : List SetText)
  | operated (operation : SetOperation) (first : SetText)

/-- The union of the items of a set, which are given last first. -/
def unionOf (items : List SetText) : SetText :=
  items.foldl (fun set item => .union item set) (.plain .none)

/-- Carry out the operation whose right side has ended, if there is one. -/
def closeOperation (set : SetText) : List SetFrame → SetText × List SetFrame
  | .operated operation first :: stack => (.combine operation first set, stack)
  | stack => (set, stack)

/-- What stands directly behind an opening bracket: a negation, hyphens, and a closing bracket that
does not close. -/
def setOpening (text : List Char) : Option ((Bool × List SetText) × List Char) :=
  let (isNegated, rest) := match text with
    | '^' :: rest => (true, rest)
    | _ => (false, text)
  let hyphens := rest.takeWhile (· == '-')
  let rest := rest.drop hyphens.length
  let items : List SetText := hyphens.map fun _ => .plain (.single '-')
  match rest with
  | [] => none
  | character :: after =>
    if items.isEmpty && character == ']' then some ((isNegated, [.plain (.single ']')]), after)
    else some ((isNegated, items), rest)

/-- The operation that two characters write. -/
def operation? : List Char → Option (SetOperation × List Char)
  | '&' :: '&' :: rest => some (.intersection, rest)
  | '-' :: '-' :: rest => some (.difference, rest)
  | '~' :: '~' :: rest => some (.exclusive, rest)
  | _ => none

/-- The rest of a set, given the brackets that are open and the items so far, last first. Every
step takes a character, so there need not be more steps than characters. -/
def setRest : Nat → List SetFrame → List SetText → Scan SetText
  | 0, _, _, _ => none
  | _ + 1, _, _, [] => none
  | fuel + 1, stack, items, text@(character :: rest) =>
    if character == '[' then
      match namedSet text with
      | some (set, rest) => setRest fuel stack (set :: items) rest
      | none => match setOpening rest with
        | some ((isNegated, inner), rest) =>
          setRest fuel (.opened isNegated items :: stack) inner rest
        | none => none
    else if character == ']' then
      let (set, stack) := closeOperation (unionOf items) stack
      match stack with
      | [.opened isNegated _] => some (.bracket isNegated set, rest)
      | .opened isNegated outer :: stack =>
        setRest fuel stack (.bracket isNegated set :: outer) rest
      | _ => none
    else match operation? text with
      | some (operation, rest) =>
        let (first, stack) := closeOperation (unionOf items) stack
        setRest fuel (.operated operation first :: stack) [] rest
      | none => match setRange text with
        | some (item, rest) => setRest fuel stack (item :: items) rest
        | none => none

/-- A set, from behind its opening bracket. -/
def bracketSet : Scan SetText := fun text => do
  let ((isNegated, items), rest) ← setOpening text
  setRest text.length [.opened isNegated []] items rest

/-! ### Repetitions -/

/-- One more than the largest count. -/
def countBound : Nat := UInt32.size

/-- A count, with blanks around it. -/
def count : Scan Nat := fun text =>
  let text := text.dropWhile Text.isBlank
  let digits := text.takeWhile (·.isDigit)
  let number := digits.foldl (fun number digit => number * 10 + (digit.toNat - 48)) 0
  if !digits.isEmpty ∧ number < countBound then
    some (number, (text.drop digits.length).dropWhile Text.isBlank)
  else none

/-- A mark behind a repetition that it shall take as little as it can. -/
def skipLazy : List Char → List Char
  | '?' :: rest => rest
  | rest => rest

/-- A repetition, from behind its opening brace. -/
def countedRepetition : Scan Token := fun text => do
  let (least, rest) ← count text
  match rest with
  | '}' :: rest => return (.repeated least (some least), skipLazy rest)
  | ',' :: '}' :: rest => return (.repeated least none, skipLazy rest)
  | ',' :: rest =>
    let (most, rest) ← count rest
    match rest with
    | '}' :: rest =>
      if least ≤ most then return (.repeated least (some most), skipLazy rest) else none
    | _ => none
  | _ => none

/-! ### Groups -/

/-- The flag that a letter stands for. -/
def flag? : Char → Option Flag
  | 'i' => some .ignoreCase
  | 'm' => some .multiLine
  | 's' => some .dotAll
  | 'U' => some .swapGreed
  | 'u' => some .allScripts
  | _ => none

/-- Flags up to the character behind them. A hyphen stands before those that are switched off; no
flag may be repeated, and the hyphen may be neither repeated nor the last. -/
def flagsUntil (isOff isDangling : Bool) (change : FlagChange) :
    List Char → Option (FlagChange × Char × List Char)
  | [] => none
  | character :: rest =>
    if character == ':' || character == ')' then
      if isDangling || change.contains (.allScripts, false) then none
      else some (change.reverse, character, rest)
    else if character == '-' then
      if isOff then none else flagsUntil true true change rest
    else match flag? character with
      | some flag =>
        if change.any (·.1 == flag) then none
        else flagsUntil isOff false ((flag, !isOff) :: change) rest
      | none => none

/-- May a character begin the name of a group? -/
def beginsName (character : Char) : Bool :=
  character == '_' || Text.isAlphabetic character

/-- May a character stand in the name of a group? -/
def isInName (character : Char) : Bool :=
  character == '_' || character == '.' || character == '[' || character == ']' ||
    Text.isAlphanumeric character

/-- A group with a name, from behind the angle bracket before the name. -/
def namedGroup : Scan Token := fun text =>
  let name := text.takeWhile (· != '>')
  match name, text.drop name.length with
  | first :: others, _ :: rest =>
    if beginsName first && others.all isInName then
      some (.opening (some (String.ofList name)) [], rest)
    else none
  | _, _ => none

/-- A group or flags, from behind the opening parenthesis. -/
def group : Scan Token
  | '?' :: '=' :: _ => none
  | '?' :: '!' :: _ => none
  | '?' :: '<' :: '=' :: _ => none
  | '?' :: '<' :: '!' :: _ => none
  | '?' :: 'P' :: '<' :: rest => namedGroup rest
  | '?' :: '<' :: rest => namedGroup rest
  | '?' :: rest => match flagsUntil false false [] rest with
    | some (change, ':', rest) => some (.opening none change, rest)
    | some ([], _, _) => none
    | some (change, _, rest) => some (.flags change, rest)
    | none => none
  | rest => some (.opening none [], rest)

/-! ### Whole patterns -/

/-- The first token of a text. -/
def next : Scan Token
  | [] => none
  | '(' :: rest => group rest
  | ')' :: rest => some (.closing, rest)
  | '|' :: rest => some (.bar, rest)
  | '[' :: rest => (bracketSet rest).map fun (set, rest) => (.brackets set, rest)
  | '?' :: rest => some (.repeated 0 (some 1), skipLazy rest)
  | '*' :: rest => some (.repeated 0 none, skipLazy rest)
  | '+' :: rest => some (.repeated 1 none, skipLazy rest)
  | '{' :: rest => countedRepetition rest
  | '.' :: rest => some (.dot, rest)
  | '^' :: rest => some (.caret, rest)
  | '$' :: rest => some (.dollar, rest)
  | '\\' :: rest => match escape rest with
    | some (.literal character, rest) => some (.literal character, rest)
    | some (.characters set, rest) => some (.characters set, rest)
    | some (.check assertion, rest) => some (.check assertion, rest)
    | none => none
  | character :: rest => some (.literal character, rest)

/-- The tokens of a text. Every token takes a character, so there are no more tokens than
characters. -/
def all : Nat → List Char → Option (List Token)
  | _, [] => some []
  | 0, _ :: _ => none
  | fuel + 1, text => do
    let (token, rest) ← next text
    let tokens ← all fuel rest
    return token :: tokens

/-- The tokens of a pattern, if it is well formed. -/
def scan? (pattern : String) : Option (List Token) :=
  all pattern.length pattern.toList

end Token

end Triage.Pattern
